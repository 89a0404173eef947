import Melibea.Coalescing

/-! What the executor gives back when it is emptied with nothing ingested in between. -/

namespace Melibea

open Std Library OrderedMap

namespace PendingResizes

def Stamped (self : PendingResizes) : Prop :=
  ∀ (id : WindowId) (action : ResizeAction), (self.slot id).value = some action →
    action.windowId = id ∧ (self.slot id).stamp = some action.generation

lemma Stamped.keyed {self : PendingResizes} (h : self.Stamped) : self.Keyed :=
  fun id action ha => (h id action ha).1

lemma Stamped.ingestDecision {self : PendingResizes} (h : self.Stamped) (generation : UInt64)
    (decision : FocusDecision) : (self.ingestDecision generation decision).Stamped := by
  intro id action ha
  rw [slot_ingestDecision] at ha ⊢
  split_ifs at ha ⊢ with hid
  · rw [Register.write] at ha ⊢
    split_ifs at ha ⊢
    · exact h id action ha
    · obtain ⟨_, _, _, rfl⟩ := action_eq_some.mp ha
      exact ⟨hid, rfl⟩
  · exact h id action ha

lemma Stamped.ingest {self : PendingResizes} (h : self.Stamped) (transition : FocusTransition) :
    (self.ingest transition).Stamped := by
  rw [PendingResizes.ingest]
  induction transition.decisions generalizing self with
  | nil => exact h
  | cons decision decisions ih => exact ih (h.ingestDecision transition.generation decision)

lemma slot_popNext_stamp (self : PendingResizes) (id : WindowId) :
    (self.popNext.2.slot id).stamp = (self.slot id).stamp := by
  rw [slot, latestGeneration_popNext]
  rfl

lemma Stamped.call {self : PendingResizes} (h : self.Stamped) (c : Call) :
    (self.call c).2.Stamped := by
  cases c with
  | ingest transition => exact h.ingest transition
  | popNext =>
    intro id action ha
    obtain ⟨hid, hs⟩ := h id action (pending_popNext h.keyed ha)
    exact ⟨hid, (slot_popNext_stamp self id).trans hs⟩
  | forgetWindow windowId =>
    intro id action ha
    simp only [PendingResizes.call, slot_forgetWindow] at ha ⊢
    split_ifs at ha ⊢
    · cases ha
    · exact h id action ha
  | reset =>
    intro id action ha
    simp only [PendingResizes.call, slot_reset] at ha
    cases ha

lemma stamped_after (calls : List Call) : (after calls).Stamped := by
  refine Machine.run_invariant call (fun s c h => h.call c) ?_ calls
  intro id action ha
  rw [slot_default] at ha
  cases ha

lemma priority_le {a b : ResizeAction} (h : priority b ≤ priority a) :
    b.generation ≤ a.generation ∧
      (b.generation = a.generation → b.state = .focused → a.state = .focused) := by
  rcases Prod.Lex.toLex_le_toLex.mp h with hlt | ⟨heq, hle⟩
  · exact ⟨hlt.le, fun he => absurd he hlt.ne⟩
  · exact ⟨heq.le, fun _ hf => by simpa [hf, Bool.le_iff_imp] using hle⟩

def Remembers (self : PendingResizes) (id : WindowId) (generation : UInt64) : Prop :=
  ∃ latest ∈ (self.slot id).stamp, generation ≤ latest

lemma Remembers.ingest {self : PendingResizes} {id : WindowId} {generation : UInt64}
    (h : self.Remembers id generation) (transition : FocusTransition) :
    (self.ingest transition).Remembers id generation := by
  rw [Remembers, slot_ingest]
  induction transition.decisions.filter (·.windowId = id) using List.reverseRecOn with
  | nil => exact h
  | append_singleton decisions decision ih =>
    rw [List.foldl_append]
    exact Register.le_stamp_write ih _ _

lemma Remembers.call {self : PendingResizes} {id : WindowId} {generation : UInt64}
    (h : self.Remembers id generation) {c : Call} (hreset : c ≠ .reset)
    (hforget : c ≠ .forgetWindow id) : (self.call c).2.Remembers id generation := by
  cases c with
  | ingest transition => exact h.ingest transition
  | popNext =>
    rw [Remembers, PendingResizes.call, slot_popNext_stamp]
    exact h
  | forgetWindow windowId =>
    have hne : windowId ≠ id := fun he => hforget (he ▸ rfl)
    rw [Remembers, PendingResizes.call, slot_forgetWindow, if_neg hne]
    exact h
  | reset => exact absurd rfl hreset

lemma Remembers.run {self : PendingResizes} {id : WindowId} {generation : UInt64}
    (h : self.Remembers id generation) {more : List Call}
    (hmore : ∀ c ∈ more, c ≠ .reset ∧ c ≠ .forgetWindow id) :
    (Machine.run PendingResizes.call self more).Remembers id generation := by
  induction more generalizing self with
  | nil => exact h
  | cons c more ih =>
    obtain ⟨hreset, hforget⟩ := hmore c List.mem_cons_self
    exact ih (h.call hreset hforget) fun d hd => hmore d (List.mem_cons_of_mem c hd)

lemma Remembers.ingest_stale {self : PendingResizes} {id : WindowId} {generation : UInt64}
    (h : self.Remembers id generation) {transition : FocusTransition}
    (hg : transition.generation < generation) :
    (self.ingest transition).slot id = self.slot id := by
  obtain ⟨latest, hl, hle⟩ := h
  have hstale : ∃ latest ∈ (self.slot id).stamp, transition.generation < latest :=
    ⟨latest, hl, hg.trans_le hle⟩
  rw [slot_ingest]
  induction transition.decisions.filter (·.windowId = id) with
  | nil => rfl
  | cons decision decisions ih => rw [List.foldl_cons, Register.write_of_lt hstale, ih]

lemma latestGeneration_run_popNext (self : PendingResizes) (n : ℕ) :
    (Machine.run call self (List.replicate n .popNext)).latestGeneration =
      self.latestGeneration := by
  induction n generalizing self with
  | zero => rfl
  | succ n ih =>
    rw [List.replicate_succ, Machine.run_cons, ih]
    exact latestGeneration_popNext self

/-- Draining is complete, ordered by generation with the focused window first, and forgets no
generation. -/
theorem drains_in_order (calls : List Call) : ∃ actions : List ResizeAction,
    actions.length = (after calls).pending.size ∧
    (∀ n : ℕ, Machine.outputs call (after calls) (List.replicate n .popNext) =
      (actions.take n).map some ++ List.replicate (n - actions.length) none) ∧
    (∀ (id : WindowId) (action : ResizeAction), (after calls).pending[id]? = some action ↔
      action ∈ actions ∧ action.windowId = id) ∧
    (actions.map (·.windowId)).Nodup ∧
    actions.Pairwise (fun earlier later => later.generation ≤ earlier.generation ∧
      (later.generation = earlier.generation → later.state = .focused →
        earlier.state = .focused)) ∧
    (∀ n : ℕ, (after (calls ++ List.replicate n .popNext)).latestGeneration =
      (after calls).latestGeneration) ∧
    (∀ (n : ℕ) (more : List Call) (action : ResizeAction) (t : FocusTransition),
      action ∈ actions → (∀ c ∈ more, c ≠ .reset ∧ c ≠ .forgetWindow action.windowId) →
        t.generation < action.generation →
          ((after (calls ++ List.replicate n .popNext ++ more)).ingest t).slot action.windowId =
            (after (calls ++ List.replicate n .popNext ++ more)).slot action.windowId) := by
  have hs := stamped_after calls
  obtain ⟨actions, hperm, hsorted, hout⟩ := popNext_extraction.outputs_replicate hs.keyed
  have hget : ∀ action ∈ actions,
      (after calls).pending[action.windowId]? = some action := fun action ha => by
    obtain ⟨id, ho⟩ := mem_values.mp (hperm.mem_iff.mp ha)
    rwa [hs.keyed id action ho]
  refine ⟨actions, ?_, hout, fun id action => ⟨fun ho => ?_, ?_⟩, ?_, hsorted.imp priority_le,
    fun n => ?_, fun n more action t ha hmore hg => ?_⟩
  · rw [hperm.length_eq, length_values]
  · exact ⟨hperm.mem_iff.mpr (mem_values.mpr ⟨id, ho⟩), hs.keyed id action ho⟩
  · rintro ⟨ha, rfl⟩
    exact hget action ha
  · exact ((hperm.map _).nodup_iff).mpr (nodup_map_values hs.keyed)
  · rw [after, Machine.run_append]
    exact latestGeneration_run_popNext _ n
  · obtain ⟨_, hstamp⟩ := hs _ action (hget action ha)
    have hpending : (after calls).Remembers action.windowId action.generation :=
      ⟨_, hstamp, le_rfl⟩
    have hpops : ∀ c ∈ List.replicate n Call.popNext,
        c ≠ .reset ∧ c ≠ .forgetWindow action.windowId := by
      intro c hc
      obtain rfl := List.eq_of_mem_replicate hc
      exact ⟨by simp, by simp⟩
    have hlater := (hpending.run hpops).run hmore
    rw [← Machine.run_append, ← Machine.run_append, ← List.append_assoc] at hlater
    exact hlater.ingest_stale hg

theorem drains_in_order_focused_first :
    let resize (id : WindowId) (state : FocusState) : FocusDecision :=
      ⟨id, state, .resize 0 .half⟩
    let calls : List Call :=
      [.ingest ⟨3, none, some 20, [resize 10 .unfocused, resize 20 .focused]⟩]
    let stale : FocusTransition := ⟨2, none, some 10, [resize 20 .unfocused]⟩
    Machine.outputs call (after calls) (List.replicate 3 .popNext) =
        [some ⟨3, 20, .focused, .half⟩, some ⟨3, 10, .unfocused, .half⟩, none] ∧
      ((after (calls ++ List.replicate 1 .popNext ++ [])).ingest stale).slot 20 =
        (after (calls ++ List.replicate 1 .popNext ++ [])).slot 20 := by
  intro resize calls stale
  refine ⟨by decide +kernel, ?_⟩
  obtain ⟨actions, _, _, hiff, _, _, _, hstale⟩ := drains_in_order calls
  have hget : (after calls).pending[(20 : WindowId)]? = some ⟨3, 20, .focused, .half⟩ := by
    decide +kernel
  exact hstale 1 [] _ stale ((hiff 20 _).mp hget).1 (by simp) (by decide)

end PendingResizes

end Melibea
