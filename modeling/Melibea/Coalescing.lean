import Melibea.Executor
import Melibea.Library.Extraction
import Melibea.Library.KeyedList
import Mathlib.Data.List.ReduceOption

/-! What the executor holds after any sequence of calls, against the decisions it was given. -/

namespace Melibea

open Std Library OrderedMap

namespace PendingResizes

inductive Call
  | ingest (transition : FocusTransition)
  | popNext
  | forgetWindow (windowId : WindowId)
  | reset

def call (self : PendingResizes) : Call → Option ResizeAction × PendingResizes
  | .ingest transition => (none, self.ingest transition)
  | .popNext => self.popNext
  | .forgetWindow windowId => (none, self.forgetWindow windowId)
  | .reset => (none, self.reset)

abbrev after (calls : List Call) : PendingResizes := Machine.run call default calls

def popped (calls : List Call) : List ResizeAction :=
  (Machine.outputs call default calls).reduceOption

def transitions (calls : List Call) : List FocusTransition :=
  calls.filterMap fun
    | .ingest transition => some transition
    | _ => none

structure Distinct (calls : List Call) : Prop where
  generations : ((transitions calls).map (·.generation)).Nodup
  windows : ∀ t ∈ transitions calls, (t.decisions.map (·.windowId)).Nodup

def hear (id : WindowId) (heard : List (UInt64 × FocusDecision)) :
    Call → List (UInt64 × FocusDecision)
  | .ingest transition =>
    heard ++ (transition.decisions.filter (·.windowId = id)).map (transition.generation, ·)
  | .popNext => heard
  | .forgetWindow windowId => if windowId = id then [] else heard
  | .reset => []

def decisionsFor (calls : List Call) (id : WindowId) : List (UInt64 × FocusDecision) :=
  calls.foldl (hear id) []

def effective (calls : List Call) (id : WindowId) : Option (UInt64 × FocusDecision) :=
  Register.latest (decisionsFor calls id)

def Popped (calls : List Call) (id : WindowId) (generation : UInt64) : Prop :=
  ∃ action ∈ popped calls, action.windowId = id ∧ action.generation = generation

instance (calls : List Call) (id : WindowId) (generation : UInt64) :
    Decidable (Popped calls id generation) :=
  inferInstanceAs (Decidable (∃ _ ∈ _, _))

variable {calls : List Call} {id : WindowId}

lemma transitions_concat (calls : List Call) (c : Call) :
    transitions (calls ++ [c]) = transitions calls ++ transitions [c] :=
  List.filterMap_append

lemma popped_concat (calls : List Call) (c : Call) :
    popped (calls ++ [c]) = popped calls ++ ((after calls).call c).1.toList := by
  rw [popped, Machine.outputs_append, List.reduceOption_append]
  rfl

lemma decisionsFor_concat (calls : List Call) (c : Call) (id : WindowId) :
    decisionsFor (calls ++ [c]) id = hear id (decisionsFor calls id) c := by
  simp [decisionsFor]

lemma Distinct.of_append {more : List Call} (h : Distinct (calls ++ more)) : Distinct calls := by
  have ht : transitions (calls ++ more) = transitions calls ++ transitions more :=
    List.filterMap_append
  refine ⟨?_, fun t hm => h.windows t ?_⟩
  · have hg := h.generations
    rw [ht, List.map_append] at hg
    exact (List.nodup_append.mp hg).1
  · rw [ht]
    exact List.mem_append_left _ hm

lemma Distinct.fresh {t u : FocusTransition} (h : Distinct (calls ++ [.ingest t]))
    (hu : u ∈ transitions calls) : u.generation ≠ t.generation := by
  have hg := h.generations
  rw [transitions_concat, List.map_append, List.nodup_append] at hg
  exact hg.2.2 _ (List.mem_map_of_mem hu) _ (by simp [transitions])

lemma mem_decisionsFor {g : UInt64} {d : FocusDecision} (h : (g, d) ∈ decisionsFor calls id) :
    d.windowId = id ∧ ∃ t ∈ transitions calls, t.generation = g ∧ d ∈ t.decisions := by
  induction calls using List.reverseRecOn with
  | nil => simp [decisionsFor] at h
  | append_singleton calls c ih =>
    rw [decisionsFor_concat] at h
    have hmono : ∀ t ∈ transitions calls, t ∈ transitions (calls ++ [c]) := fun t ht => by
      rw [transitions_concat]
      exact List.mem_append_left _ ht
    have hold : (g, d) ∈ decisionsFor calls id → d.windowId = id ∧
        ∃ t ∈ transitions (calls ++ [c]), t.generation = g ∧ d ∈ t.decisions := fun hm =>
      ⟨(ih hm).1, (ih hm).2.imp fun t ht => ⟨hmono t ht.1, ht.2⟩⟩
    cases c with
    | ingest t =>
      rcases List.mem_append.mp h with h | h
      · exact hold h
      · obtain ⟨d', hd, he⟩ := List.mem_map.mp h
        obtain ⟨rfl, rfl⟩ := Prod.mk.inj he
        have hf := List.mem_filter.mp hd
        exact ⟨by simpa using hf.2, t, by simp [transitions], rfl, hf.1⟩
    | popNext => exact hold h
    | forgetWindow w =>
      rw [hear] at h
      split_ifs at h
      · simp at h
      · exact hold h
    | reset => simp [hear] at h

lemma mem_of_effective {g : UInt64} {d : FocusDecision} (h : effective calls id = some (g, d)) :
    d.windowId = id ∧ ∃ t ∈ transitions calls, t.generation = g ∧ d ∈ t.decisions :=
  mem_decisionsFor (Register.mem_of_latest h)

lemma transitions_ingest (calls : List Call) (t : FocusTransition) :
    transitions (calls ++ [.ingest t]) = transitions calls ++ [t] := by
  rw [transitions_concat]
  rfl

lemma popped_of_ne_popNext {c : Call} (hc : c ≠ .popNext) : popped (calls ++ [c]) = popped calls := by
  rw [popped_concat]
  cases c with
  | popNext => exact absurd rfl hc
  | _ => exact List.append_nil _

lemma Distinct.decision {t : FocusTransition} (h : Distinct (calls ++ [.ingest t]))
    (id : WindowId) :
    (t.decisions.filter (·.windowId = id) = [] ∧
      effective (calls ++ [.ingest t]) id = effective calls id) ∨
    ∃ d, t.decisions.filter (·.windowId = id) = [d] ∧
      effective (calls ++ [.ingest t]) id =
        if ∃ latest ∈ (effective calls id).map Prod.fst, t.generation < latest then
          effective calls id
        else some (t.generation, d) := by
  have ht : t ∈ transitions (calls ++ [.ingest t]) := by simp [transitions_ingest]
  simp only [effective, decisionsFor_concat, hear]
  rcases KeyedList.filter_eq_nil_or_singleton (h.windows t ht) id with hf | ⟨d, hf⟩
  · exact .inl ⟨hf, by rw [hf, List.map_nil, List.append_nil]⟩
  · refine .inr ⟨d, hf, ?_⟩
    have hfresh : ∀ w ∈ decisionsFor calls id, w.1 ≠ t.generation := by
      rintro ⟨g, d'⟩ hg
      obtain ⟨u, hu, rfl, _⟩ := (mem_decisionsFor hg).2
      exact h.fresh hu
    rw [hf, List.map_singleton, Register.latest_concat hfresh]
    congr

lemma effective_of_concat {c : Call} (h : Distinct (calls ++ [c])) {t : FocusTransition}
    (ht : t ∈ transitions calls) {d : FocusDecision}
    (he : effective (calls ++ [c]) id = some (t.generation, d)) :
    effective calls id = some (t.generation, d) := by
  cases c with
  | ingest u =>
    rcases h.decision id with ⟨_, hd⟩ | ⟨d', _, hd⟩
    · rw [← hd, he]
    · rw [hd] at he
      split_ifs at he
      · exact he
      · obtain ⟨hg, _⟩ := Prod.mk.inj (Option.some.inj he)
        exact absurd hg.symm (h.fresh ht)
  | popNext => simpa [effective, decisionsFor_concat, hear] using he
  | forgetWindow w =>
    simp only [effective, decisionsFor_concat, hear] at he
    split_ifs at he
    · cases he
    · exact he
  | reset =>
    simp only [effective, decisionsFor_concat, hear] at he
    cases he

lemma effective_popNext (calls : List Call) (id : WindowId) :
    effective (calls ++ [.popNext]) id = effective calls id := by
  rw [effective, decisionsFor_concat]
  rfl

/-- The register of a window holds its effective decision, emptied once it is popped, and only
ingested generations are popped. -/
structure Holds (calls : List Call) : Prop where
  slot (id : WindowId) : (after calls).slot id =
    ⟨(effective calls id).map Prod.fst, (effective calls id).bind fun e =>
      if Popped calls id e.1 then none else e.2.action e.1⟩
  heard : ∀ action ∈ popped calls, ∃ t ∈ transitions calls, t.generation = action.generation

lemma action_eq_some {d : FocusDecision} {g : UInt64} {action : ResizeAction} :
    d.action g = some action ↔ ∃ index width, d.outcome = .resize index width ∧
      action = ⟨g, d.windowId, d.state, width⟩ := by
  cases ho : d.outcome with
  | resize index width => simp [FocusDecision.action, ho, eq_comm]
  | _ => simp [FocusDecision.action, ho]

lemma Holds.pending (h : Holds calls) (id : WindowId) (action : ResizeAction) :
    (after calls).pending[id]? = some action ↔ ∃ g d, effective calls id = some (g, d) ∧
      ¬ Popped calls id g ∧ d.action g = some action := by
  have hv := congrArg Register.value (h.slot id)
  simp only [PendingResizes.slot] at hv
  rw [hv]
  cases he : effective calls id with
  | none => simp
  | some e =>
    by_cases hp : Popped calls id e.1
    · simp only [Option.bind_some, if_pos hp, reduceCtorEq, Option.some.injEq, false_iff]
      rintro ⟨g, d, rfl, hn, _⟩
      exact hn hp
    · simp only [Option.bind_some, if_neg hp, Option.some.injEq]
      exact ⟨fun ha => ⟨_, _, rfl, hp, ha⟩, by rintro ⟨g, d, rfl, _, ha⟩; exact ha⟩

lemma Holds.keyed (h : Holds calls) : (after calls).Keyed := by
  intro id action ha
  obtain ⟨g, d, he, _, hd⟩ := (h.pending id action).mp ha
  obtain ⟨_, _, _, rfl⟩ := action_eq_some.mp hd
  exact (mem_of_effective he).1

lemma Holds.ingest (h : Holds calls) {t : FocusTransition}
    (hd : Distinct (calls ++ [.ingest t])) : Holds (calls ++ [.ingest t]) := by
  have hpop : popped (calls ++ [.ingest t]) = popped calls := popped_of_ne_popNext (by simp)
  have hrun : after (calls ++ [.ingest t]) = (after calls).ingest t := by simp [call]
  have hiff : ∀ id generation, Popped (calls ++ [.ingest t]) id generation ↔
      Popped calls id generation := by simp [Popped, hpop]
  have hnew : ∀ id, ¬ Popped calls id t.generation := by
    rintro id ⟨action, ha, _, hg⟩
    obtain ⟨u, hu, he⟩ := h.heard action ha
    exact hd.fresh hu (he.trans hg)
  constructor
  · intro id
    have hs := h.slot id
    rw [hrun, slot_ingest]
    rcases hd.decision id with ⟨hf, he⟩ | ⟨d, hf, he⟩
    · simp only [hf, he, List.foldl_nil, hs, hiff]
    · simp only [hf, he, List.foldl_cons, List.foldl_nil, Register.write, hs, hiff]
      split_ifs with hlt
      · rfl
      · simp [hnew id]
  · intro action ha
    rw [hpop] at ha
    obtain ⟨u, hu, he⟩ := h.heard action ha
    exact ⟨u, by simp [transitions_ingest, hu], he⟩

lemma Holds.popNext (h : Holds calls) : Holds (calls ++ [.popNext]) := by
  have htr : transitions (calls ++ [.popNext]) = transitions calls := by
    simp [transitions]
  rcases popNext_cases h.keyed with ⟨_, hpop⟩ | ⟨action, hpop, hget, _, hslot⟩
  · have hp : popped (calls ++ [.popNext]) = popped calls := by
      simp [popped_concat, call, hpop]
    have hrun : after (calls ++ [.popNext]) = after calls := by simp [call, hpop]
    constructor
    · intro id
      have hiff : ∀ generation, Popped (calls ++ [.popNext]) id generation ↔
          Popped calls id generation := by simp [Popped, hp]
      simp only [hrun, effective_popNext, hiff]
      exact h.slot id
    · rw [hp, htr]
      exact h.heard
  · have hp : popped (calls ++ [.popNext]) = popped calls ++ [action] := by
      simp [popped_concat, call, hpop]
    have hrun : after (calls ++ [.popNext]) = (after calls).popNext.2 := by simp [call]
    obtain ⟨g, d, he, _, hda⟩ := (h.pending _ _).mp hget
    obtain ⟨_, t, ht, hg, _⟩ := mem_of_effective he
    have hag : action.generation = g := by
      obtain ⟨_, _, _, rfl⟩ := action_eq_some.mp hda
      rfl
    have hiff : ∀ id generation, Popped (calls ++ [.popNext]) id generation ↔
        Popped calls id generation ∨
          action.windowId = id ∧ action.generation = generation := by
      simp [Popped, hp, or_and_right, exists_or]
    constructor
    · intro id
      rw [hrun, hslot, effective_popNext, h.slot]
      split_ifs with hid
      · subst hid
        simp [he, Register.take, hiff, hag]
      · simp [hiff, hid]
    · intro other ho
      rw [hp] at ho
      rw [htr]
      rcases List.mem_append.mp ho with ho | ho
      · exact h.heard other ho
      · obtain rfl := List.mem_singleton.mp ho
        exact ⟨t, ht, hg.trans hag.symm⟩

lemma Holds.cleared (h : Holds calls) {c : Call} (hc : (∃ w, c = .forgetWindow w) ∨ c = .reset) :
    Holds (calls ++ [c]) := by
  have hpop : popped (calls ++ [c]) = popped calls :=
    popped_of_ne_popNext (by rintro rfl; simp at hc)
  have htr : transitions (calls ++ [c]) = transitions calls := by
    obtain ⟨w, rfl⟩ | rfl := hc <;> simp [transitions]
  constructor
  · intro id
    have hs := h.slot id
    obtain ⟨w, rfl⟩ | rfl := hc
    · have hiff : ∀ generation, Popped (calls ++ [.forgetWindow w]) id generation ↔
          Popped calls id generation := by simp [Popped, hpop]
      simp only [Machine.run_append, Machine.run_cons, Machine.run_nil, call, slot_forgetWindow,
        effective, decisionsFor_concat, hear, hiff]
      split_ifs
      · rfl
      · exact hs
    · simp only [Machine.run_append, Machine.run_cons, Machine.run_nil, call, slot_reset,
        effective, decisionsFor_concat, hear]
      rfl
  · rw [hpop, htr]
    exact h.heard

lemma holds (h : Distinct calls) : Holds calls := by
  induction calls using List.reverseRecOn with
  | nil => exact ⟨fun id => slot_default id, fun action ha => by simp [popped] at ha⟩
  | append_singleton calls c ih =>
    have hc := ih h.of_append
    cases c with
    | ingest t => exact hc.ingest h
    | popNext => exact hc.popNext
    | forgetWindow w => exact hc.cleared (.inl ⟨w, rfl⟩)
    | reset => exact hc.cleared (.inr rfl)

lemma not_effective_append {more : List Call} (h : Distinct (calls ++ more)) {t : FocusTransition}
    (ht : t ∈ transitions calls) (hn : ∀ d, effective calls id ≠ some (t.generation, d)) :
    ∀ d, effective (calls ++ more) id ≠ some (t.generation, d) := by
  induction more using List.reverseRecOn with
  | nil => rwa [List.append_nil]
  | append_singleton more c ih =>
    intro d he
    rw [← List.append_assoc] at h he
    have hmem : t ∈ transitions (calls ++ more) := by
      rw [transitions, List.filterMap_append]
      exact List.mem_append_left _ ht
    exact ih h.of_append d (effective_of_concat h hmem he)

lemma Holds.popNext_some (h : Holds calls) {action : ResizeAction}
    (ha : (after calls).popNext.1 = some action) : ∃ d,
      effective calls action.windowId = some (action.generation, d) ∧
      ¬ Popped calls action.windowId action.generation ∧
      d.action action.generation = some action := by
  obtain ⟨g, d, he, hn, hd⟩ := (h.pending _ _).mp (PendingResizes.popNext_some h.keyed ha)
  obtain ⟨_, _, _, hact⟩ := action_eq_some.mp hd
  obtain rfl : action.generation = g := by rw [hact]
  exact ⟨d, he, hn, hd⟩

lemma popped_nodup (h : Distinct calls) :
    ((popped calls).map fun action => (action.windowId, action.generation)).Nodup := by
  induction calls using List.reverseRecOn with
  | nil => exact List.nodup_nil
  | append_singleton calls c ih =>
    have hc := ih h.of_append
    by_cases hpop : c = .popNext
    · subst hpop
      rw [popped_concat, call]
      cases ha : (after calls).popNext.1 with
      | none => simpa using hc
      | some action =>
        obtain ⟨_, _, hn, _⟩ := (holds h.of_append).popNext_some ha
        rw [Option.toList_some, List.map_append, List.map_singleton]
        refine List.Nodup.append hc (List.nodup_singleton _) fun key hkey hlast => hn ?_
        rw [List.mem_singleton.mp hlast] at hkey
        simpa [Popped] using hkey
    · rwa [popped_of_ne_popNext hpop]

lemma last_popped (h : Distinct calls) {g : UInt64} {d : FocusDecision}
    (he : effective calls id = some (g, d)) (hp : Popped calls id g) :
    ((popped calls).filter (·.windowId = id)).getLast? = d.action g := by
  induction calls using List.reverseRecOn with
  | nil => simp [Popped, popped] at hp
  | append_singleton calls c ih =>
    have hc := holds h.of_append
    by_cases hpop : c = .popNext
    · subst hpop
      rw [effective_popNext] at he
      simp only [Popped, popped_concat, call] at hp ⊢
      cases ha : (after calls).popNext.1 with
      | none =>
        rw [ha, Option.toList_none, List.append_nil] at hp
        rw [Option.toList_none, List.append_nil]
        exact ih h.of_append he hp
      | some action =>
        rw [ha, Option.toList_some] at hp
        rw [Option.toList_some]
        obtain ⟨d', he', _, hd⟩ := hc.popNext_some ha
        rw [List.filter_append]
        by_cases hid : action.windowId = id
        · subst hid
          obtain ⟨rfl, rfl⟩ := Prod.mk.inj (Option.some.inj (he'.symm.trans he))
          simp [hd]
        · simp only [List.mem_append, List.mem_singleton, or_and_right, exists_or,
            exists_eq_left, hid, false_and, or_false] at hp
          simpa [hid] using ih h.of_append he hp
    · simp only [Popped, popped_of_ne_popNext hpop] at hp ⊢
      have hold : ∃ t ∈ transitions calls, t.generation = g := by
        obtain ⟨action, ha, _, rfl⟩ := hp
        exact hc.heard action ha
      obtain ⟨t, ht, rfl⟩ := hold
      exact ih h.of_append (effective_of_concat h ht he) hp

lemma popNext_extraction : Extraction call .popNext priority (fun self => values self.pending)
    Keyed where
  valid h := h.popNext
  empty {s} h hnone := by
    rcases popNext_cases h with ⟨he, hpop⟩ | ⟨action, hpop, _⟩
    · have hvalues : values s.pending = [] := values_eq_nil.mpr he
      exact ⟨hvalues, by rw [call, hpop, hvalues]⟩
    · rw [call, hpop] at hnone
      cases hnone
  taken {s action} h ha := by
    rcases popNext_cases h with ⟨_, hpop⟩ | ⟨popped, hpop, hget, _, hslot⟩
    · rw [call, hpop] at ha
      cases ha
    obtain rfl : popped = action := Option.some.inj (hpop.symm.trans ha)
    have hrest : ∀ id : WindowId, s.popNext.2.pending[id]? =
        if popped.windowId = id then none else s.pending[id]? := by
      intro id
      have hv := congrArg Register.value (hslot id)
      rw [apply_ite Register.value] at hv
      exact hv
    have hkept := h.popNext
    apply (List.perm_ext_iff_of_nodup (nodup_map_values h).of_map ?_).mpr
    · intro other
      rw [List.mem_cons, mem_values, mem_values]
      constructor
      · rintro ⟨id, ho⟩
        by_cases hid : popped.windowId = id
        · subst hid
          exact .inl (Option.some.inj (ho.symm.trans hget))
        · exact .inr ⟨id, by rw [call, hrest, if_neg hid, ho]⟩
      · rintro (rfl | ⟨id, ho⟩)
        · exact ⟨_, hget⟩
        · exact ⟨id, pending_popNext h ho⟩
    · refine List.nodup_cons.mpr ⟨fun hm => ?_, (nodup_map_values hkept).of_map⟩
      obtain ⟨id, ho⟩ := mem_values.mp hm
      obtain rfl := hkept id popped ho
      rw [call, hrest, if_pos rfl] at ho
      cases ho
  greatest {s action} h ha other ho := by
    rcases popNext_cases h with ⟨_, hpop⟩ | ⟨popped, hpop, _, hmax, _⟩
    · rw [call, hpop] at ha
      cases ha
    · obtain rfl : popped = action := Option.some.inj (hpop.symm.trans ha)
      obtain ⟨id, hget⟩ := mem_values.mp ho
      exact hmax id other hget

lemma drained {self : PendingResizes} (hk : self.Keyed) {n : ℕ} (hn : self.pending.size ≤ n) :
    (Machine.run call self (List.replicate n .popNext)).isEmpty := by
  rw [isEmpty, ExtTreeMap.isEmpty_iff, ← values_eq_nil]
  apply popNext_extraction.held_run_replicate hk
  rwa [length_values]

lemma ingest_comm (self : PendingResizes) {t u : FocusTransition}
    (hg : t.generation ≠ u.generation) (ht : (t.decisions.map (·.windowId)).Nodup)
    (hu : (u.decisions.map (·.windowId)).Nodup) :
    (self.ingest t).ingest u = (self.ingest u).ingest t := by
  refine ext_slot fun id => ?_
  simp only [slot_ingest]
  rcases KeyedList.filter_eq_nil_or_singleton ht id with ht | ⟨d, ht⟩ <;>
    rcases KeyedList.filter_eq_nil_or_singleton hu id with hu | ⟨e, hu⟩ <;>
    simp only [ht, hu, List.foldl_cons, List.foldl_nil]
  exact Register.write_comm _ hg _ _

lemma run_ingests (self : PendingResizes) (ts : List FocusTransition) :
    Machine.run call self (ts.map .ingest) = ts.foldl ingest self := by
  induction ts generalizing self with
  | nil => rfl
  | cons t ts ih => exact ih (self.ingest t)

lemma after_perm {ts us : List FocusTransition} (h : Distinct (calls ++ ts.map .ingest))
    (hp : ts.Perm us) : after (calls ++ ts.map .ingest) = after (calls ++ us.map .ingest) := by
  have htr : transitions (calls ++ ts.map .ingest) = transitions calls ++ ts := by
    simp [transitions, List.filterMap_append, List.filterMap_map]
  have hg := h.generations
  rw [htr, List.map_append, List.nodup_append] at hg
  have hw : ∀ t ∈ ts, (t.decisions.map (·.windowId)).Nodup := fun t ht =>
    h.windows t (htr ▸ List.mem_append_right _ ht)
  rw [after, after, Machine.run_append, Machine.run_append, run_ingests, run_ingests]
  refine hp.foldl_eq' (fun t ht u hu self => ?_) _
  by_cases he : t = u
  · rw [he]
  · exact ingest_comm self (fun heq => he (List.inj_on_of_nodup_map hg.2.1 ht hu heq)) (hw t ht)
      (hw u hu)

lemma not_popped_later {more : List Call} (h : Distinct (calls ++ more)) {t : FocusTransition}
    (ht : t ∈ transitions calls) (hn : ∀ d, effective calls id ≠ some (t.generation, d))
    {action : ResizeAction}
    (ha : action ∈ (Machine.outputs call (after calls) more).reduceOption)
    (hid : action.windowId = id) : action.generation ≠ t.generation := by
  intro hg
  obtain ⟨ys, c, zs, rfl, hc⟩ := Machine.mem_outputs call (List.reduceOption_mem_iff.mp ha)
  rw [← Machine.run_append] at hc
  have hd : Distinct (calls ++ ys) := by
    rw [← List.append_assoc] at h
    exact h.of_append
  cases c with
  | popNext =>
    obtain ⟨d, he, _⟩ := (holds hd).popNext_some hc.symm
    rw [hid, hg] at he
    exact not_effective_append hd ht hn d he
  | _ => cases hc

/-- Coalescing loses nothing and resurrects nothing. -/
theorem coalesces (calls : List Call) (h : Distinct calls) :
    (∀ (id : WindowId) (action : ResizeAction), (after calls).pending[id]? = some action ↔
      ∃ decision index, effective calls id = some (action.generation, decision) ∧
        decision.outcome = .resize index action.width ∧ decision.state = action.state ∧
        action.windowId = id ∧ ¬ Popped calls id action.generation) ∧
    (∀ before rest action, calls = before ++ .popNext :: rest →
      (after before).popNext.1 = some action →
        ∃ decision index, effective before action.windowId = some (action.generation, decision) ∧
          decision.outcome = .resize index action.width ∧ decision.state = action.state) ∧
    ((popped calls).map fun action => (action.windowId, action.generation)).Nodup ∧
    (∀ before rest t id, calls = before ++ rest → t ∈ transitions before →
      (∀ decision, effective before id ≠ some (t.generation, decision)) →
        ∀ action ∈ (Machine.outputs call (after before) rest).reduceOption,
          action.windowId = id → action.generation ≠ t.generation) ∧
    (after (calls ++ List.replicate (after calls).pending.size .popNext)).isEmpty ∧
    ((after calls).isEmpty → ∀ id generation decision index width,
      effective calls id = some (generation, decision) → decision.outcome = .resize index width →
        ((popped calls).filter (·.windowId = id)).getLast? =
          some ⟨generation, id, decision.state, width⟩) ∧
    (∀ (before rest : List Call) (ts us : List FocusTransition),
      calls = before ++ ts.map .ingest ++ rest → ts.Perm us →
      after calls = after (before ++ us.map .ingest ++ rest)) := by
  have hh := holds h
  refine ⟨fun id action => ?_, fun before rest action hc ha => ?_, popped_nodup h,
    fun before rest t id hc ht hn action ha hid => ?_, ?_, fun hempty id g d index width he ho => ?_,
    fun before rest ts us hc hp => ?_⟩
  · rw [hh.pending]
    constructor
    · rintro ⟨g, d, he, hn, hd⟩
      obtain ⟨index, width, ho, rfl⟩ := action_eq_some.mp hd
      exact ⟨d, index, he, ho, rfl, (mem_of_effective he).1, hn⟩
    · rintro ⟨d, index, he, ho, hs, hid, hn⟩
      refine ⟨_, d, he, hn, action_eq_some.mpr ⟨index, action.width, ho, ?_⟩⟩
      rw [(mem_of_effective he).1, hs, ← hid]
  · subst hc
    obtain ⟨d, he, _, hd⟩ := (holds h.of_append).popNext_some ha
    obtain ⟨index, width, ho, hact⟩ := action_eq_some.mp hd
    refine ⟨d, index, he, ?_, ?_⟩ <;> rw [hact]
    exact ho
  · subst hc
    exact not_popped_later h ht hn ha hid
  · rw [after, Machine.run_append]
    exact drained hh.keyed le_rfl
  · have hd : d.action g = some ⟨g, id, d.state, width⟩ :=
      action_eq_some.mpr ⟨index, width, ho, by rw [(mem_of_effective he).1]⟩
    have hp : Popped calls id g := by
      by_contra hn
      have hget := (hh.pending id _).mpr ⟨g, d, he, hn, hd⟩
      rw [ExtTreeMap.isEmpty_iff.mp hempty] at hget
      simp at hget
    rw [last_popped h he hp, hd]
  · subst hc
    have he := congrArg (Machine.run call · rest) (after_perm h.of_append hp)
    simpa only [after, Machine.run_append] using he

theorem coalesces_late_contraction :
    let resize (generation : UInt64) (id : WindowId) (state : FocusState) : Call :=
      .ingest ⟨generation, none, none, [⟨id, state, .resize 0 .half⟩]⟩
    let calls := [resize 2 10 .focused, resize 1 10 .unfocused, resize 3 20 .unfocused,
      .popNext, .popNext]
    (after calls).isEmpty ∧
      ((popped calls).filter (·.windowId = 10)).getLast? = some ⟨2, 10, .focused, .half⟩ := by
  intro resize calls
  have hempty : (after calls).isEmpty := by decide +kernel
  have hd : Distinct calls := ⟨by decide +kernel, by decide +kernel⟩
  exact ⟨hempty, (coalesces calls hd).2.2.2.2.2.1 hempty 10 2 ⟨10, .focused, .resize 0 .half⟩ 0
    .half (by decide +kernel) rfl⟩

end PendingResizes

end Melibea
