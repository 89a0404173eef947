import Melibea.Minimization
import Melibea.Library.KeyedList
import Melibea.Library.Machine

/-! The minimized registry over whole runs. -/

namespace Melibea

open Library

inductive Replay (old : List MinimizedWindow) :
    MinimizationEvent → RegistryChange → List MinimizedWindow → Prop
  | replaced {windows : List MinimizedWindow} (hn : (windows.map (·.id)).Nodup)
      (hne : old ≠ windows) :
    Replay old (.snapshot windows) (.snapshotReplaced old.length windows.length) windows
  | repeated : Replay old (.snapshot old) .unchanged old
  | added {window : MinimizedWindow} (hn : window.id ∉ old.map (·.id)) :
    Replay old (.minimized window) (.added window.id old.length) (old ++ [window])
  | updated {event : MinimizationEvent} {before after : List MinimizedWindow}
      {previous window : MinimizedWindow}
      (he : event = .minimized window ∨ event = .metadataChanged window)
      (ho : old = before ++ previous :: after) (hid : previous.id = window.id)
      (hne : previous ≠ window) :
    Replay old event (.updated window.id before.length) (before ++ window :: after)
  | known {event : MinimizationEvent} {window : MinimizedWindow}
      (he : event = .minimized window ∨ event = .metadataChanged window) (hm : window ∈ old) :
    Replay old event .unchanged old
  | removed {event : MinimizationEvent} {before after : List MinimizedWindow}
      {window : MinimizedWindow} {reason : RemovalReason}
      (he : event = .restored window.id ∧ reason = .restored ∨
        event = .closed window.id ∧ reason = .closed)
      (ho : old = before ++ window :: after) :
    Replay old event (.removed window.id before.length reason) (before ++ after)
  | unknown {event : MinimizationEvent} {id : WindowId}
      (he : (∃ window, event = .metadataChanged window ∧ window.id = id) ∨
        event = .restored id ∨ event = .closed id)
      (hn : id ∉ old.map (·.id)) :
    Replay old event (.unknownWindow id) old

def RegistryChange.Silent : RegistryChange → Prop
  | .unchanged | .unknownWindow _ => True
  | .snapshotReplaced .. | .added .. | .updated .. | .removed .. => False

namespace Replay

variable {old new : List MinimizedWindow} {event : MinimizationEvent} {change : RegistryChange}

lemma silent_iff (h : Replay old event change new) : change.Silent ↔ new = old := by
  cases h with
  | replaced _ hne => exact iff_of_false id (Ne.symm hne)
  | repeated => exact iff_of_true trivial rfl
  | added _ => exact iff_of_false id (by simp)
  | updated _ ho _ hne => exact iff_of_false id (by simp [ho, Ne.symm hne])
  | known _ _ => exact iff_of_true trivial rfl
  | removed _ ho =>
    refine iff_of_false id fun he => ?_
    have hlength := congrArg List.length (he.trans ho)
    simp at hlength
  | unknown _ _ => exact iff_of_true trivial rfl

lemma nodup (h : Replay old event change new) (hn : (old.map (·.id)).Nodup) :
    (new.map (·.id)).Nodup := by
  cases h with
  | replaced hnew _ => exact hnew
  | added hnew => simpa [List.nodup_append, hn] using hnew
  | updated _ ho hid _ => simpa [ho, hid] using hn
  | removed _ ho =>
    refine hn.sublist (List.Sublist.map _ ?_)
    rw [ho]
    exact (List.sublist_cons_self _ _).append_left _
  | _ => exact hn

end Replay

namespace MinimizedRegistry

inductive Applied (self : MinimizedRegistry) (event : MinimizationEvent) :
    Except MinimizationError RegistryChange × MinimizedRegistry → Prop
  | silent {change : RegistryChange} (hs : change.Silent)
      (hr : Replay self.windows event change self.windows) : Applied self event (.ok change, self)
  | changed {change : RegistryChange} {windows : List MinimizedWindow} (hs : ¬ change.Silent)
      (hr : Replay self.windows event change windows) :
    Applied self event (.ok change, { self with windows }.advanceRevision)
  | refused {windows : List MinimizedWindow} {id : WindowId} (he : event = .snapshot windows)
      (hid : 2 ≤ windows.countP (·.id = id)) :
    Applied self event (.error (.duplicateWindow id), self)

lemma count_of_repeatedId {seen : List WindowId} {windows : List MinimizedWindow} {id : WindowId}
    (h : repeatedId seen windows = some id) :
    2 ≤ (if id ∈ seen then 1 else 0) + windows.countP (·.id = id) := by
  induction windows generalizing seen with
  | nil => cases h
  | cons window windows ih =>
    rw [repeatedId] at h
    split_ifs at h with hs
    · obtain rfl := Option.some.inj h
      simp [hs]
      omega
    · have hcount := ih h
      by_cases hid : window.id = id
      · subst hid
        simpa [hs, Nat.add_comm] using hcount
      · simpa [hid, Ne.symm hid] using hcount

variable {self : MinimizedRegistry}

lemma replaceSnapshot_applied (self : MinimizedRegistry) (windows : List MinimizedWindow) :
    self.Applied (.snapshot windows) (self.replaceSnapshot windows) := by
  rw [replaceSnapshot]
  cases hr : repeatedId [] windows with
  | some id => exact .refused rfl (by simpa using count_of_repeatedId hr)
  | none =>
    dsimp only
    split_ifs with hsame
    · rw [← hsame]
      exact .silent trivial .repeated
    · exact .changed id (.replaced (repeatedId_eq_none.mp hr).1 hsame)

lemma position_split {id : WindowId} {index : ℕ} (h : self.position id = some index) :
    ∃ before window after, self.windows = before ++ window :: after ∧ before.length = index ∧
      window.id = id :=
  KeyedList.split_of_findIdx h

lemma update_applied {window : MinimizedWindow} {index : ℕ} {event : MinimizationEvent}
    (h : self.position window.id = some index)
    (he : event = .minimized window ∨ event = .metadataChanged window) :
    self.Applied event
      (if self.windows[index]? = some window then (.ok .unchanged, self)
      else (.ok (.updated window.id index),
        { self with windows := self.windows.set index window }.advanceRevision)) := by
  obtain ⟨before, previous, after, ho, rfl, hid⟩ := position_split h
  have hget : self.windows[before.length]? = some previous := by simp [ho]
  have hset : self.windows.set before.length window = before ++ window :: after := by simp [ho]
  rw [hget, hset]
  by_cases hsame : previous = window
  · rw [if_pos (congrArg some hsame)]
    exact .silent trivial (.known he (by simp [ho, hsame]))
  · rw [if_neg fun heq => hsame (Option.some.inj heq)]
    exact .changed id (.updated he ho hid hsame)

lemma remove_applied {id : WindowId} {reason : RemovalReason} {event : MinimizationEvent}
    (he : event = .restored id ∧ reason = .restored ∨ event = .closed id ∧ reason = .closed) :
    self.Applied event (.ok (self.remove id reason).1, (self.remove id reason).2) := by
  rw [remove]
  cases hp : self.position id with
  | none =>
    refine .silent trivial (.unknown (.inr ?_) (KeyedList.findIdx_eq_none.mp hp))
    exact he.imp And.left And.left
  | some index =>
    obtain ⟨before, window, after, ho, rfl, rfl⟩ := position_split hp
    have herase : self.windows.eraseIdx before.length = before ++ after := by
      simp [ho, List.eraseIdx_append_of_length_le]
    dsimp only
    rw [herase]
    exact .changed id (.removed he ho)

lemma applied (self : MinimizedRegistry) (event : MinimizationEvent) :
    self.Applied event (self.apply event) := by
  cases event with
  | snapshot windows => exact self.replaceSnapshot_applied windows
  | minimized window =>
    cases hp : self.position window.id with
    | none =>
      have hn := KeyedList.findIdx_eq_none.mp hp
      rw [apply, minimized, hp]
      exact .changed id (.added hn)
    | some index =>
      have h := update_applied hp (.inl rfl)
      rw [apply, minimized, hp]
      dsimp only
      split_ifs at h ⊢ <;> exact h
  | metadataChanged window =>
    cases hp : self.position window.id with
    | none =>
      have hn := KeyedList.findIdx_eq_none.mp hp
      rw [apply, metadataChanged, hp]
      exact .silent trivial (.unknown (.inl ⟨window, rfl, rfl⟩) hn)
    | some index =>
      have h := update_applied hp (.inr rfl)
      rw [apply, metadataChanged, hp]
      dsimp only
      split_ifs at h ⊢ <;> exact h
  | restored id => exact remove_applied (.inl ⟨rfl, rfl⟩)
  | closed id => exact remove_applied (.inr ⟨rfl, rfl⟩)

abbrev after (events : List MinimizationEvent) : MinimizedRegistry :=
  Machine.run apply default events

lemma nodup_apply (h : (self.windows.map (·.id)).Nodup) (event : MinimizationEvent) :
    ((self.apply event).2.windows.map (·.id)).Nodup := by
  have ha := self.applied event
  generalize self.apply event = result at ha
  cases ha with
  | silent _ _ => exact h
  | changed _ hr => exact hr.nodup h
  | refused _ _ => exact h

lemma nodup_after (events : List MinimizationEvent) :
    ((after events).windows.map (·.id)).Nodup :=
  Machine.run_invariant apply (P := fun self => (self.windows.map (·.id)).Nodup)
    (fun _ event h => nodup_apply h event) (s := default) List.nodup_nil events

end MinimizedRegistry

open MinimizedRegistry

/-- In every run of the registry the ids are distinct, only a snapshot that repeats an id is
refused, the revision counts the changes of the list, and every reported change replays. -/
theorem registry_exact (events : List MinimizationEvent) (event : MinimizationEvent) :
    let registry := after events
    let applied := registry.apply event
    (registry.windows.map (·.id)).Nodup ∧
    (∀ error, applied.1 = .error error → ∃ windows id, event = .snapshot windows ∧
      error = .duplicateWindow id ∧ 2 ≤ windows.countP (·.id = id) ∧ applied.2 = registry) ∧
    applied.2.revision = (if applied.2.windows = registry.windows then registry.revision
      else Word64.saturatingAdd registry.revision 1) ∧
    (applied.2.windows = registry.windows ↔
      applied.1 = .ok .unchanged ∨ (∃ id, applied.1 = .ok (.unknownWindow id)) ∨
        ∃ error, applied.1 = .error error) ∧
    ∀ change, applied.1 = .ok change →
      Replay registry.windows event change applied.2.windows := by
  intro registry applied
  refine ⟨nodup_after events, ?_⟩
  have ha := registry.applied event
  change registry.Applied event applied at ha
  generalize applied = result at ha
  cases ha with
  | @silent change hs hr =>
    refine ⟨by simp, by simp, ?_, fun other he => Except.ok.inj he ▸ hr⟩
    cases change <;> simp_all [RegistryChange.Silent]
  | @changed change windows hs hr =>
    have hne : windows ≠ registry.windows := mt hr.silent_iff.mpr hs
    refine ⟨by simp, by simp [advanceRevision, hne], ?_, fun other he => Except.ok.inj he ▸ hr⟩
    refine iff_of_false (by simpa [advanceRevision] using hne) ?_
    cases change <;> simp_all [RegistryChange.Silent]
  | @refused windows id he hid =>
    refine ⟨fun error herr => ⟨windows, id, he, (Except.error.inj herr).symm, hid, rfl⟩,
      by simp, by simp, by simp⟩

theorem registry_exact_restored :
    let kitty : MinimizedWindow := ⟨10, some "kitty", none⟩
    let code : MinimizedWindow := ⟨20, some "code", none⟩
    let registry := after [.minimized kitty, .snapshot [code, code], .minimized code]
    Replay registry.windows (.restored 10) (.removed 10 0 .restored)
      (registry.apply (.restored 10)).2.windows := by
  intro kitty code registry
  exact (registry_exact [.minimized kitty, .snapshot [code, code], .minimized code]
    (.restored 10)).2.2.2.2 _ (by decide +kernel)

end Melibea
