import Melibea.Patch

/-! The diff keeps every window it can where it is. -/

namespace Melibea

open Library

def WindowChange.windowId : WindowChange → UInt64
  | .added _ window | .updated _ window => window.id
  | .moved windowId _ _ | .removed _ windowId => windowId

def about (id : UInt64) (changes : List WindowChange) : List WindowChange :=
  changes.filter (·.windowId = id)

lemma about_append (id : UInt64) (changes more : List WindowChange) :
    about id (changes ++ more) = about id changes ++ about id more :=
  List.filter_append ..

lemma about_eq_nil {id : UInt64} {changes : List WindowChange}
    (h : ∀ change ∈ changes, change.windowId ≠ id) : about id changes = [] :=
  List.filter_eq_nil_iff.mpr fun change hc => by simpa using h change hc

lemma about_eq_self {id : UInt64} {changes : List WindowChange}
    (h : ∀ change ∈ changes, change.windowId = id) : about id changes = changes :=
  List.filter_eq_self.mpr fun change hc => by simpa using h change hc

section Removals

variable {previous next : List Window}

lemma mem_removals {change : WindowChange} (h : change ∈ removals previous next) :
    ∃ index window, previous[index]? = some window ∧ window.id ∉ next.map Window.id ∧
      change = .removed index window.id := by
  rw [removals, List.mem_reverse, List.mem_map] at h
  obtain ⟨⟨window, index⟩, hm, rfl⟩ := h
  obtain ⟨hzip, hn⟩ := List.mem_filter.mp hm
  refine ⟨index, window, List.mem_zipIdx_iff_getElem?.mp hzip, ?_, rfl⟩
  simpa using hn

lemma about_removals_of_kept {id : UInt64} (h : id ∈ next.map Window.id) :
    about id (removals previous next) = [] := by
  refine about_eq_nil fun change hc => ?_
  obtain ⟨index, window, -, hn, rfl⟩ := mem_removals hc
  rintro rfl
  exact hn h

lemma about_removals_of_new {id : UInt64} (h : id ∉ previous.map Window.id) :
    about id (removals previous next) = [] := by
  refine about_eq_nil fun change hc => ?_
  obtain ⟨index, window, hw, -, rfl⟩ := mem_removals hc
  rintro rfl
  exact h (List.mem_map_of_mem (List.mem_of_getElem? hw))

lemma about_removals_of_gone (hp : (previous.map Window.id).Nodup) {index : ℕ} {window : Window}
    (hw : previous[index]? = some window) (hn : window.id ∉ next.map Window.id) :
    about window.id (removals previous next) = [.removed index window.id] := by
  induction previous using List.reverseRecOn with
  | nil => cases hw
  | append_singleton previous last ih =>
    rw [List.map_append, List.map_singleton, List.nodup_append] at hp
    obtain ⟨hprevious, -, hlast⟩ := hp
    rw [removals_concat, about_append]
    by_cases hindex : index = previous.length
    · obtain rfl : last = window := by simpa [hindex] using hw
      have hnone : next.any (·.id = last.id) = false := by simpa using hn
      rw [about_removals_of_new fun hm => hlast _ hm _ (by simp) rfl, hindex]
      simp [hnone, about, WindowChange.windowId]
    · have hlt : index < previous.length := by
        have hle := (List.getElem?_eq_some_iff.mp hw).1
        rw [List.length_append, List.length_singleton] at hle
        omega
      rw [List.getElem?_append_left hlt] at hw
      have hne : last.id ≠ window.id := fun he =>
        hlast _ (List.mem_map_of_mem (List.mem_of_getElem? hw)) _ (by simp) he.symm
      rw [ih hprevious hw]
      split_ifs <;> simp [about, WindowChange.windowId, hne]

lemma removals_ordered (previous next : List Window) : ∃ positions : List (ℕ × UInt64),
    removals previous next = positions.map (fun position => .removed position.1 position.2) ∧
      positions.Pairwise fun earlier later => later.1 < earlier.1 := by
  refine ⟨((previous.zipIdx.filter fun indexed => !next.any (·.id = indexed.1.id)).map
    fun indexed => (indexed.2, indexed.1.id)).reverse, ?_, ?_⟩
  · rw [removals, ← List.map_reverse, ← List.map_reverse, List.map_map]
    rfl
  · rw [List.pairwise_reverse, List.pairwise_map]
    refine List.Pairwise.filter _ ?_
    rw [List.pairwise_iff_getElem]
    intro i j hi hj hij
    simpa using hij

end Removals

section Placements

variable {tail next : List Window} {window : Window}

lemma windowId_of_place (ht : (tail.map Window.id).Nodup) (targetIndex : ℕ)
    {change : WindowChange} (h : change ∈ place tail targetIndex window) :
    change.windowId = window.id ∧ ∀ index id, change ≠ .removed index id := by
  rcases place_cases ht targetIndex window with
    ⟨-, -, hplace⟩ | ⟨front, old, back, -, -, -, -, hplace⟩
  · rw [hplace, List.mem_singleton] at h
    subst h
    exact ⟨rfl, by simp⟩
  · rw [hplace, List.mem_append] at h
    rcases h with h | h
    all_goals
      split_ifs at h
      · cases h
      · rw [List.mem_singleton] at h
        subst h
        exact ⟨rfl, by simp⟩

lemma windowId_of_placements (ht : (tail.map Window.id).Nodup) {targetIndex : ℕ}
    {change : WindowChange} (h : change ∈ placements tail targetIndex next) :
    change.windowId ∈ next.map Window.id ∧ ∀ index id, change ≠ .removed index id := by
  induction next generalizing tail targetIndex with
  | nil => cases h
  | cons window next ih =>
    rw [placements, List.mem_append] at h
    rcases h with h | h
    · obtain ⟨hid, hremoved⟩ := windowId_of_place ht targetIndex h
      exact ⟨by simp [hid], hremoved⟩
    · obtain ⟨hid, hremoved⟩ := ih (ht.sublist (List.filter_sublist.map _)) h
      exact ⟨List.mem_cons_of_mem _ hid, hremoved⟩

lemma about_placements_of_gone (ht : (tail.map Window.id).Nodup) (targetIndex : ℕ) {id : UInt64}
    (h : id ∉ next.map Window.id) : about id (placements tail targetIndex next) = [] :=
  about_eq_nil fun _ hc he => h (he ▸ (windowId_of_placements ht hc).1)

lemma about_placements (ht : (tail.map Window.id).Nodup) (hn : (next.map Window.id).Nodup)
    (start : ℕ) {target : ℕ} (hw : next[target]? = some window) :
    ∃ waiting : List Window, waiting.Sublist tail ∧
      (∀ other ∈ tail, other.id = window.id → other ∈ waiting) ∧
      about window.id (placements tail start next) = place waiting (start + target) window := by
  induction next generalizing tail start target with
  | nil => cases hw
  | cons first next ih =>
    rw [List.map_cons, List.nodup_cons] at hn
    have hrest : ((tail.filter (·.id ≠ first.id)).map Window.id).Nodup :=
      ht.sublist (List.filter_sublist.map _)
    rw [placements, about_append]
    cases target with
    | zero =>
      obtain rfl : first = window := Option.some.inj hw
      refine ⟨tail, List.Sublist.refl _, fun _ hm _ => hm, ?_⟩
      rw [about_eq_self fun change hc => (windowId_of_place ht start hc).1,
        about_placements_of_gone hrest _ hn.1, List.append_nil]
      rfl
    | succ target =>
      have hne : first.id ≠ window.id := fun he =>
        hn.1 (he ▸ List.mem_map_of_mem (List.mem_of_getElem? hw))
      obtain ⟨waiting, hsub, hstays, habout⟩ := ih hrest hn.2 (start + 1) hw
      refine ⟨waiting, hsub.trans List.filter_sublist, fun other hm hid => ?_, ?_⟩
      · refine hstays other (List.mem_filter.mpr ⟨hm, ?_⟩) hid
        simpa using fun he : other.id = first.id => hne (he.symm.trans hid)
      · have hnil : about window.id (place tail start first) = [] :=
          about_eq_nil fun _ hc he => hne ((windowId_of_place ht start hc).1.symm.trans he)
        rw [hnil, habout, List.nil_append, Nat.add_right_comm, Nat.add_assoc]

lemma not_moved_of_placements (ht : (tail.map Window.id).Nodup) (hn : (next.map Window.id).Nodup)
    (horder : tail.map Window.id = (next.map Window.id).filter (· ∈ tail.map Window.id))
    {targetIndex : ℕ} {change : WindowChange} (h : change ∈ placements tail targetIndex next)
    (id : UInt64) (fromIndex toIndex : ℕ) : change ≠ .moved id fromIndex toIndex := by
  induction next generalizing tail targetIndex with
  | nil => cases h
  | cons window next ih =>
    rw [List.map_cons, List.nodup_cons] at hn
    rw [placements, List.mem_append] at h
    rcases place_cases ht targetIndex window with
      ⟨hm, hrest, hplace⟩ | ⟨front, old, back, rfl, hid, hfront, hrest, hplace⟩
    · rw [hplace, hrest] at h
      rcases h with h | h
      · rw [List.mem_singleton.mp h]
        simp
      · refine ih ht hn.2 ?_ h
        rwa [List.map_cons, List.filter_cons_of_neg (by simpa using hm)] at horder
    · have hmem : window.id ∈ (front ++ old :: back).map Window.id := by simp [hid]
      rw [List.map_cons, List.filter_cons_of_pos (by simpa using hmem)] at horder
      obtain rfl : front = [] := by
        cases front with
        | nil => rfl
        | cons first front => exact absurd (List.cons.inj horder).1.symm (by simp_all)
      rw [hplace, hrest] at h
      rcases h with h | h
      · simp only [if_true, List.nil_append] at h
        split_ifs at h
        · cases h
        · rw [List.mem_singleton.mp h]
          simp
      · have hback : (back.map Window.id).Nodup :=
          ht.sublist (List.Sublist.map _ (List.sublist_cons_self _ _))
        refine ih hback hn.2 ?_ h
        refine (List.cons.inj horder).2.trans (List.filter_congr fun id hm => ?_)
        have hne : id ≠ old.id := fun he => hn.1 (hid ▸ he ▸ hm)
        simp [hne]

end Placements

section Diff

variable {previous next : List Window} (hp : (previous.map Window.id).Nodup)
  (hn : (next.map Window.id).Nodup)

omit hp hn in
lemma ids_common (previous next : List Window) : (common previous next).map Window.id =
    (previous.map Window.id).filter (· ∈ next.map Window.id) := by
  rw [common, List.filter_map]
  congr 1
  refine List.filter_congr fun window _ => ?_
  simp [List.any_eq]

include hp in
lemma nodup_common : ((common previous next).map Window.id).Nodup :=
  hp.sublist (List.filter_sublist.map _)

include hp hn

lemma about_diff_of_absent {id : UInt64} (ho : id ∉ previous.map Window.id)
    (hw : id ∉ next.map Window.id) : about id (diffWindows previous next) = [] := by
  rw [diffWindows_eq hp hn, about_append, about_removals_of_new ho,
    about_placements_of_gone (nodup_common hp) 0 hw, List.nil_append]

lemma about_diff_of_gone {index : ℕ} {window : Window} (hw : previous[index]? = some window)
    (hnew : window.id ∉ next.map Window.id) :
    about window.id (diffWindows previous next) = [.removed index window.id] := by
  rw [diffWindows_eq hp hn, about_append, about_removals_of_gone hp hw hnew,
    about_placements_of_gone (nodup_common hp) 0 hnew, List.append_nil]

lemma about_diff_of_new {target : ℕ} {window : Window} (hw : next[target]? = some window)
    (hold : window.id ∉ previous.map Window.id) :
    about window.id (diffWindows previous next) = [.added target window] := by
  obtain ⟨waiting, hsub, -, habout⟩ := about_placements (nodup_common hp) hn 0 hw
  have hwaiting : window.id ∉ waiting.map Window.id := by
    intro hm
    obtain ⟨other, ho, hid⟩ := List.mem_map.mp hm
    exact hold (hid ▸ List.mem_map_of_mem (mem_common.mp (hsub.subset ho)).1)
  rw [diffWindows_eq hp hn, about_append, about_removals_of_new hold, habout, List.nil_append,
    Nat.zero_add, place, KeyedList.findIdx_eq_none.mpr hwaiting]

lemma about_diff_of_kept {old window : Window} (ho : old ∈ previous) (hid : old.id = window.id)
    {target : ℕ} (hw : next[target]? = some window) : ∃ moves,
    about window.id (diffWindows previous next) =
      moves ++ (if old = window then [] else [.updated target window]) ∧
    (moves = [] ∨ ∃ fromIndex, target < fromIndex ∧
      moves = [.moved window.id fromIndex target]) := by
  obtain ⟨waiting, hsub, hstays, habout⟩ := about_placements (nodup_common hp) hn 0 hw
  have hmem : window.id ∈ next.map Window.id := List.mem_map_of_mem (List.mem_of_getElem? hw)
  have hwaits : old ∈ waiting := hstays old (mem_common.mpr ⟨ho, hid ▸ hmem⟩) hid
  rw [diffWindows_eq hp hn, about_append, about_removals_of_kept hmem, habout, List.nil_append,
    Nat.zero_add]
  rcases place_cases ((nodup_common hp).sublist (hsub.map _)) target window with
    ⟨hm, -, -⟩ | ⟨front, other, back, hsplit, hother, -, -, hplace⟩
  · exact absurd (hid ▸ List.mem_map_of_mem hwaits) hm
  · obtain rfl : other = old := by
      have hin : other ∈ waiting := by simp [hsplit]
      exact List.inj_on_of_nodup_map hp (mem_common.mp (hsub.subset hin)).1 ho
        (hother.trans hid.symm)
    refine ⟨_, hplace, ?_⟩
    split_ifs with hfront
    · exact .inl rfl
    · refine .inr ⟨target + front.length, ?_, rfl⟩
      have hpos := List.length_pos_iff.mpr hfront
      omega

lemma diff_not_moved
    (horder : (previous.map Window.id).filter (· ∈ next.map Window.id) =
      (next.map Window.id).filter (· ∈ previous.map Window.id))
    {change : WindowChange} (h : change ∈ diffWindows previous next) (id : UInt64)
    (fromIndex toIndex : ℕ) : change ≠ .moved id fromIndex toIndex := by
  rw [diffWindows_eq hp hn, List.mem_append] at h
  rcases h with h | h
  · obtain ⟨index, window, -, -, rfl⟩ := mem_removals h
    simp
  · refine not_moved_of_placements (nodup_common hp) hn ?_ h id fromIndex toIndex
    rw [ids_common, horder]
    refine List.filter_congr fun id hm => ?_
    simp [hm]

lemma diff_eq_nil : diffWindows previous next = [] ↔ previous = next := by
  refine ⟨fun h => ?_, ?_⟩
  · have hpatched := foldl_apply_diffWindows hp hn
    rwa [h] at hpatched
  · rintro rfl
    refine List.eq_nil_iff_forall_not_mem.mpr fun change hc => ?_
    have habout : change ∈ about change.windowId (diffWindows previous previous) :=
      List.mem_filter.mpr ⟨hc, by simp⟩
    by_cases hid : change.windowId ∈ previous.map Window.id
    · obtain ⟨window, hw, hwindow⟩ := List.mem_map.mp hid
      obtain ⟨target, htarget⟩ := List.mem_iff_getElem?.mp hw
      obtain ⟨moves, hkept, hmoves⟩ := about_diff_of_kept hp hn hw rfl htarget
      rw [← hwindow, hkept, if_pos rfl, List.append_nil] at habout
      obtain rfl | ⟨fromIndex, -, rfl⟩ := hmoves
      · cases habout
      · exact diff_not_moved hp hn rfl hc _ _ _ (List.mem_singleton.mp habout)
    · rw [about_diff_of_absent hp hn hid hid] at habout
      cases habout

lemma diff_removals_first : ∃ (positions : List (ℕ × UInt64)) (rest : List WindowChange),
    diffWindows previous next =
        positions.map (fun position => .removed position.1 position.2) ++ rest ∧
      (positions.Pairwise fun earlier later => later.1 < earlier.1) ∧
      ∀ change ∈ rest, ∀ index id, change ≠ .removed index id := by
  obtain ⟨positions, hremovals, hordered⟩ := removals_ordered previous next
  refine ⟨positions, placements (common previous next) 0 next, ?_, hordered, fun change hc => ?_⟩
  · rw [diffWindows_eq hp hn, hremovals]
  · exact (windowId_of_placements (nodup_common hp) hc).2

end Diff

structure Economical (previous next : List Window) (changes : List WindowChange) : Prop where
  absent : ∀ id, id ∉ previous.map Window.id → id ∉ next.map Window.id → about id changes = []
  gone : ∀ (index : ℕ) (window : Window), previous[index]? = some window →
    window.id ∉ next.map Window.id → about window.id changes = [.removed index window.id]
  new : ∀ (target : ℕ) (window : Window), next[target]? = some window →
    window.id ∉ previous.map Window.id → about window.id changes = [.added target window]
  kept : ∀ (old window : Window) (target : ℕ), old ∈ previous → next[target]? = some window →
    old.id = window.id → ∃ moves,
      about window.id changes =
        moves ++ (if old = window then [] else [.updated target window]) ∧
      (moves = [] ∨ ∃ fromIndex, target < fromIndex ∧
        moves = [.moved window.id fromIndex target])
  removalsFirst : ∃ (positions : List (ℕ × UInt64)) (rest : List WindowChange),
    changes = positions.map (fun position => .removed position.1 position.2) ++ rest ∧
      (positions.Pairwise fun earlier later => later.1 < earlier.1) ∧
      ∀ change ∈ rest, ∀ index id, change ≠ .removed index id
  notMoved : (previous.map Window.id).filter (· ∈ next.map Window.id) =
      (next.map Window.id).filter (· ∈ previous.map Window.id) →
    ∀ change ∈ changes, ∀ id fromIndex toIndex, change ≠ .moved id fromIndex toIndex
  unchanged : changes = [] ↔ previous = next

theorem diff_is_economical (previous next : List Window) (hp : (previous.map Window.id).Nodup)
    (hn : (next.map Window.id).Nodup) : Economical previous next (diffWindows previous next) where
  absent _ ho hw := about_diff_of_absent hp hn ho hw
  gone _ _ hw hnew := about_diff_of_gone hp hn hw hnew
  new _ _ hw hold := about_diff_of_new hp hn hw hold
  kept _ _ _ ho hw hid := about_diff_of_kept hp hn ho hid hw
  removalsFirst := diff_removals_first hp hn
  notMoved horder _ hc := diff_not_moved hp hn horder hc
  unchanged := diff_eq_nil hp hn

theorem diff_is_economical_shuffled :
    let window (id : UInt64) (title : String) : Window := ⟨id, some "app", some title, none⟩
    let previous := [window 1 "One", window 2 "Two", window 3 "Three", window 5 "Five"]
    let next := [window 5 "Five", window 3 "Renamed", window 4 "Four", window 1 "One"]
    Economical previous next (diffWindows previous next) :=
  diff_is_economical _ _ (by decide) (by decide)

end Melibea
