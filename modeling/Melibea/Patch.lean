import Melibea.Diff
import Mathlib.Data.List.Infix

/-! The changes between two window lists, executed one after another. -/

namespace Melibea

namespace WindowChange

def apply (windows : List Window) : WindowChange → List Window
  | .added index window => windows.insertIdx index window
  | .updated index window => windows.set index window
  | .moved _ fromIndex toIndex =>
    windows[fromIndex]?.elim windows ((windows.eraseIdx fromIndex).insertIdx toIndex ·)
  | .removed index _ => windows.eraseIdx index

def Fits (windows : List Window) : WindowChange → Prop
  | .added index _ => index ≤ windows.length
  | .updated index window => windows[index]?.map Window.id = some window.id
  | .moved windowId fromIndex toIndex =>
    windows[fromIndex]?.map Window.id = some windowId ∧ toIndex < windows.length
  | .removed index windowId => windows[index]?.map Window.id = some windowId

def Leads : List WindowChange → List Window → List Window → Prop
  | [], windows, result => windows = result
  | change :: changes, windows, result =>
    change.Fits windows ∧ Leads changes (change.apply windows) result

lemma Leads.append {changes more : List WindowChange} {a b c : List Window}
    (h : Leads changes a b) (h' : Leads more b c) : Leads (changes ++ more) a c := by
  induction changes generalizing a with
  | nil =>
    obtain rfl : a = b := h
    exact h'
  | cons change changes ih => exact ⟨h.1, ih h.2⟩

lemma Leads.foldl {changes : List WindowChange} {a b : List Window} (h : Leads changes a b) :
    changes.foldl apply a = b := by
  induction changes generalizing a with
  | nil => exact h
  | cons change changes ih => exact ih h.2

end WindowChange

open WindowChange

lemma removals_leads (previous next rest : List Window) :
    Leads (removals previous next) (previous ++ rest) (common previous next ++ rest) := by
  induction previous using List.reverseRecOn generalizing rest with
  | nil => exact rfl
  | append_singleton previous window ih =>
    rw [removals_concat]
    split_ifs with hn
    · have hstep := ih (window :: rest)
      simpa [common, hn] using hstep
    · have hremoved : Leads [.removed previous.length window.id] (previous ++ [window] ++ rest)
          (previous ++ rest) := by
        refine ⟨by simp [Fits], ?_⟩
        simp [WindowChange.apply, Leads, List.eraseIdx_append_of_length_le]
      simpa [common, hn] using hremoved.append (ih rest)

lemma update_leads (placed tail : List Window) {old window : Window} (hid : old.id = window.id) :
    Leads (if old = window then [] else [.updated placed.length window]) (placed ++ old :: tail)
      (placed ++ window :: tail) := by
  split_ifs with he
  · rw [he]
    exact rfl
  · refine ⟨by simp [Fits, hid], ?_⟩
    simp [WindowChange.apply, Leads]

lemma move_leads (placed front back : List Window) {old window : Window}
    (hid : old.id = window.id) :
    Leads (if front = [] then []
        else [.moved window.id (placed.length + front.length) placed.length])
      (placed ++ (front ++ old :: back)) (placed ++ old :: (front ++ back)) := by
  split_ifs with hmove
  · rw [hmove]
    exact rfl
  · have hget : (placed ++ (front ++ old :: back))[placed.length + front.length]? = some old := by
      simp
    have herase : (placed ++ (front ++ old :: back)).eraseIdx (placed.length + front.length) =
        placed ++ (front ++ back) := by
      simpa using eraseIdx_append_length (placed ++ front) back old
    refine ⟨⟨by simp [hid], by simp⟩, ?_⟩
    rw [WindowChange.apply, hget, Option.elim_some, herase, insertIdx_append_length]
    exact rfl

lemma place_leads (placed : List Window) {tail : List Window} (window : Window)
    (ht : (tail.map Window.id).Nodup) :
    Leads (place tail placed.length window) (placed ++ tail)
      (placed ++ window :: tail.filter (·.id ≠ window.id)) := by
  rcases place_cases ht placed.length window with
    ⟨hm, hrest, hplace⟩ | ⟨front, old, back, rfl, hid, -, hrest, hplace⟩
  · rw [hplace, hrest]
    refine ⟨by simp [Fits], ?_⟩
    rw [WindowChange.apply, insertIdx_append_length]
    exact rfl
  · rw [hplace, hrest]
    exact (move_leads placed front back hid).append (update_leads placed (front ++ back) hid)

lemma placements_leads (placed : List Window) {tail next : List Window}
    (ht : (tail.map Window.id).Nodup)
    (hsub : ∀ window ∈ tail, window.id ∈ next.map Window.id) :
    Leads (placements tail placed.length next) (placed ++ tail) (placed ++ next) := by
  induction next generalizing placed tail with
  | nil =>
    obtain rfl : tail = [] := List.eq_nil_iff_forall_not_mem.mpr fun window hw => by
      simpa using hsub window hw
    exact rfl
  | cons window next ih =>
    have hrest := subset_of_placed hsub
    have hstep := ih (placed ++ [window]) (ht.sublist (List.filter_sublist.map _)) hrest
    refine (place_leads placed window ht).append ?_
    simpa using hstep

lemma diffWindows_leads {previous next : List Window} (hp : (previous.map Window.id).Nodup)
    (hn : (next.map Window.id).Nodup) : Leads (diffWindows previous next) previous next := by
  have hremove := removals_leads previous next []
  rw [List.append_nil, List.append_nil] at hremove
  rw [diffWindows_eq hp hn]
  exact hremove.append (placements_leads [] (hp.sublist (List.filter_sublist.map _))
    fun window hw => (mem_common.mp hw).2)

lemma foldl_apply_diffWindows {previous next : List Window}
    (hp : (previous.map Window.id).Nodup) (hn : (next.map Window.id).Nodup) :
    (diffWindows previous next).foldl WindowChange.apply previous = next :=
  (diffWindows_leads hp hn).foldl

/-- Between lists with distinct ids the diff runs without a panic, and executing its changes in
order leads from the one list to the other, each change in bounds and at the window it names. -/
theorem diff_is_sequential_patch (previous next : List Window)
    (hp : (previous.map Window.id).Nodup) (hn : (next.map Window.id).Nodup) :
    diffWindows? previous next = some (diffWindows previous next) ∧
      Leads (diffWindows previous next) previous next := by
  refine ⟨?_, diffWindows_leads hp hn⟩
  rw [diffWindows_eq hp hn]
  exact diffWindows_run hp hn

theorem diff_is_sequential_patch_shuffled :
    let window (id : UInt64) (title : String) : Window := ⟨id, some "app", some title, none⟩
    let previous := [window 1 "One", window 2 "Two", window 3 "Three", window 5 "Five"]
    let next := [window 5 "Five", window 3 "Renamed", window 4 "Four", window 1 "One"]
    diffWindows? previous next = some (diffWindows previous next) ∧
      Leads (diffWindows previous next) previous next :=
  diff_is_sequential_patch _ _ (by decide) (by decide)

end Melibea
