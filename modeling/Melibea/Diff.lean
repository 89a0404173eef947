import Melibea.Protocol
import Melibea.Library.KeyedList
import Mathlib.Data.List.Nodup

/-! What `diff_windows` emits, and that its two loops do not panic. -/

namespace Melibea

open Library

def removeMissing? (next : List Window) (state : List Window × List WindowChange) (index : ℕ) :
    Option (List Window × List WindowChange) := do
  let (current, changes) := state
  let window ← current[index]?
  if next.any (·.id = window.id) then some state
  else some (current.eraseIdx index, changes ++ [.removed index window.id])

def insert? (windows : List Window) (index : ℕ) (window : Window) : Option (List Window) :=
  if index ≤ windows.length then some (windows.insertIdx index window) else none

def moveWindow? (state : List Window × List WindowChange) (id : UInt64)
    (currentIndex targetIndex : ℕ) : Option (List Window × List WindowChange) :=
  let (current, changes) := state
  if currentIndex ≠ targetIndex then do
    let window ← current[currentIndex]?
    let current ← insert? (current.eraseIdx currentIndex) targetIndex window
    return (current, changes ++ [.moved id currentIndex targetIndex])
  else some state

def updateWindow? (state : List Window × List WindowChange) (nextWindow : Window)
    (targetIndex : ℕ) : Option (List Window × List WindowChange) := do
  let (current, changes) := state
  let window ← current[targetIndex]?
  if window ≠ nextWindow then
    some (current.set targetIndex nextWindow, changes ++ [.updated targetIndex nextWindow])
  else some state

def placeWindow? (state : List Window × List WindowChange) (target : Window × ℕ) :
    Option (List Window × List WindowChange) :=
  let (current, changes) := state
  let (nextWindow, targetIndex) := target
  match current.findIdx? (·.id = nextWindow.id) with
  | none => do
    let current ← insert? current targetIndex nextWindow
    return (current, changes ++ [.added targetIndex nextWindow])
  | some currentIndex => do
    let state ← moveWindow? state nextWindow.id currentIndex targetIndex
    updateWindow? state nextWindow targetIndex

/-- `diff_windows` in a debug build; `none` stands for a panic. -/
def diffWindows? (previous next : List Window) : Option (List WindowChange) := do
  let state ← (List.range previous.length).reverse.foldlM (removeMissing? next) (previous, [])
  let (current, changes) ← next.zipIdx.foldlM placeWindow? state
  if current = next then some changes else none

lemma removeMissing_of_some {next : List Window} {state state' : List Window × List WindowChange}
    {index : ℕ} (h : removeMissing? next state index = some state') :
    removeMissing next state index = state' := by
  obtain ⟨current, changes⟩ := state
  simp only [removeMissing?, bind, Option.bind_eq_some_iff] at h
  obtain ⟨window, hw, h⟩ := h
  simp only [removeMissing, hw]
  split_ifs at h ⊢ <;> exact Option.some.inj h

lemma insert_of_some {windows inserted : List Window} {index : ℕ} {window : Window}
    (h : insert? windows index window = some inserted) :
    windows.insertIdx index window = inserted := by
  rw [insert?] at h
  split_ifs at h
  exact Option.some.inj h

lemma moveWindow_of_some {current : List Window} {changes : List WindowChange}
    {state : List Window × List WindowChange} {id : UInt64} {currentIndex targetIndex : ℕ}
    (h : moveWindow? (current, changes) id currentIndex targetIndex = some state) :
    (if currentIndex ≠ targetIndex then
        (current[currentIndex]?.elim current
            ((current.eraseIdx currentIndex).insertIdx targetIndex ·),
          changes ++ [.moved id currentIndex targetIndex])
      else (current, changes)) = state := by
  rw [moveWindow?] at h
  split_ifs at h ⊢
  · simp only [bind, Option.bind_eq_some_iff, pure, Option.some.injEq] at h
    obtain ⟨window, hw, inserted, hi, rfl⟩ := h
    rw [hw, Option.elim_some, insert_of_some hi]
  · exact Option.some.inj h

lemma updateWindow_of_some {current : List Window} {changes : List WindowChange}
    {state : List Window × List WindowChange} {nextWindow : Window} {targetIndex : ℕ}
    (h : updateWindow? (current, changes) nextWindow targetIndex = some state) :
    (if current[targetIndex]? ≠ some nextWindow then
        (current.set targetIndex nextWindow, changes ++ [.updated targetIndex nextWindow])
      else (current, changes)) = state := by
  simp only [updateWindow?, bind, Option.bind_eq_some_iff] at h
  obtain ⟨window, hw, h⟩ := h
  rw [hw]
  by_cases hsame : window = nextWindow
  · simpa [hsame] using h
  · simpa [hsame] using h

lemma placeWindow_of_some {state state' : List Window × List WindowChange} {target : Window × ℕ}
    (h : placeWindow? state target = some state') : placeWindow state target = state' := by
  obtain ⟨current, changes⟩ := state
  obtain ⟨nextWindow, targetIndex⟩ := target
  simp only [placeWindow?, placeWindow] at h ⊢
  cases hf : current.findIdx? (·.id = nextWindow.id) with
  | none =>
    simp only [hf, bind, Option.bind_eq_some_iff, pure, Option.some.injEq] at h ⊢
    obtain ⟨inserted, hi, rfl⟩ := h
    rw [insert_of_some hi]
  | some currentIndex =>
    simp only [hf, bind, Option.bind_eq_some_iff] at h ⊢
    obtain ⟨⟨moved, changes'⟩, hmove, hupdate⟩ := h
    rw [moveWindow_of_some hmove]
    exact updateWindow_of_some hupdate

lemma foldl_of_foldlM {σ ι : Type} {f : σ → ι → σ} {f? : σ → ι → Option σ}
    (hf : ∀ {s x s'}, f? s x = some s' → f s x = s') {s s' : σ} {xs : List ι}
    (h : xs.foldlM f? s = some s') : xs.foldl f s = s' := by
  induction xs generalizing s with
  | nil => exact Option.some.inj h
  | cons x xs ih =>
    obtain ⟨next, hnext, h⟩ := Option.bind_eq_some_iff.mp (List.foldlM_cons.symm.trans h)
    rw [List.foldl_cons, hf hnext]
    exact ih h

lemma diffWindows_of_some {previous next : List Window} {changes : List WindowChange}
    (h : diffWindows? previous next = some changes) : diffWindows previous next = changes := by
  simp only [diffWindows?, bind, Option.bind_eq_some_iff] at h
  obtain ⟨state, hremove, ⟨current, changes'⟩, hplace, h⟩ := h
  split_ifs at h
  rw [diffWindows, foldl_of_foldlM removeMissing_of_some hremove,
    foldl_of_foldlM placeWindow_of_some hplace]
  exact Option.some.inj h

def removals (previous next : List Window) : List WindowChange :=
  ((previous.zipIdx.filter fun (window, _) => !next.any (·.id = window.id)).map
    fun (window, index) => .removed index window.id).reverse

def place (tail : List Window) (targetIndex : ℕ) (window : Window) : List WindowChange :=
  match tail.findIdx? (·.id = window.id) with
  | none => [.added targetIndex window]
  | some index =>
    (if index = 0 then [] else [.moved window.id (targetIndex + index) targetIndex]) ++
      if tail[index]? = some window then [] else [.updated targetIndex window]

def placements (tail : List Window) (targetIndex : ℕ) : List Window → List WindowChange
  | [] => []
  | window :: next =>
    place tail targetIndex window ++
      placements (tail.filter (·.id ≠ window.id)) (targetIndex + 1) next

def common (previous next : List Window) : List Window :=
  previous.filter fun window => next.any (·.id = window.id)

variable {changes : List WindowChange}

lemma removals_concat (previous next : List Window) (window : Window) :
    removals (previous ++ [window]) next =
      (if next.any (·.id = window.id) then [] else [.removed previous.length window.id]) ++
        removals previous next := by
  rw [removals, List.zipIdx_append, List.filter_append, List.map_append, List.reverse_append,
    removals]
  cases h : next.any (·.id = window.id) <;> simp [h]

lemma removeMissing_run (previous next rest : List Window) (changes : List WindowChange) :
    (List.range previous.length).reverse.foldlM (removeMissing? next) (previous ++ rest, changes) =
      some (common previous next ++ rest, changes ++ removals previous next) := by
  induction previous using List.reverseRecOn generalizing rest changes with
  | nil => simp [removals, common]
  | append_singleton previous window ih =>
    have hget : (previous ++ [window] ++ rest)[previous.length]? = some window := by simp
    have herase : (previous ++ [window] ++ rest).eraseIdx previous.length = previous ++ rest := by
      simp [List.eraseIdx_append_of_length_le]
    have hhead : removeMissing? next (previous ++ [window] ++ rest, changes) previous.length =
        some (if next.any (·.id = window.id) then (previous ++ (window :: rest), changes)
          else (previous ++ rest, changes ++ [.removed previous.length window.id])) := by
      simp only [removeMissing?, hget, herase, bind, Option.bind_some]
      split_ifs <;> simp
    rw [List.length_append, List.length_singleton, List.range_succ, List.reverse_append,
      List.reverse_singleton, List.singleton_append, List.foldlM_cons, hhead, removals_concat]
    refine (Option.bind_some _ _).trans ?_
    split_ifs with hn
    · rw [ih]
      simp [common, hn]
    · rw [ih]
      simp [common, hn]

lemma insertIdx_append_length (a b : List Window) (window : Window) :
    (a ++ b).insertIdx a.length window = a ++ window :: b := by
  induction a with
  | nil => rfl
  | cons other a ih => simp [ih]

lemma eraseIdx_append_length (a b : List Window) (window : Window) :
    (a ++ window :: b).eraseIdx a.length = a ++ b := by
  simp [List.eraseIdx_append_of_length_le]

lemma place_cases {tail : List Window} (ht : (tail.map Window.id).Nodup) (targetIndex : ℕ)
    (window : Window) :
    (window.id ∉ tail.map Window.id ∧ tail.filter (·.id ≠ window.id) = tail ∧
      place tail targetIndex window = [.added targetIndex window]) ∨
    ∃ front old back, tail = front ++ old :: back ∧ old.id = window.id ∧
      window.id ∉ front.map Window.id ∧ tail.filter (·.id ≠ window.id) = front ++ back ∧
      place tail targetIndex window =
        (if front = [] then []
          else [.moved window.id (targetIndex + front.length) targetIndex]) ++
        if old = window then [] else [.updated targetIndex window] := by
  by_cases hm : window.id ∈ tail.map Window.id
  · obtain ⟨old, ho, hid⟩ := List.mem_map.mp hm
    obtain ⟨front, back, rfl⟩ := List.append_of_mem ho
    have hfront : window.id ∉ front.map Window.id := by
      rw [List.map_append, List.map_cons, hid, List.nodup_middle, List.nodup_cons,
        List.mem_append, not_or] at ht
      exact ht.1.1
    have hrest := KeyedList.filter_ne_split ht
    rw [hid] at hrest
    refine .inr ⟨front, old, back, rfl, hid, hfront, hrest, ?_⟩
    rw [place, KeyedList.findIdx_split hfront hid]
    simp
  · refine .inl ⟨hm, KeyedList.filter_ne_of_not_mem hm, ?_⟩
    rw [place, KeyedList.findIdx_eq_none.mpr hm]

lemma updateWindow_run (placed tail : List Window) (old window : Window) :
    updateWindow? (placed ++ old :: tail, changes) window placed.length =
      some (placed ++ window :: tail,
        changes ++ if old = window then [] else [.updated placed.length window]) := by
  have hget : (placed ++ old :: tail)[placed.length]? = some old := by simp
  simp only [updateWindow?, hget, bind, Option.bind_some]
  by_cases hsame : old = window
  · simp [hsame]
  · simp [hsame]

lemma moveWindow_run (placed front back : List Window) (old window : Window) :
    moveWindow? (placed ++ (front ++ old :: back), changes) window.id
        (placed.length + front.length) placed.length =
      some (placed ++ old :: (front ++ back),
        changes ++ if front = [] then []
          else [.moved window.id (placed.length + front.length) placed.length]) := by
  by_cases hmove : front = []
  · simp [moveWindow?, hmove]
  · have hget : (placed ++ (front ++ old :: back))[placed.length + front.length]? = some old := by
      simp
    have herase : (placed ++ (front ++ old :: back)).eraseIdx (placed.length + front.length) =
        placed ++ (front ++ back) := by
      simpa using eraseIdx_append_length (placed ++ front) back old
    have hinsert : insert? (placed ++ (front ++ back)) placed.length old =
        some (placed ++ old :: (front ++ back)) := by
      rw [insert?, if_pos (by simp), insertIdx_append_length]
    have hne : placed.length + front.length ≠ placed.length := by simpa using hmove
    simp only [moveWindow?, if_pos hne, hget, herase, hinsert, bind, Option.bind_some, pure,
      if_neg hmove]

lemma placeWindow_run {placed tail : List Window} {window : Window}
    (hp : window.id ∉ placed.map Window.id) (ht : (tail.map Window.id).Nodup) :
    placeWindow? (placed ++ tail, changes) (window, placed.length) =
      some (placed ++ window :: tail.filter (·.id ≠ window.id),
        changes ++ place tail placed.length window) := by
  rcases place_cases ht placed.length window with
    ⟨hm, hrest, hplace⟩ | ⟨front, old, back, rfl, hid, hfront, hrest, hplace⟩
  · have hfind : (placed ++ tail).findIdx? (·.id = window.id) = none := by
      refine KeyedList.findIdx_eq_none.mpr ?_
      rw [List.map_append, List.mem_append]
      exact not_or.mpr ⟨hp, hm⟩
    have hinsert : insert? (placed ++ tail) placed.length window = some (placed ++ window :: tail) := by
      rw [insert?, if_pos (by simp), insertIdx_append_length]
    simp only [placeWindow?, hfind, hinsert, bind, Option.bind_some, pure, hrest, hplace]
  · have hfind : (placed ++ (front ++ old :: back)).findIdx? (·.id = window.id) =
        some (placed.length + front.length) := by
      have hsplit : window.id ∉ (placed ++ front).map Window.id := by
        rw [List.map_append, List.mem_append]
        exact not_or.mpr ⟨hp, hfront⟩
      simpa using KeyedList.findIdx_split hsplit hid back
    simp only [placeWindow?, hfind, moveWindow_run, bind, Option.bind_some, updateWindow_run,
      hrest, hplace, List.append_assoc]

lemma subset_of_placed {tail next : List Window} {window : Window}
    (hsub : ∀ other ∈ tail, other.id ∈ (window :: next).map Window.id) :
    ∀ other ∈ tail.filter (·.id ≠ window.id), other.id ∈ next.map Window.id := by
  intro other ho
  obtain ⟨hmem, hne⟩ := List.mem_filter.mp ho
  have hin := hsub other hmem
  rw [List.map_cons, List.mem_cons] at hin
  exact hin.resolve_left (by simpa using hne)

lemma placements_run (placed : List Window) {tail next : List Window}
    (changes : List WindowChange) (hn : ((placed ++ next).map Window.id).Nodup)
    (ht : (tail.map Window.id).Nodup) (hsub : ∀ window ∈ tail, window.id ∈ next.map Window.id) :
    (next.zipIdx placed.length).foldlM placeWindow? (placed ++ tail, changes) =
      some (placed ++ next, changes ++ placements tail placed.length next) := by
  induction next generalizing placed tail changes with
  | nil =>
    obtain rfl : tail = [] := List.eq_nil_iff_forall_not_mem.mpr fun window hw => by
      simpa using hsub window hw
    simp [placements]
  | cons window next ih =>
    have hp : window.id ∉ placed.map Window.id := by
      rw [List.map_append, List.nodup_append] at hn
      exact fun hm => hn.2.2 _ hm _ (by simp) rfl
    have hrest := subset_of_placed hsub
    have hstep := ih (placed ++ [window]) (changes ++ place tail placed.length window)
      (by simpa using hn) (ht.sublist (List.filter_sublist.map _)) hrest
    rw [List.zipIdx_cons, List.foldlM_cons, placeWindow_run hp ht]
    refine (Option.bind_some _ _).trans ?_
    simpa [placements] using hstep

lemma mem_common {previous next : List Window} {window : Window} :
    window ∈ common previous next ↔ window ∈ previous ∧ window.id ∈ next.map Window.id := by
  rw [common, List.mem_filter, List.any_eq_true, List.mem_map]
  simp only [decide_eq_true_eq]

lemma diffWindows_run {previous next : List Window} (hp : (previous.map Window.id).Nodup)
    (hn : (next.map Window.id).Nodup) :
    diffWindows? previous next =
      some (removals previous next ++ placements (common previous next) 0 next) := by
  have hremove := removeMissing_run previous next [] []
  have hplace : next.zipIdx.foldlM placeWindow? (common previous next, removals previous next) =
      some (next, removals previous next ++ placements (common previous next) 0 next) :=
    placements_run [] _ hn (hp.sublist (List.filter_sublist.map _))
      fun window hw => (mem_common.mp hw).2
  rw [List.append_nil, List.append_nil, List.nil_append] at hremove
  rw [diffWindows?, hremove]
  refine (Option.bind_some _ _).trans ?_
  rw [hplace]
  exact (Option.bind_some _ _).trans (if_pos rfl)

lemma diffWindows_eq {previous next : List Window} (hp : (previous.map Window.id).Nodup)
    (hn : (next.map Window.id).Nodup) :
    diffWindows previous next =
      removals previous next ++ placements (common previous next) 0 next :=
  diffWindows_of_some (diffWindows_run hp hn)

end Melibea
