import Melibea.Admission
import Melibea.Library.Machine
import Mathlib.Data.List.Destutter

/-! The thread that accepts connections. -/

namespace Melibea

open Library Machine

structure AcceptError where
  errno : Option ℤ
  wouldBlock : Bool
  text : String
  deriving DecidableEq

-- `EBADF`, `EINVAL` and `ENOTSOCK`
def AcceptError.isFatal (self : AcceptError) : Bool :=
  [some 9, some 22, some 88].contains self.errno

inductive AcceptReport
  | unrecoverable (error : AcceptError)
  | transient (error : AcceptError)
  | stoppedRunning
  deriving DecidableEq

def AcceptReport.text : AcceptReport → String
  | unrecoverable error =>
    s!"accept failed unrecoverably ({error.text}); the socket will not answer again " ++
      "until Melibea restarts"
  | transient error => s!"accept failed ({error.text}); still listening"
  | stoppedRunning => "accept loop stopped while the service was still running"

inductive Accept
  | connection (stream : ByteStream)
  | failed (error : AcceptError)

structure AcceptTurn where
  running : Bool
  accept : Accept

inductive AcceptLoop
  | accepting (reported : Option ℤ)
  | leaving
  | ended
  deriving DecidableEq

structure AcceptEffects where
  readers : List ByteStream
  reports : List AcceptReport

namespace AcceptLoop

def step (self : AcceptLoop) (turn : AcceptTurn) : AcceptEffects × AcceptLoop :=
  match self with
  | .accepting reported =>
    if turn.running then
      match turn.accept with
      | .connection stream => (⟨[stream], []⟩, .accepting none)
      | .failed error =>
        if error.wouldBlock then (⟨[], []⟩, .accepting reported)
        else if error.isFatal then (⟨[], [.unrecoverable error]⟩, .leaving)
        else if reported ≠ error.errno then (⟨[], [.transient error]⟩, .accepting error.errno)
        else (⟨[], []⟩, .accepting reported)
    else (⟨[], []⟩, .leaving)
  | .leaving => (⟨[], if turn.running then [.stoppedRunning] else []⟩, .ended)
  | .ended => (⟨[], []⟩, .ended)

abbrev after (turns : List AcceptTurn) : AcceptLoop := run step (.accepting none) turns

def readers (turns : List AcceptTurn) : List ByteStream :=
  (outputs step (.accepting none) turns).flatMap (·.readers)

def reports (turns : List AcceptTurn) : List AcceptReport :=
  (outputs step (.accepting none) turns).flatMap (·.reports)

end AcceptLoop

namespace AcceptTurn

def stream? (turn : AcceptTurn) : Option ByteStream :=
  match turn.accept with
  | .connection stream => some stream
  | .failed _ => none

def fatal? (turn : AcceptTurn) : Option AcceptError :=
  match turn.accept with
  | .connection _ => none
  | .failed error => if turn.running && !error.wouldBlock && error.isFatal then some error else none

def condition? (turn : AcceptTurn) : Option (Option AcceptError) :=
  match turn.accept with
  | .connection _ => some none
  | .failed error => if error.wouldBlock then none else some (some error)

def listens (turn : AcceptTurn) : Bool := turn.running && turn.fatal?.isNone

end AcceptTurn

def Changed (before now : Option AcceptError) : Prop :=
  before.bind (·.errno) ≠ now.bind (·.errno)

instance : DecidableRel Changed := fun _ _ => inferInstanceAs (Decidable (_ ≠ _))

def changes (conditions : List (Option AcceptError)) : List AcceptError :=
  (conditions.destutter' Changed none).filterMap id

namespace AcceptLoop

def farewell : List AcceptTurn → List AcceptReport
  | [] => []
  | turn :: more =>
    turn.fatal?.toList.map .unrecoverable ++
      (more.head?.filter (·.running)).toList.map fun _ => .stoppedRunning

lemma run_ended (turns : List AcceptTurn) : run step .ended turns = .ended :=
  run_invariant step (P := (· = .ended)) (fun _ _ h => by rw [h]; rfl) rfl turns

lemma outputs_ended (turns : List AcceptTurn) :
    (outputs step .ended turns).flatMap (·.readers) = [] ∧
      (outputs step .ended turns).flatMap (·.reports) = [] := by
  induction turns with
  | nil => exact ⟨rfl, rfl⟩
  | cons turn turns ih => exact ih

lemma outputs_leaving (turns : List AcceptTurn) :
    (outputs step .leaving turns).flatMap (·.readers) = [] ∧
      (outputs step .leaving turns).flatMap (·.reports) =
        (turns.head?.filter (·.running)).toList.map fun _ => .stoppedRunning := by
  cases turns with
  | nil => exact ⟨rfl, rfl⟩
  | cons turn turns =>
    obtain ⟨hreaders, hreports⟩ := outputs_ended turns
    refine ⟨hreaders, (congrArg (_ ++ ·) hreports).trans ?_⟩
    rw [List.append_nil, step, List.head?_cons, Option.filter_some]
    cases turn.running <;> rfl

inductive Turned (reported : Option AcceptError) (turn : AcceptTurn) :
    AcceptEffects × AcceptLoop → Prop
  | quiet : turn.listens → turn.condition? = none →
    Turned reported turn (⟨turn.stream?.toList, []⟩, .accepting (reported.bind (·.errno)))
  | unchanged {now : Option AcceptError} : turn.listens → turn.condition? = some now →
    ¬ Changed reported now →
    Turned reported turn (⟨turn.stream?.toList, []⟩, .accepting (reported.bind (·.errno)))
  | changed {now : Option AcceptError} : turn.listens → turn.condition? = some now →
    Changed reported now →
    Turned reported turn
      (⟨turn.stream?.toList, now.toList.map .transient⟩, .accepting (now.bind (·.errno)))
  | stopped : turn.listens = false →
    Turned reported turn (⟨[], turn.fatal?.toList.map .unrecoverable⟩, .leaving)

lemma turned (reported : Option AcceptError) (turn : AcceptTurn) :
    Turned reported turn (step (.accepting (reported.bind (·.errno))) turn) := by
  obtain ⟨_ | _, accept⟩ := turn
  · cases accept <;> exact .stopped rfl
  · cases accept with
    | connection stream =>
      by_cases hc : Changed reported none
      · exact .changed rfl rfl hc
      · have h : Turned reported ⟨true, .connection stream⟩ _ := .unchanged rfl rfl hc
        rw [not_not.mp hc] at h
        exact h
    | failed error =>
      have hcondition (hb : ¬ error.wouldBlock) :
          AcceptTurn.condition? ⟨true, .failed error⟩ = some (some error) := if_neg hb
      simp only [step, if_true]
      split_ifs with hb hf hc
      · exact .quiet (by simp [AcceptTurn.listens, AcceptTurn.fatal?, hb]) (if_pos hb)
      · have hfatal : AcceptTurn.fatal? ⟨true, .failed error⟩ = some error := by
          simp [AcceptTurn.fatal?, hb, hf]
        have h : Turned reported ⟨true, .failed error⟩ _ :=
          .stopped (by simp [AcceptTurn.listens, hfatal])
        rw [hfatal] at h
        exact h
      · exact .changed (by simp [AcceptTurn.listens, AcceptTurn.fatal?, hf]) (hcondition hb) hc
      · exact .unchanged (by simp [AcceptTurn.listens, AcceptTurn.fatal?, hf]) (hcondition hb) hc

def heard (turns : List AcceptTurn) : List AcceptTurn := turns.takeWhile AcceptTurn.listens

def unheard (turns : List AcceptTurn) : List AcceptTurn := turns.dropWhile AcceptTurn.listens

lemma heard_cons {turn : AcceptTurn} (hl : turn.listens) (turns : List AcceptTurn) :
    heard (turn :: turns) = turn :: heard turns ∧ unheard (turn :: turns) = unheard turns :=
  ⟨List.takeWhile_cons_of_pos hl, List.dropWhile_cons_of_pos hl⟩

lemma heard_stopped {turn : AcceptTurn} (hl : turn.listens = false) (turns : List AcceptTurn) :
    heard (turn :: turns) = [] ∧ unheard (turn :: turns) = turn :: turns := by
  have hn : ¬ turn.listens := by rw [hl]; exact Bool.false_ne_true
  exact ⟨List.takeWhile_cons_of_neg hn, List.dropWhile_cons_of_neg hn⟩

lemma readers_accepting (reported : Option AcceptError) (turns : List AcceptTurn) :
    (outputs step (.accepting (reported.bind (·.errno))) turns).flatMap (·.readers) =
      (heard turns).filterMap AcceptTurn.stream? := by
  induction turns generalizing reported with
  | nil => rfl
  | cons turn turns ih =>
    have ht := turned reported turn
    rw [outputs_cons, List.flatMap_cons]
    generalize step (.accepting (reported.bind (·.errno))) turn = out at ht
    have hcons : turn.stream?.toList ++ (heard turns).filterMap AcceptTurn.stream? =
        (turn :: heard turns).filterMap AcceptTurn.stream? := by
      rw [List.filterMap_cons]
      cases turn.stream? <;> rfl
    cases ht with
    | quiet hl _ | unchanged hl _ _ => rw [(heard_cons hl turns).1, ← hcons, ih reported]
    | @changed now hl _ _ => rw [(heard_cons hl turns).1, ← hcons, ih now]
    | stopped hl =>
      rw [(heard_stopped hl turns).1]
      exact (outputs_leaving turns).1

lemma reports_accepting (reported : Option AcceptError) (turns : List AcceptTurn) :
    reported.toList.map .transient ++
        (outputs step (.accepting (reported.bind (·.errno))) turns).flatMap (·.reports) =
      ((((heard turns).filterMap AcceptTurn.condition?).destutter' Changed reported).filterMap
        id).map .transient ++ farewell (unheard turns) := by
  induction turns generalizing reported with
  | nil => cases reported <;> rfl
  | cons turn turns ih =>
    have ht := turned reported turn
    rw [outputs_cons, List.flatMap_cons]
    generalize step (.accepting (reported.bind (·.errno))) turn = out at ht
    cases ht with
    | quiet hl hc =>
      rw [(heard_cons hl turns).1, (heard_cons hl turns).2, List.filterMap_cons_none hc]
      exact ih reported
    | unchanged hl hc hu =>
      rw [(heard_cons hl turns).1, (heard_cons hl turns).2, List.filterMap_cons_some hc,
        List.destutter'_cons_neg _ hu]
      exact ih reported
    | @changed now hl hc hu =>
      rw [(heard_cons hl turns).1, (heard_cons hl turns).2, List.filterMap_cons_some hc,
        List.destutter'_cons_pos _ hu]
      dsimp only
      rw [ih now]
      cases reported <;> rfl
    | stopped hl =>
      rw [(heard_stopped hl turns).1, (heard_stopped hl turns).2, (outputs_leaving turns).2]
      cases reported <;> rfl

def stage (reported : Option ℤ) : List AcceptTurn → AcceptLoop
  | [] => .accepting reported
  | [_] => .leaving
  | _ => .ended

lemma run_accepting (reported : Option AcceptError) (turns : List AcceptTurn) : ∃ last,
    run step (.accepting (reported.bind (·.errno))) turns = stage last (unheard turns) := by
  induction turns generalizing reported with
  | nil => exact ⟨_, rfl⟩
  | cons turn turns ih =>
    have ht := turned reported turn
    rw [run_cons]
    generalize step (.accepting (reported.bind (·.errno))) turn = out at ht
    cases ht with
    | quiet hl _ | unchanged hl _ _ =>
      rw [(heard_cons hl turns).2]
      exact ih reported
    | @changed now hl _ _ =>
      rw [(heard_cons hl turns).2]
      exact ih now
    | stopped hl =>
      refine ⟨none, ?_⟩
      rw [(heard_stopped hl turns).2]
      cases turns with
      | nil => rfl
      | cons turn' turns => exact run_ended turns

lemma readers_eq (turns : List AcceptTurn) :
    readers turns = (heard turns).filterMap AcceptTurn.stream? :=
  readers_accepting none turns

lemma reports_eq (turns : List AcceptTurn) :
    reports turns = (changes ((heard turns).filterMap AcceptTurn.condition?)).map .transient ++
      farewell (unheard turns) :=
  reports_accepting none turns

lemma accepting_iff (turns : List AcceptTurn) :
    (∃ reported, after turns = .accepting reported) ↔ ∀ turn ∈ turns, turn.listens := by
  obtain ⟨last, hlast⟩ := run_accepting none turns
  have hafter : after turns = stage last (unheard turns) := hlast
  rw [hafter, ← List.dropWhile_eq_nil_iff]
  change _ ↔ unheard turns = []
  rcases unheard turns with _ | ⟨turn, _ | ⟨turn', more⟩⟩ <;> simp [stage]

lemma dropped (first second : Accept) (self : AcceptLoop) :
    run step self [⟨false, first⟩, ⟨false, second⟩] = .ended ∧
      (outputs step self [⟨false, first⟩, ⟨false, second⟩]).flatMap (·.readers) = [] ∧
      (outputs step self [⟨false, first⟩, ⟨false, second⟩]).flatMap (·.reports) = [] := by
  cases self <;> exact ⟨rfl, rfl, rfl⟩

end AcceptLoop

open AcceptLoop

/-- The accepting thread hands every connection to a reader until the service is dropped or the
listener is broken. It reports each error unless the last one was the same and nothing has worked
since, and says so when it stops on its own. -/
theorem accept_loop_keeps_listening (turns : List AcceptTurn) :
    ((∃ reported, after turns = .accepting reported) ↔ ∀ turn ∈ turns, turn.running ∧
      ¬ ∃ error, turn.accept = .failed error ∧ ¬ error.wouldBlock ∧ error.isFatal) ∧
    readers turns = (heard turns).filterMap AcceptTurn.stream? ∧
    reports turns = (changes ((heard turns).filterMap AcceptTurn.condition?)).map .transient ++
      farewell (unheard turns) ∧
    ∀ first second : Accept, after (turns ++ [⟨false, first⟩, ⟨false, second⟩]) = .ended ∧
      readers (turns ++ [⟨false, first⟩, ⟨false, second⟩]) = readers turns ∧
      reports (turns ++ [⟨false, first⟩, ⟨false, second⟩]) = reports turns := by
  refine ⟨?_, readers_eq turns, reports_eq turns, fun first second => ?_⟩
  · rw [accepting_iff]
    refine forall₂_congr fun turn _ => ?_
    obtain ⟨running, accept⟩ := turn
    cases accept with
    | connection stream => simp [AcceptTurn.listens, AcceptTurn.fatal?]
    | failed error => cases running <;> simp [AcceptTurn.listens, AcceptTurn.fatal?]
  · obtain ⟨hended, hreaders, hreports⟩ := dropped first second (after turns)
    refine ⟨?_, ?_, ?_⟩
    · rw [after, run_append, hended]
    · rw [readers, outputs_append, List.flatMap_append, hreaders, List.append_nil, readers]
    · rw [reports, outputs_append, List.flatMap_append, hreports, List.append_nil, reports]

example :
    let full : AcceptError := ⟨some 24, false, "Too many open files (os error 24)"⟩
    let stream : ByteStream := ⟨[], .closed⟩
    reports [⟨true, .failed full⟩, ⟨true, .failed full⟩, ⟨true, .connection stream⟩,
      ⟨true, .failed full⟩] = [.transient full, .transient full] := by decide

end Melibea
