import Melibea.Config
import Melibea.Library.OrderedMap
import Melibea.Library.Word64

/-! Focus transitions: the attention engine with no compositor side effects. -/

namespace Melibea

open Std Library

abbrev WindowId := UInt64

inductive ExclusionReason
  | floating
  deriving DecidableEq

inductive WindowEligibility
  | managed
  | excluded (reason : ExclusionReason)
  deriving DecidableEq

structure WindowRecord where
  id : WindowId
  appId : Option String
  title : Option String
  eligibility : WindowEligibility
  deriving DecidableEq

def WindowRecord.identity (self : WindowRecord) : WindowIdentity where
  appId := self.appId
  title := self.title

inductive FocusState
  | focused
  | unfocused
  deriving DecidableEq

def FocusState.isFocused : FocusState → Bool
  | .focused => true
  | .unfocused => false

inductive DecisionOutcome
  | resize (ruleIndex : ℕ) (width : Proportion)
  | preserve (ruleIndex : ℕ)
  | unmanaged
  | excluded (reason : ExclusionReason)
  | unknownWindow
  deriving DecidableEq

structure FocusDecision where
  windowId : WindowId
  state : FocusState
  outcome : DecisionOutcome
  deriving DecidableEq

structure FocusTransition where
  generation : UInt64
  previous : Option WindowId
  current : Option WindowId
  decisions : List FocusDecision
  deriving DecidableEq

structure AttentionEngine where
  config : Config
  windows : ExtTreeMap WindowId WindowRecord
  focused : Option WindowId
  generation : UInt64

namespace AttentionEngine

def new (config : Config) : AttentionEngine where
  config := config
  windows := ∅
  focused := none
  generation := 0

def upsertWindow (self : AttentionEngine) (window : WindowRecord) : AttentionEngine :=
  { self with windows := self.windows.insert window.id window }

def removeWindow (self : AttentionEngine) (windowId : WindowId) : Bool × AttentionEngine :=
  ((self.windows[windowId]?).isSome,
    { self with
      focused := if self.focused = some windowId then none else self.focused
      windows := self.windows.erase windowId })

def focusedWindow (self : AttentionEngine) : Option WindowId := self.focused

def nextGeneration (self : AttentionEngine) : UInt64 × AttentionEngine :=
  let generation := Word64.saturatingAdd self.generation 1
  (generation, { self with generation := generation })

def outcomeOf (config : Config) (window : WindowRecord) (state : FocusState) : DecisionOutcome :=
  match window.eligibility with
  | .excluded reason => .excluded reason
  | .managed =>
    match config.resolve window.identity with
    | none => .unmanaged
    | some resolved =>
      match resolved.rule.policy.widthFor state.isFocused with
      | .proportion width => .resize resolved.index width
      | .preserve => .preserve resolved.index

def decisionFor (self : AttentionEngine) (windowId : WindowId) (state : FocusState) :
    FocusDecision where
  windowId := windowId
  state := state
  outcome := self.windows[windowId]?.elim .unknownWindow (outcomeOf self.config · state)

def observeFocus (self : AttentionEngine) (current : Option WindowId) :
    FocusTransition × AttentionEngine :=
  let (generation, self) := self.nextGeneration
  let previous := self.focused
  let self := { self with focused := current }
  let decisions :=
    if previous ≠ current then
      (previous.map (self.decisionFor · .unfocused)).toList ++
        (current.map (self.decisionFor · .focused)).toList
    else []
  ({ generation, previous, current, decisions }, self)

def reevaluateFocus (self : AttentionEngine) : FocusTransition × AttentionEngine :=
  let (generation, self) := self.nextGeneration
  let current := self.focused
  let decisions := (current.map (self.decisionFor · .focused)).toList
  ({ generation, previous := current, current, decisions }, self)

def synchronizeFocus (self : AttentionEngine) (current : Option WindowId) :
    FocusTransition × AttentionEngine :=
  let (generation, self) := self.nextGeneration
  let previous := self.focused
  let self := { self with focused := current }
  let decisions := self.windows.keys.map fun windowId =>
    self.decisionFor windowId (if some windowId = current then .focused else .unfocused)
  ({ generation, previous, current, decisions }, self)

variable (self : AttentionEngine)

@[simp] lemma upsertWindow_windows (window : WindowRecord) :
    (self.upsertWindow window).windows = self.windows.insert window.id window := rfl

@[simp] lemma upsertWindow_focused (window : WindowRecord) :
    (self.upsertWindow window).focused = self.focused := rfl

@[simp] lemma upsertWindow_config (window : WindowRecord) :
    (self.upsertWindow window).config = self.config := rfl

@[simp] lemma upsertWindow_generation (window : WindowRecord) :
    (self.upsertWindow window).generation = self.generation := rfl

@[simp] lemma removeWindow_windows (id : WindowId) :
    (self.removeWindow id).2.windows = self.windows.erase id := rfl

@[simp] lemma removeWindow_focused (id : WindowId) :
    (self.removeWindow id).2.focused = if self.focused = some id then none else self.focused := rfl

@[simp] lemma removeWindow_config (id : WindowId) :
    (self.removeWindow id).2.config = self.config := rfl

@[simp] lemma removeWindow_generation (id : WindowId) :
    (self.removeWindow id).2.generation = self.generation := rfl

@[simp] lemma decisionFor_windowId (id : WindowId) (state : FocusState) :
    (self.decisionFor id state).windowId = id := rfl

@[simp] lemma decisionFor_state (id : WindowId) (state : FocusState) :
    (self.decisionFor id state).state = state := rfl

lemma decisionFor_congr {self other : AttentionEngine} (hc : self.config = other.config)
    (hw : self.windows = other.windows) (id : WindowId) (state : FocusState) :
    self.decisionFor id state = other.decisionFor id state := by
  simp only [decisionFor, hc, hw]

end AttentionEngine

end Melibea
