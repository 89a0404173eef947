import Melibea.Transition
import Melibea.Minimization

/-! Adaptation of niri's event stream to the attention engine. -/

namespace Melibea

open Std Library

structure NiriWindow where
  id : UInt64
  title : Option String
  appId : Option String
  isFocused : Bool
  isFloating : Bool
  deriving DecidableEq

def NiriWindow.windowId (self : NiriWindow) : WindowId := self.id

def NiriWindow.intoRecord (self : NiriWindow) : WindowRecord where
  id := self.id
  appId := self.appId
  title := self.title
  eligibility := if self.isFloating then .excluded .floating else .managed

@[simp] lemma NiriWindow.intoRecord_id (window : NiriWindow) :
    window.intoRecord.id = window.id := rfl

inductive NiriEvent
  | windowsChanged (windows : List NiriWindow)
  | minimizedWindowsChanged (windows : List MinimizedWindow)
  | windowOpenedOrChanged (window : NiriWindow)
  | windowClosed (id : WindowId)
  | windowFocusChanged (id : Option WindowId)
  | ignored (name : String)
  deriving DecidableEq

structure WindowSignature where
  title : Option String
  appId : Option String
  isFloating : Bool
  deriving DecidableEq

def WindowSignature.ofWindow (window : NiriWindow) : WindowSignature where
  title := window.title
  appId := window.appId
  isFloating := window.isFloating

inductive NiriAdapterError
  | multipleFocusedWindows (ids : List WindowId)
  deriving DecidableEq

def NiriAdapterError.display : NiriAdapterError → String
  | .multipleFocusedWindows ids =>
    "niri snapshot contains multiple focused windows: [" ++
      ", ".intercalate (ids.map fun id => s!"WindowId({id})") ++ "]"

structure NiriAdapter where
  engine : AttentionEngine
  knownWindows : ExtTreeMap WindowId WindowSignature

namespace NiriAdapter

def new (config : Config) : NiriAdapter where
  engine := .new config
  knownWindows := ∅

def applyFocus (self : NiriAdapter) (focused : Option WindowId) : FocusTransition × NiriAdapter :=
  let (transition, engine) :=
    if self.engine.focusedWindow = focused then self.engine.reevaluateFocus
    else self.engine.observeFocus focused
  (transition, { self with engine })

def nextWindows (windows : List NiriWindow) : ExtTreeMap WindowId WindowSignature :=
  windows.foldl (fun next window => next.insert window.windowId (.ofWindow window)) ∅

def replacedEngine (self : NiriAdapter) (windows : List NiriWindow) : AttentionEngine :=
  let engine := (self.knownWindows.keys.filter (· ∉ nextWindows windows)).foldl
    (fun engine removed => (engine.removeWindow removed).2) self.engine
  windows.foldl (fun engine window => engine.upsertWindow window.intoRecord) engine

def replaceWindows (self : NiriAdapter) (windows : List NiriWindow) :
    Except NiriAdapterError FocusTransition × NiriAdapter :=
  let focused := (windows.filter (·.isFocused)).map (·.windowId)
  if focused.length > 1 then (.error (.multipleFocusedWindows focused), self)
  else
    let (transition, engine) := (self.replacedEngine windows).synchronizeFocus focused.head?
    (.ok transition, { engine, knownWindows := nextWindows windows })

def apply (self : NiriAdapter) (event : NiriEvent) :
    Except NiriAdapterError (Option FocusTransition) × NiriAdapter :=
  match event with
  | .windowsChanged windows =>
    let (result, self) := self.replaceWindows windows
    (result.map some, self)
  | .windowOpenedOrChanged window =>
    let signature := WindowSignature.ofWindow window
    let relevantChange := self.knownWindows[window.windowId]? ≠ some signature
    let self : NiriAdapter :=
      { engine := self.engine.upsertWindow window.intoRecord
        knownWindows := self.knownWindows.insert window.windowId signature }
    if window.isFocused ∧ relevantChange then
      let (transition, self) := self.applyFocus (some window.windowId)
      (.ok (some transition), self)
    else (.ok none, self)
  | .windowClosed id =>
    (.ok none,
      { engine := (self.engine.removeWindow id).2, knownWindows := self.knownWindows.erase id })
  | .windowFocusChanged id =>
    let (transition, self) := self.applyFocus id
    (.ok (some transition), self)
  | .minimizedWindowsChanged _ | .ignored _ => (.ok none, self)

end NiriAdapter

end Melibea
