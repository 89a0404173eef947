import Melibea.Transition

/-! Ordered projection of native minimized windows. -/

namespace Melibea

open Library

structure MinimizedWindow where
  id : WindowId
  appId : Option String
  title : Option String
  deriving DecidableEq

inductive MinimizationEvent
  | snapshot (windows : List MinimizedWindow)
  | minimized (window : MinimizedWindow)
  | metadataChanged (window : MinimizedWindow)
  | restored (id : WindowId)
  | closed (id : WindowId)
  deriving DecidableEq

inductive RemovalReason
  | restored
  | closed
  deriving DecidableEq

inductive RegistryChange
  | snapshotReplaced (previousCount currentCount : ℕ)
  | added (id : WindowId) (index : ℕ)
  | updated (id : WindowId) (index : ℕ)
  | removed (id : WindowId) (index : ℕ) (reason : RemovalReason)
  | unchanged
  | unknownWindow (id : WindowId)
  deriving DecidableEq

inductive MinimizationError
  | duplicateWindow (id : WindowId)
  deriving DecidableEq

def MinimizationError.display : MinimizationError → String
  | .duplicateWindow id => s!"minimized-window snapshot repeats id {id}"

structure MinimizedRegistry where
  windows : List MinimizedWindow
  revision : UInt64
  deriving DecidableEq

namespace MinimizedRegistry

def default : MinimizedRegistry where
  windows := []
  revision := 0

def position (self : MinimizedRegistry) (id : WindowId) : Option ℕ :=
  self.windows.findIdx? (·.id = id)

def advanceRevision (self : MinimizedRegistry) : MinimizedRegistry :=
  { self with revision := Word64.saturatingAdd self.revision 1 }

def repeatedId (seen : List WindowId) : List MinimizedWindow → Option WindowId
  | [] => none
  | window :: windows =>
    if window.id ∈ seen then some window.id else repeatedId (window.id :: seen) windows

def replaceSnapshot (self : MinimizedRegistry) (windows : List MinimizedWindow) :
    Except MinimizationError RegistryChange × MinimizedRegistry :=
  match repeatedId [] windows with
  | some id => (.error (.duplicateWindow id), self)
  | none =>
    if self.windows = windows then (.ok .unchanged, self)
    else
      (.ok (.snapshotReplaced self.windows.length windows.length),
        { self with windows }.advanceRevision)

def minimized (self : MinimizedRegistry) (window : MinimizedWindow) :
    RegistryChange × MinimizedRegistry :=
  match self.position window.id with
  | some index =>
    if self.windows[index]? = some window then (.unchanged, self)
    else
      (.updated window.id index,
        { self with windows := self.windows.set index window }.advanceRevision)
  | none =>
    (.added window.id self.windows.length,
      { self with windows := self.windows ++ [window] }.advanceRevision)

def metadataChanged (self : MinimizedRegistry) (window : MinimizedWindow) :
    RegistryChange × MinimizedRegistry :=
  match self.position window.id with
  | none => (.unknownWindow window.id, self)
  | some index =>
    if self.windows[index]? = some window then (.unchanged, self)
    else
      (.updated window.id index,
        { self with windows := self.windows.set index window }.advanceRevision)

def remove (self : MinimizedRegistry) (id : WindowId) (reason : RemovalReason) :
    RegistryChange × MinimizedRegistry :=
  match self.position id with
  | none => (.unknownWindow id, self)
  | some index =>
    (.removed id index reason,
      { self with windows := self.windows.eraseIdx index }.advanceRevision)

def apply (self : MinimizedRegistry) (event : MinimizationEvent) :
    Except MinimizationError RegistryChange × MinimizedRegistry :=
  match event with
  | .snapshot windows => self.replaceSnapshot windows
  | .minimized window =>
    let (change, self) := self.minimized window
    (.ok change, self)
  | .metadataChanged window =>
    let (change, self) := self.metadataChanged window
    (.ok change, self)
  | .restored id =>
    let (change, self) := self.remove id .restored
    (.ok change, self)
  | .closed id =>
    let (change, self) := self.remove id .closed
    (.ok change, self)

lemma repeatedId_eq_none {seen : List WindowId} {windows : List MinimizedWindow} :
    repeatedId seen windows = none ↔
      (windows.map (·.id)).Nodup ∧ ∀ window ∈ windows, window.id ∉ seen := by
  induction windows generalizing seen with
  | nil => simp [repeatedId]
  | cons window windows ih =>
    by_cases h : window.id ∈ seen
    · simp [repeatedId, h]
    · simp only [repeatedId, h, if_false, ih, List.map_cons, List.nodup_cons, List.mem_cons,
        List.mem_map, forall_eq_or_imp]
      grind

end MinimizedRegistry

end Melibea
