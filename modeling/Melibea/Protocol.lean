import Melibea.Minimization
import Melibea.Library.Binary64

/-! The versioned contract exposed by the daemon. -/

namespace Melibea

open Library

def protocolVersion : UInt32 := 1

def protocolVersionV2 : UInt32 := 2

def supportedProtocolVersions : List UInt32 := [protocolVersion, protocolVersionV2]

def maxOutputNameBytes : ℕ := 256

inductive ErrorCode
  | incompatibleVersion
  | invalidRequest
  | unavailable
  | actionFailed
  deriving DecidableEq

structure ProtocolError where
  code : ErrorCode
  message : String
  supportedVersions : List UInt32
  deriving DecidableEq

namespace ProtocolError

def incompatible (requested : UInt32) : ProtocolError where
  code := .incompatibleVersion
  message :=
    s!"unsupported Melibea protocol version {requested}; supported versions are 1 and 2"
  supportedVersions := supportedProtocolVersions

def invalidRequest (message : String) : ProtocolError where
  code := .invalidRequest
  message := message
  supportedVersions := []

def unavailable (message : String) : ProtocolError where
  code := .unavailable
  message := message
  supportedVersions := []

def actionFailed (message : String) : ProtocolError where
  code := .actionFailed
  message := message
  supportedVersions := []

end ProtocolError

structure BubbleAnchor where
  output : String
  x : Binary64
  y : Binary64
  width : Binary64
  height : Binary64
  deriving DecidableEq

inductive BubbleAnchorError
  | emptyOutput
  | outputTooLong
  | nonFiniteGeometry
  | nonPositiveSize
  | invalidEdges
  deriving DecidableEq

def BubbleAnchorError.display : BubbleAnchorError → String
  | .emptyOutput => "output name is empty"
  | .outputTooLong => s!"output name exceeds {maxOutputNameBytes} UTF-8 bytes"
  | .nonFiniteGeometry => "geometry must be finite"
  | .nonPositiveSize => "width and height must be positive"
  | .invalidEdges => "geometry edges overflow or lose positive extent"

def BubbleAnchor.validate (self : BubbleAnchor) : Except BubbleAnchorError Unit :=
  if self.output.isEmpty then .error .emptyOutput
  else if self.output.utf8ByteSize > maxOutputNameBytes then .error .outputTooLong
  else if ! [self.x, self.y, self.width, self.height].all (·.isFinite) then
    .error .nonFiniteGeometry
  else if self.width.le .zero || self.height.le .zero then .error .nonPositiveSize
  else
    let right := self.x.add self.width
    let bottom := self.y.add self.height
    if !right.isFinite || !bottom.isFinite || right.le self.x || bottom.le self.y then
      .error .invalidEdges
    else .ok ()

def BubbleAnchor.new (output : String) (x y width height : Binary64) :
    Except BubbleAnchorError BubbleAnchor :=
  let anchor : BubbleAnchor := { output, x, y, width, height }
  anchor.validate.map fun _ => anchor

inductive WindowTransition
  | anchored (anchor : BubbleAnchor)
  | disabled
  deriving DecidableEq

def WindowTransition.validate : WindowTransition → Except BubbleAnchorError Unit
  | .anchored anchor => anchor.validate
  | .disabled => .ok ()

inductive Request
  | list
  | subscribe
  | minimize (windowId : Option UInt64) (transition : Option WindowTransition)
  | restore (windowId : UInt64) (transition : Option WindowTransition)
  | close (windowId : UInt64)
  deriving DecidableEq

def Request.validateForVersion (self : Request) (version : UInt32) : Except ProtocolError Unit :=
  let transition :=
    match self with
    | .minimize _ transition | .restore _ transition => transition
    | .list | .subscribe | .close _ => none
  if version = protocolVersion ∧ transition.isSome then
    .error (.invalidRequest "window transitions require Melibea protocol version 2")
  else
    match transition with
    | some transition => transition.validate.mapError fun error =>
        .invalidRequest s!"invalid window transition: {error.display}"
    | none => .ok ()

structure ClientRequest where
  version : UInt32
  request : Request
  deriving DecidableEq

namespace ClientRequest

def new (request : Request) : ClientRequest where
  version := protocolVersion
  request := request

def v2 (request : Request) : ClientRequest where
  version := protocolVersionV2
  request := request

def validate (self : ClientRequest) : Except ProtocolError Unit :=
  if self.version ∉ supportedProtocolVersions then .error (.incompatible self.version)
  else self.request.validateForVersion self.version

end ClientRequest

structure Window where
  id : UInt64
  appId : Option String
  title : Option String
  iconName : Option String
  deriving DecidableEq

def Window.ofMinimized (window : MinimizedWindow) : Window where
  id := window.id
  appId := window.appId
  title := window.title
  iconName := none

inductive WindowChange
  | added (index : ℕ) (window : Window)
  | updated (index : ℕ) (window : Window)
  | moved (windowId : UInt64) (fromIndex toIndex : ℕ)
  | removed (index : ℕ) (windowId : UInt64)
  deriving DecidableEq

inductive Operation
  | minimize
  | restore
  | close
  deriving DecidableEq

inductive ActionStatus
  | applied
  | alreadyInRequestedState
  | closeRequested
  | windowNotFound
  | blocked
  | legacyHandled
  deriving DecidableEq

structure ActionResult where
  operation : Operation
  requestedId : Option UInt64
  windowId : Option UInt64
  status : ActionStatus
  deriving DecidableEq

inductive Message
  | snapshot (revision : UInt64) (windows : List Window)
  | changes (revision : UInt64) (changes : List WindowChange)
  | actionResult (result : ActionResult)
  | unavailable (revision : UInt64) (reason : String)
  | error (error : ProtocolError)
  deriving DecidableEq

structure ServerMessage where
  version : UInt32
  message : Message
  deriving DecidableEq

namespace ServerMessage

def new (message : Message) : ServerMessage where
  version := protocolVersion
  message := message

def forVersion (version : UInt32) (message : Message) : ServerMessage where
  version := version
  message := message

end ServerMessage

def removeMissing (next : List Window) (state : List Window × List WindowChange) (index : ℕ) :
    List Window × List WindowChange :=
  let (current, changes) := state
  match current[index]? with
  | none => state
  | some window =>
    if next.any (·.id = window.id) then state
    else (current.eraseIdx index, changes ++ [.removed index window.id])

def placeWindow (state : List Window × List WindowChange) (target : Window × ℕ) :
    List Window × List WindowChange :=
  let (current, changes) := state
  let (nextWindow, targetIndex) := target
  match current.findIdx? (·.id = nextWindow.id) with
  | none => (current.insertIdx targetIndex nextWindow, changes ++ [.added targetIndex nextWindow])
  | some currentIndex =>
    let (current, changes) : List Window × List WindowChange :=
      if currentIndex ≠ targetIndex then
        (current[currentIndex]?.elim current
            ((current.eraseIdx currentIndex).insertIdx targetIndex ·),
          changes ++ [.moved nextWindow.id currentIndex targetIndex])
      else (current, changes)
    if current[targetIndex]? ≠ some nextWindow then
      (current.set targetIndex nextWindow, changes ++ [.updated targetIndex nextWindow])
    else (current, changes)

def diffWindows (previous next : List Window) : List WindowChange :=
  let state := (List.range previous.length).reverse.foldl (removeMissing next) (previous, [])
  (next.zipIdx.foldl placeWindow state).2

end Melibea
