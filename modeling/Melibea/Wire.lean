import Melibea.Protocol
import Melibea.Library.Json

/-! The protocol's JSON: what the serde attributes make of its types. -/

namespace Melibea

open Library Json

def optionToJson {α : Type} (toJson : α → Json) : Option α → Json
  | none => .null
  | some a => toJson a

def usizeToJson (n : ℕ) : Json := .unsigned (.ofNat n)

-- JSON has no spelling for an infinity or a NaN.
def f64ToJson (value : Binary64) : Json := if value.isFinite then .float value else .null

namespace BubbleAnchor

def toJson (self : BubbleAnchor) : Json :=
  .object [("output", .string self.output), ("x", f64ToJson self.x), ("y", f64ToJson self.y),
    ("width", f64ToJson self.width), ("height", f64ToJson self.height)]

def ofJson (json : Json) : Option BubbleAnchor := do
  let slot ← fields ["output", "x", "y", "width", "height"] true json
  let output ← (slot "output").required asString
  let x ← (slot "x").required asF64
  let y ← (slot "y").required asF64
  let width ← (slot "width").required asF64
  let height ← (slot "height").required asF64
  return { output, x, y, width, height }

end BubbleAnchor

namespace WindowTransition

def toJson : WindowTransition → Json
  | .anchored anchor => .object [("type", .string "anchored"), ("anchor", anchor.toJson)]
  | .disabled => .object [("type", .string "disabled")]

def ofJson (json : Json) : Option WindowTransition := do
  match ← tagged "type" ["anchored", "disabled"] true json with
  | ("anchored", content) =>
    let slot ← fields ["anchor"] true content
    return .anchored (← (slot "anchor").required BubbleAnchor.ofJson)
  | ("disabled", content) =>
    asUnitContent content
    return .disabled
  | _ => none

end WindowTransition

-- `deserialize_present_transition`: a transition that is present is a real one.
def presentTransition : Slot → Option (Option WindowTransition) :=
  Slot.defaulted none fun json => (WindowTransition.ofJson json).map some

def transitionMembers : Option WindowTransition → List (String × Json)
  | none => []
  | some transition => [("transition", transition.toJson)]

namespace Request

def toJson : Request → Json
  | .list => .object [("type", .string "list")]
  | .subscribe => .object [("type", .string "subscribe")]
  | .minimize windowId transition =>
    .object (("type", .string "minimize") :: ("window_id", optionToJson .unsigned windowId) ::
      transitionMembers transition)
  | .restore windowId transition =>
    .object (("type", .string "restore") :: ("window_id", .unsigned windowId) ::
      transitionMembers transition)
  | .close windowId => .object [("type", .string "close"), ("window_id", .unsigned windowId)]

def ofJson (json : Json) : Option Request := do
  match ← tagged "type" ["list", "subscribe", "minimize", "restore", "close"] false json with
  | ("list", content) =>
    asUnitContent content
    return .list
  | ("subscribe", content) =>
    asUnitContent content
    return .subscribe
  | ("minimize", content) =>
    let slot ← fields ["window_id", "transition"] true content
    let windowId ← (slot "window_id").optional asU64
    return .minimize windowId (← presentTransition (slot "transition"))
  | ("restore", content) =>
    let slot ← fields ["window_id", "transition"] true content
    let windowId ← (slot "window_id").required asU64
    return .restore windowId (← presentTransition (slot "transition"))
  | ("close", content) =>
    let slot ← fields ["window_id"] true content
    return .close (← (slot "window_id").required asU64)
  | _ => none

end Request

namespace ClientRequest

def toJson (self : ClientRequest) : Json :=
  .object [("version", .unsigned self.version.toUInt64), ("request", self.request.toJson)]

def ofJson (json : Json) : Option ClientRequest := do
  let slot ← fields ["version", "request"] false json
  let version ← (slot "version").required asU32
  let request ← (slot "request").required Request.ofJson
  return { version, request }

end ClientRequest

def versionProbe (json : Json) : Option UInt32 := do
  let slot ← fields ["version"] false json
  (slot "version").required asU32

namespace Window

def toJson (self : Window) : Json :=
  .object [("id", .unsigned self.id), ("app_id", optionToJson .string self.appId),
    ("title", optionToJson .string self.title), ("icon_name", optionToJson .string self.iconName)]

def ofJson (json : Json) : Option Window := do
  let slot ← fields ["id", "app_id", "title", "icon_name"] false json
  let id ← (slot "id").required asU64
  let appId ← (slot "app_id").optional asString
  let title ← (slot "title").optional asString
  let iconName ← (slot "icon_name").optional asString
  return { id, appId, title, iconName }

end Window

namespace WindowChange

def toJson : WindowChange → Json
  | .added index window =>
    .object [("type", .string "added"), ("index", usizeToJson index), ("window", window.toJson)]
  | .updated index window =>
    .object [("type", .string "updated"), ("index", usizeToJson index), ("window", window.toJson)]
  | .moved windowId fromIndex toIndex =>
    .object [("type", .string "moved"), ("window_id", .unsigned windowId),
      ("from_index", usizeToJson fromIndex), ("to_index", usizeToJson toIndex)]
  | .removed index windowId =>
    .object [("type", .string "removed"), ("index", usizeToJson index),
      ("window_id", .unsigned windowId)]

def ofJson (json : Json) : Option WindowChange := do
  match ← tagged "type" ["added", "updated", "moved", "removed"] true json with
  | ("added", content) =>
    let slot ← fields ["index", "window"] false content
    let index ← (slot "index").required asUsize
    return .added index (← (slot "window").required Window.ofJson)
  | ("updated", content) =>
    let slot ← fields ["index", "window"] false content
    let index ← (slot "index").required asUsize
    return .updated index (← (slot "window").required Window.ofJson)
  | ("moved", content) =>
    let slot ← fields ["window_id", "from_index", "to_index"] false content
    let windowId ← (slot "window_id").required asU64
    let fromIndex ← (slot "from_index").required asUsize
    return .moved windowId fromIndex (← (slot "to_index").required asUsize)
  | ("removed", content) =>
    let slot ← fields ["index", "window_id"] false content
    let index ← (slot "index").required asUsize
    return .removed index (← (slot "window_id").required asU64)
  | _ => none

end WindowChange

namespace Operation

def toJson : Operation → Json
  | .minimize => .string "minimize"
  | .restore => .string "restore"
  | .close => .string "close"

def ofJson (json : Json) : Option Operation := do
  match ← asUnitVariant ["minimize", "restore", "close"] json with
  | "minimize" => return .minimize
  | "restore" => return .restore
  | "close" => return .close
  | _ => none

end Operation

namespace ActionStatus

def toJson : ActionStatus → Json
  | .applied => .string "applied"
  | .alreadyInRequestedState => .string "already_in_requested_state"
  | .closeRequested => .string "close_requested"
  | .windowNotFound => .string "window_not_found"
  | .blocked => .string "blocked"
  | .legacyHandled => .string "legacy_handled"

def ofJson (json : Json) : Option ActionStatus := do
  match ← asUnitVariant ["applied", "already_in_requested_state", "close_requested",
    "window_not_found", "blocked", "legacy_handled"] json with
  | "applied" => return .applied
  | "already_in_requested_state" => return .alreadyInRequestedState
  | "close_requested" => return .closeRequested
  | "window_not_found" => return .windowNotFound
  | "blocked" => return .blocked
  | "legacy_handled" => return .legacyHandled
  | _ => none

end ActionStatus

namespace ActionResult

def members (self : ActionResult) : List (String × Json) :=
  [("operation", self.operation.toJson), ("requested_id", optionToJson .unsigned self.requestedId),
    ("window_id", optionToJson .unsigned self.windowId), ("status", self.status.toJson)]

def ofJson (json : Json) : Option ActionResult := do
  let slot ← fields ["operation", "requested_id", "window_id", "status"] false json
  let operation ← (slot "operation").required Operation.ofJson
  let requestedId ← (slot "requested_id").optional asU64
  let windowId ← (slot "window_id").optional asU64
  let status ← (slot "status").required ActionStatus.ofJson
  return { operation, requestedId, windowId, status }

end ActionResult

namespace ErrorCode

def toJson : ErrorCode → Json
  | .incompatibleVersion => .string "incompatible_version"
  | .invalidRequest => .string "invalid_request"
  | .unavailable => .string "unavailable"
  | .actionFailed => .string "action_failed"

def ofJson (json : Json) : Option ErrorCode := do
  match ← asUnitVariant
    ["incompatible_version", "invalid_request", "unavailable", "action_failed"] json with
  | "incompatible_version" => return .incompatibleVersion
  | "invalid_request" => return .invalidRequest
  | "unavailable" => return .unavailable
  | "action_failed" => return .actionFailed
  | _ => none

end ErrorCode

namespace ProtocolError

def members (self : ProtocolError) : List (String × Json) :=
  [("code", self.code.toJson), ("message", .string self.message)] ++
    if self.supportedVersions.isEmpty then []
    else [("supported_versions",
      .array (self.supportedVersions.map fun version => .unsigned version.toUInt64))]

def ofJson (json : Json) : Option ProtocolError := do
  let slot ← fields ["code", "message", "supported_versions"] false json
  let code ← (slot "code").required ErrorCode.ofJson
  let message ← (slot "message").required asString
  let supportedVersions ← (slot "supported_versions").defaulted [] (asVec asU32)
  return { code, message, supportedVersions }

end ProtocolError

namespace Message

def toJson : Message → Json
  | .snapshot revision windows =>
    .object [("type", .string "snapshot"), ("revision", .unsigned revision),
      ("windows", .array (windows.map Window.toJson))]
  | .changes revision delta =>
    .object [("type", .string "changes"), ("revision", .unsigned revision),
      ("changes", .array (delta.map WindowChange.toJson))]
  | .actionResult result => .object (("type", .string "action_result") :: result.members)
  | .unavailable revision reason =>
    .object [("type", .string "unavailable"), ("revision", .unsigned revision),
      ("reason", .string reason)]
  | .error reported => .object (("type", .string "error") :: reported.members)

def ofJson (json : Json) : Option Message := do
  match ← tagged "type" ["snapshot", "changes", "action_result", "unavailable", "error"]
    false json with
  | ("snapshot", content) =>
    let slot ← fields ["revision", "windows"] false content
    let revision ← (slot "revision").required asU64
    return .snapshot revision (← (slot "windows").required (asVec Window.ofJson))
  | ("changes", content) =>
    let slot ← fields ["revision", "changes"] false content
    let revision ← (slot "revision").required asU64
    return .changes revision (← (slot "changes").required (asVec WindowChange.ofJson))
  | ("action_result", content) => return .actionResult (← ActionResult.ofJson content)
  | ("unavailable", content) =>
    let slot ← fields ["revision", "reason"] false content
    let revision ← (slot "revision").required asU64
    return .unavailable revision (← (slot "reason").required asString)
  | ("error", content) => return .error (← ProtocolError.ofJson content)
  | _ => none

end Message

namespace ServerMessage

def toJson (self : ServerMessage) : Json :=
  .object [("version", .unsigned self.version.toUInt64), ("message", self.message.toJson)]

def ofJson (json : Json) : Option ServerMessage := do
  let slot ← fields ["version", "message"] false json
  let version ← (slot "version").required asU32
  let message ← (slot "message").required Message.ofJson
  return { version, message }

end ServerMessage

end Melibea
