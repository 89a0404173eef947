import Melibea.Wire
import Melibea.Library.Encoding
import Mathlib.Data.Set.Function

/-! What goes over the wire comes back: every reader of the protocol undoes its writer. -/

namespace Melibea

open Library Json

lemma optionToJson_u64_carries (value : Option UInt64) :
    Carries (optionToJson .unsigned) (asOption asU64) value := by
  cases value with
  | none => exact ⟨rfl, rfl⟩
  | some value => exact ⟨Carries.asOption Carries.u64 (by simp) value, rfl⟩

lemma optionToJson_string_carries (value : Option String) :
    Carries (optionToJson .string) (asOption asString) value := by
  cases value with
  | none => exact ⟨rfl, rfl⟩
  | some value => exact ⟨Carries.asOption Carries.string (by simp) value, rfl⟩

lemma usizeToJson_carries {n : ℕ} (h : n < 2 ^ 64) : Carries usizeToJson asUsize n :=
  ⟨congrArg some (UInt64.toNat_ofNat_of_lt' h), rfl⟩

lemma f64ToJson_carries {value : Binary64} (h : value.isFinite) :
    Carries f64ToJson asF64 value := by
  have hwrite : f64ToJson value = .float value := if_pos h
  constructor
  · rw [hwrite]
    rfl
  · rw [hwrite]
    rfl

section Requests

def BubbleAnchor.Finite (self : BubbleAnchor) : Prop :=
  self.x.isFinite ∧ self.y.isFinite ∧ self.width.isFinite ∧ self.height.isFinite

def WindowTransition.Finite : WindowTransition → Prop
  | .anchored anchor => anchor.Finite
  | .disabled => True

def Request.Finite : Request → Prop
  | .minimize _ transition | .restore _ transition => ∀ hint ∈ transition, hint.Finite
  | .list | .subscribe | .close _ => True

lemma bubbleAnchor_carries {anchor : BubbleAnchor} (h : anchor.Finite) :
    Carries BubbleAnchor.toJson BubbleAnchor.ofJson anchor := by
  obtain ⟨hx, hy, hwidth, hheight⟩ := h
  have hx := f64ToJson_carries hx
  have hy := f64ToJson_carries hy
  have hwidth := f64ToJson_carries hwidth
  have hheight := f64ToJson_carries hheight
  constructor
  · rw [BubbleAnchor.ofJson, BubbleAnchor.toJson, fields_object (by simp) (by simp)]
    simp [List.lookup_cons, Slot.required, asString, hx.reads, hy.reads, hwidth.reads, hheight.reads]
  · simp [BubbleAnchor.toJson, isReadable, membersReadable, hx.readable, hy.readable,
      hwidth.readable, hheight.readable]

lemma windowTransition_carries {transition : WindowTransition} (h : transition.Finite) :
    Carries WindowTransition.toJson WindowTransition.ofJson transition := by
  cases transition with
  | anchored anchor =>
    have hanchor := bubbleAnchor_carries h
    refine .tagged rfl (by simp) (by simp [membersReadable, hanchor.readable]) fun htag => ?_
    refine (htag (by simp)).trans ?_
    refine (fields_bind (by simp) (by simp) _).trans ?_
    simp [Slot.required, hanchor.reads]
  | disabled =>
    refine .tagged rfl (by simp) rfl fun htag => ?_
    exact htag (by simp)

variable {transition : Option WindowTransition} (h : ∀ hint ∈ transition, hint.Finite)

include h

lemma transitionMembers_readable : membersReadable (transitionMembers transition) = true := by
  cases transition with
  | none => rfl
  | some hint =>
    simp [transitionMembers, membersReadable, (windowTransition_carries (h hint rfl)).readable]

lemma fields_transitionMembers (windowId : Json) : ∃ slot,
    fields ["window_id", "transition"] true
        (.object (("window_id", windowId) :: transitionMembers transition)) = some slot ∧
      slot "window_id" = .present windowId ∧
      presentTransition (slot "transition") = some transition := by
  cases transition with
  | none =>
    exact ⟨_, fields_object (by simp [transitionMembers]) (by simp [transitionMembers]), by simp,
      by simp [transitionMembers, List.lookup_cons, presentTransition, Slot.defaulted]⟩
  | some hint =>
    refine ⟨_, fields_object (by simp [transitionMembers]) (by simp [transitionMembers]),
      by simp, ?_⟩
    simp [transitionMembers, List.lookup_cons, presentTransition, Slot.defaulted,
      (windowTransition_carries (h hint rfl)).reads]

end Requests

lemma type_notMem_transitionMembers (transition : Option WindowTransition) :
    "type" ∉ (transitionMembers transition).map Prod.fst := by
  cases transition <;> simp [transitionMembers]

lemma request_carries {request : Request} (h : request.Finite) :
    Carries Request.toJson Request.ofJson request := by
  cases request with
  | list =>
    refine .tagged rfl (by simp) rfl fun htag => ?_
    exact htag (by simp)
  | subscribe =>
    refine .tagged rfl (by simp) rfl fun htag => ?_
    exact htag (by simp)
  | minimize windowId transition =>
    have hid := optionToJson_u64_carries windowId
    obtain ⟨slot, hfields, hslot, htransition⟩ :=
      fields_transitionMembers h (optionToJson .unsigned windowId)
    refine .tagged rfl ?_ ?_ fun htag => ?_
    · simpa using type_notMem_transitionMembers transition
    · simp [membersReadable, hid.readable, transitionMembers_readable h]
    · refine (htag (by simp)).trans ?_
      simp [hfields, hslot, htransition, Slot.optional, hid.reads]
  | restore windowId transition =>
    obtain ⟨slot, hfields, hslot, htransition⟩ :=
      fields_transitionMembers h (.unsigned windowId)
    refine .tagged rfl ?_ ?_ fun htag => ?_
    · simpa using type_notMem_transitionMembers transition
    · simp [membersReadable, isReadable, transitionMembers_readable h]
    · refine (htag (by simp)).trans ?_
      simp [hfields, hslot, htransition, Slot.required, asU64]
  | close windowId =>
    refine .tagged rfl (by simp) rfl fun htag => ?_
    refine (htag (by simp)).trans ?_
    refine (fields_bind (by simp) (by simp) _).trans ?_
    simp [Slot.required, asU64]

lemma clientRequest_carries {request : ClientRequest} (h : request.request.Finite) :
    Carries ClientRequest.toJson ClientRequest.ofJson request := by
  have hrequest := request_carries h
  constructor
  · rw [ClientRequest.ofJson, ClientRequest.toJson, fields_object (by simp) (by simp)]
    simp [List.lookup_cons, Slot.required, asU32_unsigned, hrequest.reads]
  · simp [ClientRequest.toJson, isReadable, membersReadable, hrequest.readable]

lemma window_carries (window : Window) : Carries Window.toJson Window.ofJson window := by
  have happ := optionToJson_string_carries window.appId
  have htitle := optionToJson_string_carries window.title
  have hicon := optionToJson_string_carries window.iconName
  constructor
  · rw [Window.ofJson, Window.toJson, fields_object (by simp) (by simp)]
    simp [List.lookup_cons, Slot.required, Slot.optional, asU64, happ.reads, htitle.reads, hicon.reads]
  · simp [Window.toJson, isReadable, membersReadable, happ.readable, htitle.readable,
      hicon.readable]

def WindowChange.Indexed : WindowChange → Prop
  | .added index _ | .updated index _ | .removed index _ => index < 2 ^ 64
  | .moved _ fromIndex toIndex => fromIndex < 2 ^ 64 ∧ toIndex < 2 ^ 64

lemma windowChange_carries {change : WindowChange} (h : change.Indexed) :
    Carries WindowChange.toJson WindowChange.ofJson change := by
  cases change with
  | added index window =>
    have hindex := usizeToJson_carries h
    have hwindow := window_carries window
    refine .tagged rfl (by simp) ?_ fun htag => ?_
    · simp [membersReadable, hindex.readable, hwindow.readable]
    · refine (htag (by simp)).trans ?_
      refine (fields_bind (by simp) (by simp) _).trans ?_
      simp [List.lookup_cons, Slot.required, hindex.reads, hwindow.reads]
  | updated index window =>
    have hindex := usizeToJson_carries h
    have hwindow := window_carries window
    refine .tagged rfl (by simp) ?_ fun htag => ?_
    · simp [membersReadable, hindex.readable, hwindow.readable]
    · refine (htag (by simp)).trans ?_
      refine (fields_bind (by simp) (by simp) _).trans ?_
      simp [List.lookup_cons, Slot.required, hindex.reads, hwindow.reads]
  | moved windowId fromIndex toIndex =>
    have hfrom := usizeToJson_carries h.1
    have hto := usizeToJson_carries h.2
    refine .tagged rfl (by simp) ?_ fun htag => ?_
    · simp [membersReadable, isReadable, hfrom.readable, hto.readable]
    · refine (htag (by simp)).trans ?_
      refine (fields_bind (by simp) (by simp) _).trans ?_
      simp [List.lookup_cons, Slot.required, asU64, hfrom.reads, hto.reads]
  | removed index windowId =>
    have hindex := usizeToJson_carries h
    refine .tagged rfl (by simp) ?_ fun htag => ?_
    · simp [membersReadable, isReadable, hindex.readable]
    · refine (htag (by simp)).trans ?_
      refine (fields_bind (by simp) (by simp) _).trans ?_
      simp [List.lookup_cons, Slot.required, asU64, hindex.reads]

lemma operation_carries (operation : Operation) :
    Carries Operation.toJson Operation.ofJson operation := by
  cases operation <;> exact ⟨rfl, rfl⟩

lemma actionStatus_carries (status : ActionStatus) :
    Carries ActionStatus.toJson ActionStatus.ofJson status := by
  cases status <;> exact ⟨rfl, rfl⟩

lemma errorCode_carries (code : ErrorCode) :
    Carries ErrorCode.toJson ErrorCode.ofJson code := by
  cases code <;> exact ⟨rfl, rfl⟩

lemma actionResult_carries (result : ActionResult) :
    Carries (fun result => .object result.members) ActionResult.ofJson result := by
  have hoperation := operation_carries result.operation
  have hrequested := optionToJson_u64_carries result.requestedId
  have hid := optionToJson_u64_carries result.windowId
  have hstatus := actionStatus_carries result.status
  constructor
  · simp only [ActionResult.ofJson, ActionResult.members]
    rw [fields_object (by simp) (by simp)]
    simp [List.lookup_cons, Slot.required, Slot.optional, hoperation.reads, hrequested.reads,
      hid.reads, hstatus.reads]
  · simp [ActionResult.members, isReadable, membersReadable, hoperation.readable,
      hrequested.readable, hid.readable, hstatus.readable]

lemma protocolError_carries (error : ProtocolError) :
    Carries (fun error => .object error.members) ProtocolError.ofJson error := by
  obtain ⟨code, message, supported⟩ := error
  have hcode := errorCode_carries code
  by_cases hempty : supported = []
  · subst hempty
    constructor
    · simp only [ProtocolError.ofJson, ProtocolError.members]
      rw [fields_object (by simp) (by simp)]
      simp [List.lookup_cons, Slot.required, Slot.defaulted, hcode.reads, asString]
    · simp [ProtocolError.members, isReadable, membersReadable, hcode.readable]
  · have hversions : Carries (fun versions : List UInt32 =>
        .array (versions.map fun version => .unsigned version.toUInt64)) (asVec asU32) supported :=
      Carries.vec fun version _ => Carries.u32 version
    constructor
    · simp only [ProtocolError.ofJson, ProtocolError.members, List.isEmpty_iff, if_neg hempty]
      rw [fields_object (by simp) (by simp)]
      simp [List.lookup_cons, Slot.required, Slot.defaulted, hcode.reads, asString, hversions.reads]
    · simpa [ProtocolError.members, isReadable, membersReadable, hempty, hcode.readable]
        using hversions.readable

def Message.Indexed : Message → Prop
  | .changes _ delta => ∀ change ∈ delta, change.Indexed
  | .snapshot _ _ | .actionResult _ | .unavailable _ _ | .error _ => True

lemma message_carries {message : Message} (h : message.Indexed) :
    Carries Message.toJson Message.ofJson message := by
  cases message with
  | snapshot revision windows =>
    have hwindows := Carries.vec fun window (_ : window ∈ windows) => window_carries window
    refine .tagged rfl (by simp) ?_ fun htag => ?_
    · simpa [membersReadable, isReadable] using hwindows.readable
    · refine (htag (by simp)).trans ?_
      refine (fields_bind (by simp) (by simp) _).trans ?_
      simp [List.lookup_cons, Slot.required, asU64, hwindows.reads]
  | changes revision delta =>
    have hchanges := Carries.vec fun change hc => windowChange_carries (h change hc)
    refine .tagged rfl (by simp) ?_ fun htag => ?_
    · simpa [membersReadable, isReadable] using hchanges.readable
    · refine (htag (by simp)).trans ?_
      refine (fields_bind (by simp) (by simp) _).trans ?_
      simp [List.lookup_cons, Slot.required, asU64, hchanges.reads]
  | actionResult result =>
    have hresult := actionResult_carries result
    refine .tagged rfl ?_ hresult.readable fun htag => ?_
    · simp [ActionResult.members]
    · refine (htag (by simp)).trans ?_
      simp [hresult.reads]
  | unavailable revision reason =>
    refine .tagged rfl (by simp) rfl fun htag => ?_
    refine (htag (by simp)).trans ?_
    refine (fields_bind (by simp) (by simp) _).trans ?_
    simp [List.lookup_cons, Slot.required, asU64, asString]
  | error reported =>
    have hreported := protocolError_carries reported
    refine .tagged rfl ?_ hreported.readable fun htag => ?_
    · simp only [ProtocolError.members]
      split_ifs <;> simp
    · refine (htag (by simp)).trans ?_
      simp [hreported.reads]

lemma serverMessage_carries {message : ServerMessage} (h : message.message.Indexed) :
    Carries ServerMessage.toJson ServerMessage.ofJson message := by
  have hmessage := message_carries h
  constructor
  · rw [ServerMessage.ofJson, ServerMessage.toJson, fields_object (by simp) (by simp)]
    simp [List.lookup_cons, Slot.required, asU32_unsigned, hmessage.reads]
  · simp [ServerMessage.toJson, isReadable, membersReadable, hmessage.readable]

/-- Requests with finite anchors and all messages decode to what was encoded, so that distinct ones
differ on the wire, and a request without a transition has no such member. -/
theorem wire_round_trips :
    (∀ request : ClientRequest, request.request.Finite →
      ClientRequest.ofJson request.toJson = some request) ∧
    (∀ message : ServerMessage, message.message.Indexed →
      ServerMessage.ofJson message.toJson = some message) ∧
    (∀ request : Request,
      (∃ windowId, request = .minimize windowId none) ∨
        (∃ windowId, request = .restore windowId none) →
      ∃ members, request.toJson = .object members ∧ "transition" ∉ members.map Prod.fst) ∧
    Set.InjOn ClientRequest.toJson {request | request.request.Finite} ∧
    Set.InjOn ServerMessage.toJson {message | message.message.Indexed} := by
  refine ⟨fun request h => (clientRequest_carries h).reads,
    fun message h => (serverMessage_carries h).reads, ?_, ?_, ?_⟩
  · rintro request (⟨windowId, rfl⟩ | ⟨windowId, rfl⟩)
    · exact ⟨_, rfl, by simp [transitionMembers]⟩
    · exact ⟨_, rfl, by simp [transitionMembers]⟩
  · exact fun a ha b hb h => (clientRequest_carries ha).inj (clientRequest_carries hb) h
  · exact fun a ha b hb h => (serverMessage_carries ha).inj (serverMessage_carries hb) h

section Anchored

def dp1Anchor : BubbleAnchor where
  output := "DP-1"
  x := .ofUnits false (25 * 2 ^ 1073)
  y := .ofUnits false (97 * 2 ^ 1072)
  width := .ofUnits false (48 * 2 ^ 1074)
  height := .ofUnits false (48 * 2 ^ 1074)

def anchoredMinimize : ClientRequest := .v2 (.minimize (some 42) (some (.anchored dp1Anchor)))

def movedAndRemoved : ServerMessage := .new (.changes 7 [.removed 2 10, .moved 20 1 0])

theorem wire_round_trips_anchored :
    ClientRequest.ofJson anchoredMinimize.toJson = some anchoredMinimize ∧
      ServerMessage.ofJson movedAndRemoved.toJson = some movedAndRemoved := by
  have hfinite : anchoredMinimize.request.Finite := by
    rintro hint hm
    obtain rfl := Option.some.inj hm
    exact ⟨by decide +kernel, by decide +kernel, by decide +kernel, by decide +kernel⟩
  have hindexed : movedAndRemoved.message.Indexed := by
    intro change hc
    obtain rfl | rfl : change = .removed 2 10 ∨ change = .moved 20 1 0 := by simpa using hc
    · exact show 2 < 2 ^ 64 by decide
    · exact show 1 < 2 ^ 64 ∧ 0 < 2 ^ 64 by decide
  exact ⟨wire_round_trips.1 _ hfinite, wire_round_trips.2.1 _ hindexed⟩

end Anchored

end Melibea
