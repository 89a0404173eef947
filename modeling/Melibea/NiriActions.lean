import Melibea.NiriStream
import Melibea.RoundTrip
import Melibea.Library.Rounding

/-! niri's actions: a request a line, and a reply a line. -/

namespace Melibea

open Library Json

inductive NiriWindowActionStatus
  | applied
  | alreadyInRequestedState
  | closeRequested
  | windowNotFound
  | blocked
  | legacyHandled
  deriving DecidableEq

structure NiriWindowActionResult where
  requestedId : Option UInt64
  windowId : Option UInt64
  status : NiriWindowActionStatus
  deriving DecidableEq

inductive ActionReply
  | handled
  | window (result : NiriWindowActionResult)
  deriving DecidableEq

inductive SizeChange
  | setProportion (percent : Binary64)
  deriving DecidableEq

inductive NiriAction
  | setWindowWidth (id : Option UInt64) (change : SizeChange)
  | closeWindow (id : Option UInt64)
  | minimizeWindow (id : Option UInt64) (transition : Option WindowTransition)
  | restoreWindow (id : UInt64) (transition : Option WindowTransition)
  deriving DecidableEq

def SizeChange.toJson : SizeChange → Json
  | .setProportion percent => .object [("SetProportion", f64ToJson percent)]

def NiriAction.toJson : NiriAction → Json
  | .setWindowWidth id change =>
    .object [("SetWindowWidth",
      .object [("id", optionToJson .unsigned id), ("change", change.toJson)])]
  | .closeWindow id => .object [("CloseWindow", .object [("id", optionToJson .unsigned id)])]
  | .minimizeWindow id transition =>
    .object [("MinimizeWindow",
      .object (("id", optionToJson .unsigned id) :: transitionMembers transition))]
  | .restoreWindow id transition =>
    .object [("RestoreWindow", .object (("id", .unsigned id) :: transitionMembers transition))]

def actionRequest (action : NiriAction) : Json := .object [("Action", action.toJson)]

def NiriWindowActionStatus.ofJson (json : Json) : Option NiriWindowActionStatus := do
  match ← asValueVariant ["Applied", "AlreadyInRequestedState", "CloseRequested",
    "WindowNotFound", "Blocked", "LegacyHandled"] json with
  | "Applied" => return .applied
  | "AlreadyInRequestedState" => return .alreadyInRequestedState
  | "CloseRequested" => return .closeRequested
  | "WindowNotFound" => return .windowNotFound
  | "Blocked" => return .blocked
  | "LegacyHandled" => return .legacyHandled
  | _ => none

def NiriWindowActionResult.ofJson (json : Json) : Option NiriWindowActionResult := do
  let slot ← fields ["requested_id", "window_id", "status"] false json
  let requestedId ← (slot "requested_id").optional asU64
  let windowId ← (slot "window_id").optional asU64
  let status ← (slot "status").required NiriWindowActionStatus.ofJson
  return { requestedId, windowId, status }

-- Text is written for every action, so the case of a serialization error does not arise.
inductive NiriActionError
  | missingSocketEnvironment
  | connect (path : String) (source : String)
  | writeRequest (error : String)
  | readReply (error : String)
  | closedBeforeReply
  | invalidReply (error : String)
  | unexpectedReply
  | requestRejected (message : String)
  deriving DecidableEq

def NiriActionError.display : NiriActionError → String
  | .missingSocketEnvironment => s!"{niriSocketEnv} is not set; run Melibea inside a niri session"
  | .connect path source => s!"cannot connect to niri action socket {path}: {source}"
  | .writeRequest error => s!"cannot send niri action: {error}"
  | .readReply error => s!"cannot read niri action reply: {error}"
  | .closedBeforeReply => "niri closed IPC before replying to the action"
  | .invalidReply error => s!"invalid niri action reply: {error}"
  | .unexpectedReply => "niri returned an unexpected action reply"
  | .requestRejected message => s!"niri rejected the action: {message}"

def validateActionReply (serde : SerdeValue) (line : Bytes) :
    Except NiriActionError ActionReply :=
  match serde.value line with
  | none => .error (.invalidReply (serde.valueError line))
  | some (.object [("Ok", .string "Handled")]) => .ok .handled
  | some (.object [("Ok", .object [("WindowActionResult", result)])]) =>
    match NiriWindowActionResult.ofJson result with
    | some result => .ok (.window result)
    | none => .error .unexpectedReply
  | some (.object [("Err", .string message)]) => .error (.requestRejected message)
  | some _ => .error .unexpectedReply

structure Exchange (α : Type) where
  result : Except NiriActionError α
  sent : Bytes
  rest : ByteStream

def Exchange.map {α β : Type} (f : α → β) (self : Exchange α) : Exchange β where
  result := self.result.map f
  sent := self.sent
  rest := self.rest

def actionLine (serde : SerdeValue) (action : NiriAction) : Bytes :=
  serde.print (actionRequest action) ++ [newline]

namespace NiriActionClient

def sendAction (serde : SerdeValue) (writing : Writing) (replies : ByteStream)
    (action : NiriAction) : Exchange ActionReply :=
  let line := actionLine serde action
  match writing with
  | .failed sent error => ⟨.error (.writeRequest error), line.take sent, replies⟩
  | .done =>
    let result :=
      match readLine replies with
      | .error error => .error (.readReply error)
      | .ok reply =>
        if reply.length = 0 then .error .closedBeforeReply else validateActionReply serde reply
    ⟨result, line, replies.afterLine⟩

def sendWindowAction (serde : SerdeValue) (writing : Writing) (replies : ByteStream)
    (action : NiriAction) (requestedId : Option UInt64) : Exchange NiriWindowActionResult :=
  (sendAction serde writing replies action).map fun
    | .handled => { requestedId, windowId := requestedId, status := .legacyHandled }
    | .window result => result

end NiriActionClient

def Proportion.percent (self : Proportion) : Binary64 := self.value.mul .hundred

namespace NiriActionClient

variable (serde : SerdeValue) (writing : Writing) (replies : ByteStream)

def setWindowWidth (windowId : WindowId) (width : Proportion) : Exchange Unit :=
  (sendAction serde writing replies
    (.setWindowWidth (some windowId) (.setProportion width.percent))).map fun _ => ()

def minimizeWindowWithTransition (windowId : Option WindowId)
    (transition : Option WindowTransition) : Exchange NiriWindowActionResult :=
  sendWindowAction serde writing replies (.minimizeWindow windowId transition) windowId

def restoreWindowWithTransition (windowId : WindowId) (transition : Option WindowTransition) :
    Exchange NiriWindowActionResult :=
  sendWindowAction serde writing replies (.restoreWindow windowId transition) (some windowId)

def closeWindow (windowId : WindowId) : Exchange NiriWindowActionResult :=
  sendWindowAction serde writing replies (.closeWindow (some windowId)) (some windowId)

end NiriActionClient

def NiriWindowActionStatus.name : NiriWindowActionStatus → String
  | .applied => "Applied"
  | .alreadyInRequestedState => "AlreadyInRequestedState"
  | .closeRequested => "CloseRequested"
  | .windowNotFound => "WindowNotFound"
  | .blocked => "Blocked"
  | .legacyHandled => "LegacyHandled"

inductive SpelledStatus (status : NiriWindowActionStatus) (json : Json) : Prop
  | string : json = .string status.name → SpelledStatus status json
  | object : Single status.name .null json → SpelledStatus status json

inductive SpelledResult (result : NiriWindowActionResult) (json : Json) : Prop
  | mk {value : String → Option Json} {status : Json}
    (filled : Filled ["requested_id", "window_id", "status"] json value)
    (requestedId : (value "requested_id").getD .null = optionToJson .unsigned result.requestedId)
    (windowId : (value "window_id").getD .null = optionToJson .unsigned result.windowId)
    (present : value "status" = some status) (spelled : SpelledStatus result.status status)

inductive SpelledReply : ActionReply → Json → Prop
  | handled {json : Json} : Single "Ok" (.string "Handled") json → SpelledReply .handled json
  | window {result : NiriWindowActionResult} {json named content : Json} :
    Single "Ok" named json → Single "WindowActionResult" content named →
      SpelledResult result content → SpelledReply (.window result) json

lemma ofJson_status_iff {status : NiriWindowActionStatus} {json : Json} :
    NiriWindowActionStatus.ofJson json.normalize = some status ↔ SpelledStatus status json := by
  constructor
  · intro h
    obtain ⟨name, hname, h⟩ := Option.bind_eq_some_iff.mp h
    obtain ⟨-, hspelled⟩ := asValueVariant_normalize.mp hname
    obtain rfl : status.name = name := by
      split at h <;> cases h <;> rfl
    exact hspelled.elim .string .object
  · intro h
    have hspelled : json = .string status.name ∨ Single status.name .null json := by
      rcases h with h | h
      · exact .inl h
      · exact .inr h
    rw [NiriWindowActionStatus.ofJson,
      asValueVariant_normalize.mpr ⟨by cases status <;> decide, hspelled⟩]
    cases status <;> rfl

lemma ofJson_result_iff {result : NiriWindowActionResult} {json : Json} :
    NiriWindowActionResult.ofJson json.normalize = some result ↔ SpelledResult result json := by
  have hnames : ["requested_id", "window_id", "status"].Nodup := by decide
  simp only [NiriWindowActionResult.ofJson, Option.bind_eq_bind]
  rw [fields_bind_iff hnames]
  · simp only [Option.bind_eq_some_iff, Option.pure_def, Option.some.injEq, required_of,
      optional_u64, ofJson_status_iff]
    constructor
    · rintro ⟨value, filled, requestedId, hrequested, windowId, hid, status, ⟨_, hstatus, hspelled⟩,
        rfl⟩
      exact ⟨filled, hrequested, hid, hstatus, hspelled⟩
    · rintro ⟨filled, requestedId, windowId, present, spelled⟩
      exact ⟨_, filled, _, requestedId, _, windowId, _, ⟨_, present, spelled⟩, rfl⟩
  · intro slot result h
    simp only [Option.bind_eq_some_iff] at h
    obtain ⟨_, hrequested, _, hid, _, hstatus, -⟩ := h
    simp [Slot.optional_ne_short hrequested, Slot.optional_ne_short hid,
      Slot.required_ne_short hstatus]
  · intro slot other h
    simp [h]

lemma validateActionReply_eq_ok {serde : SerdeValue} {line : Bytes} {reply : ActionReply} :
    validateActionReply serde line = .ok reply ↔
      reply = .handled ∧ serde.value line = some (.object [("Ok", .string "Handled")]) ∨
      ∃ content result, reply = .window result ∧
        serde.value line = some (.object [("Ok", .object [("WindowActionResult", content)])]) ∧
          NiriWindowActionResult.ofJson content = some result := by
  unfold validateActionReply
  split
  · next h => simp [h]
  · next h => simp [h, eq_comm]
  · next content h =>
    cases hr : NiriWindowActionResult.ofJson content <;> simp [h, hr, eq_comm]
  · next h => simp [h]
  · next json hhandled hwindow _ h =>
    refine iff_of_false (fun he => (nomatch he)) ?_
    rintro (⟨-, he⟩ | ⟨content, result, -, he, -⟩)
    · exact hhandled (Option.some.inj (h.symm.trans he))
    · exact hwindow content (Option.some.inj (h.symm.trans he))

lemma validateActionReply_iff {serde : SerdeValue} {line : Bytes} {reply : ActionReply} :
    validateActionReply serde line = .ok reply ↔
      ∃ json, serde.parse line = some json ∧ json.isReadable ∧ SpelledReply reply json := by
  rw [validateActionReply_eq_ok]
  constructor
  · rintro (⟨rfl, hvalue⟩ | ⟨content, result, rfl, hvalue, hresult⟩)
    · obtain ⟨json, named, hparse, hreadable, hsingle, hnamed⟩ := value_single.mp hvalue
      obtain rfl := (normalize_eq_scalar (show IsScalar (.string _) from trivial)).mp hnamed.symm
      exact ⟨json, hparse, hreadable, .handled hsingle⟩
    · obtain ⟨json, named, hparse, hreadable, hsingle, hnamed⟩ := value_single.mp hvalue
      obtain ⟨content, hinner, rfl⟩ := normalize_eq_single.mp hnamed.symm
      exact ⟨json, hparse, hreadable, .window hsingle hinner (ofJson_result_iff.mp hresult)⟩
  · rintro ⟨json, hparse, hreadable, hspelled⟩
    cases hspelled with
    | handled hsingle =>
      have hcontent : (Json.string "Handled") = (Json.string "Handled").normalize :=
        (normalize_string _).symm
      exact .inl ⟨rfl, value_single.mpr ⟨json, _, hparse, hreadable, hsingle, hcontent⟩⟩
    | window hsingle hresult hspelled =>
      have hcontent := normalize_eq_single.mpr ⟨_, hresult, rfl⟩
      exact .inr ⟨_, _, rfl, value_single.mpr ⟨json, _, hparse, hreadable, hsingle, hcontent.symm⟩,
        ofJson_result_iff.mpr hspelled⟩

lemma one_eq : ∃ h, Binary64.one = .finite false (2 ^ 1074) h := by
  have h : Representable (1 * 2 ^ 1074) := Binary64.representable_shift (by norm_num) (by norm_num)
  rw [Nat.one_mul] at h
  exact ⟨h, Binary64.ofUnits_eq false h⟩

lemma hundred_eq : ∃ h, Binary64.hundred = .finite false (100 * 2 ^ 1074) h :=
  ⟨_, Binary64.ofUnits_eq false (Binary64.representable_shift (by norm_num) (by norm_num))⟩

lemma zero_eq : ∃ h, Binary64.zero = .finite false 0 h := by
  have h : Representable (0 * 2 ^ 0) := Binary64.representable_shift (by norm_num) (by norm_num)
  exact ⟨h, Binary64.ofUnits_eq false h⟩

lemma Proportion.value_eq (width : Proportion) : ∃ units, ∃ h : Representable units,
    width.value = .finite false units h ∧ 0 < units ∧ units ≤ 2 ^ 1074 := by
  obtain ⟨value, valid⟩ := width
  simp only [Bool.and_eq_true] at valid
  obtain ⟨⟨hfinite, hpos⟩, hone⟩ := valid
  cases value with
  | nan => cases hfinite
  | infinity negative => cases hfinite
  | finite negative units h =>
    obtain ⟨hz, hzero⟩ := zero_eq
    obtain ⟨ho, he⟩ := one_eq
    rw [hzero] at hpos
    rw [he] at hone
    cases negative with
    | true => exact absurd hpos Binary64.not_lt_negative
    | false => exact ⟨units, h, rfl, Binary64.lt_finite.mp hpos, Binary64.le_finite.mp hone⟩

lemma Proportion.percent_eq (width : Proportion) {units : ℕ} {h : Representable units}
    (hv : width.value = .finite false units h) : width.percent = .ofUnits false (units * 100) := by
  obtain ⟨_, hhundred⟩ := hundred_eq
  rw [percent, hv, hhundred, Binary64.mul, ← Nat.mul_assoc]
  exact Binary64.ofRatio_mul false _ (pow_pos two_pos 1074)

lemma Proportion.percent_units (width : Proportion) {units : ℕ} {h : Representable units}
    (hv : width.value = .finite false units h) (hone : units ≤ 2 ^ 1074) :
    ∃ hr, width.percent = .finite false (Binary64.roundUnits (units * 100)) hr ∧
        Binary64.roundUnits (units * 100) ≤ 100 * 2 ^ 1074 := by
  have hhundred : Representable (100 * 2 ^ 1074) :=
    Binary64.representable_shift (by norm_num) (by norm_num)
  have hle : Binary64.roundUnits (units * 100) ≤ 100 * 2 ^ 1074 := by
    rw [← Binary64.roundUnits_eq hhundred]
    refine Binary64.roundUnits_mono ?_
    rw [Nat.mul_comm]
    exact Nat.mul_le_mul_left 100 hone
  have hlt := hle.trans_lt hhundred.1
  obtain ⟨k, q, hq, he⟩ := Binary64.roundUnits_significant (units * 100)
  refine ⟨⟨hlt, by rw [he]; exact Binary64.dvd_of_significant hq⟩, ?_, hle⟩
  rw [width.percent_eq hv, Binary64.ofUnits, dif_pos hlt]

/-- The percentage niri is told is a number above 0 and at most 100, and a wider width is never
told as a smaller one. -/
theorem window_width_percent (width : Proportion) :
    width.percent.isFinite ∧ Binary64.zero.lt width.percent ∧
      width.percent.le .hundred ∧ ∀ wider : Proportion, width.value.le wider.value →
        width.percent.le wider.percent := by
  obtain ⟨units, h, hv, hpos, hone⟩ := width.value_eq
  obtain ⟨hr, hpercent, hle⟩ := width.percent_units hv hone
  obtain ⟨_, hzero⟩ := zero_eq
  obtain ⟨_, hhundred⟩ := hundred_eq
  have hround : 0 < Binary64.roundUnits (units * 100) := by
    have hsmall : Binary64.roundUnits 1 = 1 := by decide
    exact hsmall.symm.trans_le (Binary64.roundUnits_mono (by omega))
  rw [hpercent, hzero, hhundred]
  refine ⟨rfl, Binary64.lt_finite.mpr hround, Binary64.le_finite.mpr hle, fun wider hw => ?_⟩
  obtain ⟨units', h', hv', -, hone'⟩ := wider.value_eq
  obtain ⟨hr', hpercent', -⟩ := wider.percent_units hv' hone'
  rw [hv, hv', Binary64.le_finite] at hw
  rw [hpercent', Binary64.le_finite]
  exact Binary64.roundUnits_mono (Nat.mul_le_mul_right 100 hw)

end Melibea
