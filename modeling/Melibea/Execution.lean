import Melibea.NiriActions
import Melibea.ServiceClient

/-! Actions that clients ask for, carried out by niri over a connection of their own. -/

namespace Melibea

open Library Json

def mapNativeActionResult (operation : Operation) (result : NiriWindowActionResult) :
    ActionResult where
  operation := operation
  requestedId := result.requestedId
  windowId := result.windowId
  status :=
    match result.status with
    | .applied => .applied
    | .alreadyInRequestedState => .alreadyInRequestedState
    | .closeRequested => .closeRequested
    | .windowNotFound => .windowNotFound
    | .blocked => .blocked
    | .legacyHandled => .legacyHandled

structure NiriAnswers where
  connect : Except NiriActionError Unit
  writing : Writing
  replies : ByteStream

def finishAction (operation : Operation) (exchange : Exchange NiriWindowActionResult) :
    Except String ActionResult × Bytes :=
  ((exchange.result.mapError NiriActionError.display).map (mapNativeActionResult operation),
    exchange.sent)

def executeProtocolAction (serde : SerdeValue) (niri : NiriAnswers) (request : Request) :
    Except String ActionResult × Bytes :=
  match niri.connect with
  | .error error => (.error error.display, [])
  | .ok () =>
    match request with
    | .minimize windowId transition =>
      finishAction .minimize (NiriActionClient.minimizeWindowWithTransition serde niri.writing
        niri.replies windowId transition)
    | .restore windowId transition =>
      finishAction .restore (NiriActionClient.restoreWindowWithTransition serde niri.writing
        niri.replies windowId transition)
    | .close windowId =>
      finishAction .close (NiriActionClient.closeWindow serde niri.writing niri.replies windowId)
    | .list | .subscribe => (.error "request is not a compositor action", [])

inductive Asks : Request → Operation → NiriAction → Option UInt64 → Prop
  | minimize {windowId : Option UInt64} {transition : Option WindowTransition} :
    Asks (.minimize windowId transition) .minimize (.minimizeWindow windowId transition) windowId
  | restore {windowId : UInt64} {transition : Option WindowTransition} :
    Asks (.restore windowId transition) .restore (.restoreWindow windowId transition)
      (some windowId)
  | close {windowId : UInt64} :
    Asks (.close windowId) .close (.closeWindow (some windowId)) (some windowId)

-- An older niri only says that it has handled the action.
def ActionReply.result (requestedId : Option UInt64) : ActionReply → NiriWindowActionResult
  | .handled => { requestedId, windowId := requestedId, status := .legacyHandled }
  | .window result => result

inductive Answered (serde : SerdeValue) (replies : ByteStream) (reply : ActionReply) : Prop
  | mk {line : Bytes} {json : Json} : readLine replies = .ok line → line ≠ [] →
    serde.parse line = some json → json.isReadable → SpelledReply reply json →
      Answered serde replies reply

variable {serde : SerdeValue} {niri : NiriAnswers} {request : Request} {operation : Operation}
  {action : NiriAction} {requestedId : Option UInt64}

lemma executeProtocolAction_eq (h : Asks request operation action requestedId) :
    executeProtocolAction serde niri request =
      match niri.connect with
      | .error error => (.error error.display, [])
      | .ok () =>
        let exchange := NiriActionClient.sendAction serde niri.writing niri.replies action
        ((exchange.result.mapError NiriActionError.display).map fun reply =>
          mapNativeActionResult operation (reply.result requestedId), exchange.sent) := by
  unfold executeProtocolAction
  cases niri.connect with
  | error error => rfl
  | ok _ =>
    cases h with
    | minimize | restore | close =>
      simp only [finishAction, NiriActionClient.minimizeWindowWithTransition, NiriActionClient.closeWindow,
        NiriActionClient.restoreWindowWithTransition, NiriActionClient.sendWindowAction,
        Exchange.map]
      cases (NiriActionClient.sendAction serde niri.writing niri.replies _).result with
      | error error => rfl
      | ok reply => cases reply <;> rfl

lemma sendAction_eq_ok {writing : Writing} {replies : ByteStream} {reply : ActionReply} :
    (NiriActionClient.sendAction serde writing replies action).result = .ok reply ↔
      writing = .done ∧ Answered serde replies reply := by
  cases writing with
  | failed sent error => simp [NiriActionClient.sendAction]
  | done =>
    rw [NiriActionClient.sendAction]
    cases hread : readLine replies with
    | error error =>
      refine iff_of_false (fun he => (nomatch he)) ?_
      rintro ⟨-, hline, -⟩
      cases hread.symm.trans hline
    | ok line =>
      dsimp only
      have hiff : Answered serde replies reply ↔
          line ≠ [] ∧ validateActionReply serde line = .ok reply := by
        rw [validateActionReply_iff]
        constructor
        · rintro ⟨hline, hne, hparse, hreadable, hspelled⟩
          obtain rfl := Except.ok.inj (hread.symm.trans hline)
          exact ⟨hne, _, hparse, hreadable, hspelled⟩
        · rintro ⟨hne, json, hparse, hreadable, hspelled⟩
          exact ⟨hread, hne, hparse, hreadable, hspelled⟩
      rw [hiff]
      split_ifs with hlength
      · simp [List.length_eq_zero_iff.mp hlength]
      · simp [mt List.length_eq_zero_iff.mpr hlength]

lemma sendAction_sent (serde : SerdeValue) (writing : Writing) (replies : ByteStream)
    (action : NiriAction) :
    (NiriActionClient.sendAction serde writing replies action).sent <+: actionLine serde action ∧
      (writing = .done →
        (NiriActionClient.sendAction serde writing replies action).sent =
          actionLine serde action) := by
  cases writing with
  | failed sent error => exact ⟨List.take_prefix _ _, fun he => (nomatch he)⟩
  | done => exact ⟨List.prefix_refl _, fun _ => rfl⟩

lemma executeProtocolAction_eq_ok (h : Asks request operation action requestedId)
    {result : ActionResult} :
    (executeProtocolAction serde niri request).1 = .ok result ↔
      niri.connect = .ok () ∧ niri.writing = .done ∧ ∃ reply, Answered serde niri.replies reply ∧
        result = mapNativeActionResult operation (reply.result requestedId) := by
  rw [executeProtocolAction_eq h]
  cases niri.connect with
  | error error => simp
  | ok _ =>
    dsimp only
    have hmap : ∀ sent : Except NiriActionError ActionReply,
        (sent.mapError NiriActionError.display).map (fun reply =>
          mapNativeActionResult operation (reply.result requestedId)) = .ok result ↔
        ∃ reply, sent = .ok reply ∧
          result = mapNativeActionResult operation (reply.result requestedId) := by
      rintro (error | reply) <;> simp [Except.mapError, Except.map, eq_comm]
    rw [hmap]
    simp only [sendAction_eq_ok, and_assoc, exists_and_left, true_and]

lemma executeProtocolAction_sent (h : Asks request operation action requestedId) :
    (executeProtocolAction serde niri request).2 <+: actionLine serde action ∧
      ((executeProtocolAction serde niri request).1.isOk →
        (executeProtocolAction serde niri request).2 = actionLine serde action) := by
  obtain ⟨hbegin, hall⟩ := sendAction_sent serde niri.writing niri.replies action
  constructor
  · rw [executeProtocolAction_eq h]
    cases niri.connect with
    | error error => exact List.nil_prefix
    | ok _ => exact hbegin
  · intro hok
    cases hresult : (executeProtocolAction serde niri request).1 with
    | error error =>
      rw [hresult] at hok
      cases hok
    | ok result =>
      obtain ⟨hconnect, hwriting, -⟩ := (executeProtocolAction_eq_ok h).mp hresult
      rw [executeProtocolAction_eq h, hconnect]
      exact hall hwriting

lemma reply_of_asks (h : Asks request operation action requestedId) (state : BrokerState)
    (io : Io) : state.reply io request =
      match io.execute request with
      | .ok result => .actionResult result
      | .error error => .error (.actionFailed error) := by
  cases h <;> rfl

lemma not_subscribe_of_asks (h : Asks request operation action requestedId) :
    request ≠ .subscribe := by
  cases h <;> simp

open Broker

lemma reply_eq_actionResult (h : Asks request operation action requestedId) {io : Io}
    (hio : io.execute request = (executeProtocolAction serde niri request).1) (state : BrokerState)
    (result : ActionResult) : state.reply io request = .actionResult result ↔
      niri.connect = .ok () ∧ niri.writing = .done ∧ ∃ reply, Answered serde niri.replies reply ∧
        result = mapNativeActionResult operation (reply.result requestedId) := by
  rw [← executeProtocolAction_eq_ok h, reply_of_asks h, hio]
  cases (executeProtocolAction serde niri request).1 <;> simp

lemma serve_action {request : ClientRequest}
    (h : Asks request.request operation action requestedId)
    (hrequest : RequestText serde.toSerdeJson request) (broker : Broker) (io : Io) (rest : Bytes)
    (ending : StreamEnd) :
    broker.serve serde.toSerdeJson
        (io, .connection ⟨serde.print request.toJson ++ newline :: rest, ending⟩) =
      ([⟨broker.accepted, request.version, broker.state.reply io request.request⟩],
        { broker with accepted := broker.accepted + 1 }) := by
  simp only [serve, hrequest.forwarded rest ending, turn_client, BrokerState.handleClient_eq]
  rw [if_neg fun he => not_subscribe_of_asks h he.1]

lemma Subscription.MessageLine.readServerMessage {serde : SerdeJson} {message : ServerMessage}
    (h : MessageLine serde message) (rest : Bytes) (ending : StreamEnd) :
    readServerMessage serde ⟨messageBytes serde message ++ rest, ending⟩ message.version =
      .ok message := by
  have hbytes : messageBytes serde message ++ rest =
      serde.print message.toJson ++ newline :: rest := by simp [messageBytes]
  rw [readServerMessage_eq_ok, hbytes]
  exact h.decoded.readNext rest ending

/-- A client's action reaches niri as one line, and the client is told that it was done only where
niri said so, with the window and the status niri named. The public state does not change. -/
theorem client_told_what_niri_said (serde : SerdeValue) (request : ClientRequest)
    (hrequest : RequestText serde.toSerdeJson request) (operation : Operation)
    (action : NiriAction) (requestedId : Option UInt64)
    (hasks : Asks request.request operation action requestedId) (niri : NiriAnswers) (io : Io)
    (hio : io.execute = fun request => (executeProtocolAction serde niri request).1)
    (before : List (Io × ServiceInput)) (rest : Bytes) (ending : StreamEnd) :
    let broker := served serde.toSerdeJson before
    let out := broker.serve serde.toSerdeJson
      (io, .connection ⟨serde.print request.toJson ++ newline :: rest, ending⟩)
    let sent := (executeProtocolAction serde niri request.request).2
    ∃ message, out.1 = [⟨broker.accepted, request.version, message⟩] ∧
      out.2.state = broker.state ∧ sent <+: actionLine serde action ∧
      (∀ result, message = .actionResult result ↔ niri.connect = .ok () ∧ niri.writing = .done ∧
        ∃ reply, Answered serde niri.replies reply ∧
          result = mapNativeActionResult operation (reply.result requestedId)) ∧
      (∀ result, message = .actionResult result → sent = actionLine serde action) ∧
      (Subscription.MessageLine serde.toSerdeJson ⟨request.version, message⟩ →
        ∀ rest ending, readServerMessage serde.toSerdeJson
          ⟨messageBytes serde.toSerdeJson ⟨request.version, message⟩ ++ rest, ending⟩
            request.version = .ok ⟨request.version, message⟩) := by
  intro broker out sent
  have hout : out = ([⟨broker.accepted, request.version,
      broker.state.reply io request.request⟩], { broker with accepted := broker.accepted + 1 }) :=
    serve_action hasks hrequest broker io rest ending
  have hresult := reply_eq_actionResult hasks (congrFun hio request.request) broker.state
  refine ⟨broker.state.reply io request.request, by rw [hout], by rw [hout],
    (executeProtocolAction_sent hasks).1, hresult, fun result hr => ?_,
    fun hline => hline.readServerMessage⟩
  refine (executeProtocolAction_sent hasks).2 ?_
  rw [(executeProtocolAction_eq_ok hasks).mpr ((hresult result).mp hr)]
  rfl

section Restore

def restoreRequest : ClientRequest := ⟨1, .restore 42 none⟩

def restoreLine : Bytes :=
  text "\x7b\"version\":1,\"request\":\x7b\"type\":\"restore\",\"window_id\":42\x7d\x7d"

def restoreAction : Bytes :=
  text "\x7b\"Action\":\x7b\"RestoreWindow\":\x7b\"id\":42\x7d\x7d\x7d"

def appliedLine : Bytes :=
  text ("\x7b\"Ok\":\x7b\"WindowActionResult\":\x7b\"requested_id\":42,\"window_id\":42," ++
    "\"status\":\"Applied\"\x7d\x7d\x7d")

def appliedJson : Json :=
  .object [("Ok", .object [("WindowActionResult", .object [("requested_id", .unsigned 42),
    ("window_id", .unsigned 42), ("status", .string "Applied")])])]

def appliedMessage : ServerMessage :=
  ⟨1, .actionResult ⟨.restore, some 42, some 42, .applied⟩⟩

def appliedReply : Bytes :=
  text ("\x7b\"version\":1,\"message\":\x7b\"type\":\"action_result\"," ++
    "\"operation\":\"restore\",\"requested_id\":42,\"window_id\":42," ++
    "\"status\":\"applied\"\x7d\x7d")

def restoreSerde : SerdeValue :=
  .ofLines [(restoreLine, restoreRequest.toJson), (appliedLine, appliedJson),
    (appliedReply, appliedMessage.toJson)] fun
    | .object [("Action", _)] => restoreAction
    | .object [_, ("request", _)] => restoreLine
    | _ => appliedReply

def appliedNiri : NiriAnswers := ⟨.ok (), .done, ⟨appliedLine ++ [newline], .closed⟩⟩

def niriIo : Io :=
  { Io.reliable with
    execute := fun request => (executeProtocolAction restoreSerde appliedNiri request).1 }

lemma restoreSerde_request : RequestText restoreSerde.toSerdeJson restoreRequest where
  line := .ofLines _ (by decide +kernel) (by decide +kernel) rfl (by decide +kernel)
  size := by decide +kernel
  allowed := ⟨.inl rfl, .inl rfl⟩

lemma appliedNiri_answered : Answered restoreSerde appliedNiri.replies
    (.window ⟨some 42, some 42, .applied⟩) := by
  have hline : JsonLine restoreSerde.toSerdeJson appliedLine appliedJson :=
    .ofLines _ (by decide +kernel) (by decide +kernel) rfl (by decide +kernel)
  exact ⟨readLine_append hline.oneLine hline.utf8 [] .closed, by simp, hline.parsed, rfl,
    .window ⟨by simp, rfl⟩ ⟨by simp, rfl⟩ ⟨.object _, rfl, rfl, rfl, .string rfl⟩⟩

theorem client_told_what_niri_said_restore :
    let broker := served restoreSerde.toSerdeJson []
    let bytes := restoreSerde.print restoreRequest.toJson ++ newline :: []
    (broker.serve restoreSerde.toSerdeJson (niriIo, .connection ⟨bytes, .closed⟩)).1.map
        Write.message = [appliedMessage] ∧
      (broker.serve restoreSerde.toSerdeJson (niriIo, .connection ⟨bytes, .closed⟩)).2.state =
        broker.state := by
  obtain ⟨message, hwrites, hstate, -, hresult, -⟩ := client_told_what_niri_said restoreSerde
    restoreRequest restoreSerde_request .restore (.restoreWindow 42 none) (some 42) .restore
    appliedNiri niriIo rfl [] [] .closed
  obtain rfl := (hresult _).mpr ⟨rfl, rfl, _, appliedNiri_answered, rfl⟩
  exact ⟨congrArg (List.map Write.message) hwrites, hstate⟩

end Restore

end Melibea
