import Melibea.CommandLine
import Melibea.Execution

/-! A command line carried out: from its words to niri, and back to the exit code. -/

namespace Melibea

open Library Json

structure Environment where
  melibeaSocket : Option String
  xdgRuntimeDir : Option String

inductive SocketPathError
  | missingRuntimeDirectory
  deriving DecidableEq

def SocketPathError.display : SocketPathError → String
  | missingRuntimeDirectory => "neither MELIBEA_SOCKET nor XDG_RUNTIME_DIR is set"

def joinPath (directory name : String) : String :=
  if directory.endsWith "/" then directory ++ name else directory ++ "/" ++ name

def socketPath (env : Environment) : Except SocketPathError String :=
  match env.melibeaSocket.filter (· ≠ "") with
  | some path => .ok path
  | none =>
    match env.xdgRuntimeDir.filter (· ≠ "") with
    | some runtime => .ok (joinPath runtime "melibea.sock")
    | none => .error .missingRuntimeDirectory

def StartError.display : StartError → String
  | connect path source => s!"cannot connect to Melibea service {path}: {source}"
  | serialize error => s!"cannot encode Melibea request: {error}"
  | write error => s!"cannot send Melibea request: {error}"

def ClientError.display : ClientError → String
  | read error => s!"cannot read Melibea response: {error}"
  | closed => "Melibea service closed the connection"
  | invalidReply error => s!"invalid Melibea service response: {error}"
  | incompatibleServerVersion version =>
    s!"Melibea service replied with unsupported protocol version {version}"

def RequestError.display : RequestError → String
  | start error => error.display
  | reply error => error.display

def serviceRequest (serde : SerdeJson) (env : Environment) (io : ServiceClient.Starting)
    (request : Request) (replies : ByteStream) : Except String ServerMessage × Bytes :=
  match socketPath env with
  | .error error => (.error error.display, [])
  | .ok path =>
    let (response, sent) :=
      ServiceClient.requestVersioned serde path io ⟨protocolVersion, request⟩ replies
    (response.mapError RequestError.display, sent)

def operationName : Operation → String
  | .minimize => "minimize"
  | .restore => "restore"
  | .close => "close"

def actionStatusName : ActionStatus → String
  | .applied => "applied"
  | .alreadyInRequestedState => "already-in-requested-state"
  | .closeRequested => "close-requested"
  | .windowNotFound => "window-not-found"
  | .blocked => "blocked"
  | .legacyHandled => "legacy-handled"

def errorCodeName : ErrorCode → String
  | .incompatibleVersion => "incompatible-version"
  | .invalidRequest => "invalid-request"
  | .unavailable => "unavailable"
  | .actionFailed => "action-failed"

structure Finished where
  stdout : List String
  stderr : List String
  code : UInt8
  deriving DecidableEq

-- The text of a message that no request is answered with is left to its derived `Debug`.
def protocolFailure (debug : Message → String) (message : ServerMessage) : Finished where
  stdout := []
  stderr :=
    match message.message with
    | .error error => [s!"{errorCodeName error.code}: {error.message}"]
    | unexpected => [s!"unexpected Melibea service response: {debug unexpected}"]
  code := 1

def actionLineText (version : UInt32) (result : ActionResult) : String :=
  let requested := result.requestedId.elim "focused" toString
  let window := result.windowId.elim "none" toString
  s!"protocol={version} operation={operationName result.operation} " ++
    s!"status={actionStatusName result.status} requested={requested} window={window}"

def serviceAction (debug : Message → String) (response : Except String ServerMessage) : Finished :=
  match response with
  | .ok ⟨version, .actionResult result⟩ =>
    { stdout := [actionLineText version result]
      stderr := []
      code := if result.status = .windowNotFound ∨ result.status = .blocked then 1 else 0 }
  | .ok message => protocolFailure debug message
  | .error error => { stdout := [], stderr := [error], code := 1 }

def ServiceClient.Starting.reliable : ServiceClient.Starting where
  connect := .ok ()
  serialize := .done
  newline := .ok ()
  flush := .ok ()

lemma serviceRequest_reliable (serde : SerdeJson) {env : Environment} {path : String}
    (hpath : socketPath env = .ok path) (request : Request) (replies : ByteStream) :
    serviceRequest serde env .reliable request replies =
      (((readServerMessage serde replies protocolVersion).mapError RequestError.reply).mapError
        RequestError.display,
        serde.print (ClientRequest.toJson ⟨protocolVersion, request⟩) ++ [newline]) := by
  rw [serviceRequest, hpath]
  rfl

def NiriWindowActionResult.Failed (result : NiriWindowActionResult) : Prop :=
  result.status = .windowNotFound ∨ result.status = .blocked

namespace CommandLine

def Command.action : Command → Option Request
  | minimize id => some (.minimize id none)
  | restore id => some (.restore id none)
  | close id => some (.close id)
  | _ => none

def helpText : String :=
  "Usage: melibea [--config PATH] <COMMAND> [WINDOW_ID]\n\nCommands:\n" ++
  "  check-config        Parse and validate configuration without contacting niri\n" ++
  "  observe             Explain live focus decisions without changing niri layout\n" ++
  "  run                 Run geometry policy and the local protocol service\n" ++
  "  status              Check configuration and current niri state without mutation\n" ++
  "  list                List minimized windows through the Melibea v1 service\n" ++
  "  minimize [ID]       Minimize a window, or the focused window when ID is omitted\n" ++
  "  restore ID          Restore one native minimized window\n" ++
  "  close ID            Request that niri close one minimized window\n" ++
  "  subscribe           Print snapshot and incremental events as JSON lines\n" ++
  "  help                Show this help\n\n" ++
  "Compatibility aliases: minimized=list, close-window=close"

-- With the bytes sent to the service. The commands that only read, or that run, are not here.
def main (debug : Message → String) (serde : SerdeJson) (env : Environment)
    (io : ServiceClient.Starting) (replies : ByteStream) (arguments : List String) :
    Option (Finished × Bytes) :=
  match parseArgs arguments with
  | .ok .help => some ({ stdout := [helpText], stderr := [], code := 0 }, [])
  | .ok command =>
    command.action.map fun request =>
      let (response, sent) := serviceRequest serde env io request replies
      (serviceAction debug response, sent)
  | .error message => some ({ stdout := [helpText], stderr := [message, ""], code := 2 }, [])

lemma serviceAction_code (debug : Message → String) (message : ServerMessage) :
    (serviceAction debug (.ok message)).code = 0 ↔ ∃ result, message.message = .actionResult result ∧
      ¬ (result.status = .windowNotFound ∨ result.status = .blocked) := by
  obtain ⟨version, message⟩ := message
  cases message with
  | actionResult result =>
    simp only [serviceAction, Message.actionResult.injEq, exists_eq_left']
    split_ifs with h
    · simp [h]
    · simp [h]
  | _ => simp [serviceAction, protocolFailure]

lemma failed_map (operation : Operation) (result : NiriWindowActionResult) :
    (mapNativeActionResult operation result).status = .windowNotFound ∨
        (mapNativeActionResult operation result).status = .blocked ↔ result.Failed := by
  rw [NiriWindowActionResult.Failed, mapNativeActionResult]
  cases result.status <;> simp

lemma main_action {debug : Message → String} {serde : SerdeJson} {env : Environment}
    {path : String} (hpath : socketPath env = .ok path) {arguments : List String} {command : Command}
    (hcommand : parseArgs arguments = .ok command) {request : Request}
    (haction : command.action = some request) (replies : ByteStream) :
    main debug serde env .reliable replies arguments =
      some (serviceAction debug (((readServerMessage serde replies protocolVersion).mapError
        RequestError.reply).mapError RequestError.display),
          serde.print (ClientRequest.toJson ⟨protocolVersion, request⟩) ++ [newline]) := by
  have hsent := serviceRequest_reliable serde hpath request replies
  rw [main, hcommand]
  cases command with
  | minimize | restore | close =>
    obtain rfl := Option.some.inj haction
    exact congrArg (fun answer => some (serviceAction debug answer.1, answer.2)) hsent
  | _ => cases haction

open Broker

/-- `minimize`, `restore` and `close` ask niri once, by way of the service, and succeed exactly when
niri answers that the window was there and not blocked; they print what niri answered. -/
theorem command_reaches_niri (debug : Message → String) (serde : SerdeValue) (env : Environment)
    (path : String) (hpath : socketPath env = .ok path) (arguments : List String)
    (command : Command) (hcommand : parseArgs arguments = .ok command) (request : Request)
    (haction : command.action = some request)
    (hrequest : RequestText serde.toSerdeJson ⟨protocolVersion, request⟩) (operation : Operation)
    (action : NiriAction) (requestedId : Option UInt64)
    (hasks : Asks request operation action requestedId) (niri : NiriAnswers) (io : Io)
    (hio : io.execute = fun request => (executeProtocolAction serde niri request).1)
    (before : List (Io × ServiceInput)) (ending : StreamEnd) :
    let asked := serde.print (ClientRequest.toJson ⟨protocolVersion, request⟩) ++ [newline]
    let out := (served serde.toSerdeJson before).serve serde.toSerdeJson
      (io, .connection ⟨asked, ending⟩)
    let answer := out.1.flatMap fun write => messageBytes serde.toSerdeJson write.message
    (∀ write ∈ out.1, Subscription.MessageLine serde.toSerdeJson write.message) →
    ∃ finished,
      main debug serde.toSerdeJson env .reliable ⟨answer, .closed⟩ arguments =
        some (finished, asked) ∧
      (finished.code = 0 ↔ niri.connect = .ok () ∧ niri.writing = .done ∧
        ∃ reply, Answered serde niri.replies reply ∧ ¬ (reply.result requestedId).Failed) ∧
      (finished.code = 0 →
        (executeProtocolAction serde niri request).2 = actionLine serde action ∧
        ∃ reply, Answered serde niri.replies reply ∧ finished.stdout = [actionLineText
          protocolVersion (mapNativeActionResult operation (reply.result requestedId))]) := by
  intro asked out answer hlines
  set broker := served serde.toSerdeJson before
  set message := broker.state.reply io request
  have hout : out = ([⟨broker.accepted, protocolVersion, message⟩],
      { broker with accepted := broker.accepted + 1 }) :=
    serve_action hasks hrequest broker io [] ending
  have hanswer : answer = messageBytes serde.toSerdeJson ⟨protocolVersion, message⟩ ++ [] := by
    simp only [answer, hout, List.flatMap_singleton, List.append_nil]
  have hline : Subscription.MessageLine serde.toSerdeJson ⟨protocolVersion, message⟩ :=
    hlines ⟨broker.accepted, protocolVersion, message⟩ (by rw [hout]; exact List.mem_singleton_self _)
  have hread := hline.readServerMessage [] .closed
  have hresult := reply_eq_actionResult hasks (congrFun hio request) broker.state
  refine ⟨serviceAction debug (.ok ⟨protocolVersion, message⟩), ?_, ?_, fun hcode => ?_⟩
  · rw [main_action hpath hcommand haction, hanswer, hread]
    rfl
  · rw [serviceAction_code]
    constructor
    · rintro ⟨result, hm, hstatus⟩
      obtain ⟨hconnect, hwriting, reply, hreply, rfl⟩ := (hresult result).mp hm
      exact ⟨hconnect, hwriting, reply, hreply, mt (failed_map operation _).mpr hstatus⟩
    · rintro ⟨hconnect, hwriting, reply, hreply, hstatus⟩
      exact ⟨_, (hresult _).mpr ⟨hconnect, hwriting, reply, hreply, rfl⟩,
        mt (failed_map operation _).mp hstatus⟩
  · obtain ⟨result, hm, -⟩ := (serviceAction_code debug _).mp hcode
    obtain ⟨hconnect, hwriting, reply, hreply, rfl⟩ := (hresult result).mp hm
    refine ⟨(executeProtocolAction_sent hasks).2 ?_, reply, hreply, ?_⟩
    · rw [(executeProtocolAction_eq_ok hasks).mpr ⟨hconnect, hwriting, reply, hreply, rfl⟩]
      rfl
    · rw [show message = _ from hm]
      rfl

section Restore

lemma restoreSerde_applied : Subscription.MessageLine restoreSerde.toSerdeJson appliedMessage where
  line := .ofLines _ (by decide +kernel) (by decide +kernel) rfl (by decide +kernel)
  indexed := trivial

theorem command_reaches_niri_restore :
    ∃ finished, main (fun _ => "") restoreSerde.toSerdeJson ⟨none, some "/run/user/1000"⟩ .reliable
        ⟨messageBytes restoreSerde.toSerdeJson appliedMessage, .closed⟩ ["restore", "42"] =
          some (finished, restoreLine ++ [newline]) ∧
      finished.code = 0 := by
  have hout : ((served restoreSerde.toSerdeJson []).serve restoreSerde.toSerdeJson
      (niriIo, .connection ⟨restoreLine ++ [newline], .closed⟩)).1 = [⟨0, appliedMessage⟩] := by
    decide +kernel
  obtain ⟨finished, hmain, hcode, -⟩ := command_reaches_niri (fun _ => "") restoreSerde
    ⟨none, some "/run/user/1000"⟩ _ rfl ["restore", "42"] (.restore 42) rfl (.restore 42 none) rfl
    restoreSerde_request .restore (.restoreWindow 42 none) (some 42) .restore appliedNiri niriIo rfl
    [] .closed fun write hm => by
      obtain rfl := List.mem_singleton.mp (hout ▸ hm)
      exact restoreSerde_applied
  refine ⟨finished, ?_, hcode.mpr ⟨rfl, rfl, _, appliedNiri_answered, by
    simp [NiriWindowActionResult.Failed, ActionReply.result]⟩⟩
  rw [show messageBytes restoreSerde.toSerdeJson appliedMessage =
    [(⟨0, appliedMessage⟩ : Write)].flatMap fun write =>
      messageBytes restoreSerde.toSerdeJson write.message by rw [List.flatMap_singleton], ← hout]
  exact hmain

end Restore

end CommandLine

end Melibea
