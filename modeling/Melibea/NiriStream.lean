import Melibea.Connection
import Melibea.NiriWire
import Melibea.Reading
import Melibea.Library.Validation

/-! niri's event stream: the handshake, and the thread that reads an event a line. -/

namespace Melibea

open Library Json Lines

inductive NiriIpcError
  | missingSocketEnvironment
  | connect (path : String) (source : String)
  | writeRequest (error : String)
  | readHandshake (error : String)
  | closedDuringHandshake
  | invalidHandshake (error : String)
  | unexpectedHandshake
  | requestRejected (message : String)
  | shutdownWrite (error : String)
  | readEvent (error : String)
  | invalidEvent (error : NiriEventError)
  deriving DecidableEq

def niriSocketEnv : String := "NIRI_SOCKET"

def NiriIpcError.display : NiriIpcError → String
  | .missingSocketEnvironment => s!"{niriSocketEnv} is not set; run Melibea inside a niri session"
  | .connect path source => s!"cannot connect to niri socket {path}: {source}"
  | .writeRequest error => s!"cannot request niri events: {error}"
  | .readHandshake error => s!"cannot read niri event-stream reply: {error}"
  | .closedDuringHandshake => "niri closed IPC before accepting the event stream"
  | .invalidHandshake error => s!"invalid niri event-stream reply: {error}"
  | .unexpectedHandshake => "niri returned an unexpected event-stream reply"
  | .requestRejected message => s!"niri rejected the event stream: {message}"
  | .shutdownWrite error => s!"cannot finalize niri event-stream request: {error}"
  | .readEvent error => s!"cannot read niri event: {error}"
  | .invalidEvent error => s!"cannot decode niri event: {error.display}"

def validateHandshake (serde : SerdeValue) (line : Bytes) : Except NiriIpcError Unit :=
  match serde.value line with
  | none => .error (.invalidHandshake (serde.valueError line))
  | some (.object [("Ok", .string "Handled")]) => .ok ()
  | some (.object [("Err", .string message)]) => .error (.requestRejected message)
  | some _ => .error .unexpectedHandshake

namespace NiriEventStream

structure Requesting where
  write : Except String Unit
  shutdown : Except String Unit

def start (serde : SerdeValue) (io : Requesting) (stream : ByteStream) :
    Except NiriIpcError ByteStream := do
  io.write.mapError .writeRequest
  let line ← (readLine stream).mapError .readHandshake
  if line.length = 0 then throw .closedDuringHandshake
  validateHandshake serde line
  io.shutdown.mapError .shutdownWrite
  return stream.afterLine

lemma stream_of_start {serde : SerdeValue} {io : Requesting} {before after : ByteStream}
    (h : start serde io before = .ok after) : after = before.afterLine := by
  obtain ⟨_, -, h⟩ := ok_of_bind h
  obtain ⟨line, -, h⟩ := ok_of_bind h
  by_cases hlength : line.length = 0
  · rw [if_pos hlength] at h
    cases h
  · rw [if_neg hlength] at h
    obtain ⟨_, -, h⟩ := ok_of_bind h
    obtain ⟨_, -, h⟩ := ok_of_bind h
    exact (Except.ok.inj h).symm

lemma start_handled {serde : SerdeValue} {greeting : Bytes} {json : Json}
    (h : JsonLine serde.toSerdeJson greeting json) (hr : json.isReadable)
    (hs : Single "Ok" (.string "Handled") json) (rest : Bytes) (ending : StreamEnd) :
    start serde ⟨.ok (), .ok ()⟩ ⟨greeting ++ newline :: rest, ending⟩ = .ok ⟨rest, ending⟩ := by
  have hread := readLine_append h.oneLine h.utf8 rest ending
  have hvalue : serde.value (greeting ++ [newline]) =
      some (.object [("Ok", .string "Handled")]) :=
    value_single.mpr ⟨json, _, h.parsed, hr, hs, (normalize_string _).symm⟩
  have hvalid : validateHandshake serde (greeting ++ [newline]) = .ok () := by
    simp [validateHandshake, hvalue]
  have hlength : (greeting ++ [newline]).length ≠ 0 := by simp
  have hrest : ByteStream.afterLine ⟨greeting ++ newline :: rest, ending⟩ = ⟨rest, ending⟩ := by
    rw [ByteStream.afterLine, afterLine_append h.oneLine]
  rw [start, hread, hrest]
  change (if (greeting ++ [newline]).length = 0 then _ else
    validateHandshake serde (greeting ++ [newline]) >>= _) = _
  rw [if_neg hlength, hvalid]
  rfl

def readEvent (serde : SerdeValue) (stream : ByteStream) :
    Except NiriIpcError (Option NiriEvent) × ByteStream :=
  let result :=
    match readLine stream with
    | .error error => .error (.readEvent error)
    | .ok line =>
      if line.length = 0 then .ok none
      else ((parseEventLine serde line).map some).mapError .invalidEvent
  (result, stream.afterLine)

lemma readEvent_eq (serde : SerdeValue) (stream : ByteStream) :
    readEvent serde stream =
      (match readNext (parseEventLine serde) stream with
        | .ok event => .ok (some event)
        | .error .closed => .ok none
        | .error (.failed error) => .error (.readEvent error)
        | .error (.invalid error) => .error (.invalidEvent error), stream.afterLine) := by
  rw [readEvent, readNext]
  cases readLine stream with
  | error error => rfl
  | ok line =>
    dsimp only
    split_ifs
    · rfl
    · cases parseEventLine serde line <;> rfl

lemma bytes_of_readEvent {serde : SerdeValue} {stream rest : ByteStream} {event : NiriEvent}
    (h : readEvent serde stream = (.ok (some event), rest)) :
    rest.bytes.length < stream.bytes.length := by
  rw [readEvent_eq] at h
  obtain ⟨hresult, rfl⟩ := Prod.mk.inj h
  cases hnext : readNext (parseEventLine serde) stream with
  | ok event => exact bytes_of_readNext hnext
  | error stopped =>
    rw [hnext] at hresult
    cases stopped <;> cases hresult

-- The thread of `spawn_event_reader`.
def messages (serde : SerdeValue) (stream : ByteStream) : List StreamMessage :=
  match _h : readEvent serde stream with
  | (.ok (some event), rest) => .ok (some event) :: messages serde rest
  | (.ok none, _) => [.ok none]
  | (.error error, _) => [.error error.display]
termination_by stream.bytes.length
decreasing_by exact bytes_of_readEvent _h

def last : Stopped NiriEventError → StreamMessage
  | .closed => .ok none
  | .failed error => .error (NiriIpcError.readEvent error).display
  | .invalid error => .error (NiriIpcError.invalidEvent error).display

variable {serde : SerdeValue} {stream rest : ByteStream}

lemma readAll_of_event {event : NiriEvent}
    (h : readEvent serde stream = (.ok (some event), rest)) :
    readAll (parseEventLine serde) stream =
      (event :: (readAll (parseEventLine serde) rest).1,
        (readAll (parseEventLine serde) rest).2) := by
  rw [readEvent_eq] at h
  obtain ⟨hresult, rfl⟩ := Prod.mk.inj h
  cases hnext : readNext (parseEventLine serde) stream with
  | ok other =>
    rw [hnext] at hresult
    obtain rfl := Option.some.inj (Except.ok.inj hresult)
    exact readAll_of_ok hnext
  | error stopped =>
    rw [hnext] at hresult
    cases stopped <;> cases hresult

lemma readAll_of_last {result : Except NiriIpcError (Option NiriEvent)}
    (h : readEvent serde stream = (result, rest)) (hr : ∀ event, result ≠ .ok (some event)) :
    ∃ stopped, readAll (parseEventLine serde) stream = ([], stopped) ∧
      result.mapError NiriIpcError.display = last stopped := by
  rw [readEvent_eq] at h
  obtain ⟨rfl, -⟩ := Prod.mk.inj h
  cases hnext : readNext (parseEventLine serde) stream with
  | ok event => exact absurd (by rw [hnext]) (hr event)
  | error stopped =>
    refine ⟨stopped, readAll_of_error hnext, ?_⟩
    cases stopped <;> rfl

variable (serde stream) in
lemma messages_eq : messages serde stream =
    (readAll (parseEventLine serde) stream).1.map (fun event => .ok (some event)) ++
      [last (readAll (parseEventLine serde) stream).2] := by
  fun_induction messages serde stream with
  | case1 stream event rest h ih =>
    rw [readAll_of_event h, ih]
    rfl
  | case2 stream rest h =>
    obtain ⟨stopped, hall, hlast⟩ := readAll_of_last h (by simp)
    rw [hall]
    exact congrArg (fun message => [message]) hlast
  | case3 stream error rest h =>
    obtain ⟨stopped, hall, hlast⟩ := readAll_of_last h (by simp)
    rw [hall]
    exact congrArg (fun message => [message]) hlast

end NiriEventStream

inductive EventLine (serde : SerdeValue) (line : Bytes) (event : NiriEvent) : Prop
  | mk {json : Json} : JsonLine serde.toSerdeJson line json → json.isReadable →
    SpelledEvent event json → EventLine serde line event

lemma EventLine.decoded {serde : SerdeValue} {line : Bytes} {event : NiriEvent}
    (h : EventLine serde line event) : DecodedLine (parseEventLine serde) line event := by
  obtain ⟨hline, hreadable, hspelled⟩ := h
  refine ⟨hline.oneLine, hline.utf8, parseEventLine_spelled hline.parsed hreadable hspelled,
    parseEventLine_spelled hline.trimmed hreadable hspelled, fun {part} hp hne => ?_⟩
  refine ⟨.json (serde.valueError part), ?_⟩
  rw [parseEventLine, SerdeValue.value, hline.cut hp hne]
  rfl

open NiriEventStream Connection Machine

lemma events_messages (serde : SerdeValue) (stream : ByteStream) :
    events (messages serde stream) = (readAll (parseEventLine serde) stream).1 := by
  have hsent : ∀ sent : List NiriEvent, events (sent.map fun event => .ok (some event)) = sent := by
    intro sent
    induction sent with
    | nil => rfl
    | cons event sent ih => exact congrArg (event :: ·) ih
  rw [messages_eq, events_append, hsent]
  cases (readAll (parseEventLine serde) stream).2 <;> exact List.append_nil _

/-- However niri's stream is cut after its greeting, and in whatever order the reader, the clients
and the main thread take their turns, the engine has applied the first events of it, in order. -/
theorem niri_events_in_order (serde : SerdeValue) (greeting : Bytes) (hgreeting : newline ∉ greeting)
    (lines : List Bytes) (sent : List NiriEvent)
    (hlines : List.Forall₂ (EventLine serde) lines sent) (bytes : Bytes)
    (hbytes : bytes <+: unlines newline (greeting :: lines)) (ending : StreamEnd) (io : Requesting)
    (stream : ByteStream) (hstart : start serde io ⟨bytes, ending⟩ = .ok stream)
    (parse : String → Except String Config) (config : Config) (service : Service)
    (hs : service.running) (watcher : ConfigWatcher) (inputs : List ConnectionInput)
    (hreads : reads inputs <+: messages serde stream) :
    ∃ seen, seen <+: sent ∧
      (Connection.after parse config service watcher inputs).controller.adapter =
        .after config seen := by
  refine ⟨events (history parse config service watcher inputs), ?_, adapter_after hs inputs⟩
  have hdecoded : List.Forall₂ (DecodedLine (parseEventLine serde)) lines sent :=
    hlines.imp fun _ _ => EventLine.decoded
  rw [unlines_cons, List.append_assoc] at hbytes
  obtain rfl := stream_of_start hstart
  refine List.IsPrefix.trans ?_ (prefix_readAll hdecoded (prefix_afterLine hgreeting hbytes) ending)
  rw [← events_messages]
  exact ((prefix_history hs inputs).trans hreads).filterMap _

section Closed

def SerdeValue.ofLines (known : List (Bytes × Json)) (print : Json → Bytes) : SerdeValue where
  toSerdeJson := .ofLines known print
  valueError _ := ""
  payloadError _ := ""

def handledLine : Bytes := text "\x7b\"Ok\":\"Handled\"\x7d"

def handledJson : Json := .object [("Ok", .string "Handled")]

def closedLine : Bytes := text "\x7b\"WindowClosed\":\x7b\"id\":7\x7d\x7d"

def closedJson : Json := .object [("WindowClosed", .object [("id", .unsigned 7)])]

def closedSerde : SerdeValue := .ofLines [(handledLine, handledJson), (closedLine, closedJson)] fun _ => []

lemma handledLine_json : JsonLine closedSerde.toSerdeJson handledLine handledJson :=
  .ofLines _ (by decide +kernel) (by decide +kernel) rfl (by decide +kernel)

lemma closedLine_event : EventLine closedSerde closedLine (.windowClosed 7) := by
  refine ⟨.ofLines _ (by decide +kernel) (by decide +kernel) rfl (by decide +kernel), rfl,
    .known ⟨by simp [eventName], rfl⟩ (.windowClosed (.object _) rfl)⟩

theorem niri_events_in_order_closed :
    let inputs : List ConnectionInput := [.read (.ok (some (.windowClosed 7))), .turn .reliable]
    let watcher : ConfigWatcher := .new "config.toml" ""
    ∃ seen, seen <+: [.windowClosed 7] ∧
      (Connection.after (fun _ => .ok .kittyAndCode) .kittyAndCode .start watcher
        inputs).controller.adapter = .after .kittyAndCode seen := by
  intro inputs watcher
  refine niri_events_in_order closedSerde handledLine (by decide +kernel) [closedLine]
    [.windowClosed 7] (.cons closedLine_event .nil) _ (List.prefix_refl _) .closed ⟨.ok (), .ok ()⟩
    ⟨unlines newline [closedLine] ++ [], .closed⟩ ?_ _ _ _ rfl watcher inputs ?_
  · exact start_handled handledLine_json rfl ⟨by simp, rfl⟩ _ .closed
  · rw [messages_eq, readAll_lines (.cons closedLine_event.decoded .nil)]
    exact List.prefix_append _ _

end Closed

end Melibea
