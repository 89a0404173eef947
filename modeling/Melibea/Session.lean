import Melibea.ClientView
import Melibea.Freshness
import Melibea.NiriActions

/-! The run command on its sockets: what niri writes on one, and what subscribers read on others. -/

namespace Melibea

open Library Machine NiriEventStream

structure Broker.Spoken (broker : Broker) (writes : List Write) : Prop where
  apart : Broker.Apart broker
  seen : ∀ write ∈ writes, write.stream < broker.accepted
  version : ∀ subscriber ∈ broker.state.subscribers, ∀ write ∈ writes,
    write.stream = subscriber.stream → write.message.version = subscriber.version

namespace Broker

variable {self : Broker} {writes : List Write}

lemma Spoken.turn (h : Spoken self writes) (input : Io × BrokerMessage) :
    Spoken (self.turn input).2 (writes ++ (self.turn input).1) := by
  refine ⟨h.apart.turn input, h.apart.seen_turn h.seen input, fun subscriber hm write hw hs => ?_⟩
  obtain ⟨io, message⟩ := input
  cases hc : message.command with
  | some command =>
    rw [turn_command self io hc] at hm hw
    have hold := (self.state.subscribers_obey io command).subset hm
    rcases List.mem_append.mp hw with hw | hw
    · exact h.version subscriber hold write hw hs
    · obtain ⟨other, ho, message, rfl⟩ := BrokerState.mem_obey hw
      rw [List.inj_on_of_nodup_map h.apart.streams ho hold hs]
      rfl
  | none =>
    obtain ⟨version, request, rfl⟩ := message.client_of_command hc
    rw [turn_client, BrokerState.handleClient_eq] at hm hw
    have hcases : subscriber ∈ self.state.subscribers ∨ subscriber = ⟨version, self.accepted⟩ := by
      dsimp only at hm
      split_ifs at hm
      · rcases List.mem_append.mp hm with hm | hm
        · exact .inl (List.mem_filter.mp hm).1
        · exact .inr (List.mem_singleton.mp hm)
      · exact .inl hm
    rcases List.mem_append.mp hw with hw | hw
    · rcases hcases with hold | rfl
      · exact h.version subscriber hold write hw hs
      · exact absurd hs (h.seen write hw).ne
    · rw [List.mem_singleton.mp hw] at hs ⊢
      rcases hcases with hold | rfl
      · exact absurd hs.symm (h.apart.accepted subscriber hold).ne
      · rfl

lemma spoken (inputs : List (Io × BrokerMessage)) : Spoken (after inputs) (written inputs) := by
  induction inputs using List.reverseRecOn with
  | nil =>
    refine ⟨⟨List.nodup_nil, fun _ hm => (nomatch hm)⟩, fun _ hw => (nomatch hw),
      fun _ hm => (nomatch hm)⟩
  | append_singleton inputs input ih =>
    rw [after_concat, written_concat]
    exact ih.turn input

end Broker

lemma Turned.message {broker : Broker} {input : DaemonInput} {out : List Write × Broker}
    (h : Turned broker input out) :
    ∃ message : Option (Io × BrokerMessage), out = message.elim ([], broker) broker.turn := by
  cases h with
  | quiet => exact ⟨none, rfl⟩
  | @published io windows => exact ⟨some (io, .publish (windows.map Window.ofMinimized)), rfl⟩
  | @withdrawn _ io reason => exact ⟨some (io, .setUnavailable reason), rfl⟩
  | @client io version request => exact ⟨some (io, .client version request), rfl⟩

namespace Daemon

lemma brokered (config : Config) (inputs : List DaemonInput) : ∃ messages,
    (after config inputs).broker = Broker.after messages ∧
      written config inputs = Broker.written messages := by
  induction inputs using List.reverseRecOn with
  | nil => exact ⟨[], rfl, rfl⟩
  | append_singleton inputs input ih =>
    obtain ⟨messages, hb, hw⟩ := ih
    obtain ⟨message, hout⟩ := (step_turned (running config inputs) input).1.message
    obtain ⟨hwrites, hbroker⟩ := Prod.mk.inj hout
    rw [after_concat, written_concat, hw]
    cases message with
    | none => exact ⟨messages, hbroker.trans hb, by rw [hwrites]; exact List.append_nil _⟩
    | some message =>
      refine ⟨messages ++ [message], ?_, ?_⟩
      · rw [Broker.after_concat, ← hb]
        exact hbroker
      · rw [Broker.written_concat, ← hb, hwrites]

end Daemon

namespace NiriEventStream

def next (serde : SerdeValue) (stream : ByteStream) : StreamMessage × ByteStream :=
  let (result, rest) := readEvent serde stream
  (result.mapError NiriIpcError.display, rest)

lemma messages_next (serde : SerdeValue) (stream : ByteStream) :
    messages serde stream = (next serde stream).1 ::
      if terminal (next serde stream).1 then [] else messages serde (next serde stream).2 := by
  rw [messages, next]
  rcases readEvent serde stream with ⟨error | _ | event, rest⟩ <;> rfl

end NiriEventStream

structure Session where
  process : Process
  stream : ByteStream

structure Connecting where
  events : Except NiriIpcError (Requesting × ByteStream)
  actions : Except NiriActionError Unit
  reader : Except String Unit

inductive SessionInput
  | connect (io : Io) (connecting : Connecting)
  | read
  | client (io : Io) (version : UInt32) (request : Request)
  | turn (answers : Answers)

section Step

variable (serde : SerdeValue)

def Connecting.result (self : Connecting) : Except String ByteStream := do
  let (io, stream) ← self.events.mapError NiriIpcError.display
  let stream ← (start serde io stream).mapError NiriIpcError.display
  self.actions.mapError NiriActionError.display
  self.reader.mapError fun error => s!"cannot create niri event cancellation handle: {error}"
  return stream

namespace Session

def reading (self : Session) : Bool :=
  match self.process with
  | .connected _ connection => connection.hasReader
  | .connecting _ _ _ | .exited _ => false

def input (self : Session) : SessionInput → ProcessInput
  | .connect io connecting => .connect io ((connecting.result serde).map fun _ => ())
  | .read => .connection (.read (next serde self.stream).1)
  | .client io version request => .connection (.client io version request)
  | .turn answers => .connection (.turn answers)

def remaining (self : Session) : SessionInput → ByteStream
  | .connect _ connecting =>
    match self.process, connecting.result serde with
    | .connecting _ _ _, .ok stream => stream
    | _, _ => self.stream
  | .read => if self.reading then (next serde self.stream).2 else self.stream
  | .client .. | .turn _ => self.stream

variable (parse : String → Except String Config)

def step (self : Session) (input : SessionInput) : List Write × Session :=
  let (writes, process) := self.process.step parse (self.input serde input)
  (writes, { process, stream := self.remaining serde input })

variable {parse}

def start (loaded : LoadedConfig parse) : Session where
  process := .start loaded
  stream := ⟨[], .closed⟩

abbrev after (loaded : LoadedConfig parse) (inputs : List SessionInput) : Session :=
  run (step serde parse) (start loaded) inputs

def written (loaded : LoadedConfig parse) (inputs : List SessionInput) : List Write :=
  (outputs (step serde parse) (start loaded) inputs).flatten

abbrev calls (loaded : LoadedConfig parse) (inputs : List SessionInput) : List ProcessInput :=
  trace (step serde parse) (fun self input => [self.input serde input]) (start loaded) inputs

variable (parse) in
lemma simulation : Simulation (step serde parse) (Process.step parse)
    (fun self input => [self.input serde input]) (fun self process => self.process = process)
    id id where
  matched := by
    rintro self _ rfl input
    rfl
  observed := by
    rintro self _ rfl input
    exact (List.append_nil _).symm

variable (loaded : LoadedConfig parse) (inputs : List SessionInput)

lemma process_after : (after serde loaded inputs).process = .after loaded (calls serde loaded inputs) :=
  (simulation serde parse).run rfl inputs

lemma written_eq : written serde loaded inputs = Process.written loaded (calls serde loaded inputs) := by
  have h := (simulation serde parse).outputs (s := start loaded) rfl inputs
  rwa [List.flatMap_id, List.flatMap_id] at h

lemma calls_concat (input : SessionInput) : calls serde loaded (inputs ++ [input]) =
    calls serde loaded inputs ++ [(after serde loaded inputs).input serde input] := by
  rw [calls, trace_append, trace_cons, trace_nil, List.append_nil]

/-- What the reader has handed over is the beginning of what its stream holds, and while it reads
the rest is what it has not read yet. -/
structure Reads (stream : ByteStream) (handed : List StreamMessage) (session : Session) : Prop where
  beginning : handed <+: messages serde stream
  left : session.reading = true → handed ++ messages serde session.stream = messages serde stream

variable {serde} {self : Session} {config : Config} {connection : Connection} {stream : ByteStream}
  {handed : List StreamMessage}

lemma reading_of_connected (hp : self.process = .connected config connection) :
    self.reading = connection.hasReader := by
  rw [reading, hp]

lemma Reads.quiet (h : Reads serde stream handed self)
    (hp : self.process = .connected config connection) {next : Session} {connection' : Connection}
    (hnext : next.process = .connected config connection') (hstream : next.stream = self.stream)
    (hreader : connection'.hasReader → connection.hasReader) : Reads serde stream handed next := by
  refine ⟨h.beginning, fun hr => ?_⟩
  rw [reading_of_connected hnext] at hr
  rw [hstream]
  exact h.left ((reading_of_connected hp).trans (hreader hr))

lemma Reads.read (h : Reads serde stream handed self)
    (hp : self.process = .connected config connection) {next' : Session}
    (hnext : next'.process = .connected config (connection.deliver (next serde self.stream).1))
    (hstream : next'.stream = self.remaining serde .read) :
    Reads serde stream (handed ++ connection.delivered (.read (next serde self.stream).1)) next' := by
  rw [Connection.delivered]
  rw [remaining, reading_of_connected hp] at hstream
  by_cases hr : connection.hasReader = true
  · have hleft := h.left ((reading_of_connected hp).trans hr)
    rw [messages_next] at hleft
    rw [if_pos hr] at hstream ⊢
    refine ⟨⟨_, (List.append_assoc _ _ _).trans hleft⟩, fun hreading => ?_⟩
    rw [reading_of_connected hnext, Connection.deliver, if_pos hr, Connection.hasReader_iff] at hreading
    rw [if_neg hreading.2] at hleft
    rw [hstream, List.append_assoc]
    exact hleft
  · rw [if_neg hr] at hstream ⊢
    rw [List.append_nil]
    refine h.quiet hp hnext hstream fun hr' => ?_
    rwa [Connection.deliver, if_neg hr] at hr'

lemma map_unit_eq_ok {result : Except String ByteStream} (h : result.map (fun _ => ()) = .ok ()) :
    ∃ stream, result = .ok stream := by
  cases result with
  | error error => cases h
  | ok stream => exact ⟨stream, rfl⟩

variable (serde) in
structure Reading (loaded : LoadedConfig parse) (inputs : List SessionInput) (config : Config)
    (connection : Connection) (stream : ByteStream) (since : List ConnectionInput)
    (service : Service) (watcher : ConfigWatcher) : Prop where
  origin : ∃ before io connecting rest, inputs = before ++ .connect io connecting :: rest ∧
    (after serde loaded before).process = .connecting config service watcher ∧
    connecting.result serde = .ok stream ∧ ∀ part, part <+: rest → ∃ connection,
      (after serde loaded (before ++ .connect io connecting :: part)).process =
        .connected config connection
  made : Process.Made loaded (calls serde loaded inputs) config connection since service watcher
  reads : Reads serde stream (trace (Connection.step parse) Connection.delivered
    (.connect config service watcher) since) (after serde loaded inputs)

lemma after_concat (inputs : List SessionInput) (input : SessionInput) :
    after serde loaded (inputs ++ [input]) =
      ((after serde loaded inputs).step serde parse input).2 := by
  rw [after, run_append, run_cons, run_nil]

lemma reading_connect {inputs : List SessionInput} {input : SessionInput} {service : Service}
    {watcher : ConfigWatcher} {io : Io}
    (hself : (after serde loaded inputs).process = .connecting config service watcher)
    (hinput : (after serde loaded inputs).input serde input = .connect io (.ok ()))
    (hnext : (after serde loaded (inputs ++ [input])).process = .connected config connection) :
    ∃ stream, Reading serde loaded (inputs ++ [input]) config (.connect config service watcher) stream
      [] service watcher := by
  cases input with
  | connect io' connecting =>
    obtain ⟨rfl, hresult⟩ := ProcessInput.connect.inj hinput
    obtain ⟨stream, hstream⟩ := map_unit_eq_ok hresult
    refine ⟨stream, ⟨inputs, io', connecting, [], rfl, hself, hstream, fun part hpart => ?_⟩, ?_,
      List.nil_prefix, fun _ => ?_⟩
    · obtain rfl := List.prefix_nil.mp hpart
      exact ⟨connection, hnext⟩
    · rw [calls_concat, hinput]
      exact Process.made_connect (process_after serde loaded inputs ▸ hself) io'
    · rw [after_concat]
      simp only [step, remaining, hself, hstream, trace_nil, List.nil_append]
  | _ => cases hinput

lemma Reading.concat {inputs : List SessionInput} {since : List ConnectionInput}
    {service : Service} {watcher : ConfigWatcher}
    (h : Reading serde loaded inputs config connection stream since service watcher)
    (hself : (after serde loaded inputs).process = .connected config connection)
    {input : SessionInput} {connection' : Connection}
    (hnext : (after serde loaded (inputs ++ [input])).process = .connected config connection')
    (hrun : connection' = run (Connection.step parse) connection
      ((after serde loaded inputs).input serde input).connection?.toList) :
    Reading serde loaded (inputs ++ [input]) config connection' stream
      (since ++ ((after serde loaded inputs).input serde input).connection?.toList) service watcher := by
  obtain ⟨⟨before, io, connecting, rest, hinputs, hbefore, hresult, hlasted⟩, hmade, hreads⟩ := h
  have hall : inputs ++ [input] = before ++ .connect io connecting :: (rest ++ [input]) := by
    rw [hinputs, List.append_assoc, List.cons_append]
  refine ⟨⟨before, io, connecting, rest ++ [input], hall, hbefore, hresult, fun part hpart => ?_⟩,
    ?_, ?_⟩
  · rcases List.prefix_concat_iff.mp hpart with rfl | hpart
    · exact ⟨connection', hall ▸ hnext⟩
    · exact hlasted part hpart
  · rw [calls_concat, hrun]
    exact hmade.concat _
  · have hrunning : connection.controller.service.running := by
      rw [hmade.runs]
      exact (Connection.sound parse config hmade.running watcher since).running
    have hstream : (after serde loaded (inputs ++ [input])).stream =
        (after serde loaded inputs).remaining serde input := by
      rw [after_concat]
      rfl
    rw [trace_append, ← Connection.after, ← hmade.runs]
    subst hrun
    cases input with
    | connect io' connecting' =>
      rw [input, ProcessInput.connection?, Option.toList_none, trace_nil, List.append_nil]
      refine hreads.quiet hself hnext ?_ id
      rw [hstream, remaining, hself]
    | read =>
      rw [input, ProcessInput.connection?, Option.toList_some, trace_cons, trace_nil, List.append_nil]
      exact hreads.read hself hnext hstream
    | client io' version request =>
      rw [input, ProcessInput.connection?, Option.toList_some, trace_cons, trace_nil, List.append_nil]
      refine (List.append_nil _).symm ▸ hreads.quiet hself hnext hstream ?_
      exact (Connection.moved parse hrunning _).hasReader
    | turn answers =>
      rw [input, ProcessInput.connection?, Option.toList_some, trace_cons, trace_nil, List.append_nil]
      refine (List.append_nil _).symm ▸ hreads.quiet hself hnext hstream ?_
      exact (Connection.moved parse hrunning _).hasReader

lemma reading_after {inputs : List SessionInput} {config : Config} {connection : Connection}
    (h : (after serde loaded inputs).process = .connected config connection) :
    ∃ stream since service watcher,
      Reading serde loaded inputs config connection stream since service watcher := by
  induction inputs using List.reverseRecOn generalizing config connection with
  | nil => cases h
  | append_singleton inputs input ih =>
    have hnext := h
    rw [after_concat] at h
    rcases Process.connected_step h with
      ⟨service, watcher, io, hself, hinput, rfl⟩ | ⟨previous, hself, hrun⟩
    · obtain ⟨stream, hstream⟩ := reading_connect loaded hself hinput hnext
      exact ⟨stream, _, _, _, hstream⟩
    · obtain ⟨stream, since, service, watcher, hreading⟩ := ih hself
      exact ⟨stream, _, _, _, hreading.concat loaded hself hnext hrun⟩

end Session

end Step

open Session

/-- What a subscriber has read is what niri has written. It holds windows exactly when one of the
messages ingested on this connection brought some, and then it holds the last that did; ingested
are the messages that niri's stream begins with, and none of them is lost on the way. -/
theorem subscriber_shows_niri (serde : SerdeValue) (parse : String → Except String Config)
    (loaded : LoadedConfig parse) (inputs : List SessionInput) (config : Config)
    (connection : Connection)
    (h : (Session.after serde loaded inputs).process = .connected config connection) :
    ∃ stream since service watcher,
      Reading serde loaded inputs config connection stream since service watcher ∧
      let seen := Connection.history parse config service watcher since
      seen ++ connection.channel <+: messages serde stream ∧
      ((Session.after serde loaded inputs).reading = true → seen ++ connection.channel ++
        messages serde (Session.after serde loaded inputs).stream = messages serde stream) ∧
      ∀ subscriber ∈ connection.controller.service.broker.state.subscribers,
        let sent := messagesOn (Session.written serde loaded inputs) subscriber.stream
        (∀ message ∈ sent, Subscription.MessageLine serde.toSerdeJson message) → ∀ ending,
          let bytes := sent.flatMap (messageBytes serde.toSerdeJson)
          let got := (Subscription.messages serde.toSerdeJson subscriber.version ⟨bytes, ending⟩).1
          let shown := replica (got.map ServerMessage.message)
          shown.ready = (lastPublished seen).isSome ∧
            ∀ windows, lastPublished seen = some windows →
              shown.value = windows.map Window.ofMinimized := by
  obtain ⟨stream, since, service, watcher, hreading⟩ := reading_after loaded h
  refine ⟨stream, since, service, watcher, hreading, ?_⟩
  intro seen
  have hchannel : seen ++ connection.channel = trace (Connection.step parse) Connection.delivered
      (.connect config service watcher) since := by
    rw [hreading.made.runs]
    exact Connection.history_append_channel hreading.made.running since
  rw [hchannel]
  refine ⟨hreading.reads.beginning, hreading.reads.left, ?_⟩
  intro subscriber hm sent hlines ending bytes got shown
  have hprocess : Process.after loaded (calls serde loaded inputs) = .connected config connection :=
    (process_after serde loaded inputs).symm.trans h
  have hgot : got = sent := by
    refine Subscription.messages_whole (fun message hmessage => ?_) hlines ending
    obtain ⟨write, hw, hs, rfl⟩ := mem_messagesOn.mp hmessage
    rw [Session.written_eq, Process.written_eq] at hw
    obtain ⟨handed, hbroker, hwritten⟩ := Daemon.brokered loaded.config
      (Process.daemonInputs loaded (calls serde loaded inputs))
    rw [Daemon.broker, Process.daemon_of_connected hprocess] at hbroker
    rw [hwritten] at hw
    exact (Broker.spoken handed).version subscriber (hbroker ▸ hm) write hw hs
  have hshown : shown =
      replica (Melibea.sent (Process.written loaded (calls serde loaded inputs)) subscriber.stream) := by
    simp only [shown, hgot, sent, messagesOn, List.map_map, Session.written_eq]
    rfl
  rw [hshown]
  exact hreading.made.shown hprocess subscriber hm

section Minimized

open Json

def minimizedLine : Bytes :=
  text ("\x7b\"MinimizedWindowsChanged\":\x7b\"windows\":[\x7b\"id\":10,\"app_id\":\"kitty\"," ++
    "\"title\":null\x7d]\x7d\x7d")

def minimizedJson : Json :=
  .object [("MinimizedWindowsChanged", .object [("windows", .array [.object [("id", .unsigned 10),
    ("app_id", .string "kitty"), ("title", .null)]])])]

def unavailableLine : Bytes :=
  text ("\x7b\"version\":1,\"message\":\x7b\"type\":\"unavailable\",\"revision\":0," ++
    "\"reason\":\"awaiting authoritative niri snapshot\"\x7d\x7d")

def awaitingMessage : ServerMessage :=
  ⟨1, .unavailable 0 "awaiting authoritative niri snapshot"⟩

def minimizedSerde : SerdeValue :=
  .ofLines [(handledLine, handledJson), (minimizedLine, minimizedJson),
    (unavailableLine, awaitingMessage.toJson), (kittyLine, kittySnapshot.toJson)] fun
    | .object [_, ("message", .object (("type", .string "unavailable") :: _))] => unavailableLine
    | _ => kittyLine

def minimizedStream : ByteStream := ⟨minimizedLine ++ [newline], .closed⟩

def loadedKitty : LoadedConfig fun _ => .ok Config.kittyAndCode where
  config := .kittyAndCode
  path := "config.toml"
  source := ""
  parsed := rfl

def minimizedInputs : List SessionInput :=
  [.connect .reliable ⟨.ok (⟨.ok (), .ok ()⟩,
    ⟨handledLine ++ newline :: minimizedStream.bytes, .closed⟩), .ok (), .ok ()⟩,
    .client .reliable 1 .subscribe, .read, .turn .reliable]

lemma minimizedSerde_message {message : ServerMessage} (h : message ∈ [awaitingMessage, kittySnapshot]) :
    Subscription.MessageLine minimizedSerde.toSerdeJson message := by
  rcases List.mem_cons.mp h with rfl | h
  · exact ⟨.ofLines _ (by decide +kernel) (by decide +kernel) rfl (by decide +kernel), trivial⟩
  · obtain rfl := List.mem_singleton.mp h
    exact ⟨.ofLines _ (by decide +kernel) (by decide +kernel) rfl (by decide +kernel), trivial⟩

theorem subscriber_shows_niri_minimized :
    (replica ([awaitingMessage, kittySnapshot].map ServerMessage.message)).ready = true ∧
      ∃ stream seen, seen <+: messages minimizedSerde stream ∧ (lastPublished seen).isSome := by
  refine ⟨rfl, ?_⟩
  have hsent : messagesOn (Session.written minimizedSerde loadedKitty minimizedInputs) 0 =
      [awaitingMessage, kittySnapshot] := by decide +kernel
  obtain ⟨stream, since, service, watcher, -, hseen, -, hshown⟩ := subscriber_shows_niri
    minimizedSerde _ loadedKitty minimizedInputs _ _ rfl
  refine ⟨stream, _, (List.prefix_append _ _).trans hseen, ?_⟩
  have hready :=
    (hshown ⟨1, 0⟩ (by decide +kernel) (hsent ▸ fun _ => minimizedSerde_message) .closed).1
  have hversion : ∀ message ∈ [awaitingMessage, kittySnapshot], message.version = 1 := by decide
  have hgot := Subscription.messages_whole hversion (fun _ => minimizedSerde_message) .closed
  rw [← hready, hsent, hgot]
  rfl

end Minimized

end Melibea
