import Melibea.NiriActions
import Melibea.Settling

/-! A connection together with the socket its resizes go out on. -/

namespace Melibea

open Library Machine Lines

structure Acting where
  connection : Connection
  replies : ByteStream
  sent : Bytes

inductive ActingInput
  | read (message : StreamMessage)
  | client (io : Io) (version : UInt32) (request : Request)
  | turn (answers : Answers) (writing : Writing)

namespace Acting

section Step

variable (serde : SerdeValue)

def exchange (self : Acting) : ActingInput → Option (Exchange Unit)
  | .turn _ writing =>
    match self.connection.phase with
    | .sending action => some
        (NiriActionClient.setWindowWidth serde writing self.replies action.windowId action.width)
    | _ => none
  | .read _ | .client .. => none

def input (self : Acting) : ActingInput → ConnectionInput
  | .read message => .read message
  | .client io version request => .client io version request
  | .turn answers writing =>
    .turn ((self.exchange serde (.turn answers writing)).elim answers fun exchange =>
      { answers with applied := exchange.result.mapError NiriActionError.display })

variable (parse : String → Except String Config)

def step (self : Acting) (input : ActingInput) : Effects × Acting :=
  let (effects, connection) := self.connection.step parse (self.input serde input)
  (effects,
    { connection
      replies := (self.exchange serde input).elim self.replies Exchange.rest
      sent := self.sent ++ (self.exchange serde input).elim [] Exchange.sent })

def connect (config : Config) (service : Service) (watcher : ConfigWatcher)
    (replies : ByteStream) : Acting where
  connection := .connect config service watcher
  replies := replies
  sent := []

section Run

variable (config : Config) (service : Service) (watcher : ConfigWatcher) (replies : ByteStream)

abbrev after (inputs : List ActingInput) : Acting :=
  Machine.run (step serde parse) (connect config service watcher replies) inputs

abbrev calls (inputs : List ActingInput) : List ConnectionInput :=
  trace (step serde parse) (fun self input => [self.input serde input])
    (connect config service watcher replies) inputs

end Run

end Step

variable {serde : SerdeValue} {parse : String → Except String Config} {self : Acting}

variable (serde parse) in
lemma simulation : Simulation (step serde parse) (Connection.step parse)
    (fun self input => [self.input serde input]) (fun self connection => self.connection = connection)
    (fun effects => [effects]) (fun effects => [effects]) where
  matched := by
    rintro self _ rfl input
    rfl
  observed := by
    rintro self _ rfl input
    rfl

end Acting

def widthLine (serde : SerdeValue) (action : ResizeAction) : Bytes :=
  actionLine serde (.setWindowWidth (some action.windowId) (.setProportion action.width.percent))

structure Accepting (serde : SerdeValue) (line : Bytes) : Prop where
  oneLine : newline ∉ line.dropLast
  accepted : ∃ reply, validateActionReply serde line = .ok reply

namespace NiriActionClient

variable {serde : SerdeValue} {writing : Writing} {replies : ByteStream}

lemma setWindowWidth_cases (serde : SerdeValue) (writing : Writing) (replies : ByteStream)
    (action : ResizeAction) :
    let exchange := setWindowWidth serde writing replies action.windowId action.width
    (exchange.result = .ok () ∧ exchange.sent = widthLine serde action ∧
      ∃ line, Accepting serde line ∧ replies.bytes = line ++ exchange.rest.bytes) ∨
    ∃ error, exchange.result = .error error ∧ exchange.sent <+: widthLine serde action := by
  cases writing with
  | failed sent error => exact .inr ⟨_, rfl, List.take_prefix _ _⟩
  | done =>
    cases hread : readLine replies with
    | error error =>
      refine .inr ⟨.readReply error, ?_, List.prefix_refl _⟩
      simp only [setWindowWidth, sendAction, Exchange.map, hread]
      rfl
    | ok line =>
      obtain ⟨hbytes, hline⟩ := readLine_split hread
      by_cases hlength : line.length = 0
      · refine .inr ⟨.closedBeforeReply, ?_, List.prefix_refl _⟩
        simp only [setWindowWidth, sendAction, Exchange.map, hread, if_pos hlength]
        rfl
      · have hresult : (setWindowWidth serde .done replies action.windowId action.width).result =
            (validateActionReply serde line).map fun _ => () := by
          simp only [setWindowWidth, sendAction, Exchange.map, hread, if_neg hlength]
        dsimp only
        rw [hresult]
        cases hreply : validateActionReply serde line with
        | error error => exact .inr ⟨error, rfl, List.prefix_refl _⟩
        | ok reply => exact .inl ⟨rfl, rfl, line, ⟨hline, reply, hreply⟩, hbytes⟩

end NiriActionClient

namespace Acting

open Connection

structure Acknowledged (serde : SerdeValue) (replies : ByteStream) (done : List ResizeAction)
    (lines : List Bytes) (part : Bytes) (acting : Acting) : Prop where
  length : lines.length = done.length
  accepting {line : Bytes} : line ∈ lines → Accepting serde line
  sent : acting.sent = done.flatMap (widthLine serde) ++ part
  begun : part = [] ∨ ∃ action, part <+: widthLine serde action
  taken : lines.flatten <+: replies.bytes
  running : acting.connection.Running →
    part = [] ∧ replies.bytes = lines.flatten ++ acting.replies.bytes

variable {serde : SerdeValue} {parse : String → Except String Config} {self : Acting}
  {replies : ByteStream} {done : List ResizeAction} {lines : List Bytes} {part : Bytes}

lemma exchange_eq_some {input : ActingInput} {exchange : Exchange Unit}
    (h : self.exchange serde input = some exchange) : ∃ answers writing action,
      input = .turn answers writing ∧ self.connection.phase = .sending action ∧ exchange =
        NiriActionClient.setWindowWidth serde writing self.replies action.windowId action.width := by
  cases input with
  | turn answers writing =>
    rw [Acting.exchange] at h
    split at h
    · next action hp => exact ⟨answers, writing, action, rfl, hp, (Option.some.inj h).symm⟩
    · cases h
  | _ => cases h

lemma resized_of_quiet {input : ActingInput} (he : self.exchange serde input = none)
    (hs : self.connection.controller.service.running) :
    (self.connection.step parse (self.input serde input)).1.resized = none := by
  cases input with
  | read message => rfl
  | client io version request => rfl
  | turn answers writing =>
    have hp : ∀ action, self.connection.phase ≠ .sending action := by
      rintro action hp
      rw [Acting.exchange, hp] at he
      cases he
    have hm := moved parse hs (self.input serde (.turn answers writing))
    rw [Acting.input, he] at hm ⊢
    generalize self.connection.step parse _ = out at hm
    cases hm with
    | sent hsending => exact absurd hsending (hp _)
    | _ => rfl

variable (parse) in
lemma Acknowledged.next (h : Acknowledged serde replies done lines part self)
    (hs : self.connection.controller.service.running) (input : ActingInput) :
    ∃ lines part, Acknowledged serde replies
      (done ++ (self.step serde parse input).1.resized.toList) lines part
        (self.step serde parse input).2 := by
  have hm := moved parse hs (self.input serde input)
  cases he : self.exchange serde input with
  | none =>
    have hresized : (self.step serde parse input).1.resized = none := resized_of_quiet he hs
    refine ⟨lines, part, ?_⟩
    rw [hresized, Option.toList_none, List.append_nil]
    refine ⟨h.length, h.accepting, ?_, h.begun, h.taken, fun hrun => ?_⟩
    · simp only [Acting.step, he, Option.elim_none, List.append_nil]
      exact h.sent
    · simp only [Acting.step, he, Option.elim_none]
      exact h.running (hm.running hrun)
  | some exchange =>
    obtain ⟨answers, writing, action, rfl, hp, rfl⟩ := exchange_eq_some he
    have hrun : self.connection.Running := fun result hr => by
      rw [hp] at hr
      cases hr
    obtain ⟨rfl, hbytes⟩ := h.running hrun
    have hsent := h.sent
    rw [List.append_nil] at hsent
    rcases NiriActionClient.setWindowWidth_cases serde writing self.replies action with
      ⟨hok, hline, line, haccepting, hrest⟩ | ⟨error, herror, hline⟩
    · have hstep : self.connection.step parse (self.input serde (.turn answers writing)) =
          (⟨[], some action⟩, { self.connection with phase := .checking }) := by
        simp [Acting.input, he, Connection.step, Connection.turn, hp, hok, Except.mapError]
      refine ⟨lines ++ [line], [], ?_⟩
      simp only [Acting.step, hstep, he, Option.elim_some, Option.toList_some]
      refine ⟨by simp [h.length], ?_, ?_, .inl rfl, ?_, fun _ => ⟨rfl, ?_⟩⟩
      · intro other ho
        rcases List.mem_append.mp ho with ho | ho
        · exact h.accepting ho
        · exact List.mem_singleton.mp ho ▸ haccepting
      · rw [hsent, hline, List.append_nil, List.flatMap_append, List.flatMap_singleton]
      · rw [hbytes, hrest, List.flatten_append, List.flatten_singleton, ← List.append_assoc]
        exact List.prefix_append _ _
      · rw [hbytes, hrest, List.flatten_append, List.flatten_singleton, List.append_assoc]
    · let failure :=
        s!"generation {action.generation} failed for window {action.windowId}: {error.display}"
      have hstep : self.connection.step parse (self.input serde (.turn answers writing)) =
          (.quiet, { self.connection with phase := .returned (.error failure) }) := by
        simp only [Acting.input, he, Option.elim_some, Connection.step, Connection.turn, hp, herror,
          Except.mapError]
        rfl
      refine ⟨lines, (NiriActionClient.setWindowWidth serde writing self.replies action.windowId
        action.width).sent, ?_⟩
      simp only [Acting.step, hstep, he, Option.elim_some, Effects.quiet, Option.toList_none,
        List.append_nil]
      refine ⟨h.length, h.accepting, by rw [hsent], .inr ⟨action, hline⟩, h.taken, fun hrun => ?_⟩
      exact absurd rfl (hrun _)

section Run

variable (serde parse) (config : Config) (service : Service) (watcher : ConfigWatcher)
  (replies : ByteStream)

lemma connection_after (inputs : List ActingInput) :
    (after serde parse config service watcher replies inputs).connection =
      .after parse config service watcher (calls serde parse config service watcher replies inputs) :=
  (simulation serde parse).run rfl inputs

end Run

end Acting

open Acting Connection

/-- A resize is done only on niri's word: for each, in order, one command has been written on the
socket and one accepting line read from it, and nothing else has, unless an exchange failed and
with it the connection. -/
theorem resizes_acknowledged (serde : SerdeValue) (parse : String → Except String Config)
    (config : Config) (service : Service) (hs : service.running) (watcher : ConfigWatcher)
    (replies : ByteStream) (inputs : List ActingInput) :
    ∃ lines part, Acknowledged serde replies
      (resizes parse config service watcher
        (calls serde parse config service watcher replies inputs)) lines part
      (Acting.after serde parse config service watcher replies inputs) := by
  induction inputs using List.reverseRecOn with
  | nil =>
    exact ⟨[], [], rfl, fun h => (nomatch h), rfl, .inl rfl, List.nil_prefix, fun _ => ⟨rfl, rfl⟩⟩
  | append_singleton inputs input ih =>
    obtain ⟨lines, part, h⟩ := ih
    have hconnection := connection_after serde parse config service watcher replies inputs
    have hrunning : (Acting.after serde parse config service watcher replies
        inputs).connection.controller.service.running := by
      rw [hconnection]
      exact (sound parse config hs watcher _).running
    have hnext := h.next parse hrunning input
    rw [Acting.after, run_append, run_cons, run_nil]
    rw [calls, trace_append, trace_cons, trace_nil, List.append_nil, resizes, trace_append,
      trace_cons, trace_nil, List.append_nil]
    have hresized : ((Acting.after serde parse config service watcher replies inputs).step serde parse
        input).1 = ((Connection.after parse config service watcher
          (calls serde parse config service watcher replies inputs)).step parse
            ((Acting.after serde parse config service watcher replies inputs).input serde input)).1 := by
      rw [← hconnection]
      rfl
    rw [hresized] at hnext
    exact hnext

section Handled

def handledSerde : SerdeValue := .ofLines [(handledLine, handledJson)] fun _ =>
  text ("\x7b\"Action\":\x7b\"SetWindowWidth\":\x7b\"id\":10," ++
    "\"change\":\x7b\"SetProportion\":50.0\x7d\x7d\x7d\x7d")

theorem resizes_acknowledged_handled :
    let parse := fun _ => Except.ok Config.kittyAndCode
    let watcher : ConfigWatcher := .new "config.toml" ""
    let kitty : NiriWindow := ⟨10, some "window", some "kitty", true, false⟩
    let inputs : List ActingInput := .read (.ok (some (.windowsChanged [kitty]))) ::
      List.replicate 8 (.turn .reliable .done)
    let replies : ByteStream := ⟨handledLine ++ [newline], .closed⟩
    let done := resizes parse .kittyAndCode .start watcher
      (calls handledSerde parse .kittyAndCode .start watcher replies inputs)
    done = [⟨1, 10, .focused, .half⟩] ∧ ∃ lines part, Acknowledged handledSerde replies done lines
      part (Acting.after handledSerde parse .kittyAndCode .start watcher replies inputs) := by
  intro parse watcher kitty inputs replies done
  exact ⟨by decide +kernel, resizes_acknowledged handledSerde parse .kittyAndCode .start rfl watcher
    replies inputs⟩

end Handled

end Melibea
