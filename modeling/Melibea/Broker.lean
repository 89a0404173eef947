import Melibea.Patch
import Melibea.Library.Machine
import Melibea.Library.Replication

/-! The broker: the ordered public state and its subscribers. -/

namespace Melibea

open Library

-- Connections are numbered in the order in which the broker hears from them.
abbrev StreamId := ℕ

inductive ReadOutcome
  | ok (bytes : ℕ)
  | wouldBlock
  | interrupted
  | failed
  deriving DecidableEq

/-- How the kernel and the action executor answer while one message is handled. -/
structure Io where
  writeMessage : StreamId → Bool
  tryClone : StreamId → Bool
  setNonblocking : StreamId → Bool → Bool
  read : StreamId → ReadOutcome
  execute : Request → Except String ActionResult

def Io.reliable : Io where
  writeMessage _ := true
  tryClone _ := true
  setNonblocking _ _ := true
  read _ := .wouldBlock
  execute _ := .error "request is not a compositor action"

structure Write where
  stream : StreamId
  message : ServerMessage
  deriving DecidableEq

structure Subscriber where
  version : UInt32
  stream : StreamId
  deriving DecidableEq

structure BrokerState where
  revision : UInt64
  ready : Bool
  unavailableReason : String
  windows : List Window
  subscribers : List Subscriber
  deriving DecidableEq

def subscriberDeparted (io : Io) (stream : StreamId) : Bool :=
  if !io.setNonblocking stream true then true
  else
    let departed :=
      match io.read stream with
      | .ok bytes => bytes == 0
      | .wouldBlock | .interrupted => false
      | .failed => true
    if !io.setNonblocking stream false then true else departed

namespace BrokerState

def default : BrokerState where
  revision := 0
  ready := false
  unavailableReason := "awaiting authoritative niri snapshot"
  windows := []
  subscribers := []

def snapshotMessage (self : BrokerState) : Message := .snapshot self.revision self.windows

def broadcast (self : BrokerState) (io : Io) (message : Message) : List Write × BrokerState :=
  (self.subscribers.map fun subscriber =>
      ⟨subscriber.stream, .forVersion subscriber.version message⟩,
    { self with
      subscribers := self.subscribers.filter fun subscriber => io.writeMessage subscriber.stream })

def publish (self : BrokerState) (io : Io) (windows : List Window) : List Write × BrokerState :=
  if self.ready ∧ self.windows = windows then ([], self)
  else
    let changes := if self.ready then some (diffWindows self.windows windows) else none
    let self : BrokerState :=
      { self with
        revision := Word64.saturatingAdd self.revision 1
        ready := true
        unavailableReason := ""
        windows }
    let message : Message :=
      match changes with
      | some changes => .changes self.revision changes
      | none => self.snapshotMessage
    self.broadcast io message

def setUnavailable (self : BrokerState) (io : Io) (reason : String) : List Write × BrokerState :=
  if !self.ready ∧ self.unavailableReason = reason then ([], self)
  else
    let self : BrokerState := { self with ready := false, unavailableReason := reason }
    self.broadcast io (.unavailable self.revision reason)

def sweepDeparted (self : BrokerState) (io : Io) : BrokerState :=
  { self with
    subscribers :=
      self.subscribers.filter fun subscriber => !subscriberDeparted io subscriber.stream }

def handleClient (self : BrokerState) (io : Io) (version : UInt32) (request : Request)
    (stream : StreamId) : List Write × BrokerState :=
  match request with
  | .list =>
    let message : Message :=
      if self.ready then self.snapshotMessage
      else .error (.unavailable self.unavailableReason)
    ([⟨stream, .forVersion version message⟩], self)
  | .subscribe =>
    let message : Message :=
      if self.ready then self.snapshotMessage
      else .unavailable self.revision self.unavailableReason
    let state :=
      if io.writeMessage stream && io.tryClone stream then
        let swept := self.sweepDeparted io
        { swept with subscribers := swept.subscribers ++ [⟨version, stream⟩] }
      else self
    ([⟨stream, .forVersion version message⟩], state)
  | action@(.minimize ..) | action@(.restore ..) | action@(.close _) =>
    let message : Message :=
      match io.execute action with
      | .ok result => .actionResult result
      | .error error => .error (.actionFailed error)
    ([⟨stream, .forVersion version message⟩], self)

end BrokerState

inductive BrokerMessage
  | publish (windows : List Window)
  | setUnavailable (reason : String)
  | client (version : UInt32) (request : Request)
  deriving DecidableEq

structure Broker where
  state : BrokerState
  accepted : StreamId
  deriving DecidableEq

namespace Broker

def default : Broker where
  state := .default
  accepted := 0

def turn (self : Broker) (input : Io × BrokerMessage) : List Write × Broker :=
  let (io, message) := input
  match message with
  | .publish windows =>
    let (writes, state) := self.state.publish io windows
    (writes, { self with state })
  | .setUnavailable reason =>
    let (writes, state) := self.state.setUnavailable io reason
    (writes, { self with state })
  | .client version request =>
    let (writes, state) := self.state.handleClient io version request self.accepted
    (writes, { state, accepted := self.accepted + 1 })

abbrev after (inputs : List (Io × BrokerMessage)) : Broker := Machine.run turn default inputs

def written (inputs : List (Io × BrokerMessage)) : List Write :=
  (Machine.outputs turn default inputs).flatten

end Broker

def messagesOn (writes : List Write) (stream : StreamId) : List ServerMessage :=
  (writes.filter (·.stream = stream)).map (·.message)

lemma messagesOn_append (writes more : List Write) (stream : StreamId) :
    messagesOn (writes ++ more) stream = messagesOn writes stream ++ messagesOn more stream := by
  simp [messagesOn]

lemma messagesOn_eq_nil {writes : List Write} {stream : StreamId}
    (h : ∀ write ∈ writes, write.stream ≠ stream) : messagesOn writes stream = [] := by
  rw [messagesOn, List.map_eq_nil_iff, List.filter_eq_nil_iff]
  exact fun write hw => by simpa using h write hw

lemma messagesOn_self (stream : StreamId) (message : ServerMessage) :
    messagesOn [⟨stream, message⟩] stream = [message] := by
  simp [messagesOn]

def sent (writes : List Write) (stream : StreamId) : List Message :=
  (writes.filter (·.stream = stream)).map (·.message.message)

end Melibea
