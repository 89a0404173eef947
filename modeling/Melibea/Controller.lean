import Melibea.Broker
import Melibea.Executor
import Melibea.Niri

/-! The run controller: one niri connection, its pending resizes, and the public service. -/

namespace Melibea

open Library

structure Service where
  broker : Broker
  running : Bool
  deriving DecidableEq

inductive ServiceStopped
  | mk
  deriving DecidableEq

def ServiceStopped.display (_ : ServiceStopped) : String :=
  "Melibea service stopped unexpectedly"

namespace Service

def start : Service where
  broker := .default
  running := true

def sendSynchronized (self : Service) (io : Io) (message : BrokerMessage) :
    (List Write × Except ServiceStopped Unit) × Service :=
  if self.running then
    let (writes, broker) := self.broker.turn (io, message)
    ((writes, .ok ()), { self with broker })
  else (([], .error .mk), self)

def publishSnapshot (self : Service) (io : Io) (windows : List MinimizedWindow) :
    (List Write × Except ServiceStopped Unit) × Service :=
  self.sendSynchronized io (.publish (windows.map Window.ofMinimized))

def setUnavailable (self : Service) (io : Io) (reason : String) :
    (List Write × Except ServiceStopped Unit) × Service :=
  self.sendSynchronized io (.setUnavailable reason)

end Service

abbrev StreamMessage := Except String (Option NiriEvent)

def eventName : NiriEvent → String
  | .windowsChanged _ => "WindowsChanged"
  | .minimizedWindowsChanged _ => "MinimizedWindowsChanged"
  | .windowOpenedOrChanged _ => "WindowOpenedOrChanged"
  | .windowClosed _ => "WindowClosed"
  | .windowFocusChanged _ => "WindowFocusChanged"
  | .ignored _ => "Ignored"

structure Controller where
  adapter : NiriAdapter
  pending : PendingResizes
  minimized : MinimizedRegistry
  service : Service

namespace Controller

def connect (config : Config) (service : Service) : Controller where
  adapter := .new config
  pending := .default
  minimized := .default
  service := service

-- The first half of `ingest_stream_message`.
def ingestMinimized (self : Controller) (io : Io) (event : NiriEvent) :
    (List Write × Except String Unit) × Controller :=
  match event with
  | .minimizedWindowsChanged windows =>
    match self.minimized.apply (.snapshot windows) with
    | (.error error, minimized) =>
      (([], .error s!"cannot apply niri event `{eventName event}`: {error.display}"),
        { self with minimized })
    | (.ok _, minimized) =>
      let ((writes, result), service) := self.service.publishSnapshot io minimized.windows
      ((writes, result.mapError (·.display)), { self with minimized, service })
  | _ => (([], .ok ()), self)

def follow (pending : PendingResizes) (event : NiriEvent) (transition : Option FocusTransition) :
    PendingResizes :=
  let pending :=
    match event with
    | .windowsChanged _ => pending.reset
    | .windowClosed id => pending.forgetWindow id
    | _ => pending
  transition.elim pending pending.ingest

def ingestEvent (self : Controller) (event : NiriEvent) : Except String Unit × Controller :=
  match self.adapter.apply event with
  | (.error error, adapter) =>
    (.error s!"cannot apply niri event `{eventName event}`: {error.display}",
      { self with adapter })
  | (.ok transition, adapter) =>
    (.ok (), { self with adapter, pending := follow self.pending event transition })

def ingestStreamMessage (self : Controller) (io : Io) (message : StreamMessage) :
    (List Write × Except String Unit) × Controller :=
  match message with
  | .error error => (([], .error error), self)
  | .ok none => (([], .error "niri closed the event stream"), self)
  | .ok (some event) =>
    match self.ingestMinimized io event with
    | ((writes, .error error), self) => ((writes, .error error), self)
    | ((writes, .ok ()), self) =>
      let (result, self) := self.ingestEvent event
      ((writes, result), self)

inductive Input
  | message (io : Io) (message : StreamMessage)
  | popNext

def step (self : Controller) : Input → Option ResizeAction × Controller
  | .message io message => (none, (self.ingestStreamMessage io message).2)
  | .popNext =>
    let (action, pending) := self.pending.popNext
    (action, { self with pending })

abbrev after (config : Config) (service : Service) (inputs : List Input) : Controller :=
  Machine.run step (connect config service) inputs

end Controller

end Melibea
