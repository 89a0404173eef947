import Melibea.Isolation
import Mathlib.Logic.Function.Basic

/-! The peers of the broker's connections, either of whose halves may be shut down. -/

namespace Melibea

open Library BrokerState

structure Peer where
  pending : ℕ
  writing : Bool
  reading : Bool
  deriving DecidableEq

inductive PeerEvent
  | send (bytes : ℕ)
  | shutdownWrite
  | shutdownRead
  | close
  deriving DecidableEq

def probeLength : ℕ := 64

namespace Peer

def connected : Peer where
  pending := 0
  writing := true
  reading := true

def react (self : Peer) : PeerEvent → Peer
  | .send bytes => if self.writing then { self with pending := self.pending + bytes } else self
  | .shutdownWrite => { self with writing := false }
  | .shutdownRead => { self with reading := false }
  | .close => { self with writing := false, reading := false }

-- A nonblocking read of the peer's stream; only a closed peer can reset the connection.
def read (self : Peer) (interrupted reset : Bool) : ReadOutcome :=
  if interrupted then .interrupted
  else if reset && !self.writing && !self.reading then .failed
  else if 0 < self.pending then .ok (min probeLength self.pending)
  else if self.writing then .wouldBlock
  else .ok 0

def consume (self : Peer) : ReadOutcome → Peer
  | .ok bytes => { self with pending := self.pending - bytes }
  | .wouldBlock | .interrupted | .failed => self

lemma read_eq_failed {self : Peer} {interrupted reset : Bool}
    (h : self.read interrupted reset = .failed) : self.reading = false := by
  rw [read] at h
  split_ifs at h with _ hr
  simp only [Bool.and_eq_true, Bool.not_eq_true'] at hr
  exact hr.2

lemma read_eq_end {self : Peer} {interrupted reset : Bool} :
    self.read interrupted reset = .ok 0 ↔
      interrupted = false ∧ ¬ (reset && !self.writing && !self.reading) ∧ self.pending = 0 ∧
        self.writing = false := by
  rw [read]
  split_ifs with hi hr hp hw <;> simp_all [probeLength]
  omega

lemma read_closed {self : Peer} (h : self.writing = false) (reset : Bool) :
    self.read false reset = .ok 0 ∨ self.read false reset = .failed ∨
      0 < self.pending ∧ self.read false reset = .ok (min probeLength self.pending) := by
  by_cases hr : reset && !self.writing && !self.reading
  · exact .inr (.inl (by simp only [read, Bool.false_eq_true, if_false, if_pos hr]))
  by_cases hp : 0 < self.pending
  · exact .inr (.inr ⟨hp, by simp only [read, Bool.false_eq_true, if_false, if_neg hr, if_pos hp]⟩)
  · have hw : ¬ self.writing = true := by simp [h]
    exact .inl (by simp only [read, Bool.false_eq_true, if_false, if_neg hr, if_neg hp, if_neg hw])

end Peer

structure Kernel where
  writeMessage : StreamId → Bool
  tryClone : StreamId → Bool
  interrupted : StreamId → Bool
  reset : StreamId → Bool
  execute : Request → Except String ActionResult

def Kernel.quiet : Kernel where
  writeMessage _ := true
  tryClone _ := true
  interrupted _ := false
  reset _ := false
  execute := Io.reliable.execute

def Kernel.io (self : Kernel) (peers : StreamId → Peer) : Io where
  writeMessage := self.writeMessage
  tryClone := self.tryClone
  setNonblocking _ _ := true
  read stream := (peers stream).read (self.interrupted stream) (self.reset stream)
  execute := self.execute

inductive NetworkInput
  | message (kernel : Kernel) (message : BrokerMessage)
  | peer (stream : StreamId) (event : PeerEvent)

structure Network where
  broker : Broker
  peers : StreamId → Peer

namespace Network

def start : Network where
  broker := .default
  peers _ := .connected

def Sweeps (self : Network) (kernel : Kernel) : BrokerMessage → Prop
  | .client _ request =>
    request = .subscribe ∧ kernel.writeMessage self.broker.accepted ∧
      kernel.tryClone self.broker.accepted
  | _ => False

instance decidableSweeps (self : Network) (kernel : Kernel) :
    (message : BrokerMessage) → Decidable (self.Sweeps kernel message)
  | .client _ request => inferInstanceAs (Decidable (request = .subscribe ∧ _ ∧ _))
  | .publish _ | .setUnavailable _ => inferInstanceAs (Decidable False)

def Registered (self : Network) (stream : StreamId) : Prop :=
  stream ∈ self.broker.state.subscribers.map (·.stream)

instance decidableRegistered (self : Network) (stream : StreamId) :
    Decidable (self.Registered stream) :=
  inferInstanceAs (Decidable (stream ∈ _))

-- A sweep probes every subscriber, and the probe takes what it reads out of the stream.
def probed (self : Network) (kernel : Kernel) (message : BrokerMessage) (stream : StreamId) :
    Peer :=
  if self.Sweeps kernel message ∧ self.Registered stream then
    (self.peers stream).consume ((kernel.io self.peers).read stream)
  else self.peers stream

def step (self : Network) : NetworkInput → List Write × Network
  | .message kernel message =>
    let (writes, broker) := self.broker.turn (kernel.io self.peers, message)
    (writes, { broker, peers := self.probed kernel message })
  | .peer stream event =>
    ([], { self with
      peers := Function.update self.peers stream ((self.peers stream).react event) })

abbrev after (inputs : List NetworkInput) : Network := Machine.run step start inputs

def written (inputs : List NetworkInput) : List Write :=
  (Machine.outputs step start inputs).flatten

def Lost (self : Network) (input : NetworkInput) (stream : StreamId) : Prop :=
  (self.peers stream).reading = false ∨
    ∃ kernel message, input = .message kernel message ∧ kernel.writeMessage stream = false ∧
      stream ∈ (self.step input).1.map (·.stream)

def Justified (self : Network) (input : NetworkInput) : Prop :=
  ∀ stream, self.Registered stream → ¬ (self.step input).2.Registered stream →
    self.Lost input stream

def Careful (self : Network) : NetworkInput → Prop
  | .message kernel message => self.Sweeps kernel message → ∀ stream, self.Registered stream →
    (self.peers stream).reading → (self.peers stream).writing ∨ 0 < (self.peers stream).pending ∨
      kernel.interrupted stream
  | .peer _ _ => True

instance decidableCareful (self : Network) :
    (input : NetworkInput) → Decidable (self.Careful input)
  | .message kernel message =>
    inferInstanceAs (Decidable (self.Sweeps kernel message →
      ∀ stream ∈ self.broker.state.subscribers.map (·.stream), (self.peers stream).reading = true →
        (self.peers stream).writing = true ∨ 0 < (self.peers stream).pending ∨
          kernel.interrupted stream = true))
  | .peer _ _ => isTrue trivial

variable {self : Network} {kernel : Kernel} {message : BrokerMessage} {stream : StreamId}

lemma departed_iff (peers : StreamId → Peer) :
    subscriberDeparted (kernel.io peers) stream ↔
      (kernel.io peers).read stream = .ok 0 ∨ (kernel.io peers).read stream = .failed := by
  rw [subscriberDeparted]
  cases (kernel.io peers).read stream <;> simp [Kernel.io]

lemma Careful.not_departed (h : self.Careful (.message kernel message))
    (hs : self.Sweeps kernel message) (hr : self.Registered stream)
    (hl : (self.peers stream).reading) : ¬ subscriberDeparted (kernel.io self.peers) stream := by
  rw [departed_iff]
  rintro (hread | hread)
  · obtain ⟨hi, -, hp, hw⟩ := Peer.read_eq_end.mp hread
    rcases h hs stream hr hl with hw' | hp' | hi'
    · simp [hw] at hw'
    · exact hp'.ne' hp
    · simp [hi] at hi'
  · simp [Peer.read_eq_failed hread] at hl

lemma subscribers_of_not_sweeps (hc : message.command = none)
    (hs : ¬ self.Sweeps kernel message) :
    (self.step (.message kernel message)).2.broker.state.subscribers =
      self.broker.state.subscribers := by
  obtain ⟨version, request, rfl⟩ := message.client_of_command hc
  simp only [step, Broker.turn_client, handleClient_eq]
  exact congrArg subscribers (if_neg hs)

lemma subscribers_of_sweeps (hs : self.Sweeps kernel message) : ∃ version,
    message = .client version .subscribe ∧
    (self.step (.message kernel message)).2.broker.state.subscribers =
      (self.broker.state.sweepDeparted (kernel.io self.peers)).subscribers ++
        [⟨version, self.broker.accepted⟩] := by
  cases message with
  | client version request =>
    refine ⟨version, by rw [hs.1], ?_⟩
    simp only [step, Broker.turn_client, handleClient_eq]
    exact congrArg subscribers (if_pos hs)
  | _ => exact hs.elim

lemma registered_of_sweeps (ha : self.broker.Apart) (hs : self.Sweeps kernel message)
    (hr : self.Registered stream) :
    (self.step (.message kernel message)).2.Registered stream ↔
      ¬ subscriberDeparted (kernel.io self.peers) stream := by
  obtain ⟨version, -, hsub⟩ := subscribers_of_sweeps hs
  obtain ⟨subscriber, hm, rfl⟩ := List.mem_map.mp hr
  rw [Registered, hsub, List.map_append, List.mem_append, List.map_singleton, List.mem_singleton]
  constructor
  · rintro (ho | hn)
    · obtain ⟨other, hother, he⟩ := List.mem_map.mp ho
      rw [← he]
      simpa using (List.mem_filter.mp hother).2
    · exact absurd hn (ha.accepted subscriber hm).ne
  · intro hd
    exact .inl (List.mem_map_of_mem (List.mem_filter.mpr ⟨hm, by simpa using hd⟩))

lemma writes_of_sweeps (hs : self.Sweeps kernel message) :
    (self.step (.message kernel message)).1.map (·.stream) = [self.broker.accepted] := by
  cases message with
  | client version request =>
    simp only [step, Broker.turn_client, handleClient_eq]
    rfl
  | _ => exact hs.elim

lemma lost_of_command {command : Command (List Window) String}
    (hc : message.command = some command) (hr : self.Registered stream)
    (hn : ¬ (self.step (.message kernel message)).2.Registered stream) :
    self.Lost (.message kernel message) stream := by
  obtain ⟨subscriber, hm, rfl⟩ := List.mem_map.mp hr
  have hturn := self.broker.turn_command (kernel.io self.peers) hc
  refine .inr ⟨kernel, message, rfl, ?_, ?_⟩
  · by_contra hw
    have hwrite : kernel.writeMessage subscriber.stream := by simpa using hw
    refine hn (List.mem_map_of_mem ?_)
    simp only [step, hturn]
    exact mem_subscribers_obey hm hwrite
  · simp only [step, hturn, obey, Registered] at hn ⊢
    cases hp : self.broker.state.primary.step diffWindows "" command with
    | mk update primary =>
      simp only [hp] at hn ⊢
      cases update with
      | none => exact absurd hr hn
      | some update => simpa [broadcast, withPrimary, Registered] using hr

lemma justified_iff_careful (ha : self.broker.Apart) (input : NetworkInput) :
    self.Justified input ↔ self.Careful input := by
  cases input with
  | peer stream event => exact ⟨fun _ => trivial, fun _ _ hr hn => absurd hr hn⟩
  | message kernel message =>
    constructor
    · intro hj hs stream hr hl
      by_contra hquiet
      simp only [not_or, Bool.not_eq_true, Nat.not_lt, Nat.le_zero] at hquiet
      obtain ⟨hw, hp, hi⟩ := hquiet
      have hread : (kernel.io self.peers).read stream = .ok 0 :=
        Peer.read_eq_end.mpr ⟨hi, by simp [hl], hp, hw⟩
      have hn : ¬ (self.step (.message kernel message)).2.Registered stream := by
        rw [registered_of_sweeps ha hs hr, not_not]
        exact (departed_iff self.peers).mpr (.inl hread)
      rcases hj stream hr hn with hd | ⟨_, _, _, _, hm⟩
      · simp [hl] at hd
      · rw [writes_of_sweeps hs, List.mem_singleton] at hm
        obtain ⟨subscriber, hsub, rfl⟩ := List.mem_map.mp hr
        exact (ha.accepted subscriber hsub).ne hm
    · intro hc stream hr hn
      cases hcommand : message.command with
      | some command => exact lost_of_command hcommand hr hn
      | none =>
        by_cases hs : self.Sweeps kernel message
        · rw [registered_of_sweeps ha hs hr, not_not] at hn
          by_contra hl
          exact hc.not_departed hs hr (by simpa [Lost] using (not_or.mp hl).1) hn
        · rw [Registered, subscribers_of_not_sweeps hcommand hs] at hn
          exact absurd hr hn

def Listens (stream : StreamId) (self : Network) (input : NetworkInput) : Prop :=
  (self.peers stream).reading ∧
    ∀ kernel message, input = .message kernel message → kernel.writeMessage stream

lemma kept {subscriber : Subscriber} (hm : subscriber ∈ self.broker.state.subscribers)
    {input : NetworkInput} (hl : self.Listens subscriber.stream input) (hc : self.Careful input) :
    subscriber ∈ (self.step input).2.broker.state.subscribers := by
  cases input with
  | peer stream event => exact hm
  | message kernel message =>
    cases hcommand : message.command with
    | some command =>
      have hturn := self.broker.turn_command (kernel.io self.peers) hcommand
      simp only [step, hturn]
      exact mem_subscribers_obey hm (hl.2 kernel message rfl)
    | none =>
      by_cases hs : self.Sweeps kernel message
      · obtain ⟨version, -, hsub⟩ := subscribers_of_sweeps hs
        rw [hsub]
        refine List.mem_append_left _ (List.mem_filter.mpr ⟨hm, ?_⟩)
        simpa using hc.not_departed hs (List.mem_map_of_mem hm) hl.1
      · rwa [subscribers_of_not_sweeps hcommand hs]

def trace (self : Network) : List NetworkInput → List (Io × BrokerMessage)
  | [] => []
  | .message kernel message :: inputs =>
    (kernel.io self.peers, message) :: (self.step (.message kernel message)).2.trace inputs
  | .peer stream event :: inputs => (self.step (.peer stream event)).2.trace inputs

lemma run_trace (self : Network) (inputs : List NetworkInput) :
    (Machine.run step self inputs).broker =
        Machine.run Broker.turn self.broker (self.trace inputs) ∧
      (Machine.outputs step self inputs).flatten =
        (Machine.outputs Broker.turn self.broker (self.trace inputs)).flatten := by
  induction inputs generalizing self with
  | nil => exact ⟨rfl, rfl⟩
  | cons input inputs ih =>
    obtain ⟨hrun, hout⟩ := ih (self.step input).2
    rw [Machine.run_cons, Machine.outputs_cons, List.flatten_cons, hrun, hout]
    cases input with
    | message kernel message => exact ⟨rfl, rfl⟩
    | peer stream event => exact ⟨rfl, rfl⟩

lemma trace_append (self : Network) (inputs more : List NetworkInput) :
    self.trace (inputs ++ more) =
      self.trace inputs ++ (Machine.run step self inputs).trace more := by
  induction inputs generalizing self with
  | nil => rfl
  | cons input inputs ih =>
    cases input with
    | message kernel message =>
      simp only [List.cons_append, trace, ih, Machine.run_cons]
    | peer stream event => simp only [List.cons_append, trace, ih, Machine.run_cons]

def commands (inputs : List NetworkInput) : List (Command (List Window) String) :=
  inputs.filterMap fun
    | .message _ message => message.command
    | .peer _ _ => none

lemma commands_trace (self : Network) (inputs : List NetworkInput) :
    Melibea.commands (self.trace inputs) = commands inputs := by
  induction inputs generalizing self with
  | nil => rfl
  | cons input inputs ih =>
    cases input with
    | message kernel message =>
      have h := ih (self.step (.message kernel message)).2
      simp only [Melibea.commands, commands] at h
      simp only [trace, Melibea.commands, commands, List.filterMap_cons, h]
    | peer stream event => exact ih _

lemma apart (inputs : List NetworkInput) : (after inputs).broker.Apart := by
  rw [(run_trace start inputs).1]
  exact Broker.apart _

lemma stays {subscriber : Subscriber} (hm : subscriber ∈ self.broker.state.subscribers)
    {inputs : List NetworkInput} (hl : Machine.Meets step (Listens subscriber.stream) self inputs)
    (hc : Machine.Meets step Careful self inputs) :
    self.broker.Stays subscriber (self.trace inputs) := by
  induction inputs generalizing self with
  | nil => trivial
  | cons input inputs ih =>
    have hrest := ih (kept hm hl.1 hc.1) hl.2 hc.2
    cases input with
    | message kernel message => exact ⟨hm, hrest⟩
    | peer stream event => exact hrest

end Network

open Network

/-- A run retires only lost subscribers exactly if no sweep meets a listening peer that has shut
its write half and has nothing left to read; a peer that then keeps listening hears every
broadcast since its subscription. -/
theorem listeners_kept_iff (inputs : List NetworkInput) :
    ((∀ before input rest, inputs = before ++ input :: rest →
        (Network.after before).Justified input) ↔
      Machine.Meets Network.step Careful .start inputs) ∧
    ∀ (before rest : List NetworkInput) (kernel : Kernel) (version : UInt32),
      let stream := (Network.after before).broker.accepted
      let subscribe : NetworkInput := .message kernel (.client version .subscribe)
      let primary := (Network.after before).broker.state.primary
      inputs = before ++ subscribe :: rest →
      kernel.writeMessage stream ∧ kernel.tryClone stream →
      Machine.Meets Network.step Careful .start inputs →
      Machine.Meets Network.step (Listens stream)
        ((Network.after before).step subscribe).2 rest →
      messagesOn (Network.written inputs) stream =
        feed version
          (primary.greeting :: primary.updates diffWindows "" (Network.commands rest)) := by
  constructor
  · rw [Machine.meets_iff]
    constructor
    · intro h before input rest he
      exact (justified_iff_careful (apart before) input).mp (h before input rest he)
    · intro h before input rest he
      exact (justified_iff_careful (apart before) input).mpr (h before input rest he)
  · rintro before rest kernel version stream subscribe primary rfl hs hc hl
    set network := Network.after before
    have hm : ⟨version, stream⟩ ∈ (network.step subscribe).2.broker.state.subscribers :=
      Broker.mem_subscribed network.broker version hs
    have hstays := stays hm hl ((Machine.meets_append _).mp hc).2.2
    have hbroker : Broker.after (start.trace before) = network.broker :=
      (run_trace .start before).1.symm
    have hreceived := Broker.messagesOn_subscribed (start.trace before)
      ((network.step subscribe).2.trace rest) (kernel.io network.peers) version
    rw [hbroker, ← Broker.primary_after, hbroker, commands_trace] at hreceived
    rw [← hreceived hstays, Network.written, (run_trace .start _).2, trace_append]
    rfl

theorem half_closed_listener_retired :
    let window : Window := ⟨10, some "kitty", none, none⟩
    let subscribe : NetworkInput := .message .quiet (.client 2 .subscribe)
    let before := [subscribe, .peer 0 .shutdownWrite]
    ¬ (Network.after before).Justified subscribe ∧
      ((Network.after (before ++ [subscribe])).peers 0).reading ∧
      messagesOn (Network.written
        (before ++ [subscribe, .message .quiet (.publish [window])])) 0 =
        [⟨2, .unavailable 0 "awaiting authoritative niri snapshot"⟩] := by
  intro window subscribe before
  refine ⟨fun hj => ?_, rfl, by decide +kernel⟩
  rcases hj 0 (by decide +kernel) (by decide +kernel) with h | ⟨kernel, message, he, h, -⟩
  · exact absurd h (by decide +kernel)
  · obtain ⟨rfl, -⟩ := NetworkInput.message.inj he
    cases h

theorem listeners_kept_stray_bytes :
    let subscribe : NetworkInput := .message .quiet (.client 2 .subscribe)
    let rest := [.peer 0 (.send 100), .peer 0 .shutdownWrite, subscribe, subscribe,
      .message .quiet (.setUnavailable "lost")]
    messagesOn (Network.written (subscribe :: rest)) 0 =
      [⟨2, .unavailable 0 "awaiting authoritative niri snapshot"⟩,
        ⟨2, .unavailable 0 "lost"⟩] := by
  intro subscribe rest
  have hl : Machine.Meets Network.step (Listens 0) (Network.start.step subscribe).2 rest := by
    refine ⟨⟨rfl, by simp⟩, ⟨rfl, by simp⟩, ⟨rfl, ?_⟩, ⟨rfl, ?_⟩, ⟨rfl, ?_⟩, trivial⟩ <;>
    · intro kernel message he
      obtain ⟨rfl, -⟩ := NetworkInput.message.inj he
      rfl
  have hkept := (listeners_kept_iff (subscribe :: rest)).2 [] rest .quiet 2 rfl
  exact (hkept ⟨rfl, rfl⟩ (by decide +kernel) hl).trans (by decide +kernel)

end Melibea
