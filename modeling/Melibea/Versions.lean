import Melibea.Framing
import Melibea.Subscription

/-! Which protocol version the daemon speaks on a connection. -/

namespace Melibea

open Library BrokerState

inductive ServiceInput
  | publish (windows : List Window)
  | setUnavailable (reason : String)
  | connection (stream : ByteStream)
  deriving DecidableEq

def Admission.version : Admission → UInt32
  | .reply message => message.version
  | .forward version _ => version

namespace Broker

def serve (serde : SerdeJson) (self : Broker) (input : Io × ServiceInput) : List Write × Broker :=
  match input with
  | (io, .publish windows) => self.turn (io, .publish windows)
  | (io, .setUnavailable reason) => self.turn (io, .setUnavailable reason)
  | (io, .connection stream) =>
    match readClientRequest serde stream with
    | .reply message => ([⟨self.accepted, message⟩], { self with accepted := self.accepted + 1 })
    | .forward version request => self.turn (io, .client version request)

variable {serde : SerdeJson} {self : Broker} {input : Io × ServiceInput}

inductive Served (serde : SerdeJson) (self : Broker) (io : Io) :
    ServiceInput → List Write × Broker → Prop
  | command {input : ServiceInput} (hc : ∀ stream, input ≠ .connection stream)
      (command : Command (List Window) String) :
      Served serde self io input
        ((self.state.obey io command).1, { self with state := (self.state.obey io command).2 })
  | answered {stream : ByteStream} {message : ServerMessage}
      (hr : readClientRequest serde stream = .reply message) :
      Served serde self io (.connection stream)
        ([⟨self.accepted, message⟩], { self with accepted := self.accepted + 1 })
  | forwarded {stream : ByteStream} {version : UInt32} {request : Request}
      (hr : readClientRequest serde stream = .forward version request) :
      Served serde self io (.connection stream)
        ((self.state.handleClient io version request self.accepted).1,
          { state := (self.state.handleClient io version request self.accepted).2
            accepted := self.accepted + 1 })

lemma served_serve (serde : SerdeJson) (self : Broker) (input : Io × ServiceInput) :
    Served serde self input.1 input.2 (self.serve serde input) := by
  obtain ⟨io, input⟩ := input
  cases input with
  | publish windows =>
    rw [serve, turn_command self io rfl]
    exact .command (by simp) _
  | setUnavailable reason =>
    rw [serve, turn_command self io rfl]
    exact .command (by simp) _
  | connection stream =>
    cases hr : readClientRequest serde stream with
    | reply message => simpa only [serve, hr] using Served.answered hr
    | forward version request => simpa only [serve, hr, turn_client] using Served.forwarded hr

lemma mem_serve {write : Write} (h : write ∈ (self.serve serde input).1) :
    (∃ subscriber ∈ self.state.subscribers,
      write.stream = subscriber.stream ∧ write.message.version = subscriber.version) ∨
    ∃ stream, input.2 = .connection stream ∧ write.stream = self.accepted ∧
      write.message.version = (readClientRequest serde stream).version := by
  have hserved := served_serve serde self input
  obtain ⟨io, input⟩ := input
  generalize self.serve serde (io, input) = result at hserved h
  cases hserved with
  | command _ command =>
    obtain ⟨subscriber, hm, message, rfl⟩ := mem_obey h
    exact .inl ⟨subscriber, hm, rfl, rfl⟩
  | @answered stream message hr =>
    obtain rfl := List.mem_singleton.mp h
    exact .inr ⟨stream, rfl, rfl, by rw [hr]; rfl⟩
  | @forwarded stream version request hr =>
    rw [handleClient_eq] at h
    obtain rfl := List.mem_singleton.mp h
    exact .inr ⟨stream, rfl, rfl, by rw [hr]; rfl⟩

lemma mem_subscribers_of_serve {subscriber : Subscriber}
    (h : subscriber ∈ (self.serve serde input).2.state.subscribers) :
    subscriber ∈ self.state.subscribers ∨
    ∃ stream, input.2 = .connection stream ∧
      subscriber = ⟨(readClientRequest serde stream).version, self.accepted⟩ := by
  have hserved := served_serve serde self input
  obtain ⟨io, input⟩ := input
  generalize self.serve serde (io, input) = result at hserved h
  cases hserved with
  | command _ command => exact .inl ((subscribers_obey self.state io command).subset h)
  | answered hr => exact .inl h
  | @forwarded stream version request hr =>
    rw [handleClient_eq] at h
    dsimp only at h
    split_ifs at h
    · rcases List.mem_append.mp h with hs | hs
      · exact .inl (List.mem_of_mem_filter hs)
      · refine .inr ⟨stream, rfl, ?_⟩
        rw [List.mem_singleton.mp hs, hr]
        rfl
    · exact .inl h

lemma accepted_lt_serve {stream : ByteStream} (h : input.2 = .connection stream) :
    self.accepted < (self.serve serde input).2.accepted := by
  obtain ⟨io, input⟩ := input
  obtain rfl : input = .connection stream := h
  rw [serve]
  cases readClientRequest serde stream <;> exact Nat.lt_succ_self _

lemma accepted_le_serve : self.accepted ≤ (self.serve serde input).2.accepted := by
  have hserved := served_serve serde self input
  obtain ⟨io, input⟩ := input
  generalize self.serve serde (io, input) = result at hserved
  cases hserved with
  | command _ command => exact le_rfl
  | answered hr => exact Nat.le_succ _
  | forwarded hr => exact Nat.le_succ _

abbrev served (serde : SerdeJson) (inputs : List (Io × ServiceInput)) : Broker :=
  Machine.run (serve serde) default inputs

def servedWrites (serde : SerdeJson) (inputs : List (Io × ServiceInput)) : List Write :=
  (Machine.outputs (serve serde) default inputs).flatten

def Registered (self : Broker) : Prop :=
  ∀ subscriber ∈ self.state.subscribers, subscriber.stream < self.accepted

lemma Registered.serve (h : Registered self) (input : Io × ServiceInput) :
    Registered (self.serve serde input).2 := by
  intro subscriber hs
  rcases mem_subscribers_of_serve hs with hs | ⟨stream, hc, rfl⟩
  · exact (h subscriber hs).trans_le accepted_le_serve
  · exact accepted_lt_serve hc

lemma Registered.write (h : Registered self) {write : Write}
    (hw : write ∈ (self.serve serde input).1) :
    write.stream < (self.serve serde input).2.accepted := by
  rcases mem_serve hw with ⟨subscriber, hm, hs, -⟩ | ⟨stream, hc, hs, -⟩
  · exact hs ▸ (h subscriber hm).trans_le accepted_le_serve
  · exact hs ▸ accepted_lt_serve hc

lemma registered (serde : SerdeJson) (inputs : List (Io × ServiceInput)) :
    Registered (served serde inputs) :=
  Machine.run_invariant _ (fun _ input h => h.serve input)
    (by simp [Registered, default, BrokerState.default]) inputs

lemma accepted_le_run (serde : SerdeJson) (self : Broker) (inputs : List (Io × ServiceInput)) :
    self.accepted ≤ (Machine.run (serve serde) self inputs).accepted :=
  Machine.run_invariant (P := fun next : Broker => self.accepted ≤ next.accepted) _
    (fun _ _ h => h.trans accepted_le_serve) le_rfl inputs

structure Speaks (stream : StreamId) (version : UInt32) (broker : Broker) : Prop where
  settled : stream < broker.accepted
  version {subscriber : Subscriber} : subscriber ∈ broker.state.subscribers →
    subscriber.stream = stream → subscriber.version = version

variable {stream : StreamId} {version : UInt32}

lemma Speaks.serve (h : Speaks stream version self) (input : Io × ServiceInput) :
    Speaks stream version (self.serve serde input).2 := by
  refine ⟨h.settled.trans_le accepted_le_serve, fun {subscriber} hm hs => ?_⟩
  rcases mem_subscribers_of_serve hm with hm | ⟨_, -, rfl⟩
  · exact h.version hm hs
  · exact absurd hs h.settled.ne'

lemma Speaks.write (h : Speaks stream version self) {write : Write}
    (hw : write ∈ (self.serve serde input).1) (hs : write.stream = stream) :
    write.message.version = version := by
  rcases mem_serve hw with ⟨subscriber, hm, hsub, hv⟩ | ⟨_, -, hacc, -⟩
  · exact hv.trans (h.version hm (hsub.symm.trans hs))
  · exact absurd (hacc.symm.trans hs) h.settled.ne'

lemma Registered.speaks (h : Registered self) (serde : SerdeJson) (io : Io)
    (stream : ByteStream) :
    Speaks self.accepted (readClientRequest serde stream).version
      (self.serve serde (io, .connection stream)).2 := by
  refine ⟨?_, fun {subscriber} hm hs => ?_⟩
  · exact accepted_lt_serve rfl
  · rcases mem_subscribers_of_serve hm with hm | ⟨_, hc, rfl⟩
    · exact absurd hs (h subscriber hm).ne
    · cases hc
      rfl

theorem version_of_connection (serde : SerdeJson) (before after : List (Io × ServiceInput))
    (io : Io) (stream : ByteStream) {write : Write}
    (hw : write ∈ servedWrites serde (before ++ (io, .connection stream) :: after))
    (hs : write.stream = (served serde before).accepted) :
    write.message.version = (readClientRequest serde stream).version := by
  have hreg := registered serde before
  rw [servedWrites, Machine.outputs_append, Machine.outputs_cons, List.flatten_append,
    List.flatten_cons, List.mem_append, List.mem_append] at hw
  rcases hw with hw | hw | hw
  · obtain ⟨writes, hm, hw⟩ := List.mem_flatten.mp hw
    obtain ⟨xs, x, ys, hb, rfl⟩ := Machine.mem_outputs _ hm
    have hlt := (registered serde xs).write hw
    have hle := accepted_le_run serde ((served serde xs).serve serde x).2 ys
    rw [hs, hb] at hlt
    rw [served, Machine.run_append, Machine.run_cons] at hlt
    exact absurd hlt hle.not_gt
  · rcases mem_serve hw with ⟨subscriber, hm, hsub, -⟩ | ⟨_, hc, -, hv⟩
    · exact absurd (hsub.symm.trans hs) (hreg subscriber hm).ne
    · cases hc
      exact hv
  · obtain ⟨writes, hm, hw⟩ := List.mem_flatten.mp hw
    obtain ⟨xs, x, ys, -, rfl⟩ := Machine.mem_outputs _ hm
    have hspeaks := Machine.run_invariant (serve serde) (fun _ input h => h.serve input)
      (hreg.speaks serde io stream) xs
    exact hspeaks.write hw hs

lemma answered (serde : SerdeJson) (self : Broker) (io : Io) (stream : ByteStream) :
    ∃ write ∈ (self.serve serde (io, .connection stream)).1, write.stream = self.accepted := by
  rw [serve]
  cases readClientRequest serde stream with
  | reply message => exact ⟨_, List.mem_singleton_self _, rfl⟩
  | forward version request =>
    show ∃ write ∈ (self.turn (io, .client version request)).1, write.stream = self.accepted
    rw [turn_client, handleClient_eq]
    exact ⟨_, List.mem_singleton_self _, rfl⟩

end Broker

end Melibea
