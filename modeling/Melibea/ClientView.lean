import Melibea.ServiceClient

/-! What a subscriber knows of the service, over the bytes of both sockets. -/

namespace Melibea

open Library Json Lines Machine

def ServiceInput.brokerMessage (serde : SerdeJson) : ServiceInput → BrokerMessage
  | .publish windows => .publish windows
  | .setUnavailable reason => .setUnavailable reason
  | .connection stream =>
    match readClientRequest serde stream with
    | .reply _ => .client protocolVersion .list
    | .forward version request => .client version request

def Broker.AnswersOn (serde : SerdeJson) (stream : StreamId) (self : Broker)
    (input : Io × ServiceInput) : Prop :=
  self.accepted = stream ∧
    ∃ bytes message, input.2 = .connection bytes ∧ readClientRequest serde bytes = .reply message

namespace Broker

variable {serde : SerdeJson} {self : Broker} {stream : StreamId}

abbrev brokerInput (serde : SerdeJson) (input : Io × ServiceInput) : Io × BrokerMessage :=
  (input.1, input.2.brokerMessage serde)

lemma serve_eq_turn (serde : SerdeJson) (self : Broker) (stream : StreamId)
    (input : Io × ServiceInput) :
    (self.serve serde input).2 = (self.turn (brokerInput serde input)).2 ∧
      (¬ AnswersOn serde stream self input → messagesOn (self.serve serde input).1 stream =
        messagesOn (self.turn (brokerInput serde input)).1 stream) := by
  obtain ⟨io, input⟩ := input
  cases input with
  | publish windows => exact ⟨rfl, fun _ => rfl⟩
  | setUnavailable reason => exact ⟨rfl, fun _ => rfl⟩
  | connection bytes =>
    cases hr : readClientRequest serde bytes with
    | forward version request =>
      simp only [serve, hr, brokerInput, ServiceInput.brokerMessage]
      exact ⟨trivial, fun _ => trivial⟩
    | reply message =>
      simp only [serve, hr, brokerInput, ServiceInput.brokerMessage]
      refine ⟨rfl, fun hother => ?_⟩
      have hne : self.accepted ≠ stream := fun he => hother ⟨he, bytes, message, rfl, hr⟩
      simp [messagesOn, turn, BrokerState.handleClient, hne]

lemma messagesOn_outputs {inputs : List (Io × ServiceInput)}
    (h : Meets (serve serde) (fun self input => ¬ AnswersOn serde stream self input) self inputs) :
    messagesOn (outputs (serve serde) self inputs).flatten stream =
      messagesOn (outputs turn self (inputs.map (brokerInput serde))).flatten stream := by
  induction inputs generalizing self with
  | nil => rfl
  | cons input inputs ih =>
    obtain ⟨hstate, hwrites⟩ := serve_eq_turn serde self stream input
    rw [List.map_cons, outputs_cons, outputs_cons, List.flatten_cons, List.flatten_cons,
      messagesOn_append, messagesOn_append, hwrites h.1, ih h.2, hstate]

lemma meets_before {inputs : List (Io × ServiceInput)}
    (h : (run (serve serde) self inputs).accepted ≤ stream) :
    Meets (serve serde) (fun self input => ¬ AnswersOn serde stream self input) self inputs := by
  induction inputs generalizing self with
  | nil => trivial
  | cons input inputs ih =>
    refine ⟨?_, ih h⟩
    rintro ⟨rfl, bytes, message, hinput, -⟩
    have hlt : self.accepted < (self.serve serde input).2.accepted := accepted_lt_serve hinput
    exact (hlt.trans_le (accepted_le_run serde _ inputs)).not_ge h

lemma meets_after {inputs : List (Io × ServiceInput)} (h : stream < self.accepted) :
    Meets (serve serde) (fun self input => ¬ AnswersOn serde stream self input) self inputs := by
  induction inputs generalizing self with
  | nil => trivial
  | cons input inputs ih =>
    exact ⟨fun ha => h.ne ha.1.symm, ih (h.trans_le accepted_le_serve)⟩

lemma messagesOn_forwarded {before after : List (Io × ServiceInput)} {io : Io} {bytes : ByteStream}
    {version : UInt32} {request : Request}
    (h : readClientRequest serde bytes = .forward version request) :
    messagesOn (servedWrites serde (before ++ (io, .connection bytes) :: after))
        (served serde before).accepted =
      messagesOn (written ((before ++ (io, .connection bytes) :: after).map (brokerInput serde)))
        (served serde before).accepted := by
  refine messagesOn_outputs ((meets_append _).mpr ⟨meets_before le_rfl, ?_, meets_after ?_⟩)
  · rintro ⟨-, bytes', message, he, hr⟩
    cases he
    cases h.symm.trans hr
  · exact accepted_lt_serve rfl

end Broker

open Broker

/-- Whatever part of the bytes written to it has arrived, a subscriber reads the first of the
messages, all that have arrived whole, and every list of windows it has held is one the service
published, and has the revision it was published under. -/
theorem subscriber_reads_publications (serde : SerdeJson) (version : UInt32)
    (hrequest : RequestText serde ⟨version, .subscribe⟩) (rest : Bytes) (requested : StreamEnd)
    (before after : List (Io × ServiceInput)) (io : Io) :
    let request : ByteStream :=
      ⟨serde.print (ClientRequest.toJson ⟨version, .subscribe⟩) ++ newline :: rest, requested⟩
    let inputs := before ++ (io, .connection request) :: after
    let sent := messagesOn (servedWrites serde inputs) (served serde before).accepted
    let published := publications (inputs.map (brokerInput serde))
    (∀ input ∈ inputs, ∀ windows, input.2 = .publish windows → (windows.map Window.id).Nodup) →
    published.published.length < 2 ^ 64 - 1 →
    (∀ message ∈ sent, Subscription.MessageLine serde message) →
    ∀ bytes, bytes <+: sent.flatMap (messageBytes serde) → ∀ ending,
      let got := (Subscription.messages serde version ⟨bytes, ending⟩).1
      got <+: sent ∧
        (∀ k, (sent.take k).flatMap (messageBytes serde) <+: bytes → sent.take k <+: got) ∧
        ∀ seen, seen <+: got.map ServerMessage.message → (replica seen).ready →
          published.at? (replica seen).revision = some (replica seen).value := by
  intro request inputs sent published hd hlt hlines bytes hbytes ending got
  have hforward : readClientRequest serde request = .forward version .subscribe :=
    hrequest.forwarded rest requested
  have hversion : ∀ message ∈ sent, message.version = version := by
    intro message hm
    obtain ⟨write, hw, hs, rfl⟩ := mem_messagesOn.mp hm
    rw [version_of_connection serde before after io request hw hs, hforward]
    rfl
  obtain ⟨hbegin, hwhole⟩ := Subscription.prefix_messages hversion hlines hbytes ending
  refine ⟨hbegin, hwhole, fun seen hseen hready => ?_⟩
  have hnamed := named (inputs.map (brokerInput serde)) ?_ hlt
  · refine hnamed.observed (served serde before).accepted (hseen.trans ?_) hready
    have hsent : sent = messagesOn (written (inputs.map (brokerInput serde)))
        (served serde before).accepted := messagesOn_forwarded hforward
    have hmap := hbegin.map ServerMessage.message
    rw [hsent, messagesOn, List.map_map] at hmap
    exact hmap
  · intro input hi windows he
    obtain ⟨⟨io, original⟩, ho, rfl⟩ := List.mem_map.mp hi
    refine hd _ ho windows ?_
    cases original with
    | publish other => exact congrArg ServiceInput.publish (BrokerMessage.publish.inj he)
    | setUnavailable reason => cases he
    | connection bytes =>
      simp only [ServiceInput.brokerMessage] at he
      split at he <;> cases he

section Kitty

def subscribeLine : Bytes := text "\x7b\"version\":1,\"request\":\x7b\"type\":\"subscribe\"\x7d\x7d"

def kittyLine : Bytes :=
  text ("\x7b\"version\":1,\"message\":\x7b\"type\":\"snapshot\",\"revision\":1,\"windows\":[" ++
    "\x7b\"id\":10,\"app_id\":\"kitty\",\"title\":null,\"icon_name\":null\x7d]\x7d\x7d")

def restoredLine : Bytes :=
  text ("\x7b\"version\":1,\"message\":\x7b\"type\":\"changes\",\"revision\":2,\"changes\":[" ++
    "\x7b\"type\":\"removed\",\"index\":0,\"window_id\":10\x7d]\x7d\x7d")

def kittyWindow : Window := ⟨10, some "kitty", none, none⟩

def kittySnapshot : ServerMessage := ⟨1, .snapshot 1 [kittyWindow]⟩

def kittyRestored : ServerMessage := ⟨1, .changes 2 [.removed 0 10]⟩

def subscribeRequest : ClientRequest := ⟨1, .subscribe⟩

def kittySerde : SerdeJson :=
  .ofLines [(subscribeLine, subscribeRequest.toJson), (kittyLine, kittySnapshot.toJson),
    (restoredLine, kittyRestored.toJson)] fun
    | .object [_, ("request", _)] => subscribeLine
    | .object [_, ("message", .object (("type", .string "changes") :: _))] => restoredLine
    | _ => kittyLine

lemma kittySerde_request : RequestText kittySerde subscribeRequest where
  line := .ofLines _ (by decide +kernel) (by decide +kernel) rfl (by decide +kernel)
  size := by decide +kernel
  allowed := ⟨.inl rfl, .inl rfl⟩

lemma kittySerde_message {message : ServerMessage} (h : message ∈ [kittySnapshot, kittyRestored]) :
    Subscription.MessageLine kittySerde message := by
  rcases List.mem_cons.mp h with rfl | h
  · exact ⟨.ofLines _ (by decide +kernel) (by decide +kernel) rfl (by decide +kernel), trivial⟩
  · obtain rfl := List.mem_singleton.mp h
    exact ⟨.ofLines _ (by decide +kernel) (by decide +kernel) rfl (by decide +kernel),
      by simp [kittyRestored, Message.Indexed, WindowChange.Indexed]⟩

def kittyInputs : List (Io × ServiceInput) :=
  [(.reliable, .publish [kittyWindow])] ++
    (.reliable, .connection ⟨subscribeLine ++ newline :: [], .closed⟩) :: [(.reliable, .publish [])]

theorem subscriber_reads_publications_kitty :
    let cut := messageBytes kittySerde kittySnapshot ++ restoredLine.take 40
    let got := (Subscription.messages kittySerde 1 ⟨cut, .closed⟩).1
    [kittySnapshot] <+: got ∧ got <+: [kittySnapshot, kittyRestored] ∧
      (publications (kittyInputs.map (brokerInput kittySerde))).at? 1 = some [kittyWindow] := by
  intro cut got
  have hsent : messagesOn (servedWrites kittySerde kittyInputs)
      (served kittySerde [(.reliable, .publish [kittyWindow])]).accepted =
        [kittySnapshot, kittyRestored] := by decide +kernel
  have hcut : cut <+: [kittySnapshot, kittyRestored].flatMap (messageBytes kittySerde) := by
    decide +kernel
  obtain ⟨hbegin, hwhole, hheld⟩ : got <+: [kittySnapshot, kittyRestored] ∧
      (∀ k, ([kittySnapshot, kittyRestored].take k).flatMap (messageBytes kittySerde) <+: cut →
        [kittySnapshot, kittyRestored].take k <+: got) ∧
      ∀ seen, seen <+: got.map ServerMessage.message → (replica seen).ready →
        (publications (kittyInputs.map (brokerInput kittySerde))).at? (replica seen).revision =
          some (replica seen).value := by
    rw [← hsent] at hcut ⊢
    refine subscriber_reads_publications kittySerde 1 kittySerde_request [] .closed
      [(.reliable, .publish [kittyWindow])] [(.reliable, .publish [])] .reliable ?_
      (by decide +kernel) (fun message hm => kittySerde_message (hsent ▸ hm)) cut hcut .closed
    intro input hi windows he
    simp only [List.mem_append, List.mem_cons, List.not_mem_nil, or_false] at hi
    rcases hi with rfl | rfl | rfl <;> cases he <;> decide
  have hfirst : [kittySnapshot] <+: got := hwhole 1 (by decide +kernel)
  exact ⟨hfirst, hbegin, hheld [kittySnapshot.message] (hfirst.map _) rfl⟩

end Kitty

end Melibea
