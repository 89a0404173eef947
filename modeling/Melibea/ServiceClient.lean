import Melibea.Reading
import Melibea.Revisions
import Melibea.RoundTrip

/-! The client's side of the socket: a request written, and messages read. -/

namespace Melibea

open Library Json Lines Machine

inductive StartError
  | connect (path : String) (source : String)
  | serialize (error : String)
  | write (error : String)
  deriving DecidableEq

inductive RequestError
  | start (error : StartError)
  | reply (error : ClientError)
  deriving DecidableEq

namespace ServiceClient

structure Starting where
  connect : Except String Unit
  serialize : Writing
  newline : Except String Unit
  flush : Except String Unit

def startRequest (serde : SerdeJson) (path : String) (io : Starting) (request : ClientRequest)
    (replies : ByteStream) : Except StartError ByteStream × Bytes :=
  let text := serde.print request.toJson
  match io.connect with
  | .error source => (.error (.connect path source), [])
  | .ok () =>
    match io.serialize with
    | .failed sent error => (.error (.serialize error), text.take sent)
    | .done =>
      match io.newline with
      | .error error => (.error (.write error), text)
      | .ok () =>
        match io.flush with
        | .error error => (.error (.write error), text ++ [newline])
        | .ok () => (.ok replies, text ++ [newline])

def requestVersioned (serde : SerdeJson) (path : String) (io : Starting) (request : ClientRequest)
    (replies : ByteStream) : Except RequestError ServerMessage × Bytes :=
  match startRequest serde path io request replies with
  | (.error error, sent) => (.error (.start error), sent)
  | (.ok reader, sent) =>
    ((readServerMessage serde reader request.version).mapError .reply, sent)

end ServiceClient

structure RequestText (serde : SerdeJson) (request : ClientRequest) : Prop where
  line : JsonLine serde (serde.print request.toJson) request.toJson
  size : (serde.print request.toJson ++ [newline]).length ≤ maxRequestBytes
  allowed : request.Allowed

lemma finite_of_validate {transition : WindowTransition} (h : transition.validate = .ok ()) :
    transition.Finite := by
  cases transition with
  | disabled => trivial
  | anchored anchor =>
    rw [WindowTransition.validate, BubbleAnchor.validate] at h
    split_ifs at h with _ _ hfinite
    simpa [WindowTransition.Finite, BubbleAnchor.Finite] using hfinite

lemma ClientRequest.Allowed.finite {request : ClientRequest} (h : request.Allowed) :
    request.request.Finite := by
  have hhint : ∀ hint ∈ request.request.transition, hint.Finite := by
    rintro hint hm
    rcases h.2 with hnone | ⟨-, transition, ht, hvalid⟩
    · rw [hnone] at hm
      cases hm
    · rw [ht] at hm
      obtain rfl := Option.some.inj hm
      exact finite_of_validate hvalid
  cases hr : request.request with
  | minimize _ _ | restore _ _ =>
    rw [hr] at hhint
    exact hhint
  | list | subscribe | close _ => trivial

lemma RequestText.forwarded {serde : SerdeJson} {request : ClientRequest}
    (h : RequestText serde request) (rest : Bytes) (ending : StreamEnd) :
    readClientRequest serde ⟨serde.print request.toJson ++ newline :: rest, ending⟩ =
      .forward request.version request.request := by
  rw [readClientRequest_eq_forward]
  refine ⟨_, ⟨⟨_, rest, h.line.oneLine, rfl, by simp⟩, h.size, h.line.utf8⟩, ?_, h.allowed⟩
  rw [h.line.parsed, Option.bind_some, (clientRequest_carries h.allowed.finite).reads]

namespace Subscription

def read (serde : SerdeJson) (version : UInt32) (stream : ByteStream) :
    Except ClientError ServerMessage × ByteStream :=
  (readServerMessage serde stream version, stream.afterLine)

def decode (serde : SerdeJson) (version : UInt32) (line : Bytes) :
    Except ClientError ServerMessage :=
  match (serde.parse line).bind ServerMessage.ofJson with
  | none => .error (.invalidReply (serde.replyError line))
  | some message =>
    if message.version ≠ version then .error (.incompatibleServerVersion message.version)
    else .ok message

variable {serde : SerdeJson} {version : UInt32}

lemma readServerMessage_eq_ok {stream : ByteStream} {message : ServerMessage} :
    readServerMessage serde stream version = .ok message ↔
      readNext (decode serde version) stream = .ok message := by
  rw [readServerMessage, readNext]
  cases readLine stream with
  | error error => simp
  | ok line =>
    dsimp only
    split_ifs
    · simp
    · rw [decode]
      cases (serde.parse line).bind ServerMessage.ofJson with
      | none => simp [Except.mapError]
      | some message =>
        dsimp only
        split_ifs <;> simp [Except.mapError]

-- The loop of `service_subscribe`.
def messages (serde : SerdeJson) (version : UInt32) (stream : ByteStream) :
    List ServerMessage × ClientError :=
  match _h : read serde version stream with
  | (.ok message, rest) =>
    let (messages, error) := messages serde version rest
    (message :: messages, error)
  | (.error error, _) => ([], error)
termination_by stream.bytes.length
decreasing_by
  obtain ⟨hnext, rfl⟩ := Prod.mk.inj _h
  exact bytes_of_readNext (readServerMessage_eq_ok.mp hnext)

lemma messages_eq (serde : SerdeJson) (version : UInt32) (stream : ByteStream) :
    (messages serde version stream).1 = (readAll (decode serde version) stream).1 := by
  fun_induction messages serde version stream with
  | case1 stream message rest h messages error hrest ih =>
    obtain ⟨hnext, rfl⟩ := Prod.mk.inj h
    rw [readAll_of_ok (readServerMessage_eq_ok.mp hnext), ← ih, hrest]
  | case2 stream error rest h =>
    obtain ⟨hnext, rfl⟩ := Prod.mk.inj h
    cases hdecoded : readNext (decode serde version) stream with
    | error stopped => rw [readAll_of_error hdecoded]
    | ok message => cases hnext.symm.trans (readServerMessage_eq_ok.mpr hdecoded)

structure MessageLine (serde : SerdeJson) (message : ServerMessage) : Prop where
  line : JsonLine serde (serde.print message.toJson) message.toJson
  indexed : message.message.Indexed

lemma MessageLine.decoded {message : ServerMessage} (h : MessageLine serde message) :
    DecodedLine (decode serde message.version) (serde.print message.toJson) message := by
  have hdecode : ∀ {line}, serde.parse line = some message.toJson →
      decode serde message.version line = .ok message := by
    intro line hline
    rw [decode, hline, Option.bind_some, (serverMessage_carries h.indexed).reads]
    exact if_neg fun hne => hne rfl
  refine ⟨h.line.oneLine, h.line.utf8, hdecode h.line.parsed, hdecode h.line.trimmed,
    fun {part} hp hne => ⟨.invalidReply (serde.replyError part), ?_⟩⟩
  rw [decode, h.line.cut hp hne]
  rfl

lemma unlines_messageBytes (serde : SerdeJson) (sent : List ServerMessage) :
    sent.flatMap (messageBytes serde) =
      unlines newline (sent.map fun message => serde.print message.toJson) := by
  rw [unlines, List.flatMap_map]
  rfl

lemma prefix_messages {sent : List ServerMessage} (hversion : ∀ message ∈ sent,
    message.version = version) (hlines : ∀ message ∈ sent, MessageLine serde message)
    {bytes : Bytes} (hb : bytes <+: sent.flatMap (messageBytes serde)) (ending : StreamEnd) :
    (messages serde version ⟨bytes, ending⟩).1 <+: sent ∧
      ∀ k, (sent.take k).flatMap (messageBytes serde) <+: bytes →
        sent.take k <+: (messages serde version ⟨bytes, ending⟩).1 := by
  have hdecoded : List.Forall₂ (DecodedLine (decode serde version))
      (sent.map fun message => serde.print message.toJson) sent := by
    rw [List.forall₂_map_left_iff, List.forall₂_same]
    intro message hm
    exact hversion message hm ▸ (hlines message hm).decoded
  rw [messages_eq]
  constructor
  · rw [unlines_messageBytes] at hb
    exact prefix_readAll hdecoded hb ending
  · rintro k ⟨part, rfl⟩
    have hfirst := List.forall₂_take k hdecoded
    rw [← List.map_take] at hfirst
    have hwhole := congrArg Prod.fst (readAll_lines hfirst part ending)
    rw [unlines_messageBytes, hwhole]
    exact List.prefix_append _ _

lemma messages_whole {sent : List ServerMessage} (hversion : ∀ message ∈ sent,
    message.version = version) (hlines : ∀ message ∈ sent, MessageLine serde message)
    (ending : StreamEnd) :
    (messages serde version ⟨sent.flatMap (messageBytes serde), ending⟩).1 = sent := by
  obtain ⟨hfirst, hwhole⟩ := prefix_messages hversion hlines (List.prefix_refl _) ending
  have hall := hwhole sent.length (by rw [List.take_length])
  rw [List.take_length] at hall
  exact hfirst.eq_of_length_le hall.length_le

end Subscription

end Melibea
