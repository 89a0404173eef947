import Melibea.Versions

/-! Replies in the requester's version. -/

namespace Melibea

open Library Json

structure RequestLine (serde : SerdeJson) (version : UInt32) (line : Bytes)
    (stream : ByteStream) : Prop where
  first : ∃ rest, stream.bytes = line ++ rest
  terminated : ∃ body, newline ∉ body ∧ line = body ++ [newline]
  size : line.length ≤ maxRequestBytes
  text : isUtf8 line
  object : ∃ members, serde.parse line = some (.object members) ∧
    members.lookup "version" = some (.unsigned version.toUInt64)
  supported : version ∈ supportedProtocolVersions

lemma readUntilNewline_append {body rest : Bytes} (hb : newline ∉ body) (ending : StreamEnd) :
    readUntilNewline ⟨body ++ newline :: rest, ending⟩ = .ok (body ++ [newline]) := by
  have hmem : newline ∈ body ++ newline :: rest := by simp
  have htake : (body ++ newline :: rest).takeWhile (· ≠ newline) = body := by
    rw [List.takeWhile_append_of_pos fun byte hbyte => ?_]
    · simp
    · have hne : byte ≠ newline := fun he => hb (he ▸ hbyte)
      simpa using hne
  simp only [readUntilNewline, if_pos hmem, htake]

lemma take_append {line : Bytes} {limit : ℕ} (h : line.length ≤ limit) (rest : Bytes)
    (ending : StreamEnd) :
    ∃ rest' ending', ByteStream.take limit ⟨line ++ rest, ending⟩ = ⟨line ++ rest', ending'⟩ := by
  rw [ByteStream.take]
  split_ifs
  · refine ⟨rest.take (limit - line.length), .closed, ?_⟩
    rw [List.take_append, List.take_of_length_le h]
  · exact ⟨rest, ending, rfl⟩

lemma readClientRequest_eq_admitLine {serde : SerdeJson} {body rest : Bytes} {ending : StreamEnd}
    (hb : newline ∉ body) (hsize : (body ++ [newline]).length ≤ maxRequestBytes)
    (htext : isUtf8 (body ++ [newline])) :
    readClientRequest serde ⟨body ++ [newline] ++ rest, ending⟩ =
      admitLine serde (body ++ [newline]) := by
  obtain ⟨rest', ending', ht⟩ :=
    take_append (Nat.le_succ_of_le hsize) rest ending
  have hline : readLine ⟨body ++ [newline] ++ rest', ending'⟩ = .ok (body ++ [newline]) := by
    rw [List.append_assoc, List.singleton_append, readLine, readUntilNewline_append hb]
    exact if_pos htext
  have hshape : ¬ ((body ++ [newline]).length = 0 ∨
      (body ++ [newline]).length > maxRequestBytes ∨
      (body ++ [newline]).getLast? ≠ some newline) := by
    simpa using hsize
  rw [readClientRequest, ht, hline]
  exact if_neg hshape

lemma fields_version {names : List String} {members : List (String × Json)} {slot : String → Slot}
    {version : UInt32} (h : fields names false (.object members) = some slot)
    (hv : members.lookup "version" = some (.unsigned version.toUInt64)) :
    (slot "version").required asU32 = some version := by
  rw [lookup_eq_some_of_fields h, hv]
  exact asU32_unsigned version

lemma version_of_ofJson {members : List (String × Json)} {version : UInt32}
    (hv : members.lookup "version" = some (.unsigned version.toUInt64)) {request : ClientRequest}
    (h : ClientRequest.ofJson (.object members) = some request) : request.version = version := by
  simp only [ClientRequest.ofJson, bind, Option.bind_eq_some_iff, pure, Option.some.injEq] at h
  obtain ⟨slot, hs, version', hv', request', -, rfl⟩ := h
  exact Option.some.inj (hv'.symm.trans (fields_version hs hv))

lemma error_of_validateForVersion {request : Request} {version : UInt32} {error : ProtocolError}
    (h : request.validateForVersion version = .error error) :
    ∃ message, error = .invalidRequest message := by
  simp only [Request.validateForVersion] at h
  split_ifs at h
  · exact ⟨_, (Except.error.inj h).symm⟩
  · split at h
    · next transition _ =>
      cases hv : transition.validate with
      | error reason =>
        rw [hv] at h
        exact ⟨_, (Except.error.inj h).symm⟩
      | ok _ =>
        rw [hv] at h
        cases h
    · cases h

lemma code_of_validate {request : ClientRequest} {error : ProtocolError}
    (hv : request.version ∈ supportedProtocolVersions) (h : request.validate = .error error) :
    error.code = .invalidRequest := by
  rw [ClientRequest.validate, if_neg (not_not.mpr hv)] at h
  obtain ⟨message, rfl⟩ := error_of_validateForVersion h
  rfl

lemma version_of_undecoded {serde : SerdeJson} {line : Bytes}
    (h : (serde.parse line).bind ClientRequest.ofJson = none) :
    (admitLine serde line).version = protocolVersion := by
  rw [admitLine, h]
  dsimp only
  split
  · split_ifs <;> rfl
  · rfl

lemma version_of_decoded {serde : SerdeJson} {line : Bytes} {request : ClientRequest}
    (h : (serde.parse line).bind ClientRequest.ofJson = some request)
    (hv : request.version ∈ supportedProtocolVersions) :
    (admitLine serde line).version = request.version := by
  rw [admitLine, h]
  dsimp only
  cases hval : request.validate with
  | ok _ => rfl
  | error error =>
    have hcode : error.code ≠ .incompatibleVersion := by
      rw [code_of_validate hv hval]
      decide
    show (if error.code = .incompatibleVersion then protocolVersion else request.version) = _
    rw [if_neg hcode]

section RequestLine

variable {serde : SerdeJson} {version : UInt32} {line : Bytes} {stream : ByteStream}

lemma RequestLine.admission (h : RequestLine serde version line stream) :
    readClientRequest serde stream = admitLine serde line := by
  obtain ⟨rest, hbytes⟩ := h.first
  obtain ⟨body, hb, rfl⟩ := h.terminated
  obtain ⟨bytes, ending⟩ := stream
  obtain rfl : bytes = body ++ [newline] ++ rest := hbytes
  exact readClientRequest_eq_admitLine hb h.size h.text

lemma RequestLine.version_iff (h : RequestLine serde version line stream) :
    (readClientRequest serde stream).version = version ↔
      version = protocolVersion ∨ ((serde.parse line).bind ClientRequest.ofJson).isSome := by
  rw [h.admission]
  cases hd : (serde.parse line).bind ClientRequest.ofJson with
  | none =>
    rw [version_of_undecoded hd]
    simp [eq_comm]
  | some request =>
    obtain ⟨members, hp, hv⟩ := h.object
    have hr : request.version = version := version_of_ofJson hv (by simpa [hp] using hd)
    rw [version_of_decoded hd (hr ▸ h.supported), hr]
    simp

end RequestLine

structure Legible (serde : SerdeJson) (message : ServerMessage) : Prop where
  oneLine : newline ∉ serde.print message.toJson
  lossless : serde.parse (messageBytes serde message) = some message.toJson

lemma version_of_serverMessage {message received : ServerMessage}
    (h : ServerMessage.ofJson message.toJson = some received) :
    received.version = message.version := by
  simp only [ServerMessage.ofJson, ServerMessage.toJson, bind, Option.bind_eq_some_iff, pure,
    Option.some.injEq] at h
  obtain ⟨slot, hs, version, hv, payload, -, rfl⟩ := h
  exact Option.some.inj (hv.symm.trans (fields_version hs rfl))

lemma readServerMessage_ne_incompatible {serde : SerdeJson} {message : ServerMessage}
    (h : Legible serde message) (rest : Bytes) (ending : StreamEnd) (other : UInt32) :
    readServerMessage serde ⟨messageBytes serde message ++ rest, ending⟩ message.version ≠
      .error (.incompatibleServerVersion other) := by
  have hline : readUntilNewline ⟨messageBytes serde message ++ rest, ending⟩ =
      .ok (messageBytes serde message) := by
    rw [messageBytes, List.append_assoc, List.singleton_append, readUntilNewline_append h.oneLine]
  have hlength : (messageBytes serde message).length ≠ 0 := by
    simp [messageBytes]
  have hread : readLine ⟨messageBytes serde message ++ rest, ending⟩ =
      if isUtf8 (messageBytes serde message) then .ok (messageBytes serde message)
      else .error "stream did not contain valid UTF-8" := by
    rw [readLine, hline]
    rfl
  rw [readServerMessage, hread]
  split_ifs
  · simp only [if_neg hlength, h.lossless, Option.bind_some]
    cases hm : ServerMessage.ofJson message.toJson with
    | none => nofun
    | some received => simp [version_of_serverMessage hm]
  · nofun

lemma mem_messagesOn {writes : List Write} {stream : StreamId} {message : ServerMessage} :
    message ∈ messagesOn writes stream ↔
      ∃ write ∈ writes, write.stream = stream ∧ write.message = message := by
  simp [messagesOn, and_assoc]

open Broker

/-- Every message on the connection of a line that names a supported version carries that
version, and no client of that version mistakes one, exactly if the version is 1 or the line
decodes as a request. -/
theorem replies_speak_requester_iff (serde : SerdeJson) (before after : List (Io × ServiceInput))
    (io : Io) (stream : ByteStream) (version : UInt32) (line : Bytes)
    (hline : RequestLine serde version line stream)
    (hserde : ∀ message ∈ messagesOn
        (servedWrites serde (before ++ (io, .connection stream) :: after))
        (served serde before).accepted,
      Legible serde message) :
    (∀ message ∈ messagesOn (servedWrites serde (before ++ (io, .connection stream) :: after))
        (served serde before).accepted,
      message.version = version ∧ ∀ rest ending other,
        readServerMessage serde ⟨messageBytes serde message ++ rest, ending⟩ version ≠
          .error (.incompatibleServerVersion other)) ↔
      version = protocolVersion ∨ ((serde.parse line).bind ClientRequest.ofJson).isSome := by
  have hversion {message : ServerMessage} (hm : message ∈ messagesOn
      (servedWrites serde (before ++ (io, .connection stream) :: after))
      (served serde before).accepted) :
      message.version = (readClientRequest serde stream).version := by
    obtain ⟨write, hw, hs, rfl⟩ := mem_messagesOn.mp hm
    exact version_of_connection serde before after io stream hw hs
  rw [← hline.version_iff]
  constructor
  · intro h
    obtain ⟨write, hw, hs⟩ := answered serde (served serde before) io stream
    have hm : write.message ∈ messagesOn
        (servedWrites serde (before ++ (io, .connection stream) :: after))
        (served serde before).accepted := by
      refine mem_messagesOn.mpr ⟨write, ?_, hs, rfl⟩
      rw [servedWrites, Machine.outputs_append, Machine.outputs_cons, List.flatten_append,
        List.flatten_cons]
      exact List.mem_append_right _ (List.mem_append_left _ hw)
    exact (hversion hm).symm.trans (h _ hm).1
  · intro h message hm
    have hv : message.version = version := (hversion hm).trans h
    refine ⟨hv, fun rest ending other => ?_⟩
    rw [← hv]
    exact readServerMessage_ne_incompatible (hserde message hm) rest ending other

def text (s : String) : Bytes := s.toUTF8.data.toList

def serdeOn (line : Bytes) (request : Json) (reply : ServerMessage) (printed : Bytes)
    (error : String) : SerdeJson where
  parse bytes :=
    if bytes = line then some request
    else if bytes = printed ++ [newline] then some reply.toJson
    else none
  print _ := printed
  requestError _ := error
  replyError _ := error

lemma serdeOn_parse (line : Bytes) (request : Json) (reply : ServerMessage) (printed : Bytes)
    (error : String) : (serdeOn line request reply printed error).parse line = some request :=
  if_pos rfl

lemma serdeOn_legible {line printed : Bytes} {request : Json} {reply : ServerMessage}
    {error : String} (hn : newline ∉ printed) (hne : printed ++ [newline] ≠ line) :
    Legible (serdeOn line request reply printed error) reply where
  oneLine := hn
  lossless := (if_neg hne).trans (if_pos rfl)

section ListRequest

def listLine : Bytes := text "\x7b\"version\":2,\"request\":\x7b\"type\":\"list\"\x7d\x7d\n"

def unavailableReply : ServerMessage :=
  .forVersion 2 (.error (.unavailable "awaiting authoritative niri snapshot"))

def listSerde : SerdeJson :=
  serdeOn listLine
    (.object [("version", .unsigned 2), ("request", .object [("type", .string "list")])])
    unavailableReply
    (text ("\x7b\"version\":2,\"message\":\x7b\"type\":\"error\",\"code\":\"unavailable\"," ++
      "\"message\":\"awaiting authoritative niri snapshot\"\x7d\x7d"))
    ""

lemma listLine_request : RequestLine listSerde 2 listLine ⟨listLine, .closed⟩ where
  first := ⟨[], (List.append_nil _).symm⟩
  terminated := ⟨listLine.dropLast, by decide +kernel, by decide +kernel⟩
  size := by decide +kernel
  text := by decide +kernel
  object := ⟨_, serdeOn_parse .., rfl⟩
  supported := by decide

theorem replies_speak_requester_list :
    (∀ message ∈ messagesOn
        (servedWrites listSerde ([] ++ [(Io.reliable, .connection ⟨listLine, .closed⟩)]))
        (served listSerde []).accepted,
      message.version = 2 ∧ ∀ rest ending other,
        readServerMessage listSerde ⟨messageBytes listSerde message ++ rest, ending⟩ 2 ≠
          .error (.incompatibleServerVersion other)) ↔
      (2 : UInt32) = protocolVersion ∨
        ((listSerde.parse listLine).bind ClientRequest.ofJson).isSome := by
  refine replies_speak_requester_iff listSerde [] [] Io.reliable ⟨listLine, .closed⟩ 2 listLine
    listLine_request fun message hm => ?_
  have hmessages : messagesOn
      (servedWrites listSerde ([] ++ [(Io.reliable, .connection ⟨listLine, .closed⟩)]))
      (served listSerde []).accepted = [unavailableReply] := by
    decide +kernel
  rw [hmessages] at hm
  obtain rfl := List.mem_singleton.mp hm
  exact serdeOn_legible (by decide +kernel) (by decide +kernel)

end ListRequest

section NullTransition

def nullTransitionLine : Bytes :=
  text ("\x7b\"version\":2,\"request\":\x7b\"type\":\"restore\",\"window_id\":42," ++
    "\"transition\":null\x7d\x7d\n")

def nullTransitionError : String :=
  "invalid type: null, expected internally tagged enum WindowTransition at line 1 column 75"

def nullTransitionReply : ServerMessage :=
  .new (.error (.invalidRequest s!"invalid request JSON: {nullTransitionError}"))

def nullTransitionSerde : SerdeJson :=
  serdeOn nullTransitionLine
    (.object [("version", .unsigned 2), ("request", .object [("type", .string "restore"),
      ("window_id", .unsigned 42), ("transition", .null)])])
    nullTransitionReply
    (text ("\x7b\"version\":1,\"message\":\x7b\"type\":\"error\",\"code\":\"invalid_request\"," ++
      "\"message\":\"invalid request JSON: " ++ nullTransitionError ++ "\"\x7d\x7d"))
    nullTransitionError

-- A version 2 request with an explicit null transition is answered in version 1, and a version
-- 2 client reports an incompatible daemon instead of the error.
theorem null_transition_answered_in_v1 :
    RequestLine nullTransitionSerde 2 nullTransitionLine ⟨nullTransitionLine, .closed⟩ ∧
      ∃ message ∈ messagesOn
          (servedWrites nullTransitionSerde
            [(Io.reliable, .connection ⟨nullTransitionLine, .closed⟩)])
          (served nullTransitionSerde []).accepted,
        message.version ≠ 2 ∧
          readServerMessage nullTransitionSerde
            ⟨messageBytes nullTransitionSerde message, .closed⟩ 2 =
              .error (.incompatibleServerVersion 1) := by
  refine ⟨⟨⟨[], (List.append_nil _).symm⟩,
    ⟨nullTransitionLine.dropLast, by decide +kernel, by decide +kernel⟩, by decide +kernel,
    by decide +kernel, ⟨_, serdeOn_parse .., rfl⟩, by decide⟩, nullTransitionReply, ?_, ?_, ?_⟩
  · decide +kernel
  · decide
  · decide +kernel

end NullTransition

end Melibea
