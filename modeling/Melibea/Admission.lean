import Melibea.Replies

/-! Which connections reach the broker. -/

namespace Melibea

open Library Json

def Request.transition : Request → Option WindowTransition
  | .minimize _ transition | .restore _ transition => transition
  | .list | .subscribe | .close _ => none

def ClientRequest.Allowed (request : ClientRequest) : Prop :=
  (request.version = 1 ∨ request.version = 2) ∧
    (request.request.transition = none ∨
      request.version = 2 ∧ ∃ transition,
        request.request.transition = some transition ∧ transition.validate = .ok ())

lemma validateForVersion_eq_ok {request : Request} {version : UInt32} :
    request.validateForVersion version = .ok () ↔
      request.transition = none ∨
        version ≠ protocolVersion ∧ ∃ transition,
          request.transition = some transition ∧ transition.validate = .ok () := by
  have heq : request.validateForVersion version =
      if version = protocolVersion ∧ request.transition.isSome then
        .error (.invalidRequest "window transitions require Melibea protocol version 2")
      else
        request.transition.elim (.ok ()) fun transition =>
          transition.validate.mapError fun error =>
            .invalidRequest s!"invalid window transition: {error.display}" := by
    rcases request with _ | _ | ⟨_, _ | _⟩ | ⟨_, _ | _⟩ | _ <;> rfl
  rw [heq]
  cases ht : request.transition with
  | none => simp
  | some transition =>
    by_cases hv : version = protocolVersion
    · simp [hv]
    · cases hval : transition.validate with
      | ok _ => simp [hv, hval, Except.mapError]
      | error _ => simp [hv, hval, Except.mapError]

lemma mem_supported {version : UInt32} :
    version ∈ supportedProtocolVersions ↔ version = 1 ∨ version = 2 := by
  simp [supportedProtocolVersions, protocolVersion, protocolVersionV2]

lemma validate_eq_ok {request : ClientRequest} : request.validate = .ok () ↔ request.Allowed := by
  rw [ClientRequest.validate, ClientRequest.Allowed, ← mem_supported]
  by_cases hv : request.version ∈ supportedProtocolVersions
  · rw [if_neg (not_not.mpr hv), validateForVersion_eq_ok, and_iff_right hv]
    rcases mem_supported.mp hv with h | h <;> simp [h, protocolVersion]
  · simp [hv]

lemma admitLine_eq_forward {serde : SerdeJson} {line : Bytes} {version : UInt32}
    {request : Request} :
    admitLine serde line = .forward version request ↔
      (serde.parse line).bind ClientRequest.ofJson = some ⟨version, request⟩ ∧
        ClientRequest.Allowed ⟨version, request⟩ := by
  rw [admitLine]
  cases hd : (serde.parse line).bind ClientRequest.ofJson with
  | none =>
    dsimp only
    split
    · split_ifs <;> simp
    · simp
  | some decoded =>
    dsimp only
    cases hv : decoded.validate with
    | ok _ =>
      have hallowed := validate_eq_ok.mp hv
      constructor
      · intro h
        obtain ⟨rfl, rfl⟩ := Admission.forward.inj h
        exact ⟨rfl, hallowed⟩
      · rintro ⟨h, -⟩
        rw [Option.some.inj h]
    | error error =>
      constructor
      · intro h
        cases h
      · rintro ⟨h, hallowed⟩
        rw [← Option.some.inj h, ← validate_eq_ok, hv] at hallowed
        cases hallowed

structure FirstLine (stream : ByteStream) (line : Bytes) : Prop where
  first : ∃ body rest, newline ∉ body ∧ line = body ++ [newline] ∧ stream.bytes = line ++ rest
  size : line.length ≤ maxRequestBytes
  text : isUtf8 line

lemma FirstLine.admission {stream : ByteStream} {line : Bytes} (h : FirstLine stream line)
    (serde : SerdeJson) : readClientRequest serde stream = admitLine serde line := by
  obtain ⟨body, rest, hb, rfl, hbytes⟩ := h.first
  obtain ⟨bytes, ending⟩ := stream
  obtain rfl : bytes = body ++ [newline] ++ rest := hbytes
  exact readClientRequest_eq_admitLine hb h.size h.text

lemma take_bytes (limit : ℕ) (stream : ByteStream) :
    ∃ rest, stream.bytes = (stream.take limit).bytes ++ rest := by
  rw [ByteStream.take]
  split_ifs
  · exact ⟨_, (List.take_append_drop limit _).symm⟩
  · exact ⟨[], (List.append_nil _).symm⟩

lemma readUntilNewline_terminated {stream : ByteStream} {line : Bytes}
    (h : readUntilNewline stream = .ok line) (hlast : line.getLast? = some newline) :
    ∃ body rest, newline ∉ body ∧ line = body ++ [newline] ∧ stream.bytes = line ++ rest := by
  obtain ⟨bytes, ending⟩ := stream
  by_cases hmem : newline ∈ bytes
  · obtain ⟨body, rest, rfl, hb⟩ := List.eq_append_cons_of_mem hmem
    rw [readUntilNewline_append hb] at h
    exact ⟨body, rest, hb, (Except.ok.inj h).symm, by rw [← Except.ok.inj h]; simp⟩
  · rw [readUntilNewline, if_neg hmem] at h
    cases ending with
    | closed =>
      rw [← Except.ok.inj h] at hlast
      exact absurd (List.mem_of_getLast? hlast) hmem
    | failed error => cases h

lemma readLine_eq_ok {stream : ByteStream} {line : Bytes} (h : readLine stream = .ok line) :
    readUntilNewline stream = .ok line ∧ isUtf8 line := by
  rw [readLine] at h
  cases hread : readUntilNewline stream with
  | error error =>
    rw [hread] at h
    cases h
  | ok line' =>
    rw [hread] at h
    change (if isUtf8 line' then Except.ok line' else .error _) = _ at h
    split_ifs at h with htext
    obtain rfl := Except.ok.inj h
    exact ⟨rfl, htext⟩

lemma readClientRequest_cases (serde : SerdeJson) (stream : ByteStream) :
    (∃ line, FirstLine stream line ∧ readClientRequest serde stream = admitLine serde line) ∨
      ∃ message, readClientRequest serde stream = .reply (.new (.error (.invalidRequest message))) := by
  cases hread : readLine (stream.take (maxRequestBytes + 1)) with
  | error error =>
    rw [readClientRequest, hread]
    exact .inr ⟨_, rfl⟩
  | ok line =>
    by_cases hshape : line.length = 0 ∨ line.length > maxRequestBytes ∨
        line.getLast? ≠ some newline
    · rw [readClientRequest, hread]
      exact .inr ⟨_, if_pos hshape⟩
    · simp only [not_or, not_not, Nat.not_lt, gt_iff_lt] at hshape
      obtain ⟨hread, htext⟩ := readLine_eq_ok hread
      obtain ⟨body, rest, hb, he, hbytes⟩ := readUntilNewline_terminated hread hshape.2.2
      obtain ⟨rest', hstream⟩ := take_bytes (maxRequestBytes + 1) stream
      have hline : FirstLine stream line := by
        refine ⟨⟨body, rest ++ rest', hb, he, ?_⟩, hshape.2.1, htext⟩
        rw [hstream, hbytes, List.append_assoc]
      exact .inl ⟨line, hline, hline.admission serde⟩

lemma readClientRequest_eq_forward {serde : SerdeJson} {stream : ByteStream} {version : UInt32}
    {request : Request} :
    readClientRequest serde stream = .forward version request ↔
      ∃ line, FirstLine stream line ∧
        (serde.parse line).bind ClientRequest.ofJson = some ⟨version, request⟩ ∧
          ClientRequest.Allowed ⟨version, request⟩ := by
  constructor
  · intro h
    rcases readClientRequest_cases serde stream with ⟨line, hline, hr⟩ | ⟨message, hr⟩
    · exact ⟨line, hline, admitLine_eq_forward.mp (hr.symm.trans h)⟩
    · cases hr.symm.trans h
  · rintro ⟨line, hline, h⟩
    exact (hline.admission serde).trans (admitLine_eq_forward.mpr h)

lemma readLine_take {body : Bytes} (hb : newline ∉ body) (limit : ℕ) : ∃ outcome,
    ∀ rest ending, readLine (.take limit ⟨body ++ newline :: rest, ending⟩) = outcome := by
  by_cases hlimit : (body ++ [newline]).length ≤ limit
  · refine ⟨readLine ⟨body ++ [newline], .closed⟩, fun rest ending => ?_⟩
    obtain ⟨rest', ending', htake⟩ := take_append hlimit rest ending
    rw [List.append_assoc, List.singleton_append] at htake
    rw [htake, List.append_assoc, List.singleton_append, readLine, readLine,
      readUntilNewline_append hb, readUntilNewline_append hb]
  · refine ⟨readLine ⟨body.take limit, .closed⟩, fun rest ending => ?_⟩
    rw [List.length_append, List.length_singleton] at hlimit
    have hle : limit ≤ (body ++ newline :: rest).length := by
      simp only [List.length_append, List.length_cons]
      omega
    rw [ByteStream.take, if_pos hle, List.take_append_of_le_length (by omega)]

lemma readClientRequest_after_newline (serde : SerdeJson) {body : Bytes} (hb : newline ∉ body)
    (rest rest' : Bytes) (ending ending' : StreamEnd) :
    readClientRequest serde ⟨body ++ newline :: rest, ending⟩ =
      readClientRequest serde ⟨body ++ newline :: rest', ending'⟩ := by
  obtain ⟨outcome, h⟩ := readLine_take hb (maxRequestBytes + 1)
  rw [readClientRequest, readClientRequest, h rest ending, h rest' ending']

def ProtocolError.Refuses (error : ProtocolError) : Prop :=
  error.code = .incompatibleVersion ∧ error.supportedVersions = [1, 2] ∨
    error.code = .invalidRequest ∧ error.supportedVersions = []

lemma refuses_of_validate {request : ClientRequest} {error : ProtocolError}
    (h : request.validate = .error error) : error.Refuses := by
  rw [ClientRequest.validate] at h
  split_ifs at h
  · obtain ⟨message, rfl⟩ := error_of_validateForVersion h
    exact .inr ⟨rfl, rfl⟩
  · obtain rfl := Except.error.inj h
    exact .inl ⟨rfl, rfl⟩

lemma refuses_of_admitLine {serde : SerdeJson} {line : Bytes} {message : ServerMessage}
    (h : admitLine serde line = .reply message) :
    ∃ error, message.message = .error error ∧ error.Refuses := by
  rw [admitLine] at h
  cases hd : (serde.parse line).bind ClientRequest.ofJson with
  | none =>
    rw [hd] at h
    dsimp only at h
    split at h
    · split_ifs at h <;> obtain rfl := Admission.reply.inj h
      · exact ⟨_, rfl, .inr ⟨rfl, rfl⟩⟩
      · exact ⟨_, rfl, .inl ⟨rfl, rfl⟩⟩
    · obtain rfl := Admission.reply.inj h
      exact ⟨_, rfl, .inr ⟨rfl, rfl⟩⟩
  | some request =>
    rw [hd] at h
    dsimp only at h
    cases hv : request.validate with
    | ok _ =>
      rw [hv] at h
      cases h
    | error error =>
      rw [hv] at h
      obtain rfl := Admission.reply.inj h
      exact ⟨error, rfl, refuses_of_validate hv⟩

lemma readClientRequest_settles (serde : SerdeJson) (stream : ByteStream) :
    (∃ version request, readClientRequest serde stream = .forward version request) ∨
      ∃ version error, readClientRequest serde stream = .reply ⟨version, .error error⟩ ∧
        error.Refuses := by
  cases h : readClientRequest serde stream with
  | forward version request => exact .inl ⟨version, request, rfl⟩
  | reply message =>
    right
    rcases readClientRequest_cases serde stream with ⟨line, -, hr⟩ | ⟨reason, hr⟩
    · obtain ⟨error, he, hrefuses⟩ := refuses_of_admitLine (hr.symm.trans h)
      exact ⟨message.version, error, by rw [← he], hrefuses⟩
    · obtain rfl := Admission.reply.inj (hr.symm.trans h)
      exact ⟨_, _, rfl, .inr ⟨rfl, rfl⟩⟩

section Json

variable {members : List (String × Json)}

def RequestObject (members : List (String × Json)) : Json → Prop
  | .object envelope => ("request", .object members) ∈ envelope
  | .array items => items[1]? = some (.object members)
  | _ => False

lemma request_of_envelope {json : Json} (h : RequestObject members json)
    {decoded : ClientRequest} (hd : ClientRequest.ofJson json = some decoded) :
    Request.ofJson (.object members) = some decoded.request := by
  simp only [ClientRequest.ofJson, bind, Option.bind_eq_some_iff, pure, Option.some.injEq] at hd
  obtain ⟨slot, hs, version, -, request, hr, rfl⟩ := hd
  have hslot : slot "request" = .present (.object members) := by
    cases json with
    | object envelope => exact slot_of_fields hs (by simp) h
    | array items =>
      rw [fields] at hs
      split_ifs at hs
      rw [← Option.some.inj hs]
      change items[1]?.elim Slot.short Slot.present = _
      rw [show items[1]? = some (.object members) from h]
      rfl
    | _ => exact h.elim
  rw [hslot] at hr
  exact hr

lemma transition_of_object {name : String} {request : Request}
    (hr : Request.ofJson (.object members) = some request)
    (hn : name = "minimize" ∨ name = "restore") (ht : ("type", .string name) ∈ members)
    {value : Json} (hv : ("transition", value) ∈ members) :
    request.transition.isSome ∧ ∃ transition, WindowTransition.ofJson value = some transition := by
  have hcontent : ("transition", value) ∈ members.filter (·.1 != "type") :=
    List.mem_filter.mpr ⟨hv, by simp⟩
  simp only [Request.ofJson, bind, Option.bind_eq_some_iff] at hr
  obtain ⟨⟨tag, content⟩, htag, hr⟩ := hr
  obtain ⟨hvariant, rfl⟩ := tagged_object htag ht
  have hpresent {slot : String → Slot}
      (hs : fields ["window_id", "transition"] true
        (.object (members.filter (·.1 != "type"))) = some slot)
      {transition : Option WindowTransition}
      (hp : presentTransition (slot "transition") = some transition) :
      transition.isSome ∧ ∃ transition, WindowTransition.ofJson value = some transition := by
    rw [slot_of_fields hs (by simp) hcontent, presentTransition, Slot.defaulted] at hp
    obtain ⟨decoded, hd, rfl⟩ := Option.map_eq_some_iff.mp hp
    exact ⟨rfl, decoded, hd⟩
  rcases hn with rfl | rfl
  · obtain rfl : "minimize" = tag := by simpa [variant] using hvariant
    simp only [Option.bind_eq_some_iff, pure, Option.some.injEq] at hr
    obtain ⟨slot, hs, windowId, -, transition, hp, rfl⟩ := hr
    exact hpresent hs hp
  · obtain rfl : "restore" = tag := by simpa [variant] using hvariant
    simp only [Option.bind_eq_some_iff, pure, Option.some.injEq] at hr
    obtain ⟨slot, hs, windowId, -, transition, hp, rfl⟩ := hr
    exact hpresent hs hp

lemma versionProbe_of_object (hkeys : (members.map Prod.fst).Nodup) {version : UInt32}
    (hv : ("version", .unsigned version.toUInt64) ∈ members) :
    versionProbe (.object members) = some version := by
  have hcount := countP_key_le_one hkeys "version"
  have hfields : fields ["version"] false (.object members) =
      some fun name => (members.lookup name).elim .absent .present := by
    rw [fields, if_neg (by simpa using hcount)]
    rfl
  simp only [versionProbe, hfields, bind, Option.bind_some, lookup_of_mem hcount hv,
    Option.elim_some, Slot.required]
  exact asU32_unsigned version

lemma admitLine_incompatible {serde : SerdeJson} {line : Bytes}
    (hp : serde.parse line = some (.object members)) (hkeys : (members.map Prod.fst).Nodup)
    {version : UInt32} (hv : ("version", .unsigned version.toUInt64) ∈ members)
    (hn : version ∉ supportedProtocolVersions) :
    admitLine serde line = .reply (.new (.error (.incompatible version))) := by
  have hcount := countP_key_le_one hkeys "version"
  rw [admitLine, hp, Option.bind_some, Option.bind_some]
  cases hd : ClientRequest.ofJson (.object members) with
  | none =>
    simp only [versionProbe_of_object hkeys hv]
    exact if_pos hn
  | some request =>
    obtain rfl := version_of_ofJson (lookup_of_mem hcount hv) hd
    have hval : request.validate = .error (.incompatible request.version) := if_pos hn
    simp only [hval]
    rfl

end Json

lemma admitLine_refused {serde : SerdeJson} {line : Bytes} {request : ClientRequest}
    (hd : (serde.parse line).bind ClientRequest.ofJson = some request)
    (hv : request.version ∈ supportedProtocolVersions) (hn : ¬ request.Allowed) :
    ∃ message, admitLine serde line =
      .reply ⟨request.version, .error (.invalidRequest message)⟩ := by
  rw [admitLine, hd]
  cases hval : request.validate with
  | ok _ => exact absurd (validate_eq_ok.mp hval) hn
  | error error =>
    have hforVersion := hval
    rw [ClientRequest.validate, if_neg (not_not.mpr hv)] at hforVersion
    obtain ⟨message, rfl⟩ := error_of_validateForVersion hforVersion
    simp only [hval]
    exact ⟨message, rfl⟩

/-- The reader settles every connection at its first newline: it forwards exactly the requests
that are allowed, and answers everything else with one error. -/
theorem admission_exact (serde : SerdeJson) (stream : ByteStream) :
    ((∃ version request, readClientRequest serde stream = .forward version request) ∨
      ∃ version error, readClientRequest serde stream = .reply ⟨version, .error error⟩ ∧
        error.Refuses) ∧
    (∀ (version : UInt32) (request : Request),
      readClientRequest serde stream = .forward version request ↔
      ∃ line, FirstLine stream line ∧
        (serde.parse line).bind ClientRequest.ofJson = some ⟨version, request⟩ ∧
          ClientRequest.Allowed ⟨version, request⟩) ∧
    (∀ body rest rest' ending, newline ∉ body → stream.bytes = body ++ newline :: rest →
      readClientRequest serde ⟨body ++ newline :: rest', ending⟩ =
        readClientRequest serde stream) ∧
    ∀ line json, FirstLine stream line → serde.parse line = some json →
      (∀ (members : List (String × Json)) (name : String) (value : Json),
        RequestObject members json →
        name = "minimize" ∨ name = "restore" → ("type", .string name) ∈ members →
        ("transition", value) ∈ members →
        (∀ request, readClientRequest serde stream ≠ .forward 1 request) ∧
          (value = .null → ∀ version request,
            readClientRequest serde stream ≠ .forward version request)) ∧
      (∀ request, ClientRequest.ofJson json = some request →
        request.version = 1 ∨ request.version = 2 → ¬ request.Allowed →
        ∃ message, readClientRequest serde stream =
          .reply ⟨request.version, .error (.invalidRequest message)⟩) ∧
      ∀ (members : List (String × Json)) (version : UInt32), json = .object members →
        (members.map Prod.fst).Nodup →
        ("version", .unsigned version.toUInt64) ∈ members → version ≠ 1 ∧ version ≠ 2 →
        ∃ error, readClientRequest serde stream = .reply ⟨1, .error error⟩ ∧
          error.code = .incompatibleVersion ∧ error.supportedVersions = [1, 2] := by
  refine ⟨readClientRequest_settles serde stream, fun _ _ => readClientRequest_eq_forward, ?_, ?_⟩
  · obtain ⟨bytes, ending⟩ := stream
    rintro body rest rest' ending' hb rfl
    exact readClientRequest_after_newline serde hb rest' rest ending' ending
  · intro line json hline hp
    refine ⟨?_, ?_, ?_⟩
    · intro members name value hobject hn ht hv
      have hforward {version : UInt32} {request : Request}
          (h : readClientRequest serde stream = .forward version request) :
          request.transition.isSome ∧ ClientRequest.Allowed ⟨version, request⟩ ∧
            ∃ transition, WindowTransition.ofJson value = some transition := by
        rw [hline.admission] at h
        obtain ⟨hd, hallowed⟩ := admitLine_eq_forward.mp h
        rw [hp, Option.bind_some] at hd
        obtain ⟨htr, hval⟩ := transition_of_object (request_of_envelope hobject hd) hn ht hv
        exact ⟨htr, hallowed, hval⟩
      constructor
      · intro request h
        obtain ⟨htr, ⟨-, hnone | ⟨h2, -⟩⟩, -⟩ := hforward h
        · simp [show request.transition = none from hnone] at htr
        · exact absurd h2 (show (1 : UInt32) ≠ 2 by decide)
      · rintro rfl version request h
        obtain ⟨-, -, transition, hd⟩ := hforward h
        cases hd
    · intro request hd hv hn
      rw [hline.admission]
      exact admitLine_refused (by rw [hp, Option.bind_some, hd]) (mem_supported.mpr hv) hn
    · rintro members version rfl hkeys hv hn
      rw [hline.admission, admitLine_incompatible hp hkeys hv fun hs => ?_]
      · exact ⟨_, rfl, rfl, rfl⟩
      · rcases mem_supported.mp hs with h | h
        · exact hn.1 h
        · exact hn.2 h

section FutureVersion

def futureLine : Bytes := text "\x7b\"version\":3,\"request\":\x7b\"type\":\"tile\"\x7d\x7d\n"

def futureMembers : List (String × Json) :=
  [("version", .unsigned 3), ("request", .object [("type", .string "tile")])]

def futureSerde : SerdeJson := serdeOn futureLine (.object futureMembers) unavailableReply [] ""

theorem admission_exact_future_version :
    ∃ error, readClientRequest futureSerde ⟨futureLine, .closed⟩ = .reply ⟨1, .error error⟩ ∧
      error.code = .incompatibleVersion ∧ error.supportedVersions = [1, 2] := by
  have hline : FirstLine ⟨futureLine, .closed⟩ futureLine :=
    ⟨⟨futureLine.dropLast, [], by decide +kernel, by decide +kernel, by decide +kernel⟩,
      by decide +kernel, by decide +kernel⟩
  obtain ⟨-, -, -, h⟩ := admission_exact futureSerde ⟨futureLine, .closed⟩
  exact (h futureLine _ hline (serdeOn_parse ..)).2.2 futureMembers 3 rfl (by decide)
    (.head _) (by decide)

end FutureVersion

end Melibea
