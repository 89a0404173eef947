import Melibea.Admission
import Melibea.Library.Lines

/-! A stream read line by line until it ends, fails, or holds a line that cannot be decoded. -/

namespace Melibea

open Library Lines

def ByteStream.afterLine (self : ByteStream) : ByteStream :=
  { self with bytes := Lines.afterLine newline self.bytes }

inductive Writing
  | done
  | failed (sent : ℕ) (error : String)
  deriving DecidableEq

inductive Stopped (ε : Type)
  | failed (error : String)
  | closed
  | invalid (error : ε)

variable {α ε : Type}

section Decode

variable (decode : Bytes → Except ε α)

def readNext (stream : ByteStream) : Except (Stopped ε) α :=
  match readLine stream with
  | .error error => .error (.failed error)
  | .ok line => if line.length = 0 then .error .closed else (decode line).mapError .invalid

lemma readLine_append {line : Bytes} (hline : newline ∉ line) (hutf8 : isUtf8 (line ++ [newline]))
    (rest : Bytes) (ending : StreamEnd) :
    readLine ⟨line ++ newline :: rest, ending⟩ = .ok (line ++ [newline]) := by
  rw [readLine, readUntilNewline_append hline]
  exact if_pos hutf8

lemma readLine_nil (ending : StreamEnd) :
    readLine ⟨[], ending⟩ = .ok [] ∨ ∃ error, readLine ⟨[], ending⟩ = .error error := by
  cases ending with
  | closed => exact .inl (by decide +kernel)
  | failed error => exact .inr ⟨error, rfl⟩

lemma readNext_nil (ending : StreamEnd) : ∃ stopped, readNext decode ⟨[], ending⟩ = .error stopped := by
  rcases readLine_nil ending with he | ⟨error, he⟩
  · exact ⟨.closed, by rw [readNext, he]; rfl⟩
  · exact ⟨.failed error, by rw [readNext, he]⟩

variable {decode} in
lemma bytes_of_readNext {stream : ByteStream} {a : α} (h : readNext decode stream = .ok a) :
    stream.afterLine.bytes.length < stream.bytes.length := by
  refine length_afterLine_lt fun hnil => ?_
  obtain ⟨bytes, ending⟩ := stream
  obtain rfl : bytes = [] := hnil
  obtain ⟨stopped, hs⟩ := readNext_nil decode ending
  cases h.symm.trans hs

def readAll (stream : ByteStream) : List α × Stopped ε :=
  match _h : readNext decode stream with
  | .ok a =>
    let (as, stopped) := readAll stream.afterLine
    (a :: as, stopped)
  | .error stopped => ([], stopped)
termination_by stream.bytes.length
decreasing_by exact bytes_of_readNext _h

variable {decode}

lemma readAll_of_ok {stream : ByteStream} {a : α} (h : readNext decode stream = .ok a) :
    readAll decode stream =
      (a :: (readAll decode stream.afterLine).1, (readAll decode stream.afterLine).2) := by
  rw [readAll]
  split
  · next he => rw [Except.ok.inj (he.symm.trans h)]
  · next he => cases he.symm.trans h

lemma readAll_of_error {stream : ByteStream} {stopped : Stopped ε}
    (h : readNext decode stream = .error stopped) : readAll decode stream = ([], stopped) := by
  rw [readAll]
  split
  · next he => cases he.symm.trans h
  · next he => rw [Except.error.inj (he.symm.trans h)]

/-- A line that is decoded whole, with or without the newline behind it, and not in part. -/
structure DecodedLine (decode : Bytes → Except ε α) (line : Bytes) (a : α) : Prop where
  oneLine : newline ∉ line
  utf8 : isUtf8 (line ++ [newline])
  decoded : decode (line ++ [newline]) = .ok a
  unterminated : decode line = .ok a
  cut {part : Bytes} : part <+: line → part ≠ line → ∃ error, decode part = .error error

variable {line : Bytes} {a : α}

lemma DecodedLine.readNext (h : DecodedLine decode line a) (rest : Bytes) (ending : StreamEnd) :
    readNext decode ⟨line ++ newline :: rest, ending⟩ = .ok a := by
  have hread := readLine_append h.oneLine h.utf8 rest ending
  have hlength : (line ++ [newline]).length ≠ 0 := by simp
  simp only [Melibea.readNext, hread, if_neg hlength, h.decoded]
  rfl

lemma readAll_lines {lines : List Bytes} {as : List α}
    (h : List.Forall₂ (DecodedLine decode) lines as) (rest : Bytes) (ending : StreamEnd) :
    readAll decode ⟨unlines newline lines ++ rest, ending⟩ =
      (as ++ (readAll decode ⟨rest, ending⟩).1, (readAll decode ⟨rest, ending⟩).2) := by
  induction h with
  | nil => rfl
  | @cons line a lines as hline _ ih =>
    have hbytes : unlines newline (line :: lines) ++ rest =
        line ++ newline :: (unlines newline lines ++ rest) := by simp [unlines]
    rw [hbytes, readAll_of_ok (hline.readNext _ ending), ByteStream.afterLine,
      afterLine_append hline.oneLine, ih]
    rfl

lemma readAll_part {part : Bytes} (h : DecodedLine decode line a) (hp : part <+: line)
    (ending : StreamEnd) :
    (readAll decode ⟨part, ending⟩).1 = [] ∨ (readAll decode ⟨part, ending⟩).1 = [a] := by
  have hpart : newline ∉ part := fun hm => h.oneLine (hp.subset hm)
  cases hnext : readNext decode ⟨part, ending⟩ with
  | error stopped => exact .inl (congrArg Prod.fst (readAll_of_error hnext))
  | ok b =>
    refine .inr ?_
    have hb : b = a := by
      rw [readNext] at hnext
      cases hread : readLine ⟨part, ending⟩ with
      | error error =>
        rw [hread] at hnext
        cases hnext
      | ok line' =>
        obtain ⟨huntil, -⟩ := readLine_eq_ok hread
        rw [readUntilNewline, if_neg hpart] at huntil
        cases ending with
        | failed error => cases huntil
        | closed =>
          obtain rfl := Except.ok.inj huntil
          rw [hread] at hnext
          dsimp only at hnext
          split_ifs at hnext
          by_cases hline : part = line
          · rw [hline, h.unterminated] at hnext
            exact (Except.ok.inj hnext).symm
          · obtain ⟨error, herror⟩ := h.cut hp hline
            rw [herror] at hnext
            cases hnext
    obtain ⟨stopped, hs⟩ := readNext_nil decode ending
    rw [readAll_of_ok hnext, ByteStream.afterLine, afterLine_of_notMem hpart,
      readAll_of_error hs, hb]

lemma prefix_readAll {lines : List Bytes} {as : List α}
    (h : List.Forall₂ (DecodedLine decode) lines as) {bytes : Bytes}
    (hb : bytes <+: unlines newline lines) (ending : StreamEnd) :
    (readAll decode ⟨bytes, ending⟩).1 <+: as := by
  obtain ⟨whole, part, rest, rfl, rfl, hpart⟩ := prefix_unlines hb
  have hfirst := List.forall₂_take whole.length h
  have hlater := List.forall₂_drop whole.length h
  rw [List.take_left] at hfirst
  rw [List.drop_left] at hlater
  have hlines := congrArg Prod.fst (readAll_lines hfirst part ending)
  rcases hpart with rfl | ⟨line, after, rfl, hpart⟩
  · obtain ⟨stopped, hs⟩ := readNext_nil decode ending
    rw [hlines, readAll_of_error hs, List.append_nil]
    exact List.take_prefix _ _
  · generalize hrest : as.drop whole.length = later at hlater
    cases hlater with
    | @cons _ a _ later ha _ =>
      rcases readAll_part ha hpart ending with hend | hend
      · rw [hlines, hend, List.append_nil]
        exact List.take_prefix _ _
      · refine ⟨later, ?_⟩
        rw [hlines, hend, List.append_assoc, List.singleton_append, ← hrest,
          List.take_append_drop]

lemma readLine_split {stream : ByteStream} {line : Bytes} (h : readLine stream = .ok line) :
    stream.bytes = line ++ stream.afterLine.bytes ∧ newline ∉ line.dropLast := by
  obtain ⟨h, -⟩ := readLine_eq_ok h
  obtain ⟨bytes, ending⟩ := stream
  by_cases hmem : newline ∈ bytes
  · obtain ⟨body, rest, rfl, hb⟩ := List.eq_append_cons_of_mem hmem
    rw [readUntilNewline_append hb] at h
    obtain rfl := Except.ok.inj h
    rw [ByteStream.afterLine, afterLine_append hb, List.dropLast_concat, List.append_assoc]
    exact ⟨rfl, hb⟩
  · rw [readUntilNewline, if_neg hmem] at h
    cases ending with
    | closed =>
      obtain rfl := Except.ok.inj h
      rw [ByteStream.afterLine, afterLine_of_notMem hmem, List.append_nil]
      exact ⟨rfl, fun hd => hmem (List.dropLast_subset _ hd)⟩
    | failed error => cases h

end Decode

/-- One line of JSON text that stands for one value. White space after it does not matter to
`serde_json`, and no proper part of it is JSON. -/
structure JsonLine (serde : SerdeJson) (line : Bytes) (json : Json) : Prop where
  oneLine : newline ∉ line
  utf8 : isUtf8 (line ++ [newline])
  parsed : serde.parse (line ++ [newline]) = some json
  trimmed : serde.parse line = some json
  cut {part : Bytes} : part <+: line → part ≠ line → serde.parse part = none

-- A `serde_json` that knows only these lines.
def SerdeJson.ofLines (known : List (Bytes × Json)) (print : Json → Bytes) : SerdeJson where
  parse bytes :=
    known.lookup (if bytes.getLast? = some newline then bytes.dropLast else bytes)
  print := print
  requestError _ := ""
  replyError _ := ""

lemma JsonLine.ofLines {known : List (Bytes × Json)} {line : Bytes} {json : Json}
    (print : Json → Bytes) (hline : newline ∉ line) (hutf8 : isUtf8 (line ++ [newline]))
    (hknown : known.lookup line = some json)
    (hcut : ∀ other ∈ known.map Prod.fst, other <+: line → other = line) :
    JsonLine (.ofLines known print) line json := by
  have hlast : ∀ {part : Bytes}, part <+: line → part.getLast? ≠ some newline :=
    fun hp he => hline (hp.subset (List.mem_of_getLast? he))
  refine ⟨hline, hutf8, ?_, ?_, fun {part} hp hne => ?_⟩
  · rw [SerdeJson.ofLines]
    dsimp only
    rw [if_pos List.getLast?_concat, List.dropLast_concat, hknown]
  · rw [SerdeJson.ofLines]
    dsimp only
    rw [if_neg (hlast (List.prefix_refl _)), hknown]
  · rw [SerdeJson.ofLines]
    dsimp only
    rw [if_neg (hlast hp), List.lookup_eq_none_iff]
    intro entry hentry
    have hother : part ≠ entry.1 := by
      rintro rfl
      exact hne (hcut _ (List.mem_map_of_mem hentry) hp)
    simpa using hother

end Melibea
