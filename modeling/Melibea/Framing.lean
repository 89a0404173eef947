import Melibea.Wire

/-! One line of JSON each way. What `serde_json` does with text is a parameter. -/

namespace Melibea

open Library

abbrev Bytes := List UInt8

def newline : UInt8 := 10

def maxRequestBytes : ℕ := 64 * 1024

/-- The text side of `serde_json`: the JSON a line spells, the text written for a value, and what
it says about a line it cannot decode. -/
structure SerdeJson where
  parse : Bytes → Option Json
  print : Json → Bytes
  requestError : Bytes → String
  replyError : Bytes → String

inductive StreamEnd
  | closed
  | failed (error : String)
  deriving DecidableEq

structure ByteStream where
  bytes : Bytes
  ending : StreamEnd
  deriving DecidableEq

def ByteStream.take (limit : ℕ) (stream : ByteStream) : ByteStream :=
  if limit ≤ stream.bytes.length then ⟨stream.bytes.take limit, .closed⟩ else stream

def isUtf8 (bytes : Bytes) : Bool := (ByteArray.mk bytes.toArray).validateUTF8

def readUntilNewline (stream : ByteStream) : Except String Bytes :=
  if newline ∈ stream.bytes then
    .ok (stream.bytes.takeWhile (· ≠ newline) ++ [newline])
  else
    match stream.ending with
    | .closed => .ok stream.bytes
    | .failed error => .error error

def readLine (stream : ByteStream) : Except String Bytes := do
  let line ← readUntilNewline stream
  if isUtf8 line then .ok line else .error "stream did not contain valid UTF-8"

inductive Admission
  | reply (message : ServerMessage)
  | forward (version : UInt32) (request : Request)
  deriving DecidableEq

-- The part of `read_client_request` after the line has been read and measured.
def admitLine (serde : SerdeJson) (line : Bytes) : Admission :=
  match (serde.parse line).bind ClientRequest.ofJson with
  | none =>
    let malformed : ServerMessage := .new (.error (.invalidRequest
      s!"invalid request JSON: {serde.requestError line}"))
    match (serde.parse line).bind versionProbe with
    | some version =>
      if version ∉ supportedProtocolVersions then .reply (.new (.error (.incompatible version)))
      else .reply malformed
    | none => .reply malformed
  | some request =>
    match request.validate with
    | .error error =>
      let responseVersion :=
        if error.code = .incompatibleVersion then protocolVersion else request.version
      .reply (.forVersion responseVersion (.error error))
    | .ok () => .forward request.version request.request

def readClientRequest (serde : SerdeJson) (stream : ByteStream) : Admission :=
  match readLine (stream.take (maxRequestBytes + 1)) with
  | .error error =>
    .reply (.new (.error (.invalidRequest s!"cannot read request: {error}")))
  | .ok line =>
    if line.length = 0 ∨ line.length > maxRequestBytes ∨ line.getLast? ≠ some newline then
      .reply (.new (.error (.invalidRequest
        "request must be one newline-terminated JSON value within 64 KiB")))
    else admitLine serde line

def messageBytes (serde : SerdeJson) (message : ServerMessage) : Bytes :=
  serde.print message.toJson ++ [newline]

inductive ClientError
  | read (error : String)
  | closed
  | invalidReply (error : String)
  | incompatibleServerVersion (version : UInt32)
  deriving DecidableEq

def readServerMessage (serde : SerdeJson) (stream : ByteStream) (expectedVersion : UInt32) :
    Except ClientError ServerMessage :=
  match readLine stream with
  | .error error => .error (.read error)
  | .ok line =>
    if line.length = 0 then .error .closed
    else
      match (serde.parse line).bind ServerMessage.ofJson with
      | none => .error (.invalidReply (serde.replyError line))
      | some message =>
        if message.version ≠ expectedVersion then
          .error (.incompatibleServerVersion message.version)
        else .ok message

end Melibea
