import Simble.Lib.BigEndian
import Simble.Lib.Utf16
import Simble.Rust

/-! OBEX headers (`obex/header.rs`): an identifier whose top two bits tell how
the value behind it is encoded. -/
namespace Simble.Obex
open Simble.Lib

namespace HeaderId

def count : UInt8 := 0xC0
def name : UInt8 := 0x01
def type : UInt8 := 0x42
def length : UInt8 := 0xC3
def body : UInt8 := 0x48
def endOfBody : UInt8 := 0x49
def target : UInt8 := 0x46
def who : UInt8 := 0x4A
def connectionId : UInt8 := 0xCB
def appParameters : UInt8 := 0x4C
def authChallenge : UInt8 := 0x4D
def authResponse : UInt8 := 0x4E
def singleResponseMode : UInt8 := 0x97
def description : UInt8 := 0x05

end HeaderId

inductive HeaderEncoding where
  | unicode
  | byteSequence
  | byte
  | fourByte
deriving DecidableEq

def HeaderEncoding.of (identifier : UInt8) : HeaderEncoding :=
  let top := identifier &&& 0xC0
  if top = 0x00 then .unicode
  else if top = 0x40 then .byteSequence
  else if top = 0x80 then .byte
  else .fourByte

inductive HeaderValue where
  | text (text : String)
  | bytes (bytes : Bytes)
  | byte (byte : UInt8)
  | fourByte (value : UInt32)
deriving DecidableEq

inductive Header where
  | name (text : String)
  | type (bytes : Bytes)
  | length (value : UInt32)
  | body (bytes : Bytes)
  | endOfBody (bytes : Bytes)
  | target (bytes : Bytes)
  | who (bytes : Bytes)
  | connectionId (value : UInt32)
  | appParameters (bytes : Bytes)
  | authChallenge (bytes : Bytes)
  | authResponse (bytes : Bytes)
  | singleResponseMode (value : UInt8)
  | count (value : UInt32)
  | description (text : String)
  | other (identifier : UInt8) (value : HeaderValue)
deriving DecidableEq

inductive HeaderError where
  | truncated
  | badLength (length : UInt16)
deriving DecidableEq

/-- UTF-16BE with a null behind it; nothing at all for an empty text. -/
def encodeUnicode (text : String) : Bytes :=
  if text = "" then []
  else (Utf16.encode text.toList).flatMap (fun unit => toBe 2 unit.toNat) ++ [0x00, 0x00]

/-- `as_chunks::<2>` and `from_be_bytes`; an odd octet at the end is left out. -/
def beUnits : Bytes → List UInt16
  | high :: low :: rest => UInt16.ofNat (ofBe [high, low]) :: beUnits rest
  | _ => []

def decodeUnicode (bytes : Bytes) : String :=
  String.ofList (Utf16.decodeLossy ((beUnits bytes).takeWhile (· ≠ 0)))

/-- `push_length_prefixed`, whose length is sixteen bits wide. -/
def lengthPrefixed (identifier : UInt8) (value : Bytes) : Bytes :=
  identifier :: toBe 2 (value.length + 3) ++ value

namespace Header

def identifier : Header → UInt8
  | name _ => HeaderId.name
  | type _ => HeaderId.type
  | length _ => HeaderId.length
  | body _ => HeaderId.body
  | endOfBody _ => HeaderId.endOfBody
  | target _ => HeaderId.target
  | who _ => HeaderId.who
  | connectionId _ => HeaderId.connectionId
  | appParameters _ => HeaderId.appParameters
  | authChallenge _ => HeaderId.authChallenge
  | authResponse _ => HeaderId.authResponse
  | singleResponseMode _ => HeaderId.singleResponseMode
  | count _ => HeaderId.count
  | description _ => HeaderId.description
  | other identifier _ => identifier

/-- `encode_into`, as what it appends. -/
def encode (header : Header) : Bytes :=
  match header with
  | name text | description text => lengthPrefixed header.identifier (encodeUnicode text)
  | type bytes | body bytes | endOfBody bytes | target bytes | who bytes | appParameters bytes
  | authChallenge bytes | authResponse bytes => lengthPrefixed header.identifier bytes
  | length value | connectionId value | count value => header.identifier :: toBe 4 value.toNat
  | singleResponseMode value => [header.identifier, value]
  | other identifier (.text text) => lengthPrefixed identifier (encodeUnicode text)
  | other identifier (.bytes bytes) => lengthPrefixed identifier bytes
  | other identifier (.byte byte) => [identifier, byte]
  | other identifier (.fourByte value) => identifier :: toBe 4 value.toNat

def encodedLen (header : Header) : Nat := header.encode.length

def encodeAll (headers : List Header) : Bytes := headers.flatMap encode

def ofByte (identifier : UInt8) (value : UInt8) : Header :=
  if identifier = HeaderId.singleResponseMode then .singleResponseMode value
  else .other identifier (.byte value)

def ofFourByte (identifier : UInt8) (value : UInt32) : Header :=
  if identifier = HeaderId.length then .length value
  else if identifier = HeaderId.connectionId then .connectionId value
  else if identifier = HeaderId.count then .count value
  else .other identifier (.fourByte value)

def ofLengthPrefixed (identifier : UInt8) (value : Bytes) : Header :=
  if identifier = HeaderId.name then .name (decodeUnicode value)
  else if identifier = HeaderId.description then .description (decodeUnicode value)
  else if identifier = HeaderId.type then .type value
  else if identifier = HeaderId.body then .body value
  else if identifier = HeaderId.endOfBody then .endOfBody value
  else if identifier = HeaderId.target then .target value
  else if identifier = HeaderId.who then .who value
  else if identifier = HeaderId.appParameters then .appParameters value
  else if identifier = HeaderId.authChallenge then .authChallenge value
  else if identifier = HeaderId.authResponse then .authResponse value
  else if HeaderEncoding.of identifier = .unicode then .other identifier (.text (decodeUnicode value))
  else .other identifier (.bytes value)

/-- The branch of `parse` for a value behind its length. -/
def parseLengthPrefixed (identifier : UInt8) : Bytes → Except HeaderError (Header × Nat)
  | high :: low :: rest =>
    let total := ofBe [high, low]
    if total < 3 then .error (.badLength (UInt16.ofNat total))
    else if rest.length < total - 3 then .error .truncated
    else .ok (ofLengthPrefixed identifier (rest.take (total - 3)), total)
  | _ => .error .truncated

def parse : Bytes → Except HeaderError (Header × Nat)
  | [] => .error .truncated
  | identifier :: rest =>
    match HeaderEncoding.of identifier with
    | .byte =>
      match rest with
      | [] => .error .truncated
      | value :: _ => .ok (ofByte identifier value, 2)
    | .fourByte =>
      if rest.length < 4 then .error .truncated
      else .ok (ofFourByte identifier (UInt32.ofNat (ofBe (rest.take 4))), 5)
    | .unicode | .byteSequence => parseLengthPrefixed identifier rest

theorem parse_used {bytes : Bytes} {header : Header} {used : Nat}
    (parsed : parse bytes = .ok (header, used)) : 1 < used ∧ used ≤ bytes.length := by
  have prefixed {identifier : UInt8} {rest : Bytes}
      (parsed : parseLengthPrefixed identifier rest = .ok (header, used)) :
      1 < used ∧ used ≤ rest.length + 1 := by
    unfold parseLengthPrefixed at parsed
    split at parsed
    · dsimp only at parsed
      split_ifs at parsed with short long
      cases parsed
      simp only [List.length_cons]
      omega
    · contradiction
  cases bytes with
  | nil => contradiction
  | cons identifier rest =>
    unfold parse at parsed
    rw [List.length_cons]
    dsimp only at parsed
    split at parsed
    · cases rest with
      | nil => contradiction
      | cons value rest =>
        cases parsed
        simp
    · split_ifs at parsed with short
      cases parsed
      omega
    · exact prefixed parsed
    · exact prefixed parsed

def parseAll (bytes : Bytes) : Except HeaderError (List Header) :=
  if bytes = [] then .ok []
  else
    match _parsed : parse bytes with
    | .error error => .error error
    | .ok (header, used) => (parseAll (bytes.drop used)).map (header :: ·)
termination_by bytes.length
decreasing_by
  have used := parse_used _parsed
  rw [List.length_drop]
  omega

theorem parseAll_nil : parseAll [] = .ok [] := by rw [parseAll, if_pos rfl]

theorem parseAll_cons {bytes : Bytes} {header : Header} {used : Nat}
    (parsed : parse bytes = .ok (header, used)) :
    parseAll bytes = (parseAll (bytes.drop used)).map (header :: ·) := by
  have used := parse_used parsed
  rw [parseAll, if_neg (by rintro rfl; simp at used; omega)]
  split
  case h_1 error failed =>
    rw [parsed] at failed
    contradiction
  case h_2 other taken read =>
    rw [parsed] at read
    cases read
    rfl

end Header

end Simble.Obex
