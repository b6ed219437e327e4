import Simble.Obex.Header

/-! OBEX packets (`obex/packet.rs`): an opcode or a response code, the length of
the whole packet, the fixed fields of some opcodes, and headers. -/
namespace Simble.Obex
open Simble.Lib

namespace Opcode

def connect : UInt8 := 0x00
def disconnect : UInt8 := 0x01
def put : UInt8 := 0x02
def setPath : UInt8 := 0x05
def abort : UInt8 := 0xFF

end Opcode

def finalBit : UInt8 := 0x80

namespace ResponseCode

def «continue» : UInt8 := 0x90
def success : UInt8 := 0xA0
def badRequest : UInt8 := 0xC0
def notImplemented : UInt8 := 0xD1
def entityTooLarge : UInt8 := 0xCD
def serviceUnavailable : UInt8 := 0xD3

end ResponseCode

structure ConnectFields where
  version : UInt8
  flags : UInt8
  maxPacketLength : UInt16
deriving DecidableEq

structure SetPathFields where
  flags : UInt8
  constants : UInt8
deriving DecidableEq

def ConnectFields.toBytes (fields : ConnectFields) : Bytes :=
  fields.version :: fields.flags :: toBe 2 fields.maxPacketLength.toNat

def SetPathFields.toBytes (fields : SetPathFields) : Bytes := [fields.flags, fields.constants]

/-- `ConnectFields::ref_from_prefix` -/
def ConnectFields.fromPrefix : Bytes → Option (ConnectFields × Bytes)
  | version :: flags :: high :: low :: rest =>
    some (⟨version, flags, UInt16.ofNat (ofBe [high, low])⟩, rest)
  | _ => none

/-- `SetPathFields::ref_from_prefix` -/
def SetPathFields.fromPrefix : Bytes → Option (SetPathFields × Bytes)
  | flags :: constants :: rest => some (⟨flags, constants⟩, rest)
  | _ => none

inductive PacketError where
  | truncated
  | badLength (length : UInt16)
  | header (error : HeaderError)
deriving DecidableEq

structure Request where
  opcode : UInt8
  isFinal : Bool
  connect : Option ConnectFields
  setPath : Option SetPathFields
  headers : List Header
deriving DecidableEq

structure Response where
  /-- With its high bit. -/
  code : UInt8
  isFinal : Bool
  connect : Option ConnectFields
  headers : List Header
deriving DecidableEq

/-- The code without its Final bit, that bit, and what is behind the prefix. -/
def splitPacket : Bytes → Except PacketError (UInt8 × Bool × Bytes)
  | code :: high :: low :: rest =>
    let total := ofBe [high, low]
    if total < 3 then .error (.badLength (UInt16.ofNat total))
    else if rest.length < total - 3 then .error .truncated
    else .ok (code &&& ~~~finalBit, code &&& finalBit ≠ 0, rest.take (total - 3))
  | _ => .error .truncated

/-- A length above sixteen bits loses its high part. -/
def buildPacket (code : UInt8) (fixed : Bytes) (headers : List Header) : Bytes :=
  let body := Header.encodeAll headers
  code :: toBe 2 (3 + fixed.length + body.length) ++ fixed ++ body

def parseHeaders (bytes : Bytes) : Except PacketError (List Header) :=
  (Header.parseAll bytes).mapError .header

namespace Request

def parse (bytes : Bytes) : Except PacketError Request := do
  let (masked, isFinal, body) ← splitPacket bytes
  let opcode := if bytes.head? = some Opcode.abort then Opcode.abort else masked
  if opcode = Opcode.connect then
    match ConnectFields.fromPrefix body with
    | none => throw .truncated
    | some (fields, rest) => return ⟨opcode, isFinal, some fields, none, ← parseHeaders rest⟩
  else if opcode = Opcode.setPath then
    match SetPathFields.fromPrefix body with
    | none => throw .truncated
    | some (fields, rest) => return ⟨opcode, isFinal, none, some fields, ← parseHeaders rest⟩
  else return ⟨opcode, isFinal, none, none, ← parseHeaders body⟩

def toBytes (request : Request) : Bytes :=
  let code := if request.isFinal then request.opcode ||| finalBit else request.opcode
  let connect := (request.connect.map ConnectFields.toBytes).getD []
  let setPath := (request.setPath.map SetPathFields.toBytes).getD []
  buildPacket code (connect ++ setPath) request.headers

def simple (opcode : UInt8) (isFinal : Bool) (headers : List Header) : Request :=
  ⟨opcode, isFinal, none, none, headers⟩

def put (isFinal : Bool) (headers : List Header) : Request := simple Opcode.put isFinal headers

end Request

namespace Response

def parse (bytes : Bytes) (toConnect : Bool) : Except PacketError Response := do
  let (_, isFinal, body) ← splitPacket bytes
  let code := bytes.headD 0
  if toConnect ∧ code = ResponseCode.success then
    match ConnectFields.fromPrefix body with
    | none => throw .truncated
    | some (fields, rest) => return ⟨code, isFinal, some fields, ← parseHeaders rest⟩
  else return ⟨code, isFinal, none, ← parseHeaders body⟩

def toBytes (response : Response) : Bytes :=
  buildPacket response.code ((response.connect.map ConnectFields.toBytes).getD [])
    response.headers

def status (code : UInt8) : Response := ⟨code, code &&& finalBit ≠ 0, none, []⟩

def cont : Response := status ResponseCode.continue

def success (headers : List Header) : Response := ⟨ResponseCode.success, true, none, headers⟩

def connectSuccess (maxPacketLength : UInt16) (headers : List Header) : Response :=
  ⟨ResponseCode.success, true, some ⟨0x10, 0x00, maxPacketLength⟩, headers⟩

end Response

end Simble.Obex
