import Simble.Lib.BigEndian
import Simble.Octets
import Simble.Text

/-! The data elements of SDP (`classic/sdp.rs`): a tree of tagged values, its
writer, its length and its parser. -/
namespace Simble.Sdp
open Simble.Lib

def maxDataElementNesting : Nat := 32

inductive SdpUuid where
  | uuid16 (value : UInt16)
  | uuid32 (value : UInt32)
  /-- Kept in the opposite order to the wire. -/
  | uuid128 (bytes : Octets 16)
deriving DecidableEq

namespace SdpUuid

def wireLen : SdpUuid → Nat
  | .uuid16 _ => 2
  | .uuid32 _ => 4
  | .uuid128 _ => 16

def toWireBytes : SdpUuid → Bytes
  | .uuid16 value => toBe 2 value.toNat
  | .uuid32 value => toBe 4 value.toNat
  | .uuid128 bytes => bytes.rev.toList

def fromWireBytes (bytes : Bytes) : Option SdpUuid :=
  if bytes.length = 2 then some (.uuid16 (UInt16.ofNat (ofBe bytes)))
  else if bytes.length = 4 then some (.uuid32 (UInt32.ofNat (ofBe bytes)))
  else (Octets.tryFrom 16 bytes).map fun octets => .uuid128 octets.rev

end SdpUuid

inductive DataElement where
  | nil
  | unsignedInteger (value : UInt64) (size : UInt8)
  | signedInteger (value : Int64) (size : UInt8)
  | uuid (value : SdpUuid)
  | textString (bytes : Bytes)
  | boolean (value : Bool)
  | sequence (items : List DataElement)
  | alternative (items : List DataElement)
  | url (value : String)

def sizeIndexFixed (size : Nat) : UInt8 :=
  if size = 2 then 1 else if size = 4 then 2 else if size = 8 then 3 else if size = 16 then 4 else 0

def variableHeaderLen (size : Nat) : Nat := if size ≤ 0xFF then 2 else if size ≤ 0xFFFF then 3 else 5

def writeVariableHeader (typeCode : UInt8) (size : Nat) : Bytes :=
  if size ≤ 0xFF then [(typeCode <<< 3) ||| 5, UInt8.ofNat size]
  else if size ≤ 0xFFFF then ((typeCode <<< 3) ||| 6) :: toBe 2 size
  else ((typeCode <<< 3) ||| 7) :: toBe 4 size

def writeVariable (typeCode : UInt8) (data : Bytes) : Bytes :=
  writeVariableHeader typeCode data.length ++ data

/-- `&v.to_be_bytes()[8 - size..]`, which panics for a size above eight. -/
def lastBytes (value : Nat) (size : UInt8) : Rust Bytes :=
  if size ≤ 8 then .ok ((toBe 8 value).drop (8 - size.toNat)) else .error .panic

namespace DataElement

mutual

def encodedLen : DataElement → Nat
  | nil => 1
  | unsignedInteger _ size => 1 + size.toNat
  | signedInteger _ size => 1 + size.toNat
  | .uuid value => 1 + value.wireLen
  | boolean _ => 2
  | textString bytes => variableHeaderLen bytes.length + bytes.length
  | url value => variableHeaderLen (utf8 value).length + (utf8 value).length
  | sequence items => variableHeaderLen (bodyLen items) + bodyLen items
  | alternative items => variableHeaderLen (bodyLen items) + bodyLen items

def bodyLen : List DataElement → Nat
  | [] => 0
  | item :: rest => encodedLen item + bodyLen rest

end

def writeInteger (typeCode : UInt8) (value : Nat) (size : UInt8) : Rust Bytes := do
  let octets ← lastBytes value size
  return ((typeCode <<< 3) ||| sizeIndexFixed size.toNat) :: octets

mutual

/-- `write_to`, as what it appends. -/
def toBytes : DataElement → Rust Bytes
  | nil => .ok [0]
  | unsignedInteger value size => writeInteger 1 value.toNat size
  | signedInteger value size => writeInteger 2 value.toUInt64.toNat size
  | .uuid value => .ok ((((3 : UInt8) <<< 3) ||| sizeIndexFixed value.wireLen) :: value.toWireBytes)
  | boolean value => .ok [(5 : UInt8) <<< 3, bit value]
  | textString bytes => .ok (writeVariable 4 bytes)
  | url value => .ok (writeVariable 8 (utf8 value))
  | sequence items => do
    let body ← writeItems items
    return writeVariableHeader 6 (bodyLen items) ++ body
  | alternative items => do
    let body ← writeItems items
    return writeVariableHeader 7 (bodyLen items) ++ body

def writeItems : List DataElement → Rust Bytes
  | [] => .ok []
  | item :: rest => do
    let first ← toBytes item
    let others ← writeItems rest
    return first ++ others

end

end DataElement

/-! ## Parsing -/

/-- The type code of the element at an offset, where its value starts, and how
long it is. -/
def readHeader (data : Bytes) (offset : Nat) : Option (UInt8 × Nat × Nat) := do
  let byte0 ← data[offset]?
  let typeCode := byte0 >>> 3
  let sizeIndex := byte0 &&& 0x07
  let pos := offset + 1
  if sizeIndex = 0 then some (typeCode, pos, if typeCode ≠ 0 then 1 else 0)
  else if sizeIndex = 1 then some (typeCode, pos, 2)
  else if sizeIndex = 2 then some (typeCode, pos, 4)
  else if sizeIndex = 3 then some (typeCode, pos, 8)
  else if sizeIndex = 4 then some (typeCode, pos, 16)
  else if sizeIndex = 5 then
    let length ← data[pos]?
    some (typeCode, pos + 1, length.toNat)
  else if sizeIndex = 6 then
    let length ← getRange data pos (pos + 2)
    some (typeCode, pos + 2, ofBe length)
  else
    let length ← getRange data pos (pos + 4)
    some (typeCode, pos + 4, ofBe length)

def decodeUintBe (bytes : Bytes) : UInt64 :=
  UInt64.ofNat (ofBe (List.replicate (8 - bytes.length) 0 ++ bytes))

def decodeIntBe (bytes : Bytes) : Int64 :=
  let fill := if bytes.headD 0 &&& 0x80 ≠ 0 then 0xFF else 0
  (UInt64.ofNat (ofBe (List.replicate (8 - bytes.length) fill ++ bytes))).toInt64

def isIntegerLen (length : Nat) : Bool := length = 1 || length = 2 || length = 4 || length = 8

/-- The loop over the items of a sequence. A turn that did not get on would not
end; none does (`parseElement_advances`). -/
def parseItems (parse : Nat → Option (DataElement × Nat)) (stop cursor : Nat) :
    Option (List DataElement × Nat) :=
  if cursor < stop then
    match parse cursor with
    | none => none
    | some (item, next) =>
      if cursor < next then (parseItems parse stop next).map fun rest => (item :: rest.1, rest.2)
      else none
  else some ([], cursor)
termination_by stop - cursor

/-- The value of an element that contains no others. -/
def parseValue (typeCode : UInt8) (bytes : Bytes) : Option DataElement :=
  if typeCode = 0 then some .nil
  else if typeCode = 1 then
    if isIntegerLen bytes.length then
      some (.unsignedInteger (decodeUintBe bytes) (UInt8.ofNat bytes.length))
    else none
  else if typeCode = 2 then
    if isIntegerLen bytes.length then
      some (.signedInteger (decodeIntBe bytes) (UInt8.ofNat bytes.length))
    else none
  else if typeCode = 3 then (SdpUuid.fromWireBytes bytes).map .uuid
  else if typeCode = 4 then some (.textString bytes)
  else if typeCode = 5 then
    match bytes with
    | [value] => some (.boolean (value ≠ 0))
    | _ => none
  else if typeCode = 8 then (fromUtf8 bytes).map .url
  else none

/-- `parse_element` with the levels of nesting that are left, `MAX - depth`. -/
def parseElement (data : Bytes) (levels offset : Nat) : Option (DataElement × Nat) := do
  let (typeCode, start, length) ← readHeader data offset
  let bytes ← getRange data start (start + length)
  if typeCode = 6 ∨ typeCode = 7 then
    match levels with
    | 0 => none
    | levels + 1 =>
      let (items, reached) ← parseItems (parseElement data levels) (start + length) start
      if reached ≠ start + length then none
      else some (if typeCode = 6 then .sequence items else .alternative items, start + length)
  else
    let element ← parseValue typeCode bytes
    some (element, start + length)

namespace DataElement

def parse (data : Bytes) : Option (DataElement × Nat) := parseElement data maxDataElementNesting 0

def fromBytes (data : Bytes) : Option DataElement := (parse data).map Prod.fst

end DataElement

end Simble.Sdp
