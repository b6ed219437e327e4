import Simble.Gatt.Database

/-! The PDUs of `packets/att.rs`: the parser, the headers of the responses, and
the walk of an Attribute Data List. -/
namespace Simble.Att
open List

inductive Opcode where
  | errorRsp
  | exchangeMtuReq
  | exchangeMtuRsp
  | findInformationReq
  | findInformationRsp
  | findByTypeValueReq
  | findByTypeValueRsp
  | readByTypeReq
  | readByTypeRsp
  | readReq
  | readRsp
  | readBlobReq
  | readBlobRsp
  | readMultipleReq
  | readMultipleRsp
  | readByGroupTypeReq
  | readByGroupTypeRsp
  | writeReq
  | writeRsp
  | writeCmd
  | prepareWriteReq
  | prepareWriteRsp
  | executeWriteReq
  | executeWriteRsp
  | handleValueNtf
  | handleValueInd
  | handleValueCfm
deriving DecidableEq, Repr

namespace Opcode

def byte : Opcode → UInt8
  | errorRsp => 0x01
  | exchangeMtuReq => 0x02
  | exchangeMtuRsp => 0x03
  | findInformationReq => 0x04
  | findInformationRsp => 0x05
  | findByTypeValueReq => 0x06
  | findByTypeValueRsp => 0x07
  | readByTypeReq => 0x08
  | readByTypeRsp => 0x09
  | readReq => 0x0A
  | readRsp => 0x0B
  | readBlobReq => 0x0C
  | readBlobRsp => 0x0D
  | readMultipleReq => 0x0E
  | readMultipleRsp => 0x0F
  | readByGroupTypeReq => 0x10
  | readByGroupTypeRsp => 0x11
  | writeReq => 0x12
  | writeRsp => 0x13
  | writeCmd => 0x52
  | prepareWriteReq => 0x16
  | prepareWriteRsp => 0x17
  | executeWriteReq => 0x18
  | executeWriteRsp => 0x19
  | handleValueNtf => 0x1B
  | handleValueInd => 0x1D
  | handleValueCfm => 0x1E

def ofByte : UInt8 → Option Opcode
  | 0x01 => some errorRsp
  | 0x02 => some exchangeMtuReq
  | 0x03 => some exchangeMtuRsp
  | 0x04 => some findInformationReq
  | 0x05 => some findInformationRsp
  | 0x06 => some findByTypeValueReq
  | 0x07 => some findByTypeValueRsp
  | 0x08 => some readByTypeReq
  | 0x09 => some readByTypeRsp
  | 0x0A => some readReq
  | 0x0B => some readRsp
  | 0x0C => some readBlobReq
  | 0x0D => some readBlobRsp
  | 0x0E => some readMultipleReq
  | 0x0F => some readMultipleRsp
  | 0x10 => some readByGroupTypeReq
  | 0x11 => some readByGroupTypeRsp
  | 0x12 => some writeReq
  | 0x13 => some writeRsp
  | 0x52 => some writeCmd
  | 0x16 => some prepareWriteReq
  | 0x17 => some prepareWriteRsp
  | 0x18 => some executeWriteReq
  | 0x19 => some executeWriteRsp
  | 0x1B => some handleValueNtf
  | 0x1D => some handleValueInd
  | 0x1E => some handleValueCfm
  | _ => none

@[simp] theorem ofByte_byte (opcode : Opcode) : ofByte opcode.byte = some opcode := by
  cases opcode <;> rfl

end Opcode

inductive AttPdu where
  | errorRsp (requestOpcode : UInt8) (handle : UInt16) (code : UInt8)
  | exchangeMtuReq (clientRxMtu : UInt16)
  | exchangeMtuRsp (serverRxMtu : UInt16)
  | findInformationReq (startHandle endHandle : UInt16)
  | findInformationRsp (format : UInt8) (informationData : Bytes)
  | findByTypeValueReq (startHandle endHandle attributeType : UInt16) (attributeValue : Bytes)
  | findByTypeValueRsp (handlesInformation : Bytes)
  | readByTypeReq (startHandle endHandle : UInt16) (uuidBytes : Bytes)
  | readByTypeRsp (length : UInt8) (attributeDataList : Bytes)
  | readReq (handle : UInt16)
  | readRsp (value : Bytes)
  | readBlobReq (handle offset : UInt16)
  | readBlobRsp (value : Bytes)
  | readMultipleReq (handles : Bytes)
  | readMultipleRsp (values : Bytes)
  | readByGroupTypeReq (startHandle endHandle : UInt16) (groupTypeBytes : Bytes)
  | readByGroupTypeRsp (length : UInt8) (attributeDataList : Bytes)
  | writeReq (handle : UInt16) (value : Bytes)
  | writeRsp
  | writeCmd (handle : UInt16) (value : Bytes)
  | prepareWriteReq (handle offset : UInt16) (partValue : Bytes)
  | prepareWriteRsp (handle offset : UInt16) (partValue : Bytes)
  | executeWriteReq (flags : UInt8)
  | executeWriteRsp
  | handleValueNotify (handle : UInt16) (value : Bytes)
  | handleValueInd (handle : UInt16) (value : Bytes)
  | handleValueCfm
  | unknown (opcode : UInt8) (payload : Bytes)
deriving DecidableEq

def takeU8 : Bytes → Option (UInt8 × Bytes)
  | octet :: rest => some (octet, rest)
  | [] => none

/-- The little-endian field at the front of a PDU's header. -/
def takeU16 : Bytes → Option (UInt16 × Bytes)
  | low :: high :: rest => some (U16.fromLeBytes low high, rest)
  | _ => none

@[simp] theorem takeU16_toLeBytes (value : UInt16) (rest : Bytes) :
    takeU16 (U16.toLeBytes value ++ rest) = some (value, rest) :=
  congrArg (fun value => some (value, rest)) (U16.fromLeBytes_toLeBytes value)

namespace AttPdu

def parseFields (rest : Bytes) : Opcode → Option AttPdu
  | .errorRsp => do
    let (requestOpcode, rest) ← takeU8 rest
    let (handle, rest) ← takeU16 rest
    let (code, _) ← takeU8 rest
    pure (.errorRsp requestOpcode handle code)
  | .exchangeMtuReq => do
    let (mtu, _) ← takeU16 rest
    pure (.exchangeMtuReq mtu)
  | .exchangeMtuRsp => do
    let (mtu, _) ← takeU16 rest
    pure (.exchangeMtuRsp mtu)
  | .findInformationReq => do
    let (startHandle, rest) ← takeU16 rest
    let (endHandle, _) ← takeU16 rest
    pure (.findInformationReq startHandle endHandle)
  | .findInformationRsp => do
    let (format, data) ← takeU8 rest
    pure (.findInformationRsp format data)
  | .findByTypeValueReq => do
    let (startHandle, rest) ← takeU16 rest
    let (endHandle, rest) ← takeU16 rest
    let (attributeType, value) ← takeU16 rest
    pure (.findByTypeValueReq startHandle endHandle attributeType value)
  | .findByTypeValueRsp => some (.findByTypeValueRsp rest)
  | .readByTypeReq => do
    let (startHandle, rest) ← takeU16 rest
    let (endHandle, uuid) ← takeU16 rest
    pure (.readByTypeReq startHandle endHandle uuid)
  | .readByTypeRsp => do
    let (length, list) ← takeU8 rest
    pure (.readByTypeRsp length list)
  | .readReq => do
    let (handle, _) ← takeU16 rest
    pure (.readReq handle)
  | .readRsp => some (.readRsp rest)
  | .readBlobReq => do
    let (handle, rest) ← takeU16 rest
    let (offset, _) ← takeU16 rest
    pure (.readBlobReq handle offset)
  | .readBlobRsp => some (.readBlobRsp rest)
  | .readMultipleReq => some (.readMultipleReq rest)
  | .readMultipleRsp => some (.readMultipleRsp rest)
  | .readByGroupTypeReq => do
    let (startHandle, rest) ← takeU16 rest
    let (endHandle, groupType) ← takeU16 rest
    pure (.readByGroupTypeReq startHandle endHandle groupType)
  | .readByGroupTypeRsp => do
    let (length, list) ← takeU8 rest
    pure (.readByGroupTypeRsp length list)
  | .writeReq => do
    let (handle, value) ← takeU16 rest
    pure (.writeReq handle value)
  | .writeRsp => some .writeRsp
  | .writeCmd => do
    let (handle, value) ← takeU16 rest
    pure (.writeCmd handle value)
  | .prepareWriteReq => do
    let (handle, rest) ← takeU16 rest
    let (offset, part) ← takeU16 rest
    pure (.prepareWriteReq handle offset part)
  | .prepareWriteRsp => do
    let (handle, rest) ← takeU16 rest
    let (offset, part) ← takeU16 rest
    pure (.prepareWriteRsp handle offset part)
  | .executeWriteReq => do
    let (flags, _) ← takeU8 rest
    pure (.executeWriteReq flags)
  | .executeWriteRsp => some .executeWriteRsp
  | .handleValueNtf => do
    let (handle, value) ← takeU16 rest
    pure (.handleValueNotify handle value)
  | .handleValueInd => do
    let (handle, value) ← takeU16 rest
    pure (.handleValueInd handle value)
  | .handleValueCfm => some .handleValueCfm

def parse : Bytes → Option AttPdu
  | [] => none
  | op :: rest =>
    match Opcode.ofByte op with
    | some opcode => parseFields rest opcode
    | none => some (.unknown op rest)

theorem parse_opcode (opcode : Opcode) (rest : Bytes) :
    parse (opcode.byte :: rest) = parseFields rest opcode := by
  simp only [parse, Opcode.ofByte_byte]

end AttPdu

section Responses

/-- `AttErrorRsp::new`. -/
def errorRsp (requestOpcode : UInt8) (handle : UInt16) (code : UInt8) : Bytes :=
  Opcode.errorRsp.byte :: requestOpcode :: (U16.toLeBytes handle ++ [code])

def formatUuid16 : UInt8 := 0x01
def formatUuid128 : UInt8 := 0x02

def informationItemLen (format : UInt8) : Option Nat :=
  if format = formatUuid16 then some (2 + 2)
  else if format = formatUuid128 then some (2 + 16)
  else none

/-- `AttDataListIter`: entries of `itemLen` octets, as their prefix of `prefixLen` octets and the
rest. A partial last entry is dropped. -/
def dataList (prefixLen itemLen : Nat) (data : Bytes) : List (Bytes × Bytes) :=
  if itemLen = 0 ∨ data.length < itemLen then []
  else
    ((data.take itemLen).take prefixLen, (data.take itemLen).drop prefixLen) ::
      dataList prefixLen itemLen (data.drop itemLen)
termination_by data.length
decreasing_by
  rw [length_drop]
  omega

/-- The items of a list response. There are none to read if one cannot even
hold its prefix. -/
def items (prefixLen : Nat) (length : UInt8) (data : Bytes) : Option (List (Bytes × Bytes)) :=
  if length.toNat < prefixLen then none else some (dataList prefixLen length.toNat data)

variable {prefixLen itemLen : Nat}

theorem dataList_flatMap {α : Type} (head value : α → Bytes) (list : List α)
    (heads : ∀ entry ∈ list, (head entry).length = prefixLen)
    (lengths : ∀ entry ∈ list, (head entry ++ value entry).length = itemLen) (positive : 0 < itemLen) :
    dataList prefixLen itemLen (list.flatMap fun entry => head entry ++ value entry) =
      list.map fun entry => (head entry, value entry) := by
  induction list with
  | nil =>
    unfold dataList
    simp [positive]
  | cons first rest ih =>
    have length := lengths first mem_cons_self
    have header := heads first mem_cons_self
    unfold dataList
    rw [if_neg (by simp only [flatMap_cons, length_append] at length ⊢; omega)]
    rw [flatMap_cons, take_left' length, drop_left' length,
      take_left' header, drop_left' header, ih, map_cons]
    · exact fun entry listed => heads entry (mem_cons_of_mem _ listed)
    · exact fun entry listed => lengths entry (mem_cons_of_mem _ listed)

end Responses
end Simble.Att
