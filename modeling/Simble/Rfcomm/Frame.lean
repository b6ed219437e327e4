import Simble.Rust
import Mathlib.Data.FinEnum
import Mathlib.Tactic.IntervalCases

/-! RFCOMM frames (`classic/rfcomm.rs`): address and control octets, the one- or two-octet length
field, information and check sequence. A frame that the constructors build survives encoding and
parsing, except that the parser cannot know whether a leading credit octet was counted. -/
namespace Simble.Rfcomm

namespace FrameType
def sabm : UInt8 := 0x2F
def ua : UInt8 := 0x63
def dm : UInt8 := 0x0F
def disc : UInt8 := 0x43
def uih : UInt8 := 0xEF
end FrameType

/-- Reversed CRC-8 lookup table (polynomial x^8 + x^2 + x + 1). -/
def fcsTable : List UInt8 := [
  0x00, 0x91, 0xE3, 0x72, 0x07, 0x96, 0xE4, 0x75, 0x0E, 0x9F, 0xED, 0x7C, 0x09, 0x98, 0xEA, 0x7B,
  0x1C, 0x8D, 0xFF, 0x6E, 0x1B, 0x8A, 0xF8, 0x69, 0x12, 0x83, 0xF1, 0x60, 0x15, 0x84, 0xF6, 0x67,
  0x38, 0xA9, 0xDB, 0x4A, 0x3F, 0xAE, 0xDC, 0x4D, 0x36, 0xA7, 0xD5, 0x44, 0x31, 0xA0, 0xD2, 0x43,
  0x24, 0xB5, 0xC7, 0x56, 0x23, 0xB2, 0xC0, 0x51, 0x2A, 0xBB, 0xC9, 0x58, 0x2D, 0xBC, 0xCE, 0x5F,
  0x70, 0xE1, 0x93, 0x02, 0x77, 0xE6, 0x94, 0x05, 0x7E, 0xEF, 0x9D, 0x0C, 0x79, 0xE8, 0x9A, 0x0B,
  0x6C, 0xFD, 0x8F, 0x1E, 0x6B, 0xFA, 0x88, 0x19, 0x62, 0xF3, 0x81, 0x10, 0x65, 0xF4, 0x86, 0x17,
  0x48, 0xD9, 0xAB, 0x3A, 0x4F, 0xDE, 0xAC, 0x3D, 0x46, 0xD7, 0xA5, 0x34, 0x41, 0xD0, 0xA2, 0x33,
  0x54, 0xC5, 0xB7, 0x26, 0x53, 0xC2, 0xB0, 0x21, 0x5A, 0xCB, 0xB9, 0x28, 0x5D, 0xCC, 0xBE, 0x2F,
  0xE0, 0x71, 0x03, 0x92, 0xE7, 0x76, 0x04, 0x95, 0xEE, 0x7F, 0x0D, 0x9C, 0xE9, 0x78, 0x0A, 0x9B,
  0xFC, 0x6D, 0x1F, 0x8E, 0xFB, 0x6A, 0x18, 0x89, 0xF2, 0x63, 0x11, 0x80, 0xF5, 0x64, 0x16, 0x87,
  0xD8, 0x49, 0x3B, 0xAA, 0xDF, 0x4E, 0x3C, 0xAD, 0xD6, 0x47, 0x35, 0xA4, 0xD1, 0x40, 0x32, 0xA3,
  0xC4, 0x55, 0x27, 0xB6, 0xC3, 0x52, 0x20, 0xB1, 0xCA, 0x5B, 0x29, 0xB8, 0xCD, 0x5C, 0x2E, 0xBF,
  0x90, 0x01, 0x73, 0xE2, 0x97, 0x06, 0x74, 0xE5, 0x9E, 0x0F, 0x7D, 0xEC, 0x99, 0x08, 0x7A, 0xEB,
  0x8C, 0x1D, 0x6F, 0xFE, 0x8B, 0x1A, 0x68, 0xF9, 0x82, 0x13, 0x61, 0xF0, 0x85, 0x14, 0x66, 0xF7,
  0xA8, 0x39, 0x4B, 0xDA, 0xAF, 0x3E, 0x4C, 0xDD, 0xA6, 0x37, 0x45, 0xD4, 0xA1, 0x30, 0x42, 0xD3,
  0xB4, 0x25, 0x57, 0xC6, 0xB3, 0x22, 0x50, 0xC1, 0xBA, 0x2B, 0x59, 0xC8, 0xBD, 0x2C, 0x5E, 0xCF]

def computeFcs (buffer : Bytes) : UInt8 :=
  0xFF - buffer.foldl (fun result byte => fcsTable.getD (result ^^^ byte).toNat 0) 0xFF

structure RfcommFrame where
  frameType : UInt8
  cR : UInt8
  dlci : UInt8
  pF : UInt8
  information : Bytes
  /-- Whether `information` starts with a credit octet, which the encoded
  length leaves out. -/
  withCredits : Bool
deriving DecidableEq, Repr

namespace RfcommFrame

def sabm (cR dlci : UInt8) : RfcommFrame := ⟨FrameType.sabm, cR, dlci, 1, [], false⟩

def ua (cR dlci : UInt8) : RfcommFrame := ⟨FrameType.ua, cR, dlci, 1, [], false⟩

def dm (cR dlci : UInt8) : RfcommFrame := ⟨FrameType.dm, cR, dlci, 1, [], false⟩

def disc (cR dlci : UInt8) : RfcommFrame := ⟨FrameType.disc, cR, dlci, 1, [], false⟩

def uih (cR dlci : UInt8) (information : Bytes) (pF : UInt8) : RfcommFrame :=
  ⟨FrameType.uih, cR, dlci, pF, information, pF == 1⟩

variable (frame : RfcommFrame)

def addressByte : UInt8 := (frame.dlci <<< 2) ||| (frame.cR <<< 1) ||| 1

def controlByte : UInt8 := frame.frameType ||| (frame.pF <<< 4)

def lengthValue : Nat :=
  if frame.withCredits then frame.information.length - 1 else frame.information.length

def lengthBytes : Bytes :=
  let len := frame.lengthValue
  if len > 0x7F then
    [UInt8.ofNat ((len &&& 0x7F) <<< 1), UInt8.ofNat ((len >>> 7) &&& 0xFF)]
  else
    [UInt8.ofNat ((len <<< 1) ||| 1)]

def fcs : UInt8 :=
  if frame.frameType = FrameType.uih then
    computeFcs [frame.addressByte, frame.controlByte]
  else
    computeFcs ([frame.addressByte, frame.controlByte] ++ frame.lengthBytes)

def toBytes : Bytes :=
  [frame.addressByte, frame.controlByte] ++ frame.lengthBytes ++ frame.information ++ [frame.fcs]

/-- The whole information field, whatever the length octets announce: only
their extension bit is read. -/
def parse (data : Bytes) : Option RfcommFrame :=
  match data with
  | address :: control :: rest => do
    let lengthByte0 ← rest.head?
    let informationStart := if lengthByte0 &&& 1 ≠ 0 then 1 else 2
    if rest.length < informationStart + 1 then none
    let information := (rest.take (rest.length - 1)).drop informationStart
    let fcsByte ← rest.getLast?
    let frame : RfcommFrame :=
      { frameType := control &&& 0xEF
        cR := (address >>> 1) &&& 1
        dlci := (address >>> 2) &&& 0x3F
        pF := (control >>> 4) &&& 1
        information
        withCredits := false }
    if frame.fcs ≠ fcsByte then none
    some frame
  | _ => none

/-- What the constructors guarantee when the DLCI is a six-bit one: every
field fits its place in the two header octets. -/
structure Encodable (frame : RfcommFrame) : Prop where
  dlci : frame.dlci < 64
  cR : frame.cR = 0 ∨ frame.cR = 1
  pF : frame.pF = 0 ∨ frame.pF = 1
  frameType : frame.frameType &&& 0xEF = frame.frameType
  credits : frame.frameType ≠ FrameType.uih → frame.withCredits = false

variable {frame}

private theorem address_fields (dlci cR : UInt8) (six : dlci < 64) (bit : cR = 0 ∨ cR = 1) :
    (((dlci <<< 2) ||| (cR <<< 1) ||| 1) >>> 2) &&& 0x3F = dlci ∧
      (((dlci <<< 2) ||| (cR <<< 1) ||| 1) >>> 1) &&& 1 = cR := by
  rcases bit with rfl | rfl <;> revert dlci <;> decide +kernel

private theorem control_fields (frameType pF : UInt8) (masked : frameType &&& 0xEF = frameType)
    (bit : pF = 0 ∨ pF = 1) :
    (frameType ||| (pF <<< 4)) &&& 0xEF = frameType ∧
      ((frameType ||| (pF <<< 4)) >>> 4) &&& 1 = pF := by
  rcases bit with rfl | rfl <;> revert frameType <;> decide +kernel

theorem lengthBytes_shape (frame : RfcommFrame) :
    (∃ octet, frame.lengthBytes = [octet] ∧ octet &&& 1 ≠ 0) ∨
      ∃ octet high, frame.lengthBytes = [octet, high] ∧ octet &&& 1 = 0 := by
  have low (n : Nat) : n ≤ 0x7F → UInt8.ofNat ((n <<< 1) ||| 1) &&& 1 ≠ 0 := by
    intro bound
    interval_cases n <;> decide
  have even (n : Nat) : n ≤ 0x7F → UInt8.ofNat (n <<< 1) &&& 1 = 0 := by
    intro bound
    interval_cases n <;> decide
  by_cases long : frame.lengthValue > 0x7F
  · exact .inr ⟨_, _, if_pos long, even _ Nat.and_le_right⟩
  · exact .inl ⟨_, if_neg long, low _ (by omega)⟩

/-- The check sequence of a parsed frame is the one the sender computed: the
credit flag enters it only through the length of frames that carry none. -/
theorem fcs_parsed (encodable : frame.Encodable) :
    { frame with withCredits := false }.fcs = frame.fcs := by
  by_cases kind : frame.frameType = FrameType.uih
  · simp [fcs, kind, addressByte, controlByte]
  · simp [fcs, kind, addressByte, controlByte, lengthBytes, lengthValue, encodable.credits kind]

theorem parse_toBytes (encodable : frame.Encodable) :
    parse frame.toBytes = some { frame with withCredits := false } := by
  obtain ⟨sameDlci, sameCR⟩ := address_fields _ _ encodable.dlci encodable.cR
  obtain ⟨sameType, samePF⟩ := control_fields _ _ encodable.frameType encodable.pF
  have fields : ({ frameType := frame.controlByte &&& 0xEF
                   cR := (frame.addressByte >>> 1) &&& 1
                   dlci := (frame.addressByte >>> 2) &&& 0x3F
                   pF := (frame.controlByte >>> 4) &&& 1
                   information := frame.information
                   withCredits := false } : RfcommFrame) = { frame with withCredits := false } := by
    simp only [addressByte, controlByte, sameDlci, sameCR, sameType, samePF]
  have last (octet : UInt8) :
      (octet :: (frame.information ++ [frame.fcs])).getLast? = some frame.fcs := by
    rw [← List.cons_append, List.getLast?_concat]
  rcases frame.lengthBytes_shape with ⟨octet, shape, odd⟩ | ⟨octet, high, shape, even⟩
  · simp [parse, toBytes, shape, odd, fields, last, fcs_parsed encodable]
  · simp [parse, toBytes, shape, even, fields, last, fcs_parsed encodable]

end RfcommFrame
end Simble.Rfcomm
