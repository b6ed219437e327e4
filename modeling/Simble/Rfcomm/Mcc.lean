import Simble.Rfcomm.Frame

/-! Multiplexer control commands: the sub-frames that DLCI 0 carries in its
information field. Only Parameter Negotiation and Modem Status have a value
that is looked into. -/
namespace Simble.Rfcomm

namespace MccType
def pn : UInt8 := 0x20
def msc : UInt8 := 0x38
def nsc : UInt8 := 0x04
end MccType

namespace PnCl
def cfcCommand : UInt8 := 0xF0
def cfcResponse : UInt8 := 0xE0
def noCfc : UInt8 := 0x00
end PnCl

def maxInitialCredits : UInt8 := 7

theorem min_maxInitialCredits_le (credits : UInt8) :
    min credits maxInitialCredits ≤ maxInitialCredits := by
  revert credits
  decide +kernel

/-- The type, the command/response bit and the value of one sub-frame. -/
def parseMcc (data : Bytes) : Option (UInt8 × Bool × Bytes) := do
  let byte0 ← data[0]?
  let mccType := byte0 >>> 2
  let cR := (byte0 >>> 1) &&& 1 != 0
  let lenByte0 ← data[1]?
  if lenByte0 &&& 1 ≠ 0 then
    let length := (lenByte0 >>> 1).toNat
    return (mccType, cR, ← getRange data 2 (2 + length))
  else
    let lenByte1 ← data[2]?
    let length := (lenByte0 >>> 1).toNat ||| (lenByte1.toNat <<< 7)
    return (mccType, cR, ← getRange data 3 (3 + length))

def makeMcc (mccType : UInt8) (cR : Bool) (data : Bytes) : Bytes :=
  [(mccType <<< 2) ||| (bit cR <<< 1) ||| 1, ((UInt8.ofNat data.length &&& 0x7F) <<< 1) ||| 1] ++
    data

structure MccPn where
  dlci : UInt8
  cl : UInt8
  priority : UInt8
  ackTimer : UInt8
  maxFrameSize : UInt16
  maxRetransmissions : UInt8
  initialCredits : UInt8
deriving DecidableEq, Repr

namespace MccPn

def toBytes (pn : MccPn) : Bytes :=
  [pn.dlci, pn.cl, pn.priority, pn.ackTimer, (pn.maxFrameSize &&& 0xFF).toUInt8,
    ((pn.maxFrameSize >>> 8) &&& 0xFF).toUInt8, pn.maxRetransmissions,
    min pn.initialCredits maxInitialCredits]

def parse (data : Bytes) : Option MccPn :=
  match data with
  | b0 :: b1 :: b2 :: b3 :: b4 :: b5 :: b6 :: b7 :: _ =>
    some
      { dlci := b0
        cl := b1
        priority := b2
        ackTimer := b3
        maxFrameSize := b4.toUInt16 ||| (b5.toUInt16 <<< 8)
        maxRetransmissions := b6
        initialCredits := b7 &&& 0x07 }
  | _ => none

private theorem frameSize_octets (size : UInt16) :
    (size &&& 0xFF).toUInt8.toUInt16 ||| ((((size >>> 8) &&& 0xFF).toUInt8).toUInt16 <<< 8) =
      size := by
  apply UInt16.toNat_inj.mp
  have small := size.toNat_lt
  have masked (n : Nat) : n &&& 255 = n % 256 := Nat.and_two_pow_sub_one_eq_mod n 8
  have joined : size.toNat % 256 ||| 2 ^ 8 * (size.toNat / 256) = size.toNat := by
    rw [Nat.or_comm, ← Nat.two_pow_add_eq_or_of_lt (by omega)]
    omega
  have high : size.toNat / 256 % 256 * 256 % 65536 = 2 ^ 8 * (size.toNat / 256) := by omega
  rw [← high] at joined
  simpa [masked, Nat.shiftLeft_eq, Nat.shiftRight_eq_div_pow] using joined

private theorem clamped_credits (credits : UInt8) (few : credits ≤ maxInitialCredits) :
    min credits maxInitialCredits &&& 0x07 = credits := by
  revert credits
  decide +kernel

/-- Only a grant beyond the three-bit field is changed on the way. -/
theorem parse_toBytes (pn : MccPn) (few : pn.initialCredits ≤ maxInitialCredits) :
    parse pn.toBytes = some pn := by
  simp only [parse, toBytes, frameSize_octets, clamped_credits _ few]

end MccPn

structure MccMsc where
  dlci : UInt8
  fc : Bool
  rtc : Bool
  rtr : Bool
  ic : Bool
  dv : Bool
deriving DecidableEq, Repr

namespace MccMsc

def toBytes (msc : MccMsc) : Bytes :=
  [(msc.dlci <<< 2) ||| 3,
    (1 : UInt8) ||| (bit msc.fc <<< 1) ||| (bit msc.rtc <<< 2) ||| (bit msc.rtr <<< 3) |||
      (bit msc.ic <<< 6) ||| (bit msc.dv <<< 7)]

def parse (data : Bytes) : Option MccMsc :=
  match data with
  | b0 :: b1 :: _ =>
    some
      { dlci := b0 >>> 2
        fc := (b1 >>> 1) &&& 1 != 0
        rtc := (b1 >>> 2) &&& 1 != 0
        rtr := (b1 >>> 3) &&& 1 != 0
        ic := (b1 >>> 6) &&& 1 != 0
        dv := (b1 >>> 7) &&& 1 != 0 }
  | _ => none

def defaultResponse (dlci : UInt8) : MccMsc := ⟨dlci, false, true, true, false, true⟩

theorem parse_toBytes (msc : MccMsc) (six : msc.dlci < 64) : parse msc.toBytes = some msc := by
  have shifted : ∀ dlci : UInt8, dlci < 64 → ((dlci <<< 2) ||| 3) >>> 2 = dlci := by
    decide +kernel
  obtain ⟨dlci, fc, rtc, rtr, ic, dv⟩ := msc
  have address := shifted dlci six
  cases fc <;> cases rtc <;> cases rtr <;> cases ic <;> cases dv <;>
    simp only [parse, toBytes, address] <;> rfl

end MccMsc

theorem parseMcc_makeMcc (mccType : UInt8) (cR : Bool) (data : Bytes) (six : mccType < 64)
    (short : data.length ≤ 127) : parseMcc (makeMcc mccType cR data) = some (mccType, cR, data) := by
  have header : ((mccType <<< 2) ||| (bit cR <<< 1) ||| 1) >>> 2 = mccType ∧
      ((((mccType <<< 2) ||| (bit cR <<< 1) ||| 1) >>> 1) &&& 1 != 0) = cR := by
    cases cR <;> revert mccType <;> decide +kernel
  have length : ∀ n ≤ 127, (((UInt8.ofNat n &&& 0x7F) <<< 1) ||| 1) &&& 1 ≠ 0 ∧
      ((((UInt8.ofNat n &&& 0x7F) <<< 1) ||| 1) >>> 1).toNat = n := by
    intro n bound
    interval_cases n <;> decide
  obtain ⟨odd, value⟩ := length data.length short
  have inside : 2 ≤ 2 + data.length ∧ 2 + data.length ≤ data.length + 1 + 1 := by omega
  simp only [parseMcc, makeMcc, List.cons_append, List.nil_append, List.getElem?_cons_zero,
    List.getElem?_cons_succ, Option.bind_eq_bind, Option.bind_some, header, value, ne_eq, odd,
    not_false_eq_true, if_true, getRange, List.length_cons, inside]
  simp [Nat.add_comm 2]

end Simble.Rfcomm
