import Mathlib.Data.FinEnum
import Simble.Lib.BigEndian
import Simble.Rust

/-! ADTS frames around AAC audio (`AacFrame` of `classic/a2dp.rs`): the seven octets of a
header, the CRC behind it and the octets of the payload. -/
namespace Simble.Classic
open Simble.Lib List

inductive AacProfile where
  | main
  | lc
  | ssr
  | ltp
deriving DecidableEq

namespace AacProfile

def toBits : AacProfile → UInt8
  | main => 0
  | lc => 1
  | ssr => 2
  | ltp => 3

def fromBits (bits : UInt8) : AacProfile :=
  let masked := bits &&& 0b11
  if masked = 0 then main else if masked = 1 then lc else if masked = 2 then ssr else ltp

end AacProfile

inductive AdtsMpegVersion where
  | mpeg4
  | mpeg2
deriving DecidableEq

def adtsAacSamplingFrequencies : List UInt32 :=
  [96000, 88200, 64000, 48000, 44100, 32000, 24000, 22050, 16000, 12000, 11025, 8000, 7350, 0, 0, 0]

def adtsSyncWord : UInt16 := 0xFFF
def adtsHeaderLen : Nat := 7
def adtsCrcLen : Nat := 2

structure AacFrame where
  profile : AacProfile
  mpegVersion : AdtsMpegVersion
  samplingFrequency : UInt32
  channelConfiguration : UInt8
  crc : Option UInt16
  rawDataBlockCount : UInt8
  payload : Bytes
deriving DecidableEq

/-- `aac_frame_length`, which is spread over three octets. -/
def frameLength (b3 b4 b5 : UInt8) : Nat :=
  (b3 &&& 0b11).toNat <<< 11 ||| b4.toNat <<< 3 ||| (b5 >>> 5).toNat

/-- How many octets of CRC follow the header. The bit is inverted: they are there where it
is 0. -/
def crcLen (b1 : UInt8) : Nat := if b1 &&& 0b1 ≠ 0 then 0 else adtsCrcLen

/-- The seven octets of a header. -/
def adtsHeader (frame : AacFrame) (frequencyIndex : UInt8) (frameLength : Nat) : Bytes :=
  [0xFF,
    (0xF0 : UInt8) ||| (bit (frame.mpegVersion = .mpeg2) <<< 3) ||| bit frame.crc.isNone,
    (frame.profile.toBits <<< 6) ||| (frequencyIndex <<< 2) ||| (frame.channelConfiguration >>> 2),
    ((frame.channelConfiguration &&& 0b11) <<< 6) ||| (UInt8.ofNat (frameLength >>> 11) &&& 0b11),
    UInt8.ofNat (frameLength >>> 3),
    (UInt8.ofNat (frameLength &&& 0b111) <<< 5) ||| 0x1F,
    (0xFC : UInt8) ||| (frame.rawDataBlockCount - 1)]

namespace AacFrame

def read (b1 b2 b3 b6 : UInt8) (body : Bytes) : AacFrame where
  profile := .fromBits (b2 >>> 6)
  mpegVersion := if b1 &&& 0b1000 ≠ 0 then .mpeg2 else .mpeg4
  samplingFrequency := adtsAacSamplingFrequencies.getD ((b2 >>> 2) &&& 0b1111).toNat 0
  channelConfiguration := ((b2 &&& 0b1) <<< 2) ||| (b3 >>> 6)
  crc := if b1 &&& 0b1 ≠ 0 then none else some (UInt16.ofNat (ofBe (body.take adtsCrcLen)))
  rawDataBlockCount := (b6 &&& 0b11) + 1
  payload := body.drop (crcLen b1)

def parse : Bytes → Option (AacFrame × Bytes)
  | b0 :: b1 :: b2 :: b3 :: b4 :: b5 :: b6 :: rest =>
    if (b0.toUInt16 <<< 4) ||| (b1 >>> 4).toUInt16 ≠ adtsSyncWord then none
    else if (b1 >>> 1) &&& 0b11 ≠ 0 then none
    else if adtsAacSamplingFrequencies.getD ((b2 >>> 2) &&& 0b1111).toNat 0 = 0 then none
    else if frameLength b3 b4 b5 < adtsHeaderLen + crcLen b1 ∨
        adtsHeaderLen + rest.length < frameLength b3 b4 b5 then none
    else some (read b1 b2 b3 b6 (rest.take (frameLength b3 b4 b5 - adtsHeaderLen)),
      rest.drop (frameLength b3 b4 b5 - adtsHeaderLen))
  | _ => none

def crcOctets (frame : AacFrame) : Bytes := (frame.crc.map fun crc => toBe 2 crc.toNat).getD []

def toBytes (frame : AacFrame) : Option Bytes :=
  match (adtsAacSamplingFrequencies.take 13).findIdx? (· = frame.samplingFrequency) with
  | none => none
  | some index =>
    if 7 < frame.channelConfiguration ∨
        ¬ (1 ≤ frame.rawDataBlockCount ∧ frame.rawDataBlockCount ≤ 4) then none
    else
      let frameLength := adtsHeaderLen + frame.crcOctets.length + frame.payload.length
      if 2 ^ 13 ≤ frameLength then none
      else some (adtsHeader frame (UInt8.ofNat index) frameLength ++ frame.crcOctets ++
        frame.payload)

end AacFrame

/-! ## The bits of a header -/

/-- The bits that a frame does not keep are as they are written: private, original, home,
copyright and the fullness of a stored stream's buffer. -/
def KeptBits (data : Bytes) : Prop :=
  data.getD 2 0 &&& 0x02 = 0 ∧ data.getD 3 0 &&& 0x3C = 0 ∧ data.getD 5 0 &&& 0x1F = 0x1F ∧
    data.getD 6 0 &&& 0xFC = 0xFC

/-- `data` with those bits as they are written. -/
def settled : Bytes → Bytes
  | b0 :: b1 :: b2 :: b3 :: b4 :: b5 :: b6 :: rest =>
    b0 :: b1 :: (b2 &&& 0xFD) :: (b3 &&& 0xC3) :: b4 :: (b5 ||| 0x1F) :: (b6 ||| 0xFC) :: rest
  | data => data

variable (b3 b4 b5 : UInt8)

theorem frameLength_eq :
    frameLength b3 b4 b5 = b3.toNat % 4 * 2048 + b4.toNat * 8 + b5.toNat / 32 := by
  have small4 := b4.toNat_lt
  have small5 := b5.toNat_lt
  have top : (b3 &&& 0b11).toNat = b3.toNat % 4 := by
    rw [UInt8.toNat_and]
    exact Nat.and_two_pow_sub_one_eq_mod b3.toNat 2
  have low : (b5 >>> 5).toNat = b5.toNat / 32 := by
    rw [UInt8.toNat_shiftRight]
    exact Nat.shiftRight_eq_div_pow _ 5
  rw [frameLength, top, low, Nat.shiftLeft_eq, Nat.shiftLeft_eq, mul_comm _ (2 ^ 11),
    mul_comm _ (2 ^ 3), show 2 ^ 11 * (b3.toNat % 4) ||| 2 ^ 3 * b4.toNat =
      2 ^ 3 * (2 ^ 8 * (b3.toNat % 4) + b4.toNat) by
        rw [← Nat.two_pow_add_eq_or_of_lt (i := 11) (by omega)]; ring,
    ← Nat.two_pow_add_eq_or_of_lt (by omega)]
  ring

theorem frameLength_lt : frameLength b3 b4 b5 < 2 ^ 13 := by
  have small4 := b4.toNat_lt
  have small5 := b5.toNat_lt
  rw [frameLength_eq]
  omega

theorem sync_iff (b0 b1 : UInt8) :
    (b0.toUInt16 <<< 4) ||| (b1 >>> 4).toUInt16 = adtsSyncWord ↔ b0 = 0xFF ∧ b1 >>> 4 = 0xF := by
  have high : (b1 >>> 4).toUInt16.toNat = b1.toNat / 16 := by
    rw [UInt8.toNat_toUInt16, UInt8.toNat_shiftRight]
    exact Nat.shiftRight_eq_div_pow _ 4
  have word : ((b0.toUInt16 <<< 4) ||| (b1 >>> 4).toUInt16).toNat = b0.toNat * 16 + b1.toNat / 16 := by
    have small := b0.toNat_lt
    have small1 := b1.toNat_lt
    rw [UInt16.toNat_or, high, UInt16.toNat_shiftLeft, UInt8.toNat_toUInt16, Nat.shiftLeft_eq,
      Nat.mod_eq_of_lt (by simp; omega), mul_comm]
    exact (Nat.two_pow_add_eq_or_of_lt (show b1.toNat / 16 < 2 ^ 4 by omega) b0.toNat).symm.trans
      (by ring)
  have nibble : b1 >>> 4 = 0xF ↔ b1.toNat / 16 = 15 := by
    rw [← UInt8.toNat_inj, UInt8.toNat_shiftRight, Nat.shiftRight_eq_div_pow]
    rfl
  have small := b0.toNat_lt
  have small1 := b1.toNat_lt
  rw [← UInt16.toNat_inj, word, nibble, ← UInt8.toNat_inj]
  simp only [adtsSyncWord, UInt16.reduceToNat, UInt8.reduceToNat]
  omega

/-- What is said of one octet of a header, for every octet: the first five, that what it says is
written back to it, the bits that are not kept aside. -/
structure HeaderOctets : Prop where
  second : ∀ b1 : UInt8, b1 >>> 4 = 0xF → (b1 >>> 1) &&& 0b11 = 0 →
    (0xF0 : UInt8) ||| (bit ((if b1 &&& 0b1000 ≠ 0 then AdtsMpegVersion.mpeg2 else .mpeg4) = .mpeg2)
      <<< 3) ||| bit (b1 &&& 0b1 ≠ 0) = b1
  third : ∀ b2 : UInt8, ((AacProfile.fromBits (b2 >>> 6)).toBits <<< 6) |||
    (((b2 >>> 2) &&& 0b1111) <<< 2) ||| (b2 &&& 0b1) = b2 &&& 0xFD
  fourth : ∀ b3 : UInt8, ((b3 >>> 6) <<< 6) ||| (b3 &&& 0b11) = b3 &&& 0xC3
  sixth : ∀ b5 : UInt8, ((b5 >>> 5) <<< 5) ||| 0x1F = b5 ||| 0x1F
  seventh : ∀ b6 : UInt8, (0xFC : UInt8) ||| ((b6 &&& 0b11) + 1 - 1) = b6 ||| 0xFC
  kept : (∀ b : UInt8, b &&& 0xFD = b ↔ b &&& 0x02 = 0) ∧
    (∀ b : UInt8, b &&& 0xC3 = b ↔ b &&& 0x3C = 0) ∧
    (∀ b : UInt8, b ||| 0x1F = b ↔ b &&& 0x1F = 0x1F) ∧
    (∀ b : UInt8, b ||| 0xFC = b ↔ b &&& 0xFC = 0xFC)
  frequency : ∀ b2 : UInt8, adtsAacSamplingFrequencies.getD ((b2 >>> 2) &&& 0b1111).toNat 0 ≠ 0 →
    (adtsAacSamplingFrequencies.take 13).findIdx?
      (· = adtsAacSamplingFrequencies.getD ((b2 >>> 2) &&& 0b1111).toNat 0) =
      some ((b2 >>> 2) &&& 0b1111).toNat
  bit : ∀ b2 : UInt8, b2 &&& (1 : UInt8) = 0 ∨ b2 &&& (1 : UInt8) = 1
  unset : ∀ b3 : UInt8, ((0 : UInt8) <<< 2 ||| (b3 >>> 6)) >>> 2 = 0 ∧
    ((0 : UInt8) <<< 2 ||| (b3 >>> 6)) &&& (3 : UInt8) = b3 >>> 6 ∧
    (0 : UInt8) <<< 2 ||| (b3 >>> 6) ≤ 7
  set : ∀ b3 : UInt8, ((1 : UInt8) <<< 2 ||| (b3 >>> 6)) >>> 2 = 1 ∧
    ((1 : UInt8) <<< 2 ||| (b3 >>> 6)) &&& (3 : UInt8) = b3 >>> 6 ∧
    (1 : UInt8) <<< 2 ||| (b3 >>> 6) ≤ 7
  length : ∀ b : UInt8, b.toNat < 8 → ((b <<< 5) ||| 0x1F).toNat / 32 = b.toNat
  blocks : ∀ b6 : UInt8, 1 ≤ (b6 &&& 0b11) + 1 ∧ (b6 &&& 0b11) + 1 ≤ 4
  counts : ∀ blocks : UInt8, 1 ≤ blocks ∧ blocks ≤ 4 →
    (((0xFC : UInt8) ||| (blocks - 1)) &&& 0b11) + 1 = blocks

theorem headerOctets : HeaderOctets := by
  constructor
  case kept => refine ⟨?_, ?_, ?_, ?_⟩ <;> decide +kernel
  all_goals decide +kernel

theorem channel_parts (b2 b3 : UInt8) :
    ((b2 &&& (1 : UInt8)) <<< 2 ||| (b3 >>> 6)) >>> 2 = b2 &&& (1 : UInt8) ∧
      ((b2 &&& (1 : UInt8)) <<< 2 ||| (b3 >>> 6)) &&& (3 : UInt8) = b3 >>> 6 ∧
      (b2 &&& (1 : UInt8)) <<< 2 ||| (b3 >>> 6) ≤ 7 := by
  rcases headerOctets.bit b2 with zero | one
  · rw [zero]
    exact headerOctets.unset b3
  · rw [one]
    exact headerOctets.set b3

theorem settled_eq_iff (b0 b1 b2 b3 b4 b5 b6 : UInt8) (rest : Bytes) :
    settled (b0 :: b1 :: b2 :: b3 :: b4 :: b5 :: b6 :: rest) =
      b0 :: b1 :: b2 :: b3 :: b4 :: b5 :: b6 :: rest ↔
    KeptBits (b0 :: b1 :: b2 :: b3 :: b4 :: b5 :: b6 :: rest) := by
  obtain ⟨third, fourth, sixth, seventh⟩ := headerOctets.kept
  simp [settled, KeptBits, third, fourth, sixth, seventh]

/-! ## What is read is written -/

theorem parse_eq_some {b0 b1 b2 b3 b4 b5 b6 : UInt8} {tail rest : Bytes} {frame : AacFrame} :
    AacFrame.parse (b0 :: b1 :: b2 :: b3 :: b4 :: b5 :: b6 :: tail) = some (frame, rest) ↔
      (b0 = 0xFF ∧ b1 >>> 4 = 0xF) ∧ (b1 >>> 1) &&& 0b11 = 0 ∧
      adtsAacSamplingFrequencies.getD ((b2 >>> 2) &&& 0b1111).toNat 0 ≠ 0 ∧
      adtsHeaderLen + crcLen b1 ≤ frameLength b3 b4 b5 ∧
      frameLength b3 b4 b5 ≤ adtsHeaderLen + tail.length ∧
      frame = .read b1 b2 b3 b6 (tail.take (frameLength b3 b4 b5 - adtsHeaderLen)) ∧
      rest = tail.drop (frameLength b3 b4 b5 - adtsHeaderLen) := by
  rw [← sync_iff, AacFrame.parse]
  constructor
  · intro accepted
    split_ifs at accepted with sync layer frequency length
    rw [not_or, not_lt, not_lt] at length
    cases accepted
    exact ⟨not_not.mp sync, not_not.mp layer, frequency, length.1, length.2, rfl, rfl⟩
  · rintro ⟨sync, layer, frequency, least, most, rfl, rfl⟩
    rw [if_neg (not_not.mpr sync), if_neg (not_not.mpr layer), if_neg frequency,
      if_neg (not_or.mpr ⟨not_lt.mpr least, not_lt.mpr most⟩)]

theorem body_of_read (b1 b2 b3 b6 : UInt8) {body : Bytes} (long : crcLen b1 ≤ body.length) :
    (AacFrame.read b1 b2 b3 b6 body).crcOctets ++ (AacFrame.read b1 b2 b3 b6 body).payload = body := by
  by_cases absent : b1 &&& 0b1 ≠ 0
  · simp [AacFrame.read, AacFrame.crcOctets, crcLen, absent]
  · rw [crcLen, if_neg absent] at long
    have crc : toBe 2 (UInt16.ofNat (ofBe (body.take adtsCrcLen))).toNat = body.take adtsCrcLen := by
      have two : (body.take adtsCrcLen).length = 2 := length_take_of_le long
      have small := ofBe_lt (body.take adtsCrcLen)
      rw [two] at small
      rw [UInt16.toNat_ofNat', Nat.mod_eq_of_lt (show _ < 2 ^ 16 from small)]
      exact two ▸ toBe_ofBe (body.take adtsCrcLen)
    simp only [AacFrame.read, AacFrame.crcOctets, crcLen, if_neg absent, Option.map_some,
      Option.getD_some, crc]
    exact take_append_drop _ body

theorem length_parts :
    UInt8.ofNat (frameLength b3 b4 b5 >>> 11) &&& 0b11 = b3 &&& 0b11 ∧
      UInt8.ofNat (frameLength b3 b4 b5 >>> 3) = b4 ∧
      UInt8.ofNat (frameLength b3 b4 b5 &&& 0b111) = b5 >>> 5 := by
  have small3 := b3.toNat_lt
  have small4 := b4.toNat_lt
  have small5 := b5.toNat_lt
  refine ⟨?_, ?_, ?_⟩ <;> apply UInt8.toNat_inj.mp
  · rw [UInt8.toNat_and, UInt8.toNat_and, UInt8.toNat_ofNat', Nat.shiftRight_eq_div_pow,
      frameLength_eq]
    simp only [UInt8.reduceToNat]
    rw [Nat.and_two_pow_sub_one_eq_mod _ 2, Nat.and_two_pow_sub_one_eq_mod _ 2]
    omega
  · rw [UInt8.toNat_ofNat', Nat.shiftRight_eq_div_pow, frameLength_eq]
    omega
  · rw [UInt8.toNat_ofNat', Nat.and_two_pow_sub_one_eq_mod _ 3, frameLength_eq,
      UInt8.toNat_shiftRight]
    rw [Nat.shiftRight_eq_div_pow, show 2 ^ ((5 : UInt8).toNat % 8) = 32 from rfl]
    omega

theorem header_of_read {b1 b2 b3 b4 b5 b6 : UInt8} (body : Bytes) (sync : b1 >>> 4 = 0xF)
    (layer : (b1 >>> 1) &&& 0b11 = 0) :
    adtsHeader (.read b1 b2 b3 b6 body) ((b2 >>> 2) &&& 0b1111) (frameLength b3 b4 b5) =
      [0xFF, b1, b2 &&& 0xFD, b3 &&& 0xC3, b4, b5 ||| 0x1F, b6 ||| 0xFC] := by
  obtain ⟨top, middle, bottom⟩ := length_parts b3 b4 b5
  obtain ⟨low, shared, -⟩ := channel_parts b2 b3
  have absent : (AacFrame.read b1 b2 b3 b6 body).crc.isNone = decide (b1 &&& 0b1 ≠ 0) := by
    simp only [AacFrame.read]
    split_ifs with absent <;> simp [absent]
  rw [adtsHeader, top, middle, bottom, headerOctets.sixth, absent]
  simp only [AacFrame.read, low, shared, headerOctets.third, headerOctets.fourth,
    headerOctets.seventh, List.cons.injEq, and_true, true_and]
  exact headerOctets.second b1 sync layer

theorem toBytes_eq {frame : AacFrame} {index : Nat}
    (found : (adtsAacSamplingFrequencies.take 13).findIdx? (· = frame.samplingFrequency) = some index)
    (channels : frame.channelConfiguration ≤ 7)
    (blocks : 1 ≤ frame.rawDataBlockCount ∧ frame.rawDataBlockCount ≤ 4)
    (fits : adtsHeaderLen + frame.crcOctets.length + frame.payload.length < 2 ^ 13) :
    frame.toBytes = some (adtsHeader frame (UInt8.ofNat index)
      (adtsHeaderLen + frame.crcOctets.length + frame.payload.length) ++ frame.crcOctets ++
      frame.payload) := by
  have accepted : ¬ (7 < frame.channelConfiguration ∨
      ¬ (1 ≤ frame.rawDataBlockCount ∧ frame.rawDataBlockCount ≤ 4)) := by
    rintro (more | outside)
    · exact UInt8.not_lt.mpr channels more
    · exact outside blocks
  simp only [AacFrame.toBytes, found]
  rw [if_neg accepted, if_neg (not_le.mpr fits)]

/-- A frame that was read is written as the octets it was read from, the bits that it does
not keep aside. -/
theorem toBytes_of_parse {data rest : Bytes} {frame : AacFrame}
    (accepted : AacFrame.parse data = some (frame, rest)) :
    ∃ b, frame.toBytes = some b ∧ b ++ rest = settled data := by
  match data with
  | [] | [_] | [_, _] | [_, _, _] | [_, _, _, _] | [_, _, _, _, _] | [_, _, _, _, _, _] =>
    cases accepted
  | b0 :: b1 :: b2 :: b3 :: b4 :: b5 :: b6 :: tail =>
    obtain ⟨⟨rfl, sync⟩, layer, frequency, least, most, rfl, rfl⟩ := parse_eq_some.mp accepted
    obtain ⟨low, shared, seven⟩ := channel_parts b2 b3
    set body := tail.take (frameLength b3 b4 b5 - adtsHeaderLen) with body_eq
    have length : body.length = frameLength b3 b4 b5 - adtsHeaderLen :=
      length_take_of_le (by omega)
    have whole := body_of_read b1 b2 b3 b6 (show crcLen b1 ≤ body.length by omega)
    have total : adtsHeaderLen + (AacFrame.read b1 b2 b3 b6 body).crcOctets.length +
        (AacFrame.read b1 b2 b3 b6 body).payload.length = frameLength b3 b4 b5 := by
      rw [add_assoc, ← length_append, whole, length]
      omega
    refine ⟨adtsHeader (.read b1 b2 b3 b6 body) ((b2 >>> 2) &&& 0b1111) (frameLength b3 b4 b5) ++
      (AacFrame.read b1 b2 b3 b6 body).crcOctets ++ (AacFrame.read b1 b2 b3 b6 body).payload, ?_, ?_⟩
    · have found := headerOctets.frequency b2 frequency
      have fits := frameLength_lt b3 b4 b5
      rw [← total] at fits
      exact (toBytes_eq found seven (headerOctets.blocks b6) fits).trans (by
        rw [total, UInt8.ofNat_toNat])
    · rw [header_of_read body sync layer, append_assoc, append_assoc,
        ← append_assoc (AacFrame.crcOctets _), whole, take_append_drop]
      rfl

/-! ## What is written is read -/

/-- The frames that fit a header. -/
structure AacFrame.Valid (frame : AacFrame) : Prop where
  channels : frame.channelConfiguration ≤ 7
  blocks : 1 ≤ frame.rawDataBlockCount ∧ frame.rawDataBlockCount ≤ 4
  frequency : frame.samplingFrequency ∈ adtsAacSamplingFrequencies.take 13
  fits : adtsHeaderLen + frame.crcOctets.length + frame.payload.length < 2 ^ 13

theorem frequency_index {frequency : UInt32}
    (tabulated : frequency ∈ adtsAacSamplingFrequencies.take 13) :
    ∃ index < 13, (adtsAacSamplingFrequencies.take 13).findIdx? (· = frequency) = some index ∧
      adtsAacSamplingFrequencies.getD index 0 = frequency ∧ frequency ≠ 0 := by
  have all : ∀ index < 13, (adtsAacSamplingFrequencies.take 13).findIdx?
        (· = adtsAacSamplingFrequencies.getD index 0) = some index ∧
      adtsAacSamplingFrequencies.getD index 0 ≠ 0 := by
    decide
  obtain ⟨index, small, rfl⟩ := getElem_of_mem tabulated
  have entry : adtsAacSamplingFrequencies.getD index 0 =
      (adtsAacSamplingFrequencies.take 13)[index] := by
    rw [getElem_take, getD_eq_getElem?_getD, List.getElem?_eq_getElem, Option.getD_some]
  have thirteen : index < 13 := small
  obtain ⟨found, positive⟩ := all index thirteen
  rw [entry] at found positive
  exact ⟨index, thirteen, found, entry, positive⟩

theorem written_second (version : AdtsMpegVersion) (absent : Bool) :
    let b1 : UInt8 := (0xF0 : UInt8) ||| (bit (version = .mpeg2) <<< 3) ||| bit absent
    b1 >>> 4 = 0xF ∧ (b1 >>> 1) &&& 0b11 = 0 ∧
      (if b1 &&& 0b1000 ≠ 0 then AdtsMpegVersion.mpeg2 else .mpeg4) = version ∧
      (b1 &&& 0b1 ≠ 0 ↔ absent = true) := by
  cases version <;> cases absent <;> decide

theorem written_third (profile : AacProfile) {index : Nat} (tabulated : index < 13)
    {channels : UInt8} (seven : channels.toNat < 8) :
    let b2 := (profile.toBits <<< 6) ||| (UInt8.ofNat index <<< 2) ||| (channels >>> 2)
    AacProfile.fromBits (b2 >>> 6) = profile ∧ (b2 >>> 2) &&& 0b1111 = UInt8.ofNat index ∧
      b2 &&& (1 : UInt8) = channels >>> 2 := by
  have all : ∀ index < 13, ∀ channels < 8,
      let b2 := (profile.toBits <<< 6) ||| (UInt8.ofNat index <<< 2) ||| (UInt8.ofNat channels >>> 2)
      AacProfile.fromBits (b2 >>> 6) = profile ∧ (b2 >>> 2) &&& 0b1111 = UInt8.ofNat index ∧
        b2 &&& (1 : UInt8) = UInt8.ofNat channels >>> 2 := by
    cases profile <;> decide
  simpa only [UInt8.ofNat_toNat] using all index tabulated channels.toNat seven

theorem written_fourth {channels : UInt8} (seven : channels.toNat < 8) (top : UInt8) :
    let b3 := ((channels &&& 0b11) <<< 6) ||| (top &&& 0b11)
    (channels >>> 2) <<< 2 ||| (b3 >>> 6) = channels ∧ b3.toNat % 4 = top.toNat % 4 := by
  have all : ∀ channels < 8, ∀ top < 4,
      let b3 := ((UInt8.ofNat channels &&& 0b11) <<< 6) ||| UInt8.ofNat top
      (UInt8.ofNat channels >>> 2) <<< 2 ||| (b3 >>> 6) = UInt8.ofNat channels ∧
        b3.toNat % 4 = top := by
    decide
  have low : (top &&& 0b11).toNat = top.toNat % 4 := by
    rw [UInt8.toNat_and]
    exact Nat.and_two_pow_sub_one_eq_mod top.toNat 2
  have four := all channels.toNat seven (top &&& 0b11).toNat (by rw [low]; omega)
  rwa [UInt8.ofNat_toNat, UInt8.ofNat_toNat, low] at four

theorem frameLength_written {length : Nat} (fits : length < 2 ^ 13) {channels : UInt8}
    (seven : channels.toNat < 8) :
    frameLength (((channels &&& 0b11) <<< 6) ||| (UInt8.ofNat (length >>> 11) &&& 0b11))
      (UInt8.ofNat (length >>> 3)) ((UInt8.ofNat (length &&& 0b111) <<< 5) ||| 0x1F) = length := by
  have top := (written_fourth seven (UInt8.ofNat (length >>> 11))).2
  have eight : (UInt8.ofNat (length &&& 0b111)).toNat = length % 8 := by
    rw [UInt8.toNat_ofNat', Nat.and_two_pow_sub_one_eq_mod _ 3]
    omega
  rw [frameLength_eq, top, headerOctets.length _ (by rw [eight]; omega), eight, UInt8.toNat_ofNat',
    UInt8.toNat_ofNat', Nat.shiftRight_eq_div_pow, Nat.shiftRight_eq_div_pow]
  omega

theorem crcLen_written (frame : AacFrame) :
    crcLen ((0xF0 : UInt8) ||| (bit (frame.mpegVersion = .mpeg2) <<< 3) ||| bit frame.crc.isNone) =
      frame.crcOctets.length := by
  obtain ⟨-, -, -, absent⟩ := written_second frame.mpegVersion frame.crc.isNone
  cases crc : frame.crc with
  | none =>
    rw [crc] at absent
    rw [crcLen, if_pos (absent.mpr rfl), AacFrame.crcOctets, crc]
    rfl
  | some value =>
    rw [crc] at absent
    rw [crcLen, if_neg (mt absent.mp Bool.false_ne_true), AacFrame.crcOctets, crc]
    exact (length_toBe 2 value.toNat).symm

theorem read_written {frame : AacFrame} (valid : frame.Valid) {index : Nat} (thirteen : index < 13)
    (entry : adtsAacSamplingFrequencies.getD index 0 = frame.samplingFrequency)
    (seven : frame.channelConfiguration.toNat < 8) (top : UInt8) :
    AacFrame.read
      ((0xF0 : UInt8) ||| (bit (frame.mpegVersion = .mpeg2) <<< 3) ||| bit frame.crc.isNone)
      ((frame.profile.toBits <<< 6) ||| (UInt8.ofNat index <<< 2) |||
        (frame.channelConfiguration >>> 2))
      (((frame.channelConfiguration &&& 0b11) <<< 6) ||| (top &&& 0b11))
      ((0xFC : UInt8) ||| (frame.rawDataBlockCount - 1)) (frame.crcOctets ++ frame.payload) =
      frame := by
  have length := crcLen_written frame
  obtain ⟨-, -, version, absent⟩ := written_second frame.mpegVersion frame.crc.isNone
  obtain ⟨profile, frequency, low⟩ := written_third frame.profile thirteen seven
  have channels := (written_fourth seven top).1
  have small : index % 256 = index := Nat.mod_eq_of_lt (by omega)
  have crc : (if ((0xF0 : UInt8) ||| (bit (frame.mpegVersion = .mpeg2) <<< 3) |||
      bit frame.crc.isNone) &&& 0b1 ≠ 0 then none
      else some (UInt16.ofNat (ofBe ((frame.crcOctets ++ frame.payload).take adtsCrcLen)))) =
      frame.crc := by
    cases crc : frame.crc with
    | none =>
      rw [crc] at absent
      exact if_pos (absent.mpr rfl)
    | some value =>
      rw [crc] at absent
      have octets : (toBe 2 value.toNat ++ frame.payload).take adtsCrcLen = toBe 2 value.toNat :=
        take_left' (length_toBe 2 value.toNat)
      rw [if_neg (mt absent.mp Bool.false_ne_true), AacFrame.crcOctets, crc, Option.map_some,
        Option.getD_some, octets, ofBe_toBe_of_lt value.toNat_lt, UInt16.ofNat_toNat]
  rw [AacFrame.read, crc, length, profile, frequency, low, channels, version,
    headerOctets.counts _ valid.blocks, UInt8.toNat_ofNat', small, entry, drop_left]

theorem parse_of_toBytes {frame : AacFrame} (valid : frame.Valid) (rest : Bytes) :
    ∃ b, frame.toBytes = some b ∧ AacFrame.parse (b ++ rest) = some (frame, rest) := by
  obtain ⟨index, thirteen, found, entry, positive⟩ := frequency_index valid.frequency
  have seven : frame.channelConfiguration.toNat < 8 :=
    Nat.lt_succ_of_le (UInt8.le_iff_toNat_le.mp valid.channels)
  obtain ⟨sync, layer, -, -⟩ := written_second frame.mpegVersion frame.crc.isNone
  obtain ⟨-, frequency, -⟩ := written_third frame.profile thirteen seven
  refine ⟨_, toBytes_eq found valid.channels valid.blocks valid.fits, ?_⟩
  have behind : adtsHeaderLen + frame.crcOctets.length + frame.payload.length - adtsHeaderLen =
      (frame.crcOctets ++ frame.payload).length := by
    rw [length_append]
    omega
  rw [adtsHeader, append_assoc, append_assoc]
  simp only [cons_append, nil_append]
  rw [parse_eq_some, frameLength_written valid.fits seven, crcLen_written, behind,
    ← append_assoc, take_left, drop_left, read_written valid thirteen entry seven,
    frequency, UInt8.toNat_ofNat', Nat.mod_eq_of_lt (show index < 2 ^ 8 by omega), entry]
  refine ⟨⟨rfl, sync⟩, layer, positive, by omega, ?_, rfl, rfl⟩
  rw [length_append, length_append]
  omega

/-! ## A stream of frames -/

inductive Parses : Bytes → List AacFrame → Bytes → Prop where
  | done (data : Bytes) : Parses data [] data
  | frame {data behind rest : Bytes} {frame : AacFrame} {frames : List AacFrame}
      (first : AacFrame.parse data = some (frame, behind)) (more : Parses behind frames rest) :
      Parses data (frame :: frames) rest

theorem consumed_of_parse {data rest : Bytes} {frame : AacFrame}
    (accepted : AacFrame.parse data = some (frame, rest)) :
    rest.length + adtsHeaderLen ≤ data.length := by
  match data with
  | [] | [_] | [_, _] | [_, _, _] | [_, _, _, _] | [_, _, _, _, _] | [_, _, _, _, _, _] =>
    cases accepted
  | b0 :: b1 :: b2 :: b3 :: b4 :: b5 :: b6 :: tail =>
    obtain ⟨-, -, -, -, -, -, rfl⟩ := parse_eq_some.mp accepted
    simp only [length_drop, length_cons, adtsHeaderLen]
    omega

theorem Parses.consumed {data rest : Bytes} {frames : List AacFrame}
    (parses : Parses data frames rest) :
    rest.length + adtsHeaderLen * frames.length ≤ data.length := by
  induction parses with
  | done data => simp
  | frame first more ih =>
    have one := consumed_of_parse first
    rw [length_cons, Nat.mul_succ]
    omega

theorem keptBits_iff {data rest : Bytes} {frame : AacFrame}
    (accepted : AacFrame.parse data = some (frame, rest)) : settled data = data ↔ KeptBits data := by
  match data with
  | [] | [_] | [_, _] | [_, _, _] | [_, _, _, _] | [_, _, _, _, _] | [_, _, _, _, _, _] =>
    cases accepted
  | b0 :: b1 :: b2 :: b3 :: b4 :: b5 :: b6 :: tail => exact settled_eq_iff b0 b1 b2 b3 b4 b5 b6 tail

/-- A frame is written as it was read exactly if the bits that it does not keep are as they are
written; one that fits a header is read back, and every frame takes a header's octets. -/
theorem adts_framing_exact (data : Bytes) :
    (∀ frame rest, AacFrame.parse data = some (frame, rest) →
      ((∃ b, frame.toBytes = some b ∧ data = b ++ rest) ↔ KeptBits data)) ∧
    (∀ frame : AacFrame, frame.Valid → ∀ rest,
      ∃ b, frame.toBytes = some b ∧ AacFrame.parse (b ++ rest) = some (frame, rest)) ∧
    (∀ frames rest, Parses data frames rest →
      rest.length + adtsHeaderLen * frames.length ≤ data.length) := by
  refine ⟨?_, ?_, ?_⟩
  · intro frame rest accepted
    obtain ⟨b, written, joined⟩ := toBytes_of_parse accepted
    rw [← keptBits_iff accepted, ← joined]
    constructor
    · rintro ⟨b', written', rfl⟩
      rw [written] at written'
      rw [Option.some.inj written']
    · intro same
      exact ⟨b, written, same.symm⟩
  · intro frame valid rest
    exact parse_of_toBytes valid rest
  · intro frames rest parses
    exact parses.consumed

theorem adts_framing_exact_stereo : ∃ b,
    AacFrame.toBytes ⟨.lc, .mpeg4, 44100, 2, none, 1, [7, 8]⟩ = some b ∧
      AacFrame.parse (b ++ [9]) = some (⟨.lc, .mpeg4, 44100, 2, none, 1, [7, 8]⟩, [9]) :=
  (adts_framing_exact []).2.1 _ ⟨by decide, by decide, by decide, by decide⟩ [9]

/-- A frame whose copyright bit is set is not written with it. -/
theorem adts_copyright_lost :
    ¬ ∀ data frame rest, AacFrame.parse data = some (frame, rest) →
      ∃ b, frame.toBytes = some b ∧ data = b ++ rest := by
  intro all
  obtain ⟨b, written, same⟩ := all [0xFF, 0xF1, 0x50, 0x88, 0x00, 0xFF, 0xFC]
    ⟨.lc, .mpeg4, 44100, 2, none, 1, []⟩ [] (by decide)
  have other : (AacFrame.toBytes ⟨.lc, .mpeg4, 44100, 2, none, 1, []⟩) =
      some [0xFF, 0xF1, 0x50, 0x80, 0x00, 0xFF, 0xFC] := by decide
  rw [other] at written
  rw [append_nil, ← Option.some.inj written] at same
  exact absurd same (by decide)

end Simble.Classic
