import Mathlib.Data.List.Chain
import Mathlib.Data.Nat.Bitwise
import Simble.Lib.Feed
import Simble.Lib.Pieces
import Simble.Lib.Reading
import Simble.Octets

/-! Ranging Data of the Ranging Service (`profiles/ras.rs`): its body, and the segments
that it goes out in. -/
namespace Simble.Ras
open Simble.Lib List

/-- One measurement of a tone (`cs/tones.rs`). -/
structure Tone where
  channel : UInt8
  i : Int16
  q : Int16
  quality : UInt8
deriving DecidableEq

structure RangingData where
  rangingCounter : UInt16
  configId : UInt8
  selectedTxPower : Int8
  antennaPathsMask : UInt8
  referencePowerLevel : Int8
  tones : List Tone
deriving DecidableEq

namespace Layout

def rangingCounterMask : UInt16 := 0x0FFF
def configIdShift : UInt16 := 12
def configIdMask : UInt8 := 0x0F
def stepModeMask : UInt8 := 0x03
def numAntennaPaths : Nat := 1
def mode2StepDataLen : Nat := 1 + 4 * (numAntennaPaths + 1)
def mode2FirstTone : Nat := 1
def stepModePbr : UInt8 := 2

end Layout

open Layout

/-- The two samples in 24 bits, least significant octet first. -/
def packed (tone : Tone) : Bytes :=
  (toBe 3 ((tone.i.toUInt16.toNat &&& 0x0FFF) ||| ((tone.q.toUInt16.toNat &&& 0x0FFF) <<< 12))).reverse

def signExtend12 (value : Nat) : Int16 :=
  let v := value &&& 0x0FFF
  if v &&& 0x0800 ≠ 0 then Int16.ofNat v - 0x1000 else Int16.ofNat v

def decodePct (bytes : Bytes) : Int16 × Int16 :=
  let packed := ofBe bytes.reverse
  (signExtend12 (packed &&& 0x0FFF), signExtend12 (packed >>> 12))

namespace RangingData

/-- One step: its mode, channel and length, the permutation index, and the entries of the
antenna paths and of the tone extension slot. -/
def step (tone : Tone) : Bytes :=
  [stepModePbr, tone.channel, UInt8.ofNat mode2StepDataLen, 0x00] ++
    (List.replicate (numAntennaPaths + 1) (packed tone ++ [tone.quality])).flatten

def toBytes (data : RangingData) : Bytes :=
  U16.toLeBytes ((data.rangingCounter &&& rangingCounterMask) |||
      ((data.configId &&& configIdMask).toUInt16 <<< configIdShift)) ++
    [data.selectedTxPower.toUInt8, data.antennaPathsMask] ++
    U16.toLeBytes data.rangingCounter ++
    [0xFF, 0xFF, 0x00, 0x00, data.referencePowerLevel.toUInt8, UInt8.ofNat data.tones.length] ++
    data.tones.flatMap step

def readStep : Reading (Option Tone) := do
  let head ← Reading.take 3
  let step ← Reading.take (head.getD 2 0).toNat
  if (head.getD 0 0) &&& stepModeMask ≠ stepModePbr then return none
  else
    match getRange step mode2FirstTone (mode2FirstTone + 4) with
    | none => fun _ => none
    | some pct =>
      let (i, q) := decodePct (pct.take 3)
      return some ⟨head.getD 1 0, i, q, pct.getD 3 0⟩

def parse (body : Bytes) : Option RangingData :=
  match body with
  | low :: high :: power :: mask :: _ :: _ :: _ :: _ :: _ :: _ :: level :: count :: steps => do
    let header := U16.fromLeBytes low high
    let (tones, _) ← Reading.times readStep count.toNat steps
    return {
      rangingCounter := header &&& rangingCounterMask
      configId := (header >>> configIdShift).toUInt8 &&& configIdMask
      selectedTxPower := power.toInt8
      antennaPathsMask := mask
      referencePowerLevel := level.toInt8
      tones := tones.filterMap id }
  | _ => none

/-- Fields as wide as they are in the body. -/
structure InRange (data : RangingData) : Prop where
  rangingCounter : data.rangingCounter < 0x1000
  configId : data.configId < 0x10
  samples : ∀ tone ∈ data.tones, -2048 ≤ tone.i.toInt ∧ tone.i.toInt < 2048 ∧
    -2048 ≤ tone.q.toInt ∧ tone.q.toInt < 2048

end RangingData

/-! ## Samples -/

theorem low_bits (n : Nat) : n &&& 0x0FFF = n % 4096 := Nat.and_two_pow_sub_one_eq_mod n 12

theorem sign_bit {n : Nat} (small : n < 4096) : n &&& 0x0800 ≠ 0 ↔ 2048 ≤ n := by
  have bit : n &&& 0x0800 = (n.testBit 11).toNat * 2 ^ 11 := Nat.and_two_pow n 11
  rw [bit, Nat.testBit_eq_decide_div_mod_eq]
  by_cases set : n / 2 ^ 11 % 2 = 1
  · simp only [set, decide_true, Bool.toNat_true]
    omega
  · simp only [set, decide_false, Bool.toNat_false]
    omega

theorem signExtend12_toUInt16 {sample : Int16} (low : -2048 ≤ sample.toInt)
    (high : sample.toInt < 2048) : signExtend12 (sample.toUInt16.toNat % 4096) = sample := by
  have signed : sample.toInt = sample.toBitVec.toInt := rfl
  have bounds : sample.toBitVec.toNat < 2048 ∨ 63488 ≤ sample.toBitVec.toNat := by
    rw [signed, BitVec.toInt_eq_toNat_cond] at low high
    split at low <;> omega
  have size : sample.toUInt16.toNat = sample.toBitVec.toNat := rfl
  have width : sample.toBitVec.toNat < 65536 := sample.toBitVec.isLt
  have small : sample.toBitVec.toNat % 4096 < 4096 := Nat.mod_lt _ (by decide)
  rw [signExtend12, size, low_bits, Nat.mod_mod]
  apply Int16.toBitVec_inj.mp
  apply BitVec.eq_of_toNat_eq
  rcases bounds with positive | negative
  · rw [if_neg (by rw [sign_bit small]; omega)]
    simp
    omega
  · rw [if_pos (by rw [sign_bit small]; omega)]
    simp
    omega

theorem joined_samples (i q : Nat) :
    (i % 4096 ||| ((q % 4096) <<< 12)) < 256 ^ 3 ∧
      (i % 4096 ||| ((q % 4096) <<< 12)) % 4096 = i % 4096 ∧
      (i % 4096 ||| ((q % 4096) <<< 12)) / 4096 = q % 4096 := by
  have sum : i % 4096 ||| ((q % 4096) <<< 12) = 2 ^ 12 * (q % 4096) + i % 4096 := by
    rw [Nat.two_pow_add_eq_or_of_lt (Nat.mod_lt i (by decide)), Nat.or_comm, Nat.shiftLeft_eq,
      Nat.mul_comm]
  rw [sum]
  omega

theorem decodePct_packed {tone : Tone} (iLow : -2048 ≤ tone.i.toInt) (iHigh : tone.i.toInt < 2048)
    (qLow : -2048 ≤ tone.q.toInt) (qHigh : tone.q.toInt < 2048) :
    decodePct (packed tone) = (tone.i, tone.q) := by
  obtain ⟨fits, first, second⟩ := joined_samples tone.i.toUInt16.toNat tone.q.toUInt16.toNat
  simp only [decodePct, packed, reverse_reverse, low_bits, ofBe_toBe_of_lt fits,
    Nat.shiftRight_eq_div_pow]
  rw [first, second, signExtend12_toUInt16 iLow iHigh, signExtend12_toUInt16 qLow qHigh]

@[simp] theorem length_packed (tone : Tone) : (packed tone).length = 3 := by simp [packed]

/-! ## Bodies -/

namespace RangingData
open Reading

theorem recovers_step {tone : Tone} (iLow : -2048 ≤ tone.i.toInt) (iHigh : tone.i.toInt < 2048)
    (qLow : -2048 ≤ tone.q.toInt) (qHigh : tone.q.toInt < 2048) :
    Recovers readStep (step tone) (some tone) := by
  obtain ⟨a, b, c, entry⟩ := length_eq_three.mp (length_packed tone)
  have decoded := decodePct_packed iLow iHigh qLow qHigh
  rw [entry] at decoded
  have octets : step tone = [stepModePbr, tone.channel, 9] ++
      ([0, a, b, c, tone.quality, a, b, c, tone.quality] ++ []) := by
    rw [step, entry]
    rfl
  rw [octets]
  apply (recovers_take (n := 3) rfl).bind
  apply (recovers_take (n := 9) rfl).bind
  have mode : ¬ [stepModePbr, tone.channel, 9].getD 0 0 &&& stepModeMask ≠ stepModePbr :=
    not_not.mpr (by decide : stepModePbr &&& stepModeMask = stepModePbr)
  intro rest
  rw [if_neg mode]
  show (match decodePct [a, b, c] with
    | (i, q) => pure (some (⟨tone.channel, i, q, tone.quality⟩ : Tone)) : Reading (Option Tone))
      rest = some (some tone, rest)
  rw [decoded]
  rfl

theorem header_toNat {counter : UInt16} {config : UInt8} (small : counter < 0x1000)
    (narrow : config < 0x10) :
    ((counter &&& rangingCounterMask) |||
        ((config &&& configIdMask).toUInt16 <<< configIdShift)).toNat =
      2 ^ 12 * config.toNat + counter.toNat := by
  have low : counter.toNat < 2 ^ 12 := small
  have high : config.toNat < 2 ^ 4 := narrow
  have counted : counter.toNat &&& 0x0FFF = counter.toNat :=
    Nat.and_two_pow_sub_one_of_lt_two_pow (n := 12) low
  have configured : config.toNat &&& 0x0F = config.toNat :=
    Nat.and_two_pow_sub_one_of_lt_two_pow (n := 4) high
  have sum : counter.toNat ||| 4096 * config.toNat = 2 ^ 12 * config.toNat + counter.toNat := by
    rw [Nat.two_pow_add_eq_or_of_lt low, Nat.or_comm]
  have shifted : config.toNat <<< 12 % 65536 = 4096 * config.toNat := by
    rw [Nat.shiftLeft_eq]
    omega
  simp only [rangingCounterMask, configIdMask, configIdShift, UInt16.toNat_or, UInt16.toNat_and,
    UInt16.toNat_shiftLeft, UInt8.toNat_toUInt16, UInt8.toNat_and, UInt8.reduceToNat,
    UInt16.reduceToNat, counted, configured]
  exact (congrArg (counter.toNat ||| ·) shifted).trans sum

theorem header_fields {counter : UInt16} {config : UInt8} (small : counter < 0x1000)
    (narrow : config < 0x10) {header : UInt16}
    (joined : header.toNat = 2 ^ 12 * config.toNat + counter.toNat) :
    header &&& rangingCounterMask = counter ∧
      (header >>> configIdShift).toUInt8 &&& configIdMask = config := by
  have low : counter.toNat < 2 ^ 12 := small
  have high : config.toNat < 2 ^ 4 := narrow
  constructor
  · apply UInt16.toNat_inj.mp
    rw [UInt16.toNat_and, joined]
    exact (Nat.and_two_pow_sub_one_eq_mod _ 12).trans (by omega)
  · apply UInt8.toNat_inj.mp
    have shifted : (header >>> configIdShift).toUInt8.toNat = config.toNat := by
      simp [configIdShift, joined, Nat.shiftRight_eq_div_pow]
      omega
    rw [UInt8.toNat_and, shifted]
    exact Nat.and_two_pow_sub_one_of_lt_two_pow (n := 4) high

theorem parse_toBytes {data : RangingData} (fits : data.InRange) :
    parse data.toBytes =
      some { data with tones := data.tones.take (data.tones.length % 256) } := by
  have fewer : data.tones.length % 256 ≤ data.tones.length := Nat.mod_le _ _
  have each : ∀ tone ∈ (data.tones.take (data.tones.length % 256)).map some,
      Recovers readStep (tone.elim [] step) tone := by
    intro tone inside
    obtain ⟨tone, here, rfl⟩ := mem_map.mp inside
    obtain ⟨iLow, iHigh, qLow, qHigh⟩ := fits.samples tone (mem_of_mem_take here)
    exact recovers_step iLow iHigh qLow qHigh
  have read := recovers_times each ((data.tones.drop (data.tones.length % 256)).flatMap step)
  have octets : ((data.tones.take (data.tones.length % 256)).map some).flatMap
        (fun tone => tone.elim [] step) ++
      (data.tones.drop (data.tones.length % 256)).flatMap step = data.tones.flatMap step := by
    rw [flatMap_map]
    show (data.tones.take _).flatMap step ++ _ = _
    rw [← flatMap_append, take_append_drop]
  have count : ((data.tones.take (data.tones.length % 256)).map some).length =
      (UInt8.ofNat data.tones.length).toNat := by
    rw [length_map, length_take_of_le fewer, UInt8.toNat_ofNat']
  rw [octets, count] at read
  have joined := header_toNat fits.rangingCounter fits.configId
  obtain ⟨counter, config⟩ := header_fields fits.rangingCounter fits.configId joined
  have kept : ((data.tones.take (data.tones.length % 256)).map some).filterMap id =
      data.tones.take (data.tones.length % 256) := by
    simp [filterMap_map]
  simp only [toBytes, U16.toLeBytes, cons_append, nil_append, parse, read,
    U16.fromLeBytes_toLeBytes, counter, config, Int8.toInt8_toUInt8]
  exact congrArg (fun tones => some { data with tones }) kept

/-- A body is read back exactly if its count octet holds the number of its tones. -/
theorem parse_toBytes_iff {data : RangingData} (fits : data.InRange) :
    parse data.toBytes = some data ↔ data.tones.length ≤ 255 := by
  rw [parse_toBytes fits]
  constructor
  · intro same
    have tones := congrArg (fun data : RangingData => data.tones.length) (Option.some.inj same)
    simp only [length_take] at tones
    omega
  · intro few
    rw [Nat.mod_eq_of_lt (by omega), take_length]

end RangingData

/-! ## Segments -/

namespace Segmentation

def first : UInt8 := 0x01
def last : UInt8 := 0x02
def counterShift : UInt8 := 2

end Segmentation

/-- The octet before each of `count` chunks. -/
def flags (index count : Nat) : UInt8 :=
  ((UInt8.ofNat index &&& 0x3F) <<< Segmentation.counterShift) |||
    (if index = 0 then Segmentation.first else 0) |||
    (if index + 1 = count then Segmentation.last else 0)

def segment (body : Bytes) (maxPayload : Nat) : List Bytes :=
  if room : maxPayload < 2 then []
  else
    let chunks := pieces ⟨maxPayload - 1, by omega⟩ body
    chunks.mapIdx fun index chunk => flags index chunks.length :: chunk

structure Reassembler where
  body : Bytes
  started : Bool
  expectedCounter : UInt8
deriving DecidableEq

namespace Reassembler

def new : Reassembler := ⟨[], false, 0⟩

def reset (_ : Reassembler) : Reassembler := ⟨[], false, 0⟩

def counter (flags : UInt8) : UInt8 := flags >>> Segmentation.counterShift

def isFirst (flags : UInt8) : Bool := flags &&& Segmentation.first ≠ 0

def isLast (flags : UInt8) : Bool := flags &&& Segmentation.last ≠ 0

def nextCounter (flags : UInt8) : UInt8 := (counter flags + 1) &&& 0x3F

def push (reassembler : Reassembler) : Bytes → Reassembler × Option Bytes
  | [] => (reassembler, none)
  | flags :: payload =>
    if isFirst flags = false ∧
        (reassembler.started = false ∨ counter flags ≠ reassembler.expectedCounter) then
      (reassembler.reset, none)
    else
      let sofar := if isFirst flags then [] else reassembler.body
      if isLast flags then (⟨[], false, nextCounter flags⟩, some (sofar ++ payload))
      else (⟨sofar ++ payload, true, nextCounter flags⟩, none)

end Reassembler

/-! ## Chains of segments -/

open Reassembler

/-- Segments that go on from one that was not the last: none is a first segment, each carries the
expected counter, and only the last says that it is. They carry the rest of a body. -/
inductive Continues : UInt8 → List Bytes → Bytes → Prop where
  | last {flags : UInt8} {payload : Bytes} (later : isFirst flags = false)
      (ends : isLast flags = true) : Continues (counter flags) [flags :: payload] payload
  | more {flags : UInt8} {payload rest : Bytes} {segments : List Bytes}
      (later : isFirst flags = false) (goes : isLast flags = false)
      (others : Continues (nextCounter flags) segments rest) :
      Continues (counter flags) ((flags :: payload) :: segments) (payload ++ rest)

inductive Chain : List Bytes → Bytes → Prop where
  | single {flags : UInt8} {payload : Bytes} (starts : isFirst flags = true)
      (ends : isLast flags = true) : Chain [flags :: payload] payload
  | more {flags : UInt8} {payload rest : Bytes} {segments : List Bytes}
      (starts : isFirst flags = true) (goes : isLast flags = false)
      (others : Continues (nextCounter flags) segments rest) :
      Chain ((flags :: payload) :: segments) (payload ++ rest)

/-! What one segment does. -/

variable {reassembler : Reassembler}

theorem push_unexpected {flags : UInt8} {payload : Bytes} (later : isFirst flags = false)
    (unexpected : reassembler.started = false ∨ counter flags ≠ reassembler.expectedCounter) :
    reassembler.push (flags :: payload) = (.new, none) := if_pos ⟨later, unexpected⟩

theorem push_first {flags : UInt8} {payload : Bytes} (starts : isFirst flags = true) :
    reassembler.push (flags :: payload) =
      if isLast flags then (⟨[], false, nextCounter flags⟩, some payload)
      else (⟨payload, true, nextCounter flags⟩, none) := by
  simp [push, starts]

theorem push_next {flags : UInt8} {payload : Bytes} (later : isFirst flags = false)
    (started : reassembler.started = true) (expected : counter flags =
      reassembler.expectedCounter) :
    reassembler.push (flags :: payload) =
      if isLast flags then (⟨[], false, nextCounter flags⟩, some (reassembler.body ++ payload))
      else (⟨reassembler.body ++ payload, true, nextCounter flags⟩, none) := by
  simp [push, later, started, expected]

def bodies (reassembler : Reassembler) (segments : List Bytes) : List Bytes :=
  (feed (m := Id) push reassembler segments).2.filterMap id

theorem bodies_cons (reassembler : Reassembler) (segment : Bytes) (rest : List Bytes) :
    bodies reassembler (segment :: rest) =
      (reassembler.push segment).2.toList ++ bodies (reassembler.push segment).1 rest := by
  show ((reassembler.push segment).2 ::
    (feed (m := Id) push (reassembler.push segment).1 rest).2).filterMap id = _
  cases complete : (reassembler.push segment).2 <;> simp [bodies]

variable {segments : List Bytes}

theorem continues_cons {expected flags : UInt8} {payload rest : Bytes} :
    Continues expected ((flags :: payload) :: segments) rest ↔
      isFirst flags = false ∧ counter flags = expected ∧
      ((isLast flags = true ∧ segments = [] ∧ rest = payload) ∨
        (isLast flags = false ∧ ∃ more, Continues (nextCounter flags) segments more ∧
          rest = payload ++ more)) := by
  constructor
  · intro continues
    cases continues with
    | last later ends => exact ⟨later, rfl, .inl ⟨ends, rfl, rfl⟩⟩
    | more later goes others => exact ⟨later, rfl, .inr ⟨goes, _, others, rfl⟩⟩
  · rintro ⟨later, rfl, ⟨ends, rfl, rfl⟩ | ⟨goes, more, others, rfl⟩⟩
    · exact .last later ends
    · exact .more later goes others

theorem chain_cons {flags : UInt8} {payload body : Bytes} :
    Chain ((flags :: payload) :: segments) body ↔ isFirst flags = true ∧
      ((isLast flags = true ∧ segments = [] ∧ body = payload) ∨
        (isLast flags = false ∧ ∃ more, Continues (nextCounter flags) segments more ∧
          body = payload ++ more)) := by
  constructor
  · intro chain
    cases chain with
    | single starts ends => exact ⟨starts, .inl ⟨ends, rfl, rfl⟩⟩
    | more starts goes others => exact ⟨starts, .inr ⟨goes, _, others, rfl⟩⟩
  · rintro ⟨starts, ⟨ends, rfl, rfl⟩ | ⟨goes, more, others, rfl⟩⟩
    · exact .single starts ends
    · exact .more starts goes others

theorem chain_head {segment body : Bytes} {rest : List Bytes} (chain : Chain (segment :: rest) body) :
    ∃ flags payload, segment = flags :: payload := by
  cases chain with
  | single => exact ⟨_, _, rfl⟩
  | more => exact ⟨_, _, rfl⟩

def Holds (segments : List Bytes) (body : Bytes) : Prop :=
  ∃ before chain after, segments = before ++ chain ++ after ∧ Chain chain body

def Ends (expected : UInt8) (segments : List Bytes) (rest : Bytes) : Prop :=
  ∃ chain after, segments = chain ++ after ∧ Continues expected chain rest

theorem ends_cons {expected flags : UInt8} {payload rest : Bytes} :
    Ends expected ((flags :: payload) :: segments) rest ↔
      isFirst flags = false ∧ counter flags = expected ∧
      ((isLast flags = true ∧ rest = payload) ∨
        (isLast flags = false ∧ ∃ more, Ends (nextCounter flags) segments more ∧
          rest = payload ++ more)) := by
  constructor
  · rintro ⟨chain, after, split, continues⟩
    cases chain with
    | nil => cases continues
    | cons segment chain =>
      obtain ⟨rfl, rfl⟩ := List.cons.inj split
      obtain ⟨later, same, ⟨ends, -, rfl⟩ | ⟨goes, more, others, rfl⟩⟩ := continues_cons.mp continues
      · exact ⟨later, same, .inl ⟨ends, rfl⟩⟩
      · exact ⟨later, same, .inr ⟨goes, more, ⟨chain, after, rfl, others⟩, rfl⟩⟩
  · rintro ⟨later, same, ⟨ends, rfl⟩ | ⟨goes, more, ⟨chain, after, rfl, others⟩, rfl⟩⟩
    · exact ⟨[flags :: rest], segments, rfl, continues_cons.mpr ⟨later, same, .inl ⟨ends, rfl, rfl⟩⟩⟩
    · exact ⟨(flags :: payload) :: chain, after, rfl,
        continues_cons.mpr ⟨later, same, .inr ⟨goes, more, others, rfl⟩⟩⟩

theorem holds_cons {flags : UInt8} {payload body : Bytes} :
    Holds ((flags :: payload) :: segments) body ↔ Holds segments body ∨
      (isFirst flags = true ∧ ((isLast flags = true ∧ body = payload) ∨
        (isLast flags = false ∧ ∃ more, Ends (nextCounter flags) segments more ∧
          body = payload ++ more))) := by
  constructor
  · rintro ⟨before, chain, after, split, whole⟩
    cases before with
    | cons segment before =>
      obtain ⟨-, rfl⟩ := List.cons.inj split
      exact .inl ⟨before, chain, after, rfl, whole⟩
    | nil =>
      cases chain with
      | nil => cases whole
      | cons segment chain =>
        obtain ⟨rfl, rfl⟩ := List.cons.inj split
        obtain ⟨starts, ⟨ends, -, rfl⟩ | ⟨goes, more, others, rfl⟩⟩ := chain_cons.mp whole
        · exact .inr ⟨starts, .inl ⟨ends, rfl⟩⟩
        · exact .inr ⟨starts, .inr ⟨goes, more, ⟨chain, after, rfl, others⟩, rfl⟩⟩
  · rintro (⟨before, chain, after, rfl, whole⟩ |
      ⟨starts, ⟨ends, rfl⟩ | ⟨goes, more, ⟨chain, after, rfl, others⟩, rfl⟩⟩)
    · exact ⟨(flags :: payload) :: before, chain, after, rfl, whole⟩
    · exact ⟨[], [flags :: body], segments, rfl, chain_cons.mpr ⟨starts, .inl ⟨ends, rfl, rfl⟩⟩⟩
    · exact ⟨[], (flags :: payload) :: chain, after, rfl,
        chain_cons.mpr ⟨starts, .inr ⟨goes, more, others, rfl⟩⟩⟩

theorem not_ends_nil {expected : UInt8} {rest : Bytes} : ¬ Ends expected [] rest := by
  rintro ⟨chain, after, none, continues⟩
  cases continues <;> cases none

theorem not_holds_nil {body : Bytes} : ¬ Holds [] body := by
  rintro ⟨before, chain, after, none, whole⟩
  simp only [nil_eq, append_eq_nil_iff] at none
  rw [none.1.2] at whole
  cases whole

/-- The bodies returned are those that chains of the segments carry: chains that lie in
them as they are, and the rest of one that was begun. -/
theorem mem_bodies_iff (nonempty : ∀ segment ∈ segments, segment ≠ []) (reassembler : Reassembler)
    (body : Bytes) :
    body ∈ bodies reassembler segments ↔ Holds segments body ∨
      (reassembler.started = true ∧ ∃ rest, Ends reassembler.expectedCounter segments rest ∧
        body = reassembler.body ++ rest) := by
  induction segments generalizing reassembler with
  | nil =>
    show body ∈ ([] : List Bytes) ↔ _
    simp [not_holds_nil, not_ends_nil]
  | cons segment rest ih =>
    obtain ⟨flags, payload, rfl⟩ : ∃ flags payload, segment = flags :: payload :=
      exists_cons_of_ne_nil (nonempty segment mem_cons_self)
    have others := ih fun other inside => nonempty other (mem_cons_of_mem _ inside)
    rw [bodies_cons, mem_append, holds_cons]
    cases starts : isFirst flags with
    | true =>
      rw [push_first starts]
      cases ends : isLast flags with
      | true =>
        simp only [if_true, Option.toList_some, mem_singleton, others, ends_cons, starts, ends]
        simp [or_comm]
      | false =>
        simp only [Bool.false_eq_true, if_false, Option.toList_none, others, ends_cons, starts, ends]
        simp
    | false =>
      by_cases expected : reassembler.started = true ∧ counter flags = reassembler.expectedCounter
      · rw [push_next starts expected.1 expected.2]
        cases ends : isLast flags with
        | true =>
          simp only [if_true, Option.toList_some, mem_singleton, others, ends_cons, starts, ends,
            expected.1, expected.2]
          simp [or_comm]
        | false =>
          simp only [Bool.false_eq_true, if_false, Option.toList_none, others, ends_cons, starts,
            ends, expected.1, expected.2]
          simp [append_assoc]
      · have unexpected : reassembler.started = false ∨
            counter flags ≠ reassembler.expectedCounter := by
          rw [← Bool.not_eq_true]
          exact not_and_or.mp expected
        rw [push_unexpected starts unexpected]
        simp only [Option.toList_none, not_mem_nil, false_or, others, new, ends_cons, starts,
          Bool.false_eq_true, false_and, or_false]
        constructor
        · exact .inl
        · rintro (inside | ⟨started, more, ⟨-, same, -⟩, -⟩)
          · exact inside
          · exact absurd ⟨started, same⟩ expected

theorem mem_bodies_new_iff (nonempty : ∀ segment ∈ segments, segment ≠ []) (body : Bytes) :
    body ∈ bodies .new segments ↔ Holds segments body := by
  rw [mem_bodies_iff nonempty]
  simp [new]

/-! ## The segments of a body -/

theorem feed_continues {expected : UInt8} {rest : Bytes}
    (continues : Continues expected segments rest) (sofar : Bytes) : 0 < segments.length ∧
    ∃ last, feed (m := Id) push ⟨sofar, true, expected⟩ segments =
      (last, once segments.length (sofar ++ rest)) := by
  induction continues generalizing sofar with
  | @last flags payload later ends =>
    have pushed : push ⟨sofar, true, counter flags⟩ (flags :: payload) =
        (⟨[], false, nextCounter flags⟩, some (sofar ++ payload)) := by
      rw [push_next later rfl rfl, if_pos ends]
    exact ⟨Nat.one_pos, _, feed_step (m := Id) pushed rfl⟩
  | @more flags payload rest segments later goes others ih =>
    have pushed : push ⟨sofar, true, counter flags⟩ (flags :: payload) =
        (⟨sofar ++ payload, true, nextCounter flags⟩, none) := by
      rw [push_next later rfl rfl, if_neg (by rw [goes]; decide)]
    obtain ⟨positive, last, fed⟩ := ih (sofar ++ payload)
    rw [append_assoc] at fed
    refine ⟨Nat.succ_pos _, last, ?_⟩
    rw [length_cons, once_succ positive]
    exact feed_step (m := Id) pushed fed

theorem feed_chain {body : Bytes} (chain : Chain segments body) (reassembler : Reassembler) :
    ∃ last,
    feed (m := Id) push reassembler segments = (last, once segments.length body) := by
  cases chain with
  | @single flags payload starts ends =>
    have pushed : push reassembler (flags :: body) =
        (⟨[], false, nextCounter flags⟩, some body) := by
      rw [push_first starts, if_pos ends]
    exact ⟨_, feed_step (m := Id) pushed rfl⟩
  | @more flags payload rest segments starts goes others =>
    have pushed : push reassembler (flags :: payload) =
        (⟨payload, true, nextCounter flags⟩, none) := by
      rw [push_first starts, if_neg (by rw [goes]; decide)]
    obtain ⟨positive, last, fed⟩ := feed_continues others payload
    refine ⟨last, ?_⟩
    rw [length_cons, once_succ positive]
    exact feed_step (m := Id) pushed fed

theorem low_six (index : Nat) : UInt8.ofNat index &&& 0x3F = UInt8.ofNat (index % 64) := by
  apply UInt8.toNat_inj.mp
  rw [UInt8.toNat_and, UInt8.toNat_ofNat', UInt8.toNat_ofNat']
  exact (Nat.and_two_pow_sub_one_eq_mod _ 6).trans (by omega)

theorem fields : ∀ n < 64, ∀ isOne isTwo : Bool,
    let octet := (UInt8.ofNat n <<< 2) ||| (if isOne then 1 else 0) ||| (if isTwo then 2 else 0)
    counter octet = UInt8.ofNat n ∧ isFirst octet = isOne ∧ isLast octet = isTwo ∧
      nextCounter octet = UInt8.ofNat ((n + 1) % 64) := by
  decide

theorem flags_fields (index count : Nat) :
    counter (flags index count) = UInt8.ofNat (index % 64) ∧
      isFirst (flags index count) = decide (index = 0) ∧
      isLast (flags index count) = decide (index + 1 = count) ∧
      nextCounter (flags index count) = UInt8.ofNat ((index + 1) % 64) := by
  obtain ⟨count', first, last, next⟩ := fields (index % 64) (Nat.mod_lt _ (by decide))
    (decide (index = 0)) (decide (index + 1 = count))
  have same : flags index count = (UInt8.ofNat (index % 64) <<< 2) |||
      (if decide (index = 0) then 1 else 0) ||| (if decide (index + 1 = count) then 2 else 0) := by
    rw [flags, low_six]
    simp only [decide_eq_true_eq]
    rfl
  rw [← same] at count' first last next
  refine ⟨count', first, last, next.trans ?_⟩
  rw [Nat.mod_add_mod]

variable {size : ℕ+}

theorem pieces_left {body : Bytes} (exceeds : size < body.length) :
    body.drop size ≠ [] ∧ 0 < (pieces size (body.drop size)).length := by
  have others : body.drop size ≠ [] := by
    apply ne_nil_of_length_pos
    rw [length_drop]
    omega
  refine ⟨others, length_pos_iff.mpr fun none => others ?_⟩
  have joined := (pieces_spec size (body.drop size)).1
  rw [none] at joined
  exact joined.symm

theorem continues_pieces {body : Bytes} (nonempty : body ≠ []) (index : Nat) {count : Nat}
    (inside : 0 < index) (total : count = index + (pieces size body).length) :
    Continues (UInt8.ofNat (index % 64))
      ((pieces size body).mapIdx fun i chunk => flags (index + i) count :: chunk) body := by
  induction body using piecewise size generalizing index with
  | last body fits =>
    have whole := pieces_of_le (length_pos_iff.mpr nonempty) fits
    rw [whole] at total ⊢
    obtain ⟨counted, first, last, -⟩ := flags_fields index count
    rw [← counted]
    refine .last ?_ ?_
    · rw [first]
      exact decide_eq_false (by omega)
    · rw [last, total]
      exact decide_eq_true rfl
  | more body exceeds ih =>
    have split := pieces_of_lt exceeds
    obtain ⟨others, later⟩ := pieces_left exceeds
    rw [split] at total ⊢
    rw [length_cons] at total
    obtain ⟨counted, first, last, next⟩ := flags_fields index count
    have rest := ih others (index + 1) (Nat.succ_pos _) (by omega)
    rw [← next] at rest
    have moved : ∀ i, index + 1 + i = index + (i + 1) := fun i => by omega
    simp only [moved] at rest
    have continued := @Continues.more _ (body.take size) _ _ (by
      rw [first]
      exact decide_eq_false (by omega)) (by
      rw [last]
      exact decide_eq_false (by omega)) rest
    rw [counted, take_append_drop] at continued
    simpa only [mapIdx_cons, Nat.add_zero] using continued

theorem chain_pieces (size : ℕ+) {body : Bytes} (nonempty : body ≠ []) :
    Chain ((pieces size body).mapIdx fun i chunk => flags i (pieces size body).length :: chunk)
      body := by
  rcases Nat.lt_or_ge size body.length with exceeds | fits
  · obtain ⟨others, later⟩ := pieces_left exceeds
    rw [pieces_of_lt exceeds]
    obtain ⟨-, first, last, next⟩ := flags_fields 0 ((pieces size (body.drop size)).length + 1)
    have rest := @continues_pieces size (body.drop size) others 1 _ Nat.one_pos
      (Nat.add_comm (pieces size (body.drop size)).length 1)
    have moved : ∀ i, 1 + i = i + 1 := fun i => Nat.add_comm 1 i
    simp only [moved] at rest
    have chain := @Chain.more _ (body.take size) _ _ first (by
      rw [last]
      exact decide_eq_false (by omega)) (by
      rw [next]
      exact rest)
    rw [take_append_drop] at chain
    simpa only [mapIdx_cons, length_cons] using chain
  · rw [pieces_of_le (length_pos_iff.mpr nonempty) fits]
    obtain ⟨-, first, last, -⟩ := flags_fields 0 1
    exact .single first last

theorem chain_segment {body : Bytes} (nonempty : body ≠ []) {maxPayload : Nat}
    (room : 2 ≤ maxPayload) : Chain (segment body maxPayload) body := by
  rw [segment, dif_neg (by omega)]
  exact chain_pieces _ nonempty

theorem segment_nil (maxPayload : Nat) : segment [] maxPayload = [] := by
  unfold segment
  split
  · rfl
  · refine mapIdx_eq_nil_iff.mpr (eq_nil_iff_forall_not_mem.mpr fun piece inside => ?_)
    obtain ⟨joined, each⟩ := pieces_spec ⟨maxPayload - 1, by omega⟩ ([] : Bytes)
    exact (each piece inside).1 (flatten_eq_nil_iff.mp joined piece inside)

def sent (bodies : List (Bytes × Nat)) : List Bytes :=
  bodies.flatMap fun body => segment body.1 body.2

theorem segment_nonempty (body : Bytes) (maxPayload : Nat) :
    ∀ part ∈ segment body maxPayload, part ≠ [] := by
  unfold segment
  split
  · simp
  · intro part inside
    obtain ⟨i, -, rfl⟩ := mem_mapIdx.mp inside
    exact cons_ne_nil _ _

theorem bodies_append (reassembler : Reassembler) (first second : List Bytes) :
    bodies reassembler (first ++ second) =
      bodies reassembler first ++ bodies (feed (m := Id) push reassembler first).1 second := by
  induction first generalizing reassembler with
  | nil => rfl
  | cons segment rest ih =>
    rw [cons_append, bodies_cons, bodies_cons, ih, append_assoc]
    rfl

/-- Nothing but bodies that were sent is returned when no segment is lost. -/
theorem bodies_sent (all : List (Bytes × Nat)) (reassembler : Reassembler) :
    ∀ body ∈ bodies reassembler (sent all), body ∈ all.map Prod.fst := by
  induction all generalizing reassembler with
  | nil => simp [sent, bodies, pure]
  | cons entry rest ih =>
    obtain ⟨body, maxPayload⟩ := entry
    intro returned inside
    rw [sent, flatMap_cons, bodies_append, mem_append] at inside
    rcases inside with here | later
    · by_cases carries : body ≠ [] ∧ 2 ≤ maxPayload
      · obtain ⟨last, fed⟩ := feed_chain (chain_segment carries.1 carries.2) reassembler
        rw [bodies, fed] at here
        simp only [once, mem_filterMap, mem_append, mem_replicate, id,
          mem_singleton] at here
        obtain ⟨given, given', rfl⟩ := here
        rcases given' with ⟨-, none⟩ | same
        · cases none
        · cases same
          exact mem_cons_self
      · have none : segment body maxPayload = [] := by
          by_cases room : 2 ≤ maxPayload
          · have empty : body = [] := by
              by_contra nonempty
              exact carries ⟨nonempty, room⟩
            rw [empty, segment_nil]
          · exact dif_pos (Nat.lt_of_not_le room)
        rw [none] at here
        cases here
    · exact mem_cons_of_mem _ (ih _ returned later)

/-! ## Losses -/

/-- Two segments that follow one another in what was received, with their places in what
was sent, do not look like neighbours unless they were. -/
def Told (before after : Bytes × Nat) : Prop :=
  ∀ flags payload flags' payload', before.1 = flags :: payload → after.1 = flags' :: payload' →
    isLast flags = false → isFirst flags' = false → counter flags' = nextCounter flags →
    after.2 = before.2 + 1

/-- Segments received, with their places, of which no two are taken for neighbours that
were not. -/
def Tells (places : List (Bytes × Nat)) : Prop :=
  ∀ before first second after, places = before ++ first :: second :: after → Told first second

variable {all : List (Bytes × Nat)} {places : List (Bytes × Nat)}

theorem drop_of_placed {place : Nat} {segment : Bytes} (placed : segments[place]? = some segment) :
    segments.drop place = segment :: segments.drop (place + 1) := by
  obtain ⟨inside, rfl⟩ := List.getElem?_eq_some_iff.mp placed
  exact drop_eq_getElem_cons inside

theorem continues_sent (tells : Tells places)
    (placed : ∀ place ∈ places, (sent all)[place.2]? = some place.1) {expected : UInt8}
    {chain : List Bytes} {rest : Bytes} (continues : Continues expected chain rest)
    {before after : List (Bytes × Nat)} {octet : UInt8} {front : Bytes} {place : Nat}
    (begun : isLast octet = false) (next : nextCounter octet = expected)
    {later : List (Bytes × Nat)} (carried : later.map Prod.fst = chain)
    (split : places = before ++ (octet :: front, place) :: (later ++ after)) :
    ∃ tail, (sent all).drop (place + 1) = chain ++ tail := by
  induction continues generalizing before octet front place later with
  | @last flags payload others ends =>
    obtain ⟨⟨_, second⟩, rfl, rfl⟩ := map_eq_singleton_iff.mp carried
    have beside : second = place + 1 := tells before (octet :: front, place) (flags :: payload, second)
      after split octet front flags payload rfl rfl begun others next.symm
    have there := placed (flags :: payload, second) (by rw [split]; simp)
    rw [beside] at there
    exact ⟨_, drop_of_placed there⟩
  | @more flags payload rest chain others goes continues ih =>
    obtain ⟨⟨_, second⟩, others', rfl, rfl, same⟩ := map_eq_cons_iff.mp carried
    have beside : second = place + 1 := tells before (octet :: front, place) (flags :: payload, second)
      (others' ++ after) split octet front flags payload rfl rfl begun others next.symm
    have there := placed (flags :: payload, second) (by rw [split]; simp)
    rw [beside] at there
    obtain ⟨tail, further⟩ := @ih (before ++ [(octet :: front, place)]) flags payload second goes
      rfl others' same (by rw [split]; simp)
    rw [beside] at further
    exact ⟨tail, by rw [drop_of_placed there, further, cons_append]⟩

/-- A chain of segments of which no two are taken for neighbours that were not lies in what
was sent. -/
theorem chain_sent (tells : Tells places)
    (placed : ∀ place ∈ places, (sent all)[place.2]? = some place.1)
    {before after : List Bytes} {chain : List Bytes} {body : Bytes}
    (split : places.map Prod.fst = before ++ chain ++ after) (whole : Chain chain body) :
    Holds (sent all) body := by
  obtain ⟨front, others, rfl, rfl, back⟩ := map_eq_append_iff.mp
    (split.trans (append_assoc _ _ _))
  obtain ⟨middle, last, rfl, rfl, rfl⟩ := map_eq_append_iff.mp back
  cases middle with
  | nil => cases whole
  | cons first later =>
    obtain ⟨segment, place⟩ := first
    have there := placed (segment, place) (by simp)
    have start := drop_of_placed there
    have parts : (sent all).take place ++ (sent all).drop place = sent all :=
      take_append_drop _ _
    rw [map_cons] at whole
    obtain ⟨flags, payload, rfl⟩ := chain_head whole
    obtain ⟨starts, state⟩ := chain_cons.mp whole
    have behind : ∃ tail, (sent all).drop (place + 1) = later.map Prod.fst ++ tail := by
      rcases state with ⟨-, none, -⟩ | ⟨goes, more, continues, -⟩
      · rw [none]
        exact ⟨_, rfl⟩
      · exact @continues_sent all _ tells placed _ _ _ continues front last flags payload place goes
          rfl later rfl (by simp)
    obtain ⟨tail, behind⟩ := behind
    refine ⟨(sent all).take place, _, tail, ?_, whole⟩
    rw [append_assoc, cons_append, ← behind, ← start, parts]

/-- Ranging Data is read back exactly if its count octet holds the number of its tones; the
segments of a body are put together at the last of them, whatever came before; what is returned
when segments were lost are bodies that were sent if no two segments are taken for neighbours that
were not, and exactly if every chain that lies in the segments carries one. -/
theorem ranging_data_survives (data : RangingData) (body : Bytes) (maxPayload : Nat)
    (reassembler : Reassembler) (all : List (Bytes × Nat)) (places : List (Bytes × Nat)) :
    (data.InRange → (RangingData.parse data.toBytes = some data ↔ data.tones.length ≤ 255)) ∧
    (body ≠ [] → 2 ≤ maxPayload →
      ∃ last, feed (m := Id) push reassembler (segment body maxPayload) =
        (last, once (segment body maxPayload).length body)) ∧
    (places.Sublist (sent all).zipIdx →
      ((∀ body ∈ bodies .new (places.map Prod.fst), body ∈ all.map Prod.fst) ↔
        ∀ before chain after body, places.map Prod.fst = before ++ chain ++ after →
          Chain chain body → body ∈ all.map Prod.fst) ∧
      (Tells places → ∀ before chain after body, places.map Prod.fst = before ++ chain ++ after →
        Chain chain body → body ∈ all.map Prod.fst)) := by
  have nonempty : ∀ part ∈ sent all, part ≠ [] := by
    intro part inside
    obtain ⟨body, -, part'⟩ := mem_flatMap.mp inside
    exact segment_nonempty body.1 body.2 part part'
  refine ⟨RangingData.parse_toBytes_iff, ?_, ?_⟩
  · intro nonempty room
    exact feed_chain (chain_segment nonempty room) reassembler
  · intro lost
    have placed : ∀ place ∈ places, (sent all)[place.2]? = some place.1 := fun place inside =>
      mem_zipIdx_iff_getElem?.mp (lost.subset inside)
    have received : ∀ part ∈ places.map Prod.fst, part ≠ [] := by
      intro part inside
      obtain ⟨place, here, rfl⟩ := mem_map.mp inside
      exact nonempty place.1 (mem_of_getElem? (placed place here))
    refine ⟨⟨?_, ?_⟩, ?_⟩
    · intro returned before chain after body split whole
      exact returned body ((mem_bodies_new_iff received body).mpr
        ⟨before, chain, after, split, whole⟩)
    · intro chains body inside
      obtain ⟨before, chain, after, split, whole⟩ := (mem_bodies_new_iff received body).mp inside
      exact chains before chain after body split whole
    · intro tells before chain after body split whole
      exact bodies_sent all .new body ((mem_bodies_new_iff nonempty body).mpr
        (chain_sent tells placed split whole))

/-- Two bodies in three segments each, of which the last of the first and the first two of
the second are lost: what is returned is spliced. -/
theorem spliced_body : bodies .new [[0x01, 1], [0x04, 2], [0x0A, 6]] = [[1, 2, 6]] ∧
    [([0x01, 1], 0), ([0x04, 2], 1), ([0x0A, 6], 5)].Sublist
      (sent [([1, 2, 3], 2), ([4, 5, 6], 2)]).zipIdx := by
  constructor
  · rfl
  · decide

/-- A body is put together whatever came before. Of two bodies the first one loses a segment,
and only the second one is returned. -/
theorem three_segments :
    (∃ last, feed (m := Id) push ⟨[9, 9], true, 5⟩ (segment [1, 2, 3] 2) =
      (last, [none, none, some [1, 2, 3]])) ∧
    ∃ received, received = [[0x01, 1], [0x0A, 3], [0x01, 4], [0x04, 5], [0x0A, 6]] ∧
      bodies .new received = [[4, 5, 6]] ∧
      ∀ body ∈ bodies .new received, body ∈ [[1, 2, 3], [4, 5, 6]] := by
  obtain ⟨-, whole, lossy⟩ := ranging_data_survives ⟨0, 0, 0, 0, 0, []⟩ [1, 2, 3] 2
    ⟨[9, 9], true, 5⟩ [([1, 2, 3], 2), ([4, 5, 6], 2)]
    [([0x01, 1], 0), ([0x0A, 3], 2), ([0x01, 4], 3), ([0x04, 5], 4), ([0x0A, 6], 5)]
  obtain ⟨returned, told⟩ := lossy (by decide)
  refine ⟨whole (by decide) (by decide), _, rfl, rfl, returned.mpr (told ?_)⟩
  have apart : IsChain Told [([0x01, 1], 0), ([0x0A, 3], 2), ([0x01, 4], 3), ([0x04, 5], 4),
      ([0x0A, 6], 5)] := by
    simp only [isChain_cons_cons, isChain_singleton, and_true]
    refine ⟨?_, ?_, ?_, ?_⟩ <;>
    · intro flags payload flags' payload' before after
      cases before
      cases after
      decide
  intro before first second after same
  exact isChain_iff_forall_rel_of_append_cons_cons.mp apart same

end Simble.Ras
