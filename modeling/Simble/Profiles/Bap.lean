import Mathlib.Data.List.Sort
import Simble.Lib.Reading
import Simble.Octets
import Simble.Text

/-! Entries of a length, a type and a value (`profiles/bap.rs`): walking them, and the codec
configurations, codec capabilities and metadata that are made of them. -/
namespace Simble.Bap
open Simble.Lib Simble.Lib.Reading List

/-! ## Entries -/

/-- `ltv_entries`, from an offset on: a slice that starts behind its end panics. -/
def ltvEntries (data : Bytes) : Rust (List (UInt8 × Bytes)) :=
  match data with
  | length :: tag :: rest =>
    let valueEnd := min (1 + length.toNat) (length :: tag :: rest).length
    match getRange (length :: tag :: rest) 2 valueEnd with
    | none => .error .panic
    | some value => do
      let later ← ltvEntries ((length :: tag :: rest).drop (1 + length.toNat))
      return (tag, value) :: later
  | _ => .ok []
termination_by data.length
decreasing_by
  rw [List.length_drop]
  simp only [List.length_cons]
  omega

/-- The number in the first four octets, least significant octet first. -/
def leUint (data : Bytes) : Nat := ofBe (data.take 4).reverse

/-- An entry as it is written. -/
def entry (tagged : UInt8 × Bytes) : Bytes :=
  UInt8.ofNat (tagged.2.length + 1) :: tagged.1 :: tagged.2

/-- An entry of length zero, of which not even the type is there: whole entries lie before
it, and an octet behind it. -/
inductive HasEmpty : Bytes → Prop where
  | here (tag : UInt8) (rest : Bytes) : HasEmpty (0 :: tag :: rest)
  | behind {length : UInt8} (tag : UInt8) {rest : Bytes} (positive : length ≠ 0)
      (later : HasEmpty (rest.drop (length.toNat - 1))) : HasEmpty (length :: tag :: rest)

theorem ltvEntries_nil : ltvEntries [] = .ok [] := by rw [ltvEntries]; simp

theorem ltvEntries_one (octet : UInt8) : ltvEntries [octet] = .ok [] := by
  rw [ltvEntries]
  simp

theorem ltvEntries_zero (tag : UInt8) (rest : Bytes) :
    ltvEntries (0 :: tag :: rest) = .error .panic := by
  rw [ltvEntries]
  rfl

theorem ltvEntries_cons {length : UInt8} (tag : UInt8) (rest : Bytes) (positive : length ≠ 0) :
    ltvEntries (length :: tag :: rest) = (do
      let later ← ltvEntries (rest.drop (length.toNat - 1))
      return (tag, rest.take (length.toNat - 1)) :: later) := by
  obtain ⟨n, size⟩ : ∃ n, length.toNat = n + 1 :=
    Nat.exists_eq_succ_of_ne_zero fun zero => positive (UInt8.toNat_inj.mp zero)
  have sliced : getRange (length :: tag :: rest) 2
      (min (1 + length.toNat) (length :: tag :: rest).length) = some (rest.take n) := by
    rw [getRange, if_pos (by simp only [length_cons]; omega), size, length_cons,
      length_cons]
    rcases Nat.lt_or_ge (rest.length) n with short | long
    · rw [Nat.min_eq_right (by omega), take_of_length_le (by simp), take_of_length_le
        (Nat.le_of_lt short)]
      rfl
    · have sum : min (1 + (n + 1)) (rest.length + 2) = n + 2 := by omega
      rw [sum]
      rfl
  have left : (length :: tag :: rest).drop (1 + length.toNat) = rest.drop n := by
    rw [size, show 1 + (n + 1) = n + 2 by omega]
    rfl
  rw [ltvEntries, left, size, Nat.add_sub_cancel]
  rw [← size, sliced]

theorem ltvEntries_iff (data : Bytes) :
    (HasEmpty data ∧ ltvEntries data = .error .panic) ∨
      (¬ HasEmpty data ∧ ∃ entries, ltvEntries data = .ok entries) := by
  induction size : data.length using Nat.strong_induction_on generalizing data with
  | _ count ih =>
    rcases data with _ | ⟨length, _ | ⟨tag, rest⟩⟩
    · exact .inr ⟨nofun, [], ltvEntries_nil⟩
    · exact .inr ⟨nofun, [], ltvEntries_one length⟩
    · by_cases zero : length = 0
      · subst zero
        exact .inl ⟨.here tag rest, ltvEntries_zero tag rest⟩
      · rw [ltvEntries_cons tag rest zero]
        rcases ih _ (by
          rw [← size, length_drop]
          simp only [length_cons]
          omega) (rest.drop (length.toNat - 1)) rfl with ⟨empty, failed⟩ | ⟨none, later, walked⟩
        · rw [failed]
          exact .inl ⟨.behind tag zero empty, rfl⟩
        · rw [walked]
          refine .inr ⟨?_, _, rfl⟩
          intro empty
          cases empty with
          | here => exact zero rfl
          | behind _ _ later => exact none later

/-- The octets are these entries one behind the other, each as long as it says. Only what is
behind the last may be cut: an octet, or an entry that says more than there is. -/
inductive Entries : Bytes → List (UInt8 × Bytes) → Prop where
  | done {data : Bytes} (least : data.length ≤ 1) : Entries data []
  | cut {length : UInt8} {tag : UInt8} {value : Bytes} (short : value.length + 1 < length.toNat) :
    Entries (length :: tag :: value) [(tag, value)]
  | whole {length : UInt8} {tag : UInt8} {value rest : Bytes} {later : List (UInt8 × Bytes)}
    (size : value.length + 1 = length.toNat) (others : Entries rest later) :
    Entries (length :: tag :: (value ++ rest)) ((tag, value) :: later)

theorem entries_of_ltvEntries {data : Bytes} {entries : List (UInt8 × Bytes)}
    (walked : ltvEntries data = .ok entries) : Entries data entries := by
  induction size : data.length using Nat.strong_induction_on generalizing data entries with
  | _ count ih =>
    rcases data with _ | ⟨length, _ | ⟨tag, rest⟩⟩
    · rw [ltvEntries_nil] at walked
      cases walked
      exact .done (Nat.zero_le 1)
    · rw [ltvEntries_one] at walked
      cases walked
      exact .done (Nat.le_refl 1)
    · by_cases zero : length = 0
      · subst zero
        rw [ltvEntries_zero] at walked
        cases walked
      · have positive : 0 < length.toNat :=
          Nat.pos_of_ne_zero fun none => zero (UInt8.toNat_inj.mp none)
        rw [ltvEntries_cons tag rest zero, Rust.bind_eq_ok] at walked
        obtain ⟨later, behind, same⟩ := walked
        cases same
        rcases Nat.lt_or_ge rest.length (length.toNat - 1) with short | long
        · rw [drop_eq_nil_of_le (Nat.le_of_lt short), ltvEntries_nil] at behind
          cases behind
          rw [take_of_length_le (Nat.le_of_lt short)]
          exact .cut (by omega)
        · have others := ih _ (by
            rw [← size, length_drop]
            simp only [length_cons]
            omega) behind rfl
          have taken : (rest.take (length.toNat - 1)).length + 1 = length.toNat := by
            rw [length_take]
            omega
          have all : Entries (length :: tag :: _) _ := .whole taken others
          rwa [take_append_drop] at all

theorem returns_iff {α : Type} (f : List (UInt8 × Bytes) → α) (data : Bytes) :
    (∃ found, (do return f (← ltvEntries data) : Rust α) = .ok found) ↔ ¬ HasEmpty data := by
  rcases ltvEntries_iff data with ⟨empty, failed⟩ | ⟨none, entries, walked⟩
  · rw [failed]
    exact ⟨nofun, fun none => absurd empty none⟩
  · rw [walked]
    exact ⟨fun _ => none, fun _ => ⟨f entries, rfl⟩⟩

theorem ltvEntries_flatMap {entries : List (UInt8 × Bytes)}
    (short : ∀ tagged ∈ entries, tagged.2.length ≤ 254) :
    ltvEntries (entries.flatMap entry) = .ok entries := by
  induction entries with
  | nil => exact ltvEntries_nil
  | cons tagged rest ih =>
    obtain ⟨tag, value⟩ := tagged
    have fits : value.length ≤ 254 := short _ mem_cons_self
    have size : (UInt8.ofNat (value.length + 1)).toNat = value.length + 1 := by
      rw [UInt8.toNat_ofNat', Nat.mod_eq_of_lt (by omega)]
    have positive : UInt8.ofNat (value.length + 1) ≠ 0 := by
      intro zero
      have none := congrArg UInt8.toNat zero
      rw [size] at none
      cases none
    rw [flatMap_cons, entry, cons_append, cons_append,
      ltvEntries_cons _ _ positive, size, Nat.add_sub_cancel, take_left' rfl,
      drop_left' rfl, ih fun other inside => short other (mem_cons_of_mem _ inside)]
    rfl

/-- A number of so many octets, least significant octet first. -/
def le (width n : Nat) : Bytes := (toBe width n).reverse

@[simp] theorem length_le (width n : Nat) : (le width n).length = width := by simp [le]

theorem leUint_le {width n : Nat} (four : width ≤ 4) (fits : n < 256 ^ width) :
    leUint (le width n) = n := by
  rw [leUint, take_of_length_le (by rw [length_le]; exact four), le, reverse_reverse,
    ofBe_toBe_of_lt fits]

theorem leUint_octet (octet : UInt8) : leUint [octet] = octet.toNat := by simp [leUint, ofBe]

/-! ## Codec configurations -/

inductive SamplingFrequency where
  | freq8000 | freq11025 | freq16000 | freq22050 | freq24000 | freq32000 | freq44100
  | freq48000 | freq88200 | freq96000 | freq176400 | freq192000 | freq384000
deriving DecidableEq, Repr

namespace SamplingFrequency

/-- `self as u8` -/
def toU8 : SamplingFrequency → UInt8
  | freq8000 => 0x01
  | freq11025 => 0x02
  | freq16000 => 0x03
  | freq22050 => 0x04
  | freq24000 => 0x05
  | freq32000 => 0x06
  | freq44100 => 0x07
  | freq48000 => 0x08
  | freq88200 => 0x09
  | freq96000 => 0x0A
  | freq176400 => 0x0B
  | freq192000 => 0x0C
  | freq384000 => 0x0D

def all : List SamplingFrequency :=
  [freq8000, freq11025, freq16000, freq22050, freq24000, freq32000, freq44100, freq48000,
    freq88200, freq96000, freq176400, freq192000, freq384000]

def fromU8 (value : UInt8) : Option SamplingFrequency :=
  all.find? fun frequency => frequency.toU8 = value

@[simp] theorem fromU8_toU8 (frequency : SamplingFrequency) :
    fromU8 frequency.toU8 = some frequency := by
  cases frequency <;> rfl

end SamplingFrequency

inductive FrameDuration where
  | duration7500Us
  | duration10000Us
deriving DecidableEq, Repr

namespace FrameDuration

def toU8 : FrameDuration → UInt8
  | duration7500Us => 0x00
  | duration10000Us => 0x01

def fromU8 (value : UInt8) : Option FrameDuration :=
  if value = 0x00 then some duration7500Us
  else if value = 0x01 then some duration10000Us
  else none

@[simp] theorem fromU8_toU8 (duration : FrameDuration) : fromU8 duration.toU8 = some duration := by
  cases duration <;> rfl

end FrameDuration

/-! The types of the entries, of `codec_capability_type` and `codec_config_type` alike. -/
namespace CodecType

def samplingFrequency : UInt8 := 0x01
def frameDuration : UInt8 := 0x02
def audioChannelAllocation : UInt8 := 0x03
def octetsPerFrame : UInt8 := 0x04
def codecFramesPerSdu : UInt8 := 0x05

end CodecType

structure CodecSpecificConfiguration where
  samplingFrequency : Option SamplingFrequency
  frameDuration : Option FrameDuration
  audioChannelAllocation : Option UInt32
  octetsPerCodecFrame : Option UInt16
  codecFramesPerSdu : Option UInt8
deriving DecidableEq

open CodecType

namespace CodecSpecificConfiguration

def default : CodecSpecificConfiguration := ⟨none, none, none, none, none⟩

def entries (config : CodecSpecificConfiguration) : List (UInt8 × Bytes) :=
  (config.samplingFrequency.map fun v => (CodecType.samplingFrequency, [v.toU8])).toList ++
    (config.frameDuration.map fun v => (CodecType.frameDuration, [v.toU8])).toList ++
    (config.audioChannelAllocation.map fun v =>
      (CodecType.audioChannelAllocation, le 4 v.toNat)).toList ++
    (config.octetsPerCodecFrame.map fun v => (CodecType.octetsPerFrame, le 2 v.toNat)).toList ++
    (config.codecFramesPerSdu.map fun v => (CodecType.codecFramesPerSdu, [v])).toList

def toBytes (config : CodecSpecificConfiguration) : Bytes := config.entries.flatMap entry

def set (config : CodecSpecificConfiguration) (tagged : UInt8 × Bytes) :
    CodecSpecificConfiguration :=
  let value := leUint tagged.2
  if tagged.1 = CodecType.samplingFrequency then
    { config with samplingFrequency := SamplingFrequency.fromU8 (UInt8.ofNat value) }
  else if tagged.1 = CodecType.frameDuration then
    { config with frameDuration := FrameDuration.fromU8 (UInt8.ofNat value) }
  else if tagged.1 = CodecType.audioChannelAllocation then
    { config with audioChannelAllocation := some (UInt32.ofNat value) }
  else if tagged.1 = CodecType.octetsPerFrame then
    { config with octetsPerCodecFrame := some (UInt16.ofNat value) }
  else if tagged.1 = CodecType.codecFramesPerSdu then
    { config with codecFramesPerSdu := some (UInt8.ofNat value) }
  else config

def parse (data : Bytes) : Rust CodecSpecificConfiguration := do
  return (← ltvEntries data).foldl set default

variable (config : CodecSpecificConfiguration)

theorem entries_short :
    ∀ tagged ∈ config.entries, tagged.2.length ≤ 4 := by
  obtain ⟨frequency, duration, allocation, octets, frames⟩ := config
  cases frequency <;> cases duration <;> cases allocation <;> cases octets <;> cases frames <;>
    simp [entries]

theorem set_samplingFrequency (frequency : SamplingFrequency) :
    config.set (CodecType.samplingFrequency, [frequency.toU8]) =
      { config with samplingFrequency := some frequency } := by
  simp [set, leUint_octet]

theorem set_frameDuration (duration : FrameDuration) :
    config.set (CodecType.frameDuration, [duration.toU8]) =
      { config with frameDuration := some duration } := by
  simp [set, leUint_octet, CodecType.samplingFrequency, CodecType.frameDuration]

theorem set_audioChannelAllocation (allocation : UInt32) :
    config.set (CodecType.audioChannelAllocation, le 4 allocation.toNat) =
      { config with audioChannelAllocation := some allocation } := by
  have same := leUint_le (by decide : 4 ≤ 4) allocation.toNat_lt
  simp [set, same, CodecType.samplingFrequency, CodecType.frameDuration,
    CodecType.audioChannelAllocation]

theorem set_octetsPerFrame (octets : UInt16) :
    config.set (octetsPerFrame, le 2 octets.toNat) =
      { config with octetsPerCodecFrame := some octets } := by
  have same := leUint_le (by decide : 2 ≤ 4) octets.toNat_lt
  simp [set, same, CodecType.samplingFrequency, CodecType.frameDuration,
    CodecType.audioChannelAllocation, octetsPerFrame]

theorem set_codecFramesPerSdu (frames : UInt8) :
    config.set (CodecType.codecFramesPerSdu, [frames]) =
      { config with codecFramesPerSdu := some frames } := by
  simp [set, leUint_octet, CodecType.samplingFrequency, CodecType.frameDuration,
    CodecType.audioChannelAllocation, octetsPerFrame, CodecType.codecFramesPerSdu]

theorem foldl_entries :
    config.entries.foldl set default = config := by
  obtain ⟨frequency, duration, allocation, octets, frames⟩ := config
  cases frequency <;> cases duration <;> cases allocation <;> cases octets <;> cases frames <;>
    simp [entries, default, set_samplingFrequency, set_frameDuration, set_audioChannelAllocation,
      set_octetsPerFrame, set_codecFramesPerSdu]

theorem parse_toBytes (config : CodecSpecificConfiguration) : parse config.toBytes = .ok config := by
  have walked := ltvEntries_flatMap fun tagged inside =>
    Nat.le_trans (config.entries_short tagged inside) (by decide : 4 ≤ 254)
  rw [parse, toBytes, walked]
  exact congrArg Except.ok config.foldl_entries

theorem length_toBytes : config.toBytes.length ≤ 19 := by
  obtain ⟨frequency, duration, allocation, octets, frames⟩ := config
  cases frequency <;> cases duration <;> cases allocation <;> cases octets <;> cases frames <;>
    simp [toBytes, entries, entry]

end CodecSpecificConfiguration

/-! ## Codec capabilities -/

structure CodecSpecificCapabilities where
  supportedSamplingFrequencies : UInt16
  supportedFrameDurations : UInt8
  supportedAudioChannelCounts : List UInt8
  minOctetsPerCodecFrame : UInt16
  maxOctetsPerCodecFrame : UInt16
  supportedMaxCodecFramesPerSdu : UInt8
deriving DecidableEq

def channelCounts : List UInt8 := [1, 2, 3, 4, 5, 6, 7, 8]

/-- `bits_to_channel_counts`: the count of a bit is one more than its place. -/
def bitsToChannelCounts (data : UInt8) : List UInt8 :=
  channelCounts.filter fun count => decide (data &&& ((1 : UInt8) <<< (count - 1)) ≠ 0)

/-- `1 << (count - 1)`, which panics unless the bit is one of an octet. -/
def channelCountBit (count : UInt8) : Rust UInt8 :=
  if 1 ≤ count ∧ count ≤ 8 then .ok (1 <<< (count - 1)) else .error .panic

def channelCountsToBits (counts : List UInt8) : Rust UInt8 :=
  counts.foldlM (fun acc count => do return acc ||| (← channelCountBit count)) 0

theorem mem_channelCounts {count : UInt8} : count ∈ channelCounts ↔ 1 ≤ count ∧ count ≤ 8 := by
  constructor
  · intro inside
    have each : channelCounts.all (fun count => 1 ≤ count ∧ count ≤ 8) = true := rfl
    simpa only [decide_eq_true_eq] using List.all_eq_true.mp each count inside
  · rintro ⟨low, high⟩
    have each : ∀ n < 9, 1 ≤ n → UInt8.ofNat n ∈ channelCounts := by decide
    have inside := each count.toNat (Nat.lt_succ_of_le (UInt8.le_iff_toNat_le.mp high))
      (UInt8.le_iff_toNat_le.mp low)
    rwa [UInt8.ofNat_toNat] at inside

theorem and_or_ne_zero (a b mask : UInt8) :
    (a ||| b) &&& mask ≠ 0 ↔ a &&& mask ≠ 0 ∨ b &&& mask ≠ 0 := by
  have spread : (a ||| b) &&& mask = a &&& mask ||| b &&& mask := by
    apply UInt8.toBitVec_inj.mp
    simp only [UInt8.toBitVec_and, UInt8.toBitVec_or, BitVec.and_or_distrib_right]
  rw [spread, Ne, UInt8.or_eq_zero_iff, not_and_or]

/-- Two counts have the same bit only if they are the same. -/
theorem shifts_meet : ∀ a ∈ channelCounts, ∀ b ∈ channelCounts,
    ((1 : UInt8) <<< (a - 1)) &&& ((1 : UInt8) <<< (b - 1)) ≠ 0 ↔ b = a := by
  have each : channelCounts.all (fun a => channelCounts.all fun b =>
      ((1 : UInt8) <<< (a - 1)) &&& ((1 : UInt8) <<< (b - 1)) ≠ 0 ↔ b = a) = true := rfl
  simpa only [all_eq_true, decide_eq_true_eq] using each

theorem foldlM_channelCountBit {counts : List UInt8} (acc : UInt8)
    (each : ∀ count ∈ counts, count ∈ channelCounts) :
    ∃ bits, counts.foldlM (fun acc count => do return acc ||| (← channelCountBit count)) acc =
        (.ok bits : Rust UInt8) ∧
      ∀ count ∈ channelCounts, bits &&& ((1 : UInt8) <<< (count - 1)) ≠ 0 ↔
        acc &&& ((1 : UInt8) <<< (count - 1)) ≠ 0 ∨ count ∈ counts := by
  induction counts generalizing acc with
  | nil => exact ⟨acc, rfl, fun _ _ => by simp⟩
  | cons first rest ih =>
    have one := each first mem_cons_self
    obtain ⟨bits, folded, meets⟩ := ih (acc ||| ((1 : UInt8) <<< (first - 1))) fun count inside =>
      each count (mem_cons_of_mem _ inside)
    refine ⟨bits, ?_, fun count inside => ?_⟩
    · rw [foldlM_cons, channelCountBit, if_pos (mem_channelCounts.mp one)]
      exact folded
    · rw [meets count inside, and_or_ne_zero, shifts_meet first one count inside, mem_cons,
        or_assoc]

theorem bitsToChannelCounts_of_sorted {counts : List UInt8} (sorted : counts.Pairwise (· < ·))
    (each : ∀ count ∈ counts, count ∈ channelCounts) :
    ∃ bits, channelCountsToBits counts = .ok bits ∧ bitsToChannelCounts bits = counts := by
  obtain ⟨bits, folded, meets⟩ := foldlM_channelCountBit 0 each
  refine ⟨bits, folded, ?_⟩
  have ascending : channelCounts.Pairwise (· < ·) := by decide
  refine (ascending.filter _).eq_of_mem_iff sorted fun count => ?_
  rw [mem_filter, decide_eq_true_eq]
  constructor
  · rintro ⟨inside, bit⟩
    simpa using (meets count inside).mp bit
  · intro inside
    exact ⟨each count inside, (meets count (each count inside)).mpr (.inr inside)⟩

namespace CodecSpecificCapabilities

/-- The bits of the channel counts come before any octet is written. -/
def toBytes (capabilities : CodecSpecificCapabilities) : Rust Bytes := do
  let counts ← channelCountsToBits capabilities.supportedAudioChannelCounts
  return [3, CodecType.samplingFrequency] ++ le 2 capabilities.supportedSamplingFrequencies.toNat ++
    [2, CodecType.frameDuration, capabilities.supportedFrameDurations] ++
    [2, CodecType.audioChannelAllocation, counts] ++
    [5, CodecType.octetsPerFrame] ++ le 2 capabilities.minOctetsPerCodecFrame.toNat ++
    le 2 capabilities.maxOctetsPerCodecFrame.toNat ++
    [2, CodecType.codecFramesPerSdu, capabilities.supportedMaxCodecFramesPerSdu]

/-- The fields as far as they have been read. -/
structure Partial where
  supportedSamplingFrequencies : Option UInt16
  supportedFrameDurations : Option UInt8
  supportedAudioChannelCounts : List UInt8
  minOctetsPerCodecFrame : Option UInt16
  maxOctetsPerCodecFrame : Option UInt16
  supportedMaxCodecFramesPerSdu : UInt8

/-- Where no entry says anything else, there is one channel and one frame. -/
def Partial.default : Partial := ⟨none, none, [1], none, none, 1⟩

/-- What an entry sets; a later one of a type stands. -/
def Partial.set (part : Partial) (tagged : UInt8 × Bytes) : Partial :=
  let value := leUint tagged.2
  if tagged.1 = CodecType.samplingFrequency then
    { part with supportedSamplingFrequencies := some (UInt16.ofNat value) }
  else if tagged.1 = CodecType.frameDuration then
    { part with supportedFrameDurations := some (UInt8.ofNat value) }
  else if tagged.1 = CodecType.audioChannelAllocation then
    { part with supportedAudioChannelCounts := bitsToChannelCounts (UInt8.ofNat value) }
  else if tagged.1 = CodecType.octetsPerFrame then
    { part with
      minOctetsPerCodecFrame := some (UInt16.ofNat (value % 65536))
      maxOctetsPerCodecFrame := some (UInt16.ofNat (value / 65536)) }
  else if tagged.1 = CodecType.codecFramesPerSdu then
    { part with supportedMaxCodecFramesPerSdu := UInt8.ofNat value }
  else part

def Partial.whole (part : Partial) : Option CodecSpecificCapabilities := do
  return {
    supportedSamplingFrequencies := ← part.supportedSamplingFrequencies
    supportedFrameDurations := ← part.supportedFrameDurations
    supportedAudioChannelCounts := part.supportedAudioChannelCounts
    minOctetsPerCodecFrame := ← part.minOctetsPerCodecFrame
    maxOctetsPerCodecFrame := ← part.maxOctetsPerCodecFrame
    supportedMaxCodecFramesPerSdu := part.supportedMaxCodecFramesPerSdu }

def parse (data : Bytes) : Rust (Option CodecSpecificCapabilities) := do
  return ((← ltvEntries data).foldl Partial.set Partial.default).whole

theorem leUint_append (low high : UInt16) :
    leUint (le 2 low.toNat ++ le 2 high.toNat) = low.toNat + 65536 * high.toNat := by
  have size : (le 2 low.toNat ++ le 2 high.toNat).length = 4 := by simp
  rw [leUint, take_of_length_le (Nat.le_of_eq size), reverse_append, le, le,
    reverse_reverse, reverse_reverse, ofBe_append, length_toBe,
    ofBe_toBe_of_lt high.toNat_lt, ofBe_toBe_of_lt low.toNat_lt]
  omega

theorem parse_toBytes {capabilities : CodecSpecificCapabilities}
    (sorted : capabilities.supportedAudioChannelCounts.Pairwise (· < ·))
    (each : ∀ count ∈ capabilities.supportedAudioChannelCounts, 1 ≤ count ∧ count ≤ 8) :
    ∃ bytes, capabilities.toBytes = .ok bytes ∧ parse bytes = .ok (some capabilities) := by
  obtain ⟨frequencies, durations, counts, least, greatest, frames⟩ := capabilities
  obtain ⟨bits, packed, spread⟩ := bitsToChannelCounts_of_sorted sorted fun count inside =>
    mem_channelCounts.mpr (each count inside)
  refine ⟨_, by rw [toBytes, packed]; rfl, ?_⟩
  let entries : List (UInt8 × Bytes) :=
    [(samplingFrequency, le 2 frequencies.toNat), (frameDuration, [durations]),
      (audioChannelAllocation, [bits]),
      (octetsPerFrame, le 2 least.toNat ++ le 2 greatest.toNat),
      (codecFramesPerSdu, [frames])]
  have walked : ltvEntries (entries.flatMap entry) = .ok entries :=
    ltvEntries_flatMap (by simp [entries])
  have written : entries.flatMap entry = [3, samplingFrequency] ++
      le 2 frequencies.toNat ++ [2, frameDuration, durations] ++
      [2, audioChannelAllocation, bits] ++ [5, octetsPerFrame] ++
      le 2 least.toNat ++ le 2 greatest.toNat ++ [2, codecFramesPerSdu, frames] := by
    simp [entries, entry]
  have rates : leUint (le 2 frequencies.toNat) = frequencies.toNat :=
    leUint_le (by decide) frequencies.toNat_lt
  have lower : (least.toNat + 65536 * greatest.toNat) % 65536 = least.toNat := by
    have := least.toNat_lt
    omega
  have upper : (least.toNat + 65536 * greatest.toNat) / 65536 = greatest.toNat := by
    have := least.toNat_lt
    omega
  rw [written] at walked
  rw [parse, walked]
  simp [entries, Partial.set, Partial.default, Partial.whole, samplingFrequency,
    frameDuration, audioChannelAllocation, octetsPerFrame,
    codecFramesPerSdu, rates, leUint_octet, leUint_append, lower, upper, spread]

end CodecSpecificCapabilities

/-! ## Metadata -/

/-- `{value:02X}` and `{value:04X}`: so many hexadecimal digits at least, in upper case. -/
def hexDigits (width value : Nat) : String :=
  let digits := (Nat.toDigits 16 value).map Char.toUpper
  String.ofList (List.replicate (width - digits.length) '0' ++ digits)

def contextNames : List String :=
  ["Unspecified", "Conversational", "Media", "Game", "Instructional", "Voice Assistants", "Live",
    "Sound Effects", "Notifications", "Ringtone", "Alerts", "Emergency Alarm"]

/-- `context_type::describe` -/
def describeContexts (contexts : UInt16) : String :=
  if contexts = 0 then "none"
  else
    let bits := (List.range 16).filter fun place => contexts.toNat.testBit place
    " + ".intercalate (bits.map fun place =>
      contextNames.getD place ("0x" ++ hexDigits 4 (2 ^ place)))

def describeEntry (tagged : UInt8 × Bytes) : String × String :=
  let value := tagged.2
  if tagged.1 = 0x01 then
    ("Preferred Audio Contexts", describeContexts (UInt16.ofNat (leUint value)))
  else if tagged.1 = 0x02 then
    ("Streaming Audio Contexts", describeContexts (UInt16.ofNat (leUint value)))
  else if tagged.1 = 0x03 then ("Program Info", fromUtf8Lossy value)
  else if tagged.1 = 0x04 then ("Language", fromUtf8Lossy value)
  else if tagged.1 = 0x06 then ("Parental Rating", toString (leUint value))
  else if tagged.1 = 0x07 then ("Program Info URI", fromUtf8Lossy value)
  else if tagged.1 = 0x09 then ("Immediate Rendering", "declared")
  else ("type 0x" ++ hexDigits 2 tagged.1.toNat,
    " ".intercalate (value.map fun octet => hexDigits 2 octet.toNat))

def describeMetadata (data : Bytes) : Rust (List (String × String)) := do
  return (← ltvEntries data).map describeEntry

end Simble.Bap
