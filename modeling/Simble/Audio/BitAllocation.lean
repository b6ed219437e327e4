import Mathlib.Data.Nat.Cast.Order.Ring
import Mathlib.Algebra.Order.BigOperators.Group.List
import Simble.Rust

/-! SBC parameters and the sharing out of their bitpool over the subbands (`SbcParameters` and
`allocate_bits` of `audio/sbc.rs`). -/
namespace Simble.Audio
open List

def sbcSyncWord : UInt8 := 0x9C
def sbcSamplingFrequencies : List UInt32 := [16000, 32000, 44100, 48000]
def sbcMonoChannelMode : UInt8 := 0x00
def sbcDualChannelMode : UInt8 := 0x01
def sbcJointStereoChannelMode : UInt8 := 0x03

def allocationSnr : UInt8 := 1
def maxScaleFactor : Nat := 15

/-- `LOUDNESS_OFFSET_4` -/
def loudnessOffset4 : List (List Int) := [[-1, 0, 0, 0], [-2, 0, 0, 1], [-2, 0, 0, 1], [-2, 0, 0, 1]]

/-- `LOUDNESS_OFFSET_8` -/
def loudnessOffset8 : List (List Int) := [
  [-2, 0, 0, 0, 0, 0, 0, 1],
  [-3, 0, 0, 0, 0, 0, 1, 2],
  [-4, 0, 0, 0, 0, 0, 1, 2],
  [-4, 0, 0, 0, 0, 0, 1, 2]]

inductive SbcError where
  | unsupportedConfig (what : String)
  | truncated
  | badSyncWord
  | badCrc (found expected : UInt8)
  | wrongSampleCount (expected got : Nat)
deriving DecidableEq, Repr

structure SbcParameters where
  samplingFrequency : UInt32
  blockCount : UInt8
  channelMode : UInt8
  allocationMethod : UInt8
  subbandCount : UInt8
  bitpool : UInt8
deriving DecidableEq, Repr

namespace SbcParameters

def frequencyIndex (params : SbcParameters) : Option Nat :=
  sbcSamplingFrequencies.findIdx? (· = params.samplingFrequency)

def validate (params : SbcParameters) : Except SbcError Unit :=
  if params.frequencyIndex = none then
    .error (.unsupportedConfig "sampling frequency")
  else if params.blockCount ∉ [4, 8, 12, 16] then
    .error (.unsupportedConfig "block count")
  else if params.channelMode > sbcJointStereoChannelMode then
    .error (.unsupportedConfig "channel mode")
  else if params.allocationMethod > allocationSnr then
    .error (.unsupportedConfig "allocation method")
  else if params.subbandCount ∉ [4, 8] then
    .error (.unsupportedConfig "subband count")
  else if params.bitpool < 2 ∨ params.bitpool > 250 then
    .error (.unsupportedConfig "bitpool")
  else .ok ()

def channels (params : SbcParameters) : Nat :=
  if params.channelMode = sbcMonoChannelMode then 1 else 2

def samplesPerChannel (params : SbcParameters) : Nat :=
  params.blockCount.toNat * params.subbandCount.toNat

def pcmLen (params : SbcParameters) : Nat := params.samplesPerChannel * params.channels

def isJoint (params : SbcParameters) : Bool := params.channelMode = sbcJointStereoChannelMode

def ownPools (params : SbcParameters) : Bool :=
  params.channelMode = sbcMonoChannelMode || params.channelMode = sbcDualChannelMode

def frameLength (params : SbcParameters) : Nat :=
  let channels := params.channels
  let subbands := params.subbandCount.toNat
  let blocks := params.blockCount.toNat
  let bitpool := params.bitpool.toNat
  4 + (4 * subbands * channels) / 8 +
    if params.ownPools then
      (blocks * channels * bitpool + 7) / 8
    else
      let joint := params.isJoint.toNat
      (joint * subbands + blocks * bitpool + 7) / 8

end SbcParameters

/-- A channel and a subband of it. -/
abbrev Cell := Nat × Nat

/-- A `[[_; MAX_SUBBANDS]; MAX_CHANNELS]`, which the code reads within its bounds only. -/
abbrev Table (α : Type) := Cell → α

def bitneedOf (params : SbcParameters) (freq : Nat) (scaleFactors : Table Nat) (cell : Cell) : Int :=
  let sf : Int := scaleFactors cell
  if params.allocationMethod = allocationSnr then
    sf
  else if sf = 0 then
    -5
  else
    let offsets := if params.subbandCount = 4 then loudnessOffset4 else loudnessOffset8
    let loudness := sf - (offsets.getD freq []).getD cell.2 0
    if loudness > 0 then loudness / 2 else loudness

/-- The sets of channels that share one bitpool. -/
def SbcParameters.groups (params : SbcParameters) : List (List Nat) :=
  if params.ownPools then (List.range params.channels).map ([·]) else [[0, 1]]

/-- `for &ch in group` and `for sb in 0..m` -/
def cells (group : List Nat) (m : Nat) : List Cell :=
  group.flatMap fun ch => (List.range m).map fun sb => (ch, sb)

/-- The order in which left-over bits are handed out: subband-major, channel alternating. -/
def order (group : List Nat) (m : Nat) : List Cell :=
  (List.range m).flatMap fun sb => group.map fun ch => (ch, sb)

/-- What one subband adds to `slicecount`. -/
def rise (bitslice need : Int) : Nat :=
  if need > bitslice + 1 ∧ need < bitslice + 16 then 1
  else if need = bitslice + 1 then 2
  else 0

/-- `slicecount`, counted over the subbands of a group. -/
def sliceCount (needs : List Int) (bitslice : Int) : Nat := (needs.map (rise bitslice)).sum

/-- The `loop` that lowers the slice until the next one would use up the bitpool: the last
slice and the bits above it. -/
def searchSlice (needs : List Int) (bitpool : Nat) (maxBitneed bitslice : Int)
    (bitcount slicecount : Nat) : Int × Nat :=
  if bitcount + slicecount + sliceCount needs (bitslice - 1) ≥ bitpool then
    (bitslice - 1, bitcount + slicecount)
  else if bitslice - 1 < maxBitneed - 32 then
    (bitslice - 1, bitcount + slicecount)
  else
    searchSlice needs bitpool maxBitneed (bitslice - 1) (bitcount + slicecount)
      (sliceCount needs (bitslice - 1))
termination_by (bitslice - maxBitneed + 33).toNat

def widthAt (bitslice need : Int) : Nat :=
  if need < bitslice + 2 then 0 else (min (need - bitslice) 16).toNat

/-- The first pass over what the slice left over. -/
def handOut (bitneed : Table Int) (bitslice : Int) (bitpool : Nat) :
    List Cell → Table Nat → Nat → Table Nat × Nat
  | [], bits, bitcount => (bits, bitcount)
  | cell :: order, bits, bitcount =>
    if bitcount < bitpool then
      if bits cell ≥ 2 ∧ bits cell < 16 then
        handOut bitneed bitslice bitpool order (Function.update bits cell (bits cell + 1))
          (bitcount + 1)
      else if bitneed cell = bitslice + 1 ∧ bitpool > bitcount + 1 then
        handOut bitneed bitslice bitpool order (Function.update bits cell 2) (bitcount + 2)
      else
        handOut bitneed bitslice bitpool order bits bitcount
    else (bits, bitcount)

/-- The second pass, a bit for each subband that is not full. -/
def fillUp (bitpool : Nat) : List Cell → Table Nat → Nat → Table Nat × Nat
  | [], bits, bitcount => (bits, bitcount)
  | cell :: order, bits, bitcount =>
    if bitcount < bitpool then
      if bits cell < 16 then
        fillUp bitpool order (Function.update bits cell (bits cell + 1)) (bitcount + 1)
      else
        fillUp bitpool order bits bitcount
    else (bits, bitcount)

/-- The body of `for group in &groups`. -/
def allocateGroup (bitpool m : Nat) (bitneed : Table Int) (bits : Table Nat) (group : List Nat) :
    Table Nat :=
  let needs := (cells group m).map bitneed
  let maxBitneed := needs.foldl max (-2147483648)
  let (bitslice, bitcount) := searchSlice needs bitpool maxBitneed (maxBitneed + 1) 0 0
  let bits := (cells group m).foldl
    (fun bits cell => Function.update bits cell (widthAt bitslice (bitneed cell))) bits
  let (bits, bitcount) := handOut bitneed bitslice bitpool (order group m) bits bitcount
  (fillUp bitpool (order group m) bits bitcount).1

def allocateBits (params : SbcParameters) (scaleFactors : Table Nat) : Rust (Table Nat) :=
  match params.frequencyIndex with
  | none => .error .panic
  | some freq =>
    .ok (params.groups.foldl
      (allocateGroup params.bitpool.toNat params.subbandCount.toNat
        (bitneedOf params freq scaleFactors))
      fun _ => 0)

/-! ## The slice -/

/-- Lowering the slice by one widens each subband by what it adds to `slicecount`. -/
theorem widthAt_pred (bitslice need : Int) :
    widthAt (bitslice - 1) need = widthAt bitslice need + rise bitslice need := by
  unfold widthAt rise
  split_ifs <;> omega

theorem widthAt_le (bitslice need : Int) : widthAt bitslice need ≤ 16 := by
  unfold widthAt
  split_ifs <;> omega

theorem widthAt_above {bitslice need : Int} (above : need ≤ bitslice + 1) :
    widthAt bitslice need = 0 := if_pos (by omega)

theorem widthAt_deep {bitslice need : Int} (deep : bitslice + 16 ≤ need) :
    widthAt bitslice need = 16 := by
  unfold widthAt
  split_ifs <;> omega

/-- The bits that a slice takes from the bitpool. -/
def widths (needs : List Int) (bitslice : Int) : Nat := (needs.map (widthAt bitslice)).sum

theorem widths_pred (needs : List Int) (bitslice : Int) :
    widths needs (bitslice - 1) = widths needs bitslice + sliceCount needs bitslice := by
  have lowered : widthAt (bitslice - 1) = fun need => widthAt bitslice need + rise bitslice need :=
    funext (widthAt_pred bitslice)
  rw [widths, lowered, sum_map_add]
  rfl

variable {needs : List Int}

theorem widths_above {bitslice : Int} (above : ∀ need ∈ needs, need ≤ bitslice) :
    widths needs bitslice = 0 := by
  apply sum_eq_zero
  intro width listed
  obtain ⟨need, known, rfl⟩ := mem_map.mp listed
  exact widthAt_above ((above need known).trans (by omega))

theorem widths_deep {bitslice : Int} (deep : ∀ need ∈ needs, bitslice + 16 ≤ need) :
    widths needs bitslice = 16 * needs.length := by
  have same : needs.map (widthAt bitslice) = List.replicate needs.length 16 := by
    apply eq_replicate_iff.mpr
    constructor
    · exact length_map ..
    · intro width listed
      obtain ⟨need, known, rfl⟩ := mem_map.mp listed
      exact widthAt_deep (deep need known)
  rw [widths, same, sum_replicate, Nat.nsmul_eq_mul, Nat.mul_comm]

structure Stopped (needs : List Int) (bitpool : Nat) (maxBitneed : Int) (found : Int × Nat) :
    Prop where
  counted : found.2 = widths needs found.1
  below : found.2 < bitpool
  reason : bitpool ≤ found.2 + sliceCount needs found.1 ∨ found.1 < maxBitneed - 32

theorem searchSlice_stopped (needs : List Int) (bitpool : Nat) (maxBitneed bitslice : Int)
    (bitcount slicecount : Nat) (counted : bitcount + slicecount = widths needs (bitslice - 1))
    (below : bitcount + slicecount < bitpool) :
    Stopped needs bitpool maxBitneed
      (searchSlice needs bitpool maxBitneed bitslice bitcount slicecount) := by
  fun_induction searchSlice needs bitpool maxBitneed bitslice bitcount slicecount with
  | case1 bitslice bitcount slicecount reached => exact ⟨counted, below, .inl reached⟩
  | case2 bitslice bitcount slicecount unreached escaped => exact ⟨counted, below, .inr escaped⟩
  | case3 bitslice bitcount slicecount unreached inside ih =>
    apply ih
    · rw [widths_pred, ← counted]
    · exact not_le.mp unreached

/-! ## The two passes -/

/-- What a pass over `order` makes of the widths and of the running count. -/
structure Handed (order : List Cell) (bitpool : Nat) (bits : Table Nat) (bitcount : Nat)
    (result : Table Nat × Nat) : Prop where
  others : ∀ cell, cell ∉ order → result.1 cell = bits cell
  within : (∀ cell ∈ order, bits cell ≤ 16) → ∀ cell ∈ order, result.1 cell ≤ 16
  balanced : (order.map result.1).sum + bitcount = (order.map bits).sum + result.2
  grown : bitcount ≤ result.2
  fits : bitcount ≤ bitpool → result.2 ≤ bitpool

theorem Handed.refl (order : List Cell) (bitpool : Nat) (bits : Table Nat) (bitcount : Nat) :
    Handed order bitpool bits bitcount (bits, bitcount) :=
  ⟨fun _ _ => rfl, fun within => within, rfl, le_rfl, fun fits => fits⟩

variable {cell : Cell}

theorem map_update_of_notMem {order : List Cell} (fresh : cell ∉ order) (bits : Table Nat)
    (width : Nat) :
    order.map (Function.update bits cell width) = order.map bits := by
  apply map_congr_left
  intro other listed
  exact Function.update_of_ne (ne_of_mem_of_not_mem listed fresh) ..

theorem Handed.cons {cell : Cell} {order : List Cell} {bitpool bitcount extra width : Nat}
    {bits : Table Nat} {result : Table Nat × Nat} (fresh : cell ∉ order)
    (wider : width = bits cell + extra) (within : bits cell ≤ 16 → width ≤ 16)
    (room : bitcount ≤ bitpool → bitcount + extra ≤ bitpool)
    (rest : Handed order bitpool (Function.update bits cell width) (bitcount + extra) result) :
    Handed (cell :: order) bitpool bits bitcount result := by
  have first : result.1 cell = width := by
    rw [rest.others cell fresh, Function.update_self]
  have same := map_update_of_notMem fresh bits width
  constructor
  · intro other absent
    rw [mem_cons, not_or] at absent
    rw [rest.others other absent.2, Function.update_of_ne absent.1]
  · intro narrow other listed
    rcases mem_cons.mp listed with rfl | later
    · rw [first]
      exact within (narrow _ mem_cons_self)
    · refine rest.within ?_ other later
      intro next among
      rw [Function.update_of_ne (ne_of_mem_of_not_mem among fresh)]
      exact narrow next (mem_cons_of_mem _ among)
  · have balanced := rest.balanced
    rw [same] at balanced
    rw [map_cons, sum_cons, map_cons, sum_cons, first]
    omega
  · exact (Nat.le_add_right ..).trans rest.grown
  · intro fits
    exact rest.fits (room fits)

theorem Handed.skip {order : List Cell} {bitpool bitcount : Nat} {bits : Table Nat}
    {result : Table Nat × Nat} (fresh : cell ∉ order)
    (rest : Handed order bitpool bits bitcount result) :
    Handed (cell :: order) bitpool bits bitcount result := by
  apply Handed.cons fresh (Nat.add_zero _).symm (fun narrow => narrow) (fun fits => fits)
  rw [Function.update_eq_self]
  exact rest

variable (bitneed : Table Int)

theorem handOut_handed (bitslice : Int) (bitpool : Nat) {order : List Cell} (nodup : order.Nodup)
    (bits : Table Nat) (bitcount : Nat)
    (widths : ∀ cell ∈ order, bits cell = widthAt bitslice (bitneed cell)) :
    Handed order bitpool bits bitcount (handOut bitneed bitslice bitpool order bits bitcount) := by
  induction order generalizing bits bitcount with
  | nil => exact .refl ..
  | cons cell order ih =>
    obtain ⟨fresh, nodup⟩ := nodup_cons.mp nodup
    have later (width : Nat) : ∀ other ∈ order,
        Function.update bits cell width other = widthAt bitslice (bitneed other) := by
      intro other listed
      rw [Function.update_of_ne (ne_of_mem_of_not_mem listed fresh)]
      exact widths other (mem_cons_of_mem _ listed)
    rw [handOut]
    split_ifs with room partway edge
    · apply Handed.cons fresh rfl ?_ ?_ (ih nodup _ _ (later _)) <;> omega
    · have empty : bits cell = 0 := by
        rw [widths cell mem_cons_self]
        exact widthAt_above edge.1.le
      apply Handed.cons fresh ?_ ?_ ?_ (ih nodup _ _ (later _)) <;> omega
    · exact .skip fresh (ih nodup _ _ fun other listed => widths other (mem_cons_of_mem _ listed))
    · exact .refl ..

theorem fillUp_handed (bitpool : Nat) {order : List Cell} (nodup : order.Nodup) (bits : Table Nat)
    (bitcount : Nat) :
    Handed order bitpool bits bitcount (fillUp bitpool order bits bitcount) := by
  induction order generalizing bits bitcount with
  | nil => exact .refl ..
  | cons cell order ih =>
    obtain ⟨fresh, nodup⟩ := nodup_cons.mp nodup
    rw [fillUp]
    split_ifs with room narrow
    · apply Handed.cons fresh rfl ?_ ?_ (ih nodup _ _) <;> omega
    · exact .skip fresh (ih nodup _ _)
    · exact .refl ..

/-- The first pass uses up the bitpool, or leaves one bit that a subband can still take, or has
given each subband all that the next slice would. -/
theorem handOut_leaves (bitslice : Int) (bitpool : Nat) {order : List Cell} (nodup : order.Nodup)
    (bits : Table Nat) (bitcount : Nat)
    (widths : ∀ cell ∈ order, bits cell = widthAt bitslice (bitneed cell))
    (fits : bitcount ≤ bitpool) :
    let result := handOut bitneed bitslice bitpool order bits bitcount
    result.2 = bitpool ∨ (result.2 + 1 = bitpool ∧ ∃ cell ∈ order, result.1 cell < 16) ∨
      result.2 = bitcount + (order.map (rise bitslice ∘ bitneed)).sum := by
  induction order generalizing bits bitcount with
  | nil => exact .inr (.inr rfl)
  | cons cell order ih =>
    obtain ⟨fresh, nodup⟩ := nodup_cons.mp nodup
    have own := widths cell mem_cons_self
    have later (width : Nat) : ∀ other ∈ order,
        Function.update bits cell width other = widthAt bitslice (bitneed other) := by
      intro other listed
      rw [Function.update_of_ne (ne_of_mem_of_not_mem listed fresh)]
      exact widths other (mem_cons_of_mem _ listed)
    have kept : ∀ other ∈ order, bits other = widthAt bitslice (bitneed other) :=
      fun other listed => widths other (mem_cons_of_mem _ listed)
    -- What is left for the first subband, when the tail has been handed `given` to.
    have step (bits' : Table Nat) (given : Nat)
        (widths' : ∀ other ∈ order, bits' other = widthAt bitslice (bitneed other))
        (fits' : bitcount + given ≤ bitpool) (risen : rise bitslice (bitneed cell) = given) :
        let result := handOut bitneed bitslice bitpool order bits' (bitcount + given)
        result.2 = bitpool ∨ (result.2 + 1 = bitpool ∧ ∃ c ∈ cell :: order, result.1 c < 16) ∨
          result.2 = bitcount + ((cell :: order).map (rise bitslice ∘ bitneed)).sum := by
      rcases ih nodup bits' (bitcount + given) widths' fits' with all | ⟨one, c, listed, room⟩ | each
      · exact .inl all
      · exact .inr (.inl ⟨one, c, mem_cons_of_mem _ listed, room⟩)
      · refine .inr (.inr ?_)
        rw [each, map_cons, sum_cons, Function.comp_apply, risen, Nat.add_assoc]
    rw [handOut]
    split_ifs with room partway edge
    · apply step _ 1 (later _) room
      rw [own] at partway
      unfold widthAt at partway
      unfold rise
      split_ifs at partway ⊢ <;> omega
    · apply step _ 2 (later _) (by omega)
      rw [rise, if_neg (by omega), if_pos edge.1]
    · by_cases last : bitneed cell = bitslice + 1
      · -- Two bits would have been needed and one was left, which nothing later can exceed.
        have handed := handOut_handed bitneed bitslice bitpool nodup bits bitcount kept
        have most := handed.fits fits
        have least := handed.grown
        have narrow : (handOut bitneed bitslice bitpool order bits bitcount).1 cell < 16 := by
          rw [handed.others cell fresh, own, widthAt_above last.le]
          decide
        by_cases all : (handOut bitneed bitslice bitpool order bits bitcount).2 = bitpool
        · exact .inl all
        · exact .inr (.inl ⟨by omega, cell, mem_cons_self, narrow⟩)
      · apply step _ 0 kept fits
        rw [own] at partway
        unfold widthAt at partway
        unfold rise
        split_ifs at partway ⊢ <;> omega
    · exact .inl (by omega)

theorem fillUp_leaves (bitpool : Nat) {order : List Cell} (nodup : order.Nodup) (bits : Table Nat)
    {bitcount : Nat} (one : bitcount + 1 = bitpool) (room : ∃ cell ∈ order, bits cell < 16) :
    (fillUp bitpool order bits bitcount).2 = bitpool := by
  induction order generalizing bits with
  | nil => simp at room
  | cons cell order ih =>
    obtain ⟨fresh, nodup⟩ := nodup_cons.mp nodup
    rw [fillUp, if_pos (by omega)]
    split_ifs with narrow
    · have handed := fillUp_handed bitpool nodup
        (Function.update bits cell (bits cell + 1)) (bitcount + 1)
      have most := handed.fits one.le
      have least := handed.grown
      omega
    · apply ih nodup
      obtain ⟨other, listed, free⟩ := room
      rcases mem_cons.mp listed with rfl | later
      · exact absurd free narrow
      · exact ⟨other, later, free⟩

/-! ## A group, and all groups -/

variable {group : List Nat}

theorem mem_cells {m : Nat} :
    cell ∈ cells group m ↔ cell.1 ∈ group ∧ cell.2 < m := by
  obtain ⟨ch, sb⟩ := cell
  simp [cells]

theorem mem_order {m : Nat} :
    cell ∈ order group m ↔ cell.1 ∈ group ∧ cell.2 < m := by
  obtain ⟨ch, sb⟩ := cell
  simp [order, and_comm]

theorem length_cells (group : List Nat) (m : Nat) : (cells group m).length = group.length * m := by
  simp [cells, length_flatMap]

theorem cells_nodup (distinct : group.Nodup) (m : Nat) :
    (cells group m).Nodup := by
  apply nodup_flatMap.mpr
  constructor
  · intro ch _
    exact nodup_range.map fun _ _ same => (Prod.mk.inj same).2
  · refine distinct.imp fun {left right} differ => ?_
    intro cell first second
    simp only [mem_map] at first second
    obtain ⟨_, -, rfl⟩ := first
    obtain ⟨_, -, same⟩ := second
    exact differ (Prod.mk.inj same).1.symm

theorem order_nodup (distinct : group.Nodup) (m : Nat) :
    (order group m).Nodup := by
  apply nodup_flatMap.mpr
  constructor
  · intro sb _
    exact distinct.map fun _ _ same => (Prod.mk.inj same).1
  · refine nodup_range.imp fun {left right} differ => ?_
    intro cell first second
    simp only [mem_map] at first second
    obtain ⟨_, -, rfl⟩ := first
    obtain ⟨_, -, same⟩ := second
    exact differ (Prod.mk.inj same).2.symm

theorem order_perm (distinct : group.Nodup) (m : Nat) :
    (order group m).Perm (cells group m) := by
  apply (perm_ext_iff_of_nodup (order_nodup distinct m) (cells_nodup distinct m)).mpr
  intro cell
  rw [mem_order, mem_cells]

theorem foldl_max_le {least bound : Int} :
    needs.foldl max least ≤ bound ↔ least ≤ bound ∧ ∀ need ∈ needs, need ≤ bound := by
  induction needs generalizing least with
  | nil => simp
  | cons need needs ih =>
    rw [foldl_cons, ih, max_le_iff, forall_mem_cons, and_assoc]

theorem foldl_set (cells : List Cell) (width : Cell → Nat) (bits : Table Nat) (cell : Cell) :
    cells.foldl (fun bits cell => Function.update bits cell (width cell)) bits cell =
      if cell ∈ cells then width cell else bits cell := by
  induction cells generalizing bits with
  | nil => rfl
  | cons first cells ih =>
    rw [foldl_cons, ih]
    by_cases later : cell ∈ cells
    · simp [later]
    · by_cases same : cell = first
      · simp [same]
      · simp [later, same]

theorem sum_map_le {cells : List Cell} {bits : Table Nat} (within : ∀ cell ∈ cells, bits cell ≤ 16) :
    (cells.map bits).sum ≤ 16 * cells.length := by
  induction cells with
  | nil => rfl
  | cons first cells ih =>
    have rest := ih fun cell listed => within cell (mem_cons_of_mem _ listed)
    have one := within first mem_cons_self
    rw [map_cons, sum_cons, length_cons]
    omega

/-- A bitpool is shared out: no width is more than 16, and the widths together are the bitpool,
or all that the subbands can take. -/
structure Shared (bitpool m : Nat) (bits : Table Nat) (group : List Nat) : Prop where
  within : ∀ cell ∈ cells group m, bits cell ≤ 16
  total : ((cells group m).map bits).sum = min bitpool (16 * (group.length * m))

theorem widths_cells_le (group : List Nat) (m : Nat) (bitslice : Int) :
    widths ((cells group m).map bitneed) bitslice ≤ 16 * (group.length * m) := by
  rw [widths, map_map, ← length_cells]
  exact sum_map_le fun _ _ => widthAt_le ..

variable {bitpool m : Nat}

theorem allocateGroup_shared {bitneed : Table Int} {least : Int} (positive : 0 < bitpool)
    (distinct : group.Nodup) (floor : -2147483648 ≤ least + 15)
    (low : ∀ cell ∈ cells group m, least ≤ bitneed cell)
    (high : ∀ cell ∈ cells group m, bitneed cell ≤ least + 15) (bits : Table Nat) :
    Shared bitpool m (allocateGroup bitpool m bitneed bits group) group ∧
      ∀ cell, cell ∉ cells group m → allocateGroup bitpool m bitneed bits group cell = bits cell := by
  set needs := (cells group m).map bitneed with needs_eq
  set maxBitneed := needs.foldl max (-2147483648) with max_eq
  obtain ⟨-, below⟩ := foldl_max_le.mp max_eq.symm.le
  have highest : maxBitneed ≤ least + 15 :=
    foldl_max_le.mpr ⟨floor, forall_mem_map.mpr high⟩
  obtain ⟨counted, short, reason⟩ := searchSlice_stopped needs bitpool maxBitneed (maxBitneed + 1) 0 0
    (by rw [add_sub_cancel_right, widths_above below]) positive
  set found := searchSlice needs bitpool maxBitneed (maxBitneed + 1) 0 0 with found_eq
  set sliced := (cells group m).foldl
    (fun bits cell => Function.update bits cell (widthAt found.1 (bitneed cell))) bits with sliced_eq
  have sliced_at (cell : Cell) : sliced cell =
      if cell ∈ cells group m then widthAt found.1 (bitneed cell) else bits cell :=
    foldl_set (cells group m) (fun cell => widthAt found.1 (bitneed cell)) bits cell
  have perm := order_perm distinct m
  have start : ∀ cell ∈ order group m, sliced cell = widthAt found.1 (bitneed cell) := by
    intro cell listed
    rw [sliced_at, if_pos (perm.mem_iff.mp listed)]
  have counts : ((order group m).map sliced).sum = found.2 := by
    rw [map_congr_left start, (perm.map _).sum_eq, counted, widths, needs_eq, map_map]
    rfl
  have nodup := order_nodup distinct m
  have first := handOut_handed bitneed found.1 bitpool nodup sliced found.2 start
  have leaves := handOut_leaves bitneed found.1 bitpool nodup sliced found.2 start short.le
  set handed := handOut bitneed found.1 bitpool (order group m) sliced found.2 with handed_eq
  have second := fillUp_handed bitpool nodup handed.1 handed.2
  have ends : allocateGroup bitpool m bitneed bits group =
      (fillUp bitpool (order group m) handed.1 handed.2).1 := rfl
  set filled := fillUp bitpool (order group m) handed.1 handed.2 with filled_eq
  have narrow : ∀ cell ∈ order group m, handed.1 cell ≤ 16 := by
    apply first.within
    intro cell listed
    rw [start cell listed]
    exact widthAt_le ..
  have within : ∀ cell ∈ order group m, filled.1 cell ≤ 16 := second.within narrow
  -- Both counts are the sums of the widths.
  have handedSum : ((order group m).map handed.1).sum = handed.2 := by
    have := first.balanced
    omega
  have filledSum : ((order group m).map filled.1).sum = filled.2 := by
    have := second.balanced
    omega
  have capacity : (order group m).length = group.length * m := by
    rw [perm.length_eq, length_cells]
  have most := sum_map_le within
  have mostHanded := sum_map_le narrow
  have fits := second.fits (first.fits short.le)
  have grown := second.grown
  have since := first.grown
  rw [capacity] at most mostHanded
  have total : filled.2 = min bitpool (16 * (group.length * m)) := by
    rcases reason with reached | escaped
    · -- The next slice would use up the bitpool, so the subbands can take all of it.
      have roomy : bitpool ≤ 16 * (group.length * m) := by
        have wider : widths needs (found.1 - 1) ≤ 16 * (group.length * m) := by
          rw [needs_eq]
          exact widths_cells_le ..
        rw [widths_pred, ← counted] at wider
        exact reached.trans wider
      rw [min_eq_left roomy]
      rcases leaves with all | ⟨one, room⟩ | each
      · omega
      · exact fillUp_leaves bitpool nodup handed.1 one room
      · have rises : ((order group m).map (rise found.1 ∘ bitneed)).sum = sliceCount needs found.1 := by
          rw [(perm.map _).sum_eq, sliceCount, needs_eq, map_map]
        omega
    · -- Every subband is far above the slice, and full.
      have full : found.2 = 16 * (group.length * m) := by
        rw [counted, widths_deep, needs_eq, length_map, length_cells]
        intro need listed
        obtain ⟨cell, known, rfl⟩ := mem_map.mp listed
        have := low cell known
        omega
      omega
  refine ⟨⟨?_, ?_⟩, ?_⟩
  · intro cell listed
    rw [ends]
    exact within cell (perm.mem_iff.mpr listed)
  · rw [ends, ← (perm.map _).sum_eq, filledSum, total]
  · intro cell absent
    have unlisted := mt perm.mem_iff.mp absent
    rw [ends, second.others cell unlisted, first.others cell unlisted, sliced_at, if_neg absent]

/-- What `validate` lets through. -/
structure SbcParameters.Valid (params : SbcParameters) : Prop where
  frequency : ∃ freq, params.frequencyIndex = some freq
  blocks : params.blockCount ∈ [4, 8, 12, 16]
  mode : params.channelMode ≤ 3
  method : params.allocationMethod ≤ 1
  subbands : params.subbandCount ∈ [4, 8]
  bitpool : 2 ≤ params.bitpool ∧ params.bitpool ≤ 250

theorem SbcParameters.valid_of_validate {params : SbcParameters} (accepted : params.validate = .ok ()) :
    params.Valid := by
  unfold validate at accepted
  split_ifs at accepted with frequency blocks mode method subbands bitpool
  rw [not_or] at bitpool
  exact ⟨Option.ne_none_iff_exists'.mp frequency, blocks, UInt8.not_lt.mp mode,
    UInt8.not_lt.mp method, subbands, UInt8.not_lt.mp bitpool.1, UInt8.not_lt.mp bitpool.2⟩

theorem getD_bounds {row : List Int} (inside : ∀ offset ∈ row, -4 ≤ offset ∧ offset ≤ 2) (index : Nat) :
    -4 ≤ row.getD index 0 ∧ row.getD index 0 ≤ 2 := by
  rw [getD_eq_getElem?_getD]
  cases found : row[index]? with
  | none => decide
  | some offset => exact inside offset (mem_of_getElem? found)

theorem offset_bounds (offsets : List (List Int))
    (inside : ∀ row ∈ offsets, ∀ offset ∈ row, -4 ≤ offset ∧ offset ≤ 2) (freq sb : Nat) :
    -4 ≤ (offsets.getD freq []).getD sb 0 ∧ (offsets.getD freq []).getD sb 0 ≤ 2 := by
  apply getD_bounds
  rw [getD_eq_getElem?_getD]
  cases found : offsets[freq]? with
  | none => simp
  | some row => exact inside row (mem_of_getElem? found)

theorem bitneedOf_bounds (params : SbcParameters) (freq : Nat) {scaleFactors : Table Nat}
    (fits : ∀ cell, scaleFactors cell ≤ maxScaleFactor) :
    ∃ least : Int, -5 ≤ least ∧ ∀ cell, least ≤ bitneedOf params freq scaleFactors cell ∧
      bitneedOf params freq scaleFactors cell ≤ least + 15 := by
  by_cases snr : params.allocationMethod = allocationSnr
  · refine ⟨0, by decide, fun cell => ?_⟩
    have most : scaleFactors cell ≤ 15 := fits cell
    rw [bitneedOf, if_pos snr]
    omega
  · refine ⟨-5, by decide, fun cell => ?_⟩
    have most : scaleFactors cell ≤ 15 := fits cell
    have small := offset_bounds loudnessOffset4 (by decide) freq cell.2
    have large := offset_bounds loudnessOffset8 (by decide) freq cell.2
    rw [bitneedOf, if_neg snr]
    dsimp only
    split_ifs <;> omega

theorem foldl_unshared {bitneed : Table Int} {groups : List (List Nat)}
    (apart : ∀ group ∈ groups, ∀ bits cell, cell ∉ cells group m →
      allocateGroup bitpool m bitneed bits group cell = bits cell)
    (absent : ∀ group ∈ groups, cell ∉ cells group m) (bits : Table Nat) :
    groups.foldl (allocateGroup bitpool m bitneed) bits cell = bits cell := by
  induction groups generalizing bits with
  | nil => rfl
  | cons group groups ih =>
    rw [forall_mem_cons] at apart absent
    rw [foldl_cons, ih apart.2 absent.2, apart.1 bits cell absent.1]

theorem Shared.congr {bits bits' : Table Nat} (shared : Shared bitpool m bits group)
    (same : ∀ cell ∈ cells group m, bits' cell = bits cell) :
    Shared bitpool m bits' group := by
  constructor
  · intro cell listed
    rw [same cell listed]
    exact shared.within cell listed
  · rw [map_congr_left same, shared.total]

theorem foldl_shared {bitneed : Table Int} {groups : List (List Nat)}
    (apart : groups.Pairwise List.Disjoint)
    (each : ∀ group ∈ groups, ∀ bits,
      Shared bitpool m (allocateGroup bitpool m bitneed bits group) group ∧
      ∀ cell, cell ∉ cells group m → allocateGroup bitpool m bitneed bits group cell = bits cell)
    (bits : Table Nat) :
    ∀ group ∈ groups, Shared bitpool m (groups.foldl (allocateGroup bitpool m bitneed) bits) group := by
  induction groups generalizing bits with
  | nil => simp
  | cons first groups ih =>
    obtain ⟨away, apart⟩ := pairwise_cons.mp apart
    rw [forall_mem_cons] at each
    intro group listed
    rw [foldl_cons]
    rcases mem_cons.mp listed with rfl | later
    · apply (each.1 bits).1.congr
      intro cell own
      apply foldl_unshared fun other among bits => (each.2 other among bits).2
      intro other among foreign
      exact away other among (mem_cells.mp own).1 (mem_cells.mp foreign).1
    · exact ih apart each.2 _ group later

theorem groups_apart (params : SbcParameters) :
    params.groups.Pairwise List.Disjoint ∧ ∀ group ∈ params.groups, group.Nodup := by
  unfold SbcParameters.groups SbcParameters.channels
  split_ifs <;> simp [range_succ, List.Disjoint]

theorem allocateBits_shared {params : SbcParameters} (accepted : params.validate = .ok ())
    {scaleFactors : Table Nat} (fits : ∀ cell, scaleFactors cell ≤ maxScaleFactor) :
    ∃ bits, allocateBits params scaleFactors = .ok bits ∧
      ∀ group ∈ params.groups,
        Shared params.bitpool.toNat params.subbandCount.toNat bits group := by
  have valid := SbcParameters.valid_of_validate accepted
  obtain ⟨freq, found⟩ := valid.frequency
  obtain ⟨least, floor, bounds⟩ := bitneedOf_bounds params freq fits
  obtain ⟨apart, distinct⟩ := groups_apart params
  have positive : 0 < params.bitpool.toNat :=
    lt_of_lt_of_le (by decide) (UInt8.le_iff_toNat_le.mp valid.bitpool.1)
  refine ⟨_, by rw [allocateBits, found], ?_⟩
  apply foldl_shared apart
  intro group listed bits
  exact allocateGroup_shared positive (distinct group listed) (by omega)
    (fun cell _ => (bounds cell).1) (fun cell _ => (bounds cell).2) bits

end Simble.Audio
