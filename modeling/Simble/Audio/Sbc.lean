import Simble.Audio.BitAllocation
import Simble.Lib.Metered

/-! The SBC coder (`audio/sbc.rs`): bit writer and reader, header CRC, encoder and decoder, with
the floating-point arithmetic as a parameter. -/
namespace Simble.Audio
open List

/-- `items[index]` -/
def indexed {α : Type} (items : List α) (index : Nat) : Rust α :=
  match items[index]? with
  | some item => .ok item
  | none => .error .panic

/-- `items[index] = item` -/
def setAt {α : Type} (items : List α) (index : Nat) (item : α) : Rust (List α) :=
  if index < items.length then .ok (items.set index item) else .error .panic

/-- The `f64` operations that the coder uses, its conversions and the two filterbanks. -/
structure Arithmetic (F Analysis Synthesis : Type) where
  zero : F
  add : F → F → F
  sub : F → F → F
  max : F → F → F
  half : F → F
  abs : F → F
  /-- `f64::from(1u32 << exponent) <= value` -/
  reached : Nat → F → Bool
  ofPcm : Int16 → F
  /-- `value.round().clamp(-32768.0, 32767.0) as i16` -/
  toPcm : F → Int16
  /-- The level of a value for a width and a scale factor. -/
  quantize : Nat → Nat → F → UInt32
  dequantize : Nat → Nat → UInt32 → F
  analysis : Analysis
  /-- `AnalysisBank::analyze` with the tables for a number of subbands. -/
  analyze : Nat → Analysis → Nat → List F → Analysis × (Nat → F)
  synthesis : Synthesis
  /-- `SynthesisBank::synthesize` with the tables for a number of subbands. -/
  synthesize : Nat → Synthesis → Nat → (Nat → F) → Synthesis × (Nat → F)

section Bits

structure BitWriter where
  data : Bytes
  bit : Nat

def BitWriter.withCapacity (bytes : Nat) : BitWriter := ⟨List.replicate bytes 0, 0⟩

/-- One round of the loop in `write`. -/
def BitWriter.writeBit (writer : BitWriter) (b : Bool) : Rust BitWriter :=
  if b then do
    let byte ← indexed writer.data (writer.bit / 8)
    let data ← setAt writer.data (writer.bit / 8)
      (byte ||| (1 <<< UInt8.ofNat (7 - writer.bit % 8)))
    .ok ⟨data, writer.bit + 1⟩
  else .ok { writer with bit := writer.bit + 1 }

def BitWriter.write (writer : BitWriter) (value : UInt32) : Nat → Rust BitWriter
  | 0 => .ok writer
  | i + 1 => do
    let writer ← writer.writeBit ((value >>> UInt32.ofNat i) &&& 1 ≠ 0)
    writer.write value i

def BitWriter.writeField (writer : BitWriter) (field : UInt32 × Nat) : Rust BitWriter :=
  writer.write field.1 field.2

structure BitReader where
  data : Bytes
  bit : Nat

/-- One round of the loop in `read`. -/
def BitReader.readBit (reader : BitReader) : Rust (UInt32 × BitReader) := do
  let byte ← indexed reader.data (reader.bit / 8)
  .ok (((byte >>> UInt8.ofNat (7 - reader.bit % 8)) &&& 1).toUInt32,
    { reader with bit := reader.bit + 1 })

def BitReader.readInto (reader : BitReader) (value : UInt32) : Nat → Rust (UInt32 × BitReader)
  | 0 => .ok (value, reader)
  | bits + 1 => do
    let (b, reader) ← reader.readBit
    reader.readInto ((value <<< 1) ||| b) bits

def BitReader.read (reader : BitReader) (bits : Nat) : Rust (UInt32 × BitReader) :=
  reader.readInto 0 bits

def pushBit (crc bit : UInt8) : UInt8 :=
  if (crc >>> 7) ^^^ (bit &&& 1) ≠ 0 then (crc <<< 1) ^^^ 0x1D else crc <<< 1

/-- One round of the loop in `push_bits`. -/
def pushBitAt (data : Bytes) (crc : UInt8) (i : Nat) : Rust UInt8 := do
  let byte ← indexed data (i / 8)
  .ok (pushBit crc ((byte >>> UInt8.ofNat (7 - i % 8)) &&& 1))

def pushBits (crc : UInt8) (data : Bytes) (bitOffset bitLen : Nat) : Rust UInt8 :=
  (List.range' bitOffset bitLen).foldlM (pushBitAt data) crc

def headerCrc (frame : Bytes) (params : SbcParameters) : Rust UInt8 := do
  let crc ← pushBits 0x0F frame 8 16
  let jointBits := if params.isJoint then params.subbandCount.toNat else 0
  let scaleFactorBits := 4 * params.channels * params.subbandCount.toNat
  pushBits crc frame 32 (jointBits + scaleFactorBits)

end Bits

section Coder
variable {F Analysis Synthesis : Type} (num : Arithmetic F Analysis Synthesis)

/-- The `while` of `scale_factor_for`, with the steps left to the largest scale factor. -/
def scaleFactorFrom (maxAbs : F) : Nat → Nat → Nat
  | 0, sf => sf
  | left + 1, sf => if num.reached (sf + 1) maxAbs then scaleFactorFrom maxAbs left (sf + 1) else sf

def scaleFactorFor (maxAbs : F) : Nat := scaleFactorFrom num maxAbs maxScaleFactor 0

def SbcParameters.cells (params : SbcParameters) : List Cell :=
  Audio.cells (List.range params.channels) params.subbandCount.toNat

structure SbcEncoder (Analysis : Type) where
  params : SbcParameters
  valid : params.validate = .ok ()
  bank : Analysis

def SbcEncoder.new (params : SbcParameters) : Except SbcError (SbcEncoder Analysis) :=
  match valid : params.validate with
  | .ok () => .ok ⟨params, valid, num.analysis⟩
  | .error error => .error error

def analyzeChannel (params : SbcParameters) (pcm : List Int16) (blk : Nat)
    (state : Analysis × Table F) (ch : Nat) : Rust (Analysis × Table F) := do
  let m := params.subbandCount.toNat
  let input ← (List.range m).mapM fun i => indexed pcm ((blk * m + i) * params.channels + ch)
  let (bank, out) := num.analyze m state.1 ch (input.map num.ofPcm)
  .ok (bank, fun cell => if cell.1 = ch then out cell.2 else state.2 cell)

def analyzeBlock (params : SbcParameters) (pcm : List Int16) (state : Analysis × List (Table F))
    (blk : Nat) : Rust (Analysis × List (Table F)) := do
  let (bank, block) ← (List.range params.channels).foldlM (analyzeChannel num params pcm blk)
    (state.1, fun _ => num.zero)
  .ok (bank, state.2 ++ [block])

def largest (sb : List (Table F)) (value : Table F → F) : F :=
  sb.foldl (fun most block => num.max most (num.abs (value block))) num.zero

def joinSubband (joined : (Nat → Bool) × List (Table F)) (sbnd : Nat) :
    (Nat → Bool) × List (Table F) :=
  let (join, sb) := joined
  let mid (block : Table F) := num.half (num.add (block (0, sbnd)) (block (1, sbnd)))
  let side (block : Table F) := num.half (num.sub (block (0, sbnd)) (block (1, sbnd)))
  let plain := scaleFactorFor num (largest num sb fun block => block (0, sbnd)) +
    scaleFactorFor num (largest num sb fun block => block (1, sbnd))
  let joint := scaleFactorFor num (largest num sb mid) + scaleFactorFor num (largest num sb side)
  if joint < plain then
    (Function.update join sbnd true, sb.map fun block =>
      Function.update (Function.update block (0, sbnd) (mid block)) (1, sbnd) (side block))
  else (join, sb)

/-- The writes of `encode` with their widths, in order. -/
def frameFields (params : SbcParameters) (freq blocks : Nat) (join : Nat → Bool)
    (scaleFactors bits : Table Nat) (sb : List (Table F)) : List (UInt32 × Nat) :=
  let m := params.subbandCount.toNat
  [(sbcSyncWord.toUInt32, 8), (UInt32.ofNat freq, 2), (UInt32.ofNat blocks, 2),
    (params.channelMode.toUInt32, 2), (params.allocationMethod.toUInt32, 1),
    ((bit (params.subbandCount = 8)).toUInt32, 1), (params.bitpool.toUInt32, 8), (0, 8)] ++
  (if params.isJoint then
    (List.range (m - 1)).map (fun sbnd => ((bit (join sbnd)).toUInt32, 1)) ++ [(0, 1)]
  else []) ++
  params.cells.map (fun cell => (UInt32.ofNat (scaleFactors cell), 4)) ++
  sb.flatMap fun block => params.cells.filterMap fun cell =>
    if bits cell = 0 then none
    else some (num.quantize (bits cell) (scaleFactors cell) (block cell), bits cell)

def SbcEncoder.encode (encoder : SbcEncoder Analysis) (pcm : List Int16) :
    Rust (Except SbcError Bytes × SbcEncoder Analysis) := do
  let params := encoder.params
  if pcm.length ≠ params.pcmLen then
    return (.error (.wrongSampleCount params.pcmLen pcm.length), encoder)
  let (bank, sb) ← (List.range params.blockCount.toNat).foldlM
    (analyzeBlock num params pcm) (encoder.bank, [])
  let (join, sb) := if params.isJoint then
      (List.range (params.subbandCount.toNat - 1)).foldl (joinSubband num) (fun _ => false, sb)
    else (fun _ => false, sb)
  let scaleFactors : Table Nat := fun cell =>
    if cell ∈ params.cells then scaleFactorFor num (largest num sb fun block => block cell) else 0
  let bits ← allocateBits params scaleFactors
  match params.frequencyIndex with
  | none => .error .panic
  | some freq => do
    let blocks ← U8.sub (params.blockCount.toNat / 4) 1
    let writer ← (frameFields num params freq blocks join scaleFactors bits sb).foldlM
      BitWriter.writeField (BitWriter.withCapacity params.frameLength)
    let crc ← headerCrc writer.data params
    let frame ← setAt writer.data 3 crc
    .ok (.ok frame, { encoder with bank := bank })

structure SbcDecoder (Synthesis : Type) where
  bank : Synthesis
  verifyCrc : Bool

def SbcDecoder.new : SbcDecoder Synthesis := ⟨num.synthesis, true⟩

/-- What the loop over the blocks carries. -/
structure Decoding (F Synthesis : Type) where
  reader : BitReader
  sb : Table F
  bank : Synthesis
  pcm : List Int16

def readSample (bits scaleFactors : Table Nat) (state : Table F × BitReader) (cell : Cell) :
    Rust (Table F × BitReader) :=
  if bits cell = 0 then
    .ok (Function.update state.1 cell num.zero, state.2)
  else do
    let (raw, reader) ← state.2.read (bits cell)
    .ok (Function.update state.1 cell (num.dequantize (bits cell) (scaleFactors cell) raw), reader)

/-- Mid and side back to left and right. -/
def unjoin (params : SbcParameters) (join : Nat → Bool) (sb : Table F) : Table F :=
  if params.isJoint then
    (List.range params.subbandCount.toNat).foldl (fun sb sbnd =>
      if join sbnd then
        Function.update (Function.update sb (0, sbnd) (num.add (sb (0, sbnd)) (sb (1, sbnd))))
          (1, sbnd) (num.sub (sb (0, sbnd)) (sb (1, sbnd)))
      else sb) sb
  else sb

def synthesizeChannel (params : SbcParameters) (sb : Table F) (blk : Nat)
    (state : Synthesis × List Int16) (ch : Nat) : Rust (Synthesis × List Int16) := do
  let m := params.subbandCount.toNat
  let (bank, out) := num.synthesize m state.1 ch fun i => sb (ch, i)
  let pcm ← (List.range m).foldlM (fun pcm i =>
    setAt pcm ((blk * m + i) * params.channels + ch) (num.toPcm (out i))) state.2
  .ok (bank, pcm)

/-- The body of `for blk in 0..blocks`. -/
def decodeBlock (params : SbcParameters) (join : Nat → Bool) (bits scaleFactors : Table Nat)
    (state : Decoding F Synthesis) (blk : Nat) : Rust (Decoding F Synthesis) := do
  let (sb, reader) ← params.cells.foldlM (readSample num bits scaleFactors) (state.sb, state.reader)
  let sb := unjoin num params join sb
  let (bank, pcm) ← (List.range params.channels).foldlM (synthesizeChannel num params sb blk)
    (state.bank, state.pcm)
  .ok ⟨reader, sb, bank, pcm⟩

def readFlag (state : (Nat → Bool) × BitReader) (sbnd : Nat) : Rust ((Nat → Bool) × BitReader) := do
  let (value, reader) ← state.2.read 1
  .ok (Function.update state.1 sbnd (decide (value ≠ 0)), reader)

def readJoin (params : SbcParameters) (reader : BitReader) : Rust ((Nat → Bool) × BitReader) :=
  if params.isJoint then do
    let (join, reader) ← (List.range (params.subbandCount.toNat - 1)).foldlM readFlag
      (fun _ => false, reader)
    let (_, reader) ← reader.read 1
    .ok (join, reader)
  else .ok (fun _ => false, reader)

def readScaleFactor (state : Table Nat × BitReader) (cell : Cell) : Rust (Table Nat × BitReader) := do
  let (value, reader) ← state.2.read 4
  .ok (Function.update state.1 cell value.toUInt8.toNat, reader)

/-- `decode` from the reader on. -/
def decodeFrame (params : SbcParameters) (frame : Bytes) (bank : Synthesis) :
    Rust (List Int16 × Synthesis) := do
  let (join, reader) ← readJoin params ⟨frame, 32⟩
  let (scaleFactors, reader) ← params.cells.foldlM readScaleFactor (fun _ => 0, reader)
  let bits ← allocateBits params scaleFactors
  let state ← (List.range params.blockCount.toNat).foldlM
    (decodeBlock num params join bits scaleFactors)
    ⟨reader, fun _ => num.zero, bank, List.replicate params.pcmLen 0⟩
  .ok (state.pcm, state.bank)

def headerParameters (modes bitpool : UInt8) : SbcParameters where
  samplingFrequency := sbcSamplingFrequencies.getD ((modes >>> 6) &&& 3).toNat 0
  blockCount := (4 : UInt8) * ((1 : UInt8) + ((modes >>> 4) &&& 3))
  channelMode := (modes >>> 2) &&& 3
  allocationMethod := (modes >>> 1) &&& 1
  subbandCount := if modes &&& 1 ≠ 0 then 8 else 4
  bitpool := bitpool

/-- The CRC that a frame is held to: its own one where CRCs are not verified. -/
def SbcDecoder.expectedCrc (decoder : SbcDecoder Synthesis) (crc : UInt8) (frame : Bytes)
    (params : SbcParameters) : Rust UInt8 :=
  if decoder.verifyCrc then headerCrc frame params else .ok crc

def SbcDecoder.decode (decoder : SbcDecoder Synthesis) (data : Bytes) :
    Rust (Except SbcError (SbcParameters × List Int16 × Bytes) × SbcDecoder Synthesis) :=
  match data with
  | sync :: modes :: bitpool :: crc :: _ =>
    if sync ≠ sbcSyncWord then
      .ok (.error .badSyncWord, decoder)
    else
      let params := headerParameters modes bitpool
      match params.validate with
      | .error error => .ok (.error error, decoder)
      | .ok () =>
        if data.length < params.frameLength then
          .ok (.error .truncated, decoder)
        else do
          let frame := data.take params.frameLength
          let expected ← decoder.expectedCrc crc frame params
          if crc ≠ expected then
            .ok (.error (.badCrc crc expected), decoder)
          else
            let (pcm, bank) ← decodeFrame num params frame decoder.bank
            .ok (.ok (params, pcm, data.drop params.frameLength), { decoder with bank := bank })
  | _ => .ok (.error .truncated, decoder)

end Coder

/-! ## Reading and writing within the frame -/

theorem indexed_ok {α : Type} {items : List α} {index : Nat} (within : index < items.length) :
    indexed items index = .ok items[index] := by
  rw [indexed, List.getElem?_eq_getElem within]

theorem setAt_ok {α : Type} {items : List α} {index : Nat} (within : index < items.length) (item : α) :
    setAt items index item = .ok (items.set index item) := if_pos within

open BitWriter

theorem writeBit_ok (writer : BitWriter) (room : writer.bit < 8 * writer.data.length) (b : Bool) :
    ∃ next, writer.writeBit b = .ok next ∧ next.data.length = writer.data.length ∧
      next.bit = writer.bit + 1 := by
  have within : writer.bit / 8 < writer.data.length := by omega
  cases b with
  | false => exact ⟨_, rfl, rfl, rfl⟩
  | true =>
    rw [writeBit, if_pos rfl, indexed_ok within, Rust.ok_bind, setAt_ok within]
    exact ⟨_, rfl, length_set, rfl⟩

theorem write_ok (writer : BitWriter) (value : UInt32) (bits : Nat)
    (room : writer.bit + bits ≤ 8 * writer.data.length) :
    ∃ next, writer.write value bits = .ok next ∧ next.data.length = writer.data.length ∧
      next.bit = writer.bit + bits := by
  induction bits generalizing writer with
  | zero => exact ⟨writer, rfl, rfl, rfl⟩
  | succ i ih =>
    obtain ⟨next, wrote, sized, moved⟩ :=
      writeBit_ok writer (by omega) (decide ((value >>> UInt32.ofNat i) &&& 1 ≠ 0))
    obtain ⟨last, ended, same, total⟩ := ih next (by omega)
    refine ⟨last, ?_, same.trans sized, by omega⟩
    rw [write, wrote, Rust.ok_bind, ended]

theorem writeField_metered (size : Nat) (field : UInt32 × Nat) :
    Lib.Metered writeField (·.bit) Prod.snd (8 * size) (·.data.length = size) field := by
  intro writer sized room
  obtain ⟨next, wrote, same, moved⟩ := write_ok writer field.1 field.2 (by
    rw [sized]
    exact room)
  exact ⟨next, wrote, same.trans sized, moved⟩

variable (reader : BitReader)

theorem readBit_ok (room : reader.bit < 8 * reader.data.length) :
    ∃ b, b.toNat < 2 ∧ reader.readBit = .ok (b, { reader with bit := reader.bit + 1 }) := by
  have within : reader.bit / 8 < reader.data.length := by omega
  refine ⟨_, ?_, by rw [BitReader.readBit, indexed_ok within, Rust.ok_bind]⟩
  rw [UInt8.toNat_toUInt32, UInt8.toNat_and]
  exact Nat.lt_succ_of_le Nat.and_le_right

theorem readInto_ok (value : UInt32) (width bits : Nat)
    (room : reader.bit + bits ≤ 8 * reader.data.length) (below : value.toNat < 2 ^ width) :
    ∃ result, reader.readInto value bits = .ok (result, { reader with bit := reader.bit + bits }) ∧
      result.toNat < 2 ^ (width + bits) := by
  induction bits generalizing reader value width with
  | zero => exact ⟨value, rfl, below⟩
  | succ bits ih =>
    obtain ⟨b, small, read⟩ := readBit_ok reader (by omega)
    have doubled : ((value <<< 1) ||| b).toNat < 2 ^ (width + 1) := by
      rw [UInt32.toNat_or, UInt32.toNat_shiftLeft]
      apply Nat.or_lt_two_pow
      · apply lt_of_le_of_lt (Nat.mod_le ..)
        rw [Nat.shiftLeft_eq, pow_succ]
        exact (Nat.mul_lt_mul_right (by decide)).mpr below
      · exact small.trans_le (Nat.le_self_pow (by omega) 2)
    obtain ⟨result, rest, bounded⟩ := ih { reader with bit := reader.bit + 1 } _ _
      (by dsimp only; omega) doubled
    refine ⟨result, ?_, by rw [Nat.add_right_comm] at bounded; exact bounded⟩
    rw [BitReader.readInto, read, Rust.ok_bind]
    dsimp only
    rw [rest, Nat.add_right_comm reader.bit]
    rfl

theorem read_ok {bits : Nat} (room : reader.bit + bits ≤ 8 * reader.data.length) :
    ∃ result, reader.read bits = .ok (result, { reader with bit := reader.bit + bits }) ∧
      result.toNat < 2 ^ bits := by
  obtain ⟨result, read, below⟩ := readInto_ok reader 0 0 bits room (by decide)
  rw [Nat.zero_add] at below
  exact ⟨result, read, below⟩

theorem pushBits_ok (crc : UInt8) (data : Bytes) {bitOffset bitLen : Nat}
    (room : bitOffset + bitLen ≤ 8 * data.length) :
    ∃ result, pushBits crc data bitOffset bitLen = .ok result := by
  have each : ∀ i ∈ List.range' bitOffset bitLen, ∀ crc, True →
      ∃ next, pushBitAt data crc i = .ok next ∧ True := by
    intro i listed crc _
    have within : i / 8 < data.length := by
      have := (List.mem_range'_1.mp listed).2
      omega
    rw [pushBitAt, indexed_ok within, Rust.ok_bind]
    exact ⟨_, rfl, trivial⟩
  obtain ⟨result, pushed, -⟩ := Lib.foldlM_ends (fun _ => True) each crc trivial
  exact ⟨result, pushed⟩

/-! ## What a frame has room for -/

variable {params : SbcParameters}

theorem subbands_cases (valid : params.Valid) :
    params.subbandCount.toNat = 4 ∨ params.subbandCount.toNat = 8 := by
  have listed := valid.subbands
  rw [mem_pair] at listed
  rcases listed with four | eight
  · exact .inl (by rw [four]; rfl)
  · exact .inr (by rw [eight]; rfl)

open SbcParameters

theorem channels_cases (params : SbcParameters) : params.channels = 1 ∨ params.channels = 2 := by
  unfold channels
  split_ifs
  · exact .inl rfl
  · exact .inr rfl

theorem channels_shared (shared : params.ownPools = false) :
    params.channels = 2 := by
  rw [ownPools, Bool.or_eq_false_iff, decide_eq_false_iff_not] at shared
  exact if_neg shared.1

theorem joint_shared (joint : params.isJoint = true) :
    params.ownPools = false := by
  rw [isJoint, decide_eq_true_eq] at joint
  rw [ownPools, joint]
  decide

def SbcParameters.blockBits (params : SbcParameters) : Nat :=
  if params.ownPools then params.channels * params.bitpool.toNat else params.bitpool.toNat

def SbcParameters.joinBits (params : SbcParameters) : Nat :=
  if params.isJoint then params.subbandCount.toNat else 0

theorem room_in_frame (valid : params.Valid) :
    32 + params.joinBits + 4 * (params.channels * params.subbandCount.toNat) +
      params.blockCount.toNat * params.blockBits ≤ 8 * params.frameLength := by
  have header : 4 * (params.channels * params.subbandCount.toNat) =
      8 * (4 * params.subbandCount.toNat * params.channels / 8) := by
    rcases subbands_cases valid with m | m <;> rcases channels_cases params with c | c <;> rw [m, c]
  rw [header]
  unfold frameLength blockBits joinBits
  cases own : params.ownPools with
  | true =>
    have apart : params.isJoint = false := by
      by_contra joint
      rw [joint_shared (Bool.eq_true_of_not_eq_false joint)] at own
      cases own
    simp only [apart, if_true, Bool.false_eq_true, if_false]
    rw [← Nat.mul_assoc]
    omega
  | false =>
    cases joint : params.isJoint <;>
      simp only [if_true, Bool.false_eq_true, if_false, Bool.toNat_true, Bool.toNat_false] <;> omega

theorem length_frameCells (params : SbcParameters) :
    params.cells.length = params.channels * params.subbandCount.toNat := by
  rw [SbcParameters.cells, length_cells, length_range]

theorem widths_within {bits : Table Nat}
    (shared : ∀ group ∈ params.groups,
      Shared params.bitpool.toNat params.subbandCount.toNat bits group) :
    (params.cells.map bits).sum ≤ params.blockBits := by
  have each : ∀ group ∈ params.groups,
      ((cells group params.subbandCount.toNat).map bits).sum ≤ params.bitpool.toNat := by
    intro group listed
    rw [(shared group listed).total]
    exact min_le_left ..
  unfold SbcParameters.cells blockBits
  unfold groups at each
  cases own : params.ownPools with
  | true =>
    rw [own, if_pos rfl] at each
    rw [if_pos rfl]
    rcases channels_cases params with one | two
    · rw [one] at each ⊢
      rw [Nat.one_mul]
      exact each [0] (by decide)
    · rw [two] at each ⊢
      have left := each [0] (by decide)
      have right := each [1] (by decide)
      have both : cells (List.range 2) params.subbandCount.toNat =
          cells [0] params.subbandCount.toNat ++ cells [1] params.subbandCount.toNat := by
        simp [cells, range_succ]
      rw [both, map_append, sum_append]
      omega
  | false =>
    rw [own, if_neg (by decide)] at each
    rw [channels_shared own]
    exact each [0, 1] (by decide)

theorem header_within (valid : params.Valid) :
    32 + (params.joinBits + 4 * params.channels * params.subbandCount.toNat) ≤
      8 * params.frameLength := by
  have room := room_in_frame valid
  rw [Nat.mul_assoc]
  omega

theorem four_le_frameLength (params : SbcParameters) : 4 ≤ params.frameLength := by
  rw [frameLength, Nat.add_assoc]
  exact Nat.le_add_right ..

theorem headerCrc_ok (valid : params.Valid) {frame : Bytes}
    (whole : frame.length = params.frameLength) : ∃ crc, headerCrc frame params = .ok crc := by
  have within := header_within valid
  rw [← whole] at within
  have head : 8 + 16 ≤ 8 * frame.length := by omega
  obtain ⟨first, ran⟩ := pushBits_ok 0x0F frame head
  obtain ⟨crc, ended⟩ := pushBits_ok first frame within
  refine ⟨crc, ?_⟩
  rw [headerCrc, ran]
  exact ended

theorem sample_within {blocks m channels blk i ch : Nat} (inBlocks : blk < blocks) (inBlock : i < m)
    (inChannels : ch < channels) : (blk * m + i) * channels + ch < blocks * m * channels := by
  have row : blk * m + i + 1 ≤ blocks * m :=
    calc blk * m + i + 1 ≤ blk * m + m := by omega
      _ = (blk + 1) * m := (Nat.succ_mul ..).symm
      _ ≤ blocks * m := Nat.mul_le_mul_right m inBlocks
  calc (blk * m + i) * channels + ch < (blk * m + i) * channels + channels := by omega
    _ = (blk * m + i + 1) * channels := (Nat.succ_mul ..).symm
    _ ≤ blocks * m * channels := Nat.mul_le_mul_right channels row

/-! ## The encoder -/

section Main
variable {F Analysis Synthesis : Type} (num : Arithmetic F Analysis Synthesis)

theorem scaleFactorFrom_le (maxAbs : F) (left sf : Nat) :
    scaleFactorFrom num maxAbs left sf ≤ sf + left := by
  induction left generalizing sf with
  | zero => exact le_rfl
  | succ left ih =>
    rw [scaleFactorFrom]
    split_ifs
    · have := ih (sf + 1)
      omega
    · exact Nat.le_add_right ..

theorem scaleFactorFor_le (maxAbs : F) : scaleFactorFor num maxAbs ≤ maxScaleFactor := by
  have := scaleFactorFrom_le num maxAbs maxScaleFactor 0
  rw [Nat.zero_add] at this
  exact this

variable {params : SbcParameters}

theorem analyzeChannel_ok {pcm : List Int16} (whole : pcm.length = params.pcmLen) {blk ch : Nat}
    (inBlocks : blk < params.blockCount.toNat) (inChannels : ch < params.channels)
    (state : Analysis × Table F) :
    ∃ next, analyzeChannel num params pcm blk state ch = .ok next := by
  have each : ∀ i ∈ List.range params.subbandCount.toNat, ∃ sample,
      indexed pcm ((blk * params.subbandCount.toNat + i) * params.channels + ch) = .ok sample := by
    intro i listed
    refine ⟨_, indexed_ok ?_⟩
    rw [whole]
    exact sample_within inBlocks (List.mem_range.mp listed) inChannels
  obtain ⟨input, read⟩ := Lib.mapM_ends each
  rw [analyzeChannel, read]
  exact ⟨_, rfl⟩

theorem analyze_ok {pcm : List Int16} (whole : pcm.length = params.pcmLen) (bank : Analysis) :
    ∃ last, (List.range params.blockCount.toNat).foldlM (analyzeBlock num params pcm) (bank, []) =
      .ok last ∧ last.2.length = params.blockCount.toNat := by
  have metered : ∀ blk ∈ List.range params.blockCount.toNat,
      Lib.Metered (analyzeBlock num params pcm) (fun state => state.2.length) (fun _ => 1)
        params.blockCount.toNat (fun _ => True) blk := by
    intro blk listed state _ _
    have each : ∀ ch ∈ List.range params.channels, ∀ state, True →
        ∃ next, analyzeChannel num params pcm blk state ch = .ok next ∧ True := by
      intro ch among state _
      obtain ⟨next, ran⟩ := analyzeChannel_ok num whole (List.mem_range.mp listed)
        (List.mem_range.mp among) state
      exact ⟨next, ran, trivial⟩
    obtain ⟨⟨bank, block⟩, ran, -⟩ := Lib.foldlM_ends (fun _ => True) each
      (state.1, fun _ => num.zero) trivial
    refine ⟨(bank, state.2 ++ [block]), ?_, trivial, length_append⟩
    rw [analyzeBlock, ran]
    rfl
  obtain ⟨last, ran, -, counted⟩ := Lib.Metered.foldlM metered (bank, []) trivial (by simp)
  refine ⟨last, ran, ?_⟩
  simpa using counted

theorem length_foldl_join (subbands : List Nat) (joined : (Nat → Bool) × List (Table F)) :
    (subbands.foldl (joinSubband num) joined).2.length = joined.2.length := by
  induction subbands generalizing joined with
  | nil => rfl
  | cons sbnd subbands ih =>
    rw [foldl_cons, ih, joinSubband]
    split_ifs
    · exact length_map ..
    · rfl

theorem sum_samples (listed : List Cell) (scaleFactors bits : Table Nat) (block : Table F) :
    ((listed.filterMap fun cell => if bits cell = 0 then none
      else some (num.quantize (bits cell) (scaleFactors cell) (block cell), bits cell)).map
        Prod.snd).sum = (listed.map bits).sum := by
  induction listed with
  | nil => rfl
  | cons cell listed ih =>
    rw [filterMap_cons, map_cons, sum_cons, ← ih]
    by_cases none : bits cell = 0
    · simp [none]
    · simp [none]

theorem sum_frameFields (valid : params.Valid) (freq blocks : Nat) (join : Nat → Bool)
    (scaleFactors bits : Table Nat) (sb : List (Table F)) :
    ((frameFields num params freq blocks join scaleFactors bits sb).map Prod.snd).sum =
      32 + params.joinBits + 4 * (params.channels * params.subbandCount.toNat) +
        sb.length * (params.cells.map bits).sum := by
  have flags : ((if params.isJoint then
      (List.range (params.subbandCount.toNat - 1)).map
        (fun sbnd => ((bit (join sbnd)).toUInt32, 1)) ++ [(0, 1)]
      else []).map Prod.snd).sum = params.joinBits := by
    unfold joinBits
    split_ifs
    · have some : params.subbandCount.toNat ≠ 0 := by
        rcases subbands_cases valid with m | m <;> omega
      simp [Function.comp_def]
      omega
    · rfl
  have factors : ((params.cells.map fun cell => (UInt32.ofNat (scaleFactors cell), 4)).map
      Prod.snd).sum = 4 * (params.channels * params.subbandCount.toNat) := by
    rw [← length_frameCells]
    simp [Function.comp_def, Nat.mul_comm]
  have samples : ((sb.flatMap fun block => params.cells.filterMap fun cell =>
      if bits cell = 0 then none
      else some (num.quantize (bits cell) (scaleFactors cell) (block cell), bits cell)).map
        Prod.snd).sum = sb.length * (params.cells.map bits).sum := by
    induction sb with
    | nil => simp
    | cons block sb ih =>
      rw [flatMap_cons, map_append, sum_append, ih, sum_samples, length_cons,
        Nat.succ_mul, Nat.add_comm]
  rw [frameFields, map_append, map_append, map_append, sum_append,
    sum_append, sum_append, flags, factors, samples]
  rfl

theorem encode_ok (encoder : SbcEncoder Analysis) (pcm : List Int16) :
    ∃ answer next, encoder.encode num pcm = .ok (answer, next) ∧
      next.params = encoder.params ∧
      (pcm.length = encoder.params.pcmLen →
        ∃ frame, answer = .ok frame ∧ frame.length = encoder.params.frameLength) := by
  by_cases whole : pcm.length = encoder.params.pcmLen
  · have valid := valid_of_validate encoder.valid
    obtain ⟨freq, found⟩ := valid.frequency
    obtain ⟨⟨bank, sb⟩, analyzed, counted⟩ := analyze_ok num whole encoder.bank
    set joined := if encoder.params.isJoint then
        (List.range (encoder.params.subbandCount.toNat - 1)).foldl (joinSubband num)
          (fun _ => false, sb)
      else (fun _ => false, sb) with joined_eq
    have kept : joined.2.length = encoder.params.blockCount.toNat := by
      rw [joined_eq]
      split_ifs
      · rw [length_foldl_join]
        exact counted
      · exact counted
    set scaleFactors : Table Nat := fun cell =>
      if cell ∈ encoder.params.cells then
        scaleFactorFor num (largest num joined.2 fun block => block cell)
      else 0 with factors_eq
    have fits : ∀ cell, scaleFactors cell ≤ maxScaleFactor := by
      intro cell
      rw [factors_eq]
      dsimp only
      split_ifs
      · exact scaleFactorFor_le ..
      · exact Nat.zero_le _
    obtain ⟨bits, allocated, shared⟩ := allocateBits_shared encoder.valid fits
    have blocks : U8.sub (encoder.params.blockCount.toNat / 4) 1 =
        .ok (encoder.params.blockCount.toNat / 4 - 1) := by
      apply U8.sub_ok
      have listed := valid.blocks
      simp only [mem_cons, not_mem_nil, or_false] at listed
      rcases listed with four | eight | twelve | sixteen <;> simp [*]
    have room : (withCapacity encoder.params.frameLength).bit +
        ((frameFields num encoder.params freq (encoder.params.blockCount.toNat / 4 - 1) joined.1
          scaleFactors bits joined.2).map Prod.snd).sum ≤ 8 * encoder.params.frameLength := by
      rw [sum_frameFields num valid, kept]
      have most := Nat.mul_le_mul_left encoder.params.blockCount.toNat (widths_within shared)
      have frame := room_in_frame valid
      exact (Nat.zero_add _).trans_le (by omega)
    obtain ⟨writer, wrote, sized, -⟩ := Lib.Metered.foldlM
      (fun field _ => writeField_metered encoder.params.frameLength field) _
      (length_replicate ..) room
    obtain ⟨crc, checked⟩ := headerCrc_ok valid sized
    have third : 3 < writer.data.length := by
      rw [sized]
      exact four_le_frameLength _
    refine ⟨.ok (writer.data.set 3 crc), { encoder with bank := bank }, ?_, rfl, ?_⟩
    · rw [SbcEncoder.encode]
      rw [if_neg (not_not.mpr whole), analyzed, Rust.ok_bind]
      dsimp only
      rw [← joined_eq, ← factors_eq, allocated, Rust.ok_bind, found]
      dsimp only
      rw [blocks, Rust.ok_bind, wrote, Rust.ok_bind, checked, Rust.ok_bind, setAt_ok third]
      rfl
    · intro _
      refine ⟨_, rfl, ?_⟩
      rw [length_set]
      exact sized
  · refine ⟨.error (.wrongSampleCount encoder.params.pcmLen pcm.length), encoder, ?_, rfl, ?_⟩
    · rw [SbcEncoder.encode]
      rw [if_pos whole]
      rfl
    · intro same
      exact absurd same whole

/-! ## The decoder -/

theorem read_within (frame : Bytes) {reader : BitReader} (same : reader.data = frame) {bits : Nat}
    (room : reader.bit + bits ≤ 8 * frame.length) :
    ∃ result next, reader.read bits = .ok (result, next) ∧ next.data = frame ∧
      next.bit = reader.bit + bits ∧ result.toNat < 2 ^ bits := by
  obtain ⟨result, read, below⟩ := read_ok reader (by rw [same]; exact room)
  exact ⟨result, _, read, same, rfl, below⟩

theorem readFlag_metered (frame : Bytes) (sbnd : Nat) :
    Lib.Metered readFlag (fun state => state.2.bit) (fun _ => 1) (8 * frame.length)
      (fun state => state.2.data = frame) sbnd := by
  intro state same room
  obtain ⟨value, next, read, kept, moved, -⟩ := read_within frame same room
  refine ⟨(Function.update state.1 sbnd (decide (value ≠ 0)), next), ?_, kept, moved⟩
  rw [readFlag, read]
  rfl

theorem readJoin_ok (valid : params.Valid) (reader : BitReader)
    (room : reader.bit + params.joinBits ≤ 8 * reader.data.length) :
    ∃ join next, readJoin params reader = .ok (join, next) ∧ next.data = reader.data ∧
      next.bit = reader.bit + params.joinBits := by
  unfold readJoin
  unfold joinBits at room ⊢
  split_ifs at room ⊢ with joint
  · have some : params.subbandCount.toNat ≠ 0 := by
      rcases subbands_cases valid with m | m <;> omega
    have each : ∀ sbnd ∈ List.range (params.subbandCount.toNat - 1),
        Lib.Metered readFlag (fun state => state.2.bit) (fun _ => 1) (8 * reader.data.length)
          (fun state => state.2.data = reader.data) sbnd :=
      fun sbnd _ => readFlag_metered reader.data sbnd
    obtain ⟨⟨join, flagged⟩, ran, kept, moved⟩ := Lib.Metered.foldlM each
      (fun _ => false, reader) rfl (by
      rw [map_const', length_range, sum_replicate, Nat.nsmul_eq_mul, Nat.mul_one]
      dsimp only
      omega)
    rw [map_const', length_range, sum_replicate, Nat.nsmul_eq_mul, Nat.mul_one] at moved
    dsimp only at kept moved
    have one : flagged.bit + 1 ≤ 8 * reader.data.length := by omega
    obtain ⟨value, next, read, still, last, -⟩ := read_within reader.data kept one
    refine ⟨join, next, ?_, still, by omega⟩
    rw [ran, Rust.ok_bind]
    dsimp only
    rw [read]
    rfl
  · exact ⟨_, reader, rfl, rfl, rfl⟩

theorem readScaleFactor_metered (frame : Bytes) (cell : Cell) :
    Lib.Metered readScaleFactor (fun state => state.2.bit) (fun _ => 4) (8 * frame.length)
      (fun state => state.2.data = frame ∧ ∀ cell, state.1 cell ≤ maxScaleFactor) cell := by
  rintro state ⟨same, fits⟩ room
  obtain ⟨value, next, read, kept, moved, below⟩ := read_within frame same room
  refine ⟨(Function.update state.1 cell value.toUInt8.toNat, next), ?_, ⟨kept, ?_⟩, moved⟩
  · rw [readScaleFactor, read]
    rfl
  · intro other
    dsimp only
    by_cases own : other = cell
    · rw [own, Function.update_self, UInt32.toNat_toUInt8]
      exact (Nat.mod_le ..).trans (Nat.lt_succ_iff.mp below)
    · rw [Function.update_of_ne own]
      exact fits other

theorem readSample_metered (frame : Bytes) (bits scaleFactors : Table Nat) (cell : Cell) :
    Lib.Metered (readSample num bits scaleFactors) (fun state => state.2.bit) bits
      (8 * frame.length) (fun state => state.2.data = frame) cell := by
  intro state same room
  rw [readSample]
  split_ifs with none
  · refine ⟨_, rfl, same, ?_⟩
    rw [none]
    rfl
  · obtain ⟨raw, next, read, kept, moved, -⟩ := read_within frame same room
    rw [read]
    exact ⟨_, rfl, kept, moved⟩

theorem synthesizeChannel_ok {blk ch : Nat} (inBlocks : blk < params.blockCount.toNat)
    (inChannels : ch < params.channels) (sb : Table F) {state : Synthesis × List Int16}
    (whole : state.2.length = params.pcmLen) :
    ∃ next, synthesizeChannel num params sb blk state ch = .ok next ∧
      next.2.length = params.pcmLen := by
  obtain ⟨made, synthesized⟩ : ∃ made,
      num.synthesize params.subbandCount.toNat state.1 ch (fun i => sb (ch, i)) = made := ⟨_, rfl⟩
  have each : ∀ i ∈ List.range params.subbandCount.toNat, ∀ pcm : List Int16,
      pcm.length = params.pcmLen →
        ∃ next, setAt pcm ((blk * params.subbandCount.toNat + i) * params.channels + ch)
          (num.toPcm (made.2 i)) = .ok next ∧ next.length = params.pcmLen := by
    intro i listed pcm sized
    refine ⟨_, setAt_ok ?_ _, ?_⟩
    · rw [sized]
      exact sample_within inBlocks (List.mem_range.mp listed) inChannels
    · rw [length_set]
      exact sized
  obtain ⟨pcm, ran, sized⟩ := Lib.foldlM_ends (fun pcm => pcm.length = params.pcmLen) each state.2 whole
  refine ⟨(made.1, pcm), ?_, sized⟩
  rw [synthesizeChannel, synthesized]
  dsimp only
  rw [ran]
  rfl

theorem decodeBlock_metered (frame : Bytes) (join : Nat → Bool) (bits scaleFactors : Table Nat)
    {blk : Nat} (inBlocks : blk < params.blockCount.toNat) :
    Lib.Metered (decodeBlock num params join bits scaleFactors) (fun state => state.reader.bit)
      (fun _ => (params.cells.map bits).sum) (8 * frame.length)
      (fun state => state.reader.data = frame ∧ state.pcm.length = params.pcmLen) blk := by
  rintro state ⟨same, sized⟩ room
  obtain ⟨⟨sb, reader⟩, read, kept, moved⟩ := Lib.Metered.foldlM
    (fun cell _ => readSample_metered num frame bits scaleFactors cell)
    (state.sb, state.reader) same room
  have each : ∀ ch ∈ List.range params.channels, ∀ state : Synthesis × List Int16,
      state.2.length = params.pcmLen →
        ∃ next, synthesizeChannel num params (unjoin num params join sb) blk state ch = .ok next ∧
          next.2.length = params.pcmLen := by
    intro ch listed state whole
    exact synthesizeChannel_ok num inBlocks (List.mem_range.mp listed) _ whole
  obtain ⟨⟨bank, pcm⟩, ran, whole⟩ := Lib.foldlM_ends
    (fun state => state.2.length = params.pcmLen) each (state.bank, state.pcm) sized
  refine ⟨⟨reader, unjoin num params join sb, bank, pcm⟩, ?_, ⟨kept, whole⟩, moved⟩
  rw [decodeBlock, read, Rust.ok_bind]
  dsimp only
  rw [ran]
  rfl

theorem decodeFrame_ok (accepted : params.validate = .ok ()) {frame : Bytes}
    (whole : frame.length = params.frameLength) (bank : Synthesis) :
    ∃ pcm next, decodeFrame num params frame bank = .ok (pcm, next) ∧
      pcm.length = params.pcmLen := by
  have valid := valid_of_validate accepted
  have room := room_in_frame valid
  rw [← whole] at room
  obtain ⟨join, flagged, joined, same, moved⟩ := readJoin_ok valid ⟨frame, 32⟩ (by
    dsimp only
    omega)
  have fourEach : (params.cells.map fun _ => 4).sum =
      4 * (params.channels * params.subbandCount.toNat) := by
    rw [← length_frameCells]
    simp [Nat.mul_comm]
  have each : ∀ cell ∈ params.cells, Lib.Metered readScaleFactor (fun state => state.2.bit)
      (fun _ => 4) (8 * frame.length)
      (fun state => state.2.data = frame ∧ ∀ cell, state.1 cell ≤ maxScaleFactor) cell :=
    fun cell _ => readScaleFactor_metered frame cell
  obtain ⟨⟨scaleFactors, factored⟩, scaled, ⟨kept, fits⟩, further⟩ := Lib.Metered.foldlM each
    (fun _ => 0, flagged) ⟨same, fun _ => Nat.zero_le _⟩ (by
      rw [fourEach]
      dsimp only at moved ⊢
      omega)
  obtain ⟨bits, allocated, shared⟩ := allocateBits_shared accepted fits
  have most := Nat.mul_le_mul_left params.blockCount.toNat (widths_within shared)
  obtain ⟨last, ran, ⟨-, sized⟩, -⟩ := Lib.Metered.foldlM
    (fun blk listed => decodeBlock_metered num frame join bits scaleFactors (List.mem_range.mp listed))
    ⟨factored, fun _ => num.zero, bank, List.replicate params.pcmLen 0⟩
    ⟨kept, length_replicate ..⟩ (by
      rw [map_const', sum_replicate, length_range, Nat.nsmul_eq_mul]
      rw [fourEach] at further
      dsimp only at moved further ⊢
      omega)
  refine ⟨last.pcm, last.bank, ?_, sized⟩
  rw [decodeFrame, joined, Rust.ok_bind]
  dsimp only
  rw [scaled, Rust.ok_bind]
  rw [allocated, Rust.ok_bind, ran]
  rfl

/-- A frame that the decoder takes: a configuration that `validate` accepts, one frame's samples,
and nothing behind the frame looked at. -/
structure Decoded (decoder : SbcDecoder Synthesis) (data : Bytes) (params : SbcParameters)
    (pcm : List Int16) (rest : Bytes) (next : SbcDecoder Synthesis) : Prop where
  accepted : params.validate = .ok ()
  whole : params.frameLength ≤ data.length
  samples : pcm.length = params.pcmLen
  remainder : rest = data.drop params.frameLength
  within : ∀ other, decoder.decode num (data.take params.frameLength ++ other) =
    .ok (.ok (params, pcm, other), next)

theorem expectedCrc_ok (decoder : SbcDecoder Synthesis) (valid : params.Valid) {frame : Bytes}
    (whole : frame.length = params.frameLength) (crc : UInt8) :
    ∃ expected, decoder.expectedCrc crc frame params = .ok expected := by
  unfold SbcDecoder.expectedCrc
  split_ifs
  · exact headerCrc_ok valid whole
  · exact ⟨crc, rfl⟩

theorem take_drop_frame {frame rest following : Bytes} {size : Nat} {bytes : Bytes}
    (front : frame = bytes ++ rest) (whole : frame.length = size) :
    (bytes ++ (rest ++ following)).take size = frame ∧
      (bytes ++ (rest ++ following)).drop size = following := by
  rw [← append_assoc, ← front, ← whole]
  exact ⟨take_left .., drop_left ..⟩

theorem decode_ok (decoder : SbcDecoder Synthesis) (data : Bytes) :
    ∃ answer next, decoder.decode num data = .ok (answer, next) ∧
      ∀ params pcm rest, answer = .ok (params, pcm, rest) →
        Decoded num decoder data params pcm rest next := by
  rcases data with _ | ⟨sync, _ | ⟨modes, _ | ⟨bitpool, _ | ⟨crc, tail⟩⟩⟩⟩
  · exact ⟨.error .truncated, decoder, rfl, by simp⟩
  · exact ⟨.error .truncated, decoder, rfl, by simp⟩
  · exact ⟨.error .truncated, decoder, rfl, by simp⟩
  · exact ⟨.error .truncated, decoder, rfl, by simp⟩
  · have head : 4 ≤ (headerParameters modes bitpool).frameLength := four_le_frameLength _
    rw [SbcDecoder.decode]
    split_ifs with other
    · exact ⟨.error .badSyncWord, decoder, rfl, by simp⟩
    · dsimp only
      cases accepted : (headerParameters modes bitpool).validate with
      | error error => exact ⟨.error error, decoder, rfl, by simp⟩
      | ok done =>
        split_ifs with short
        · exact ⟨.error .truncated, decoder, rfl, by simp⟩
        · have valid := valid_of_validate accepted
          obtain ⟨frame, cut⟩ : ∃ frame,
              (sync :: modes :: bitpool :: crc :: tail).take
                (headerParameters modes bitpool).frameLength = frame := ⟨_, rfl⟩
          have whole : frame.length = (headerParameters modes bitpool).frameLength := by
            rw [← cut, length_take_of_le (not_lt.mp short)]
          obtain ⟨expected, checked⟩ := expectedCrc_ok decoder valid whole crc
          rw [cut, checked, Rust.ok_bind]
          by_cases bad : crc ≠ expected
          · rw [if_pos bad]
            exact ⟨.error (.badCrc crc expected), decoder, rfl, by simp⟩
          · rw [if_neg bad]
            obtain ⟨pcm, bank, decoded, samples⟩ := decodeFrame_ok num accepted whole decoder.bank
            rw [decoded]
            refine ⟨_, _, rfl, ?_⟩
            rintro params pcm' rest ⟨⟩
            refine ⟨accepted, not_lt.mp short, samples, rfl, ?_⟩
            intro following
            obtain ⟨tail', front⟩ : ∃ tail', frame = sync :: modes :: bitpool :: crc :: tail' := by
              refine ⟨tail.take ((headerParameters modes bitpool).frameLength - 4), ?_⟩
              rw [← cut]
              obtain ⟨more, size⟩ := Nat.exists_eq_add_of_le' head
              rw [size]
              rfl
            have again : ((sync :: modes :: bitpool :: crc :: (tail' ++ following)).take
                (headerParameters modes bitpool).frameLength) = frame ∧
                (sync :: modes :: bitpool :: crc :: (tail' ++ following)).drop
                (headerParameters modes bitpool).frameLength = following :=
              @take_drop_frame _ tail' following _ [sync, modes, bitpool, crc] front whole
            have long : ¬ (sync :: modes :: bitpool :: crc :: (tail' ++ following)).length <
                (headerParameters modes bitpool).frameLength := by
              rw [← whole, front]
              simp only [length_cons, length_append]
              omega
            rw [cut]
            nth_rewrite 1 [front]
            rw [cons_append, cons_append, cons_append, cons_append,
              SbcDecoder.decode, if_neg other]
            dsimp only
            rw [accepted]
            rw [if_neg long, again.1, again.2, checked, Rust.ok_bind, if_neg bad, decoded]
            rfl

/-- The bit allocation is exact for every validated configuration, all scale factors and any
floating-point arithmetic: an encoder fills its frame and no more, a decoder reads no more than
the frame it takes. -/
theorem bit_allocation_exact :
    (∀ params scaleFactors, params.validate = .ok () →
      (∀ cell, scaleFactors cell ≤ maxScaleFactor) →
      ∃ bits, allocateBits params scaleFactors = .ok bits ∧ ∀ group ∈ params.groups,
        (∀ ch ∈ group, ∀ sb < params.subbandCount.toNat, bits (ch, sb) ≤ 16) ∧
        ((cells group params.subbandCount.toNat).map bits).sum =
          min params.bitpool.toNat (16 * (group.length * params.subbandCount.toNat))) ∧
    (∀ (encoder : SbcEncoder Analysis) pcm, ∃ answer next,
      encoder.encode num pcm = .ok (answer, next) ∧ next.params = encoder.params ∧
      (pcm.length = encoder.params.pcmLen →
        ∃ frame, answer = .ok frame ∧ frame.length = encoder.params.frameLength)) ∧
    (∀ (decoder : SbcDecoder Synthesis) data, ∃ answer next,
      decoder.decode num data = .ok (answer, next) ∧
      ∀ params pcm rest, answer = .ok (params, pcm, rest) →
        Decoded num decoder data params pcm rest next) := by
  refine ⟨?_, encode_ok num, decode_ok num⟩
  intro params scaleFactors accepted fits
  obtain ⟨bits, allocated, shared⟩ := allocateBits_shared accepted fits
  refine ⟨bits, allocated, ?_⟩
  intro group listed
  refine ⟨?_, (shared group listed).total⟩
  intro ch among sb below
  exact (shared group listed).within (ch, sb) (mem_cells.mpr ⟨among, below⟩)

end Main

/-- The coder's arithmetic on integers, with filterbanks that change nothing. -/
def integral : Arithmetic Int Unit Unit where
  zero := 0
  add := (· + ·)
  sub := (· - ·)
  max a b := Max.max a b
  half value := value / 2
  abs value := value.natAbs
  reached exponent value := decide (2 ^ exponent ≤ value)
  ofPcm sample := sample.toInt
  toPcm value := Int16.ofInt value
  quantize bits scaleFactor value :=
    UInt32.ofNat ((value + 2 ^ (scaleFactor + 1)) * (2 ^ bits - 1) / 2 ^ (scaleFactor + 2)).toNat
  dequantize bits scaleFactor level :=
    (2 * level.toNat + 1) * 2 ^ (scaleFactor + 1) / (2 ^ bits - 1) - 2 ^ (scaleFactor + 1)
  analysis := ()
  analyze _ bank _ input := (bank, fun sb => input.getD sb 0)
  synthesis := ()
  synthesize _ bank _ values := (bank, values)

def fourSubbands : SbcParameters := ⟨44100, 4, sbcMonoChannelMode, 0, 4, 8⟩

/-- Four blocks, loud in the lowest subband: its scale factor is 5, that of the next one 1. -/
def tone : List Int16 := [40, 3, 0, 1, -40, 2, 0, 0, 20, -3, 0, 0, -20, 1, 0, 0]

def toneFrame : Bytes := [0x9C, 0x80, 8, 67, 81, 0, 206, 46, 164, 85]

/-- The tone is encoded, and heard again nearly as it was whatever follows its frame. -/
theorem bit_allocation_exact_tone :
    (∃ bits, allocateBits fourSubbands (fun cell => [5, 1].getD cell.2 0) = .ok bits ∧
      ((cells [0] 4).map bits).sum = 8) ∧
    ∃ encoder next, SbcEncoder.new integral fourSubbands = .ok encoder ∧
      encoder.encode integral tone = .ok (.ok toneFrame, next) ∧
      toneFrame.length = fourSubbands.frameLength ∧
      ∃ decoder, ∀ following, (SbcDecoder.new integral).decode integral (toneFrame ++ following) =
        .ok (.ok (fourSubbands, [40, 2, 0, 0, -41, 2, 0, 0, 20, -3, 0, 0, -21, 0, 0, 0], following),
          decoder) := by
  obtain ⟨allocates, encodes, decodes⟩ := bit_allocation_exact integral
  constructor
  · obtain ⟨bits, allocated, shared⟩ := allocates fourSubbands (fun cell => [5, 1].getD cell.2 0)
      (by decide) fun cell => by rcases cell with ⟨_, _ | _ | _⟩ <;> simp [maxScaleFactor]
    exact ⟨bits, allocated, (shared [0] (by decide)).2⟩
  · have written : (SbcEncoder.encode integral ⟨fourSubbands, rfl, ()⟩ tone).map Prod.fst =
        .ok (.ok toneFrame) := by decide +kernel
    have read : ((SbcDecoder.new integral).decode integral toneFrame).map Prod.fst =
        .ok (.ok (fourSubbands, [40, 2, 0, 0, -41, 2, 0, 0, 20, -3, 0, 0, -21, 0, 0, 0], [])) := by
      decide +kernel
    obtain ⟨answer, next, encoded, -, whole⟩ := encodes ⟨fourSubbands, rfl, ()⟩ tone
    obtain ⟨answer', decoder, decoded, taken⟩ := decodes (SbcDecoder.new integral) toneFrame
    rw [encoded] at written
    rw [decoded] at read
    obtain rfl := Except.ok.inj written
    obtain rfl := Except.ok.inj read
    obtain ⟨frame, same, length⟩ := whole rfl
    cases same
    exact ⟨_, next, rfl, encoded, length, decoder, (taken _ _ _ rfl).within⟩

end Simble.Audio
