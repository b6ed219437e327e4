import Mathlib.Data.List.Induction
import Simble.Classic.Rtp

/-! SBC frames on their way: blocks of whole frames and single frames in fragments, and what comes
out of them again when nothing is lost. -/
namespace Simble.Rtp
open Simble.Lib SbcPayload

/-! ## Blocks -/

inductive Block (α : Type) where
  | whole (frames : List α)
  | split (frame : α)

namespace Block
variable {α β : Type}

def frames : Block α → List α
  | whole frames => frames
  | split frame => [frame]

def map (f : α → β) : Block α → Block β
  | whole frames => .whole (frames.map f)
  | split frame => .split (f frame)

def Fits (budget : ℕ+) (size : α → Nat) : Block α → Prop
  | whole frames => frames ≠ [] ∧ frames.length ≤ 15 ∧ (frames.map size).sum ≤ budget
  | split frame => budget < size frame

def payloads (budget : ℕ+) : Block Bytes → List Bytes
  | whole frames => [(SbcPayload.unfragmented frames).toBytes]
  | split frame => fragments budget frame

def content (block : Block Bytes) : Bytes := block.frames.flatten

end Block

structure Grouper (α : Type) where
  blocks : List (Block α) := []
  batch : List α := []

namespace Grouper
variable {α : Type} (budget : ℕ+) (size : α → Nat) (grouper : Grouper α)

def flush : Grouper α :=
  if grouper.batch = [] then grouper else ⟨grouper.blocks ++ [.whole grouper.batch], []⟩

def add (frame : α) : Grouper α :=
  if size frame > budget then
    { grouper.flush with blocks := grouper.flush.blocks ++ [.split frame] }
  else
    let grouper := if (grouper.batch.map size).sum + size frame > budget ∨
      15 ≤ grouper.batch.length then grouper.flush else grouper
    { grouper with batch := grouper.batch ++ [frame] }

structure Groups (list : List α) : Prop where
  frames : grouper.blocks.flatMap Block.frames ++ grouper.batch = list
  fits : ∀ block ∈ grouper.blocks, block.Fits budget size
  batch : grouper.batch.length ≤ 15
  room : (grouper.batch.map size).sum ≤ budget

variable {budget size grouper}

theorem flush_batch : grouper.flush.batch = [] := by
  unfold flush
  split
  · assumption
  · rfl

theorem Groups.flush {list : List α} (groups : grouper.Groups budget size list) :
    grouper.flush.Groups budget size list := by
  unfold Grouper.flush
  split
  · exact groups
  · rename_i nonempty
    refine ⟨?_, ?_, by simp, by simp⟩
    · simpa [Block.frames] using groups.frames
    · intro block inside
      rcases List.mem_append.mp inside with inside | inside
      · exact groups.fits block inside
      · rw [List.mem_singleton.mp inside]
        exact ⟨nonempty, groups.batch, groups.room⟩

theorem Groups.add {list : List α} (groups : grouper.Groups budget size list) (frame : α) :
    (grouper.add budget size frame).Groups budget size (list ++ [frame]) := by
  have flushed := groups.flush
  have empty : grouper.flush.batch = [] := flush_batch
  unfold Grouper.add
  split
  · rename_i large
    refine ⟨?_, ?_, flushed.batch, flushed.room⟩
    · have frames := flushed.frames
      rw [empty, List.append_nil] at frames
      simp [frames, empty, Block.frames]
    · intro block inside
      rcases List.mem_append.mp inside with inside | inside
      · exact flushed.fits block inside
      · rw [List.mem_singleton.mp inside]
        exact large
  · rename_i small
    split
    · refine ⟨?_, flushed.fits, by simp [empty], by simpa [empty] using Nat.not_lt.mp small⟩
      rw [← List.append_assoc, flushed.frames]
    · rename_i room
      obtain ⟨fits, few⟩ := not_or.mp room
      refine ⟨?_, groups.fits, by simp; omega, by simpa using fits⟩
      rw [← List.append_assoc, groups.frames]

end Grouper

def blocks {α : Type} (budget : ℕ+) (size : α → Nat) (list : List α) : List (Block α) :=
  (list.foldl (Grouper.add budget size) {}).flush.blocks

section
variable {α : Type} {budget : ℕ+} {size : α → Nat}

theorem blocks_spec (list : List α) :
    (blocks budget size list).flatMap Block.frames = list ∧
      ∀ block ∈ blocks budget size list, block.Fits budget size := by
  have groups : (list.foldl (Grouper.add budget size) {}).Groups budget size list := by
    induction list using List.reverseRec with
    | nil => exact ⟨rfl, by simp, by simp, by simp⟩
    | append_singleton list frame ih =>
      rw [List.foldl_append]
      exact ih.add frame
  have flushed := groups.flush
  have frames := flushed.frames
  rw [Grouper.flush_batch, List.append_nil] at frames
  exact ⟨frames, flushed.fits⟩

variable {content : α → Bytes}

structure Packs (budget : ℕ+) (content : α → Bytes) (packer : Packer) (grouper : Grouper α) :
    Prop where
  payloads : packer.payloads =
    grouper.blocks.flatMap fun block => (block.map content).payloads budget
  batch : packer.batch = grouper.batch.map content
  batchLen : packer.batchLen = ((grouper.batch.map content).map List.length).sum

theorem Packs.flush {packer : Packer} {grouper : Grouper α}
    (packs : Packs budget content packer grouper) :
    Packs budget content packer.flush grouper.flush := by
  unfold Packer.flush Grouper.flush
  by_cases none : grouper.batch = []
  · rw [if_pos none, if_pos (by rw [packs.batch, none]; rfl)]
    exact packs
  · rw [if_neg none, if_neg (by rwa [packs.batch, List.map_eq_nil_iff])]
    refine ⟨?_, rfl, rfl⟩
    simp only [packs.payloads, packs.batch, List.flatMap_append, List.flatMap_singleton]
    rfl

theorem Packs.add {packer : Packer} {grouper : Grouper α} {list : List α}
    (sized : ∀ frame, (content frame).length = size frame)
    (packs : Packs budget content packer grouper) (groups : grouper.Groups budget size list)
    (frame : α) :
    Packs budget content (packer.add budget (content frame)) (grouper.add budget size frame) := by
  have flushed := packs.flush
  have few := groups.batch
  have sum : packer.batchLen = (grouper.batch.map size).sum := by
    rw [packs.batchLen, List.map_map]
    congr 1
    exact List.map_congr_left fun other _ => sized other
  have count : UInt8.ofNat packer.batch.length ≥ sbcMaxFramesPerPayload ↔
      15 ≤ grouper.batch.length := by
    have small : grouper.batch.length < UInt8.size := Nat.lt_of_le_of_lt few (by decide)
    rw [packs.batch, List.length_map, ge_iff_le, UInt8.le_iff_toNat_le,
      UInt8.toNat_ofNat_of_lt' small]
    rfl
  have overflow : (packer.batchLen + size frame > budget ∨
      UInt8.ofNat packer.batch.length ≥ sbcMaxFramesPerPayload) ↔
      ((grouper.batch.map size).sum + size frame > budget ∨ 15 ≤ grouper.batch.length) := by
    rw [count, sum]
  unfold Packer.add Grouper.add
  simp only [sized, overflow]
  split
  · refine ⟨?_, flushed.batch, flushed.batchLen⟩
    rw [List.flatMap_append, List.flatMap_singleton, ← flushed.payloads]
    rfl
  · split
    · refine ⟨flushed.payloads, ?_, ?_⟩
      · rw [List.map_append, ← flushed.batch]
        rfl
      · simp [flushed.batchLen, sized]
    · refine ⟨packs.payloads, ?_, ?_⟩
      · rw [List.map_append, ← packs.batch]
        rfl
      · simp [packs.batchLen, sized]

/-- The code sends the blocks. -/
theorem packetizeSbc_eq (sized : ∀ frame, (content frame).length = size frame) (list : List α) :
    packetizeSbc (list.map content) (budget + 1) =
      (blocks budget size list).flatMap fun block => (block.map content).payloads budget := by
  have packs : Packs budget content ((list.map content).foldl (Packer.add budget) {})
        (list.foldl (Grouper.add budget size) {}) ∧
      (list.foldl (Grouper.add budget size) {}).Groups budget size list := by
    induction list using List.reverseRec with
    | nil => exact ⟨⟨rfl, rfl, rfl⟩, rfl, by simp, by simp, by simp⟩
    | append_singleton list frame ih =>
      rw [List.map_append, List.foldl_append, List.foldl_append]
      exact ⟨ih.1.add sized ih.2 frame, ih.2.add frame⟩
  rw [packetizeSbc, dif_pos (by simp)]
  exact packs.1.flush.payloads

end

/-! ## Payloads of a block -/

open SbcReassembler

section
variable {budget : ℕ+}

theorem fragmentHeader_small (count index : Nat) : (fragmentHeader count index).frameCount < 16 := by
  have bounded : min (count - index) 0x0F < 16 := by omega
  rw [UInt8.lt_iff_toNat_lt]
  change (UInt8.ofNat (min (count - index) 0x0F)).toNat < 16
  rwa [UInt8.toNat_ofNat_of_lt' (Nat.lt_of_lt_of_le bounded (by decide))]

theorem parse_fragment (count index : Nat) (data : Bytes) :
    parse ((fragmentHeader count index).toByte :: data) =
      some ⟨fragmentHeader count index, data⟩ :=
  @SbcPayload.parse_toBytes ⟨fragmentHeader count index, data⟩
    (fragmentHeader_small count index)

theorem parse_whole {frames : List Bytes} (few : frames.length ≤ 15) :
    parse (unfragmented frames).toBytes =
      some ⟨⟨false, false, false, UInt8.ofNat frames.length⟩, frames.flatten⟩ := by
  have masked : UInt8.ofNat frames.length &&& 0x0F = UInt8.ofNat frames.length := by
    generalize frames.length = count at few
    interval_cases count <;> decide
  have small : UInt8.ofNat frames.length < 16 := by
    rw [UInt8.lt_iff_toNat_lt, UInt8.toNat_ofNat_of_lt' (Nat.lt_of_le_of_lt few (by decide))]
    exact Nat.lt_succ_of_le few
  have same : unfragmented frames =
      ⟨⟨false, false, false, UInt8.ofNat frames.length⟩, frames.flatten⟩ := by
    rw [unfragmented, SbcPayloadHeader.unfragmented, masked]
  rw [same]
  exact parse_toBytes small

def fragmentsFrom (count index : Nat) (chunks : List Bytes) : List Bytes :=
  (chunks.zipIdx index).map fun (chunk, index) => (fragmentHeader count index).toByte :: chunk

theorem fragmentsFrom_cons (count index : Nat) (chunk : Bytes) (chunks : List Bytes) :
    fragmentsFrom count index (chunk :: chunks) =
      ((fragmentHeader count index).toByte :: chunk) :: fragmentsFrom count (index + 1) chunks := by
  rw [fragmentsFrom, List.zipIdx_cons, List.map_cons, fragmentsFrom]

theorem fragments_eq (frame : Bytes) :
    fragments budget frame =
      fragmentsFrom (pieces budget frame).length 0 (pieces budget frame) := rfl

theorem pieces_split {frame : Bytes} (large : budget < frame.length) :
    ∃ first second rest, pieces budget frame = first :: second :: rest := by
  rw [pieces_of_lt large]
  have spec := pieces_spec budget (frame.drop budget)
  cases more : pieces budget (frame.drop budget) with
  | nil =>
    rw [more] at spec
    have left := congrArg List.length spec.1
    rw [List.flatten_nil, List.length_drop, List.length_nil] at left
    omega
  | cons second rest => exact ⟨_, second, rest, rfl⟩

theorem payload_length {block : Block Bytes} (fits : block.Fits budget List.length) {payload : Bytes}
    (inside : payload ∈ block.payloads budget) : payload.length ≤ budget + 1 := by
  cases block with
  | whole frames =>
    rw [List.mem_singleton.mp inside, toBytes, List.length_cons]
    have room := fits.2.2
    rw [← List.length_flatten] at room
    exact Nat.succ_le_succ room
  | split frame =>
    obtain ⟨⟨chunk, index⟩, placed, rfl⟩ := List.mem_map.mp inside
    have chunks := (pieces_spec budget frame).2 chunk
      (List.fst_mem_of_mem_zipIdx placed)
    exact Nat.succ_le_succ chunks.2

/-! ## Nothing lost -/

namespace SbcReassembler
variable (reassembler : SbcReassembler)

theorem push_whole {frames : List Bytes} (few : frames.length ≤ 15) :
    reassembler.push (unfragmented frames).toBytes = ({}, some frames.flatten) := by
  rw [push, parse_whole few]
  rfl

theorem push_first {count : Nat} (several : 1 < count) (chunk : Bytes) :
    reassembler.push ((fragmentHeader count 0).toByte :: chunk) = (⟨chunk, true⟩, none) := by
  have more : ¬ 0 = count - 1 := by omega
  rw [push, parse_fragment]
  simp [fragmentHeader, more]

variable {count index : Nat} (later : 0 < index)
include later

/-- A fragment of a frame whose start was not heard of is dropped. -/
theorem push_unheard (chunk : Bytes) (idle : reassembler.inProgress = false) :
    reassembler.push ((fragmentHeader count index).toByte :: chunk) = (reassembler, none) := by
  rw [push, parse_fragment]
  simp [fragmentHeader, idle, later.ne']

theorem push_more (chunk : Bytes) (begun : reassembler.inProgress = true)
    (more : index + 1 < count) :
    reassembler.push ((fragmentHeader count index).toByte :: chunk) =
      (⟨reassembler.partialFrame ++ chunk, true⟩, none) := by
  have notLast : ¬ index = count - 1 := by omega
  rw [push, parse_fragment]
  simp [fragmentHeader, begun, later.ne', notLast]

theorem push_last (chunk : Bytes) (begun : reassembler.inProgress = true)
    (last : index + 1 = count) :
    reassembler.push ((fragmentHeader count index).toByte :: chunk) =
      ({}, some (reassembler.partialFrame ++ chunk)) := by
  have isLast : index = count - 1 := by omega
  rw [push, parse_fragment]
  simp [fragmentHeader, begun, later.ne', isLast.symm]

theorem outputs_fragmentsFrom {chunks : List Bytes} (more : chunks ≠ [])
    (counted : index + chunks.length = count) (begun : reassembler.inProgress = true) :
    reassembler.outputs (fragmentsFrom count index chunks) =
        [reassembler.partialFrame ++ chunks.flatten] ∧
      reassembler.after (fragmentsFrom count index chunks) = {} := by
  induction chunks generalizing reassembler index with
  | nil => exact absurd rfl more
  | cons chunk chunks ih =>
    rw [fragmentsFrom_cons, outputs, after, List.foldl_cons, ← after]
    cases chunks with
    | nil =>
      rw [push_last _ later chunk begun counted]
      exact ⟨by simp [fragmentsFrom, outputs], rfl⟩
    | cons other others =>
      rw [List.length_cons] at counted
      rw [push_more _ later chunk begun (by rw [List.length_cons] at counted; omega)]
      have rest := ih ⟨reassembler.partialFrame ++ chunk, true⟩ (Nat.succ_pos index) (by simp)
        (by omega) rfl
      exact ⟨by rw [rest.1]; simp, rest.2⟩

end SbcReassembler

/-- A block comes out as its frames, and leaves nothing behind. -/
theorem outputs_block (reassembler : SbcReassembler) {block : Block Bytes}
    (fits : block.Fits budget List.length) :
    reassembler.outputs (block.payloads budget) = [block.content] ∧
      reassembler.after (block.payloads budget) = {} := by
  cases block with
  | whole frames =>
    rw [Block.payloads, outputs, after, List.foldl_cons,
      reassembler.push_whole fits.2.1]
    exact ⟨rfl, rfl⟩
  | split frame =>
    obtain ⟨first, second, rest, several⟩ := pieces_split fits
    have whole := (pieces_spec budget frame).1
    rw [several] at whole
    rw [Block.payloads, fragments_eq, several, fragmentsFrom_cons, outputs,
      after, List.foldl_cons, ← after,
      reassembler.push_first (by simp)]
    have later := @SbcReassembler.outputs_fragmentsFrom ⟨first, true⟩
      (first :: second :: rest).length 1 Nat.one_pos (second :: rest) (by simp)
      (by simp; omega) rfl
    refine ⟨?_, later.2⟩
    rw [later.1, Block.content, Block.frames, List.flatten_singleton, ← whole]
    rfl

theorem outputs_blocks {blocks : List (Block Bytes)}
    (fits : ∀ block ∈ blocks, block.Fits budget List.length) (reassembler : SbcReassembler) :
    reassembler.outputs (blocks.flatMap (Block.payloads budget)) = blocks.map Block.content := by
  induction blocks generalizing reassembler with
  | nil => rfl
  | cons block blocks ih =>
    have first := outputs_block reassembler (fits block List.mem_cons_self)
    rw [List.flatMap_cons, outputs_append, first.1, first.2,
      ih (fun other inside => fits other (List.mem_cons_of_mem _ inside))]
    rfl

end

end Simble.Rtp
