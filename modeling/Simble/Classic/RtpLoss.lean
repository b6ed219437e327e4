import Simble.Classic.RtpBlocks

/-! What comes out of media payloads when others are lost. The reassembler does not count
fragments, so a frame may come out with a hole, or spliced to another whose start was lost:
exactly which losses that takes. -/
namespace Simble.Rtp
open Simble.Lib SbcPayload

/-! ## Losses -/

def survivors : List Bytes → List Bool → List Bytes
  | payload :: payloads, kept :: others =>
    if kept then payload :: survivors payloads others else survivors payloads others
  | _, _ => []

def headerOf (payload : Bytes) : SbcPayloadHeader := .fromByte (payload.headD 0)

/-- Of the payloads so far: whether a start has arrived with no end or whole frames behind it, and
whether all fragments of the latest frame have arrived. -/
structure Watch where
  begun : Bool := false
  entire : Bool := false

namespace Watch

def hear (watch : Watch) (header : SbcPayloadHeader) (kept : Bool) : Watch where
  begun := watch.begun || (header.start && kept)
  entire := if header.start then kept else watch.entire && kept

def next (watch : Watch) (header : SbcPayloadHeader) (kept : Bool) : Watch :=
  if ¬ header.fragmented then { watch with begun := watch.begun && !kept }
  else if header.last && kept then { watch.hear header kept with begun := false }
  else watch.hear header kept

/-- When the end of a frame arrives with a start open before it, all of the frame has arrived. -/
def Settles (watch : Watch) (header : SbcPayloadHeader) (kept : Bool) : Prop :=
  header.fragmented → header.last → kept →
    (watch.hear header kept).entire ∨ ¬ (watch.hear header kept).begun

def after (watch : Watch) : List SbcPayloadHeader → List Bool → Watch
  | header :: headers, kept :: others => (watch.next header kept).after headers others
  | _, _ => watch

/-- No end of a frame arrives that finishes less, or more, than its frame. -/
def Spared (watch : Watch) : List SbcPayloadHeader → List Bool → Prop
  | header :: headers, kept :: others =>
    watch.Settles header kept ∧ (watch.next header kept).Spared headers others
  | _, _ => True

theorem spared_nil (watch : Watch) (headers : List SbcPayloadHeader) : watch.Spared headers [] := by
  cases headers <;> trivial

theorem spared_append (watch : Watch) (first second : List SbcPayloadHeader) (kept : List Bool) :
    watch.Spared (first ++ second) kept ↔
      watch.Spared first (kept.take first.length) ∧
        (watch.after first (kept.take first.length)).Spared second (kept.drop first.length) := by
  induction first generalizing watch kept with
  | nil => simp [Spared, after]
  | cons header headers ih =>
    cases kept with
    | nil => simp [after, spared_nil]
    | cons kept others =>
      rw [List.cons_append, Spared, ih, List.length_cons, List.take_succ_cons, Spared, after,
        List.drop_succ_cons, and_assoc]

end Watch

theorem survivors_nil (payloads : List Bytes) : survivors payloads [] = [] := by
  cases payloads <;> rfl

theorem survivors_append (first second : List Bytes) (kept : List Bool) :
    survivors (first ++ second) kept =
      survivors first (kept.take first.length) ++ survivors second (kept.drop first.length) := by
  induction first generalizing kept with
  | nil => simp [survivors]
  | cons payload payloads ih =>
    cases kept with
    | nil => simp [survivors_nil]
    | cons kept others =>
      rw [List.cons_append, survivors, ih, List.length_cons, List.take_succ_cons,
        List.drop_succ_cons, survivors]
      split <;> rfl

/-! ## What the reassembler keeps track of -/

theorem parse_headerOf {payload : Bytes} (nonempty : payload ≠ []) :
    parse payload = some ⟨headerOf payload, payload.tail⟩ := by
  cases payload with
  | nil => exact absurd rfl nonempty
  | cons first rest => rfl

open Watch

namespace SbcReassembler
variable {reassembler : SbcReassembler} {watch : Watch}

theorem push_inProgress {payload : Bytes} (nonempty : payload ≠ [])
    (same : reassembler.inProgress = watch.begun) :
    (reassembler.push payload).1.inProgress = (watch.next (headerOf payload) true).begun := by
  rw [push, parse_headerOf nonempty, next, hear]
  obtain ⟨fragmented, start, last, frameCount⟩ := headerOf payload
  obtain ⟨begun, entire⟩ := watch
  cases fragmented <;> cases start <;> cases last <;> cases begun <;> simp [same]

theorem next_lost (header : SbcPayloadHeader) : (watch.next header false).begun = watch.begun := by
  rw [next, hear]
  split <;> simp

theorem after_inProgress {payloads : List Bytes} (nonempty : ∀ payload ∈ payloads, payload ≠ [])
    (same : reassembler.inProgress = watch.begun) (kept : List Bool) :
    (reassembler.after (survivors payloads kept)).inProgress =
      (watch.after (payloads.map headerOf) kept).begun := by
  induction payloads generalizing reassembler watch kept with
  | nil => simpa [survivors, after, Watch.after] using same
  | cons payload payloads ih =>
    have others := fun other inside => nonempty other (List.mem_cons_of_mem _ inside)
    cases kept with
    | nil => simpa [survivors, after, Watch.after] using same
    | cons kept rest =>
      rw [survivors, List.map_cons, Watch.after]
      cases kept with
      | true => exact ih others (push_inProgress (nonempty payload List.mem_cons_self) same) rest
      | false => exact ih others (same.trans (next_lost _).symm) rest

end SbcReassembler

/-! ## Losses that spare every frame -/

open SbcReassembler Block

section
variable {budget : ℕ+}

theorem headerOf_fragment (count index : Nat) (chunk : Bytes) :
    headerOf ((fragmentHeader count index).toByte :: chunk) = fragmentHeader count index :=
  SbcPayloadHeader.fromByte_toByte (fragmentHeader_small count index)

theorem hear_later {count index : Nat} (later : 0 < index) (watch : Watch) (kept : Bool) :
    watch.hear (fragmentHeader count index) kept = ⟨watch.begun, watch.entire && kept⟩ := by
  simp [hear, fragmentHeader, later.ne']

theorem next_more {count index : Nat} (later : 0 < index) (more : index + 1 < count)
    (watch : Watch) (kept : Bool) :
    watch.next (fragmentHeader count index) kept = ⟨watch.begun, watch.entire && kept⟩ := by
  have notLast : ¬ index = count - 1 := by omega
  rw [next, hear_later later]
  simp [fragmentHeader, notLast]

theorem next_first {count : Nat} (several : 1 < count) (watch : Watch) (kept : Bool) :
    watch.next (fragmentHeader count 0) kept = ⟨watch.begun || kept, kept⟩ := by
  have notLast : ¬ 0 = count - 1 := by omega
  simp [next, hear, fragmentHeader, notLast]

theorem settles_last {count index : Nat} (later : 0 < index) (last : index + 1 = count)
    (watch : Watch) :
    watch.Settles (fragmentHeader count index) true ↔ watch.entire ∨ ¬ watch.begun := by
  have isLast : index = count - 1 := by omega
  rw [Watch.Settles, hear_later later]
  simp [fragmentHeader, isLast]

theorem settles_more {count index : Nat} (more : index + 1 < count) (watch : Watch)
    (kept : Bool) : watch.Settles (fragmentHeader count index) kept := by
  have notLast : ¬ index = count - 1 := by omega
  simp [Watch.Settles, fragmentHeader, notLast]

theorem settles_lost (header : SbcPayloadHeader) (watch : Watch) : watch.Settles header false := by
  simp [Watch.Settles]

variable {kept : List Bool}

/-- What is left of a frame completes nothing but that frame: what has been put together
is the part of it before when nothing of it was lost. -/
theorem outputs_later {count index : Nat} (later : 0 < index) {chunks : List Bytes}
    (more : chunks ≠ []) (counted : index + chunks.length = count) {reassembler : SbcReassembler}
    {watch : Watch} {seen : Bytes} (same : reassembler.inProgress = watch.begun)
    (entire : watch.entire = true → reassembler.inProgress = true ∧ reassembler.partialFrame = seen)
    (spared : watch.Spared ((fragmentsFrom count index chunks).map headerOf) kept) :
    ∀ output ∈ reassembler.outputs (survivors (fragmentsFrom count index chunks) kept),
      output = seen ++ chunks.flatten := by
  induction chunks generalizing index reassembler watch seen kept with
  | nil => exact absurd rfl more
  | cons chunk chunks ih =>
    rw [fragmentsFrom_cons, List.map_cons, headerOf_fragment] at spared
    rw [fragmentsFrom_cons]
    cases kept with
    | nil => simp [survivors, outputs]
    | cons kept rest =>
    rw [List.length_cons] at counted
    rw [Watch.Spared] at spared
    obtain ⟨settles, spared⟩ := spared
    rw [survivors]
    cases chunks with
    | nil =>
      cases kept with
      | false => simp [fragmentsFrom, survivors, outputs]
      | true =>
        rw [settles_last later counted, ← same] at settles
        rw [if_pos rfl, outputs]
        cases begun : reassembler.inProgress with
        | false =>
          rw [reassembler.push_unheard later chunk begun]
          simp [fragmentsFrom, survivors, outputs]
        | true =>
          have all := (entire (settles.resolve_right (by simp [begun]))).2
          rw [reassembler.push_last later chunk begun counted, all]
          simp [fragmentsFrom, survivors, outputs]
    | cons other others =>
      have further : index + 1 < count := by rw [List.length_cons] at counted; omega
      rw [next_more later further] at spared
      have heard : reassembler.inProgress = (⟨watch.begun, watch.entire && kept⟩ : Watch).begun := same
      have regroup : seen ++ (chunk :: other :: others).flatten =
        (seen ++ chunk) ++ (other :: others).flatten := by simp
      rw [regroup]
      cases kept with
      | false =>
        rw [if_neg (by simp)]
        exact ih (Nat.succ_pos index) (by simp) (by omega) heard (by simp) spared
      | true =>
        rw [if_pos rfl, outputs]
        cases begun : reassembler.inProgress with
        | false =>
          rw [reassembler.push_unheard later chunk begun, Option.toList_none, List.nil_append]
          refine ih (Nat.succ_pos index) (by simp) (by omega) heard ?_ spared
          intro all
          rw [Bool.and_true] at all
          rw [begun] at entire
          cases (entire all).1
        | true =>
          rw [reassembler.push_more later chunk begun further, Option.toList_none, List.nil_append]
          refine ih (Nat.succ_pos index) (by simp) (by omega) (begun.symm.trans heard) ?_ spared
          intro all
          rw [Bool.and_true] at all
          rw [(entire all).2]
          exact ⟨rfl, rfl⟩

variable {block : Block Bytes}

theorem outputs_spared (fits : block.Fits budget List.length) {reassembler : SbcReassembler}
    {watch : Watch} (same : reassembler.inProgress = watch.begun)
    (spared : watch.Spared ((block.payloads budget).map headerOf) kept) :
    ∀ output ∈ reassembler.outputs (survivors (block.payloads budget) kept),
      output = block.content := by
  cases kept with
  | nil => simp [survivors_nil, outputs]
  | cons kept rest =>
  cases block with
  | whole frames =>
    rw [payloads, survivors]
    cases kept with
    | false => simp [survivors, outputs]
    | true =>
      rw [if_pos rfl, outputs, reassembler.push_whole fits.2.1]
      simp [survivors, outputs, content, Block.frames]
  | split frame =>
    obtain ⟨first, second, others, several⟩ := pieces_split fits
    have whole := (pieces_spec budget frame).1
    have manyParts : 1 < (first :: second :: others).length := by simp
    rw [several] at whole
    rw [payloads, fragments_eq, several, fragmentsFrom_cons, List.map_cons,
      headerOf_fragment, Watch.Spared, next_first manyParts] at spared
    rw [payloads, fragments_eq, several, fragmentsFrom_cons, survivors, content,
      Block.frames, List.flatten_singleton, ← whole, List.flatten_cons]
    have counted : 0 + 1 + (second :: others).length = (first :: second :: others).length := by
      simp; omega
    cases kept with
    | false =>
      rw [if_neg (by simp)]
      exact outputs_later Nat.one_pos (by simp) counted (by simpa using same) (by simp) spared.2
    | true =>
      rw [if_pos rfl, outputs, reassembler.push_first manyParts]
      exact outputs_later Nat.one_pos (by simp) counted (by simp) (by simp) spared.2

theorem payload_nonempty {payload : Bytes} (inside : payload ∈ block.payloads budget) :
    payload ≠ [] := by
  cases block with
  | whole frames =>
    rw [List.mem_singleton.mp inside, toBytes]
    exact List.cons_ne_nil _ _
  | split frame =>
    obtain ⟨chunk, -, rfl⟩ := List.mem_map.mp inside
    exact List.cons_ne_nil _ _

/-- Losses that spare every frame let nothing out that does not come out without them. -/
theorem outputs_sound {blocks : List (Block Bytes)}
    (fits : ∀ block ∈ blocks, block.Fits budget List.length) {reassembler : SbcReassembler}
    {watch : Watch} (same : reassembler.inProgress = watch.begun)
    (spared : watch.Spared ((blocks.flatMap (payloads budget)).map headerOf) kept) :
    ∀ output ∈ reassembler.outputs (survivors (blocks.flatMap (payloads budget)) kept),
      output ∈ blocks.map content := by
  induction blocks generalizing reassembler watch kept with
  | nil => simp [survivors, outputs]
  | cons block blocks ih =>
    rw [List.flatMap_cons, List.map_append, spared_append, List.length_map] at spared
    rw [List.flatMap_cons, survivors_append, outputs_append]
    intro output inside
    rcases List.mem_append.mp inside with inside | inside
    · rw [outputs_spared (fits block List.mem_cons_self) same spared.1 output inside]
      exact List.mem_cons_self
    · refine List.mem_cons_of_mem _ (ih (fun other inside => fits other
        (List.mem_cons_of_mem _ inside)) ?_ spared.2 output inside)
      exact after_inProgress (fun payload => payload_nonempty) same _

/-! ## Losses that do not -/

/-- What comes out whole when one frame is all ones, of this size, and all others are zeros. -/
def Unmixed (size : Nat) (output : Bytes) : Prop :=
  (∀ octet ∈ output, octet = 0) ∨ output = List.replicate size 1

def Zeroed (reassembler : SbcReassembler) : Prop :=
  reassembler.inProgress = true → 0 ∈ reassembler.partialFrame

theorem Zeroed.push {reassembler : SbcReassembler} (zeroed : Zeroed reassembler) {payload : Bytes}
    {read : SbcPayload} (parsed : parse payload = some read)
    (zero : read.header.fragmented = true → 0 ∈ read.data) :
    Zeroed (reassembler.push payload).1 := by
  have empty : Zeroed {} := by
    intro begun
    cases begun
  rw [SbcReassembler.push, parsed]
  simp only
  by_cases whole : read.header.fragmented = true
  · rw [if_neg (not_not_intro whole)]
    by_cases unheard : ¬ read.header.start = true ∧ ¬ reassembler.inProgress = true
    · rw [if_pos unheard]
      exact zeroed
    · rw [if_neg unheard]
      by_cases isLast : read.header.last = true
      · rw [if_pos isLast]
        exact empty
      · rw [if_neg isLast]
        exact fun _ => List.mem_append_right _ (zero whole)
  · rw [if_pos whole]
    exact empty

theorem Zeroed.after {reassembler : SbcReassembler} (zeroed : Zeroed reassembler)
    {payloads : List Bytes} (zeros : ∀ payload ∈ payloads, ∃ read : SbcPayload,
      parse payload = some read ∧ (read.header.fragmented = true → 0 ∈ read.data))
    (kept : List Bool) : Zeroed (reassembler.after (survivors payloads kept)) := by
  induction payloads generalizing reassembler kept with
  | nil => exact zeroed
  | cons payload payloads ih =>
    have others := fun other inside => zeros other (List.mem_cons_of_mem _ inside)
    cases kept with
    | nil => exact zeroed
    | cons kept rest =>
      rw [survivors]
      cases kept with
      | false => exact ih zeroed others rest
      | true =>
        obtain ⟨read, parsed, zero⟩ := zeros payload List.mem_cons_self
        exact ih (zeroed.push parsed zero) others rest

/-- The payloads of a block without ones leave no frame in progress without a zero. -/
theorem zeros_block (fits : block.Fits budget List.length)
    (zeros : ∀ octet ∈ block.content, octet = 0) : ∀ payload ∈ block.payloads budget,
      ∃ read : SbcPayload, parse payload = some read ∧
        (read.header.fragmented = true → 0 ∈ read.data) := by
  intro payload inside
  cases block with
  | whole frames =>
    rw [List.mem_singleton.mp inside]
    exact ⟨_, parse_whole fits.2.1, by simp⟩
  | split frame =>
    obtain ⟨⟨chunk, index⟩, placed, rfl⟩ := List.mem_map.mp inside
    obtain ⟨whole, parts⟩ := pieces_spec budget frame
    have among := List.fst_mem_of_mem_zipIdx placed
    obtain ⟨octet, first⟩ := List.exists_mem_of_ne_nil chunk (parts chunk among).1
    have inFrame : octet ∈ frame := by
      rw [← whole]
      exact List.mem_flatten.mpr ⟨chunk, among, first⟩
    refine ⟨_, parse_fragment _ _ _, fun _ => ?_⟩
    rw [← zeros octet (by simpa [content, Block.frames] using inFrame)]
    exact first

/-- When part of a frame of ones was lost, or its start and another is open, its end
comes out of the reassembler with what it should not. -/
theorem spared_later {count index size : Nat} (later : 0 < index) {chunks : List Bytes}
    (more : chunks ≠ []) (counted : index + chunks.length = count)
    (ones : ∀ chunk ∈ chunks, chunk ≠ [] ∧ ∀ octet ∈ chunk, octet = 1)
    {reassembler : SbcReassembler} {watch : Watch} {seen : Nat}
    (total : seen + chunks.flatten.length = size) (same : reassembler.inProgress = watch.begun)
    (lost : reassembler.inProgress = true → 0 ∈ reassembler.partialFrame ∨
      reassembler.partialFrame.length ≤ seen ∧
        (watch.entire = false → reassembler.partialFrame.length < seen))
    (unmixed : ∀ output ∈ reassembler.outputs (survivors (fragmentsFrom count index chunks) kept),
      Unmixed size output) :
    watch.Spared ((fragmentsFrom count index chunks).map headerOf) kept := by
  induction chunks generalizing index reassembler watch seen kept with
  | nil => exact absurd rfl more
  | cons chunk chunks ih =>
    obtain ⟨nonempty, allOnes⟩ := ones chunk List.mem_cons_self
    have filled := List.length_pos_of_ne_nil nonempty
    rw [fragmentsFrom_cons, List.map_cons, headerOf_fragment]
    rw [fragmentsFrom_cons] at unmixed
    rw [List.length_cons] at counted
    rw [List.flatten_cons, List.length_append] at total
    cases kept with
    | nil => trivial
    | cons kept rest =>
    rw [survivors] at unmixed
    rw [Watch.Spared]
    cases chunks with
    | nil =>
      refine ⟨?_, trivial⟩
      cases kept with
      | false => exact settles_lost _ _
      | true =>
        rw [settles_last later counted, ← same]
        by_contra flawed
        obtain ⟨gap, begun⟩ := not_or.mp flawed
        rw [not_not] at begun
        rw [if_pos rfl, outputs, reassembler.push_last later chunk begun counted]
          at unmixed
        rcases unmixed _ (List.mem_append_left _ List.mem_cons_self) with zeros | exactly
        · obtain ⟨octet, inside⟩ := List.exists_mem_of_ne_nil chunk nonempty
          have zero := zeros octet (List.mem_append_right _ inside)
          rw [allOnes octet inside] at zero
          exact absurd zero (by decide)
        · rcases lost begun with zero | ⟨-, short⟩
          · have one := List.eq_of_mem_replicate (exactly ▸ List.mem_append_left chunk zero)
            exact absurd one (by decide)
          · have length := congrArg List.length exactly
            have short := short (by simpa using gap)
            rw [List.length_append, List.length_replicate] at length
            omega
    | cons other others =>
      have further : index + 1 < count := by rw [List.length_cons] at counted; omega
      have remaining := fun chunk inside => ones chunk (List.mem_cons_of_mem _ inside)
      have heard : reassembler.inProgress = (⟨watch.begun, watch.entire && kept⟩ : Watch).begun := same
      rw [next_more later further]
      refine ⟨settles_more further _ _, ?_⟩
      cases kept with
      | false =>
        rw [if_neg (by simp)] at unmixed
        refine ih (Nat.succ_pos index) (by simp) (by omega) remaining
          (show seen + chunk.length + _ = size by omega) heard ?_ unmixed
        intro begun
        rcases lost begun with zero | bounded
        · exact .inl zero
        · have short := bounded.1
          exact .inr ⟨by omega, fun _ => by omega⟩
      | true =>
        rw [if_pos rfl, outputs] at unmixed
        cases begun : reassembler.inProgress with
        | false =>
          rw [reassembler.push_unheard later chunk begun] at unmixed
          refine ih (Nat.succ_pos index) (by simp) (by omega) remaining
            (show seen + chunk.length + _ = size by omega) heard ?_
            fun output inside => unmixed output (List.mem_append_right _ inside)
          intro impossible
          rw [begun] at impossible
          cases impossible
        | true =>
          rw [reassembler.push_more later chunk begun further] at unmixed
          refine ih (Nat.succ_pos index) (by simp) (by omega) remaining
            (show seen + chunk.length + _ = size by omega) (begun.symm.trans heard) ?_
            fun output inside => unmixed output (List.mem_append_right _ inside)
          intro _
          rcases lost begun with zero | ⟨bounded, short⟩
          · exact .inl (List.mem_append_left _ zero)
          · refine .inr ⟨?_, fun gap => ?_⟩
            · rw [List.length_append]
              omega
            · rw [Bool.and_true] at gap
              have := short gap
              rw [List.length_append]
              omega

theorem spared_split {frame : Bytes} (large : budget < frame.length)
    (ones : ∀ octet ∈ frame, octet = 1) {reassembler : SbcReassembler} {watch : Watch}
    (same : reassembler.inProgress = watch.begun) (zeroed : Zeroed reassembler)
    (unmixed : ∀ output ∈ reassembler.outputs (survivors (fragments budget frame) kept),
      Unmixed frame.length output) :
    watch.Spared ((fragments budget frame).map headerOf) kept := by
  obtain ⟨first, second, others, several⟩ := pieces_split large
  obtain ⟨whole, parts⟩ := pieces_spec budget frame
  have pure : ∀ chunk ∈ pieces budget frame, chunk ≠ [] ∧ ∀ octet ∈ chunk, octet = 1 := by
    intro chunk among
    refine ⟨(parts chunk among).1, fun octet inside => ones octet ?_⟩
    rw [← whole]
    exact List.mem_flatten.mpr ⟨chunk, among, inside⟩
  have total := congrArg List.length whole
  rw [several] at pure total
  rw [fragments_eq, several, fragmentsFrom_cons] at unmixed
  rw [fragments_eq, several, fragmentsFrom_cons, List.map_cons, headerOf_fragment]
  have manyParts : 1 < (first :: second :: others).length := by simp
  have counted : 0 + 1 + (second :: others).length = (first :: second :: others).length := by
    simp; omega
  have remaining := fun chunk inside => pure chunk (List.mem_cons_of_mem _ inside)
  rw [List.flatten_cons, List.length_append] at total
  cases kept with
  | nil => trivial
  | cons kept rest =>
  rw [Watch.Spared, next_first manyParts]
  refine ⟨settles_more (by simp) _ _, ?_⟩
  rw [survivors] at unmixed
  cases kept with
  | false =>
    rw [if_neg (by simp)] at unmixed
    exact spared_later Nat.one_pos (by simp) counted remaining total (by simpa using same)
      (fun begun => .inl (zeroed begun)) unmixed
  | true =>
    rw [if_pos rfl, outputs, reassembler.push_first manyParts] at unmixed
    exact spared_later Nat.one_pos (by simp) counted remaining total (by simp)
      (fun _ => .inr ⟨le_rfl, by simp⟩)
      fun output inside => unmixed output (List.mem_append_right _ inside)

end

/-! ## Frames that are told apart -/

section
variable {α : Type} [DecidableEq α] {budget : ℕ+} {size : α → Nat}

/-- The frames of these sizes with one of ones among zeros. -/
def marked (size : α → Nat) (mark frame : α) : Bytes :=
  List.replicate (size frame) (if frame = mark then 1 else 0)

omit [DecidableEq α] in
theorem headerOf_fragmentsFrom (count index : Nat) (chunks : List Bytes) :
    (fragmentsFrom count index chunks).map headerOf =
      (List.range' index chunks.length).map (fragmentHeader count) := by
  induction chunks generalizing index with
  | nil => rfl
  | cons chunk chunks ih =>
    rw [fragmentsFrom_cons, List.map_cons, headerOf_fragment, ih, List.length_cons,
      List.range'_succ, List.map_cons]

def Block.headers (budget : ℕ+) (size : α → Nat) : Block α → List SbcPayloadHeader
  | whole frames => [.unfragmented (UInt8.ofNat frames.length)]
  | split frame =>
    (List.range' 0 (divCeil (size frame) budget)).map (fragmentHeader (divCeil (size frame) budget))

variable {content : α → Bytes} (sized : ∀ frame, (content frame).length = size frame)
include sized

omit [DecidableEq α] in
theorem headers_eq (block : Block α) :
    ((block.map content).payloads budget).map headerOf = block.headers budget size := by
  cases block with
  | whole frames =>
    have small : (UInt8.ofNat frames.length &&& 0x0F) < 16 := by
      rw [UInt8.lt_iff_toNat_lt, UInt8.toNat_and]
      exact Nat.lt_succ_of_le Nat.and_le_right
    rw [map, payloads, headers, List.map_singleton, toBytes, headerOf,
      unfragmented, List.length_map]
    exact congrArg (fun header => [header]) (SbcPayloadHeader.fromByte_toByte small)
  | split frame =>
    have count : (pieces budget (content frame)).length = divCeil (size frame) budget := by
      rw [pieces, List.length_map, List.length_range, sized]
    rw [map, payloads, headers, fragments_eq, headerOf_fragmentsFrom, count]

omit [DecidableEq α] in
theorem fits_map {block : Block α} (fits : block.Fits budget size) :
    (block.map content).Fits budget List.length := by
  cases block with
  | whole frames =>
    obtain ⟨nonempty, few, room⟩ := fits
    refine ⟨by simpa using nonempty, by simpa using few, ?_⟩
    rw [List.map_map]
    rwa [show List.length ∘ content = size from funext sized]
  | split frame =>
    rw [map, Block.Fits, sized]
    exact fits

omit sized

theorem marked_sized (mark frame : α) : (marked size mark frame).length = size frame :=
  List.length_replicate

theorem marked_zeros {mark : α} {block : Block α} (other : mark ∉ block.frames) :
    ∀ octet ∈ (block.map (marked size mark)).content, octet = 0 := by
  intro octet inside
  have frames : (block.map (marked size mark)).frames = block.frames.map (marked size mark) := by
    cases block <;> rfl
  rw [content, frames] at inside
  obtain ⟨_, among, inside⟩ := List.mem_flatten.mp inside
  obtain ⟨frame, framed, rfl⟩ := List.mem_map.mp among
  rw [marked, if_neg (by rintro rfl; exact other framed)] at inside
  exact List.eq_of_mem_replicate inside

/-- Losses after which each marked frame still comes out unmixed spare every frame. -/
theorem spared_of_unmixed (reassembler : α → SbcReassembler) {blocks : List (Block α)}
    (distinct : (blocks.flatMap Block.frames).Nodup)
    (fits : ∀ block ∈ blocks, block.Fits budget size)
    {watch : Watch} (same : ∀ mark ∈ blocks.flatMap Block.frames,
      (reassembler mark).inProgress = watch.begun ∧ Zeroed (reassembler mark)) {kept : List Bool}
    (unmixed : ∀ mark, .split mark ∈ blocks → ∀ output ∈ (reassembler mark).outputs (survivors
      (blocks.flatMap fun block => (block.map (marked size mark)).payloads budget) kept),
        Unmixed (size mark) output) :
    watch.Spared (blocks.flatMap (headers budget size)) kept := by
  induction blocks generalizing reassembler watch kept with
  | nil => trivial
  | cons block blocks ih =>
    have length (mark : α) : (block.headers budget size).length =
        ((block.map (marked size mark)).payloads budget).length := by
      rw [← headers_eq (marked_sized mark), List.length_map]
    rw [List.flatMap_cons, List.nodup_append] at distinct
    obtain ⟨-, later, apart⟩ := distinct
    rw [List.flatMap_cons, spared_append]
    have here := fits block List.mem_cons_self
    constructor
    · cases block with
      | whole frames =>
        cases kept.take ((Block.whole frames).headers budget size).length with
        | nil => trivial
        | cons kept rest =>
          refine ⟨?_, trivial⟩
          intro fragmented
          cases fragmented
      | split mark =>
        obtain ⟨begun, zeroed⟩ := same mark (List.mem_append_left _ List.mem_cons_self)
        have large : budget < (marked size mark mark).length := by
          rw [marked_sized]
          exact here
        rw [← headers_eq (marked_sized mark)]
        refine spared_split large ?_ begun zeroed ?_
        · intro octet inside
          rw [marked, if_pos rfl] at inside
          exact List.eq_of_mem_replicate inside
        · intro output inside
          rw [marked_sized]
          apply unmixed mark List.mem_cons_self output
          rw [List.flatMap_cons, survivors_append, outputs_append]
          apply List.mem_append_left _
          rwa [List.length_map] at inside
    · refine ih (fun mark => (reassembler mark).after (survivors
          ((block.map (marked size mark)).payloads budget)
            (kept.take (block.headers budget size).length)))
        later (fun other inside => fits other (List.mem_cons_of_mem _ inside)) ?_ ?_
      · intro mark inside
        obtain ⟨begun, zeroed⟩ := same mark (List.mem_append_right _ inside)
        have other : mark ∉ block.frames := fun among => apart mark among mark inside rfl
        constructor
        · rw [after_inProgress (fun payload => payload_nonempty) begun,
            headers_eq (marked_sized mark)]
        · exact zeroed.after (zeros_block (fits_map (marked_sized mark) here) (marked_zeros other)) _
      · intro mark inside output out
        apply unmixed mark (List.mem_cons_of_mem _ inside) output
        rw [List.flatMap_cons, survivors_append, outputs_append, ← length mark]
        exact List.mem_append_right _ out

/-- Without losses a marked frame comes out unmixed. -/
theorem unmixed_content {blocks : List (Block α)} (distinct : (blocks.flatMap frames).Nodup)
    {mark : α} (split : .split mark ∈ blocks) {block : Block α} (inside : block ∈ blocks) :
    Unmixed (size mark) (block.map (marked size mark)).content := by
  by_cases same : block = .split mark
  · right
    rw [same, content, map, frames, List.flatten_singleton, marked, if_pos rfl]
  · left
    refine marked_zeros fun among => ?_
    have : Std.Symm (Function.onFun List.Disjoint (frames (α := α))) :=
      ⟨fun _ _ apart _ first second => apart second first⟩
    exact (List.nodup_flatMap.mp distinct).2.forall inside split same among List.mem_cons_self

end

/-! ## The media path -/

def placed (frames : List Bytes) (place : Fin frames.length) : Bytes := frames[place]

def placedSize (frames : List Bytes) (place : Fin frames.length) : Nat :=
  (placed frames place).length

def placedBlocks (budget : ℕ+) (frames : List Bytes) : List (Block (Fin frames.length)) :=
  blocks budget (placedSize frames) (List.finRange frames.length)

section
variable {budget : ℕ+} {frames : List Bytes}

theorem placedBlocks_distinct : ((placedBlocks budget frames).flatMap Block.frames).Nodup := by
  rw [placedBlocks, (blocks_spec _).1]
  exact List.nodup_finRange _

variable {content : Fin frames.length → Bytes}
  (sized : ∀ place, (content place).length = placedSize frames place)
include sized

theorem packetizeSbc_placed :
    packetizeSbc ((List.finRange frames.length).map content) (budget + 1) =
      ((placedBlocks budget frames).map (map content)).flatMap (payloads budget) := by
  rw [packetizeSbc_eq sized, placedBlocks, List.flatMap_map]

theorem placedBlocks_fit :
    ∀ block ∈ (placedBlocks budget frames).map (map content),
      block.Fits budget List.length := by
  intro block inside
  obtain ⟨placed, among, rfl⟩ := List.mem_map.mp inside
  exact fits_map sized ((blocks_spec _).2 placed among)

theorem headers_placed :
    (packetizeSbc ((List.finRange frames.length).map content) (budget + 1)).map headerOf =
      (placedBlocks budget frames).flatMap (headers budget (placedSize frames)) := by
  rw [packetizeSbc_placed sized, List.map_flatMap, List.flatMap_map]
  exact List.flatMap_congr fun block _ => headers_eq sized block

omit sized

theorem placed_frames : (List.finRange frames.length).map (placed frames) = frames :=
  List.map_getElem_finRange frames

include sized in
theorem sizes_of_content :
    ((List.finRange frames.length).map content).map List.length = frames.map List.length := by
  conv_rhs => rw [← @placed_frames frames]
  rw [List.map_map, List.map_map]
  exact List.map_congr_left fun place _ => sized place

theorem content_of_sizes {others : List Bytes}
    (sizes : others.map List.length = frames.map List.length) :
    ∃ content : Fin frames.length → Bytes,
      (∀ place, (content place).length = placedSize frames place) ∧
        (List.finRange frames.length).map content = others := by
  have count : others.length = frames.length := by
    simpa using congrArg List.length sizes
  refine ⟨fun place => others.get (place.cast count.symm), fun place => ?_, ?_⟩
  · have same := List.getElem_of_eq sizes (i := place.val) (by simp [count])
    simpa [placedSize, placed] using same
  · apply List.ext_getElem
    · simp [count]
    · intro place _ _
      simp

end

/-- What the frames come to when nothing is lost: whole frames that are counted, frames in
fragments, and one output for each of both. -/
theorem lossless {budget : ℕ+} (frames : List Bytes) :
    ∃ blocks : List (Block Bytes), blocks.flatMap Block.frames = frames ∧
      packetizeSbc frames (budget + 1) = blocks.flatMap (payloads budget) ∧
      (∀ block ∈ blocks, block.Fits budget List.length) ∧
      ∀ reassembler : SbcReassembler,
        reassembler.outputs (packetizeSbc frames (budget + 1)) = blocks.map content := by
  have sized : ∀ frame : Bytes, (id frame).length = frame.length := fun _ => rfl
  have sent := @packetizeSbc_eq _ budget _ _ sized frames
  have same (block : Block Bytes) : block.map id = block := by
    cases block <;> simp [map]
  obtain ⟨all, fits⟩ := @blocks_spec _ budget List.length frames
  simp only [List.map_id, same] at sent
  refine ⟨_, all, sent, fits, fun reassembler => ?_⟩
  rw [sent]
  exact outputs_blocks fits reassembler

theorem frameCount_whole {budget : ℕ+} {block : Block Bytes} (fits : block.Fits budget List.length)
    {payload : Bytes} (inside : payload ∈ block.payloads budget)
    (whole : (headerOf payload).fragmented = false) :
    (headerOf payload).frameCount.toNat = block.frames.length ∧ block.frames.length ≤ 15 ∧
      payload.tail = block.content := by
  cases block with
  | whole frames =>
    obtain rfl := List.mem_singleton.mp inside
    have parsed := parse_whole fits.2.1
    rw [parse_headerOf (payload_nonempty inside)] at parsed
    obtain ⟨header, data⟩ := SbcPayload.mk.inj (Option.some.inj parsed)
    rw [header]
    exact ⟨UInt8.toNat_ofNat_of_lt' (Nat.lt_of_le_of_lt fits.2.1 (by decide)), fits.2.1, data⟩
  | split frame =>
    obtain ⟨chunk, -, rfl⟩ := List.mem_map.mp inside
    rw [headerOf_fragment] at whole
    cases whole

theorem lossy_outputs {budget : ℕ+} (frames : List Bytes) (kept : List Bool) :
    (∀ others : List Bytes, others.map List.length = frames.map List.length →
      ∀ output ∈ outputs {} (survivors (packetizeSbc others (budget + 1)) kept),
        output ∈ outputs {} (packetizeSbc others (budget + 1))) ↔
    Watch.Spared {} ((packetizeSbc frames (budget + 1)).map headerOf) kept := by
  have own := @headers_placed budget frames _ fun _ => rfl
  rw [placed_frames] at own
  rw [own]
  constructor
  · intro subset
    refine spared_of_unmixed (fun _ => {}) placedBlocks_distinct (blocks_spec _).2
      (fun mark _ => ⟨rfl, fun begun => by cases begun⟩) ?_
    intro mark split output out
    have sized := @marked_sized _ _ (placedSize frames) mark
    have sent := @packetizeSbc_placed budget _ _ sized
    rw [List.flatMap_map] at sent
    rw [← sent] at out
    have among := subset _ (sizes_of_content sized) output out
    rw [packetizeSbc_placed sized, outputs_blocks (placedBlocks_fit sized), List.map_map] at among
    obtain ⟨block, inside, rfl⟩ := List.mem_map.mp among
    exact unmixed_content placedBlocks_distinct split inside
  · intro spared others sizes output out
    obtain ⟨content, sized, rfl⟩ := content_of_sizes sizes
    have same := @headers_placed budget _ _ sized
    rw [packetizeSbc_placed sized] at out same ⊢
    rw [outputs_blocks (placedBlocks_fit sized)]
    rw [← same] at spared
    exact outputs_sound (placedBlocks_fit sized) rfl spared output out

/-- Payloads fit and count their whole frames, and without losses they come out as the
frames, none in two parts. With losses nothing else comes out, whatever the frames hold,
exactly when no end of a frame arrives with a start open before it and part of it lost. -/
theorem media_path (frames : List Bytes) (maxPayload : Nat) (room : 2 ≤ maxPayload) :
    (∀ payload ∈ packetizeSbc frames maxPayload, payload.length ≤ maxPayload) ∧
    (∃ blocks : List (List Bytes), blocks.flatten = frames ∧
      (∀ payload ∈ packetizeSbc frames maxPayload, (headerOf payload).fragmented = false →
        ∃ block ∈ blocks, (headerOf payload).frameCount.toNat = block.length ∧
          block.length ≤ 15 ∧ payload.tail = block.flatten) ∧
      SbcReassembler.outputs {} (packetizeSbc frames maxPayload) = blocks.map List.flatten) ∧
    (SbcReassembler.outputs {} (packetizeSbc frames maxPayload)).flatten = frames.flatten ∧
    ∀ kept : List Bool,
      (∀ others : List Bytes, others.map List.length = frames.map List.length →
        ∀ output ∈ SbcReassembler.outputs {} (survivors (packetizeSbc others maxPayload) kept),
          output ∈ SbcReassembler.outputs {} (packetizeSbc others maxPayload)) ↔
      Watch.Spared {} ((packetizeSbc frames maxPayload).map headerOf) kept := by
  obtain ⟨budget, rfl⟩ : ∃ budget : ℕ+, (budget : Nat) + 1 = maxPayload :=
    ⟨⟨maxPayload - 1, by omega⟩, by simp; omega⟩
  obtain ⟨blocks, all, sent, fits, out⟩ := @lossless budget frames
  have among {payload : Bytes} (inside : payload ∈ packetizeSbc frames (budget + 1)) :
      ∃ block ∈ blocks, payload ∈ block.payloads budget := by
    rw [sent] at inside
    exact List.mem_flatMap.mp inside
  have flat : (blocks.map Block.content).flatten = frames.flatten := by
    rw [← all, List.flatMap_def, List.flatten_flatten, List.map_map]
    rfl
  refine ⟨?_, ⟨blocks.map Block.frames, all, ?_, ?_⟩, by rw [out, flat], lossy_outputs frames⟩
  · intro payload inside
    obtain ⟨block, held, inside⟩ := among inside
    exact payload_length (fits block held) inside
  · intro payload inside whole
    obtain ⟨block, held, inside⟩ := among inside
    exact ⟨block.frames, List.mem_map_of_mem held, frameCount_whole (fits block held) inside whole⟩
  · rw [out, List.map_map]
    rfl

/-- Two frames in three fragments each, with the end of one and the start of the other lost. -/
def splicedFrames : List Bytes := [[1, 2, 3, 4, 5], [6, 7, 8, 9, 10]]

theorem media_path_spliced :
    (SbcReassembler.outputs {} (packetizeSbc splicedFrames 3)).flatten = splicedFrames.flatten :=
  (media_path splicedFrames 3 (by decide)).2.2.1

/-- What comes out is of both frames. -/
theorem spliced : ¬ ∀ (frames : List Bytes) (maxPayload : Nat) (kept : List Bool),
    2 ≤ maxPayload →
      ∀ output ∈ SbcReassembler.outputs {} (survivors (packetizeSbc frames maxPayload) kept),
        output ∈ SbcReassembler.outputs {} (packetizeSbc frames maxPayload) := by
  intro subset
  have mixed := subset splicedFrames 3 [true, true, false, false, true, true] (by decide)
    [1, 2, 3, 4, 8, 9, 10] (by decide)
  exact absurd mixed (by decide)

end Simble.Rtp
