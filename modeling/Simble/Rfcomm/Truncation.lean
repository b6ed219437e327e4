import Simble.Rfcomm.Frame

/-! What the parser of RFCOMM frames makes of frames that are cut off, or whose length field does
not fit. It reads of that field only where it ends: a cut frame is as good as a whole one if its
last octet is the check sequence, which for a UIH frame does not cover the length. -/
namespace Simble.Rfcomm
open List
namespace RfcommFrame

inductive Built : RfcommFrame → Prop where
  | sabm {cR dlci} : dlci < 64 → cR = 0 ∨ cR = 1 → Built (.sabm cR dlci)
  | ua {cR dlci} : dlci < 64 → cR = 0 ∨ cR = 1 → Built (.ua cR dlci)
  | dm {cR dlci} : dlci < 64 → cR = 0 ∨ cR = 1 → Built (.dm cR dlci)
  | disc {cR dlci} : dlci < 64 → cR = 0 ∨ cR = 1 → Built (.disc cR dlci)
  | uih {cR dlci information pF} : dlci < 64 → cR = 0 ∨ cR = 1 → pF = 0 ∨ pF = 1 →
      Built (.uih cR dlci information pF)

/-- The frame is read back, and nothing shorter is read in its place. -/
structure Survives (frame : RfcommFrame) : Prop where
  whole : ∃ parsed, parse frame.toBytes = some parsed ∧ parsed.frameType = frame.frameType ∧
    parsed.dlci = frame.dlci ∧ parsed.cR = frame.cR ∧ parsed.pF = frame.pF ∧
    parsed.information = frame.information
  cut : ∀ n < frame.toBytes.length, parse (frame.toBytes.take n) = none

inductive LengthField : Bytes → Prop where
  | one {octet : UInt8} : octet &&& 1 ≠ 0 → LengthField [octet]
  | two {octet high : UInt8} : octet &&& 1 = 0 → LengthField [octet, high]

def announced : Bytes → Nat
  | [octet] => octet.toNat / 2
  | [octet, high] => octet.toNat / 2 + 128 * high.toNat
  | _ => 0

def received (address control : UInt8) (information : Bytes) : RfcommFrame where
  frameType := control &&& 0xEF
  cR := (address >>> 1) &&& 1
  dlci := (address >>> 2) &&& 0x3F
  pF := (control >>> 4) &&& 1
  information
  withCredits := false

/-- The length that belongs into such a frame, where a credit octet does not count. -/
def present (address control : UInt8) (information : Bytes) : Nat :=
  let frame := received address control information
  { frame with withCredits := frame.frameType == FrameType.uih && frame.pF == 1 }.lengthValue

theorem lengthField_lengthBytes (frame : RfcommFrame) : LengthField frame.lengthBytes := by
  rcases frame.lengthBytes_shape with ⟨octet, shape, odd⟩ | ⟨octet, high, shape, even⟩
  · rw [shape]
    exact .one odd
  · rw [shape]
    exact .two even

theorem parse_parts {field : Bytes} (isField : LengthField field) (address control last : UInt8)
    (information : Bytes) : parse (address :: control :: (field ++ information ++ [last])) =
      if (received address control information).fcs = last then some (received address control information)
      else none := by
  have final (octet : UInt8) : (octet :: (information ++ [last])).getLast? = some last := by
    rw [← cons_append, List.getLast?_concat]
  cases isField with
  | one odd =>
    by_cases same : (received address control information).fcs = last <;>
    · rw [received] at same
      simp [parse, odd, received, final, same]
  | two even =>
    by_cases same : (received address control information).fcs = last <;>
    · rw [received] at same
      simp [parse, even, received, final, same]

theorem parse_short {field : Bytes} (isField : LengthField field) (address control : UInt8) {n : Nat}
    (short : n ≤ field.length) : parse (address :: control :: field.take n) = none := by
  cases isField with
  | @one octet odd =>
    obtain rfl | rfl := Nat.le_one_iff_eq_zero_or_eq_one.mp short
    · rfl
    · simp [parse, odd]
  | @two octet high even =>
    have few : n = 0 ∨ n = 1 ∨ n = 2 := by
      rw [length_cons, length_singleton] at short
      omega
    obtain rfl | rfl | rfl := few
    · rfl
    · simp [parse, even]
    · simp [parse, even]

section Encoded
variable {frame : RfcommFrame}

theorem Built.encodable (built : Built frame) : frame.Encodable := by
  cases built with
  | uih dlci cR pF =>
    exact ⟨dlci, cR, pF, (by decide : FrameType.uih &&& 0xEF = FrameType.uih), fun other => absurd rfl other⟩
  | sabm dlci cR =>
    exact ⟨dlci, cR, .inr rfl, (by decide : FrameType.sabm &&& 0xEF = FrameType.sabm), fun _ => rfl⟩
  | ua dlci cR =>
    exact ⟨dlci, cR, .inr rfl, (by decide : FrameType.ua &&& 0xEF = FrameType.ua), fun _ => rfl⟩
  | dm dlci cR =>
    exact ⟨dlci, cR, .inr rfl, (by decide : FrameType.dm &&& 0xEF = FrameType.dm), fun _ => rfl⟩
  | disc dlci cR =>
    exact ⟨dlci, cR, .inr rfl, (by decide : FrameType.disc &&& 0xEF = FrameType.disc), fun _ => rfl⟩

theorem Built.plain (built : Built frame) (other : frame.frameType ≠ FrameType.uih) :
    frame.information = [] := by
  cases built with
  | uih => exact absurd rfl other
  | sabm | ua | dm | disc => rfl

theorem toBytes_parts (frame : RfcommFrame) : frame.toBytes =
    frame.addressByte :: frame.controlByte :: (frame.lengthBytes ++ frame.information ++ [frame.fcs]) := by
  simp [toBytes]

/-- The two header octets hold all but the information. -/
theorem received_header (encodable : frame.Encodable) (information : Bytes) :
    received frame.addressByte frame.controlByte information =
      { frame with information, withCredits := false } := by
  have whole := parse_toBytes encodable
  rw [toBytes_parts, parse_parts frame.lengthField_lengthBytes] at whole
  split at whole
  · have same := Option.some.inj whole
    exact congrArg (fun frame : RfcommFrame => { frame with information }) same
  · cases whole

theorem fcs_received (encodable : frame.Encodable) (kind : frame.frameType = FrameType.uih)
    (information : Bytes) :
    (received frame.addressByte frame.controlByte information).fcs = frame.fcs := by
  rw [received_header encodable]
  simp [fcs, kind, addressByte, controlByte]

theorem parse_cut (encodable : frame.Encodable) (kind : frame.frameType = FrameType.uih)
    (front : Bytes) (last : UInt8) :
    parse (frame.addressByte :: frame.controlByte :: (frame.lengthBytes ++ front ++ [last])) = none ↔
      last ≠ frame.fcs := by
  rw [parse_parts frame.lengthField_lengthBytes, fcs_received encodable kind]
  split
  · rename_i same
    simp [same]
  · rename_i differs
    simp [Ne.symm differs]

/-- A frame survives exactly if none of its information is its check sequence. -/
theorem survives_iff (built : Built frame) : frame.Survives ↔ frame.fcs ∉ frame.information := by
  have encodable := built.encodable
  constructor
  · intro survives inside
    have kind : frame.frameType = FrameType.uih := by
      by_contra other
      rw [built.plain other] at inside
      cases inside
    obtain ⟨front, back, split⟩ := append_of_mem inside
    have shorter : frame.toBytes =
        (frame.addressByte :: frame.controlByte :: (frame.lengthBytes ++ front ++ [frame.fcs])) ++
          (back ++ [frame.fcs]) := by
      rw [toBytes_parts, split]
      simp
    have refused := survives.cut
      (frame.addressByte :: frame.controlByte :: (frame.lengthBytes ++ front ++ [frame.fcs])).length (by
        rw [shorter, length_append, length_append]
        exact Nat.lt_add_of_pos_right (Nat.succ_pos _))
    rw [shorter, take_left] at refused
    exact (parse_cut encodable kind front frame.fcs).mp refused rfl
  · intro free
    constructor
    · exact ⟨_, parse_toBytes encodable, rfl, rfl, rfl, rfl, rfl⟩
    · intro n shorter
      rw [toBytes_parts] at shorter ⊢
      match n with
      | 0 => rfl
      | 1 => rfl
      | n + 2 =>
        rw [take_succ_cons, take_succ_cons, append_assoc]
        by_cases early : n ≤ frame.lengthBytes.length
        · rw [take_append_of_le_length early]
          exact parse_short frame.lengthField_lengthBytes _ _ early
        · -- The cut is in the information, behind an octet that is not the check sequence.
          have small : n - frame.lengthBytes.length ≤ frame.information.length := by
            simp only [length_cons, length_append, length_nil] at shorter
            omega
          rw [take_append, take_of_length_le (Nat.le_of_not_le early),
            take_append_of_le_length small]
          obtain empty | ⟨front, last, taken⟩ :=
            eq_nil_or_concat (frame.information.take (n - frame.lengthBytes.length))
          · have lengths := congrArg List.length empty
            rw [length_take, length_nil] at lengths
            omega
          · rw [concat_eq_append] at taken
            have inside : last ∈ frame.information :=
              mem_of_mem_take (taken ▸ mem_append_right _ mem_cons_self)
            have kind : frame.frameType = FrameType.uih := by
              by_contra other
              rw [built.plain other] at inside
              cases inside
            rw [taken, ← append_assoc]
            exact (parse_cut encodable kind front last).mpr fun same => free (same ▸ inside)

end Encoded

/-- A frame is never read cut off, and one whose length field does not fit is not read:
the first holds where no octet of the information is the check sequence, the second
where the last octet is not. -/
theorem codec_iff {frame : RfcommFrame} (built : Built frame) {address control last : UInt8}
    {field information : Bytes} (isField : LengthField field) :
    (frame.Survives ↔ frame.fcs ∉ frame.information) ∧
    ((announced field ≠ present address control information →
        parse (address :: control :: (field ++ information ++ [last])) = none) ↔
      ¬ (announced field ≠ present address control information ∧
        last = (received address control information).fcs)) := by
  refine ⟨survives_iff built, ?_⟩
  rw [parse_parts isField]
  split
  · rename_i same
    simp [same]
  · rename_i differs
    simp [Ne.symm differs]

theorem codec_iff_uih :
    ((uih 1 2 [0x41, 0x42] 0).Survives ↔ (uih 1 2 [0x41, 0x42] 0).fcs ∉ (uih 1 2 [0x41, 0x42] 0).information) ∧
    ((announced [0x0B] ≠ present 0x0B 0xEF [0x41] →
        parse (0x0B :: 0xEF :: ([0x0B] ++ [0x41] ++ [0x9B])) = none) ↔
      ¬ (announced [0x0B] ≠ present 0x0B 0xEF [0x41] ∧ 0x9B = (received 0x0B 0xEF [0x41]).fcs)) :=
  codec_iff (.uih (by decide) (.inr rfl) (.inl rfl)) (.one (by decide))

/-- Two octets of data of which the first is the check sequence. -/
theorem not_codec : ¬ ((∀ frame, Built frame → frame.information.length ≤ 32767 → frame.Survives) ∧
    ∀ address control last field information, LengthField field →
      announced field ≠ present address control information →
      parse (address :: control :: (field ++ information ++ [last])) = none) := by
  intro codec
  have survives := codec.1 (uih 1 2 [0x9A, 0x42] 0) (.uih (by decide) (.inr rfl) (.inl rfl)) (by decide)
  have inside : (uih 1 2 [0x9A, 0x42] 0).fcs ∈ (uih 1 2 [0x9A, 0x42] 0).information := by decide
  exact (survives_iff (.uih (by decide) (.inr rfl) (.inl rfl))).mp survives inside

end RfcommFrame
end Simble.Rfcomm
