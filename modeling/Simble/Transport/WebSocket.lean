import Simble.Lib.Reading
import Simble.Transport.Stream

/-! WebSocket frames (`transport/ws.rs`): how they are written, and the reader that
takes them off a stream. -/
namespace Simble.Transport
open Simble.Lib List

namespace Opcode

def continuation : UInt8 := 0x0
def text : UInt8 := 0x1
def binary : UInt8 := 0x2
def close : UInt8 := 0x8
def ping : UInt8 := 0x9
def pong : UInt8 := 0xA

end Opcode

namespace WsFrameHeader

/-- `WsFrameHeader::new`, as its two octets. -/
def new (fin : Bool) (opcode : UInt8) (masked : Bool) (len7 : UInt8) : Bytes :=
  [(if fin then 0x80 else 0) ||| (opcode &&& 0x0F), (if masked then 0x80 else 0) ||| (len7 &&& 0x7F)]

def fin (finRsvOpcode : UInt8) : Bool := finRsvOpcode &&& 0x80 ≠ 0

def opcode (finRsvOpcode : UInt8) : UInt8 := finRsvOpcode &&& 0x0F

def isMasked (maskLen7 : UInt8) : Bool := maskLen7 &&& 0x80 ≠ 0

def len7 (maskLen7 : UInt8) : UInt8 := maskLen7 &&& 0x7F

end WsFrameHeader

def applyMask (key : Octets 4) (payload : Bytes) : Bytes :=
  payload.mapIdx fun i octet => octet ^^^ key.get ⟨i % 4, Nat.mod_lt i (by decide)⟩

/-- A frame as it goes over the wire; `encode_frame` writes those with the FIN bit. -/
def frameOctets (fin : Bool) (opcode : UInt8) (payload : Bytes) (mask : Option (Octets 4)) :
    Bytes :=
  let len := payload.length
  let header :=
    if len ≤ 125 then WsFrameHeader.new fin opcode mask.isSome (UInt8.ofNat len)
    else if len ≤ 0xFFFF then WsFrameHeader.new fin opcode mask.isSome 126 ++ toBe 2 len
    else WsFrameHeader.new fin opcode mask.isSome 127 ++ toBe 8 len
  match mask with
  | some key => header ++ key.toList ++ applyMask key payload
  | none => header ++ payload

def encodeFrame (opcode : UInt8) (payload : Bytes) (mask : Option (Octets 4)) : Bytes :=
  frameOctets true opcode payload mask

def encodeMaskedBinaryFrame (key : Octets 4) (payload : Bytes) : Bytes :=
  encodeFrame Opcode.binary payload (some key)

structure FrameHeader where
  fin : Bool
  opcode : UInt8
  masked : Bool
  maskKey : Octets 4
  payloadLen : Nat
  headerLen : Nat
deriving DecidableEq

def readLength (len7 : UInt8) : Reading (Nat × Nat) :=
  if len7 = 126 then (·, 2) <$> Reading.number 2
  else if len7 = 127 then (·, 8) <$> Reading.number 8
  else pure (len7.toNat, 0)

def readMaskKey (masked : Bool) : Reading (Octets 4 × Nat) :=
  if masked then (fun key => ((Octets.tryFrom 4 key).getD .zero, 4)) <$> Reading.take 4
  else pure (.zero, 0)

def readFrameHeader : Reading FrameHeader := do
  let header ← Reading.take 2
  let length ← readLength (WsFrameHeader.len7 (header.getLastD 0))
  let mask ← readMaskKey (WsFrameHeader.isMasked (header.getLastD 0))
  return {
    fin := WsFrameHeader.fin (header.headD 0)
    opcode := WsFrameHeader.opcode (header.headD 0)
    masked := WsFrameHeader.isMasked (header.getLastD 0)
    maskKey := mask.1
    payloadLen := length.1
    headerLen := 2 + length.2 + mask.2 }

def parseFrameHeader (buffer : Bytes) : Option FrameHeader :=
  (readFrameHeader buffer).map Prod.fst

structure DecodedFrame where
  fin : Bool
  opcode : UInt8
  payload : Bytes
deriving DecidableEq

abbrev WsFrameReader := Cursor

/-- The first number that `usize` does not hold. -/
def usizeRange : Nat := 2 ^ 64

namespace WsFrameReader

def decoded (header : FrameHeader) (frame : Bytes) : DecodedFrame where
  fin := header.fin
  opcode := header.opcode
  payload :=
    if header.masked then applyMask header.maskKey (frame.drop header.headerLen)
    else frame.drop header.headerLen

def nextFrame (reader : WsFrameReader) : Except Halt (WsFrameReader × Option DecodedFrame) :=
  match parseFrameHeader reader.unread with
  | none => .ok (reader, none)
  | some header =>
    let totalLen := header.headerLen + header.payloadLen
    -- The sum overflows; wrapped, it would be less than where the payload starts.
    if usizeRange ≤ totalLen then .error .panic
    else if short : reader.unread.length < totalLen then .ok (reader, none)
    else
      .ok (reader.advance totalLen (Nat.le_of_not_lt short),
        some (decoded header (reader.unread.take totalLen)))

end WsFrameReader

/-! ## Masks and headers -/

theorem applyMask_applyMask (key : Octets 4) (payload : Bytes) :
    applyMask key (applyMask key payload) = payload := by
  rw [applyMask, applyMask, mapIdx_mapIdx]
  refine ext_getElem (by simp) fun i _ _ => ?_
  rw [getElem_mapIdx, Function.comp, UInt8.xor_assoc, UInt8.xor_self, UInt8.xor_zero]

@[simp] theorem length_applyMask (key : Octets 4) (payload : Bytes) :
    (applyMask key payload).length = payload.length := length_mapIdx

theorem masked_low {value : UInt8} (small : value < 128) : value &&& 0x7F = value := by
  have bounded : value.toNat < 128 := small
  apply UInt8.toNat_inj.mp
  simpa using Nat.and_two_pow_sub_one_of_lt_two_pow (n := 7) bounded

theorem masked_opcode {value : UInt8} (small : value < 16) : value &&& 0x0F = value := by
  have bounded : value.toNat < 16 := small
  apply UInt8.toNat_inj.mp
  simpa using Nat.and_two_pow_sub_one_of_lt_two_pow (n := 4) bounded

theorem or_and (x y z : UInt8) : (x ||| y) &&& z = (x &&& z) ||| (y &&& z) :=
  UInt8.toBitVec_inj.mp BitVec.and_or_distrib_right

theorem high_bit (flag : Bool) {low : UInt8} (small : low < 128) :
    decide (((if flag then (0x80 : UInt8) else 0) ||| low) &&& 0x80 ≠ 0) = flag := by
  have apart : low &&& 0x80 = 0 := by
    rw [← masked_low small, UInt8.and_assoc]
    exact UInt8.and_zero
  rw [or_and, apart]
  cases flag <;> decide

theorem low_bits (flag : Bool) (low mask : UInt8) (apart : (0x80 : UInt8) &&& mask = 0) :
    ((if flag then (0x80 : UInt8) else 0) ||| low) &&& mask = low &&& mask := by
  rw [or_and]
  cases flag
  · simp
  · simp [apart]

theorem new_fields (fin masked : Bool) {opcode len7 : UInt8} (small : opcode < 16)
    (short : len7 < 128) : ∃ first second, WsFrameHeader.new fin opcode masked len7 = [first, second] ∧
      WsFrameHeader.fin first = fin ∧ WsFrameHeader.opcode first = opcode ∧
      WsFrameHeader.isMasked second = masked ∧ WsFrameHeader.len7 second = len7 := by
  have low : opcode < 128 := Nat.lt_trans small (by decide)
  refine ⟨_, _, rfl, ?_, ?_, ?_, ?_⟩
  · rw [masked_opcode small]
    exact high_bit fin low
  · rw [masked_opcode small, WsFrameHeader.opcode, low_bits _ _ _ (by decide), masked_opcode small]
  · rw [masked_low short]
    exact high_bit masked short
  · rw [masked_low short, WsFrameHeader.len7, low_bits _ _ _ (by decide), masked_low short]

structure WireFrame where
  fin : Bool
  opcode : UInt8
  payload : Bytes
  mask : Option (Octets 4)
  opcode_lt : opcode < 16
  /-- What a `Vec` holds at most. -/
  payload_lt : payload.length < 2 ^ 63

namespace WireFrame

def octets (frame : WireFrame) : Bytes :=
  frameOctets frame.fin frame.opcode frame.payload frame.mask

def decoded (frame : WireFrame) : DecodedFrame := ⟨frame.fin, frame.opcode, frame.payload⟩

def lengthForm (frame : WireFrame) : UInt8 × Bytes :=
  let len := frame.payload.length
  if len ≤ 125 then (UInt8.ofNat len, [])
  else if len ≤ 0xFFFF then (126, toBe 2 len)
  else (127, toBe 8 len)

def headerOctets (frame : WireFrame) : Bytes :=
  WsFrameHeader.new frame.fin frame.opcode frame.mask.isSome frame.lengthForm.1 ++
    (frame.lengthForm.2 ++ (frame.mask.map List.Vector.toList).getD [])

def body (frame : WireFrame) : Bytes :=
  match frame.mask with
  | some key => applyMask key frame.payload
  | none => frame.payload

theorem lengthForm_cases (frame : WireFrame) :
    (frame.payload.length ≤ 125 ∧
      frame.lengthForm = (UInt8.ofNat frame.payload.length, [])) ∨
    (¬ frame.payload.length ≤ 125 ∧ frame.payload.length ≤ 0xFFFF ∧
      frame.lengthForm = (126, toBe 2 frame.payload.length)) ∨
    (¬ frame.payload.length ≤ 125 ∧ ¬ frame.payload.length ≤ 0xFFFF ∧
      frame.lengthForm = (127, toBe 8 frame.payload.length)) := by
  by_cases short : frame.payload.length ≤ 125
  · exact .inl ⟨short, if_pos short⟩
  · by_cases medium : frame.payload.length ≤ 0xFFFF
    · exact .inr (.inl ⟨short, medium, (if_neg short).trans (if_pos medium)⟩)
    · exact .inr (.inr ⟨short, medium, (if_neg short).trans (if_neg medium)⟩)

theorem octets_eq (frame : WireFrame) : frame.octets = frame.headerOctets ++ frame.body := by
  rw [octets, headerOctets, body]
  rcases frame.lengthForm_cases with ⟨short, form⟩ | ⟨long, medium, form⟩ | ⟨long, large, form⟩
  · cases mask : frame.mask <;> simp [frameOctets, short, form]
  · cases mask : frame.mask <;> simp [frameOctets, long, medium, form]
  · cases mask : frame.mask <;> simp [frameOctets, long, large, form]

@[simp] theorem length_body (frame : WireFrame) : frame.body.length = frame.payload.length := by
  rw [body]
  split
  · exact length_applyMask _ _
  · rfl

def header (frame : WireFrame) : FrameHeader where
  fin := frame.fin
  opcode := frame.opcode
  masked := frame.mask.isSome
  maskKey := frame.mask.getD .zero
  payloadLen := frame.payload.length
  headerLen := frame.headerOctets.length

theorem lengthForm_lt (frame : WireFrame) : frame.lengthForm.1 < 128 := by
  rcases frame.lengthForm_cases with ⟨short, form⟩ | ⟨-, -, form⟩ | ⟨-, -, form⟩
  · rw [form, UInt8.lt_iff_toNat_lt, UInt8.toNat_ofNat', Nat.mod_eq_of_lt (by omega)]
    exact Nat.lt_of_le_of_lt short (by decide)
  · rw [form]
    exact (by decide : (126 : UInt8) < 128)
  · rw [form]
    exact (by decide : (127 : UInt8) < 128)

theorem lengthForm_le (frame : WireFrame) : frame.lengthForm.2.length ≤ 8 := by
  rcases frame.lengthForm_cases with ⟨-, form⟩ | ⟨-, -, form⟩ | ⟨-, -, form⟩ <;> simp [form]

theorem recovers_length (frame : WireFrame) :
    Reading.Recovers (readLength frame.lengthForm.1) frame.lengthForm.2
      (frame.payload.length, frame.lengthForm.2.length) := by
  have bound := frame.payload_lt
  rcases frame.lengthForm_cases with ⟨short, form⟩ | ⟨-, medium, form⟩ | ⟨-, -, form⟩
  · have size : (UInt8.ofNat frame.payload.length).toNat = frame.payload.length := by
      rw [UInt8.toNat_ofNat', Nat.mod_eq_of_lt (by omega)]
    have other : ∀ form : UInt8, 125 < form.toNat → UInt8.ofNat frame.payload.length ≠ form := by
      rintro form large same
      rw [← same, size] at large
      omega
    rw [form, readLength, if_neg (other 126 (by decide)), if_neg (other 127 (by decide)), size]
    exact Reading.recovers_pure _
  · rw [form, readLength, if_pos rfl, length_toBe]
    exact (Reading.recovers_number (by omega)).map _
  · have other : (127 : UInt8) ≠ 126 := by decide
    rw [form, readLength, if_neg other, if_pos rfl, length_toBe]
    exact (Reading.recovers_number (by omega)).map _

theorem recovers_mask (frame : WireFrame) :
    Reading.Recovers (readMaskKey frame.mask.isSome) ((frame.mask.map List.Vector.toList).getD [])
      (frame.mask.getD .zero, ((frame.mask.map List.Vector.toList).getD []).length) := by
  cases frame.mask with
  | none => exact Reading.recovers_pure _
  | some key =>
    have read := (Reading.recovers_take (n := 4) key.toList_length).map
      fun octets => ((Octets.tryFrom 4 octets).getD .zero, 4)
    simpa [readMaskKey] using read

theorem recovers_header (frame : WireFrame) :
    Reading.Recovers readFrameHeader frame.headerOctets frame.header := by
  obtain ⟨first, second, new, fin, opcode, masked, len7⟩ :=
    new_fields frame.fin frame.mask.isSome frame.opcode_lt frame.lengthForm_lt
  rw [readFrameHeader, headerOctets, new]
  apply (Reading.recovers_take (n := 2) rfl).bind
  simp only [headD_cons, getLastD_cons, getLastD_nil, len7, masked, fin, opcode]
  apply (frame.recovers_length).bind
  have rest := (frame.recovers_mask).map fun found => ({
    fin := frame.fin
    opcode := frame.opcode
    masked := frame.mask.isSome
    maskKey := found.1
    payloadLen := frame.payload.length
    headerLen := 2 + frame.lengthForm.2.length + found.2 } : FrameHeader)
  have same : frame.header = ({
    fin := frame.fin
    opcode := frame.opcode
    masked := frame.mask.isSome
    maskKey := frame.mask.getD .zero
    payloadLen := frame.payload.length
    headerLen := 2 + frame.lengthForm.2.length +
      ((frame.mask.map List.Vector.toList).getD []).length } : FrameHeader) := by
    rw [header, headerOctets, new, length_append, length_append, ← Nat.add_assoc]
    rfl
  rw [same]
  exact rest

end WireFrame

theorem steady_readFrameHeader : Reading.Steady readFrameHeader := by
  refine (Reading.steady_take 2).bind fun header => ?_
  refine Reading.Steady.bind ?_ fun length => ?_
  · unfold readLength
    split
    · exact (Reading.steady_number 2).map _
    · split
      · exact (Reading.steady_number 8).map _
      · exact Reading.steady_pure _
  · refine Reading.Steady.bind ?_ fun mask => Reading.steady_pure _
    unfold readMaskKey
    split
    · exact (Reading.steady_take 4).map _
    · exact Reading.steady_pure _

theorem parseFrameHeader_append {buffer : Bytes} {header : FrameHeader}
    (found : parseFrameHeader buffer = some header) (more : Bytes) :
    parseFrameHeader (buffer ++ more) = some header := by
  obtain ⟨⟨value, rest⟩, read, rfl⟩ := Option.map_eq_some_iff.mp found
  rw [parseFrameHeader, steady_readFrameHeader _ _ _ more read]
  rfl

/-! ## Frames -/

/-- What the reader does with the octets it has not handed over. -/
def takeFrame (buffer : Bytes) : Except Halt (Option (DecodedFrame × Bytes)) :=
  match parseFrameHeader buffer with
  | none => .ok none
  | some header =>
    let totalLen := header.headerLen + header.payloadLen
    if usizeRange ≤ totalLen then .error .panic
    else if buffer.length < totalLen then .ok none
    else .ok (some (WsFrameReader.decoded header (buffer.take totalLen), buffer.drop totalLen))

theorem WsFrameReader.nextFrame_eq (reader : WsFrameReader) :
    (∃ halt, takeFrame reader.unread = .error halt ∧ reader.nextFrame = .error halt) ∨
    (takeFrame reader.unread = .ok none ∧ reader.nextFrame = .ok (reader, none)) ∨
    (∃ frame later, takeFrame reader.unread = .ok (some (frame, later.unread)) ∧
      reader.nextFrame = .ok (later, some frame)) := by
  unfold takeFrame nextFrame
  cases parseFrameHeader reader.unread with
  | none => exact .inr (.inl ⟨rfl, rfl⟩)
  | some header =>
    by_cases wraps : usizeRange ≤ header.headerLen + header.payloadLen
    · exact .inl ⟨.panic, by simp [wraps], by simp [wraps]⟩
    · by_cases short : reader.unread.length < header.headerLen + header.payloadLen
      · exact .inr (.inl ⟨by simp [wraps, short], by simp [wraps, short]⟩)
      · refine .inr (.inr ⟨decoded header (reader.unread.take (header.headerLen +
          header.payloadLen)), reader.advance _ (Nat.le_of_not_lt short), ?_, ?_⟩)
        · simp [wraps, short]
        · simp [wraps, short]

theorem WsFrameReader.follows :
    Follows (fun _ => True) takeFrame Cursor.unread Cursor.feed WsFrameReader.nextFrame where
  fed reader chunk _ := ⟨trivial, Cursor.unread_feed reader chunk⟩
  stops reader halt _ taken := by
    rcases nextFrame_eq reader with ⟨other, same, next⟩ | ⟨same, -⟩ | ⟨frame, later, same, -⟩
    all_goals rw [taken] at same; cases same
    exact next
  waits reader _ taken := by
    rcases nextFrame_eq reader with ⟨other, same, -⟩ | ⟨-, next⟩ | ⟨frame, later, same, -⟩
    · rw [taken] at same
      cases same
    · exact ⟨reader, next, trivial, rfl⟩
    · rw [taken] at same
      cases same
  hands reader frame rest _ taken := by
    rcases nextFrame_eq reader with ⟨other, same, -⟩ | ⟨same, -⟩ | ⟨found, later, same, next⟩
    all_goals rw [taken] at same; cases same
    exact ⟨later, next, trivial, rfl⟩

open WireFrame

theorem takeFrame_octets (frame : WireFrame) (rest : Bytes) :
    takeFrame (frame.octets ++ rest) = .ok (some (frame.decoded, rest)) := by
  have parsed : parseFrameHeader (frame.octets ++ rest) = some frame.header := by
    rw [frame.octets_eq, append_assoc, parseFrameHeader, frame.recovers_header]
    rfl
  have size : frame.header.headerLen + frame.header.payloadLen = frame.octets.length := by
    rw [frame.octets_eq, length_append, frame.length_body]
    rfl
  have small : frame.header.headerLen ≤ 14 := by
    have length := frame.lengthForm_le
    have mask : ((frame.mask.map List.Vector.toList).getD []).length ≤ 4 := by
      cases frame.mask <;> simp
    have two : (WsFrameHeader.new frame.fin frame.opcode frame.mask.isSome
      frame.lengthForm.1).length = 2 := rfl
    simp only [header, headerOctets, length_append]
    omega
  have bound := frame.payload_lt
  have fits : ¬ usizeRange ≤ frame.octets.length := by
    rw [← size, usizeRange, header]
    have := small
    simp only [header] at this ⊢
    omega
  simp only [takeFrame, parsed, size]
  rw [if_neg fits, if_neg (by rw [length_append]; omega), take_left' rfl,
    drop_left' rfl]
  have back : (frame.octets.drop frame.header.headerLen) = frame.body := by
    rw [frame.octets_eq]
    exact drop_left' rfl
  have payload : (WsFrameReader.decoded frame.header frame.octets) = frame.decoded := by
    rw [WsFrameReader.decoded, back, body]
    cases mask : frame.mask with
    | none => simp [header, decoded, mask]
    | some key => simp [header, decoded, mask, applyMask_applyMask]
  rw [payload]

theorem takeFrame_append {buffer more : Bytes} :
    (takeFrame buffer = .error .panic → takeFrame (buffer ++ more) = .error .panic) ∧
    ∀ frame rest, takeFrame buffer = .ok (some (frame, rest)) →
      takeFrame (buffer ++ more) = .ok (some (frame, rest ++ more)) := by
  cases found : parseFrameHeader buffer with
  | none => simp [takeFrame, found]
  | some header =>
    have still := parseFrameHeader_append found more
    simp only [takeFrame, found, still]
    by_cases wraps : usizeRange ≤ header.headerLen + header.payloadLen
    · simp [wraps]
    · by_cases short : buffer.length < header.headerLen + header.payloadLen
      · simp [wraps, short]
      · have there := Nat.le_of_not_lt short
        rw [if_neg wraps, if_neg short, if_neg wraps,
          if_neg (by rw [length_append]; omega), take_append_of_le_length there,
          drop_append_of_le_length there]
        simp

theorem takeFrame_part (frame : WireFrame) {front back : Bytes}
    (split : front ++ back = frame.octets) (lacking : back ≠ []) : takeFrame front = .ok none := by
  have whole := takeFrame_octets frame []
  rw [append_nil, ← split] at whole
  have short := length_pos_iff.mpr lacking
  cases taken : takeFrame front with
  | error halt =>
    have wraps : halt = .panic := by
      unfold takeFrame at taken
      split at taken
      · cases taken
      · dsimp only at taken
        split at taken
        · cases taken
          rfl
        · split at taken <;> cases taken
    rw [wraps] at taken
    rw [takeFrame_append.1 taken] at whole
    cases whole
  | ok found =>
    cases found with
    | none => rfl
    | some found =>
      rw [takeFrame_append.2 found.1 found.2 taken] at whole
      simp only [Except.ok.injEq, Option.some.injEq, Prod.mk.injEq, append_eq_nil_iff] at whole
      exact absurd whole.2.2 lacking

theorem takeFrame_delimits :
    Delimits takeFrame (fun _ : WireFrame => True) octets decoded where
  nothing := rfl
  whole frame rest _ := takeFrame_octets frame rest
  part frame _ _ _ := takeFrame_part frame

end Simble.Transport
