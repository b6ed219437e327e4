import Simble.Sdp.DataElement
import Mathlib.Data.Nat.Bitwise
import Mathlib.Tactic.IntervalCases

/-! A data element that is written is read back, whatever stands behind it; and
the parser gets on with every octet string. -/
namespace Simble.Sdp
open Simble.Lib SdpUuid List

/-! ## Elements that can be written -/

def IntegerSize (size : UInt8) : Prop := size = 1 ∨ size = 2 ∨ size = 4 ∨ size = 8

namespace DataElement

mutual

/-- Integers of a size that has a type, and lengths that fit theirs. -/
def Fits : DataElement → Prop
  | unsignedInteger value size => IntegerSize size ∧ value.toNat < 256 ^ size.toNat
  | signedInteger value size => IntegerSize size ∧
      -2 ^ (8 * size.toNat - 1) ≤ value.toInt ∧ value.toInt < 2 ^ (8 * size.toNat - 1)
  | textString bytes => bytes.length < 2 ^ 32
  | url value => (utf8 value).length < 2 ^ 32
  | sequence items => AllFit items ∧ bodyLen items < 2 ^ 32
  | alternative items => AllFit items ∧ bodyLen items < 2 ^ 32
  | nil | .uuid _ | boolean _ => True

def AllFit : List DataElement → Prop
  | [] => True
  | item :: rest => Fits item ∧ AllFit rest

end

mutual

/-- The sequences around the deepest element. -/
def nesting : DataElement → Nat
  | sequence items => deepest items + 1
  | alternative items => deepest items + 1
  | nil | unsignedInteger .. | signedInteger .. | .uuid _ | textString _ | boolean _ | url _ => 0

def deepest : List DataElement → Nat
  | [] => 0
  | item :: rest => max (nesting item) (deepest rest)

end

end DataElement

/-! ## Lengths -/

theorem length_writeVariableHeader (typeCode : UInt8) (size : Nat) :
    (writeVariableHeader typeCode size).length = variableHeaderLen size := by
  unfold writeVariableHeader variableHeaderLen
  split_ifs
  · rfl
  · rw [length_cons, length_toBe]
  · rw [length_cons, length_toBe]

theorem length_toWireBytes (uuid : SdpUuid) : uuid.toWireBytes.length = uuid.wireLen := by
  cases uuid with
  | uuid16 => exact length_toBe ..
  | uuid32 => exact length_toBe ..
  | uuid128 bytes => exact bytes.rev.toList_length

variable {size : UInt8}

theorem length_lastBytes {value : Nat} {bytes : Bytes} (written : lastBytes value size =
  .ok bytes) :
    bytes.length = size.toNat := by
  unfold lastBytes at written
  split at written
  case isTrue small =>
    cases written
    have bound : size.toNat ≤ 8 := UInt8.le_iff_toNat_le.mp small
    rw [length_drop, length_toBe]
    omega
  case isFalse => contradiction

namespace DataElement

theorem length_writeInteger {typeCode : UInt8} {value : Nat} {size : UInt8} {bytes : Bytes}
    (written : writeInteger typeCode value size = .ok bytes) :
    bytes.length = 1 + size.toNat := by
  obtain ⟨octets, last, made⟩ := Rust.bind_eq_ok.mp written
  cases made
  rw [length_cons, length_lastBytes last, add_comm]

mutual

theorem length_toBytes : ∀ (element : DataElement) {bytes : Bytes},
    element.toBytes = .ok bytes → bytes.length = element.encodedLen
  | nil, _, rfl => rfl
  | unsignedInteger .., _, written => length_writeInteger written
  | signedInteger .., _, written => length_writeInteger written
  | .uuid value, _, rfl => by
    rw [length_cons, length_toWireBytes, encodedLen, add_comm]
  | boolean _, _, rfl => rfl
  | textString bytes, _, rfl => by
    rw [writeVariable, length_append, length_writeVariableHeader, encodedLen]
  | url value, _, rfl => by
    rw [writeVariable, length_append, length_writeVariableHeader, encodedLen]
  | sequence items, _, written
  | alternative items, _, written => by
    rw [toBytes] at written
    obtain ⟨body, inner, made⟩ := Rust.bind_eq_ok.mp written
    cases made
    rw [length_append, length_writeVariableHeader, length_writeItems items inner, encodedLen]

theorem length_writeItems : ∀ (items : List DataElement) {bytes : Bytes},
    writeItems items = .ok bytes → bytes.length = bodyLen items
  | [], _, rfl => rfl
  | item :: rest, _, written => by
    rw [writeItems] at written
    obtain ⟨first, head, written⟩ := Rust.bind_eq_ok.mp written
    obtain ⟨others, tail, made⟩ := Rust.bind_eq_ok.mp written
    cases made
    rw [length_append, length_toBytes item head, length_writeItems rest tail, bodyLen]

end

theorem variableHeaderLen_pos (size : Nat) : 0 < variableHeaderLen size := by
  unfold variableHeaderLen
  split_ifs <;> decide

theorem encodedLen_pos (element : DataElement) : 0 < element.encodedLen := by
  cases element with
  | nil | boolean => simp [encodedLen]
  | unsignedInteger | signedInteger | uuid => simp [encodedLen]
  | textString | url | sequence | alternative =>
    rw [encodedLen]
    exact Nat.add_pos_left (variableHeaderLen_pos _) _

end DataElement

/-! ## Integers -/

theorem lastBytes_of_integerSize (declared : IntegerSize size) (value : Nat) :
    lastBytes value size = .ok (toBe size.toNat value) := by
  rcases declared with rfl | rfl | rfl | rfl
  · exact congrArg Except.ok (drop_toBe 7 1 value)
  · exact congrArg Except.ok (drop_toBe 6 2 value)
  · exact congrArg Except.ok (drop_toBe 4 4 value)
  · exact congrArg Except.ok (drop_toBe 0 8 value)

theorem decodeUintBe_toBe {width : Nat} {value : UInt64} (fits : value.toNat < 256 ^ width) :
    decodeUintBe (toBe width value.toNat) = value := by
  rw [decodeUintBe, ofBe_replicate_zero, ofBe_toBe_of_lt fits, UInt64.ofNat_toNat]

theorem top_bit (byte : UInt8) : byte &&& 0x80 ≠ 0 ↔ 128 ≤ byte.toNat := by
  have masked : (byte &&& 0x80).toNat = (byte.toNat.testBit 7).toNat * 2 ^ 7 :=
    Nat.and_two_pow byte.toNat 7
  have small := byte.toNat_lt
  rw [Nat.testBit_eq_decide_div_mod_eq] at masked
  rw [ne_eq, ← UInt8.toNat_inj, masked]
  by_cases top : byte.toNat / 2 ^ 7 % 2 = 1
  · simp only [top, decide_true, Bool.toNat_true, UInt8.toNat_zero]
    omega
  · simp only [top, decide_false, Bool.toNat_false, UInt8.toNat_zero]
    omega

theorem toInt_eq (value : Int64) : value.toInt =
    if value.toUInt64.toNat < 2 ^ 63 then (value.toUInt64.toNat : Int)
    else value.toUInt64.toNat - 2 ^ 64 := by
  have whole : value.toInt = value.toBitVec.toInt := rfl
  have same : value.toUInt64.toNat = value.toBitVec.toNat := rfl
  rw [whole, same, BitVec.toInt_eq_toNat_cond]
  split_ifs <;> omega

theorem decodeIntBe_toBe (declared : IntegerSize size) {value : Int64}
    (least : -2 ^ (8 * size.toNat - 1) ≤ value.toInt)
    (greatest : value.toInt < 2 ^ (8 * size.toNat - 1)) :
    decodeIntBe (toBe size.toNat value.toUInt64.toNat) = value := by
  have bound := value.toUInt64.toNat_lt
  have signed := toInt_eq value
  have whole (n : Nat) (same : n = value.toUInt64.toNat) : (UInt64.ofNat n).toInt64 = value := by
    rw [same, UInt64.ofNat_toNat]
    rfl
  apply whole
  rw [length_toBe]
  generalize value.toUInt64.toNat = n at *
  obtain ⟨width, wide, small⟩ : ∃ width, size.toNat = width + 1 ∧ width < 8 := by
    rcases declared with rfl | rfl | rfl | rfl
    · exact ⟨0, rfl, by decide⟩
    · exact ⟨1, rfl, by decide⟩
    · exact ⟨3, rfl, by decide⟩
    · exact ⟨7, rfl, by decide⟩
  rw [wide] at least greatest ⊢
  have head : (toBe (width + 1) n).headD 0 &&& 0x80 ≠ 0 ↔ 128 ≤ n / 256 ^ width % 256 := by
    rw [toBe_cons, headD_cons, top_bit, UInt8.toNat_ofNat']
  simp only [head]
  split_ifs with negative
  · rw [ofBe_replicate_ones, ofBe_toBe, length_toBe]
    interval_cases width <;> norm_num at * <;> omega
  · rw [ofBe_replicate_zero, ofBe_toBe]
    interval_cases width <;> norm_num at * <;> omega

/-! ## Reading at an offset -/

section Offsets
variable (front back : Bytes)

theorem getElem?_at (n : Nat) : (front ++ back)[front.length + n]? = back[n]? := by
  rw [List.getElem?_append_right (Nat.le_add_right _ _), Nat.add_sub_cancel_left]

theorem getRange_at (middle : Bytes) :
    getRange (front ++ (middle ++ back)) front.length (front.length + middle.length) =
      some middle := by
  unfold getRange
  rw [if_pos ⟨Nat.le_add_right _ _, by simp⟩, ← append_assoc,
    take_append_of_le_length (by simp), take_of_length_le (by simp), drop_left]

end Offsets

theorem readHeader_fixed (front back : Bytes) {descriptor typeCode : UInt8} {length : Nat}
    (alone : readHeader [descriptor] 0 = some (typeCode, 1, length)) :
    readHeader (front ++ descriptor :: back) front.length =
      some (typeCode, front.length + 1, length) := by
  have here : (front ++ descriptor :: back)[front.length]? = some descriptor :=
    getElem?_at front (descriptor :: back) 0
  unfold readHeader at alone ⊢
  rw [here]
  simp only [List.getElem?_cons_zero, Option.bind_eq_bind, Option.bind_some, Nat.zero_add] at alone ⊢
  generalize descriptor &&& 7 = index at alone ⊢
  by_cases fixed : index = 0 ∨ index = 1 ∨ index = 2 ∨ index = 3 ∨ index = 4
  · rcases fixed with rfl | rfl | rfl | rfl | rfl
    all_goals
      cases Option.some.inj alone
      rfl
  · -- The length is not there to be read.
    obtain ⟨zero, one, two, three, four⟩ :
        index ≠ 0 ∧ index ≠ 1 ∧ index ≠ 2 ∧ index ≠ 3 ∧ index ≠ 4 := by
      simpa only [not_or] using fixed
    rw [if_neg zero, if_neg one, if_neg two, if_neg three, if_neg four] at alone
    split at alone
    · cases alone
    · split at alone <;> cases alone

/-- The types whose values are of any length. -/
def Variable (typeCode : UInt8) : Prop :=
  typeCode = 4 ∨ typeCode = 6 ∨ typeCode = 7 ∨ typeCode = 8

theorem readHeader_counted (front back length : Bytes) {descriptor : UInt8}
    (counts : descriptor &&& 7 = 5 ∧ length.length = 1 ∨ descriptor &&& 7 = 6 ∧ length.length = 2 ∨
      descriptor &&& 7 = 7 ∧ length.length = 4) :
    readHeader (front ++ (descriptor :: length ++ back)) front.length =
      some (descriptor >>> 3, front.length + 1 + length.length, ofBe length) := by
  have first : (front ++ (descriptor :: length ++ back))[front.length]? = some descriptor :=
    getElem?_at front (descriptor :: length ++ back) 0
  have rest : getRange (front ++ (descriptor :: length ++ back)) (front.length + 1)
      (front.length + 1 + length.length) = some length := by
    have here := getRange_at (front ++ [descriptor]) back length
    rwa [length_append, length_singleton, append_assoc] at here
  unfold readHeader
  rw [first]
  simp only [Option.bind_eq_bind, Option.bind_some]
  rcases counts with ⟨index, size⟩ | ⟨index, size⟩ | ⟨index, size⟩
  · obtain ⟨octet, rfl⟩ := List.length_eq_one_iff.mp size
    have next : (front ++ (descriptor :: [octet] ++ back))[front.length + 1]? = some octet :=
      getElem?_at front (descriptor :: [octet] ++ back) 1
    simp only [index, next, Option.bind_some]
    simp [ofBe]
  · rw [size] at rest ⊢
    simp only [index, rest, Option.bind_some]
    rfl
  · rw [size] at rest ⊢
    simp only [index, rest, Option.bind_some]
    rfl

theorem readHeader_variable (front back : Bytes) {typeCode : UInt8} (varies : Variable typeCode)
    {size : Nat} (fits : size < 2 ^ 32) :
    readHeader (front ++ (writeVariableHeader typeCode size ++ back)) front.length =
      some (typeCode, front.length + variableHeaderLen size, size) := by
  have kept (index : UInt8) (small : index = 5 ∨ index = 6 ∨ index = 7) :
      ((typeCode <<< 3) ||| index) >>> 3 = typeCode ∧ ((typeCode <<< 3) ||| index) &&& 7 = index := by
    rcases varies with rfl | rfl | rfl | rfl <;> rcases small with rfl | rfl | rfl <;> decide
  unfold writeVariableHeader variableHeaderLen
  split_ifs with short medium
  · obtain ⟨type, index⟩ := kept 5 (.inl rfl)
    have read := readHeader_counted front back (toBe 1 size) (.inl ⟨index, length_toBe ..⟩)
    rwa [type, ofBe_toBe_of_lt (show size < 256 ^ 1 by omega), length_toBe] at read
  · obtain ⟨type, index⟩ := kept 6 (.inr (.inl rfl))
    have read := readHeader_counted front back (toBe 2 size) (.inr (.inl ⟨index, length_toBe ..⟩))
    rwa [type, ofBe_toBe_of_lt (show size < 256 ^ 2 by omega), length_toBe] at read
  · obtain ⟨type, index⟩ := kept 7 (.inr (.inr rfl))
    have read := readHeader_counted front back (toBe 4 size) (.inr (.inr ⟨index, length_toBe ..⟩))
    rwa [type, ofBe_toBe_of_lt (show size < 256 ^ 4 by omega), length_toBe] at read

open DataElement

section Written
variable (front back : Bytes) {levels : Nat}

theorem parseElement_fixed {descriptor typeCode : UInt8} {value : Bytes} {element : DataElement}
    (header : readHeader [descriptor] 0 = some (typeCode, 1, value.length))
    (leaf : ¬ (typeCode = 6 ∨ typeCode = 7)) (parsed : parseValue typeCode value = some element) :
    parseElement (front ++ (descriptor :: value ++ back)) levels front.length =
      some (element, front.length + (1 + value.length)) := by
  have bytes := getRange_at (front ++ [descriptor]) back value
  rw [length_append, length_singleton, append_assoc] at bytes
  unfold parseElement
  rw [cons_append, readHeader_fixed front (value ++ back) header]
  simp only [Option.bind_eq_bind, Option.bind_some]
  rw [show descriptor :: (value ++ back) = [descriptor] ++ (value ++ back) from rfl, bytes]
  simp only [Option.bind_some, if_neg leaf, parsed, Nat.add_assoc]

theorem getRange_variable (typeCode : UInt8) (value : Bytes) :
    getRange (front ++ (writeVariableHeader typeCode value.length ++ value ++ back))
        (front.length + variableHeaderLen value.length)
        (front.length + variableHeaderLen value.length + value.length) = some value := by
  have bytes := getRange_at (front ++ writeVariableHeader typeCode value.length) back value
  rwa [length_append, length_writeVariableHeader, append_assoc, ← append_assoc _ value]
    at bytes

theorem parseElement_variable {typeCode : UInt8} {value : Bytes} {element : DataElement}
    (varies : Variable typeCode) (leaf : ¬ (typeCode = 6 ∨ typeCode = 7))
    (fits : value.length < 2 ^ 32) (parsed : parseValue typeCode value = some element) :
    parseElement (front ++ (writeVariable typeCode value ++ back)) levels front.length =
      some (element, front.length + (writeVariable typeCode value).length) := by
  have header := readHeader_variable front (value ++ back) varies fits
  unfold parseElement writeVariable
  rw [← append_assoc (writeVariableHeader typeCode value.length)] at header
  rw [header]
  simp only [Option.bind_eq_bind, Option.bind_some, getRange_variable, if_neg leaf, parsed]
  rw [length_append, length_writeVariableHeader, Nat.add_assoc]

theorem parseElement_integer {size : UInt8} (declared : IntegerSize size) {value : Nat}
    {bytes : Bytes} {element : DataElement} {typeCode : UInt8} (integer : typeCode = 1 ∨ typeCode = 2)
    (written : writeInteger typeCode value size = .ok bytes)
    (parsed : parseValue typeCode (toBe size.toNat value) = some element) :
    parseElement (front ++ (bytes ++ back)) levels front.length =
      some (element, front.length + bytes.length) := by
  rw [writeInteger, lastBytes_of_integerSize declared] at written
  cases written
  rw [length_cons, Nat.add_comm (toBe _ _).length]
  refine parseElement_fixed front back ?_ ?_ parsed
  · rw [length_toBe]
    rcases declared with rfl | rfl | rfl | rfl <;> rcases integer with rfl | rfl <;> rfl
  · rcases integer with rfl | rfl <;> decide

theorem fromWireBytes_toWireBytes (uuid : SdpUuid) :
    fromWireBytes uuid.toWireBytes = some uuid := by
  cases uuid with
  | uuid16 value =>
    have small := value.toNat_lt
    rw [fromWireBytes, toWireBytes, if_pos (length_toBe ..),
      ofBe_toBe_of_lt (by omega), UInt16.ofNat_toNat]
  | uuid32 value =>
    have small := value.toNat_lt
    rw [fromWireBytes, toWireBytes, if_neg (by rw [length_toBe]; decide),
      if_pos (length_toBe ..), ofBe_toBe_of_lt (by omega), UInt32.ofNat_toNat]
  | uuid128 bytes =>
    have sixteen : bytes.rev.toList.length = 16 := bytes.rev.toList_length
    rw [fromWireBytes, toWireBytes, if_neg (by rw [sixteen]; decide),
      if_neg (by rw [sixteen]; decide), Octets.tryFrom_toList]
    obtain ⟨list, length⟩ := bytes
    refine congrArg (some ∘ SdpUuid.uuid128) (Subtype.ext ?_)
    exact reverse_reverse list

theorem parseElement_uuid (uuid : SdpUuid) :
    parseElement (front ++ ((((3 : UInt8) <<< 3) ||| sizeIndexFixed uuid.wireLen) ::
        uuid.toWireBytes ++ back)) levels front.length =
      some (.uuid uuid, front.length + (1 + uuid.toWireBytes.length)) := by
  refine @parseElement_fixed front back _ _ 3 _ _ ?_ (by decide) ?_
  · rw [length_toWireBytes]
    cases uuid <;> simp only [wireLen] <;> rfl
  · exact congrArg (Option.map DataElement.uuid) (fromWireBytes_toWireBytes uuid)

end Written

/-! ## What is written is read -/

namespace DataElement

theorem writeInteger_ok {size : UInt8} (declared : IntegerSize size) (typeCode : UInt8)
    (value : Nat) : ∃ bytes, writeInteger typeCode value size = .ok bytes :=
  ⟨_, by rw [writeInteger, lastBytes_of_integerSize declared]; rfl⟩

mutual

theorem toBytes_ok : ∀ (element : DataElement), element.Fits → ∃ bytes, element.toBytes = .ok bytes
  | nil, _ | .uuid _, _ | boolean _, _ | textString _, _ | url _, _ => ⟨_, by rw [toBytes]⟩
  | unsignedInteger value size, fits => by
    rw [Fits] at fits
    obtain ⟨bytes, written⟩ := writeInteger_ok fits.1 1 value.toNat
    exact ⟨bytes, by rw [toBytes, written]⟩
  | signedInteger value size, fits => by
    rw [Fits] at fits
    obtain ⟨bytes, written⟩ := writeInteger_ok fits.1 2 value.toUInt64.toNat
    exact ⟨bytes, by rw [toBytes, written]⟩
  | sequence items, fits => by
    rw [Fits] at fits
    obtain ⟨body, written⟩ := writeItems_ok items fits.1
    exact ⟨_, by rw [toBytes, written]; rfl⟩
  | alternative items, fits => by
    rw [Fits] at fits
    obtain ⟨body, written⟩ := writeItems_ok items fits.1
    exact ⟨_, by rw [toBytes, written]; rfl⟩

theorem writeItems_ok : ∀ (items : List DataElement), AllFit items →
    ∃ bytes, writeItems items = .ok bytes
  | [], _ => ⟨[], by rw [writeItems]⟩
  | item :: rest, fits => by
    rw [AllFit] at fits
    obtain ⟨first, head⟩ := toBytes_ok item fits.1
    obtain ⟨others, tail⟩ := writeItems_ok rest fits.2
    exact ⟨first ++ others, by rw [writeItems, head, tail]; rfl⟩

end

end DataElement

theorem parseItems_cons {parse : Nat → Option (DataElement × Nat)} {item : DataElement}
    {items : List DataElement} {cursor next stop reached : Nat} (parsed : parse cursor = some (item, next))
    (advances : cursor < next) (within : next ≤ stop)
    (rest : parseItems parse stop next = some (items, reached)) :
    parseItems parse stop cursor = some (item :: items, reached) := by
  rw [parseItems, if_pos (advances.trans_le within), parsed]
  simp only [if_pos advances, rest, Option.map_some]

theorem parseElement_items (front back : Bytes) {levels : Nat} {typeCode : UInt8}
    (nested : typeCode = 6 ∨ typeCode = 7) {items : List DataElement} {body : Bytes}
    (fits : body.length < 2 ^ 32) (parsed : ∀ front : Bytes, parseItems
      (parseElement (front ++ (body ++ back)) levels) (front.length + body.length) front.length =
        some (items, front.length + body.length)) :
    let bytes := writeVariableHeader typeCode body.length ++ body
    parseElement (front ++ (bytes ++ back)) (levels + 1) front.length =
      some (if typeCode = 6 then .sequence items else .alternative items,
        front.length + bytes.length) := by
  have varies : Variable typeCode := by
    rcases nested with rfl | rfl
    · exact .inr (.inl rfl)
    · exact .inr (.inr (.inl rfl))
  have value := getRange_variable front back typeCode body
  have inner := parsed (front ++ writeVariableHeader typeCode body.length)
  rw [append_assoc] at value
  rw [length_append, length_writeVariableHeader, append_assoc] at inner
  simp only [length_append, length_writeVariableHeader, append_assoc, ← Nat.add_assoc]
  unfold parseElement
  rw [readHeader_variable front (body ++ back) varies fits]
  simp only [Option.bind_eq_bind, Option.bind_some, value, if_pos nested, inner]
  rw [if_neg (not_not.mpr rfl)]

mutual

theorem parseElement_written : ∀ (element : DataElement), element.Fits → ∀ {levels : Nat},
    element.nesting ≤ levels → ∀ {bytes : Bytes}, element.toBytes = .ok bytes →
    ∀ front back : Bytes, parseElement (front ++ (bytes ++ back)) levels front.length =
      some (element, front.length + bytes.length)
  | .nil, _, _, _, _, rfl, front, back =>
    @parseElement_fixed front back _ 0 0 [] _ rfl (by decide) rfl
  | .boolean value, _, _, _, _, rfl, front, back => by
    apply @parseElement_fixed front back _ 40 5 [bit value] _ rfl (by decide)
    cases value <;> rfl
  | .uuid value, _, _, _, _, rfl, front, back => by
    rw [length_cons, Nat.add_comm value.toWireBytes.length]
    exact parseElement_uuid front back value
  | .textString value, fits, _, _, _, rfl, front, back => by
    rw [DataElement.Fits] at fits
    exact parseElement_variable front back (.inl rfl) (by decide) fits rfl
  | .url value, fits, _, _, _, rfl, front, back => by
    rw [DataElement.Fits] at fits
    apply parseElement_variable front back (.inr (.inr (.inr rfl))) (by decide) fits
    exact congrArg (Option.map url) (fromUtf8_utf8 value)
  | .unsignedInteger value size, fits, _, _, _, written, front, back => by
    rw [DataElement.Fits] at fits
    apply parseElement_integer front back fits.1 (.inl rfl) written
    have whole : isIntegerLen size.toNat = true := by
      rcases fits.1 with rfl | rfl | rfl | rfl <;> rfl
    simp [parseValue, whole, decodeUintBe_toBe fits.2]
  | .signedInteger value size, fits, _, _, _, written, front, back => by
    rw [DataElement.Fits] at fits
    apply parseElement_integer front back fits.1 (.inr rfl) written
    have whole : isIntegerLen size.toNat = true := by
      rcases fits.1 with rfl | rfl | rfl | rfl <;> rfl
    simp [parseValue, whole, decodeIntBe_toBe fits.1 fits.2.1 fits.2.2]
  | .sequence items, fits, levels, shallow, bytes, written, front, back => by
    rw [DataElement.Fits] at fits
    rw [nesting] at shallow
    rw [toBytes] at written
    obtain ⟨body, inner, made⟩ := Rust.bind_eq_ok.mp written
    cases made
    obtain ⟨below, rfl⟩ := Nat.exists_eq_add_of_le' shallow
    rw [← length_writeItems items inner] at fits ⊢
    exact parseElement_items front back (.inl rfl) fits.2 fun front =>
      parseItems_written items fits.1 (Nat.le_add_left _ below) inner front back
  | .alternative items, fits, levels, shallow, bytes, written, front, back => by
    rw [DataElement.Fits] at fits
    rw [nesting] at shallow
    rw [toBytes] at written
    obtain ⟨body, inner, made⟩ := Rust.bind_eq_ok.mp written
    cases made
    obtain ⟨below, rfl⟩ := Nat.exists_eq_add_of_le' shallow
    rw [← length_writeItems items inner] at fits ⊢
    exact parseElement_items front back (.inr rfl) fits.2 fun front =>
      parseItems_written items fits.1 (Nat.le_add_left _ below) inner front back

theorem parseItems_written : ∀ (items : List DataElement), DataElement.AllFit items →
    ∀ {levels : Nat}, deepest items ≤ levels → ∀ {bytes : Bytes},
    writeItems items = .ok bytes → ∀ front back : Bytes,
    parseItems (parseElement (front ++ (bytes ++ back)) levels) (front.length + bytes.length)
      front.length = some (items, front.length + bytes.length)
  | [], _, _, _, _, rfl, front, back => by
    rw [parseItems, if_neg (by simp)]
    rfl
  | item :: rest, fits, levels, shallow, _, written, front, back => by
    rw [DataElement.AllFit] at fits
    rw [deepest] at shallow
    rw [writeItems] at written
    obtain ⟨first, head, written⟩ := Rust.bind_eq_ok.mp written
    obtain ⟨others, tail, made⟩ := Rust.bind_eq_ok.mp written
    cases made
    have here := parseElement_written item fits.1 (le_of_max_le_left shallow) head front
      (others ++ back)
    have behind := parseItems_written rest fits.2 (le_of_max_le_right shallow) tail
      (front ++ first) back
    have positive : 0 < first.length := by
      rw [length_toBytes item head]
      exact item.encodedLen_pos
    rw [length_append] at behind
    simp only [append_assoc] at behind ⊢
    rw [length_append, ← Nat.add_assoc]
    exact parseItems_cons here (by omega) (by omega) behind

end

end Simble.Sdp
