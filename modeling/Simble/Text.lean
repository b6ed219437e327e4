import Simble.Rust

/-! Strings of the Rust code as the octets they are made of. -/
namespace Simble

def utf8 (text : String) : Bytes := text.toByteArray.data.toList

/-- `String::from_utf8` -/
def fromUtf8 (bytes : Bytes) : Option String := String.fromUTF8? ⟨bytes.toArray⟩

/-- What may stand second in a character that begins with the octet, and how many
octets follow that one. -/
def utf8Second (first : UInt8) : Option (UInt8 × UInt8 × Nat) :=
  if 0xC2 ≤ first ∧ first ≤ 0xDF then some (0x80, 0xBF, 0)
  else if first = 0xE0 then some (0xA0, 0xBF, 1)
  else if first = 0xED then some (0x80, 0x9F, 1)
  else if 0xE1 ≤ first ∧ first ≤ 0xEF then some (0x80, 0xBF, 1)
  else if first = 0xF0 then some (0x90, 0xBF, 2)
  else if 0xF1 ≤ first ∧ first ≤ 0xF3 then some (0x80, 0xBF, 2)
  else if first = 0xF4 then some (0x80, 0x8F, 2)
  else none

/-- How many octets belong together at the beginning, and whether they are a character. -/
def utf8Prefix (first : UInt8) (rest : Bytes) : Nat × Bool :=
  if first < 0x80 then (1, true)
  else
    match utf8Second first, rest with
    | some (least, greatest, more), second :: others =>
      if least ≤ second ∧ second ≤ greatest then
        let found := ((others.take more).takeWhile fun byte => byte &&& 0xC0 = 0x80).length
        (2 + found, found = more)
      else (1, false)
    | _, _ => (1, false)

def lossyChars : Bytes → List Char
  | [] => []
  | first :: rest =>
    let (size, whole) := utf8Prefix first rest
    (if whole then ((fromUtf8 (first :: rest.take (size - 1))).bind (·.toList.head?)).getD '\uFFFD'
      else '\uFFFD') :: lossyChars (rest.drop (size - 1))
termination_by bytes => bytes.length
decreasing_by
  rw [List.length_drop]
  exact Nat.lt_succ_of_le (Nat.sub_le _ _)

def fromUtf8Lossy (bytes : Bytes) : String :=
  match fromUtf8 bytes with
  | some text => text
  | none => String.ofList (lossyChars bytes)

theorem fromUtf8_utf8 (text : String) : fromUtf8 (utf8 text) = some text := by
  have same : (⟨(utf8 text).toArray⟩ : ByteArray) = text.toByteArray := rfl
  rw [fromUtf8, same, String.fromUTF8?, dif_pos text.isValidUTF8]
  rfl

theorem fromUtf8Lossy_utf8 (text : String) : fromUtf8Lossy (utf8 text) = text := by
  rw [fromUtf8Lossy, fromUtf8_utf8]

theorem utf8_append (first second : String) : utf8 (first ++ second) = utf8 first ++ utf8 second := by
  rw [utf8, String.toByteArray_append]
  simp [utf8]

theorem utf8_eq (text : String) : utf8 text = text.toList.flatMap String.utf8EncodeChar := by
  rw [utf8, ← String.utf8Encode_toList, List.utf8Encode, List.toList_data_toByteArray]

theorem mem_utf8_ascii {text : String} {byte : UInt8} (ascii : byte.toNat < 0x80)
    (inside : byte ∈ utf8 text) : ∃ c ∈ text.toList, c.toNat = byte.toNat := by
  rw [utf8_eq] at inside
  obtain ⟨c, among, inside⟩ := List.mem_flatMap.mp inside
  refine ⟨c, among, ?_⟩
  have same : c.toNat = c.val.toNat := rfl
  unfold String.utf8EncodeChar at inside
  simp only at inside
  split at inside
  · obtain rfl := List.mem_singleton.mp inside
    rw [UInt8.toNat_ofNat', same]
    omega
  split at inside
  on_goal 2 => split at inside
  all_goals
    simp only [List.mem_cons, List.not_mem_nil, or_false] at inside
    rcases inside with rfl | rfl | rfl | rfl <;> rw [UInt8.toNat_ofNat'] at ascii <;> omega

end Simble
