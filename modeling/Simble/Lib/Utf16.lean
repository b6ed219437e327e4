import Mathlib.Data.Char
import Mathlib.Data.List.TakeWhile
import Mathlib.Tactic.NormNum

/-! UTF-16: the units of a text, and the text of any units, where a surrogate
without its partner becomes the replacement character. -/
namespace Simble.Lib.Utf16

def units (c : Char) : List UInt16 :=
  if c.toNat < 0x10000 then [UInt16.ofNat c.toNat]
  else [UInt16.ofNat (0xD800 + (c.toNat - 0x10000) / 0x400),
    UInt16.ofNat (0xDC00 + (c.toNat - 0x10000) % 0x400)]

def encode (text : List Char) : List UInt16 := text.flatMap units

def replacement : Char := '\uFFFD'

def decodeLossy : List UInt16 → List Char
  | [] => []
  | [unit] =>
    [if unit.toNat < 0xD800 ∨ 0xDFFF < unit.toNat then Char.ofNat unit.toNat else replacement]
  | unit :: next :: rest =>
    if unit.toNat < 0xD800 ∨ 0xDFFF < unit.toNat then
      Char.ofNat unit.toNat :: decodeLossy (next :: rest)
    else if unit.toNat < 0xDC00 ∧ 0xDC00 ≤ next.toNat ∧ next.toNat ≤ 0xDFFF then
      Char.ofNat (0x10000 + (unit.toNat - 0xD800) * 0x400 + (next.toNat - 0xDC00)) ::
        decodeLossy rest
    else replacement :: decodeLossy (next :: rest)

theorem decodeLossy_plain {unit : UInt16} (plain : unit.toNat < 0xD800 ∨ 0xDFFF < unit.toNat)
    (rest : List UInt16) :
    decodeLossy (unit :: rest) = Char.ofNat unit.toNat :: decodeLossy rest := by
  cases rest with
  | nil => simp only [decodeLossy, if_pos plain]
  | cons next rest => rw [decodeLossy, if_pos plain]

theorem decodeLossy_pair {high low : UInt16} (first : 0xD800 ≤ high.toNat)
    (second : high.toNat < 0xDC00) (third : 0xDC00 ≤ low.toNat) (fourth : low.toNat ≤ 0xDFFF)
    (rest : List UInt16) :
    decodeLossy (high :: low :: rest) =
      Char.ofNat (0x10000 + (high.toNat - 0xD800) * 0x400 + (low.toNat - 0xDC00)) ::
        decodeLossy rest := by
  rw [decodeLossy, if_neg (by omega), if_pos ⟨second, third, fourth⟩]

variable (c : Char)

/-- A character is not a surrogate. -/
theorem toNat_plain : c.toNat < 0xD800 ∨ 0xDFFF < c.toNat ∧ c.toNat < 0x110000 := by
  have valid := c.valid
  rcases valid with low | ⟨above, below⟩
  · exact .inl low
  · exact .inr ⟨above, below⟩

theorem toNat_high : (UInt16.ofNat (0xD800 + (c.toNat - 0x10000) / 0x400)).toNat =
    0xD800 + (c.toNat - 0x10000) / 0x400 := by
  apply UInt16.toNat_ofNat_of_lt'
  show _ < 65536
  have plain := toNat_plain c
  omega

theorem toNat_low : (UInt16.ofNat (0xDC00 + (c.toNat - 0x10000) % 0x400)).toNat =
    0xDC00 + (c.toNat - 0x10000) % 0x400 := by
  apply UInt16.toNat_ofNat_of_lt'
  show _ < 65536
  omega

theorem decodeLossy_units (rest : List UInt16) :
    decodeLossy (units c ++ rest) = c :: decodeLossy rest := by
  have plain := toNat_plain c
  unfold units
  split_ifs with short
  · have unit : (UInt16.ofNat c.toNat).toNat = c.toNat := UInt16.toNat_ofNat_of_lt' short
    rw [List.singleton_append, decodeLossy_plain (by omega), unit, Char.ofNat_toNat]
  · have high := toNat_high c
    have low := toNat_low c
    rw [List.cons_append, List.singleton_append,
      decodeLossy_pair (by omega) (by omega) (by omega) (by omega), high, low]
    have whole : 0x10000 + (0xD800 + (c.toNat - 0x10000) / 0x400 - 0xD800) * 0x400 +
        (0xDC00 + (c.toNat - 0x10000) % 0x400 - 0xDC00) = c.toNat := by omega
    rw [whole, Char.ofNat_toNat]

theorem decodeLossy_encode (text : List Char) : decodeLossy (encode text) = text := by
  induction text with
  | nil => rfl
  | cons c text ih =>
    rw [encode, List.flatMap_cons, decodeLossy_units]
    exact congrArg _ ih

theorem zero_mem_units : 0 ∈ units c → c = '\x00' := by
  intro mem
  have plain := toNat_plain c
  unfold units at mem
  split_ifs at mem with short
  · have unit : (UInt16.ofNat c.toNat).toNat = c.toNat := UInt16.toNat_ofNat_of_lt' short
    rw [List.mem_singleton] at mem
    rw [← mem] at unit
    exact Char.ext (UInt32.toNat_inj.mp unit.symm)
  · rcases List.mem_cons.mp mem with zero | mem
    · have same := congrArg UInt16.toNat zero
      rw [toNat_high c, UInt16.toNat_zero] at same
      omega
    · have same := congrArg UInt16.toNat (List.mem_singleton.mp mem)
      rw [toNat_low c, UInt16.toNat_zero] at same
      omega

/-- Only the character NUL has a unit that is zero. -/
theorem zero_not_mem_encode {text : List Char} (clean : '\x00' ∉ text) : 0 ∉ encode text := by
  intro mem
  obtain ⟨c, inside, zero⟩ := List.mem_flatMap.mp mem
  exact clean (zero_mem_units c zero ▸ inside)

end Simble.Lib.Utf16
