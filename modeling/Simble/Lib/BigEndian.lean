import Mathlib.Data.List.Induction
import Mathlib.Tactic.Ring

/-! Numbers as octets, the most significant one first. -/
namespace Simble.Lib
open List

/-- The last `width` octets of a number. -/
def toBe : (width : Nat) → (n : Nat) → List UInt8
  | 0, _ => []
  | width + 1, n => toBe width (n / 256) ++ [UInt8.ofNat n]

def ofBe (bytes : List UInt8) : Nat := bytes.foldl (fun n byte => 256 * n + byte.toNat) 0

variable (width n : Nat)

@[simp] theorem length_toBe : (toBe width n).length = width := by
  induction width generalizing n with
  | zero => rfl
  | succ width ih => rw [toBe, length_append, ih, length_singleton]

@[simp] theorem ofBe_nil : ofBe [] = 0 := rfl

theorem ofBe_concat (bytes : List UInt8) (byte : UInt8) :
    ofBe (bytes ++ [byte]) = 256 * ofBe bytes + byte.toNat := by
  rw [ofBe, foldl_append]
  rfl

theorem ofBe_append (front back : List UInt8) :
    ofBe (front ++ back) = 256 ^ back.length * ofBe front + ofBe back := by
  induction back using List.reverseRecOn with
  | nil => simp
  | append_singleton back byte ih =>
    rw [← append_assoc, ofBe_concat, ih, ofBe_concat, length_append,
      length_singleton]
    ring

theorem ofBe_toBe : ofBe (toBe width n) = n % 256 ^ width := by
  induction width generalizing n with
  | zero => rw [toBe, ofBe_nil, pow_zero, Nat.mod_one]
  | succ width ih =>
    have split : n % 256 ^ (width + 1) = n % 256 + 256 * (n / 256 % 256 ^ width) := by
      rw [pow_succ, mul_comm, Nat.mod_mul]
    rw [toBe, ofBe_concat, ih, split, UInt8.toNat_ofNat', add_comm]

theorem ofBe_toBe_of_lt {width n : Nat} (fits : n < 256 ^ width) : ofBe (toBe width n) = n := by
  rw [ofBe_toBe, Nat.mod_eq_of_lt fits]

theorem ofBe_lt (bytes : List UInt8) : ofBe bytes < 256 ^ bytes.length := by
  induction bytes using List.reverseRecOn with
  | nil => decide
  | append_singleton bytes byte ih =>
    have small := byte.toNat_lt
    rw [ofBe_concat, length_append, length_singleton, pow_succ]
    omega

theorem toBe_ofBe (bytes : List UInt8) : toBe bytes.length (ofBe bytes) = bytes := by
  induction bytes using List.reverseRecOn with
  | nil => rfl
  | append_singleton bytes byte ih =>
    have small := byte.toNat_lt
    have front : (256 * ofBe bytes + byte.toNat) / 256 = ofBe bytes := by omega
    have last : UInt8.ofNat (256 * ofBe bytes + byte.toNat) = byte := by
      apply UInt8.toNat_inj.mp
      rw [UInt8.toNat_ofNat']
      omega
    rw [length_append, length_singleton, ofBe_concat, toBe, front, last, ih]

theorem drop_toBe (extra width n : Nat) : (toBe (extra + width) n).drop extra = toBe width n := by
  induction width generalizing n with
  | zero => exact drop_eq_nil_of_le (by rw [length_toBe, add_zero])
  | succ width ih =>
    rw [← add_assoc, toBe, drop_append_of_le_length (by rw [length_toBe]; omega), ih]
    rfl

theorem ofBe_replicate_zero (count : Nat) (bytes : List UInt8) :
    ofBe (List.replicate count 0 ++ bytes) = ofBe bytes := by
  have zeros : ofBe (List.replicate count 0) = 0 := by
    induction count with
    | zero => rfl
    | succ count ih => rw [replicate_succ', ofBe_concat, ih]; rfl
  rw [ofBe_append, zeros, mul_zero, zero_add]

theorem ofBe_replicate_ones (count : Nat) (bytes : List UInt8) :
    ofBe (List.replicate count 0xFF ++ bytes) =
      256 ^ bytes.length * (256 ^ count - 1) + ofBe bytes := by
  have ones : ofBe (List.replicate count 0xFF) = 256 ^ count - 1 := by
    induction count with
    | zero => rfl
    | succ count ih =>
      rw [replicate_succ', ofBe_concat, ih, pow_succ]
      have positive : 0 < 256 ^ count := Nat.pow_pos (by decide)
      have last : (0xFF : UInt8).toNat = 255 := rfl
      omega
  rw [ofBe_append, ones]

/-- The first octet is the number without the others. -/
theorem toBe_cons :
    toBe (width + 1) n = UInt8.ofNat (n / 256 ^ width) :: toBe width n := by
  induction width generalizing n with
  | zero => simp [toBe]
  | succ width ih =>
    rw [toBe, ih, Nat.div_div_eq_div_mul, ← pow_succ', cons_append]
    rfl

end Simble.Lib
