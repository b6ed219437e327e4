import Mathlib.Data.List.AList

/-! What a call of the Rust code can come to besides a value: an `Err`, a panic (an overflowing
`+` or `-` of a fixed-width integer, a failed `expect`), or a loop that never ends. Methods that
return `Err` are modelled as leaving their receiver unchanged: each returns its error before its
first assignment. -/
namespace Simble

abbrev Bytes := List UInt8

/-- The error values of `types/error.rs` that the modelled code returns. -/
inductive SimbleError where
  | deviceError (message : String)
  | packetParseError (message : String)
deriving DecidableEq, Repr

inductive Stop where
  | err (error : SimbleError)
  | panic
  | diverge
deriving DecidableEq, Repr

abbrev Rust (α : Type) := Except Stop α

variable {α β : Type}

@[simp] theorem Rust.ok_bind (value : α) (next : α → Rust β) :
    (Except.ok value >>= next) = next value := rfl

@[simp] theorem Rust.error_bind (stop : Stop) (next : α → Rust β) :
    (Except.error stop >>= next) = .error stop := rfl

theorem Rust.bind_eq_ok {call : Rust α} {next : α → Rust β} {result : β} :
    (call >>= next) = .ok result ↔ ∃ value, call = .ok value ∧ next value = .ok result := by
  cases call <;> simp

/-- A `HashMap` from the code, without its iteration order. -/
abbrev Map (κ ν : Type) [DecidableEq κ] := AList fun _ : κ => ν

namespace U8

/-- `a + b` on `u8` with overflow checks. -/
def add (a b : Nat) : Rust Nat := if a + b ≤ 255 then .ok (a + b) else .error .panic

/-- `a - b` on `u8` with overflow checks. -/
def sub (a b : Nat) : Rust Nat := if b ≤ a then .ok (a - b) else .error .panic

def saturatingAdd (a b : Nat) : Nat := min (a + b) 255

def saturatingSub (a b : Nat) : Nat := a - b

variable {a b : Nat}

theorem add_ok (fits : a + b ≤ 255) : add a b = .ok (a + b) := if_pos fits

theorem sub_ok (fits : b ≤ a) : sub a b = .ok (a - b) := if_pos fits

theorem saturatingAdd_eq (fits : a + b ≤ 255) : saturatingAdd a b = a + b :=
  Nat.min_eq_left fits

end U8

/-- `data.get(start..stop)`. -/
def getRange (data : Bytes) (start stop : Nat) : Option Bytes :=
  if start ≤ stop ∧ stop ≤ data.length then some ((data.take stop).drop start) else none

/-- `flag as u8`. -/
def bit (flag : Bool) : UInt8 := if flag then 1 else 0

/-- `{:#04x}`: a byte as `0x` and two lower-case hexadecimal digits. -/
def hexByte (value : UInt8) : String :=
  let digit (n : Nat) : Char := "0123456789abcdef".toList.getD n '0'
  "0x" ++ String.ofList [digit (value.toNat / 16), digit (value.toNat % 16)]

/-- `{:#06x}`: a 16-bit value as `0x` and four lower-case hexadecimal digits. -/
def hexWord (value : UInt16) : String :=
  let digit (n : Nat) : Char := "0123456789abcdef".toList.getD (n % 16) '0'
  "0x" ++ String.ofList [digit (value.toNat / 4096), digit (value.toNat / 256),
    digit (value.toNat / 16), digit value.toNat]

end Simble
