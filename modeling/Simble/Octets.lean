import Mathlib.Data.Vector.Zip
import Simble.Rust

/-! Byte arrays `[u8; N]`, the conversions between them and slices, and the
Bluetooth device address, which is one. -/
namespace Simble

abbrev Octets (n : Nat) := List.Vector UInt8 n

namespace Octets
variable {n : Nat}

/-- `[0; N]`. -/
def zero : Octets n := List.Vector.replicate n 0

/-- `<[u8; N]>::try_from(slice).ok()`. -/
def tryFrom (n : Nat) (slice : Bytes) : Option (Octets n) :=
  if fits : slice.length = n then some ⟨slice, fits⟩ else none

@[simp] theorem tryFrom_toList (octets : Octets n) : tryFrom n octets.toList = some octets :=
  dif_pos octets.2

@[simp] theorem take_toList (octets : Octets n) : octets.toList.take n = octets.toList :=
  List.take_of_length_le (by simp)

def rev (octets : Octets n) : Octets n := List.Vector.reverse octets

def xor (a b : Octets n) : Octets n := List.Vector.zipWith (· ^^^ ·) a b

end Octets

namespace U16

def toLeBytes (value : UInt16) : Bytes := [value.toUInt8, (value >>> 8).toUInt8]

def fromLeBytes (low high : UInt8) : UInt16 := low.toUInt16 ||| (high.toUInt16 <<< 8)

@[simp] theorem fromLeBytes_toLeBytes (value : UInt16) :
    fromLeBytes value.toUInt8 (value >>> 8).toUInt8 = value := by
  apply UInt16.toNat_inj.mp
  have small := value.toNat_lt
  have joined : value.toNat % 256 ||| 2 ^ 8 * (value.toNat / 256) = value.toNat := by
    rw [Nat.or_comm, ← Nat.two_pow_add_eq_or_of_lt (by omega)]
    omega
  have high : value.toNat / 256 % 256 * 256 % 65536 = 2 ^ 8 * (value.toNat / 256) := by omega
  rw [← high] at joined
  simpa [fromLeBytes, Nat.shiftLeft_eq, Nat.shiftRight_eq_div_pow] using joined

def toBeBytes (value : UInt16) : Bytes := [(value >>> 8).toUInt8, value.toUInt8]

def fromBeBytes (high low : UInt8) : UInt16 := fromLeBytes low high

@[simp] theorem fromBeBytes_toBeBytes (value : UInt16) :
    fromBeBytes (value >>> 8).toUInt8 value.toUInt8 = value := fromLeBytes_toLeBytes value

end U16

/-- `Option::unwrap` and `Option::expect`. -/
def unwrap {α : Type} : Option α → Rust α
  | some value => .ok value
  | none => .error .panic

@[simp] theorem unwrap_some {α : Type} (value : α) : unwrap (some value) = .ok value := rfl

@[simp] theorem unwrap_none {α : Type} : unwrap (none : Option α) = .error .panic := rfl

structure Address where
  bytes : Octets 6
deriving DecidableEq

namespace Address

def any : Address := ⟨.zero⟩

end Address

inductive AddressType where
  | publicDevice
  | randomDevice
  | publicIdentity
  | randomIdentity
deriving DecidableEq, Repr

end Simble
