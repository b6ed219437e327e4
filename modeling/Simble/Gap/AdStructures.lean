import Simble.Rust

/-! AD structures, of which an advertising payload is made, and `ad_structures` of
`gap/advertising.rs`, which walks them. -/
namespace Simble.Gap

/-- The structures at the front of `data`, up to the first that is malformed or empty. -/
def adStructures : Bytes → List (UInt8 × Bytes)
  | length :: adType :: rest =>
    if length = 0 then []
    else if rest.length < length.toNat - 1 then []
    else (adType, rest.take (length.toNat - 1)) :: adStructures (rest.drop (length.toNat - 1))
  | _ => []
termination_by data => data.length
decreasing_by
  rw [List.length_drop, List.length_cons, List.length_cons]
  omega

def adStructure (adType : UInt8) (value : Bytes) : Bytes :=
  UInt8.ofNat (1 + value.length) :: adType :: value

@[simp] theorem length_adStructure (adType : UInt8) (value : Bytes) :
    (adStructure adType value).length = 2 + value.length := by
  rw [adStructure, List.length_cons, List.length_cons]
  omega

@[simp] theorem adStructures_nil : adStructures [] = [] := by
  rw [adStructures]
  rintro _ _ _ ⟨⟩

theorem adStructures_adStructure (adType : UInt8) {value : Bytes} (fits : value.length ≤ 254)
    (rest : Bytes) :
    adStructures (adStructure adType value ++ rest) = (adType, value) :: adStructures rest := by
  have length : (UInt8.ofNat (1 + value.length)).toNat = 1 + value.length := by
    rw [UInt8.toNat_ofNat']
    omega
  have some : UInt8.ofNat (1 + value.length) ≠ 0 := by
    intro zero
    rw [zero, UInt8.toNat_zero] at length
    omega
  rw [adStructure, List.cons_append, List.cons_append, adStructures, if_neg some, length,
    if_neg (by rw [List.length_append]; omega), Nat.add_sub_cancel_left, List.take_left,
    List.drop_left]

end Simble.Gap
