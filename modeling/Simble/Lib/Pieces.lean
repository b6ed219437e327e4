import Mathlib.Data.PNat.Basic

/-! Lists taken apart from the front in pieces of one size, the last of which
may be shorter. -/
namespace Simble.Lib
open List

variable {α : Type*} (size : ℕ+)

/-- Induction over the pieces of a list. -/
@[elab_as_elim]
theorem piecewise {motive : List α → Prop}
    (last : ∀ list : List α, list.length ≤ size → motive list)
    (more : ∀ list : List α, size < list.length → motive (list.drop size) → motive list)
    (list : List α) : motive list := by
  have pos := size.pos
  induction count : list.length using Nat.strong_induction_on generalizing list with
  | _ count ih =>
    rcases Nat.lt_or_ge size list.length with exceeds | fits
    · apply more _ exceeds
      apply ih _ _ _ rfl
      rw [length_drop]
      omega
    · exact last _ fits

/-- `usize::div_ceil`: how many pieces there are. -/
def divCeil (a b : Nat) : Nat := (a + b - 1) / b

variable {a b : Nat}

theorem divCeil_of_le (positive : 0 < a) (fits : a ≤ b) : divCeil a b = 1 :=
  Nat.div_eq_of_lt_le (by omega) (by omega)

theorem divCeil_of_lt (positive : 0 < b) (exceeds : b < a) :
    divCeil a b = divCeil (a - b) b + 1 := by
  have split : a + b - 1 = (a - b + b - 1) + b := by omega
  rw [divCeil, divCeil, split, Nat.add_div_right _ positive]

theorem divCeil_pos (positive : 0 < b) (nonzero : 0 < a) : 0 < divCeil a b :=
  Nat.div_pos (by omega) positive

/-- `slice::chunks` -/
def pieces (list : List α) : List (List α) :=
  (List.range (divCeil list.length size)).map fun index =>
    (list.drop (index * size)).take size

variable {size}

theorem pieces_of_le {list : List α} (nonempty : 0 < list.length) (fits : list.length ≤ size) :
    pieces size list = [list] := by
  rw [pieces, divCeil_of_le nonempty fits]
  simp [take_of_length_le fits]

theorem pieces_of_lt {list : List α} (exceeds : size < list.length) :
    pieces size list = list.take size :: pieces size (list.drop size) := by
  rw [pieces, pieces, divCeil_of_lt size.pos exceeds, range_succ_eq_map, length_drop]
  simp only [map_cons, map_map, Nat.zero_mul, drop_zero]
  congr 1
  apply map_congr_left
  intro index _
  rw [Function.comp_apply, drop_drop, Nat.succ_mul, Nat.add_comm]

theorem pieces_spec (size : ℕ+) (list : List α) :
    (pieces size list).flatten = list ∧
      ∀ piece ∈ pieces size list, piece ≠ [] ∧ piece.length ≤ size := by
  induction list using piecewise size with
  | last list fits =>
    cases list with
    | nil =>
      have none : divCeil 0 size = 0 := Nat.div_eq_of_lt (by have := size.pos; omega)
      simp [pieces, none]
    | cons first rest =>
      rw [pieces_of_le (by simp) fits]
      simpa using fits
  | more list exceeds ih =>
    have pos := size.pos
    rw [pieces_of_lt exceeds]
    refine ⟨by rw [flatten_cons, ih.1, take_append_drop], ?_⟩
    intro piece inside
    rcases mem_cons.mp inside with rfl | inside
    · have length : (list.take size).length = size := length_take_of_le exceeds.le
      exact ⟨ne_nil_of_length_pos (by omega), length.le⟩
    · exact ih.2 piece inside

end Simble.Lib
