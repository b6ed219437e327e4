import Mathlib.Data.List.Basic

/-! Frames that come in pieces: what an extractor takes from the octets that have
come, and what it leaves for those that are to come. -/
namespace Simble.Lib
open List

section Framing
variable {α : Type} {frame : List α → List α} {extract : List α → List (List α) × List α}
  {Clean : List α → Prop}

section Whole
variable (none : extract [] = ([], []))
  (whole : ∀ line rest, Clean line → extract (frame line ++ rest) = (line :: (extract rest).1,
    (extract rest).2))
include none whole

theorem exists_taken
    (part : ∀ line front back, Clean line → front ++ back = frame line → back ≠ [] →
      extract front = ([], front))
    {lines : List (List α)} (clean : ∀ line ∈ lines, Clean line) {front back : List α}
    (split : front ++ back = lines.flatMap frame) : ∃ later,
      lines = (extract front).1 ++ later ∧ (extract front).2 ++ back = later.flatMap frame ∧
      extract (extract front).2 = ([], (extract front).2) := by
  induction lines generalizing front with
  | nil =>
    obtain ⟨rfl, rfl⟩ := append_eq_nil_iff.mp split
    rw [none]
    exact ⟨[], rfl, rfl, none⟩
  | cons line rest ih =>
    have here := clean line mem_cons_self
    have others : ∀ other ∈ rest, Clean other := fun other inside =>
      clean other (mem_cons_of_mem _ inside)
    rw [flatMap_cons] at split
    rcases append_eq_append_iff.mp split with ⟨missing, inside, later⟩ | ⟨more, beyond, later⟩
    · by_cases complete : missing = []
      · subst complete
        rw [append_nil] at inside
        rw [nil_append] at later
        obtain ⟨left, same, kept, -⟩ := @ih others [] later
        rw [none] at same kept
        have taken := whole line [] here
        rw [append_nil, none] at taken
        rw [← inside, taken]
        exact ⟨left, congrArg (line :: ·) same, kept, none⟩
      · have short := part line front missing here inside.symm complete
        rw [short]
        exact ⟨line :: rest, rfl, by rw [split, flatMap_cons], short⟩
    · obtain ⟨left, same, kept, short⟩ := ih others later.symm
      rw [beyond, whole line more here]
      exact ⟨left, congrArg (line :: ·) same, kept, short⟩

theorem extract_flatMap {lines : List (List α)} (clean : ∀ line ∈ lines, Clean line) :
    extract (lines.flatMap frame) = (lines, []) := by
  induction lines with
  | nil => exact none
  | cons line rest ih =>
    rw [flatMap_cons, whole line _ (clean line mem_cons_self),
      ih fun other inside => clean other (mem_cons_of_mem _ inside)]

end Whole

end Framing

end Simble.Lib
