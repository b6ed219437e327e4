import Mathlib.Data.List.Infix

/-! Statements about each entry of a history and the entries before it. -/
namespace Simble.Lib
open List

variable {α : Type*} {holds : List α → α → Prop} {history : List α}

/-- Every entry is in order, given those before it. -/
def Each (holds : List α → α → Prop) (history : List α) : Prop :=
  ∀ earlier entry later, history = earlier ++ entry :: later → holds earlier entry

namespace Each

theorem nil : Each holds [] := by
  intro earlier entry later split
  simp at split

theorem snoc (before : Each holds history) {last : α} (here : holds history last) :
    Each holds (history ++ [last]) := by
  intro earlier entry later split
  rcases later.eq_nil_or_concat with rfl | ⟨later, final, rfl⟩
  · obtain ⟨rfl, same⟩ := append_inj' split rfl
    cases same
    exact here
  · rw [concat_eq_append, ← cons_append, ← append_assoc] at split
    obtain ⟨rfl, -⟩ := append_inj' split rfl
    exact before earlier entry later rfl

end Each

def Since (opens : α → Prop) (keeps : α → Prop) (history : List α) : Prop :=
  ∃ earlier entry later, history = earlier ++ entry :: later ∧ opens entry ∧
    ∀ other ∈ later, keeps other

namespace Since
variable {opens keeps : α → Prop}

theorem not_nil : ¬ Since opens keeps [] := by
  rintro ⟨earlier, entry, later, split, -⟩
  simp at split

theorem of_snoc {last : α} (since : Since opens keeps (history ++ [last])) :
    opens last ∨ (Since opens keeps history ∧ keeps last) := by
  obtain ⟨earlier, entry, later, split, opened, keep⟩ := since
  rcases later.eq_nil_or_concat with rfl | ⟨later, final, rfl⟩
  · obtain ⟨rfl, same⟩ := append_inj' split rfl
    cases same
    exact .inl opened
  · rw [concat_eq_append, ← cons_append, ← append_assoc] at split
    obtain ⟨rfl, same⟩ := append_inj' split rfl
    cases same
    exact .inr ⟨⟨earlier, entry, later, rfl, opened, fun other inside => keep other (by simp [inside])⟩,
      keep _ (by simp)⟩

theorem here (history : List α) {last : α} (now : opens last) :
    Since opens keeps (history ++ [last]) := ⟨history, last, [], rfl, now, by simp⟩

theorem snoc (since : Since opens keeps history) {last : α} (kept : keeps last) :
    Since opens keeps (history ++ [last]) := by
  obtain ⟨earlier, entry, later, rfl, opened, keep⟩ := since
  refine ⟨earlier, entry, later ++ [last], by simp, opened, fun other inside => ?_⟩
  rcases mem_append.mp inside with inside | inside
  · exact keep other inside
  · exact mem_singleton.mp inside ▸ kept

end Since

end Simble.Lib
