import Mathlib.Data.List.Basic

/-! What holds of every step of a run of a deterministic machine: a predicate of the state before
a step and its label, along a list of labels. An invariant that steps of one kind keep turns a
fact about each step into one about the run. -/
namespace Simble.Lib

variable {σ ℓ : Type*} (next : σ → ℓ → σ)

def Along (P : σ → ℓ → Prop) : σ → List ℓ → Prop
  | _, [] => True
  | s, label :: labels => P s label ∧ Along P (next s label) labels

namespace Along
variable {next} {P G : σ → ℓ → Prop} {invariant : σ → Prop} {s : σ} {labels : List ℓ}

theorem iff (same : ∀ s label, invariant s → (P s label ↔ G s label))
    (keeps : ∀ s label, invariant s → G s label → invariant (next s label))
    (initial : invariant s) : Along next P s labels ↔ Along next G s labels := by
  induction labels generalizing s with
  | nil => exact Iff.rfl
  | cons label labels ih =>
    constructor
    · rintro ⟨here, later⟩
      have guarded := (same s label initial).mp here
      exact ⟨guarded, (ih (keeps s label initial guarded)).mp later⟩
    · rintro ⟨guarded, later⟩
      exact ⟨(same s label initial).mpr guarded, (ih (keeps s label initial guarded)).mpr later⟩

theorem mono (weaker : ∀ s label, invariant s → G s label → P s label)
    (keeps : ∀ s label, invariant s → G s label → invariant (next s label))
    (initial : invariant s) (along : Along next G s labels) : Along next P s labels := by
  induction labels generalizing s with
  | nil => trivial
  | cons label labels ih =>
    obtain ⟨here, later⟩ := along
    exact ⟨weaker s label initial here, ih (keeps s label initial here) later⟩

theorem and (first : Along next P s labels) (second : Along next G s labels) :
    Along next (fun s label => P s label ∧ G s label) s labels := by
  induction labels generalizing s with
  | nil => trivial
  | cons label labels ih =>
    exact ⟨⟨first.1, second.1⟩, ih first.2 second.2⟩

end Along
end Simble.Lib
