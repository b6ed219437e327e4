import Mathlib.Algebra.Ring.Nat
import Mathlib.Data.List.Basic

/-! Loops that may fail and that draw on a bounded store: where each step ends as long as the
store holds what it draws, the loop ends as long as the store holds it all. -/
namespace Simble.Lib

section Metered
variable {σ α ε : Type} {step : σ → α → Except ε σ} {used : σ → Nat} {cost : α → Nat} {size : Nat}
  {good : σ → Prop}

/-- A step over `item` from a good state ends in one, and draws what the item costs. -/
def Metered (step : σ → α → Except ε σ) (used : σ → Nat) (cost : α → Nat) (size : Nat)
    (good : σ → Prop) (item : α) : Prop :=
  ∀ state, good state → used state + cost item ≤ size →
    ∃ next, step state item = .ok next ∧ good next ∧ used next = used state + cost item

theorem Metered.foldlM {items : List α}
    (each : ∀ item ∈ items, Metered step used cost size good item) (state : σ)
    (start : good state) (room : used state + (items.map cost).sum ≤ size) :
    ∃ last, items.foldlM step state = .ok last ∧ good last ∧
      used last = used state + (items.map cost).sum := by
  induction items generalizing state with
  | nil => exact ⟨state, rfl, start, rfl⟩
  | cons item items ih =>
    rw [List.forall_mem_cons] at each
    rw [List.map_cons, List.sum_cons] at room ⊢
    obtain ⟨next, stepped, kept, drawn⟩ := each.1 state start (by omega)
    obtain ⟨last, ended, good, total⟩ := ih each.2 next kept (by omega)
    refine ⟨last, ?_, good, by omega⟩
    rw [List.foldlM_cons, stepped]
    exact ended

/-- A loop whose steps draw nothing. -/
theorem foldlM_ends (good : σ → Prop) {items : List α}
    (each : ∀ item ∈ items, ∀ state, good state → ∃ next, step state item = .ok next ∧ good next)
    (state : σ) (start : good state) :
    ∃ last, items.foldlM step state = .ok last ∧ good last := by
  have metered : ∀ item ∈ items, Metered step (fun _ => 0) (fun _ => 0) 0 good item := by
    intro item listed state kept _
    obtain ⟨next, stepped, good⟩ := each item listed state kept
    exact ⟨next, stepped, good, rfl⟩
  obtain ⟨last, ended, good, -⟩ := Metered.foldlM metered state start (by simp)
  exact ⟨last, ended, good⟩

theorem mapM_ends {β : Type} {f : α → Except ε β} {items : List α}
    (each : ∀ item ∈ items, ∃ value, f item = .ok value) : ∃ values, items.mapM f = .ok values := by
  induction items with
  | nil => exact ⟨[], rfl⟩
  | cons item items ih =>
    rw [List.forall_mem_cons] at each
    obtain ⟨value, one⟩ := each.1
    obtain ⟨values, rest⟩ := ih each.2
    refine ⟨value :: values, ?_⟩
    rw [List.mapM_cons, one, rest]
    rfl

end Metered
end Simble.Lib
