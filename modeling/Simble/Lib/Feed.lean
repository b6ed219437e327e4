import Mathlib.Control.Basic

/-! Machines that answer each input: a step takes a state and an input to the next state and an
output, and a list of inputs is fed from the left. The monad is `Id` where a step always ends, and
one with failures where it may not. -/
namespace Simble.Lib

variable {σ ι ο : Type} {m : Type → Type} [Monad m]

def feed (step : σ → ι → m (σ × ο)) (state : σ) : List ι → m (σ × List ο)
  | [] => pure (state, [])
  | input :: rest => do
    let (next, output) ← step state input
    let (last, outputs) ← feed step next rest
    pure (last, output :: outputs)

@[simp] theorem feed_nil (step : σ → ι → m (σ × ο)) (state : σ) :
    feed step state [] = pure (state, []) := rfl

theorem feed_cons (step : σ → ι → m (σ × ο)) (state : σ) (input : ι) (rest : List ι) :
    feed step state (input :: rest) = (do
      let (next, output) ← step state input
      let (last, outputs) ← feed step next rest
      pure (last, output :: outputs)) := rfl

theorem feed_step [LawfulMonad m] {step : σ → ι → m (σ × ο)} {state next last : σ} {input : ι}
    {output : ο} {rest : List ι} {outputs : List ο} (first : step state input = pure (next, output))
    (later : feed step next rest = pure (last, outputs)) :
    feed step state (input :: rest) = pure (last, output :: outputs) := by
  simp only [feed_cons, first, pure_bind, later]

theorem feed_append [LawfulMonad m] (step : σ → ι → m (σ × ο)) (state : σ) (first second : List ι) :
    feed step state (first ++ second) = (do
      let (next, outputs) ← feed step state first
      let (last, further) ← feed step next second
      pure (last, outputs ++ further)) := by
  induction first generalizing state with
  | nil => simp
  | cons input rest ih => simp [feed_cons, ih]

theorem feed_cons_ok {ε : Type} {step : σ → ι → Except ε (σ × ο)} {state last : σ} {input : ι}
    {rest : List ι} {outputs : List ο} :
    feed step state (input :: rest) = .ok (last, outputs) ↔
      ∃ next output later, step state input = .ok (next, output) ∧
        feed step next rest = .ok (last, later) ∧ outputs = output :: later := by
  rw [feed_cons]
  cases step state input with
  | error stop => simp [bind, Except.bind]
  | ok first =>
    obtain ⟨next, output⟩ := first
    cases fed : feed step next rest with
    | error stop => simp [bind, Except.bind, fed]
    | ok others =>
      obtain ⟨last', later⟩ := others
      simp only [bind, Except.bind, fed, pure, Except.pure, Except.ok.injEq, Prod.mk.injEq,
        exists_and_left]
      constructor
      · rintro ⟨rfl, rfl⟩
        exact ⟨next, output, ⟨rfl, rfl⟩, later, ⟨fed, rfl⟩⟩
      · rintro ⟨_, _, ⟨rfl, rfl⟩, others, same, rfl⟩
        rw [fed] at same
        cases same
        exact ⟨rfl, rfl⟩

/-- The outputs of a machine that says nothing until its last input. -/
def once {α : Type} (count : Nat) (answer : α) : List (Option α) :=
  List.replicate (count - 1) none ++ [some answer]

theorem once_succ {α : Type} {count : Nat} (positive : 0 < count) (answer : α) :
    once (count + 1) answer = none :: once count answer := by
  obtain ⟨n, rfl⟩ : ∃ n, count = n + 1 := ⟨count - 1, by omega⟩
  simp [once, List.replicate_succ]

end Simble.Lib
