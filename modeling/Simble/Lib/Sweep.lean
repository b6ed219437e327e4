import Mathlib.Logic.Basic

/-! Reading a table by asking for what comes next, with a bound on the turns. -/
namespace Simble.Lib

section Sweep
variable {κ σ ε : Type} (turn : κ → σ → Option (Option κ × σ))

def sweep : Nat → κ → σ → Option σ
  | 0, _, _ => none
  | fuel + 1, start, state => (turn start state).bind fun turned =>
    match turned.1 with
    | none => some turned.2
    | some next => sweep fuel next turned.2

/-- Each turn takes in some of what is left behind its key, and the last one finds that
nothing is left. The states are those that the turns can meet. -/
structure Sweeps (meets : σ → Prop) (left : κ → List ε → Prop) (absorb : σ → List ε → σ) : Prop where
  none : ∀ state, absorb state [] = state
  both : ∀ state first second, absorb (absorb state first) second = absorb state (first ++ second)
  kept : ∀ {state}, meets state → ∀ batch, meets (absorb state batch)
  ends : ∀ {start state}, meets state → left start [] → turn start state = some (.none, state)
  turns : ∀ {start entries state}, meets state → left start entries → entries ≠ [] →
    ∃ batch rest next, entries = batch ++ rest ∧ batch ≠ [] ∧
      turn start state = some (some next, absorb state batch) ∧ left next rest

variable {turn} {meets : σ → Prop} {left : κ → List ε → Prop} {absorb : σ → List ε → σ}

theorem Sweeps.sweep_eq (sweeps : Sweeps turn meets left absorb) {fuel : Nat} {start : κ}
    {entries : List ε} {state : σ} (enough : entries.length < fuel) (met : meets state)
    (begun : left start entries) : sweep turn fuel start state = some (absorb state entries) := by
  induction fuel generalizing start entries state with
  | zero => exact absurd enough (Nat.not_lt_zero _)
  | succ fuel ih =>
    unfold sweep
    by_cases empty : entries = []
    · subst empty
      rw [sweeps.ends met begun, sweeps.none]
      rfl
    · obtain ⟨batch, rest, next, rfl, some, turned, after⟩ := sweeps.turns met begun empty
      have := List.length_pos_iff.mpr some
      rw [List.length_append] at enough
      rw [turned, Option.bind_some]
      dsimp only
      rw [ih (by omega) (sweeps.kept met batch) after, sweeps.both]

end Sweep

end Simble.Lib
