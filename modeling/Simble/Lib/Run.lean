import Mathlib.Data.List.Forall2
import Mathlib.Data.List.Induction

/-! Runs of a labelled transition relation, oldest label first. An invariant may speak about the
labels as well as the state, so that what was said along a run and where it stands are related in
one induction. A guard restricts the steps of a run without changing the machine. -/
namespace Simble.Lib
open List

variable {σ ℓ : Type*}

inductive Run (step : σ → ℓ → σ → Prop) (start : σ) : List ℓ → σ → Prop where
  | nil : Run step start [] start
  | snoc {labels s label t} : Run step start labels s → step s label t →
      Run step start (labels ++ [label]) t

/-- The steps of a relation whose source state and label meet a guard. -/
def Guarded (guard : σ → ℓ → Prop) (step : σ → ℓ → σ → Prop) : σ → ℓ → σ → Prop :=
  fun s label t => guard s label ∧ step s label t

namespace Run
variable {step : σ → ℓ → σ → Prop} {start : σ}

theorem invariant {P : List ℓ → σ → Prop} (initial : P [] start)
    (preserves : ∀ {labels s label t}, P labels s → step s label t → P (labels ++ [label]) t)
    {labels : List ℓ} {s : σ} (run : Run step start labels s) : P labels s := by
  induction run with
  | nil => exact initial
  | snoc _ stepped ih => exact preserves ih stepped

theorem last {labels : List ℓ} {label : ℓ} {t : σ} (run : Run step start (labels ++ [label]) t) :
    ∃ s, Run step start labels s ∧ step s label t := by
  generalize same : labels ++ [label] = all at run
  cases run with
  | nil => simp at same
  | snoc before stepped =>
    obtain ⟨rfl, final⟩ := append_inj' same rfl
    obtain rfl := head_eq_of_cons_eq final
    exact ⟨_, before, stepped⟩

theorem mono {other : σ → ℓ → σ → Prop}
    (weaker : ∀ {s label t}, step s label t → other s label t)
    {labels : List ℓ} {s : σ} (run : Run step start labels s) : Run other start labels s := by
  induction run with
  | nil => exact .nil
  | snoc _ stepped ih => exact ih.snoc (weaker stepped)

theorem unguarded {guard : σ → ℓ → Prop} {labels : List ℓ} {s : σ}
    (run : Run (Guarded guard step) start labels s) : Run step start labels s :=
  run.mono And.right

theorem foldl (next : σ → ℓ → σ) (start : σ) (labels : List ℓ) :
    Run (fun s label t => t = next s label) start labels (labels.foldl next start) := by
  induction labels using List.reverseRec with
  | nil => exact .nil
  | append_singleton earlier label ih =>
    rw [foldl_append]
    exact ih.snoc rfl

theorem paired {other : σ → ℓ → σ → Prop} {ι : Type*} {input : ℓ → ι} {R : σ → σ → Prop}
    {Q : ℓ → ℓ → Prop}
    (preserves : ∀ {s label t s' label' t'}, R s s' → step s label t → other s' label' t' →
      input label = input label' → R t t' ∧ Q label label')
    {start' : σ} (initial : R start start') {labels labels' : List ℓ} {s s' : σ}
    (run : Run step start labels s) (run' : Run other start' labels' s')
    (same : labels.map input = labels'.map input) : R s s' ∧ List.Forall₂ Q labels labels' := by
  induction run generalizing labels' s' with
  | nil =>
    cases run' with
    | nil => exact ⟨initial, .nil⟩
    | snoc => simp at same
  | snoc _ stepped ih =>
    cases run' with
    | nil => simp at same
    | snoc earlier last =>
      rw [map_append, map_append] at same
      obtain ⟨before, final⟩ := append_inj' same rfl
      obtain ⟨related, paired⟩ := ih earlier before
      obtain ⟨next, matched⟩ := preserves related stepped last (head_eq_of_cons_eq final)
      exact ⟨next, rel_append paired (.cons matched .nil)⟩

theorem deterministic (det : ∀ s label t u, step s label t → step s label u → t = u)
    {labels : List ℓ} {s t : σ} (first : Run step start labels s)
    (second : Run step start labels t) : s = t := by
  induction first generalizing t with
  | nil =>
    generalize same : ([] : List ℓ) = empty at second
    cases second with
    | nil => rfl
    | snoc => simp at same
  | snoc _ stepped ih =>
    obtain ⟨_, earlier, last⟩ := second.last
    obtain rfl := ih earlier
    exact det _ _ _ _ stepped last

/-- When guarded runs keep a property and the first unguarded step loses it,
the runs that keep it throughout are exactly the guarded ones. -/
theorem always_iff_guarded (det : ∀ s label t u, step s label t → step s label u → t = u)
    {guard : σ → ℓ → Prop} {P : List ℓ → σ → Prop}
    (sound : ∀ {labels s}, Run (Guarded guard step) start labels s → P labels s)
    (sharp : ∀ {labels s label t}, Run (Guarded guard step) start labels s → step s label t →
      ¬ guard s label → ¬ P (labels ++ [label]) t)
    {labels : List ℓ} {s : σ} (run : Run step start labels s) :
    (∀ before t, before <+: labels → Run step start before t → P before t) ↔
      Run (Guarded guard step) start labels s := by
  constructor
  · intro always
    induction run with
    | nil => exact .nil
    | @snoc labels s label t earlier stepped ih =>
      have guarded := ih fun before u shorter => always before u
        (shorter.trans (prefix_append _ _))
      by_cases met : guard s label
      · exact guarded.snoc ⟨met, stepped⟩
      · exact absurd (always _ _ (prefix_refl _) (earlier.snoc stepped))
          (sharp guarded stepped met)
  · intro guarded before t shorter reached
    clear run
    induction guarded with
    | nil =>
      obtain rfl := prefix_nil.mp shorter
      obtain rfl := reached.deterministic det .nil
      exact sound .nil
    | @snoc labels s label u earlier stepped ih =>
      rcases prefix_concat_iff.mp shorter with rfl | shorter
      · have same := reached.deterministic det (earlier.unguarded.snoc stepped.2)
        exact same ▸ sound (earlier.snoc stepped)
      · exact ih shorter

end Run
end Simble.Lib
