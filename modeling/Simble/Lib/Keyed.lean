import Mathlib.Data.List.Basic
import Simble.Lib.Feed

/-! Machines that keep one slot for each key and answer an input out of its key's slot alone. The
outputs for one key are those of a machine with that single slot for the inputs with that key,
however the inputs are interleaved. -/
namespace Simble.Lib

variable {κ σ τ ι ο : Type} [DecidableEq κ]

def onKey (key : κ) (list : List (κ × ι)) : List ι :=
  (list.filter fun entry => entry.1 = key).map Prod.snd

theorem onKey_cons_self (key : κ) (input : ι) (rest : List (κ × ι)) :
    onKey key ((key, input) :: rest) = input :: onKey key rest := by
  simp [onKey]

theorem onKey_cons_of_ne {key other : κ} (differs : other ≠ key) (input : ι)
    (rest : List (κ × ι)) : onKey key ((other, input) :: rest) = onKey key rest := by
  simp [onKey, differs]

structure Keyed (step : σ → κ × ι → Id (σ × ο)) (slot : κ → σ → τ)
    (single : κ → τ → ι → Id (τ × ο)) : Prop where
  own : ∀ state key input, single key (slot key state) input =
    (slot key (step state (key, input)).1, (step state (key, input)).2)
  others : ∀ state key input other, other ≠ key →
    slot other (step state (key, input)).1 = slot other state

def answers (step : σ → κ × ι → Id (σ × ο)) (state : σ) (inputs : List (κ × ι)) : List (κ × ο) :=
  (inputs.map Prod.fst).zip (feed step state inputs).2

theorem feed_cons_id (step : σ → ι → Id (σ × ο)) (state : σ) (input : ι) (rest : List ι) :
    feed step state (input :: rest) =
      ((feed step (step state input).1 rest).1,
        (step state input).2 :: (feed step (step state input).1 rest).2) := rfl

theorem Keyed.onKey_answers {step : σ → κ × ι → Id (σ × ο)} {slot : κ → σ → τ}
    {single : κ → τ → ι → Id (τ × ο)} (keyed : Keyed step slot single) (state : σ) (key : κ)
    (inputs : List (κ × ι)) :
    onKey key (answers step state inputs) =
      (feed (single key) (slot key state) (onKey key inputs)).2 := by
  induction inputs generalizing state with
  | nil => rfl
  | cons input rest ih =>
    obtain ⟨other, input⟩ := input
    have split : answers step state ((other, input) :: rest) =
        (other, (step state (other, input)).2) ::
          answers step (step state (other, input)).1 rest := rfl
    rw [split]
    by_cases same : other = key
    · subst same
      rw [onKey_cons_self, onKey_cons_self, feed_cons_id, keyed.own, ih]
    · rw [onKey_cons_of_ne same, onKey_cons_of_ne same, ih,
        keyed.others _ _ _ _ (Ne.symm same)]

omit [DecidableEq κ] in
/-- What is answered first does not depend on what comes later. -/
theorem answers_prefix (step : σ → κ × ι → Id (σ × ο)) (before after : List (κ × ι)) (state : σ) :
    answers step state before <+: answers step state (before ++ after) := by
  induction before generalizing state with
  | nil => exact List.nil_prefix
  | cons input rest ih => exact List.cons_prefix_cons.mpr ⟨rfl, ih _⟩

theorem mem_onKey {list : List (κ × ι)} {entry : κ × ι} (member : entry ∈ list) :
    entry.2 ∈ onKey entry.1 list :=
  List.mem_map_of_mem (List.mem_filter.mpr ⟨member, decide_eq_true rfl⟩)

theorem onKey_filterMap {π : Type} (key : κ) (read : π → Option (κ × ι)) (list : List π) :
    onKey key (list.filterMap read) =
      (list.filter fun entry => (read entry).map Prod.fst = some key).filterMap fun entry =>
        (read entry).map Prod.snd := by
  induction list with
  | nil => rfl
  | cons entry rest ih =>
    cases found : read entry with
    | none => simp [found, ih]
    | some pair =>
      obtain ⟨other, input⟩ := pair
      rw [List.filterMap_cons_some found]
      by_cases same : other = key
      · subst same
        rw [onKey_cons_self, ih, List.filter_cons_of_pos (by simp [found]),
          List.filterMap_cons_some (by rw [found]; rfl)]
      · rw [onKey_cons_of_ne same, ih, List.filter_cons_of_neg (by simp [found, same])]

end Simble.Lib
