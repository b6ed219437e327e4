import Mathlib.Order.Lattice
import Mathlib.Data.List.Infix

/-! Reading a sorted table page by page. A reader asks for the entries from a key on, is given
some of them, and asks again from the key next to the last one, until a page is empty. -/
namespace Simble.Lib
open List

section Paging
variable {κ ε : Type*} [LinearOrder κ] (page : κ → List ε → Prop) (key : ε → κ)
  (next : κ → Option κ)

inductive Walk : κ → List ε → Prop
  | finished {start} : page start [] → Walk start []
  | again {start batch last after rest} : page start (batch ++ [last]) →
    next (key last) = some after → Walk after rest → Walk start (batch ++ last :: rest)

/-- The entries from a key on. -/
def remaining (table : List ε) (start : κ) : List ε := table.filter fun entry => start ≤ key entry

/-- The table is sorted, and the key next to an entry's is no further than the
key of the entry behind it. -/
structure Pageable (table : List ε) : Prop where
  sorted : table.Pairwise fun a b => key a < key b
  follows : ∀ entry ∈ table, ∃ after, next (key entry) = some after ∧
    ∀ other ∈ table, after ≤ key other ↔ key entry < key other

variable {page key next} {table : List ε} {start : κ}

theorem remaining_after (pageable : Pageable key next table) {batch rest : List ε} {last : ε}
    {after : κ} (split : remaining key table start = batch ++ last :: rest)
    (behind : next (key last) = some after) : remaining key table after = rest := by
  have listed : last ∈ remaining key table start := by
    rw [split]
    exact mem_append_right _ mem_cons_self
  obtain ⟨present, from'⟩ := mem_filter.mp listed
  have reached : start ≤ key last := by simpa using from'
  obtain ⟨other, same, least⟩ := pageable.follows last present
  obtain rfl : other = after := Option.some.inj (same.symm.trans behind)
  have later : remaining key table other =
      (remaining key table start).filter fun entry => key last < key entry := by
    unfold remaining
    rw [filter_filter]
    apply filter_congr
    intro entry inside
    have beyond := least entry inside
    by_cases less : key last < key entry
    · simp [beyond.mpr less, less, reached.trans less.le]
    · simp [less, beyond]
  have sorted : (batch ++ last :: rest).Pairwise fun a b => key a < key b := by
    rw [← split]
    exact pageable.sorted.filter _
  obtain ⟨-, tail, across⟩ := pairwise_append.mp sorted
  rw [later, split, filter_append, filter_cons_of_neg (by simp),
    filter_eq_nil_iff.mpr, nil_append, filter_eq_self]
  · intro entry inside
    simpa using (pairwise_cons.mp tail).1 entry inside
  · intro entry inside
    simpa using (across entry inside last mem_cons_self).le

/-- Where every page is a prefix of what remains, and empty only at the end, the
reader gets everything. The induction is on what remains. -/
theorem Walk.complete (page : κ → List ε → Prop) (Asked : κ → Prop)
    (pageable : Pageable key next table)
    (asks : ∀ {before after}, next before = some after → Asked after)
    (pages : ∀ start, Asked start → ∃ batch, page start batch ∧
      batch <+: remaining key table start ∧ (batch = [] → remaining key table start = []))
    (asked : Asked start) : Walk page key next start (remaining key table start) := by
  obtain ⟨size, bound⟩ : ∃ size, (remaining key table start).length = size := ⟨_, rfl⟩
  induction size using Nat.strong_induction_on generalizing start with
  | _ size ih =>
    obtain ⟨batch, answered, ⟨rest, split⟩, empty⟩ := pages start asked
    rcases eq_nil_or_concat' batch with rfl | ⟨front, last, rfl⟩
    · rw [empty rfl]
      exact .finished answered
    · have whole : remaining key table start = front ++ last :: rest := by
        rw [← split, append_assoc, singleton_append]
      have listed : last ∈ remaining key table start := by
        rw [whole]
        exact mem_append_right _ mem_cons_self
      obtain ⟨after, behind, -⟩ := pageable.follows last (mem_of_mem_filter listed)
      have left := remaining_after pageable whole behind
      rw [whole]
      refine .again answered behind ?_
      rw [← left]
      refine ih _ ?_ (asks behind) rfl
      rw [left, ← bound, whole, length_append, length_cons]
      omega

theorem Walk.pages (pageable : Pageable key next table) {motive : κ → Prop}
    (finished : ∀ {start}, page start [] → remaining key table start = [] → motive start)
    (again : ∀ {start batch last after rest}, page start (batch ++ [last]) →
      remaining key table start = batch ++ last :: rest → next (key last) = some after →
      remaining key table after = rest → motive after → motive start)
    {entries : List ε} (walk : Walk page key next start entries)
    (all : entries = remaining key table start) : motive start := by
  induction walk with
  | finished answered => exact finished answered all.symm
  | again answered behind _ ih =>
    have left := remaining_after pageable all.symm behind
    exact again answered all.symm behind left (ih left.symm)

end Paging

end Simble.Lib
