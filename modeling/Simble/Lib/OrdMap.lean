import Mathlib.Data.List.Sort

/-! Maps with ordered keys, as the sorted lists of their entries, in ascending order of the keys;
what a key is bound to is found at the one entry it may have. -/
namespace Simble.Lib
open List

structure OrdMap (κ ν : Type*) [LinearOrder κ] where
  entries : List (κ × ν)
  sorted : entries.Pairwise fun a b => a.1 < b.1

namespace OrdMap
variable {κ ν : Type*} [LinearOrder κ]

def empty : OrdMap κ ν := ⟨[], .nil⟩

variable (map : OrdMap κ ν)

def get (key : κ) : Option ν := (map.entries.find? fun entry => entry.1 = key).map Prod.snd

/-- Replaces the value bound to `key`, if there is one. -/
def modify (key : κ) (change : ν → ν) : OrdMap κ ν where
  entries := map.entries.map fun entry =>
    (entry.1, if entry.1 = key then change entry.2 else entry.2)
  sorted := pairwise_map.mpr map.sorted

def insert (key : κ) (value : ν) : OrdMap κ ν where
  entries := map.entries.filter (·.1 < key) ++ (key, value) :: map.entries.filter (key < ·.1)
  sorted := by
    refine pairwise_append.mpr ⟨map.sorted.filter _, ?_, ?_⟩
    · refine pairwise_cons.mpr ⟨?_, map.sorted.filter _⟩
      intro entry above
      simpa using (mem_filter.mp above).2
    · intro below left above right
      have less : below.1 < key := by simpa using (mem_filter.mp left).2
      rcases mem_cons.mp right with rfl | right
      · exact less
      · exact less.trans (by simpa using (mem_filter.mp right).2)

/-- The entries with keys between `low` and `high`, in ascending order. -/
def range (low high : κ) : List (κ × ν) :=
  map.entries.filter fun entry => low ≤ entry.1 ∧ entry.1 ≤ high

/-- The entries with keys from `low` on, in ascending order. -/
def rangeFrom (low : κ) : List (κ × ν) := map.entries.filter fun entry => low ≤ entry.1

def erase (key : κ) : OrdMap κ ν where
  entries := map.entries.filter (·.1 ≠ key)
  sorted := map.sorted.filter _

/-- Changes the value of every key. -/
def mapValues (change : ν → ν) : OrdMap κ ν where
  entries := map.entries.map fun entry => (entry.1, change entry.2)
  sorted := pairwise_map.mpr map.sorted

variable {map} {key other : κ} {value : ν}

theorem keys_nodup (map : OrdMap κ ν) : (map.entries.map Prod.fst).Nodup :=
  pairwise_map.mpr (map.sorted.imp fun less => less.ne)

theorem get_eq_some : map.get key = some value ↔ (key, value) ∈ map.entries := by
  constructor
  · intro found
    obtain ⟨entry, first, rfl⟩ := Option.map_eq_some_iff.mp found
    have matched : entry.1 = key := by simpa using List.find?_some first
    subst matched
    exact mem_of_find?_eq_some first
  · intro listed
    cases first : map.entries.find? fun entry => entry.1 = key with
    | none => simpa using List.find?_eq_none.mp first _ listed
    | some entry =>
      have matched : entry.1 = key := by simpa using List.find?_some first
      have same : entry = (key, value) := inj_on_of_nodup_map map.keys_nodup
        (mem_of_find?_eq_some first) listed matched
      rw [get, first, same]
      rfl

theorem get_modify (change : ν → ν) : (map.modify key change).get other =
    if other = key then (map.get other).map change else map.get other := by
  unfold get modify
  rw [List.find?_map]
  have sameKey : ((fun entry : κ × ν => decide (entry.1 = other)) ∘ fun entry : κ × ν =>
      (entry.1, if entry.1 = key then change entry.2 else entry.2)) =
        fun entry => decide (entry.1 = other) := rfl
  rw [sameKey]
  cases first : map.entries.find? fun entry => entry.1 = other with
  | none => simp
  | some entry =>
    have matched : entry.1 = other := by simpa using List.find?_some first
    simp only [Option.map_some, matched]
    split <;> rfl

theorem get_modify_self (change : ν → ν) :
    (map.modify key change).get key = (map.get key).map change := by
  rw [get_modify, if_pos rfl]

theorem get_modify_of_ne (change : ν → ν) (differs : other ≠ key) :
    (map.modify key change).get other = map.get other := by
  rw [get_modify, if_neg differs]

theorem get_insert :
    (map.insert key value).get other = if other = key then some value else map.get other := by
  apply Option.ext
  intro found
  rw [get_eq_some, insert, mem_append, mem_cons, mem_filter, mem_filter]
  split_ifs with same
  · subst same
    simp [eq_comm]
  · rw [get_eq_some]
    rcases lt_trichotomy other key with less | equal | more
    · simp [less, less.not_gt, less.ne]
    · exact absurd equal same
    · simp [more, more.not_gt, more.ne']

theorem get_erase : (map.erase key).get other = if other = key then none else map.get other := by
  apply Option.ext
  intro found
  rw [get_eq_some, erase, mem_filter]
  split_ifs with same
  · simp [same]
  · rw [get_eq_some]
    simp [same]

theorem get_mapValues (change : ν → ν) :
    (map.mapValues change).get key = (map.get key).map change := by
  apply Option.ext
  intro found
  rw [get_eq_some, mapValues, Option.map_eq_some_iff, mem_map]
  constructor
  · rintro ⟨entry, listed, same⟩
    cases same
    exact ⟨entry.2, get_eq_some.mpr listed, rfl⟩
  · rintro ⟨old, bound, rfl⟩
    exact ⟨(key, old), get_eq_some.mp bound, rfl⟩

theorem modify_get (bound : map.get key = some value) : (map.modify key fun _ => value) = map := by
  have same : (map.entries.map fun entry => (entry.1, if entry.1 = key then value else entry.2)) =
      map.entries := by
    refine (map_congr_left ?_).trans (map_id _)
    intro entry listed
    split_ifs with matched
    · have old := get_eq_some.mpr listed
      rw [matched, bound] at old
      rw [Option.some.inj old]
      rfl
    · rfl
  obtain ⟨entries, sorted⟩ := map
  rw [modify, mk.injEq]
  exact same

theorem mem_range {low high : κ} {entry : κ × ν} :
    entry ∈ map.range low high ↔ entry ∈ map.entries ∧ low ≤ entry.1 ∧ entry.1 ≤ high := by
  simp [range]

end OrdMap
end Simble.Lib
