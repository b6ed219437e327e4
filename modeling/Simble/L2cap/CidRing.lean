import Simble.L2cap.Classic

/-! The ring of channel identifiers (`l2cap/cid_allocator.rs`): every identifier of the range is
looked at before one is handed out again. -/
namespace Simble.L2cap
namespace CidAllocator
variable {α : Type}

def following (table : CidAllocator α) (cid : UInt16) : UInt16 :=
  if cid ≥ table.maxCid then table.minCid else cid + 1

/-- `following` with its addition checked. -/
def checkedFollowing (table : CidAllocator α) (cid : UInt16) : Rust UInt16 :=
  if cid ≥ table.maxCid then .ok table.minCid
  else if cid = 0xFFFF then .error .panic else .ok (cid + 1)

def checkedLoop (table : CidAllocator α) : Nat → Rust (CidAllocator α × Option UInt16)
  | 0 => .ok (table, none)
  | turns + 1 => do
    let cid := table.nextCid
    let nextCid ← table.checkedFollowing cid
    let next := { table with nextCid }
    if (table.channels.lookup cid).isSome then next.checkedLoop turns else .ok (next, some cid)

variable (table : CidAllocator α)

def checkedAllocate : Rust (CidAllocator α × Option UInt16) :=
  if table.maxCid < table.minCid then .error .panic
  else table.checkedLoop (table.maxCid.toNat - table.minCid.toNat + 1)

inductive Call (α : Type) where
  | allocate
  | insert (cid : UInt16) (channel : α)
  | remove (cid : UInt16)

def call : Call α → CidAllocator α
  | .allocate => table.allocate.1
  | .insert cid channel => table.insert cid channel
  | .remove cid => table.remove cid

def after (calls : List (Call α)) : CidAllocator α := calls.foldl call table

def triedLoop (table : CidAllocator α) : Nat → List UInt16
  | 0 => []
  | turns + 1 => table.nextCid ::
    if (table.channels.lookup table.nextCid).isSome then
      { table with nextCid := table.following table.nextCid }.triedLoop turns
    else []

def tried : Call α → List UInt16
  | .allocate => table.triedLoop (table.maxCid.toNat - table.minCid.toNat + 1)
  | _ => []

def triedAlong (table : CidAllocator α) : List (Call α) → List UInt16
  | [] => []
  | call :: calls => table.tried call ++ (table.call call).triedAlong calls

/-! ## The order of the ring -/

/-- The identifier a number of places behind `nextCid`. -/
def ahead (places : Nat) : UInt16 := table.following^[places] table.nextCid

structure InRange : Prop where
  least : table.minCid ≤ table.nextCid
  greatest : table.nextCid ≤ table.maxCid

theorem mod_lt (places : Nat) : places % (table.maxCid.toNat - table.minCid.toNat + 1) <
    table.maxCid.toNat - table.minCid.toNat + 1 := Nat.mod_lt _ (Nat.succ_pos _)

variable {table}

theorem toNat_following {cid : UInt16} (least : table.minCid ≤ cid) (greatest : cid ≤ table.maxCid) :
    (table.following cid).toNat = table.minCid.toNat + (cid.toNat - table.minCid.toNat + 1) %
      (table.maxCid.toNat - table.minCid.toNat + 1) := by
  rw [UInt16.le_iff_toNat_le] at least greatest
  have small := table.maxCid.toNat_lt
  unfold following
  split
  case isTrue last =>
    rw [ge_iff_le, UInt16.le_iff_toNat_le] at last
    rw [show cid.toNat = table.maxCid.toNat by omega, Nat.mod_self, Nat.add_zero]
  case isFalse more =>
    rw [ge_iff_le, UInt16.le_iff_toNat_le] at more
    rw [Nat.mod_eq_of_lt (by omega), UInt16.toNat_add, UInt16.toNat_one, Nat.mod_eq_of_lt (by omega)]
    omega

theorem toNat_ahead (range : table.InRange) (places : Nat) :
    (table.ahead places).toNat = table.minCid.toNat +
      (table.nextCid.toNat - table.minCid.toNat + places) %
        (table.maxCid.toNat - table.minCid.toNat + 1) := by
  have least := UInt16.le_iff_toNat_le.mp range.least
  have greatest := UInt16.le_iff_toNat_le.mp range.greatest
  induction places with
  | zero =>
    rw [Nat.add_zero, Nat.mod_eq_of_lt (by omega)]
    show table.nextCid.toNat = _
    omega
  | succ places ih =>
    have below := table.mod_lt (table.nextCid.toNat - table.minCid.toNat + places)
    unfold ahead at ih ⊢
    rw [Function.iterate_succ_apply', toNat_following, ih, Nat.add_sub_cancel_left, Nat.mod_add_mod,
      Nat.add_assoc]
    · rw [UInt16.le_iff_toNat_le, ih]
      omega
    · rw [UInt16.le_iff_toNat_le, ih]
      omega

theorem ahead_range (range : table.InRange) (places : Nat) :
    table.minCid ≤ table.ahead places ∧ table.ahead places ≤ table.maxCid := by
  have least := UInt16.le_iff_toNat_le.mp range.least
  have greatest := UInt16.le_iff_toNat_le.mp range.greatest
  have below := table.mod_lt (table.nextCid.toNat - table.minCid.toNat + places)
  rw [UInt16.le_iff_toNat_le, UInt16.le_iff_toNat_le, toNat_ahead range]
  omega

theorem exists_ahead (range : table.InRange) {cid : UInt16} (least : table.minCid ≤ cid)
    (greatest : cid ≤ table.maxCid) :
    ∃ places < table.maxCid.toNat - table.minCid.toNat + 1, table.ahead places = cid := by
  have first := UInt16.le_iff_toNat_le.mp range.least
  have last := UInt16.le_iff_toNat_le.mp range.greatest
  rw [UInt16.le_iff_toNat_le] at least greatest
  rcases Nat.le_total table.nextCid.toNat cid.toNat with later | earlier
  · refine ⟨cid.toNat - table.nextCid.toNat, by omega, UInt16.toNat_inj.mp ?_⟩
    rw [toNat_ahead range, Nat.mod_eq_of_lt (by omega)]
    omega
  · by_cases same : cid = table.nextCid
    · exact ⟨0, Nat.succ_pos _, same.symm⟩
    have differs : cid.toNat ≠ table.nextCid.toNat := fun equal => same (UInt16.toNat_inj.mp equal)
    refine ⟨cid.toNat + (table.maxCid.toNat - table.minCid.toNat + 1) - table.nextCid.toNat,
      by omega, UInt16.toNat_inj.mp ?_⟩
    rw [toNat_ahead range, show table.nextCid.toNat - table.minCid.toNat +
      (cid.toNat + (table.maxCid.toNat - table.minCid.toNat + 1) - table.nextCid.toNat) =
        cid.toNat - table.minCid.toNat + (table.maxCid.toNat - table.minCid.toNat + 1) by omega,
      Nat.add_mod_right, Nat.mod_eq_of_lt (by omega)]
    omega

/-! ## Allocations -/

theorem checkedFollowing_eq (cid : UInt16) :
    table.checkedFollowing cid = .ok (table.following cid) := by
  unfold checkedFollowing following
  split
  · rfl
  case isFalse less =>
    refine if_neg fun last => less ?_
    rw [last, ge_iff_le, UInt16.le_iff_toNat_le]
    exact Nat.le_of_lt_succ table.maxCid.toNat_lt

theorem checkedLoop_eq (turns : Nat) (table : CidAllocator α) :
    table.checkedLoop turns = .ok (table.allocateLoop turns) := by
  induction turns generalizing table with
  | zero => rfl
  | succ turns ih =>
    unfold checkedLoop allocateLoop
    dsimp only
    rw [checkedFollowing_eq, Rust.ok_bind]
    split
    · exact ih _
    · rfl

structure Looked (table : CidAllocator α) (turns places : Nat)
    (result : CidAllocator α × Option UInt16) : Prop where
  within : places ≤ turns
  tried : ∀ i < places, table.ahead i ∈ table.triedLoop turns
  after : result.1 = { table with nextCid := table.ahead places }
  found : ∀ cid, result.2 = some cid → ∃ i, places = i + 1 ∧ cid = table.ahead i
  full : result.2 = none → places = turns ∧ ∀ i < turns, (table.get (table.ahead i)).isSome

theorem allocateLoop_looked (turns : Nat) (table : CidAllocator α) :
    ∃ places, table.Looked turns places (table.allocateLoop turns) := by
  induction turns generalizing table with
  | zero =>
    have never {P : Nat → Prop} (i : Nat) (less : i < 0) : P i := absurd less (Nat.not_lt_zero i)
    exact ⟨0, le_rfl, never, rfl, fun _ same => (by cases same), fun _ => ⟨rfl, never⟩⟩
  | succ turns ih =>
    unfold allocateLoop
    dsimp only
    split
    case isTrue used =>
      obtain ⟨places, within, tried, after, found, full⟩ :=
        ih { table with nextCid := table.following table.nextCid }
      refine ⟨places + 1, Nat.succ_le_succ within, ?_, after, ?_, ?_⟩
      · intro i less
        rw [triedLoop, if_pos used]
        cases i with
        | zero => exact List.mem_cons_self
        | succ i => exact List.mem_cons_of_mem _ (tried i (Nat.lt_of_succ_lt_succ less))
      · intro cid same
        obtain ⟨i, rfl, rfl⟩ := found cid same
        exact ⟨i + 1, rfl, rfl⟩
      · intro none
        obtain ⟨rfl, all⟩ := full none
        refine ⟨rfl, fun i less => ?_⟩
        cases i with
        | zero => exact used
        | succ i => exact all i (Nat.lt_of_succ_lt_succ less)
    case isFalse free =>
      refine ⟨1, Nat.le_add_left .., ?_, rfl, ?_, fun none => by cases none⟩
      · intro i less
        rw [Nat.lt_one_iff.mp less, triedLoop]
        exact List.mem_cons_self
      · intro cid same
        exact ⟨0, rfl, (Option.some.inj same).symm⟩

theorem allocate_looked : ∃ places, table.Looked (table.maxCid.toNat - table.minCid.toNat + 1) places
    table.allocate := allocateLoop_looked _ table

section Range
variable (range : table.InRange)
include range

theorem allocate_range : table.allocate.1.InRange := by
  obtain ⟨places, -, -, after, -, -⟩ := @allocate_looked _ table
  obtain ⟨least, greatest⟩ := ahead_range range places
  constructor <;> rw [after]
  · exact least
  · exact greatest

theorem allocate_some {cid : UInt16} (allocated : table.allocate.2 = some cid) :
    table.minCid ≤ cid ∧ cid ≤ table.maxCid ∧ table.get cid = none := by
  obtain ⟨_, -, -, -, found, -⟩ := @allocate_looked _ table
  obtain ⟨i, -, rfl⟩ := found cid allocated
  obtain ⟨least, greatest⟩ := ahead_range range i
  exact ⟨least, greatest, table.allocate_fresh allocated⟩

theorem allocate_none : table.allocate.2 = none ↔
    ∀ cid, table.minCid ≤ cid → cid ≤ table.maxCid → (table.get cid).isSome := by
  constructor
  · intro none cid least greatest
    obtain ⟨_, -, -, -, -, full⟩ := @allocate_looked _ table
    obtain ⟨i, inside, rfl⟩ := exists_ahead range least greatest
    exact (full none).2 i inside
  · intro used
    cases result : table.allocate.2 with
    | none => rfl
    | some cid =>
      obtain ⟨least, greatest, free⟩ := allocate_some range result
      have some := used cid least greatest
      rw [free] at some
      cases some

end Range

/-! ## Runs -/

theorem call_ahead (call : Call α) : ∃ places,
    (∀ i < places, table.ahead i ∈ table.tried call) ∧
    ∀ i, (table.call call).ahead i = table.ahead (places + i) := by
  cases call with
  | allocate =>
    obtain ⟨places, -, tried, after, -, -⟩ := @allocate_looked _ table
    refine ⟨places, tried, fun i => ?_⟩
    rw [call, after, Nat.add_comm]
    exact (Function.iterate_add_apply ..).symm
  | insert => exact ⟨0, nofun, fun i => congrArg table.ahead (Nat.zero_add i).symm⟩
  | remove => exact ⟨0, nofun, fun i => congrArg table.ahead (Nat.zero_add i).symm⟩

theorem run_ahead (calls : List (Call α)) (table : CidAllocator α) : ∃ places,
    (∀ i < places, table.ahead i ∈ table.triedAlong calls) ∧
    ∀ i, (table.after calls).ahead i = table.ahead (places + i) := by
  induction calls generalizing table with
  | nil => exact ⟨0, nofun, fun i => congrArg table.ahead (Nat.zero_add i).symm⟩
  | cons call calls ih =>
    obtain ⟨first, tried, next⟩ := @call_ahead _ table call
    obtain ⟨more, later, last⟩ := ih (table.call call)
    refine ⟨first + more, fun i less => List.mem_append.mpr ?_, fun i => ?_⟩
    · rcases Nat.lt_or_ge i first with early | late
      · exact .inl (tried i early)
      · have inside := later (i - first) (by omega)
        rw [next, Nat.add_sub_cancel' late] at inside
        exact .inr inside
    · rw [Nat.add_assoc, ← next]
      exact last i

theorem triedAlong_append (calls later : List (Call α)) (table : CidAllocator α) :
    table.triedAlong (calls ++ later) =
      table.triedAlong calls ++ (table.after calls).triedAlong later := by
  induction calls generalizing table with
  | nil => rfl
  | cons call calls ih =>
    rw [List.cons_append, triedAlong, ih, triedAlong, List.append_assoc]
    rfl

theorem call_bounds (table : CidAllocator α) (call : Call α) :
    (table.call call).minCid = table.minCid ∧ (table.call call).maxCid = table.maxCid := by
  cases call with
  | allocate =>
    obtain ⟨_, -, -, after, -, -⟩ := @allocate_looked _ table
    rw [CidAllocator.call, after]
    exact ⟨rfl, rfl⟩
  | insert => exact ⟨rfl, rfl⟩
  | remove => exact ⟨rfl, rfl⟩

theorem after_range (range : table.InRange) (calls : List (Call α)) :
    (table.after calls).InRange ∧ (table.after calls).minCid = table.minCid ∧
      (table.after calls).maxCid = table.maxCid := by
  induction calls generalizing table with
  | nil => exact ⟨range, rfl, rfl⟩
  | cons call calls ih =>
    obtain ⟨min, max⟩ := table.call_bounds call
    have next : (table.call call).InRange := by
      cases call with
      | allocate => exact allocate_range range
      | insert => exact ⟨range.least, range.greatest⟩
      | remove => exact ⟨range.least, range.greatest⟩
    rw [← min, ← max]
    exact ih next

theorem tried_again (range : table.InRange) {cid : UInt16} {later : List (Call α)}
    (allocated : table.allocate.2 = some cid)
    (again : (table.allocate.1.after later).allocate.2 = some cid) {other : UInt16}
    (least : table.minCid ≤ other) (greatest : other ≤ table.maxCid) :
    other ∈ table.allocate.1.triedAlong (later ++ [.allocate]) := by
  obtain ⟨_, -, -, after, found, -⟩ := @allocate_looked _ table
  obtain ⟨first, rfl, here⟩ := found cid allocated
  obtain ⟨between, early, last⟩ := run_ahead later table.allocate.1
  obtain ⟨_, -, tried, -, found, -⟩ := @allocate_looked _ (table.allocate.1.after later)
  obtain ⟨final, rfl, there⟩ := found cid again
  have shifted (i : Nat) : table.allocate.1.ahead i = table.ahead (first + 1 + i) := by
    rw [after, Nat.add_comm (first + 1)]
    exact (Function.iterate_add_apply ..).symm
  have round : table.maxCid.toNat - table.minCid.toNat + 1 ≤ between + (final + 1) := by
    have same : (table.ahead (first + 1 + (between + final))).toNat = (table.ahead first).toNat := by
      rw [← shifted, ← last, ← there, here]
    rw [toNat_ahead range, toNat_ahead range] at same
    have divides := Nat.dvd_of_mod_eq_zero (Nat.sub_mod_eq_zero_of_mod_eq (Nat.add_left_cancel same))
    rw [show table.nextCid.toNat - table.minCid.toNat + (first + 1 + (between + final)) -
      (table.nextCid.toNat - table.minCid.toNat + first) = between + (final + 1) by omega] at divides
    exact Nat.le_of_dvd (by omega) divides
  have next := allocate_range range
  obtain ⟨min, max⟩ : table.allocate.1.minCid = table.minCid ∧
    table.allocate.1.maxCid = table.maxCid := table.call_bounds .allocate
  obtain ⟨places, less, rfl⟩ := exists_ahead next (min ▸ least) (max ▸ greatest)
  rw [min, max] at less
  rw [triedAlong_append, List.mem_append]
  rcases Nat.lt_or_ge places between with before | behind
  · exact .inl (early places before)
  · have inside := tried (places - between) (by omega)
    rw [last, Nat.add_sub_cancel' behind] at inside
    exact .inr (List.mem_append_left _ inside)

/-- The allocator hands out the free identifiers of its range, as long as there are any, and
none again before it has looked at all the others. -/
theorem allocate_ring {min max : UInt16} (ordered : min ≤ max) (calls : List (Call α)) :
    let table := (new min max : CidAllocator α).after calls
    (min ≤ table.nextCid ∧ table.nextCid ≤ max ∧ table.checkedAllocate = .ok table.allocate) ∧
    (∀ cid, table.allocate.2 = some cid → min ≤ cid ∧ cid ≤ max ∧ table.get cid = none) ∧
    (table.allocate.2 = none ↔ ∀ cid, min ≤ cid → cid ≤ max → (table.get cid).isSome) ∧
    ∀ cid later, table.allocate.2 = some cid →
      (table.allocate.1.after later).allocate.2 = some cid →
      ∀ other, min ≤ other → other ≤ max → other ≠ cid → table.get other = none →
        other ∈ table.allocate.1.triedAlong (later ++ [.allocate]) := by
  intro table
  obtain ⟨range, minimum, maximum⟩ : table.InRange ∧ table.minCid = min ∧ table.maxCid = max :=
    @after_range _ (new min max) ⟨UInt16.le_refl _, ordered⟩ calls
  clear_value table
  subst minimum maximum
  refine ⟨⟨range.least, range.greatest, ?_⟩, fun cid => allocate_some range, allocate_none range, ?_⟩
  · unfold checkedAllocate
    rw [if_neg (UInt16.not_lt.mpr ordered), checkedLoop_eq, allocate]
  · intro cid later allocated again other least greatest _ _
    exact tried_again range allocated again least greatest

theorem allocate_ring_last : ((new 0xFFFF 0xFFFF : CidAllocator Unit).after
    [.allocate, .insert 0xFFFF ()]).allocate.2 = none := by
  refine (allocate_ring (UInt16.le_refl _) _).2.2.1.mpr fun cid least greatest => ?_
  obtain rfl := UInt16.le_antisymm greatest least
  rfl

end CidAllocator
end Simble.L2cap
