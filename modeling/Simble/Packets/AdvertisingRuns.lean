import Simble.Packets.AdvertisingSets
import Mathlib.Data.List.Induction

/-! Runs of the table of advertising sets, with what was accepted of each set's data of each
kind kept beside the table. -/
namespace Simble.Packets
open Simble.Lib

/-- A step that changes nothing when it refuses, except for want of memory. -/
def Atomic {σ : Type} (before : σ) (after : AdvResult × σ) : Prop :=
  ∀ error, after.1 = .error error → error ≠ .memoryCapacityExceeded → after.2 = before

theorem Atomic.refused {σ : Type} {before : σ} {error : AdvSetError} :
    Atomic before (.error error, before) := by
  intro _ _ _
  rfl

theorem Atomic.done {σ : Type} {before after : σ} : Atomic before (.ok (), after) := by
  rintro error ⟨⟩

theorem atomic_applyFragment (assembly : Assembly) (operation : UInt8) (data : Bytes)
    (maxLen : Nat) : Atomic assembly (applyFragment assembly operation data maxLen) := by
  rw [applyFragment]
  cases assembly.pending with
  | none => exact .refused
  | some buffer =>
    simp only []
    split_ifs
    · intro error refused other
      exact absurd (Except.error.inj refused).symm other
    · exact .done
    · exact .done

theorem atomic_applyDataOperation (assembly : Assembly) (operation : UInt8) (data : Bytes)
    (maxLen : Nat) : Atomic assembly (applyDataOperation assembly operation data maxLen) := by
  rw [applyDataOperation]
  split_ifs
  · exact .refused
  · exact .done
  · exact .refused
  · exact .done
  · exact .refused
  · exact .done
  · exact atomic_applyFragment assembly operation data maxLen
  · exact .refused

namespace AdvertisingSet
variable (set : AdvertisingSet)

@[simp] theorem withAssembly_assembly (kind : DataKind) :
    set.withAssembly kind (set.assembly kind) = set := by
  cases kind <;> rfl

theorem assembly_withAssembly (kind other : DataKind) (assembly : Assembly) :
    (set.withAssembly kind assembly).assembly other =
      if other = kind then assembly else set.assembly other := by
  cases kind <;> cases other <;> rfl

theorem atomic_applyData (kind : DataKind) (operation : UInt8) (data : Bytes) (maxLen : Nat) :
    Atomic set (set.applyData kind operation data maxLen) := by
  intro error refused other
  rw [applyData]
  simp only [atomic_applyDataOperation (set.assembly kind) operation data maxLen error refused other,
    withAssembly_assembly]

variable (operation : UInt8)

theorem atomic_setAdvertisingData (data : Bytes) (maxLen : Nat) :
    Atomic set (set.setAdvertisingData operation data maxLen) := by
  rw [setAdvertisingData]
  split_ifs
  · exact .refused
  · exact set.atomic_applyData _ operation data maxLen

theorem atomic_setScanResponseData (data : Bytes) (maxLen : Nat) :
    Atomic set (set.setScanResponseData operation data maxLen) := by
  rw [setScanResponseData]
  split_ifs
  · exact .refused
  · exact set.atomic_applyData _ operation data maxLen

theorem atomic_setPeriodicData (data : Bytes) (maxLen : Nat) :
    Atomic set (set.setPeriodicData operation data maxLen) := by
  rw [setPeriodicData]
  split_ifs
  · exact .refused
  · exact .refused
  · exact set.atomic_applyData _ operation data maxLen

end AdvertisingSet

namespace AdvertisingSets
variable (table : AdvertisingSets)

theorem atomic_getMut (handle : UInt8) {change : AdvertisingSet → AdvResult × AdvertisingSet}
    (atomic : ∀ set, Atomic set (change set)) : Atomic table (table.getMut handle change) := by
  rw [getMut]
  cases found : table.get handle with
  | none => exact .refused
  | some set =>
    intro error refused other
    simp only [atomic set error refused other]
    rw [OrdMap.modify_get found]

theorem atomic_setParameters (params : LeSetExtendedAdvertisingParameters) :
    Atomic table (table.setParameters params) := by
  rw [setParameters]
  split_ifs
  · exact .refused
  · cases found : table.get params.advertisingHandle with
    | none =>
      -- A set that is created here does not advertise, so its parameters are not refused.
      have created : AdvertisingSets.get { table with
          sets := table.sets.insert params.advertisingHandle (.new params.advertisingHandle) }
          params.advertisingHandle = some (.new params.advertisingHandle) := by
        rw [get, OrdMap.get_insert, if_pos rfl]
      simp only [getMut, created]
      exact .done
    | some set =>
      apply table.atomic_getMut _
      intro set
      rw [AdvertisingSet.setParameters]
      split_ifs
      · exact .refused
      · exact .done

theorem atomic_setEnable (enable : Bool) (entries : List AdvertisingEnableEntry) :
    Atomic table (table.setEnable enable entries) := by
  rw [setEnable]
  split_ifs
  · exact .done
  · cases table.checkEnable enable entries with
    | error error => exact .refused
    | ok checked => exact .done

/-- A command that is refused changes nothing, except for want of memory. -/
theorem atomic_apply (command : AdvertisingCommand) : Atomic table (table.apply command) := by
  cases command with
  | setParameters params => exact table.atomic_setParameters params
  | setRandomAddress handle address =>
    apply table.atomic_getMut handle
    intro set
    rw [AdvertisingSet.setRandomAddress]
    split_ifs
    · exact .refused
    · exact .done
  | setAdvertisingData handle operation data =>
    exact table.atomic_getMut handle fun set =>
      set.atomic_setAdvertisingData operation data table.maxDataLength
  | setScanResponseData handle operation data =>
    exact table.atomic_getMut handle fun set =>
      set.atomic_setScanResponseData operation data table.maxDataLength
  | setEnable enable entries => exact table.atomic_setEnable enable entries
  | setPeriodicParameters params =>
    apply table.atomic_getMut _
    intro set
    rw [AdvertisingSet.setPeriodicParameters]
    split_ifs
    · exact .refused
    · exact .done
  | setPeriodicData handle operation data =>
    exact table.atomic_getMut handle fun set =>
      set.atomic_setPeriodicData operation data table.maxDataLength
  | setPeriodicEnable enable handle =>
    apply table.atomic_getMut handle
    intro set
    rw [AdvertisingSet.setPeriodicEnable]
    split_ifs
    · exact .refused
    · exact .done
  | remove handle =>
    simp only [apply, remove]
    cases table.get handle with
    | none => exact .refused
    | some set =>
      simp only []
      split_ifs
      · exact .refused
      · exact .done
  | clear =>
    simp only [apply, clear]
    split_ifs
    · exact .refused
    · exact .done

end AdvertisingSets

/-! ## What holds of each set -/

def AdvertisingSet.running (set : AdvertisingSet) : DataKind → Bool
  | .advertising => set.enabled
  | .scanResponse => set.enabled
  | .periodic => set.periodicEnabled

/-- All that a set has was assembled from what was accepted for it, and nothing that it sends is
half assembled: of its scan response, where `strict` holds. -/
structure SetInv (strict : Prop) (maxLen : Nat) (accepted : DataKind → List (UInt8 × Bytes))
    (set : AdvertisingSet) : Prop where
  assembled : ∀ kind, AssembledFrom maxLen (accepted kind) (set.assembly kind)
  params : set.enabled → set.params.isSome
  quiet : ∀ kind, (kind = .scanResponse → strict) → set.running kind →
    (set.assembly kind).pending = none

namespace SetInv
variable {strict : Prop} {maxLen : Nat} {accepted : DataKind → List (UInt8 × Bytes)}
  {set : AdvertisingSet}

theorem advertising (inv : SetInv strict maxLen accepted set) (on : set.enabled) :
    set.advFragments = none := by
  refine inv.quiet .advertising ?_ on
  intro other
  cases other

theorem periodic (inv : SetInv strict maxLen accepted set) (on : set.periodicEnabled) :
    set.periodicFragments = none := by
  refine inv.quiet .periodic ?_ on
  intro other
  cases other

theorem new (handle : UInt8) : SetInv strict maxLen accepted (.new handle) where
  assembled kind := by
    cases kind <;> exact .nothing _
  params := Bool.noConfusion
  quiet kind _ _ := by
    cases kind <;> rfl

theorem pending_none {assembly : Assembly} {operation : UInt8}
    (whole : operation = DataOperation.complete ∨ operation = DataOperation.unchanged)
    (none : assembly.pending = none) (data : Bytes) (maxLen : Nat) :
    (applyDataOperation assembly operation data maxLen).2.pending = Option.none := by
  rw [applyDataOperation]
  rcases whole with complete | unchanged
  · rw [if_pos complete]
    split_ifs
    · exact none
    · rfl
  · rw [if_neg (by rw [unchanged]; decide), if_pos unchanged]
    split_ifs
    · exact none
    · exact none

theorem applyData (inv : SetInv strict maxLen accepted set) (kind : DataKind) {operation : UInt8}
    (guarded : set.running kind →
      operation = DataOperation.complete ∨ operation = DataOperation.unchanged) (data : Bytes) :
    SetInv strict maxLen
      (fun other => if other = kind then AssembledFrom.accept (accepted other) operation data
        (set.applyData kind operation data maxLen).1 else accepted other)
      (set.applyData kind operation data maxLen).2 := by
  rw [AdvertisingSet.applyData]
  have running : ∀ assembly other, (set.withAssembly kind assembly).running other =
      set.running other := by
    intro assembly other
    cases kind <;> cases other <;> rfl
  constructor
  · intro other
    rw [AdvertisingSet.assembly_withAssembly]
    split_ifs with same
    · subst same
      exact (inv.assembled other).apply operation data
    · exact inv.assembled other
  · intro enabled
    have before : set.enabled := by
      cases kind <;> exact enabled
    have params := inv.params before
    cases kind <;> exact params
  · intro other needed on
    rw [running] at on
    rw [AdvertisingSet.assembly_withAssembly]
    split_ifs with same
    · subst same
      exact pending_none (guarded on) (inv.quiet other needed on) data maxLen
    · exact inv.quiet other needed on

theorem of_same {other : AdvertisingSet} (inv : SetInv strict maxLen accepted set)
    (data : ∀ kind, other.assembly kind = set.assembly kind)
    (running : ∀ kind, other.running kind → set.running kind)
    (params : set.params.isSome → other.params.isSome) : SetInv strict maxLen accepted other where
  assembled kind := by
    rw [data]
    exact inv.assembled kind
  params enabled := params (inv.params (running .advertising enabled))
  quiet kind needed on := by
    rw [data]
    exact inv.quiet kind needed (running kind on)

section Inv
variable (inv : SetInv strict maxLen accepted set)
include inv

theorem setRandomAddress (address : Octets 6) :
    SetInv strict maxLen accepted (set.setRandomAddress address).2 := by
  rw [AdvertisingSet.setRandomAddress]
  split_ifs
  · exact inv
  · exact inv.of_same (by rintro ⟨⟩ <;> rfl) (by rintro ⟨⟩ <;> exact id) id

theorem setParameters (params : LeSetExtendedAdvertisingParameters) :
    SetInv strict maxLen accepted (set.setParameters params).2 := by
  rw [AdvertisingSet.setParameters]
  split_ifs
  · exact inv
  · exact inv.of_same (by rintro ⟨⟩ <;> rfl) (by rintro ⟨⟩ <;> exact id) fun _ => rfl

theorem setPeriodicParameters (params : LeSetPeriodicAdvertisingParameters) :
    SetInv strict maxLen accepted (set.setPeriodicParameters params).2 := by
  rw [AdvertisingSet.setPeriodicParameters]
  split_ifs
  · exact inv
  · exact inv.of_same (by rintro ⟨⟩ <;> rfl) (by rintro ⟨⟩ <;> exact id) id

theorem disable :
    SetInv strict maxLen accepted { set with enabled := false } :=
  inv.of_same (by rintro ⟨⟩ <;> rfl)
    (by
      intro kind on
      cases kind
      · cases on
      · cases on
      · exact on) id

theorem enableAs (enable : Bool) (entry : AdvertisingEnableEntry)
    (params : enable → set.params.isSome) (advertising : enable → set.advFragments = none)
    (scanResponse : strict → enable → set.scanRspFragments = none) :
    SetInv strict maxLen accepted (set.enableAs enable entry) where
  assembled kind := by
    have same : (set.enableAs enable entry).assembly kind = set.assembly kind := by
      cases kind <;> rfl
    rw [same]
    exact inv.assembled kind
  params := params
  quiet kind needed on := by
    cases kind with
    | advertising => exact advertising on
    | scanResponse => exact scanResponse (needed rfl) on
    | periodic => exact inv.quiet .periodic needed on

theorem setPeriodicEnable (enable : Bool) :
    SetInv strict maxLen accepted (set.setPeriodicEnable enable).2 := by
  rw [AdvertisingSet.setPeriodicEnable]
  split_ifs with refused
  · exact inv
  · constructor
    · intro kind
      have same := inv.assembled kind
      cases kind <;> exact same
    · exact inv.params
    · intro kind needed on
      cases kind with
      | advertising => exact inv.quiet .advertising needed on
      | scanResponse => exact inv.quiet .scanResponse needed on
      | periodic =>
        have clear : ¬ set.periodicFragments.isSome := fun held => refused ⟨on, .inr held⟩
        exact Option.not_isSome_iff_eq_none.mp clear

end Inv

/-! The three kinds of data differ in what they let through while they are being sent. -/

theorem accept_refused (error : AdvSetError) (kind : DataKind) (operation : UInt8) (data : Bytes) :
    (fun other => if other = kind then AssembledFrom.accept (accepted other) operation data
      (.error error) else accepted other) = accepted := by
  funext other
  rw [AssembledFrom.accept_error, ite_self]

section Inv
variable (inv : SetInv strict maxLen accepted set) (operation : UInt8) (data : Bytes)
include inv

theorem setAdvertisingData :
    SetInv strict maxLen
      (fun other => if other = .advertising then AssembledFrom.accept (accepted other) operation data
        (set.setAdvertisingData operation data maxLen).1 else accepted other)
      (set.setAdvertisingData operation data maxLen).2 := by
  rw [AdvertisingSet.setAdvertisingData]
  split_ifs with refused
  · rw [accept_refused]
    exact inv
  · refine inv.applyData .advertising ?_ data
    intro on
    by_contra neither
    exact refused ⟨on, not_or.mp neither⟩

theorem setScanResponseData :
    SetInv strict maxLen
      (fun other => if other = .scanResponse then AssembledFrom.accept (accepted other) operation data
        (set.setScanResponseData operation data maxLen).1 else accepted other)
      (set.setScanResponseData operation data maxLen).2 := by
  rw [AdvertisingSet.setScanResponseData]
  split_ifs with refused
  · rw [accept_refused]
    exact inv
  · refine inv.applyData .scanResponse ?_ data
    intro on
    by_contra neither
    exact refused ⟨on, (not_or.mp neither).1⟩

theorem setPeriodicData :
    SetInv strict maxLen
      (fun other => if other = .periodic then AssembledFrom.accept (accepted other) operation data
        (set.setPeriodicData operation data maxLen).1 else accepted other)
      (set.setPeriodicData operation data maxLen).2 := by
  rw [AdvertisingSet.setPeriodicData]
  split_ifs with unconfigured refused
  · rw [accept_refused]
    exact inv
  · rw [accept_refused]
    exact inv
  · refine inv.applyData .periodic ?_ data
    intro on
    by_contra neither
    exact refused ⟨on, not_or.mp neither⟩

end Inv

end SetInv

/-! ## The table, and what was accepted for it -/

def AdvertisingCommand.data : AdvertisingCommand → Option (UInt8 × DataKind × UInt8 × Bytes)
  | .setAdvertisingData handle operation data => some (handle, .advertising, operation, data)
  | .setScanResponseData handle operation data => some (handle, .scanResponse, operation, data)
  | .setPeriodicData handle operation data => some (handle, .periodic, operation, data)
  | _ => none

/-- A table, and what was accepted for each of its sets since the set was created. -/
structure Traced where
  table : AdvertisingSets
  accepted : UInt8 → DataKind → List (UInt8 × Bytes)

namespace Traced

def start (maxLen : Nat) : Traced := ⟨.new maxLen, fun _ _ => []⟩

def step (t : Traced) (command : AdvertisingCommand) : Traced where
  table := (t.table.apply command).2
  accepted handle kind :=
    if ((t.table.apply command).2.get handle).isNone then []
    else match command.data with
    | none => t.accepted handle kind
    | some (target, its, operation, data) =>
      if handle = target ∧ kind = its then
        AssembledFrom.accept (t.accepted handle kind) operation data (t.table.apply command).1
      else t.accepted handle kind

/-- The table after `commands`. -/
def run (maxLen : Nat) (commands : List AdvertisingCommand) : Traced := commands.foldl step (start maxLen)

theorem run_concat (maxLen : Nat) (commands : List AdvertisingCommand) (command : AdvertisingCommand) :
    run maxLen (commands ++ [command]) = (run maxLen commands).step command :=
  List.foldl_concat ..

end Traced

/-- Every set that is in the table has what `SetInv` says. -/
def SetsInv (strict : Prop) (maxLen : Nat) (accepted : UInt8 → DataKind → List (UInt8 × Bytes))
    (table : AdvertisingSets) : Prop :=
  ∀ handle set, table.get handle = some set → SetInv strict maxLen (accepted handle) set

namespace SetsInv
variable {strict : Prop} {maxLen : Nat} {accepted : UInt8 → DataKind → List (UInt8 × Bytes)}
  {table : AdvertisingSets}

theorem present (inv : SetsInv strict maxLen accepted table) :
    SetsInv strict maxLen
      (fun handle kind => if (table.get handle).isNone then [] else accepted handle kind) table := by
  intro handle set found
  simpa only [found, Option.isNone_some, Bool.false_eq_true, if_false] using inv handle set found

theorem getMut {after : UInt8 → DataKind → List (UInt8 × Bytes)}
    (inv : SetsInv strict maxLen accepted table) (handle : UInt8)
    {change : AdvertisingSet → AdvResult × AdvertisingSet}
    (others : ∀ other, other ≠ handle → after other = accepted other)
    (own : ∀ set, table.get handle = some set →
      SetInv strict maxLen (after handle) (change set).2) :
    SetsInv strict maxLen after (table.getMut handle change).2 := by
  rw [AdvertisingSets.getMut]
  intro other set found
  cases held : table.get handle with
  | none =>
    rw [held] at found
    by_cases same : other = handle
    · subst same
      rw [held] at found
      cases found
    · rw [others other same]
      exact inv other set found
  | some old =>
    simp only [held] at found
    rw [AdvertisingSets.get, OrdMap.get_modify] at found
    split_ifs at found with same
    · subst same
      obtain ⟨before, -, rfl⟩ := Option.map_eq_some_iff.mp found
      exact own old held
    · rw [others other same]
      exact inv other set found

/-- A step of one set that brings no data. -/
theorem getMut_plain (inv : SetsInv strict maxLen accepted table) (handle : UInt8)
    {change : AdvertisingSet → AdvResult × AdvertisingSet}
    (keeps : ∀ set, SetInv strict maxLen (accepted handle) set →
      SetInv strict maxLen (accepted handle) (change set).2) :
    SetsInv strict maxLen accepted (table.getMut handle change).2 :=
  inv.getMut handle (fun _ _ => rfl) fun set found => keeps set (inv handle set found)

theorem getMut_data (inv : SetsInv strict maxLen accepted table) (handle : UInt8) (kind : DataKind)
    (operation : UInt8) (data : Bytes) {change : AdvertisingSet → AdvResult × AdvertisingSet}
    (keeps : ∀ set, SetInv strict maxLen (accepted handle) set →
      SetInv strict maxLen
        (fun other => if other = kind then AssembledFrom.accept (accepted handle other) operation data
          (change set).1 else accepted handle other) (change set).2) :
    SetsInv strict maxLen
      (fun other its => if other = handle ∧ its = kind then
        AssembledFrom.accept (accepted other its) operation data (table.getMut handle change).1
        else accepted other its)
      (table.getMut handle change).2 := by
  apply inv.getMut handle
  · intro other different
    funext its
    exact if_neg fun both => different both.1
  · intro set found
    have result : (table.getMut handle change).1 = (change set).1 := by
      rw [AdvertisingSets.getMut, found]
    simp only [result, true_and]
    exact keeps set (inv handle set found)

theorem setParameters (inv : SetsInv strict maxLen accepted table)
    (params : LeSetExtendedAdvertisingParameters) :
    SetsInv strict maxLen accepted (table.setParameters params).2 := by
  rw [AdvertisingSets.setParameters]
  split_ifs
  · exact inv
  · refine getMut_plain ?_ _ fun set held => held.setParameters params
    cases found : table.get params.advertisingHandle with
    | some set => exact inv
    | none =>
      intro other set held
      rw [AdvertisingSets.get, OrdMap.get_insert] at held
      split_ifs at held with same
      · rw [← Option.some.inj held]
        exact .new _
      · exact inv other set held

end SetsInv

namespace AdvertisingSets
variable {table : AdvertisingSets} {enable : Bool} {entries : List AdvertisingEnableEntry}

theorem forM_ok {α : Type} {f : α → AdvResult} {items : List α} (checked : items.forM f = .ok ()) :
    ∀ item ∈ items, f item = .ok () := by
  induction items with
  | nil => exact fun _ listed => (List.not_mem_nil listed).elim
  | cons first rest ih =>
    rw [List.forM_eq_forM, List.forM_cons] at checked
    cases head : f first with
    | error error =>
      rw [head] at checked
      cases checked
    | ok value =>
      rw [head] at checked
      exact List.forall_mem_cons.mpr ⟨head, ih checked⟩

theorem checked (passed : table.checkEnable enable entries = .ok ()) :
    ∀ entry ∈ entries, ∃ set, table.get entry.advertisingHandle = some set ∧
      (enable → set.params.isSome ∧ set.advFragments = none) := by
  rw [checkEnable] at passed
  split_ifs at passed
  intro entry among
  have one := forM_ok passed entry among
  cases found : table.get entry.advertisingHandle with
  | none =>
    rw [found] at one
    cases one
  | some set =>
    rw [found] at one
    simp only [] at one
    split_ifs at one with refused
    refine ⟨set, rfl, ?_⟩
    intro enabling
    constructor
    · by_contra missing
      exact refused ⟨enabling, .inl (Option.not_isSome_iff_eq_none.mp missing ▸ rfl)⟩
    · by_contra held
      exact refused ⟨enabling, .inr (Option.isSome_iff_ne_none.mpr held)⟩

theorem get_enabled (sets : OrdMap UInt8 AdvertisingSet) (enable : Bool)
    (entries : List AdvertisingEnableEntry) (handle : UInt8) :
    (entries.foldl (fun sets entry => sets.modify entry.advertisingHandle (·.enableAs enable entry))
        sets).get handle =
      (sets.get handle).map fun set =>
        ((entries.filter (·.advertisingHandle = handle)).getLast?.map
          fun entry => set.enableAs enable entry).getD set := by
  induction entries using List.reverseRecOn with
  | nil => simp
  | append_singleton entries entry ih =>
    rw [List.foldl_concat, OrdMap.get_modify, ih, List.filter_append]
    split_ifs with same
    · subst same
      have last : (entries.filter (·.advertisingHandle = entry.advertisingHandle) ++
          [entry].filter (·.advertisingHandle = entry.advertisingHandle)).getLast? = some entry := by
        simp
      rw [last, Option.map_map]
      congr 1
      funext set
      cases (entries.filter (·.advertisingHandle = entry.advertisingHandle)).getLast? <;> rfl
    · simp [Ne.symm same]

end AdvertisingSets

theorem AdvertisingSets.setEnable_enables {table : AdvertisingSets}
    {entries : List AdvertisingEnableEntry} {entry : AdvertisingEnableEntry} {set : AdvertisingSet}
    (passed : table.checkEnable true entries = .ok ()) (among : entry ∈ entries)
    (found : table.get entry.advertisingHandle = some set) :
    ∃ last, (table.setEnable true entries).2.get entry.advertisingHandle =
      some (set.enableAs true last) := by
  cases named : (entries.filter (·.advertisingHandle = entry.advertisingHandle)).getLast? with
  | none =>
    have empty := List.getLast?_eq_none_iff.mp named
    exact absurd (List.mem_filter.mpr ⟨among, decide_eq_true rfl⟩) (empty ▸ List.not_mem_nil)
  | some last =>
    refine ⟨last, ?_⟩
    rw [setEnable, if_neg (fun off => off.1 rfl), passed]
    rw [get, get_enabled, named, show table.sets.get entry.advertisingHandle = some set from found]
    rfl

/-- No command that enables a set finds its scan response half assembled. -/
def Settled (table : AdvertisingSets) (command : AdvertisingCommand) : Prop :=
  ∀ entries, command = .setEnable true entries → table.checkEnable true entries = .ok () →
    ∀ entry ∈ entries, ∀ set, table.get entry.advertisingHandle = some set →
      set.scanRspFragments = none

namespace SetsInv
variable {strict : Prop} {maxLen : Nat} {accepted : UInt8 → DataKind → List (UInt8 × Bytes)}
  {table : AdvertisingSets}

theorem setEnable (inv : SetsInv strict maxLen accepted table) (enable : Bool)
    (entries : List AdvertisingEnableEntry)
    (settled : strict → Settled table (.setEnable enable entries)) :
    SetsInv strict maxLen accepted (table.setEnable enable entries).2 := by
  rw [AdvertisingSets.setEnable]
  split_ifs with all
  · intro handle set found
    rw [AdvertisingSets.get, OrdMap.get_mapValues] at found
    obtain ⟨before, held, rfl⟩ := Option.map_eq_some_iff.mp found
    exact (inv handle before held).disable
  · cases passed : table.checkEnable enable entries with
    | error error => exact inv
    | ok checked =>
      intro handle set found
      rw [AdvertisingSets.get, AdvertisingSets.get_enabled] at found
      obtain ⟨before, held, rfl⟩ := Option.map_eq_some_iff.mp found
      cases last : (entries.filter (·.advertisingHandle = handle)).getLast? with
      | none => exact inv handle before held
      | some entry =>
        obtain ⟨among, same⟩ := List.mem_filter.mp (List.mem_of_getLast? last)
        have its : entry.advertisingHandle = handle := of_decide_eq_true same
        subst its
        obtain ⟨checked, again, ready⟩ := AdvertisingSets.checked passed entry among
        rw [show table.get entry.advertisingHandle = some before from held] at again
        cases again
        refine (inv _ before held).enableAs enable entry (fun on => (ready on).1)
          (fun on => (ready on).2) ?_
        intro needed on
        subst on
        exact settled needed entries rfl passed entry among before held

theorem remove (inv : SetsInv strict maxLen accepted table) (handle : UInt8) :
    SetsInv strict maxLen accepted (table.remove handle).2 := by
  rw [AdvertisingSets.remove]
  cases table.get handle with
  | none => exact inv
  | some set =>
    simp only []
    split_ifs
    · exact inv
    · intro other found held
      rw [AdvertisingSets.get, OrdMap.get_erase] at held
      split_ifs at held
      exact inv other found held

theorem clear (inv : SetsInv strict maxLen accepted table) :
    SetsInv strict maxLen accepted table.clear.2 := by
  rw [AdvertisingSets.clear]
  split_ifs
  · exact inv
  · intro other found held
    cases held

end SetsInv

open AdvertisingSets

namespace Traced
variable {strict : Prop} {maxLen : Nat}

structure Inv (strict : Prop) (maxLen : Nat) (t : Traced) : Prop where
  sets : SetsInv strict maxLen t.accepted t.table
  limit : t.table.maxDataLength = maxLen

theorem limit_apply (table : AdvertisingSets) (command : AdvertisingCommand) :
    (table.apply command).2.maxDataLength = table.maxDataLength := by
  have getMut : ∀ (table : AdvertisingSets) handle change,
      (table.getMut handle change).2.maxDataLength = table.maxDataLength := by
    intro table handle change
    rw [AdvertisingSets.getMut]
    cases table.get handle <;> rfl
  cases command with
  | setParameters params =>
    rw [apply, AdvertisingSets.setParameters]
    split_ifs
    · rfl
    · exact getMut _ _ _
  | setEnable enable entries =>
    rw [apply, AdvertisingSets.setEnable]
    split_ifs
    · rfl
    · cases table.checkEnable enable entries <;> rfl
  | remove handle =>
    rw [apply, AdvertisingSets.remove]
    cases table.get handle with
    | none => rfl
    | some set =>
      simp only []
      split_ifs <;> rfl
  | clear =>
    rw [apply, AdvertisingSets.clear]
    split_ifs <;> rfl
  | _ => exact getMut _ _ _

theorem step_inv {t : Traced} (inv : Inv strict maxLen t) {command : AdvertisingCommand}
    (settled : strict → Settled t.table command) : Inv strict maxLen (t.step command) := by
  refine ⟨.present ?_, (limit_apply t.table command).trans inv.limit⟩
  have limit := inv.limit
  cases command with
  | setParameters params => exact inv.sets.setParameters params
  | setRandomAddress handle address =>
    exact inv.sets.getMut_plain handle fun set held => held.setRandomAddress address
  | setAdvertisingData handle operation data =>
    apply inv.sets.getMut_data handle .advertising operation data
    intro set held
    rw [limit]
    exact held.setAdvertisingData operation data
  | setScanResponseData handle operation data =>
    apply inv.sets.getMut_data handle .scanResponse operation data
    intro set held
    rw [limit]
    exact held.setScanResponseData operation data
  | setEnable enable entries => exact inv.sets.setEnable enable entries settled
  | setPeriodicParameters params =>
    exact inv.sets.getMut_plain _ fun set held => held.setPeriodicParameters params
  | setPeriodicData handle operation data =>
    apply inv.sets.getMut_data handle .periodic operation data
    intro set held
    rw [limit]
    exact held.setPeriodicData operation data
  | setPeriodicEnable enable handle =>
    exact inv.sets.getMut_plain handle fun set held => held.setPeriodicEnable enable
  | remove handle => exact inv.sets.remove handle
  | clear => exact inv.sets.clear

/-- Every step of a run meets `Settled`, in the table before it. -/
def SettledRun (maxLen : Nat) (commands : List AdvertisingCommand) : Prop :=
  ∀ earlier command later, commands = earlier ++ command :: later →
    Settled (run maxLen earlier).table command

theorem run_inv (commands : List AdvertisingCommand) (settled : strict → SettledRun maxLen commands) :
    Inv strict maxLen (run maxLen commands) := by
  induction commands using List.reverseRecOn with
  | nil =>
    refine ⟨?_, rfl⟩
    intro handle set found
    cases found
  | append_singleton commands command ih =>
    rw [run_concat]
    refine step_inv (ih ?_) ?_
    · intro needed earlier other later split
      exact settled needed earlier other (later ++ [command]) (by rw [split]; simp)
    · intro needed
      exact settled needed commands command [] rfl

end Traced

/-- Nothing that a set sends is half assembled, and no set advertises without parameters. -/
def Ready (table : AdvertisingSets) : Prop :=
  ∀ handle set, table.get handle = some set →
    (set.enabled → set.params.isSome ∧ set.advFragments = none ∧ set.scanRspFragments = none) ∧
      (set.periodicEnabled → set.periodicFragments = none)

/-- In every run: a refused command changes nothing, except for want of memory; each set's data of
each kind is what was accepted for it as a whole, within the limit; a set that advertises has
parameters and whole advertising data, and so with periodic advertising. Nothing at all is sent
half assembled exactly if no set is enabled whose scan response is. -/
theorem advertising_sets_assembled (maxLen : Nat) (commands : List AdvertisingCommand) :
    (∀ (table : AdvertisingSets) (command : AdvertisingCommand) (error : AdvSetError),
      (table.apply command).1 = .error error → error ≠ .memoryCapacityExceeded →
        (table.apply command).2 = table) ∧
    (∀ handle set, (Traced.run maxLen commands).table.get handle = some set →
      (∀ kind, (set.assembly kind).committed.length ≤ maxLen ∧
        ((set.assembly kind).committed = [] ∨ ∃ before block after,
          (Traced.run maxLen commands).accepted handle kind = before ++ block ++ after ∧
            Whole block ∧ (set.assembly kind).committed = block.flatMap Prod.snd)) ∧
      (set.enabled → set.params.isSome ∧ set.advFragments = none) ∧
      (set.periodicEnabled → set.periodicFragments = none)) ∧
    ((∀ earlier later, commands = earlier ++ later → Ready (Traced.run maxLen earlier).table) ↔
      Traced.SettledRun maxLen commands) := by
  refine ⟨?_, ?_, ?_⟩
  · intro table command
    exact table.atomic_apply command
  · intro handle set found
    have kept : Traced.Inv False maxLen (Traced.run maxLen commands) :=
      Traced.run_inv commands False.elim
    have inv := kept.sets handle set found
    refine ⟨?_, ?_, ?_⟩
    · intro kind
      exact ⟨(inv.assembled kind).short, (inv.assembled kind).committed⟩
    · intro on
      exact ⟨inv.params on, inv.advertising on⟩
    · intro on
      exact inv.periodic on
  · constructor
    · intro ready earlier command later split entries enables passed entry among set found
      subst enables
      -- The set that the command names is in the table after it, enabled.
      have after := ready (earlier ++ [.setEnable true entries]) later (by rw [split]; simp)
      rw [Traced.run_concat] at after
      obtain ⟨last, enabled⟩ := AdvertisingSets.setEnable_enables passed among found
      exact ((after _ _ enabled).1 rfl).2.2
    · intro settled earlier later split
      have inv : Traced.Inv True maxLen (Traced.run maxLen earlier) := by
        apply Traced.run_inv earlier
        intro _ first command rest cut
        exact settled first command (rest ++ later) (by rw [split, cut]; simp)
      intro handle set found
      have held := inv.sets handle set found
      exact ⟨fun on => ⟨held.params on, held.advertising on,
        held.quiet .scanResponse (fun _ => trivial) on⟩, held.periodic⟩

/-- A set whose scan response still wants its last fragment is enabled. -/
theorem advertising_scan_response_unfinished :
    ¬ ∀ (maxLen : Nat) (commands : List AdvertisingCommand),
      Ready (Traced.run maxLen commands).table := by
  intro all
  have ready := all maxAdvertisingDataLength
    [.setParameters ⟨1, 3⟩, .setScanResponseData 1 DataOperation.firstFragment [0x02],
      .setEnable true [⟨1, 0, 0⟩]] 1 _ (by rfl)
  exact absurd (ready.1 rfl).2.2 (by decide)

end Simble.Packets
