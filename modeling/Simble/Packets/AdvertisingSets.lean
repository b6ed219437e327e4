import Simble.Octets
import Simble.Lib.OrdMap

/-! The table of extended advertising sets (`AdvertisingSets` of `packets/ext_adv.rs`): their
parameters, their data assembled from fragments, whether they advertise. A command is a function
of the table to its result and the table after it. -/
namespace Simble.Packets
open Simble.Lib

scoped instance linearOrderUInt8 : LinearOrder UInt8 where
  le_refl := UInt8.le_refl
  le_trans _ _ _ := UInt8.le_trans
  lt_iff_le_not_ge a b := by
    simp only [UInt8.lt_iff_toNat_lt, UInt8.le_iff_toNat_le]
    omega
  le_antisymm _ _ := UInt8.le_antisymm
  le_total := UInt8.le_total
  toDecidableLE := inferInstance

namespace DataOperation
def intermediateFragment : UInt8 := 0x00
def firstFragment : UInt8 := 0x01
def lastFragment : UInt8 := 0x02
def complete : UInt8 := 0x03
def unchanged : UInt8 := 0x04
end DataOperation

def maxAdvertisingDataLength : Nat := 1650

inductive AdvSetError where
  | unknownAdvertisingIdentifier
  | invalidParameters
  | commandDisallowed
  | memoryCapacityExceeded
deriving DecidableEq

abbrev AdvResult := Except AdvSetError Unit

structure LeSetExtendedAdvertisingParameters where
  advertisingHandle : UInt8
  advertisingEventProperties : UInt16
deriving DecidableEq

structure LeSetPeriodicAdvertisingParameters where
  advertisingHandle : UInt8
deriving DecidableEq

structure AdvertisingEnableEntry where
  advertisingHandle : UInt8
  duration : UInt16
  maxExtendedAdvertisingEvents : UInt8
deriving DecidableEq

structure AdvertisingSet where
  handle : UInt8
  randomAddress : Option (Octets 6)
  params : Option LeSetExtendedAdvertisingParameters
  advertisingData : Bytes
  scanResponseData : Bytes
  periodicParams : Option LeSetPeriodicAdvertisingParameters
  periodicData : Bytes
  enabled : Bool
  periodicEnabled : Bool
  duration : UInt16
  maxExtendedAdvertisingEvents : UInt8
  advFragments : Option Bytes
  scanRspFragments : Option Bytes
  periodicFragments : Option Bytes
deriving DecidableEq

/-- `AdvertisingSet { handle, ..AdvertisingSet::default() }`. -/
def AdvertisingSet.new (handle : UInt8) : AdvertisingSet where
  handle
  randomAddress := none
  params := none
  advertisingData := []
  scanResponseData := []
  periodicParams := none
  periodicData := []
  enabled := false
  periodicEnabled := false
  duration := 0
  maxExtendedAdvertisingEvents := 0
  advFragments := none
  scanRspFragments := none
  periodicFragments := none

structure Assembly where
  committed : Bytes
  pending : Option Bytes
deriving DecidableEq

def applyFragment (assembly : Assembly) (operation : UInt8) (data : Bytes) (maxLen : Nat) :
    AdvResult × Assembly :=
  match assembly.pending with
  | none => (.error .invalidParameters, assembly)
  | some buffer =>
    if maxLen < buffer.length + data.length then
      (.error .memoryCapacityExceeded, { assembly with pending := none })
    else if operation = DataOperation.lastFragment then (.ok (), ⟨buffer ++ data, none⟩)
    else (.ok (), { assembly with pending := some (buffer ++ data) })

def applyDataOperation (assembly : Assembly) (operation : UInt8) (data : Bytes) (maxLen : Nat) :
    AdvResult × Assembly :=
  if operation = DataOperation.complete then
    if maxLen < data.length then (.error .memoryCapacityExceeded, assembly)
    else (.ok (), ⟨data, none⟩)
  else if operation = DataOperation.unchanged then
    if data ≠ [] ∨ assembly.committed = [] then (.error .invalidParameters, assembly)
    else (.ok (), assembly)
  else if operation = DataOperation.firstFragment then
    if maxLen < data.length then (.error .memoryCapacityExceeded, assembly)
    else (.ok (), { assembly with pending := some data })
  else if operation = DataOperation.intermediateFragment ∨ operation = DataOperation.lastFragment then
    applyFragment assembly operation data maxLen
  else (.error .invalidParameters, assembly)

inductive DataKind where
  | advertising
  | scanResponse
  | periodic
deriving DecidableEq

namespace AdvertisingSet
variable (set : AdvertisingSet)

def assembly : DataKind → Assembly
  | .advertising => ⟨set.advertisingData, set.advFragments⟩
  | .scanResponse => ⟨set.scanResponseData, set.scanRspFragments⟩
  | .periodic => ⟨set.periodicData, set.periodicFragments⟩

def withAssembly : DataKind → Assembly → AdvertisingSet
  | .advertising, a => { set with advertisingData := a.committed, advFragments := a.pending }
  | .scanResponse, a => { set with scanResponseData := a.committed, scanRspFragments := a.pending }
  | .periodic, a => { set with periodicData := a.committed, periodicFragments := a.pending }

/-- What the three `set_..._data` share behind their guards. -/
def applyData (kind : DataKind) (operation : UInt8) (data : Bytes) (maxLen : Nat) :
    AdvResult × AdvertisingSet :=
  let applied := applyDataOperation (set.assembly kind) operation data maxLen
  (applied.1, set.withAssembly kind applied.2)

def connectable : UInt16 := 1

def setRandomAddress (address : Octets 6) : AdvResult × AdvertisingSet :=
  if set.enabled ∧ set.params.any (fun p => p.advertisingEventProperties &&& connectable ≠ 0) then
    (.error .commandDisallowed, set)
  else (.ok (), { set with randomAddress := some address })

def setParameters (params : LeSetExtendedAdvertisingParameters) : AdvResult × AdvertisingSet :=
  if set.enabled then (.error .commandDisallowed, set)
  else (.ok (), { set with params := some params })

def setAdvertisingData (operation : UInt8) (data : Bytes) (maxLen : Nat) :
    AdvResult × AdvertisingSet :=
  if set.enabled ∧ operation ≠ DataOperation.complete ∧ operation ≠ DataOperation.unchanged then
    (.error .commandDisallowed, set)
  else set.applyData .advertising operation data maxLen

def setScanResponseData (operation : UInt8) (data : Bytes) (maxLen : Nat) :
    AdvResult × AdvertisingSet :=
  if set.enabled ∧ operation ≠ DataOperation.complete then (.error .commandDisallowed, set)
  else set.applyData .scanResponse operation data maxLen

def setPeriodicParameters (params : LeSetPeriodicAdvertisingParameters) :
    AdvResult × AdvertisingSet :=
  if set.periodicEnabled then (.error .commandDisallowed, set)
  else (.ok (), { set with periodicParams := some params })

def setPeriodicData (operation : UInt8) (data : Bytes) (maxLen : Nat) :
    AdvResult × AdvertisingSet :=
  if set.periodicParams.isNone then (.error .commandDisallowed, set)
  else if set.periodicEnabled ∧ operation ≠ DataOperation.complete ∧
      operation ≠ DataOperation.unchanged then (.error .commandDisallowed, set)
  else set.applyData .periodic operation data maxLen

def setPeriodicEnable (enable : Bool) : AdvResult × AdvertisingSet :=
  if enable ∧ (set.periodicParams.isNone ∨ set.periodicFragments.isSome) then
    (.error .commandDisallowed, set)
  else (.ok (), { set with periodicEnabled := enable })

def enableAs (enable : Bool) (entry : AdvertisingEnableEntry) : AdvertisingSet :=
  { set with
    enabled := enable
    duration := entry.duration
    maxExtendedAdvertisingEvents := entry.maxExtendedAdvertisingEvents }

end AdvertisingSet

structure AdvertisingSets where
  sets : OrdMap UInt8 AdvertisingSet
  maxDataLength : Nat

namespace AdvertisingSets

def new (maxDataLength : Nat) : AdvertisingSets := ⟨.empty, maxDataLength⟩

variable (table : AdvertisingSets)

def get (handle : UInt8) : Option AdvertisingSet := table.sets.get handle

/-- `get_mut`, and what is done with the set that it finds. -/
def getMut (handle : UInt8) (change : AdvertisingSet → AdvResult × AdvertisingSet) :
    AdvResult × AdvertisingSets :=
  match table.get handle with
  | none => (.error .unknownAdvertisingIdentifier, table)
  | some set => ((change set).1, { table with sets := table.sets.modify handle fun _ => (change set).2 })

def setParameters (params : LeSetExtendedAdvertisingParameters) : AdvResult × AdvertisingSets :=
  if 0xEF < params.advertisingHandle then (.error .invalidParameters, table)
  else
    -- `entry(..).or_insert_with(..)`: the set is there from here on.
    let sets := match table.get params.advertisingHandle with
      | none => table.sets.insert params.advertisingHandle (.new params.advertisingHandle)
      | some _ => table.sets
    { table with sets }.getMut params.advertisingHandle (·.setParameters params)

def checkEnable (enable : Bool) (entries : List AdvertisingEnableEntry) : AdvResult :=
  if entries = [] then .error .invalidParameters
  else if ¬ (entries.map (·.advertisingHandle)).Nodup then .error .invalidParameters
  else entries.forM fun entry =>
    match table.get entry.advertisingHandle with
    | none => .error .unknownAdvertisingIdentifier
    | some set =>
      if enable ∧ (set.params.isNone ∨ set.advFragments.isSome) then .error .commandDisallowed
      else .ok ()

def setEnable (enable : Bool) (entries : List AdvertisingEnableEntry) : AdvResult × AdvertisingSets :=
  if ¬ enable ∧ entries = [] then
    (.ok (), { table with sets := table.sets.mapValues fun set => { set with enabled := false } })
  else
    match table.checkEnable enable entries with
    | .error error => (.error error, table)
    | .ok () => (.ok (), { table with
        sets := entries.foldl (fun sets entry =>
          sets.modify entry.advertisingHandle (·.enableAs enable entry)) table.sets })

def remove (handle : UInt8) : AdvResult × AdvertisingSets :=
  match table.get handle with
  | none => (.error .unknownAdvertisingIdentifier, table)
  | some set =>
    if set.enabled ∨ set.periodicEnabled then (.error .commandDisallowed, table)
    else (.ok (), { table with sets := table.sets.erase handle })

def clear : AdvResult × AdvertisingSets :=
  if table.sets.entries.any fun entry => entry.2.enabled || entry.2.periodicEnabled then
    (.error .commandDisallowed, table)
  else (.ok (), { table with sets := .empty })

end AdvertisingSets

inductive AdvertisingCommand where
  | setParameters (params : LeSetExtendedAdvertisingParameters)
  | setRandomAddress (handle : UInt8) (address : Octets 6)
  | setAdvertisingData (handle operation : UInt8) (data : Bytes)
  | setScanResponseData (handle operation : UInt8) (data : Bytes)
  | setEnable (enable : Bool) (entries : List AdvertisingEnableEntry)
  | setPeriodicParameters (params : LeSetPeriodicAdvertisingParameters)
  | setPeriodicData (handle operation : UInt8) (data : Bytes)
  | setPeriodicEnable (enable : Bool) (handle : UInt8)
  | remove (handle : UInt8)
  | clear
deriving DecidableEq

def AdvertisingSets.apply (table : AdvertisingSets) : AdvertisingCommand → AdvResult × AdvertisingSets
  | .setParameters params => table.setParameters params
  | .setRandomAddress handle address => table.getMut handle (·.setRandomAddress address)
  | .setAdvertisingData handle operation data =>
    table.getMut handle (·.setAdvertisingData operation data table.maxDataLength)
  | .setScanResponseData handle operation data =>
    table.getMut handle (·.setScanResponseData operation data table.maxDataLength)
  | .setEnable enable entries => table.setEnable enable entries
  | .setPeriodicParameters params =>
    table.getMut params.advertisingHandle (·.setPeriodicParameters params)
  | .setPeriodicData handle operation data =>
    table.getMut handle (·.setPeriodicData operation data table.maxDataLength)
  | .setPeriodicEnable enable handle => table.getMut handle (·.setPeriodicEnable enable)
  | .remove handle => table.remove handle
  | .clear => table.clear

/-! ## What an operation makes of assembled data -/

/-- One complete operation, or one first fragment, its intermediates and its last. -/
def Whole (block : List (UInt8 × Bytes)) : Prop :=
  (∃ data, block = [(DataOperation.complete, data)]) ∨
    ∃ first more last, block =
        (DataOperation.firstFragment, first) :: more ++ [(DataOperation.lastFragment, last)] ∧
      ∀ entry ∈ more, entry.1 = DataOperation.intermediateFragment

structure AssembledFrom (maxLen : Nat) (operations : List (UInt8 × Bytes)) (assembly : Assembly) :
    Prop where
  committed : assembly.committed = [] ∨ ∃ before block after,
    operations = before ++ block ++ after ∧ Whole block ∧
      assembly.committed = block.flatMap Prod.snd
  short : assembly.committed.length ≤ maxLen
  pending : ∀ buffer, assembly.pending = some buffer → ∃ before first more,
    operations = before ++ (DataOperation.firstFragment, first) :: more ∧
      (∀ entry ∈ more, entry.1 = DataOperation.intermediateFragment) ∧
      buffer = first ++ more.flatMap Prod.snd

open DataOperation

namespace AssembledFrom
variable {maxLen : Nat} {operations : List (UInt8 × Bytes)} {assembly : Assembly}

theorem nothing (operations : List (UInt8 × Bytes)) : AssembledFrom maxLen operations ⟨[], none⟩ where
  committed := .inl rfl
  short := Nat.zero_le _
  pending _ found := (Option.some_ne_none _ found.symm).elim

theorem committed_later (assembled : AssembledFrom maxLen operations assembly)
    (more : List (UInt8 × Bytes)) :
    assembly.committed = [] ∨ ∃ before block after,
      operations ++ more = before ++ block ++ after ∧ Whole block ∧
        assembly.committed = block.flatMap Prod.snd := by
  rcases assembled.committed with empty | ⟨before, block, after, rfl, whole, same⟩
  · exact .inl empty
  · exact .inr ⟨before, block, after ++ more, List.append_assoc .., whole, same⟩

theorem dropped (assembled : AssembledFrom maxLen operations assembly) :
    AssembledFrom maxLen operations { assembly with pending := none } where
  committed := assembled.committed
  short := assembled.short
  pending _ found := (Option.some_ne_none _ found.symm).elim

def accept (operations : List (UInt8 × Bytes)) (operation : UInt8) (data : Bytes)
    (result : AdvResult) : List (UInt8 × Bytes) :=
  if result = .ok () ∧ operation ≠ DataOperation.unchanged then operations ++ [(operation, data)]
  else operations

theorem accept_error (operations : List (UInt8 × Bytes)) (operation : UInt8) (data : Bytes)
    (error : AdvSetError) : accept operations operation data (.error error) = operations := by
  rw [accept, if_neg]
  rintro ⟨⟨⟩, -⟩

theorem accept_ok {operation : UInt8} (changes : operation ≠ unchanged)
    (operations : List (UInt8 × Bytes)) (data : Bytes) :
    accept operations operation data (.ok ()) = operations ++ [(operation, data)] :=
  if_pos ⟨rfl, changes⟩

theorem applyFragment (assembled : AssembledFrom maxLen operations assembly) {operation : UInt8}
    (fragment : operation = intermediateFragment ∨
      operation = lastFragment) (data : Bytes) :
    AssembledFrom maxLen
      (accept operations operation data (Packets.applyFragment assembly operation data maxLen).1)
      (Packets.applyFragment assembly operation data maxLen).2 := by
  rw [Packets.applyFragment]
  cases held : assembly.pending with
  | none =>
    rw [accept_error]
    exact assembled
  | some buffer =>
    obtain ⟨before, start, more, listed, intermediates, joined⟩ := assembled.pending buffer held
    simp only []
    split_ifs with beyond last
    · rw [accept_error]
      exact assembled.dropped
    · rw [last, accept_ok (by decide)]
      refine ⟨.inr ⟨before, (firstFragment, start) :: more ++
        [(lastFragment, data)], [], ?_, .inr ⟨start, more, data, rfl, intermediates⟩,
        ?_⟩, ?_, ?_⟩
      · simp [listed]
      · simp [joined]
      · rw [List.length_append]
        exact not_lt.mp beyond
      · intro extended found
        cases found
    · have intermediate : operation = intermediateFragment :=
        fragment.resolve_right last
      rw [intermediate, accept_ok (by decide)]
      refine ⟨assembled.committed_later _, assembled.short, ?_⟩
      intro extended found
      refine ⟨before, start, more ++ [(intermediateFragment, data)], ?_, ?_, ?_⟩
      · simp [listed]
      · intro entry among
        rcases List.mem_append.mp among with earlier | here
        · exact intermediates entry earlier
        · rw [List.mem_singleton.mp here]
      · rw [← Option.some.inj found, joined]
        simp

theorem apply (assembled : AssembledFrom maxLen operations assembly) (operation : UInt8)
    (data : Bytes) :
    AssembledFrom maxLen
      (accept operations operation data (applyDataOperation assembly operation data maxLen).1)
      (applyDataOperation assembly operation data maxLen).2 := by
  rw [applyDataOperation]
  split_ifs with complete long unchanged nothing first long fragment
  · rw [accept_error]
    exact assembled
  · rw [complete, accept_ok (by decide)]
    exact ⟨.inr ⟨operations, _, [], (List.append_nil _).symm, .inl ⟨data, rfl⟩, by simp⟩,
      not_lt.mp long, fun _ found => (Option.some_ne_none _ found.symm).elim⟩
  · rw [accept_error]
    exact assembled
  · rw [accept, if_neg fun both => both.2 unchanged]
    exact assembled
  · rw [accept_error]
    exact assembled
  · rw [first, accept_ok (by decide)]
    refine ⟨assembled.committed_later _, assembled.short, ?_⟩
    intro buffer found
    exact ⟨operations, data, [], rfl, fun _ listed => (List.not_mem_nil listed).elim, by
      simpa using (Option.some.inj found).symm⟩
  · exact assembled.applyFragment fragment data
  · rw [accept_error]
    exact assembled

end AssembledFrom

end Simble.Packets
