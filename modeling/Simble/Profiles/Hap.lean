import Simble.Lib.Along
import Simble.Packets.AdvertisingSets
import Simble.Profiles.Characteristics
import Simble.Text

/-! The presets of a hearing aid (`profiles/hap.rs`): which one is active, and what a
client is told of them. -/
namespace Simble.Hap
open Simble.Lib Simble.Gatt List
open scoped Simble.Packets

namespace Opcode
def readPresetsRequest : UInt8 := 0x01
def readPresetResponse : UInt8 := 0x02
def presetChanged : UInt8 := 0x03
def writePresetName : UInt8 := 0x04
def setActivePreset : UInt8 := 0x05
def setNextPreset : UInt8 := 0x06
def setPreviousPreset : UInt8 := 0x07
def setActivePresetSynchronizedLocally : UInt8 := 0x08
def setNextPresetSynchronizedLocally : UInt8 := 0x09
def setPreviousPresetSynchronizedLocally : UInt8 := 0x0A
end Opcode

namespace ErrorCode
def invalidAttributeValueLength : UInt8 := 0x0D
def valueNotAllowed : UInt8 := 0x13
def invalidOpcode : UInt8 := 0x80
def writeNameNotAllowed : UInt8 := 0x81
def presetSynchronizationNotSupported : UInt8 := 0x82
def presetOperationNotPossible : UInt8 := 0x83
def invalidParametersLength : UInt8 := 0x84
def outOfRange : UInt8 := 0xFF
end ErrorCode

namespace ChangeId
def genericUpdate : UInt8 := 0x00
def presetRecordDeleted : UInt8 := 0x01
def presetRecordAvailable : UInt8 := 0x02
def presetRecordUnavailable : UInt8 := 0x03
end ChangeId

def maxPresetNameLength : Nat := 40

inductive HearingAidType where
  | binaural
  | monaural
  | banded

def HearingAidType.code : HearingAidType → UInt8
  | .binaural => 0
  | .monaural => 1
  | .banded => 2

structure HearingAidFeatures where
  hearingAidType : HearingAidType
  presetSynchronizationSupported : Bool
  independentPresets : Bool
  dynamicPresets : Bool
  writablePresetsSupported : Bool

def HearingAidFeatures.toByte (features : HearingAidFeatures) : UInt8 :=
  features.hearingAidType.code ||| features.presetSynchronizationSupported.toUInt8 <<< 2 |||
    features.independentPresets.toUInt8 <<< 3 ||| features.dynamicPresets.toUInt8 <<< 4 |||
    features.writablePresetsSupported.toUInt8 <<< 5

structure PresetRecord where
  index : UInt8
  writable : Bool
  available : Bool
  name : String

def PresetRecord.toBytes (preset : PresetRecord) : Bytes :=
  preset.index :: (preset.writable.toUInt8 ||| preset.available.toUInt8 * 2) :: utf8 preset.name

/-- `HearingAccessState`, and the database that its characteristics are in. -/
structure HearingAccess (H : Type) where
  features : HearingAidFeatures
  presets : OrdMap UInt8 PresetRecord
  activePresetIndex : UInt8
  controlPointIndications : List Bytes
  activePresetIndexValueHandle : UInt16
  db : GattDatabase H

def neighbour (indices : List UInt8) (position : Nat) (isPrevious : Bool) : UInt8 :=
  indices.getD (if isPrevious then (position + indices.length - 1) % indices.length
    else (position + 1) % indices.length) 0

namespace HearingAccess
variable {H : Type} (access : HearingAccess H)

/-- `queue_preset_changed`, of presets that have changed. -/
def presetChanged (presets : OrdMap UInt8 PresetRecord) (change : UInt8)
    (additionalParameters : Bytes) : HearingAccess H :=
  { access with
    presets
    controlPointIndications := access.controlPointIndications ++
      [Opcode.presetChanged :: change :: 1 :: additionalParameters] }

def setActiveIndex (index : UInt8) : HearingAccess H :=
  if access.activePresetIndex = index then access else
  { access with
    activePresetIndex := index
    db := access.db.put access.activePresetIndexValueHandle [index] }

def readPresetsRequest : Bytes → Except UInt8 Unit × HearingAccess H
  | [startIndex, numPresets] =>
    if startIndex = 0 ∨ numPresets = 0 then (.error ErrorCode.outOfRange, access) else
    let presets := ((access.presets.rangeFrom startIndex).take numPresets.toNat).map Prod.snd
    let selected := presets.map PresetRecord.toBytes
    if selected.isEmpty then (.error ErrorCode.outOfRange, access) else
    (.ok (), { access with
      controlPointIndications := access.controlPointIndications ++
        selected.zipIdx.map fun (preset, i) =>
          Opcode.readPresetResponse :: (decide (i = selected.length - 1)).toUInt8 :: preset })
  | _ => (.error ErrorCode.invalidParametersLength, access)

def writePresetName : Bytes → Except UInt8 Unit × HearingAccess H
  | [] => (.error ErrorCode.invalidParametersLength, access)
  | index :: nameBytes =>
    match access.presets.get index with
    | none => (.error ErrorCode.writeNameNotAllowed, access)
    | some preset =>
      if ¬ preset.writable then (.error ErrorCode.writeNameNotAllowed, access)
      else if nameBytes = [] ∨ maxPresetNameLength < nameBytes.length then
        (.error ErrorCode.invalidParametersLength, access)
      else match fromUtf8 nameBytes with
        | none => (.error ErrorCode.valueNotAllowed, access)
        | some name =>
          (.ok (), access.presetChanged
            (access.presets.modify index fun preset => { preset with name })
            ChangeId.genericUpdate (index :: { preset with name }.toBytes))

def setActivePreset (params : Bytes) : Except UInt8 Unit × HearingAccess H :=
  match params.head? with
  | none => (.error ErrorCode.invalidParametersLength, access)
  | some index =>
    if (access.presets.get index).any (·.available) then (.ok (), access.setActiveIndex index)
    else (.error ErrorCode.presetOperationNotPossible, access)

def available : List UInt8 :=
  ((access.presets.entries.map Prod.snd).filter (·.available)).map (·.index)

def setNextOrPreviousPreset (isPrevious : Bool) : Except UInt8 Unit × HearingAccess H :=
  match access.available.findIdx? (· = access.activePresetIndex) with
  | none => (.error ErrorCode.presetOperationNotPossible, access)
  | some position =>
    let newIndex := neighbour access.available position isPrevious
    if newIndex = access.activePresetIndex then
      (.error ErrorCode.presetOperationNotPossible, access)
    else (.ok (), access.setActiveIndex newIndex)

/-- `check_synchronization_supported`, and then the operation. -/
def synchronized (operation : Except UInt8 Unit × HearingAccess H) :
    Except UInt8 Unit × HearingAccess H :=
  if access.features.presetSynchronizationSupported then operation
  else (.error ErrorCode.presetSynchronizationNotSupported, access)

/-- `PresetControlPointHandler::on_write` -/
def onWrite : Bytes → Except UInt8 Unit × HearingAccess H
  | [] => (.error ErrorCode.invalidAttributeValueLength, access)
  | op :: params =>
    if op = Opcode.readPresetsRequest then access.readPresetsRequest params
    else if op = Opcode.writePresetName then access.writePresetName params
    else if op = Opcode.setActivePreset then access.setActivePreset params
    else if op = Opcode.setNextPreset then access.setNextOrPreviousPreset false
    else if op = Opcode.setPreviousPreset then access.setNextOrPreviousPreset true
    else if op = Opcode.setActivePresetSynchronizedLocally then
      access.synchronized (access.setActivePreset params)
    else if op = Opcode.setNextPresetSynchronizedLocally then
      access.synchronized (access.setNextOrPreviousPreset false)
    else if op = Opcode.setPreviousPresetSynchronizedLocally then
      access.synchronized (access.setNextOrPreviousPreset true)
    else (.error ErrorCode.invalidOpcode, access)

def genericUpdate (prevIndex : UInt8) (preset : PresetRecord) : HearingAccess H :=
  access.presetChanged (access.presets.insert preset.index preset) ChangeId.genericUpdate
    (prevIndex :: preset.toBytes)

def deletePreset (index : UInt8) : Except UInt8 Unit × HearingAccess H :=
  if index = access.activePresetIndex then (.error ErrorCode.presetOperationNotPossible, access)
  else match access.presets.get index with
    | none => (.error ErrorCode.presetOperationNotPossible, access)
    | some _ => (.ok (), access.presetChanged (access.presets.erase index)
        ChangeId.presetRecordDeleted [index])

/-- What `set_preset_available` and `set_preset_unavailable` do with a record. -/
def setAvailable (index : UInt8) (available : Bool) (change : UInt8) :
    Except UInt8 Unit × HearingAccess H :=
  match access.presets.get index with
  | none => (.error ErrorCode.presetOperationNotPossible, access)
  | some _ => (.ok (), access.presetChanged
      (access.presets.modify index fun preset => { preset with available }) change [index])

def setPresetAvailable (index : UInt8) : Except UInt8 Unit × HearingAccess H :=
  access.setAvailable index true ChangeId.presetRecordAvailable

def setPresetUnavailable (index : UInt8) : Except UInt8 Unit × HearingAccess H :=
  if index = access.activePresetIndex then (.error ErrorCode.presetOperationNotPossible, access)
  else access.setAvailable index false ChangeId.presetRecordUnavailable

/-- `preset_map` -/
def presetMap (presets : List PresetRecord) : OrdMap UInt8 PresetRecord :=
  presets.foldl (fun map preset => map.insert preset.index preset) .empty

def register (db : GattDatabase H) (features : HearingAidFeatures) (presets : List PresetRecord)
    (handler : H) : Rust (HearingAccess H) := do
  if presets.any fun preset =>
      preset.name.isEmpty ∨ maxPresetNameLength < (utf8 preset.name).length then .error .panic else
  match (presetMap presets).entries with
  | [] => .error .panic
  | (activePresetIndex, _) :: _ =>
    let (_, db) ← db.addService (.uuid16 0x1854) true
    let (_, db) ← db.addCharacteristic (.uuid16 0x2BDA) 0x02 [features.toByte] .readOnly
    let ((_, controlPointValueHandle), db) ← db.addCharacteristic (.uuid16 0x2BDB) 0x28 []
      AttributePermissions.writeOnly
    let ((_, activePresetIndexValueHandle), db) ← db.addCharacteristic (.uuid16 0x2BDC) 0x12
      [activePresetIndex] .readOnly
    match db.setHandler controlPointValueHandle handler with
    | .error _ => .error .panic
    | .ok db => return ⟨features, presetMap presets, activePresetIndex, [],
        activePresetIndexValueHandle, db⟩

inductive Call where
  | write (value : Bytes)
  | genericUpdate (prevIndex : UInt8) (preset : PresetRecord)
  | deletePreset (index : UInt8)
  | setPresetAvailable (index : UInt8)
  | setPresetUnavailable (index : UInt8)
  | takeControlPointIndications

def call : Call → Except UInt8 Unit × HearingAccess H
  | .write value => access.onWrite value
  | .genericUpdate prevIndex preset => (.ok (), access.genericUpdate prevIndex preset)
  | .deletePreset index => access.deletePreset index
  | .setPresetAvailable index => access.setPresetAvailable index
  | .setPresetUnavailable index => access.setPresetUnavailable index
  | .takeControlPointIndications => (.ok (), { access with controlPointIndications := [] })

def next (call : Call) : HearingAccess H := (access.call call).2

/-! ## What a client relies on -/

structure Active : Prop where
  available : ∃ preset, access.presets.get access.activePresetIndex = some preset ∧
    preset.available = true
  published : access.db.value access.activePresetIndexValueHandle = some [access.activePresetIndex]

/-- The first records from an index on, in ascending order, and no more than so many. -/
structure Selects (startIndex numPresets : UInt8) (presets : List PresetRecord) : Prop where
  ascending : presets.Pairwise (·.index < ·.index)
  listed : ∀ preset ∈ presets,
    access.presets.get preset.index = some preset ∧ startIndex ≤ preset.index
  nonempty : presets ≠ []
  few : presets.length ≤ numPresets.toNat
  first : ∀ index other, access.presets.get index = some other → startIndex ≤ index →
    other ∉ presets → presets.length = numPresets.toNat ∧ ∀ preset ∈ presets, preset.index < index

def responses : List PresetRecord → List Bytes
  | [] => []
  | preset :: more =>
    (Opcode.readPresetResponse :: more.isEmpty.toUInt8 :: preset.toBytes) :: responses more

structure Proper (call : Call) : Prop where
  active : (access.next call).Active
  rejected : ∀ code, (access.call call).1 = .error code → access.next call = access
  reads : ∀ params, call = .write (Opcode.readPresetsRequest :: params) →
    (access.call call).1 = .ok () → ∃ startIndex numPresets presets,
      params = [startIndex, numPresets] ∧ access.Selects startIndex numPresets presets ∧
      access.next call = { access with
        controlPointIndications := access.controlPointIndications ++ responses presets }
  returns : ∀ params back, call = .write (Opcode.setNextPreset :: params) →
    (access.call call).1 = .ok () →
    ((access.next call).call (.write (Opcode.setPreviousPreset :: back))).1 = .ok () ∧
    ((access.next call).next (.write (Opcode.setPreviousPreset :: back))).activePresetIndex =
      access.activePresetIndex

/-- The active record is not replaced by one that is not available. -/
def Meets : Call → Prop
  | .genericUpdate _ preset => preset.index = access.activePresetIndex → preset.available = true
  | _ => True

/-! ## Lists of records -/

theorem responses_zipIdx (presets : List PresetRecord) (start : Nat) :
    (((presets.map PresetRecord.toBytes).zipIdx start).map fun (preset, i) =>
      Opcode.readPresetResponse :: (decide (i = start + presets.length - 1)).toUInt8 :: preset) =
        responses presets := by
  induction presets generalizing start with
  | nil => rfl
  | cons preset rest ih =>
    have last : start + (preset :: rest).length - 1 = start + 1 + rest.length - 1 := by
      rw [length_cons]
      omega
    have ends : decide (start = start + 1 + rest.length - 1) = rest.isEmpty := by
      cases rest
      · simp
      · simp only [length_cons, isEmpty_cons, decide_eq_false_iff_not]
        omega
    rw [map_cons, zipIdx_cons, map_cons, last, ih (start + 1), responses]
    dsimp only
    rw [ends]

theorem findIdx?_getElem {indices : List UInt8} (distinct : indices.Nodup) {position : Nat}
    (inside : position < indices.length) :
    indices.findIdx? (· = indices[position]) = some position := by
  refine findIdx?_eq_some_iff_getElem.mpr ⟨inside, decide_eq_true rfl, fun j less same => ?_⟩
  exact less.ne ((distinct.getElem_inj_iff).mp (of_decide_eq_true same))

theorem neighbour_back {indices : List UInt8} (distinct : indices.Nodup) {position : Nat}
    (inside : position < indices.length) : ∃ ahead,
      indices.findIdx? (· = neighbour indices position false) = some ahead ∧
      neighbour indices ahead true = indices[position] := by
  have ahead := Nat.mod_lt (position + 1) (Nat.zero_lt_of_lt inside)
  have back : ((position + 1) % indices.length + indices.length - 1) % indices.length =
      position := by
    rcases Nat.lt_or_ge (position + 1) indices.length with less | least
    · rw [Nat.mod_eq_of_lt less, show position + 1 + indices.length - 1 =
        position + indices.length by omega, Nat.add_mod_right, Nat.mod_eq_of_lt inside]
    · rw [show position + 1 = indices.length by omega, Nat.mod_self, Nat.zero_add,
        Nat.mod_eq_of_lt (by omega)]
      omega
  refine ⟨(position + 1) % indices.length, ?_, ?_⟩
  · rw [neighbour, if_neg Bool.false_ne_true, getD_eq_getElem?_getD,
      getElem?_eq_getElem ahead]
    exact findIdx?_getElem distinct ahead
  · rw [neighbour, if_pos rfl, back, getD_eq_getElem?_getD,
      getElem?_eq_getElem inside]
    rfl

variable {access}

section Own
variable (own : ∀ index preset, access.presets.get index = some preset → preset.index = index)
include own

theorem index_of_mem {entry : UInt8 × PresetRecord} (listed : entry ∈ access.presets.entries) :
    entry.2.index = entry.1 := own _ _ (OrdMap.get_eq_some.mpr listed)

theorem nodup_available : access.available.Nodup := by
  have keys : (access.presets.entries.map Prod.snd).map (·.index) =
      access.presets.entries.map Prod.fst := by
    rw [map_map]
    exact map_congr_left fun entry listed => index_of_mem own listed
  exact (keys ▸ access.presets.keys_nodup).sublist (filter_sublist.map _)

theorem get_of_available {index : UInt8} (listed : index ∈ access.available) : ∃ preset,
    access.presets.get index = some preset ∧ preset.available = true := by
  obtain ⟨preset, inside, rfl⟩ := mem_map.mp listed
  obtain ⟨among, available⟩ := mem_filter.mp inside
  obtain ⟨entry, held, rfl⟩ := mem_map.mp among
  rw [index_of_mem own held]
  exact ⟨entry.2, OrdMap.get_eq_some.mpr held, available⟩

theorem selects_rangeFrom (startIndex numPresets : UInt8)
    (nonempty : ((access.presets.rangeFrom startIndex).take numPresets.toNat).map Prod.snd ≠ []) :
    access.Selects startIndex numPresets
      (((access.presets.rangeFrom startIndex).take numPresets.toNat).map Prod.snd) := by
  have split := take_append_drop numPresets.toNat (access.presets.rangeFrom startIndex)
  have sorted : (access.presets.rangeFrom startIndex).Pairwise fun a b => a.1 < b.1 :=
    access.presets.sorted.filter _
  have listed {entry} (inside : entry ∈ (access.presets.rangeFrom startIndex).take numPresets.toNat) :
      entry ∈ access.presets.entries ∧ startIndex ≤ entry.1 :=
    (mem_filter.mp (mem_of_mem_take inside)).imp_right of_decide_eq_true
  have key {entry} (inside : entry ∈ (access.presets.rangeFrom startIndex).take numPresets.toNat) :
      entry.2.index = entry.1 := index_of_mem own (listed inside).1
  constructor
  · refine pairwise_map.mpr ((sorted.sublist (take_sublist ..)).imp_of_mem ?_)
    intro a b first second less
    rw [key first, key second]
    exact less
  · intro preset among
    obtain ⟨entry, inside, rfl⟩ := mem_map.mp among
    rw [key inside]
    exact ⟨OrdMap.get_eq_some.mpr (listed inside).1, (listed inside).2⟩
  · exact nonempty
  · rw [length_map]
    exact length_take_le ..
  · intro index other found least absent
    have among : (index, other) ∈ access.presets.rangeFrom startIndex :=
      mem_filter.mpr ⟨OrdMap.get_eq_some.mp found, decide_eq_true least⟩
    rw [← split] at among sorted
    have later := (mem_append.mp among).resolve_left fun inside =>
      absent (mem_map.mpr ⟨_, inside, rfl⟩)
    constructor
    · have long : 0 < ((access.presets.rangeFrom startIndex).drop numPresets.toNat).length :=
        length_pos_of_mem later
      rw [length_drop] at long
      rw [length_map, length_take]
      omega
    · intro preset inside
      obtain ⟨entry, early, rfl⟩ := mem_map.mp inside
      rw [key early]
      exact (pairwise_append.mp sorted).2.2 _ early _ later

end Own

/-! ## Steps -/

/-- What holds between calls. -/
structure Sound (access : HearingAccess H) : Prop extends access.Active where
  own : ∀ index preset, access.presets.get index = some preset → preset.index = index

variable (access) in
/-- What a call comes to, of those that do not bring a record. -/
inductive Outcome : Except UInt8 Unit × HearingAccess H → Prop where
  | rejected (code : UInt8) : Outcome (.error code, access)
  | told (indications : List Bytes) :
    Outcome (.ok (), { access with controlPointIndications := indications })
  | changed {index change : UInt8} {parameters : Bytes} {edit : PresetRecord → PresetRecord}
    (same : ∀ preset, (edit preset).index = preset.index)
    (kept : index = access.activePresetIndex →
      ∀ preset, preset.available = true → (edit preset).available = true) :
    Outcome (.ok (), access.presetChanged (access.presets.modify index edit) change parameters)
  | erased {index change : UInt8} {parameters : Bytes} (other : index ≠ access.activePresetIndex) :
    Outcome (.ok (), access.presetChanged (access.presets.erase index) change parameters)
  | activated {index : UInt8}
    (available : (∀ index preset, access.presets.get index = some preset → preset.index = index) →
      ∃ preset, access.presets.get index = some preset ∧ preset.available = true) :
    Outcome (.ok (), access.setActiveIndex index)

theorem Outcome.eq_of_error {result : Except UInt8 Unit × HearingAccess H}
    (outcome : access.Outcome result) {code : UInt8} (error : result.1 = .error code) :
    result.2 = access := by
  cases outcome with
  | rejected => rfl
  | _ => cases error

theorem setActiveIndex_presets (index : UInt8) :
    (access.setActiveIndex index).presets = access.presets := by
  unfold setActiveIndex
  split <;> rfl

theorem setActiveIndex_active (index : UInt8) :
    (access.setActiveIndex index).activePresetIndex = index := by
  unfold setActiveIndex
  split
  · assumption
  · rfl

theorem Outcome.sound {result : Except UInt8 Unit × HearingAccess H}
    (outcome : access.Outcome result) (sound : access.Sound) : result.2.Sound := by
  obtain ⟨⟨⟨preset, active, available⟩, published⟩, own⟩ := sound
  cases outcome with
  | rejected => exact ⟨⟨⟨preset, active, available⟩, published⟩, own⟩
  | told => exact ⟨⟨⟨preset, active, available⟩, published⟩, own⟩
  | @changed index _ _ edit same kept =>
    refine ⟨⟨?_, published⟩, ?_⟩
    · by_cases here : access.activePresetIndex = index
      · refine ⟨edit preset, ?_, kept here.symm preset available⟩
        rw [presetChanged, OrdMap.get_modify, if_pos here, active]
        rfl
      · exact ⟨preset, by rw [presetChanged, OrdMap.get_modify, if_neg here, active], available⟩
    · intro other bound found
      rw [presetChanged, OrdMap.get_modify] at found
      split_ifs at found with here
      · obtain ⟨old, before, rfl⟩ := Option.map_eq_some_iff.mp found
        rw [same, own other old before]
      · exact own other bound found
  | erased other =>
    refine ⟨⟨⟨preset, ?_, available⟩, published⟩, ?_⟩
    · rw [presetChanged, OrdMap.get_erase, if_neg (Ne.symm other), active]
    intro key bound found
    rw [presetChanged, OrdMap.get_erase] at found
    split_ifs at found
    exact own key bound found
  | @activated index target =>
    refine ⟨⟨?_, ?_⟩, ?_⟩
    · rw [setActiveIndex_presets, setActiveIndex_active]
      exact target own
    · unfold setActiveIndex
      split
      · exact published
      · exact GattDatabase.value_put_self (by rw [published]; rfl) _
    · rw [setActiveIndex_presets]
      exact own

variable (access)

theorem outcome_readPresetsRequest (params : Bytes) :
    access.Outcome (access.readPresetsRequest params) := by
  unfold readPresetsRequest
  split
  · split
    · exact .rejected _
    · dsimp only
      split
      · exact .rejected _
      · exact .told _
  · exact .rejected _

theorem outcome_writePresetName (params : Bytes) :
    access.Outcome (access.writePresetName params) := by
  unfold writePresetName
  split
  · exact .rejected _
  · split
    · exact .rejected _
    · split
      · exact .rejected _
      · split
        · exact .rejected _
        · split
          · exact .rejected _
          · exact .changed (fun _ => rfl) fun _ _ available => available

theorem outcome_setActivePreset (params : Bytes) :
    access.Outcome (access.setActivePreset params) := by
  unfold setActivePreset
  split
  · exact .rejected _
  · split
    case isTrue available => exact .activated fun _ => (Option.any_eq_true ..).mp available
    case isFalse => exact .rejected _

theorem outcome_setNextOrPreviousPreset (isPrevious : Bool) :
    access.Outcome (access.setNextOrPreviousPreset isPrevious) := by
  unfold setNextOrPreviousPreset
  split
  · exact .rejected _
  · rename_i position found
    dsimp only
    split
    · exact .rejected _
    · refine .activated fun own => get_of_available own ?_
      obtain ⟨inside, -⟩ := findIdx?_eq_some_iff_getElem.mp found
      have some : 0 < access.available.length := Nat.zero_lt_of_lt inside
      rw [neighbour, getD_eq_getElem?_getD, getElem?_eq_getElem]
      · exact getElem_mem _
      · split <;> exact Nat.mod_lt _ some

theorem outcome_setAvailable {index : UInt8} {available : Bool} {change : UInt8}
    (kept : index = access.activePresetIndex → available = true) :
    access.Outcome (access.setAvailable index available change) := by
  unfold setAvailable
  split
  · exact .rejected _
  · exact .changed (fun _ => rfl) fun here _ _ => kept here

theorem outcome_onWrite (value : Bytes) : access.Outcome (access.onWrite value) := by
  have synchronized {operation} (outcome : access.Outcome operation) :
      access.Outcome (access.synchronized operation) := by
    unfold HearingAccess.synchronized
    split
    · exact outcome
    · exact .rejected _
  cases value with
  | nil => exact .rejected _
  | cons op params =>
    unfold onWrite
    dsimp only
    split_ifs
    · exact access.outcome_readPresetsRequest params
    · exact access.outcome_writePresetName params
    · exact access.outcome_setActivePreset params
    · exact access.outcome_setNextOrPreviousPreset false
    · exact access.outcome_setNextOrPreviousPreset true
    · exact synchronized (access.outcome_setActivePreset params)
    · exact synchronized (access.outcome_setNextOrPreviousPreset false)
    · exact synchronized (access.outcome_setNextOrPreviousPreset true)
    · exact .rejected _

theorem call_outcome {call : Call}
    (plain : ∀ prevIndex preset, call ≠ .genericUpdate prevIndex preset) :
    access.Outcome (access.call call) := by
  cases call with
  | write value => exact access.outcome_onWrite value
  | genericUpdate prevIndex preset => exact absurd rfl (plain prevIndex preset)
  | deletePreset index =>
    unfold HearingAccess.call deletePreset
    dsimp only
    split
    · exact .rejected _
    · split
      · exact .rejected _
      · exact .erased (by assumption)
  | setPresetAvailable index => exact access.outcome_setAvailable fun _ => rfl
  | setPresetUnavailable index =>
    unfold HearingAccess.call setPresetUnavailable
    dsimp only
    split
    · exact .rejected _
    · exact access.outcome_setAvailable fun here => absurd here (by assumption)
  | takeControlPointIndications => exact .told []

variable {access}

theorem setNextOrPreviousPreset_eq {position : Nat} {isPrevious : Bool}
    (found : access.available.findIdx? (· = access.activePresetIndex) = some position)
    (differs : neighbour access.available position isPrevious ≠ access.activePresetIndex) :
    access.setNextOrPreviousPreset isPrevious =
      (.ok (), access.setActiveIndex (neighbour access.available position isPrevious)) := by
  simp only [setNextOrPreviousPreset, found, if_neg differs]

theorem exists_of_accepted {isPrevious : Bool}
    (accepted : (access.setNextOrPreviousPreset isPrevious).1 = .ok ()) : ∃ position,
      access.available.findIdx? (· = access.activePresetIndex) = some position ∧
      neighbour access.available position isPrevious ≠ access.activePresetIndex := by
  unfold setNextOrPreviousPreset at accepted
  split at accepted
  · cases accepted
  · rename_i position found
    refine ⟨position, found, fun same => ?_⟩
    simp only [if_pos same] at accepted
    cases accepted

theorem readPresetsRequest_accepted {params : Bytes}
    (accepted : (access.readPresetsRequest params).1 = .ok ()) :
    ∃ startIndex numPresets presets, params = [startIndex, numPresets] ∧ presets ≠ [] ∧
      presets = ((access.presets.rangeFrom startIndex).take numPresets.toNat).map Prod.snd ∧
      (access.readPresetsRequest params).2 = { access with
        controlPointIndications := access.controlPointIndications ++ responses presets } := by
  unfold readPresetsRequest at accepted ⊢
  split at accepted
  · rename_i startIndex numPresets
    split at accepted
    · cases accepted
    · rename_i proper
      dsimp only at accepted ⊢
      split at accepted
      · cases accepted
      · rename_i some
        refine ⟨startIndex, numPresets, _, rfl, fun none => some (by rw [none]; rfl), rfl, ?_⟩
        rw [if_neg proper, if_neg some, ← responses_zipIdx _ 0, length_map, Nat.zero_add]
  · cases accepted

theorem setPreviousPreset_back (own : ∀ index preset, access.presets.get index = some preset →
    preset.index = index) (accepted : (access.setNextOrPreviousPreset false).1 = .ok ()) :
    ∃ back, (access.setNextOrPreviousPreset false).2.setNextOrPreviousPreset true = (.ok (), back) ∧
      back.activePresetIndex = access.activePresetIndex := by
  obtain ⟨position, found, differs⟩ := exists_of_accepted accepted
  obtain ⟨inside, here, -⟩ := findIdx?_eq_some_iff_getElem.mp found
  obtain ⟨ahead, there, back⟩ := neighbour_back (nodup_available own) inside
  rw [of_decide_eq_true here] at back
  rw [setNextOrPreviousPreset_eq found differs]
  have same (index : UInt8) : (access.setActiveIndex index).available = access.available := by
    rw [available, setActiveIndex_presets, available]
  rw [setNextOrPreviousPreset_eq (by rw [same, setActiveIndex_active, there]), same, back]
  · exact ⟨_, rfl, setActiveIndex_active _⟩
  · rw [same, back, setActiveIndex_active]
    exact Ne.symm differs

theorem Sound.proper (sound : access.Sound) {call : Call} (meets : access.Meets call) :
    (access.next call).Sound ∧ access.Proper call := by
  have own := sound.own
  have kept : (access.next call).Sound := by
    by_cases plain : ∀ prevIndex preset, call ≠ .genericUpdate prevIndex preset
    · exact (access.call_outcome plain).sound sound
    · obtain ⟨prevIndex, preset, rfl⟩ : ∃ prevIndex preset, call = .genericUpdate prevIndex preset := by
        simpa only [not_forall, not_not] using plain
      obtain ⟨old, active, available⟩ := sound.available
      refine ⟨⟨?_, sound.published⟩, fun index bound found => ?_⟩
      · by_cases here : access.activePresetIndex = preset.index
        · refine ⟨preset, ?_, meets here.symm⟩
          exact OrdMap.get_insert.trans (if_pos here)
        · exact ⟨old, (OrdMap.get_insert.trans (if_neg here)).trans active, available⟩
      · replace found := OrdMap.get_insert.symm.trans found
        split_ifs at found with here
        · rw [here, Option.some.inj found]
        · exact own index bound found
  refine ⟨kept, kept.toActive, ?_, ?_, ?_⟩
  · intro code error
    refine Outcome.eq_of_error (access.call_outcome ?_) error
    rintro prevIndex preset rfl
    cases error
  · rintro params rfl accepted
    obtain ⟨startIndex, numPresets, presets, whole, nonempty, rfl, after⟩ :=
      readPresetsRequest_accepted accepted
    exact ⟨startIndex, numPresets, _, whole, selects_rangeFrom own _ _ nonempty, after⟩
  · rintro params back rfl accepted
    obtain ⟨after, returned, same⟩ := setPreviousPreset_back own accepted
    exact ⟨congrArg Prod.fst returned, (congrArg (·.2.activePresetIndex) returned).trans same⟩

/-! ## Registration -/

theorem get_foldl_insert {presets : List PresetRecord} (distinct : (presets.map (·.index)).Nodup)
    (map : OrdMap UInt8 PresetRecord) (index : UInt8) :
    (presets.foldl (fun map preset => map.insert preset.index preset) map).get index =
      (presets.find? (·.index = index)).or (map.get index) := by
  induction presets generalizing map with
  | nil => rfl
  | cons preset rest ih =>
    obtain ⟨fresh, distinct⟩ := nodup_cons.mp distinct
    rw [foldl_cons, ih distinct, OrdMap.get_insert, find?_cons]
    by_cases here : index = preset.index
    · have later : rest.find? (·.index = index) = none := by
        refine find?_eq_none.mpr fun other inside same => fresh ?_
        exact mem_map.mpr ⟨other, inside, (of_decide_eq_true same).trans here⟩
      rw [if_pos here, later, decide_eq_true here.symm]
      rfl
    · rw [if_neg here, decide_eq_false (Ne.symm here)]

def LowestAvailable (presets : List PresetRecord) : Prop := ∀ preset ∈ presets,
  (∀ other ∈ presets, preset.index ≤ other.index) → preset.available = true

variable {db : GattDatabase H} {features : HearingAidFeatures} {presets : List PresetRecord}
  {handler : H}

theorem get_presetMap (distinct : (presets.map (·.index)).Nodup) (index : UInt8) :
    (presetMap presets).get index = presets.find? (·.index = index) :=
  (get_foldl_insert distinct .empty index).trans (Option.or_none ..)

theorem mem_of_get {index : UInt8} {preset : PresetRecord}
    (distinct : (presets.map (·.index)).Nodup) (found : (presetMap presets).get index = some preset) :
    preset ∈ presets ∧ preset.index = index := by
  rw [get_presetMap distinct] at found
  exact ⟨mem_of_find?_eq_some found, by simpa using find?_some found⟩

theorem get_of_mem {preset : PresetRecord} (distinct : (presets.map (·.index)).Nodup)
    (inside : preset ∈ presets) : (presetMap presets).get preset.index = some preset := by
  cases found : (presetMap presets).get preset.index with
  | none =>
    rw [get_presetMap distinct] at found
    exact absurd (decide_eq_true rfl) (find?_eq_none.mp found preset inside)
  | some other =>
    obtain ⟨among, same⟩ := mem_of_get distinct found
    rw [inj_on_of_nodup_map distinct among inside same]

theorem register_spec (below : Device.HandlesBelow db) (distinct : (presets.map (·.index)).Nodup)
    (registered : register db features presets handler = .ok access) :
    access.presets = presetMap presets ∧
    access.db.value access.activePresetIndexValueHandle = some [access.activePresetIndex] ∧
    (∃ preset, access.presets.get access.activePresetIndex = some preset) ∧
    ∀ preset ∈ presets, access.activePresetIndex ≤ preset.index := by
  unfold register at registered
  split at registered
  · cases registered
  · split at registered
    · cases registered
    · rename_i active preset rest first
      obtain ⟨⟨_, _⟩, service, registered⟩ := Rust.bind_eq_ok.mp registered
      obtain ⟨⟨_, _⟩, declared, registered⟩ := Rust.bind_eq_ok.mp registered
      obtain ⟨⟨_, _⟩, pointed, registered⟩ := Rust.bind_eq_ok.mp registered
      obtain ⟨⟨_, _⟩, published, registered⟩ := Rust.bind_eq_ok.mp registered
      have value := (GattDatabase.registered_addCharacteristic
        (((below.add service).addCharacteristic declared).addCharacteristic pointed) published).value
      dsimp only at registered
      split at registered
      · cases registered
      · rename_i attached
        cases registered
        refine ⟨rfl, (GattDatabase.value_setHandler attached _).trans value, ⟨preset, ?_⟩, ?_⟩
        · exact OrdMap.get_eq_some.mpr (first ▸ mem_cons_self)
        · intro other inside
          have listed := OrdMap.get_eq_some.mp (get_of_mem distinct inside)
          have sorted := (presetMap presets).sorted
          rw [first] at listed sorted
          rcases mem_cons.mp listed with same | later
          · exact (congrArg Prod.fst same).ge
          · exact ((pairwise_cons.mp sorted).1 _ later).le

/-- In every run from a registration whose lowest preset is available, in which no update of
the active preset brings one that is not, a client can rely on the presets. -/
theorem active_along (below : Device.HandlesBelow db)
    (distinct : (presets.map (·.index)).Nodup) (lowest : LowestAvailable presets)
    (registered : register db features presets handler = .ok access) {calls : List Call}
    (meets : Along next Meets access calls) : access.Active ∧ Along next Proper access calls := by
  obtain ⟨held, published, ⟨preset, active⟩, least⟩ := register_spec below distinct registered
  have own (index : UInt8) (preset : PresetRecord)
      (found : access.presets.get index = some preset) : preset ∈ presets ∧ preset.index = index :=
    mem_of_get distinct (held ▸ found)
  obtain ⟨inside, same⟩ := own _ _ active
  have sound : access.Sound := ⟨⟨⟨preset, active, lowest preset inside (same ▸ least)⟩, published⟩,
    fun index preset found => (own index preset found).2⟩
  exact ⟨sound.toActive, Along.mono (fun _ _ sound meets => (sound.proper meets).2)
    (fun _ _ sound meets => (sound.proper meets).1) sound meets⟩

def factory : List PresetRecord := [⟨1, true, true, "A"⟩, ⟨4, true, true, "B"⟩]

def plain : HearingAidFeatures := ⟨.monaural, false, false, true, true⟩

theorem active_along_factory : ∃ access : HearingAccess Unit,
    register .new plain factory () = .ok access ∧ access.Active ∧ Along next Proper access
      [.genericUpdate 0 ⟨2, true, false, "C"⟩, .write [1, 1, 9], .write [6], .write [7],
        .setPresetUnavailable 4, .deletePreset 4] := by
  obtain ⟨access, registered, active⟩ : ∃ access : HearingAccess Unit,
      register .new plain factory () = .ok access ∧ access.activePresetIndex = 1 := ⟨_, rfl, rfl⟩
  have available : ∀ preset ∈ factory, preset.available = true := by decide
  refine ⟨access, registered, active_along (.of_built .new) (by decide)
    (fun preset inside _ => available preset inside) registered ?_⟩
  refine ⟨fun same => ?_, trivial, trivial, trivial, trivial, trivial, trivial⟩
  rw [active] at same
  cases same

/-- The active preset is replaced by one that is not available. -/
theorem unavailable_active : ¬ ∀ access : HearingAccess Unit,
    register .new plain factory () = .ok access →
      Along next Proper access [.genericUpdate 0 ⟨1, true, false, "A"⟩] := by
  intro always
  obtain ⟨access, registered, active⟩ : ∃ access : HearingAccess Unit,
      register .new plain factory () = .ok access ∧ access.activePresetIndex = 1 := ⟨_, rfl, rfl⟩
  obtain ⟨⟨preset, found, available⟩, -⟩ := (always access registered).1.active
  rw [show (access.next (.genericUpdate 0 ⟨1, true, false, "A"⟩)).activePresetIndex = 1 from
    active] at found
  cases (OrdMap.get_insert.trans (if_pos rfl)).symm.trans found
  cases available

end HearingAccess
end Simble.Hap
