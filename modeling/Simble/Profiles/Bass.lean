import Simble.Profiles.Announcement
import Simble.Profiles.Characteristics

/-! The sources of a Scan Delegator (`profiles/bass.rs`): a slot for each Broadcast Receive State
characteristic, which control point operations and the owner of a radio fill, change and empty. -/
namespace Simble.Bass
open Simble.Lib Simble.Lib.Reading Simble.Gatt Simble.Bap Simble.Device

/-! ## Octets -/

inductive PeriodicAdvertisingSyncParams where
  | doNotSynchronizeToPa
  | synchronizeToPaPastAvailable
  | synchronizeToPaPastNotAvailable
deriving DecidableEq, Repr

def PeriodicAdvertisingSyncParams.fromU8 (value : UInt8) : Option PeriodicAdvertisingSyncParams :=
  if value = 0x00 then some doNotSynchronizeToPa
  else if value = 0x01 then some synchronizeToPaPastAvailable
  else if value = 0x02 then some synchronizeToPaPastNotAvailable
  else none

inductive PeriodicAdvertisingSyncState where
  | notSynchronizedToPa
  | syncInfoRequest
  | synchronizedToPa
  | failedToSynchronizeToPa
  | noPast
deriving DecidableEq, Repr

namespace PeriodicAdvertisingSyncState

/-- `self as u8` -/
def toU8 : PeriodicAdvertisingSyncState → UInt8
  | notSynchronizedToPa => 0x00
  | syncInfoRequest => 0x01
  | synchronizedToPa => 0x02
  | failedToSynchronizeToPa => 0x03
  | noPast => 0x04

def fromU8 (value : UInt8) : Option PeriodicAdvertisingSyncState :=
  [notSynchronizedToPa, syncInfoRequest, synchronizedToPa, failedToSynchronizeToPa,
    noPast].find? fun state => state.toU8 = value

@[simp] theorem fromU8_toU8 (state : PeriodicAdvertisingSyncState) :
    fromU8 state.toU8 = some state := by
  cases state <;> rfl

end PeriodicAdvertisingSyncState

inductive BigEncryption where
  | notEncrypted
  | broadcastCodeRequired
  | decrypting
  | badCode
deriving DecidableEq, Repr

namespace BigEncryption

/-- `self as u8` -/
def toU8 : BigEncryption → UInt8
  | notEncrypted => 0x00
  | broadcastCodeRequired => 0x01
  | decrypting => 0x02
  | badCode => 0x03

def fromU8 (value : UInt8) : Option BigEncryption :=
  [notEncrypted, broadcastCodeRequired, decrypting, badCode].find? fun encryption =>
    encryption.toU8 = value

@[simp] theorem fromU8_toU8 (encryption : BigEncryption) :
    fromU8 encryption.toU8 = some encryption := by
  cases encryption <;> rfl

end BigEncryption

structure SubgroupInfo where
  bisSync : UInt32
  metadata : Bytes
deriving DecidableEq

def SubgroupInfo.toBytes (subgroup : SubgroupInfo) : Bytes :=
  le 4 subgroup.bisSync.toNat ++ sized subgroup.metadata

def encodeSubgroups (subgroups : List SubgroupInfo) : Bytes :=
  UInt8.ofNat subgroups.length :: subgroups.flatMap SubgroupInfo.toBytes

def subgroupInfo : Reading SubgroupInfo := do
  return ⟨UInt32.ofNat (← littleNumber 4), ← sizedOctets⟩

/-- `decode_subgroups`: what follows the last of them is not looked at. -/
def decodeSubgroups : Reading (List SubgroupInfo) := do times subgroupInfo (← octet).toNat

inductive ControlPointOperation where
  | remoteScanStopped
  | remoteScanStarted
  | addSource (advertiserAddressType : UInt8) (advertiserAddress : Address)
      (advertisingSid : UInt8) (broadcastId : UInt32) (paSync : PeriodicAdvertisingSyncParams)
      (paInterval : UInt16) (subgroups : List SubgroupInfo)
  | modifySource (sourceId : UInt8) (paSync : PeriodicAdvertisingSyncParams)
      (paInterval : UInt16) (subgroups : List SubgroupInfo)
  | setBroadcastCode (sourceId : UInt8) (broadcastCode : Octets 16)
  | removeSource (sourceId : UInt8)

namespace Opcode

def remoteScanStopped : UInt8 := 0x00
def remoteScanStarted : UInt8 := 0x01
def addSource : UInt8 := 0x02
def modifySource : UInt8 := 0x03
def setBroadcastCode : UInt8 := 0x04
def removeSource : UInt8 := 0x05

end Opcode

/-- `<[u8; N]>::try_from(data.get(..)?).ok()?` -/
def octets (n : Nat) : Reading (Octets n) := do given (Octets.tryFrom n (← take n))

namespace ControlPointOperation

def addSourceParams : Reading ControlPointOperation := do
  let advertiserAddressType ← octet
  let advertiserAddress ← octets 6
  let advertisingSid ← octet
  let broadcastId ← littleNumber 3
  let paSync ← given (PeriodicAdvertisingSyncParams.fromU8 (← octet))
  let paInterval ← littleNumber 2
  let subgroups ← decodeSubgroups
  return .addSource advertiserAddressType ⟨advertiserAddress⟩ advertisingSid
    (UInt32.ofNat broadcastId) paSync (UInt16.ofNat paInterval) subgroups

def modifySourceParams : Reading ControlPointOperation := do
  let sourceId ← octet
  let paSync ← given (PeriodicAdvertisingSyncParams.fromU8 (← octet))
  let paInterval ← littleNumber 2
  let subgroups ← decodeSubgroups
  return .modifySource sourceId paSync (UInt16.ofNat paInterval) subgroups

def parse (data : Bytes) : Option ControlPointOperation :=
  match data with
  | [] => none
  | op :: params =>
    if op = Opcode.remoteScanStopped then some .remoteScanStopped
    else if op = Opcode.remoteScanStarted then some .remoteScanStarted
    else if op = Opcode.addSource then (addSourceParams params).map Prod.fst
    else if op = Opcode.modifySource then (modifySourceParams params).map Prod.fst
    else if op = Opcode.setBroadcastCode then
      ((do return .setBroadcastCode (← octet) (← octets 16) :
        Reading ControlPointOperation) params).map Prod.fst
    else if op = Opcode.removeSource then (octet params).map fun found => .removeSource found.1
    else none

end ControlPointOperation

structure BroadcastReceiveState where
  sourceId : UInt8
  sourceAddressType : UInt8
  sourceAddress : Address
  sourceAdvSid : UInt8
  broadcastId : UInt32
  paSyncState : PeriodicAdvertisingSyncState
  bigEncryption : BigEncryption
  badCode : Bytes
  subgroups : List SubgroupInfo
deriving DecidableEq

namespace BroadcastReceiveState

def toBytes (state : BroadcastReceiveState) : Bytes :=
  [state.sourceId] ++ ([state.sourceAddressType] ++ (state.sourceAddress.bytes.toList ++
    ([state.sourceAdvSid] ++ (le 3 state.broadcastId.toNat ++ ([state.paSyncState.toU8] ++
      ([state.bigEncryption.toU8] ++ (state.badCode ++ encodeSubgroups state.subgroups)))))))

/-- The code that failed is there only where one did. -/
def fields : Reading BroadcastReceiveState := do
  let sourceId ← octet
  let sourceAddressType ← octet
  let sourceAddress ← octets 6
  let sourceAdvSid ← octet
  let broadcastId ← littleNumber 3
  let paSyncState ← given (PeriodicAdvertisingSyncState.fromU8 (← octet))
  let bigEncryption ← given (BigEncryption.fromU8 (← octet))
  let badCode ← take (if bigEncryption = .badCode then 16 else 0)
  let subgroups ← decodeSubgroups
  return ⟨sourceId, sourceAddressType, ⟨sourceAddress⟩, sourceAdvSid, UInt32.ofNat broadcastId,
    paSyncState, bigEncryption, badCode, subgroups⟩

def parse (data : Bytes) : Option BroadcastReceiveState := (fields data).map Prod.fst

end BroadcastReceiveState

def Countable (subgroups : List SubgroupInfo) : Prop :=
  subgroups.length ≤ 255 ∧ ∀ subgroup ∈ subgroups, subgroup.metadata.length ≤ 255

theorem recovers_octets {n : Nat} (value : Octets n) : Recovers (octets n) value.toList value := by
  have read : Recovers (octets n) (value.toList ++ []) value := by
    apply (recovers_take value.toList_length).bind
    rw [Octets.tryFrom_toList]
    exact recovers_given value
  rwa [List.append_nil] at read

theorem recovers_subgroupInfo {subgroup : SubgroupInfo} (short : subgroup.metadata.length ≤ 255) :
    Recovers subgroupInfo subgroup.toBytes subgroup := by
  have number : Recovers (littleNumber 4) (le 4 subgroup.bisSync.toNat) _ :=
    recovers_littleNumber subgroup.bisSync.toNat_lt
  apply number.bind
  have metadata := (recovers_sizedOctets short).map (SubgroupInfo.mk subgroup.bisSync)
  rw [UInt32.ofNat_toNat]
  exact metadata

theorem recovers_decodeSubgroups {subgroups : List SubgroupInfo} (countable : Countable subgroups) :
    Recovers decodeSubgroups (encodeSubgroups subgroups) subgroups := by
  obtain ⟨few, short⟩ := countable
  have size : (UInt8.ofNat subgroups.length).toNat = subgroups.length := by
    rw [UInt8.toNat_ofNat', Nat.mod_eq_of_lt (by omega)]
  apply (recovers_octet _).bind
  rw [size]
  exact recovers_times fun subgroup inside => recovers_subgroupInfo (short subgroup inside)

theorem yields_decodeSubgroups : Yields decodeSubgroups Countable := by
  have sizes : Yields sizedOctets fun bytes => bytes.length ≤ 255 := by
    refine (yields_any octet).bind fun count _ => ?_
    intro data bytes rest found
    rw [yields_take _ _ _ _ found]
    exact Nat.le_of_lt_succ count.toNat_lt
  have each : Yields subgroupInfo fun subgroup => subgroup.metadata.length ≤ 255 := by
    refine (yields_any _).bind fun bits _ => ?_
    exact sizes.map fun bytes short => short
  refine (yields_any octet).bind fun count _ => ?_
  intro data subgroups rest found
  obtain ⟨size, short⟩ := yields_times each _ _ _ _ found
  exact ⟨by rw [size]; exact Nat.le_of_lt_succ count.toNat_lt, short⟩

theorem ControlPointOperation.parse_of_unknown {value : Bytes} {op : UInt8}
    (first : value.head? = some op) (unknown : op > Opcode.removeSource) : parse value = none := by
  obtain ⟨params, rfl⟩ := List.head?_eq_some_iff.mp first
  have differs : ∀ known : UInt8, known ≤ Opcode.removeSource → op ≠ known := by
    rintro known least rfl
    exact absurd least (UInt8.not_le.mpr unknown)
  simp only [parse, differs _ (by decide : Opcode.remoteScanStopped ≤ Opcode.removeSource),
    differs _ (by decide : Opcode.remoteScanStarted ≤ Opcode.removeSource),
    differs _ (by decide : Opcode.addSource ≤ Opcode.removeSource),
    differs _ (by decide : Opcode.modifySource ≤ Opcode.removeSource),
    differs _ (by decide : Opcode.setBroadcastCode ≤ Opcode.removeSource),
    differs _ (by decide : Opcode.removeSource ≤ Opcode.removeSource), if_false]

def ControlPointOperation.Fits : ControlPointOperation → Prop
  | .addSource _ _ _ broadcastId _ _ subgroups => broadcastId.toNat < 2 ^ 24 ∧ Countable subgroups
  | .modifySource _ _ _ subgroups => Countable subgroups
  | _ => True

theorem ControlPointOperation.yields_addSourceParams : Yields addSourceParams Fits := by
  refine (yields_any _).bind fun addressType _ => (yields_any _).bind fun address _ =>
    (yields_any _).bind fun sid _ => (yields_littleNumber 3).bind fun broadcastId small =>
    (yields_any _).bind fun _ _ => (yields_any _).bind fun paSync _ =>
    (yields_any _).bind fun interval _ => yields_decodeSubgroups.map fun subgroups countable => ?_
  refine ⟨?_, countable⟩
  rw [UInt32.toNat_ofNat', Nat.mod_eq_of_lt (by omega)]
  exact small

theorem ControlPointOperation.yields_modifySourceParams : Yields modifySourceParams Fits := by
  refine (yields_any _).bind fun sourceId _ => (yields_any _).bind fun _ _ =>
    (yields_any _).bind fun paSync _ => (yields_any _).bind fun interval _ => ?_
  exact yields_decodeSubgroups.map fun subgroups countable => countable

theorem ControlPointOperation.fits_of_parse {value : Bytes} {operation : ControlPointOperation}
    (parsed : parse value = some operation) : operation.Fits := by
  unfold parse at parsed
  split at parsed
  · cases parsed
  · split_ifs at parsed
    · cases parsed
      trivial
    · cases parsed
      trivial
    · obtain ⟨⟨_, rest⟩, found, rfl⟩ := Option.map_eq_some_iff.mp parsed
      exact yields_addSourceParams _ _ _ found
    · obtain ⟨⟨_, rest⟩, found, rfl⟩ := Option.map_eq_some_iff.mp parsed
      exact yields_modifySourceParams _ _ _ found
    · obtain ⟨⟨_, rest⟩, found, rfl⟩ := Option.map_eq_some_iff.mp parsed
      have yields : Yields (do return .setBroadcastCode (← octet) (← octets 16) :
          Reading ControlPointOperation) Fits :=
        (yields_any _).bind fun _ _ => (yields_any _).map fun _ _ => trivial
      exact yields _ _ _ found
    · obtain ⟨found, _, rfl⟩ := Option.map_eq_some_iff.mp parsed
      trivial

/-- What the octets of a receive state have room for, and the code that belongs to it. -/
structure BroadcastReceiveState.Fits (state : BroadcastReceiveState) : Prop where
  broadcast : state.broadcastId.toNat < 2 ^ 24
  code : state.badCode.length = if state.bigEncryption = .badCode then 16 else 0
  subgroups : Countable state.subgroups

theorem BroadcastReceiveState.parse_toBytes {state : BroadcastReceiveState} (fits : state.Fits) :
    parse state.toBytes = some state := by
  have whole : Recovers fields state.toBytes state := by
    apply (recovers_octet _).bind
    apply (recovers_octet _).bind
    apply (recovers_octets _).bind
    apply (recovers_octet _).bind
    have number : Recovers (littleNumber 3) (le 3 state.broadcastId.toNat) _ :=
      recovers_littleNumber fits.broadcast
    apply number.bind
    apply (recovers_octet _).bind
    rw [PeriodicAdvertisingSyncState.fromU8_toU8]
    apply (recovers_given state.paSyncState).bind
    apply (recovers_octet _).bind
    rw [BigEncryption.fromU8_toU8]
    apply (recovers_given state.bigEncryption).bind
    apply (recovers_take fits.code).bind
    have last := (recovers_decodeSubgroups fits.subgroups).map
      (BroadcastReceiveState.mk state.sourceId state.sourceAddressType state.sourceAddress
        state.sourceAdvSid state.broadcastId state.paSyncState state.bigEncryption state.badCode)
    rw [UInt32.ofNat_toNat]
    exact last
  have read := whole []
  rw [List.append_nil] at read
  rw [parse, read]
  rfl

/-! ## The slots -/

structure ScanDelegatorState where
  assistantScanning : Bool
  sources : List (Option BroadcastReceiveState)
  nextSourceId : UInt8

/-- The state of the service, the value handles of its receive states, and the database in
which these are. -/
structure Delegator (H : Type) where
  state : ScanDelegatorState
  receiveStateValueHandles : List UInt16
  db : GattDatabase H

/-- The value of a characteristic: empty for a slot without a source. -/
def slotValue : Option BroadcastReceiveState → Bytes
  | some receiveState => receiveState.toBytes
  | none => []

/-- `sync_states`: what an operation asks for is requested, and not done. -/
def syncStates (paSync : PeriodicAdvertisingSyncParams) (subgroups : List SubgroupInfo) :
    PeriodicAdvertisingSyncState × List SubgroupInfo :=
  (match paSync with
    | .doNotSynchronizeToPa => .notSynchronizedToPa
    | .synchronizeToPaPastAvailable => .syncInfoRequest
    | .synchronizeToPaPastNotAvailable => .notSynchronizedToPa,
  subgroups.map fun subgroup => { subgroup with bisSync := 0 })

namespace ErrorCode

def invalidAttributeValueLength : UInt8 := 0x0D
def insufficientResources : UInt8 := 0x11
def opcodeNotSupported : UInt8 := 0x80
def invalidSourceId : UInt8 := 0x81

end ErrorCode

namespace Delegator
variable {H : Type} (delegator : Delegator H)

/-- `slot_of`, with the source that is there. -/
def slotOf (sourceId : UInt8) : Option (Nat × BroadcastReceiveState) := do
  let index ← delegator.state.sources.findIdx? fun slot => slot.any (·.sourceId = sourceId)
  let source ← (delegator.state.sources[index]?).join
  return (index, source)

/-- `state.sources[index] = ..`, and `publish_slot`. -/
def store (index : Nat) (slot : Option BroadcastReceiveState) : Delegator H :=
  { delegator with
    state := { delegator.state with sources := delegator.state.sources.set index slot }
    db := delegator.db.put (delegator.receiveStateValueHandles.getD index 0) (slotValue slot) }

/-- An operation on one source: it is refused where no slot has it. -/
def onSource (sourceId : UInt8) (act : Nat → BroadcastReceiveState → Delegator H) :
    Except UInt8 Unit × Delegator H :=
  match delegator.slotOf sourceId with
  | none => (.error ErrorCode.invalidSourceId, delegator)
  | some (index, source) => (.ok (), act index source)

/-- What `on_write` does for an operation that could be parsed. -/
def operate : ControlPointOperation → Except UInt8 Unit × Delegator H
  | .remoteScanStopped =>
    (.ok (), { delegator with state := { delegator.state with assistantScanning := false } })
  | .remoteScanStarted =>
    (.ok (), { delegator with state := { delegator.state with assistantScanning := true } })
  | .addSource addressType address advertisingSid broadcastId paSync _ subgroups =>
    match delegator.state.sources.findIdx? Option.isNone with
    | none => (.error ErrorCode.insufficientResources, delegator)
    | some index =>
      let sourceId := delegator.state.nextSourceId
      let counted := { delegator with
        state := { delegator.state with nextSourceId := delegator.state.nextSourceId + 1 } }
      let (paSyncState, subgroups) := syncStates paSync subgroups
      (.ok (), counted.store index (some ⟨sourceId, addressType, address, advertisingSid,
        broadcastId, paSyncState, .notEncrypted, [], subgroups⟩))
  | .modifySource sourceId paSync _ subgroups =>
    delegator.onSource sourceId fun index source =>
      let (paSyncState, subgroups) := syncStates paSync subgroups
      delegator.store index (some { source with paSyncState, subgroups })
  | .setBroadcastCode sourceId _ =>
    delegator.onSource sourceId fun index source =>
      if source.bigEncryption = .broadcastCodeRequired then
        delegator.store index (some { source with bigEncryption := .decrypting })
      else delegator
  | .removeSource sourceId =>
    delegator.onSource sourceId fun index _ => delegator.store index none

def onWrite (value : Bytes) : Except UInt8 Unit × Delegator H :=
  match value.head? with
  | none => (.error ErrorCode.invalidAttributeValueLength, delegator)
  | some op =>
    if op > Opcode.removeSource then (.error ErrorCode.opcodeNotSupported, delegator)
    else
      match ControlPointOperation.parse value with
      | none => (.error ErrorCode.invalidAttributeValueLength, delegator)
      | some operation => delegator.operate operation

def reportSyncOutcome (sourceId : UInt8) (paSyncState : PeriodicAdvertisingSyncState)
    (bisSync : UInt32) : Except UInt8 Unit × Delegator H :=
  delegator.onSource sourceId fun index source =>
    let synced := paSyncState = .synchronizedToPa
    delegator.store index (some { source with
      paSyncState
      subgroups := source.subgroups.map fun subgroup =>
        { subgroup with bisSync := if synced then bisSync else 0 } })

def requireBroadcastCode (sourceId : UInt8) : Except UInt8 Unit × Delegator H :=
  delegator.onSource sourceId fun index source =>
    delegator.store index (some { source with bigEncryption := .broadcastCodeRequired })

/-- `register`: the service, its control point, and so many empty receive states. -/
def register (db : GattDatabase H) (numReceiveStates : Nat) (handler : H) :
    Rust (Delegator H) := do
  let (_, db) ← db.addService (.uuid16 0x184F) true
  let ((_, controlPointValueHandle), db) ← db.addCharacteristic (.uuid16 0x2BC7) 0x0C []
    AttributePermissions.writeOnly
  let (handles, db) ← GattDatabase.registerEach 0x12 .readOnly
    (List.replicate numReceiveStates (.uuid16 0x2BC8, [])) db
  match db.setHandler controlPointValueHandle handler with
  | .error _ => .error .panic
  | .ok db => return ⟨⟨false, List.replicate numReceiveStates none, 0⟩, handles, db⟩

end Delegator

end Simble.Bass
