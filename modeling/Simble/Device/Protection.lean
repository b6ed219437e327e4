import Simble.Gatt.Veil
import Simble.Device.Discovery

/-! Who may see and change a protected value. Permissions ask for an encrypted or authenticated
connection, and nothing in the server looks at them: values are kept by requests that ask for
nothing protected. -/
namespace Simble.Device
open Simble.Lib Simble.Gatt Simble.Att Simble.Crypto List

def readable {H : Type} (db : GattDatabase H) (startHandle endHandle : UInt16) (uuid : Uuid) :
    List (UInt16 × Attribute H) :=
  (db.attributes.range startHandle endHandle).filter fun entry =>
    entry.2.uuid = uuid ∧ entry.2.permissions.read

/-- No attribute is hidden up to the first one whose value has another length,
which ends a list response. -/
def Unhidden {H : Type} (hidden : AttributePermissions → Bool) (length : Nat) :
    List (UInt16 × Attribute H) → Prop
  | [] => True
  | entry :: rest => hidden entry.2.permissions = false ∧
    (entry.2.value.length = length → Unhidden hidden length rest)

namespace VirtualDevice
variable {curve : P256} {H S : Type} (env : Env H S) (device : VirtualDevice curve H S)

section Levels
variable (connection : UInt16)

def isEncrypted : Bool := (device.connections.lookup connection).any fun conn => conn.isEncrypted

def isAuthenticated : Bool := (device.connections.lookup connection).any fun conn =>
  conn.pairingSession.any fun session => session.isAuthenticated

/-- An attribute must not be read on this connection. -/
def hides (permissions : AttributePermissions) : Bool :=
  permissions.encryptRead && !device.isEncrypted connection ||
    permissions.readAuth && !device.isAuthenticated connection

/-- An attribute must not be written on this connection. -/
def locks (permissions : AttributePermissions) : Bool :=
  permissions.encryptWrite && !device.isEncrypted connection ||
    permissions.writeAuth && !device.isAuthenticated connection

end Levels

/-- The attributes whose values the response to a request carries. -/
def shown : AttPdu → List UInt16
  | .readReq handle =>
    match device.gattDb.read handle 0 with
    | .ok _ => [handle]
    | .error _ => []
  | .readBlobReq handle offset =>
    match device.gattDb.read handle offset.toNat with
    | .ok _ => [handle]
    | .error _ => []
  | .readByTypeReq startHandle endHandle uuidBytes
  | .readByGroupTypeReq startHandle endHandle uuidBytes =>
    match typeRange .readByTypeReq startHandle endHandle uuidBytes with
    | .error _ => []
    | .ok uuid =>
      match device.gattDb.readByType startHandle endHandle uuid with
      | [] => []
      | first :: rest => (sameLength first rest).map Prod.fst
  | _ => []

/-- A request reads no attribute that its connection must not read, and writes
none that it must not write. -/
def Unprotected (connection : UInt16) : AttPdu → Prop
  | .readReq handle | .readBlobReq handle _ =>
    ∀ attr, device.gattDb.get handle = some attr → attr.permissions.read = true →
      device.hides connection attr.permissions = false
  | .readByTypeReq startHandle endHandle uuidBytes
  | .readByGroupTypeReq startHandle endHandle uuidBytes =>
    ∀ uuid first rest, typeRange .readByTypeReq startHandle endHandle uuidBytes = .ok uuid →
      readable device.gattDb startHandle endHandle uuid = first :: rest →
        Unhidden (device.hides connection) first.2.value.length (first :: rest)
  | .writeReq handle _ | .writeCmd handle _ =>
    ∀ attr, device.gattDb.checkWritePermitted handle = .ok attr →
      device.locks connection attr.permissions = false
  | .executeWriteReq flags => flags = 0x01 →
    ∀ conn, device.connections.lookup connection = some conn → ∀ chunk ∈ conn.prepareWriteQueue,
      ∀ attr, device.gattDb.checkWritePermitted chunk.handle = .ok attr →
        device.locks connection attr.permissions = false
  | _ => True

end VirtualDevice

section Steps
variable {curve : P256} {H S : Type} (env : Env H S)

open VirtualDevice

/-- A step asks for nothing protected, and the handler it calls, if any, neither
spreads hidden values nor changes locked ones. -/
structure Respects (device : VirtualDevice curve H S) (step : AttStep) : Prop where
  request : ∀ request, AttPdu.parse step.pdu = some request →
    device.Unprotected step.connection request
  blind : ∀ called value attr handler, (called, value) ∈ device.calls step.pdu →
    device.gattDb.get called = some attr → attr.handler = some handler →
      ∀ observer, GattDatabase.Blind (device.hides observer) env.onWrite handler value
  confined : ∀ called value attr handler, (called, value) ∈ device.calls step.pdu →
    device.gattDb.get called = some attr → attr.handler = some handler →
      ∀ handle locked, device.gattDb.get handle = some locked →
        device.locks step.connection locked.permissions = true →
          ((device.gattDb.handledWrite env.onWrite handler called value).2.get handle).map
            Attribute.value = some locked.value

/-- A step shows no value its connection must not read, and changes none it must
not write. -/
structure Enforces (device : VirtualDevice curve H S) (step : AttStep)
    (after : VirtualDevice curve H S) : Prop where
  reads : ∀ request, AttPdu.parse step.pdu = some request → ∀ handle ∈ device.shown request,
    ∀ attr, device.gattDb.get handle = some attr →
      device.hides step.connection attr.permissions = false
  writes : ∀ handle attr, device.gattDb.get handle = some attr →
    device.locks step.connection attr.permissions = true →
      after.storedValue handle = some attr.value

/-- The devices differ in the values that a connection must not read, at most. -/
structure Resembles (observer : UInt16) (device other : VirtualDevice curve H S) : Prop where
  connections : device.connections = other.connections
  gattDb : device.gattDb.Resembles (device.hides observer) other.gattDb

end Steps

namespace VirtualDevice
variable {curve : P256} {H S : Type} {env : Env H S} {device after : VirtualDevice curve H S}
  {connection : UInt16}

section Reading

theorem readByType_eq (db : GattDatabase H) {startHandle endHandle : UInt16}
    (ordered : ¬ startHandle > endHandle) (uuid : Uuid) :
    db.readByType startHandle endHandle uuid =
      (readable db startHandle endHandle uuid).map valueOf := by
  unfold GattDatabase.readByType
  rw [if_neg ordered]
  rfl

theorem typeRange_eq_ok {opcode : Opcode} (other : Opcode) {startHandle endHandle : UInt16} {bytes : Bytes}
    {uuid : Uuid} (ranged : typeRange opcode startHandle endHandle bytes = .ok uuid) :
    ¬ startHandle > endHandle ∧ typeRange other startHandle endHandle bytes = .ok uuid := by
  unfold typeRange at ranged ⊢
  split at ranged
  · contradiction
  · rename_i inside
    refine ⟨fun beyond => inside (.inr beyond), ?_⟩
    rw [if_neg inside]
    cases parsed : Uuid.fromBytes bytes with
    | none =>
      rw [parsed] at ranged
      contradiction
    | some _ =>
      rw [parsed] at ranged
      cases ranged
      rfl

theorem not_hidden_of_mem_takeWhile {hidden : AttributePermissions → Bool} {length : Nat}
    {list : List (UInt16 × Attribute H)} (seen : Unhidden hidden length list)
    {entry : UInt16 × Attribute H}
    (listed : entry ∈ list.takeWhile fun entry => entry.2.value.length = length) :
    hidden entry.2.permissions = false := by
  induction list with
  | nil => contradiction
  | cons first rest ih =>
    obtain ⟨visible, more⟩ := seen
    by_cases same : first.2.value.length = length
    · rw [takeWhile_cons_of_pos (by simpa using same)] at listed
      rcases mem_cons.mp listed with rfl | later
      · exact visible
      · exact ih (more same) later
    · rw [takeWhile_cons_of_neg (by simpa using same)] at listed
      contradiction

theorem read_ok {db : GattDatabase H} {handle : UInt16} {offset : Nat} {value : Bytes}
    (read : db.read handle offset = .ok value) :
    ∃ attr, db.get handle = some attr ∧ attr.permissions.read = true := by
  unfold GattDatabase.read at read
  cases found : db.get handle with
  | none =>
    rw [found] at read
    contradiction
  | some attr =>
    rw [found] at read
    cases readable : attr.permissions.read with
    | false => simp [readable] at read
    | true => exact ⟨attr, rfl, readable⟩

theorem shown_unprotected {request : AttPdu} (respects : device.Unprotected connection request)
    {handle : UInt16} (listed : handle ∈ device.shown request) {attr : Attribute H}
    (found : device.gattDb.get handle = some attr) :
    device.hides connection attr.permissions = false := by
  have single {target : UInt16} {offset : Nat}
      (visible : ∀ attr, device.gattDb.get target = some attr → attr.permissions.read = true →
        device.hides connection attr.permissions = false)
      (here : handle ∈ (match device.gattDb.read target offset with
        | .ok _ => [target]
        | .error _ => [])) : device.hides connection attr.permissions = false := by
    split at here
    · rename_i read
      obtain rfl := mem_singleton.mp here
      obtain ⟨other, same, permitted⟩ := read_ok read
      obtain rfl := Option.some.inj (found.symm.trans same)
      exact visible attr found permitted
    · contradiction
  have several {startHandle endHandle : UInt16} {bytes : Bytes}
      (visible : device.Unprotected connection (.readByTypeReq startHandle endHandle bytes))
      (here : handle ∈ device.shown (.readByTypeReq startHandle endHandle bytes)) :
      device.hides connection attr.permissions = false := by
    unfold shown at here
    dsimp only at here
    split at here
    · contradiction
    · rename_i uuid ranged
      obtain ⟨ordered, -⟩ := typeRange_eq_ok .readByTypeReq ranged
      rw [readByType_eq _ ordered] at here
      cases list : readable device.gattDb startHandle endHandle uuid with
      | nil =>
        rw [list] at here
        contradiction
      | cons first rest =>
        rw [list, map_cons] at here
        dsimp only at here
        rw [sameLength_map, map_map] at here
        obtain ⟨entry, leads, rfl⟩ := mem_map.mp here
        have inside := (mem_leading leads).1
        rw [← list] at inside
        have present := (OrdMap.mem_range.mp (mem_of_mem_filter inside)).1
        obtain rfl := Option.some.inj (found.symm.trans (OrdMap.get_eq_some.mpr present))
        exact not_hidden_of_mem_takeWhile (visible uuid first rest ranged list) leads
  cases request with
  | readReq target => exact single respects listed
  | readBlobReq target offset => exact single respects listed
  | readByTypeReq startHandle endHandle bytes => exact several respects listed
  | readByGroupTypeReq startHandle endHandle bytes => exact several respects listed
  | _ => contradiction

end Reading

section Writing

/-- Committing chunks leaves alone what none of them may write. -/
theorem commit_get_of_locked {handle : UInt16} {attr : Attribute H}
    (queue : List PrepareWriteChunk) {db : GattDatabase H} (found : db.get handle = some attr)
    (locked : ∀ chunk ∈ queue, chunk.handle = handle → attr.permissions.write = false) :
    (commit db queue).get handle = some attr := by
  induction queue generalizing db with
  | nil => exact found
  | cons chunk rest ih =>
    refine ih ?_ fun other listed => locked other (mem_cons_of_mem _ listed)
    change (db.writeOffset chunk.handle chunk.offset.toNat chunk.data).2.get handle = some attr
    unfold GattDatabase.writeOffset
    cases checked : db.checkWritePermitted chunk.handle with
    | error code => exact found
    | ok target =>
      rw [GattDatabase.get_modify_of_ne ?_, found]
      rintro rfl
      obtain ⟨same, permitted⟩ := GattDatabase.checkWritePermitted_eq_ok.mp checked
      obtain rfl := Option.some.inj (found.symm.trans same)
      rw [locked chunk mem_cons_self rfl] at permitted
      contradiction

theorem databaseAfter_locked {request : AttPdu} (respects : device.Unprotected connection request)
    (confined : ∀ called value attr handler,
      (request = .writeReq called value ∨ request = .writeCmd called value) →
      device.gattDb.checkWritePermitted called = .ok attr → attr.handler = some handler →
        ∀ handle locked, device.gattDb.get handle = some locked →
          device.locks connection locked.permissions = true →
            ((device.gattDb.handledWrite env.onWrite handler called value).2.get handle).map
              Attribute.value = some locked.value)
    {handle : UInt16} {attr : Attribute H} (found : device.gattDb.get handle = some attr)
    (locked : device.locks connection attr.permissions = true) :
    ((device.databaseAfter env connection request).get handle).map Attribute.value =
      some attr.value := by
  have kept : (device.gattDb.get handle).map Attribute.value = some attr.value := by
    rw [found]
    rfl
  have written {called : UInt16} {value : Bytes}
      (open' : ∀ attr, device.gattDb.checkWritePermitted called = .ok attr →
        device.locks connection attr.permissions = false)
      (kind : request = .writeReq called value ∨ request = .writeCmd called value) :
      ((device.gattDb.write env.onWrite called value).2.get handle).map Attribute.value =
        some attr.value := by
    unfold GattDatabase.write
    cases checked : device.gattDb.checkWritePermitted called with
    | error code => exact kept
    | ok target =>
      dsimp only
      cases owner : target.handler with
      | some handler =>
        exact confined called value target handler kind checked owner handle attr found locked
      | none =>
        rw [GattDatabase.get_modify_of_ne ?_, kept]
        rintro rfl
        obtain ⟨same, -⟩ := GattDatabase.checkWritePermitted_eq_ok.mp checked
        obtain rfl := Option.some.inj (found.symm.trans same)
        rw [open' attr checked] at locked
        contradiction
  cases request with
  | writeReq called value => exact written respects (.inl rfl)
  | writeCmd called value => exact written respects (.inr rfl)
  | executeWriteReq flags =>
    unfold databaseAfter
    cases known : device.connections.lookup connection with
    | none => exact kept
    | some conn =>
      dsimp only
      split
      · rename_i commits
        rw [commit_get_of_locked conn.prepareWriteQueue found]
        · rfl
        · rintro chunk listed rfl
          by_contra permitted
          have checked : device.gattDb.checkWritePermitted chunk.handle = .ok attr :=
            GattDatabase.checkWritePermitted_eq_ok.mpr ⟨found, by simpa using permitted⟩
          rw [respects commits conn known chunk listed attr checked] at locked
          contradiction
      · exact kept
  | _ => exact kept

end Writing

section Connections

def connectionUpdate : AttPdu → Option (ConnectionState curve → ConnectionState curve)
  | .exchangeMtuReq clientRxMtu =>
    some fun conn => { conn with mtu := max (min clientRxMtu serverRxMtu) 23 }
  | .prepareWriteReq handle offset partValue => some fun conn =>
    { conn with prepareWriteQueue := conn.prepareWriteQueue ++ [⟨handle, offset, partValue⟩] }
  | .executeWriteReq _ => some fun conn => { conn with prepareWriteQueue := [] }
  | .handleValueCfm => some fun conn => { conn with pendingIndication := false }
  | _ => none

def connectionsAfter (device : VirtualDevice curve H S) (connection : UInt16) (request : AttPdu) :
    Map UInt16 (ConnectionState curve) :=
  match connectionUpdate request with
  | none => device.connections
  | some change => (device.modifyConnection connection change).connections

theorem writeAttribute_connections (env : Env H S) (connection handle : UInt16) (value : Bytes) :
    (device.writeAttribute env connection handle value).2.connections = device.connections := by
  unfold writeAttribute onCccdWritten
  dsimp only
  split
  · split
    · rfl
    · split
      · rfl
      · split <;> rfl
  · rfl

theorem onWriteReq_connections (connection handle : UInt16) (value : Bytes) :
    (device.onWriteReq env connection handle value).2.connections = device.connections := by
  refine Eq.trans ?_ (writeAttribute_connections env connection handle value)
  unfold onWriteReq
  split <;> simp_all

theorem dispatchAtt_connections {op : UInt8} {request : AttPdu} {response : Option Bytes}
    (processed : device.dispatchAtt env connection op request = .ok (response, after)) :
    after.connections = device.connectionsAfter connection request := by
  cases request with
  | writeReq handle value =>
    exact (congrArg (fun out => out.2.connections) (Except.ok.inj processed)).symm.trans
      (onWriteReq_connections connection handle value)
  | writeCmd handle value =>
    cases processed
    exact writeAttribute_connections env connection handle value
  | executeWriteReq flags =>
    cases processed
    unfold connectionsAfter connectionUpdate modifyConnection
    cases known : device.connections.lookup connection with
    | none => rfl
    | some conn =>
      dsimp only
      split <;> rfl
  | readByGroupTypeReq =>
    obtain ⟨body, -, result⟩ := Rust.bind_eq_ok.mp processed
    cases result
    rfl
  | _ =>
    cases processed
    rfl

theorem lookup_modifyConnection (change : ConnectionState curve → ConnectionState curve)
    (other : UInt16) : (device.modifyConnection connection change).connections.lookup other =
      if other = connection then (device.connections.lookup other).map change
      else device.connections.lookup other := by
  unfold modifyConnection
  by_cases same : other = connection
  · subst same
    rw [if_pos rfl]
    cases known : device.connections.lookup other with
    | none => simp [known]
    | some conn => exact AList.lookup_insert _
  · rw [if_neg same]
    split
    · rfl
    · exact AList.lookup_insert_ne same

section Processed
variable {op : UInt8} {request : AttPdu} {response : Option Bytes}
  (processed : device.dispatchAtt env connection op request = .ok (response, after))
  (observer : UInt16)
include processed

theorem dispatchAtt_sessions : (after.connections.lookup observer).map
      (fun conn => (conn.isEncrypted, conn.pairingSession)) =
        (device.connections.lookup observer).map
          fun conn => (conn.isEncrypted, conn.pairingSession) := by
  rw [dispatchAtt_connections processed]
  unfold connectionsAfter
  cases updates : (connectionUpdate request : Option (ConnectionState curve → _)) with
  | none => rfl
  | some change =>
    rw [lookup_modifyConnection]
    split
    · have kept (conn : ConnectionState curve) : ((change conn).isEncrypted,
          (change conn).pairingSession) = (conn.isEncrypted, conn.pairingSession) := by
        cases request with
        | exchangeMtuReq | prepareWriteReq | executeWriteReq | handleValueCfm =>
          cases updates
          rfl
        | _ => contradiction
      rw [Option.map_map]
      exact congrArg (fun view => (device.connections.lookup observer).map view) (funext kept)
    · rfl

theorem hides_after : after.hides observer = device.hides observer := by
  have same := dispatchAtt_sessions processed observer
  have encrypted : after.isEncrypted observer = device.isEncrypted observer := by
    have flags := congrArg (Option.any Prod.fst) same
    rwa [Option.any_map, Option.any_map] at flags
  have authenticated : after.isAuthenticated observer = device.isAuthenticated observer := by
    have flags := congrArg (Option.any fun view => view.2.any fun session =>
      session.isAuthenticated) same
    rwa [Option.any_map, Option.any_map] at flags
  funext permissions
  unfold hides
  rw [encrypted, authenticated]

end Processed

end Connections

section Noninterference
variable {other : VirtualDevice curve H S} {hidden : AttributePermissions → Bool}

theorem map_eq_of_alike {ε : Type} {left right : List (UInt16 × Attribute H)}
    (alike : List.Forall₂ (AlikeEntries hidden) left right) (view : UInt16 × Attribute H → ε)
    (respects : ∀ a b, AlikeEntries hidden a b → view a = view b) :
    left.map view = right.map view := by
  induction alike with
  | nil => rfl
  | cons same _ ih => rw [map_cons, map_cons, respects _ _ same, ih]

theorem takeWhile_eq_of_alike {length : Nat} {left right : List (UInt16 × Attribute H)}
    (alike : List.Forall₂ (AlikeEntries hidden) left right) (seen : Unhidden hidden length left) :
    (left.takeWhile fun entry => entry.2.value.length = length) =
      right.takeWhile fun entry => entry.2.value.length = length := by
  induction alike with
  | nil => rfl
  | @cons a b left right same _ ih =>
    obtain ⟨visible, more⟩ := seen
    obtain rfl : a = b := Prod.ext same.1 (same.2.eq visible)
    by_cases equal : a.2.value.length = length
    · rw [takeWhile_cons_of_pos (by simpa using equal),
        takeWhile_cons_of_pos (by simpa using equal), ih (more equal)]
    · rw [takeWhile_cons_of_neg (by simpa using equal),
        takeWhile_cons_of_neg (by simpa using equal)]

theorem readable_alike {db other : GattDatabase H} (alike : db.Resembles hidden other)
    (startHandle endHandle : UInt16) (uuid : Uuid) :
    List.Forall₂ (AlikeEntries hidden) (readable db startHandle endHandle uuid)
      (readable other startHandle endHandle uuid) := by
  refine rel_filter ?_ (alike.filter ?_)
  · rintro a b ⟨-, same⟩
    simp [same.uuid, same.permissions]
  · rintro a b ⟨key, -⟩
    simp [key]

theorem read_alike {db other : GattDatabase H} (alike : db.Resembles hidden other)
    {handle : UInt16} (offset : Nat) (seen : ∀ attr, db.get handle = some attr →
      attr.permissions.read = true → hidden attr.permissions = false) :
    db.read handle offset = other.read handle offset := by
  have found := alike.get handle
  unfold GattDatabase.read
  generalize db.get handle = first at found seen ⊢
  generalize other.get handle = second at found ⊢
  cases found with
  | none => rfl
  | @some a b same =>
    cases readable : a.permissions.read with
    | true =>
      obtain rfl := same.eq (seen a rfl readable)
      rfl
    | false => simp [readable, ← same.permissions]

theorem groupEnd_alike {left right : List (UInt16 × Attribute H)}
    (alike : List.Forall₂ (AlikeEntries hidden) left right) (stop : UInt16) :
    GattDatabase.groupEnd stop left = GattDatabase.groupEnd stop right := by
  induction alike generalizing stop with
  | nil => rfl
  | cons same _ ih =>
    unfold GattDatabase.groupEnd
    rw [← same.2.uuid, ← same.1, ih]

theorem groupData_alike (alike : device.gattDb.Resembles hidden other.gattDb) :
    device.groupData = other.groupData := by
  have ends (handle : UInt16) :
      device.gattDb.groupEndHandle handle = other.gattDb.groupEndHandle handle := by
    unfold GattDatabase.groupEndHandle OrdMap.rangeFrom
    rw [groupEnd_alike (alike.filter _)]
    rintro a b ⟨key, -⟩
    simp [key]
  unfold groupData
  simp only [ends]

section Alike
variable (alike : Resembles connection device other) {startHandle endHandle : UInt16}
  {bytes : Bytes}
include alike

theorem readByType_alike {uuid : Uuid}
    (seen : device.Unprotected connection (.readByTypeReq startHandle endHandle bytes))
    (ranged : typeRange .readByTypeReq startHandle endHandle bytes = .ok uuid) :
    (device.gattDb.readByType startHandle endHandle uuid = [] ∧
      other.gattDb.readByType startHandle endHandle uuid = []) ∨
    ∃ first rest rest', device.gattDb.readByType startHandle endHandle uuid = first :: rest ∧
      other.gattDb.readByType startHandle endHandle uuid = first :: rest' ∧
      sameLength first rest = sameLength first rest' := by
  obtain ⟨ordered, -⟩ := typeRange_eq_ok .readByTypeReq ranged
  rw [readByType_eq _ ordered, readByType_eq _ ordered]
  have lists := readable_alike alike.gattDb startHandle endHandle uuid
  have visible := fun first rest => seen uuid first rest ranged
  generalize readable device.gattDb startHandle endHandle uuid = left at lists visible ⊢
  generalize readable other.gattDb startHandle endHandle uuid = right at lists ⊢
  cases lists with
  | nil => exact .inl ⟨rfl, rfl⟩
  | @cons a b left right same tail =>
    have unhidden := visible a left rfl
    obtain rfl : a = b := Prod.ext same.1 (same.2.eq unhidden.1)
    refine .inr ⟨valueOf a, left.map valueOf, right.map valueOf, rfl, rfl, ?_⟩
    rw [sameLength_map, sameLength_map]
    unfold leading
    rw [takeWhile_eq_of_alike (.cons same tail) unhidden]

theorem onReadByTypeReq_alike
    (seen : device.Unprotected connection (.readByTypeReq startHandle endHandle bytes)) :
    device.onReadByTypeReq startHandle endHandle bytes =
      other.onReadByTypeReq startHandle endHandle bytes := by
  unfold onReadByTypeReq
  cases ranged : typeRange .readByTypeReq startHandle endHandle bytes with
  | error response => rfl
  | ok uuid =>
    dsimp only
    rcases readByType_alike alike seen ranged with ⟨left, right⟩ | ⟨first, rest, rest', left, right, same⟩
    · rw [left, right]
    · rw [left, right]
      dsimp only
      rw [same]

theorem onReadByGroupTypeReq_alike
    (seen : device.Unprotected connection (.readByTypeReq startHandle endHandle bytes)) :
    device.onReadByGroupTypeReq startHandle endHandle bytes =
      other.onReadByGroupTypeReq startHandle endHandle bytes := by
  unfold onReadByGroupTypeReq
  cases ranged : typeRange .readByGroupTypeReq startHandle endHandle bytes with
  | error response => rfl
  | ok uuid =>
    dsimp only
    rcases readByType_alike alike seen (typeRange_eq_ok _ ranged).2 with
      ⟨left, right⟩ | ⟨first, rest, rest', left, right, same⟩
    · rw [left, right]
    · rw [left, right]
      dsimp only
      rw [same, groupData_alike alike.gattDb]

end Alike

theorem writeAttribute_fst (connection handle : UInt16) (value : Bytes) :
    (device.writeAttribute env connection handle value).1 =
      (device.gattDb.write env.onWrite handle value).1 := by
  unfold writeAttribute
  dsimp only
  split
  · rename_i done _
    exact done.symm
  · rfl

theorem onWriteReq_fst (connection handle : UInt16) (value : Bytes) :
    (device.onWriteReq env connection handle value).1 =
      match (device.gattDb.write env.onWrite handle value).1 with
      | .ok () => some [Opcode.writeRsp.byte]
      | .error code => some (errorRsp Opcode.writeReq.byte handle code) := by
  rw [← writeAttribute_fst connection handle value]
  unfold onWriteReq
  generalize device.writeAttribute env connection handle value = written
  obtain ⟨outcome, written⟩ := written
  cases outcome <;> rfl

def CallsBlind (env : Env H S) (device : VirtualDevice curve H S)
    (hidden : AttributePermissions → Bool) (request : AttPdu) : Prop :=
  ∀ handle value, (request = .writeReq handle value ∨ request = .writeCmd handle value) →
    ∀ attr handler, device.gattDb.checkWritePermitted handle = .ok attr →
      attr.handler = some handler → GattDatabase.Blind hidden env.onWrite handler value

theorem response_alike {op : UInt8} {request : AttPdu} {response response' : Option Bytes}
    {after' : VirtualDevice curve H S} (alike : Resembles connection device other)
    (seen : device.Unprotected connection request)
    (blind : CallsBlind env device (device.hides connection) request)
    (first : device.dispatchAtt env connection op request = .ok (response, after))
    (second : other.dispatchAtt env connection op request = .ok (response', after')) :
    response = response' := by
  cases request with
  | findInformationReq startHandle endHandle =>
    cases first
    cases second
    have same : device.gattDb.findInformation startHandle endHandle =
        other.gattDb.findInformation startHandle endHandle := by
      unfold GattDatabase.findInformation
      split
      · rfl
      · refine map_eq_of_alike (alike.gattDb.filter ?_) _ ?_
        · rintro a b ⟨key, -⟩
          simp [key]
        · rintro a b ⟨key, alike⟩
          rw [key, alike.uuid]
    unfold onFindInformationReq
    rw [same]
  | readReq handle =>
    cases first
    cases second
    unfold onReadReq
    rw [read_alike alike.gattDb 0 seen]
  | readBlobReq handle offset =>
    cases first
    cases second
    unfold onReadBlobReq
    rw [read_alike alike.gattDb offset.toNat seen]
  | readByTypeReq startHandle endHandle bytes =>
    cases first
    cases second
    rw [onReadByTypeReq_alike alike seen]
  | readByGroupTypeReq startHandle endHandle bytes =>
    unfold dispatchAtt at first second
    dsimp only at first second
    rw [← onReadByGroupTypeReq_alike alike seen] at second
    obtain ⟨body, made, first⟩ := Rust.bind_eq_ok.mp first
    obtain ⟨body', made', second⟩ := Rust.bind_eq_ok.mp second
    cases first
    cases second
    obtain rfl := Except.ok.inj (made.symm.trans made')
    rfl
  | writeReq handle value =>
    have left := congrArg Prod.fst (Except.ok.inj first)
    have right := congrArg Prod.fst (Except.ok.inj second)
    rw [onWriteReq_fst] at left right
    rw [(alike.gattDb.write handle value (blind handle value (.inl rfl))).1] at left
    exact left.symm.trans right
  | _ =>
    cases first
    cases second
    rfl

theorem commit_alike (queue : List PrepareWriteChunk) {db other : GattDatabase H}
    (alike : db.Resembles hidden other) : (commit db queue).Resembles hidden (commit other queue) := by
  induction queue generalizing db other with
  | nil => exact alike
  | cons chunk rest ih => exact ih (alike.writeOffset chunk.handle chunk.offset.toNat chunk.data)

theorem databaseAfter_alike {request : AttPdu} (connections : device.connections = other.connections)
    (alike : device.gattDb.Resembles hidden other.gattDb) (blind : CallsBlind env device hidden request) :
    (device.databaseAfter env connection request).Resembles hidden
      (other.databaseAfter env connection request) := by
  cases request with
  | writeReq handle value => exact (alike.write handle value (blind handle value (.inl rfl))).2
  | writeCmd handle value => exact (alike.write handle value (blind handle value (.inr rfl))).2
  | executeWriteReq flags =>
    unfold databaseAfter
    dsimp only
    rw [← connections]
    split
    · exact alike
    · split
      · exact commit_alike _ alike
      · exact alike
  | _ => exact alike

theorem connectionsAfter_alike (connections : device.connections = other.connections)
    (request : AttPdu) :
    device.connectionsAfter connection request = other.connectionsAfter connection request := by
  unfold connectionsAfter modifyConnection
  rw [← connections]
  split
  · rfl
  · split
    · exact connections
    · rfl

end Noninterference

end VirtualDevice

section Runs
variable {curve : P256} {H S : Type} {env : Env H S} {device after : VirtualDevice curve H S}

open VirtualDevice

theorem mem_calls {pdu : Bytes} {handle : UInt16} {value : Bytes} {attr : Attribute H} {handler : H}
    (parsed : AttPdu.parse pdu = some (.writeReq handle value) ∨
      AttPdu.parse pdu = some (.writeCmd handle value))
    (checked : device.gattDb.checkWritePermitted handle = .ok attr)
    (owner : attr.handler = some handler) : (handle, value) ∈ device.calls pdu := by
  have called : (handle, value) ∈ device.writeCalls handle value := by
    unfold writeCalls
    simp [checked, owner]
  unfold calls
  rcases parsed with parsed | parsed
  · rw [parsed]
    exact called
  · rw [parsed]
    exact called

theorem Respects.callsBlind {step : AttStep} (respects : Respects env device step)
    {request : AttPdu} (parsed : AttPdu.parse step.pdu = some request) (observer : UInt16) :
    CallsBlind env device (device.hides observer) request := by
  intro handle value kind attr handler checked owner
  have listed : (handle, value) ∈ device.calls step.pdu := by
    refine mem_calls ?_ checked owner
    rcases kind with rfl | rfl
    · exact .inl parsed
    · exact .inr parsed
  exact respects.blind handle value attr handler listed
    (GattDatabase.checkWritePermitted_eq_ok.mp checked).1 owner observer

theorem enforces_of_respects {step : AttStep} (respects : Respects env device step)
    (processed : Processes env device step after) : Enforces device step after := by
  refine ⟨?_, ?_⟩
  · intro request parsed handle listed attr found
    exact shown_unprotected (respects.request request parsed) listed found
  · intro handle attr found locked
    unfold storedValue
    rw [processAttPacket_gattDb processed]
    cases parsed : AttPdu.parse step.pdu with
    | none =>
      rw [Option.map_none, Option.getD_none, found]
      rfl
    | some request =>
      refine databaseAfter_locked (respects.request request parsed) ?_ found locked
      intro called value target handler kind checked owner
      have listed : (called, value) ∈ device.calls step.pdu := by
        refine mem_calls ?_ checked owner
        rcases kind with rfl | rfl
        · exact .inl parsed
        · exact .inr parsed
      exact respects.confined called value target handler listed
        (GattDatabase.checkWritePermitted_eq_ok.mp checked).1 owner

theorem resembles_step {observer : UInt16} {other after' : VirtualDevice curve H S}
    {step step' : AttStep} (alike : Resembles observer device other)
    (respects : Respects env device step) (processed : Processes env device step after)
    (processed' : Processes env other step' after') (connections : step.connection = step'.connection)
    (pdus : step.pdu = step'.pdu) : Resembles observer after after' ∧
      (step.connection = observer → step.response = step'.response) := by
  unfold Processes processAttPacket at processed processed'
  rw [← connections, ← pdus] at processed'
  cases parsed : AttPdu.parse step.pdu with
  | none =>
    rw [parsed] at processed processed'
    obtain ⟨answer, rfl⟩ := Prod.mk.inj (Except.ok.inj processed)
    obtain ⟨answer', rfl⟩ := Prod.mk.inj (Except.ok.inj processed')
    exact ⟨alike, fun _ => answer.symm.trans answer'⟩
  | some request =>
    rw [parsed] at processed processed'
    have blind := respects.callsBlind parsed
    refine ⟨⟨?_, ?_⟩, ?_⟩
    · rw [dispatchAtt_connections processed, dispatchAtt_connections processed']
      exact connectionsAfter_alike alike.connections request
    · have hides : after.hides observer = device.hides observer := hides_after processed observer
      rw [hides, dispatchAtt_gattDb processed, dispatchAtt_gattDb processed']
      exact databaseAfter_alike alike.connections alike.gattDb (blind observer)
    · rintro rfl
      exact response_alike alike (respects.request request parsed) (blind _) processed processed'

end Runs

def secretDevice (secret : Bytes) : VirtualDevice noCurve Unit Unit :=
  { controlDevice with
    gattDb := ⟨⟨[(1, ⟨.uuid16 0x2A19, [0x64], .default, none⟩),
      (2, ⟨.uuid16 0x2A9F, secret, ⟨true, true, false, false, true, true⟩, none⟩)],
        pairwise_pair.mpr (show (1 : UInt16) < 2 by decide)⟩, 3⟩ }

theorem resembles_secretDevice (secret other : Bytes) :
    Resembles 0x40 (secretDevice secret) (secretDevice other) := by
  refine ⟨rfl, .cons ⟨rfl, rfl, rfl, rfl, fun _ => rfl⟩ (.cons ⟨rfl, rfl, rfl, rfl, ?_⟩ .nil), rfl⟩
  intro seen
  contradiction

end Simble.Device
