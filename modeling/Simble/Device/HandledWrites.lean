import Simble.Device.AttServer
import Simble.Lib.Run

/-! Who changes an attribute that has a handler. A Write Request and a Write
Command go through the handler; an Execute Write stores the prepared octets
past it. -/
namespace Simble.Device
open Simble.Lib Simble.Gatt Simble.Att Simble.Crypto

namespace VirtualDevice
variable {curve : P256} {H S : Type} (env : Env H S) (device : VirtualDevice curve H S)

def storedValue (handle : UInt16) : Option Bytes := (device.gattDb.get handle).map Attribute.value

def writeCalls (handle : UInt16) (value : Bytes) : List (UInt16 × Bytes) :=
  match device.gattDb.checkWritePermitted handle with
  | .error _ => []
  | .ok attr => if attr.handler.isSome then [(handle, value)] else []

def calls (pdu : Bytes) : List (UInt16 × Bytes) :=
  match AttPdu.parse pdu with
  | some (.writeReq handle value) | some (.writeCmd handle value) => device.writeCalls handle value
  | _ => []

def assemble (handle : UInt16) (old : Bytes) (queue : List PrepareWriteChunk) : Bytes :=
  (queue.filter (·.handle = handle)).foldl
    (fun value chunk => GattDatabase.patch value chunk.offset.toNat chunk.data) old

inductive Succeeds (connection : UInt16) (pdu : Bytes) : UInt16 → Bytes → Prop
  | request {handle value} : AttPdu.parse pdu = some (.writeReq handle value) →
    (device.gattDb.write env.onWrite handle value).1 = .ok () → Succeeds connection pdu handle value
  | command {handle value} : AttPdu.parse pdu = some (.writeCmd handle value) →
    (device.gattDb.write env.onWrite handle value).1 = .ok () → Succeeds connection pdu handle value
  | prepared {conn chunk attr} : AttPdu.parse pdu = some (.executeWriteReq 0x01) →
    device.connections.lookup connection = some conn → chunk ∈ conn.prepareWriteQueue →
    device.gattDb.checkWritePermitted chunk.handle = .ok attr →
    Succeeds connection pdu chunk.handle (assemble chunk.handle attr.value conn.prepareWriteQueue)

end VirtualDevice

/-- A handler, and the values that its `on_write` has been called with. -/
structure Recorded (H : Type) where
  handler : H
  calls : List Bytes

/-- What the handlers do with a database, in which they find each other. -/
abbrev HandlerAct (H : Type) := H → GattDatabase (Recorded H) → Bytes →
  Except UInt8 Unit × H × GattDatabase (Recorded H)

/-- A handler's own call is all that adds to its record. -/
def recording {H : Type} (act : HandlerAct H) : OnWrite (Recorded H) where
  call recorded db value :=
    let outcome := act recorded.handler db value
    (outcome.1, ⟨outcome.2.1, recorded.calls ++ [value]⟩, outcome.2.2)

section Records
variable {H : Type} (before after : GattDatabase (Recorded H)) (handle : UInt16)

/-- The attribute's handler has been called with `values` in between. -/
def Called (values : List Bytes) : Prop :=
  ∀ attr recorded attr', before.get handle = some attr → attr.handler = some recorded →
    after.get handle = some attr' →
      ∃ again, attr'.handler = some again ∧ again.calls = recorded.calls ++ values

/-- The value has changed only if the attribute has no handler or its handler has been called. -/
def Owned : Prop :=
  ∀ attr recorded, before.get handle = some attr → attr.handler = some recorded →
    (after.get handle).map Attribute.value ≠ some attr.value →
      ∃ values, values ≠ [] ∧ Called before after handle values

end Records

/-- One call of `process_att_packet`. -/
structure AttStep where
  connection : UInt16
  pdu : Bytes
  response : Option Bytes

section Steps
variable {curve : P256} {H S : Type}

open VirtualDevice

def Processes (env : Env H S) (device : VirtualDevice curve H S) (step : AttStep)
    (after : VirtualDevice curve H S) : Prop :=
  device.processAttPacket env step.connection step.pdu = .ok (step.response, after)

variable (act : HandlerAct H) (bonds : BondStore S)

/-- The attributes that have handlers are left to them, and a write that succeeds is one call of the
handler, with the full value. -/
structure Obeys (device : VirtualDevice curve (Recorded H) S) (step : AttStep)
    (after : VirtualDevice curve (Recorded H) S) : Prop where
  owned : ∀ handle, Owned device.gattDb after.gattDb handle
  called : ∀ handle value, device.Succeeds ⟨recording act, bonds⟩ step.connection step.pdu handle value →
    Called device.gattDb after.gattDb handle [value]

/-- No prepared write is committed past a handler, and the handler of the attribute that is written
leaves the others to theirs. -/
structure KeepsHandlers (device : VirtualDevice curve (Recorded H) S) (step : AttStep) : Prop where
  prepared : ∀ conn, AttPdu.parse step.pdu = some (.executeWriteReq 0x01) →
    device.connections.lookup step.connection = some conn → ∀ chunk ∈ conn.prepareWriteQueue,
      ∀ attr, device.gattDb.checkWritePermitted chunk.handle = .ok attr → attr.handler = none
  confined : ∀ handle value attr recorded, (handle, value) ∈ device.calls step.pdu →
    device.gattDb.get handle = some attr → attr.handler = some recorded → ∀ other,
      let found := device.gattDb.detach handle
      Owned found (act recorded.handler found value).2.2 other

end Steps

namespace VirtualDevice
variable {curve : P256} {H S : Type} {env : Env H S} {device after : VirtualDevice curve H S}

section Frames

@[simp] theorem modifyConnection_gattDb (handle : UInt16)
    (change : ConnectionState curve → ConnectionState curve) :
    (device.modifyConnection handle change).gattDb = device.gattDb := by
  unfold modifyConnection
  split <;> rfl

@[simp] theorem onCccdWritten_gattDb (connection cccdHandle previous : UInt16) :
    (device.onCccdWritten env connection cccdHandle previous).gattDb = device.gattDb := by
  unfold onCccdWritten
  split
  · rfl
  · split
    · rfl
    · split <;> rfl

theorem writeAttribute_gattDb (connection handle : UInt16) (value : Bytes) :
    (device.writeAttribute env connection handle value).2.gattDb =
      (device.gattDb.write env.onWrite handle value).2 := by
  unfold writeAttribute
  dsimp only
  split <;> simp

theorem onWriteReq_gattDb (connection handle : UInt16) (value : Bytes) :
    (device.onWriteReq env connection handle value).2.gattDb =
      (device.gattDb.write env.onWrite handle value).2 := by
  refine Eq.trans ?_ (writeAttribute_gattDb connection handle value)
  unfold onWriteReq
  split <;> simp_all

def databaseAfter (env : Env H S) (device : VirtualDevice curve H S) (connection : UInt16) :
    AttPdu → GattDatabase H
  | .writeReq handle value | .writeCmd handle value =>
    (device.gattDb.write env.onWrite handle value).2
  | .executeWriteReq flags =>
    match device.connections.lookup connection with
    | none => device.gattDb
    | some conn => if flags = 0x01 then commit device.gattDb conn.prepareWriteQueue else device.gattDb
  | _ => device.gattDb

theorem onExecuteWriteReq_gattDb (connection : UInt16) (flags : UInt8) :
    (device.onExecuteWriteReq connection flags).2.gattDb =
      device.databaseAfter env connection (.executeWriteReq flags) := by
  unfold onExecuteWriteReq databaseAfter
  cases found : device.connections.lookup connection with
  | none => rfl
  | some conn =>
    by_cases write : flags = 0x01
    · simp only [write, if_true]
    · simp only [write, if_false, modifyConnection_gattDb]

theorem dispatchAtt_gattDb {connection : UInt16} {op : UInt8} {request : AttPdu}
    {response : Option Bytes} (processed : device.dispatchAtt env connection op request =
      .ok (response, after)) : after.gattDb = device.databaseAfter env connection request := by
  cases request with
  | writeReq handle value =>
    exact (congrArg (fun out => out.2.gattDb) (Except.ok.inj processed)).symm.trans
      (onWriteReq_gattDb connection handle value)
  | writeCmd handle value =>
    cases processed
    exact writeAttribute_gattDb connection handle value
  | executeWriteReq flags =>
    exact (congrArg (fun out => out.2.gattDb) (Except.ok.inj processed)).symm.trans
      (onExecuteWriteReq_gattDb connection flags)
  | readByGroupTypeReq =>
    obtain ⟨body, -, result⟩ := Rust.bind_eq_ok.mp processed
    cases result
    rfl
  | exchangeMtuReq | handleValueCfm | prepareWriteReq =>
    cases processed
    exact modifyConnection_gattDb _ _
  | _ =>
    cases processed
    rfl

theorem processAttPacket_gattDb {connection : UInt16} {pdu : Bytes} {response : Option Bytes}
    (processed : device.processAttPacket env connection pdu = .ok (response, after)) :
    after.gattDb = ((AttPdu.parse pdu).map (device.databaseAfter env connection)).getD
      device.gattDb := by
  unfold processAttPacket at processed
  cases parsed : AttPdu.parse pdu with
  | none =>
    rw [parsed] at processed
    cases processed
    rfl
  | some request =>
    rw [parsed] at processed
    exact dispatchAtt_gattDb processed

end Frames

section Writes
variable {handle other : UInt16} {value : Bytes}

theorem write_cases (env : Env H S) (device : VirtualDevice curve H S) (handle : UInt16)
    (value : Bytes) :
    (device.writeCalls handle value = [] ∧ device.gattDb.write env.onWrite handle value =
      ((device.gattDb.write env.onWrite handle value).1, device.gattDb) ∧
      (device.gattDb.write env.onWrite handle value).1 ≠ .ok ()) ∨
    (device.writeCalls handle value = [] ∧
      (∀ attr, device.gattDb.get handle = some attr → attr.handler = none) ∧ ∀ other, other ≠ handle →
        (device.gattDb.write env.onWrite handle value).2.get other = device.gattDb.get other) ∨
    ∃ attr handler, device.writeCalls handle value = [(handle, value)] ∧
      device.gattDb.get handle = some attr ∧ attr.handler = some handler ∧
      device.gattDb.write env.onWrite handle value =
        device.gattDb.handledWrite env.onWrite handler handle value := by
  unfold writeCalls GattDatabase.write
  cases checked : device.gattDb.checkWritePermitted handle with
  | error code => exact .inl ⟨rfl, rfl, nofun⟩
  | ok attr =>
    obtain ⟨found, -⟩ := GattDatabase.checkWritePermitted_eq_ok.mp checked
    cases owner : attr.handler with
    | none =>
      refine .inr (.inl ⟨by simp [owner], ?_, ?_⟩)
      · intro other same
        exact Option.some.inj (found.symm.trans same) ▸ owner
      · intro other differs
        simp only [owner]
        exact GattDatabase.get_modify_of_ne differs _
    | some handler =>
      exact .inr (.inr ⟨attr, handler, by simp [owner], found, owner, by simp only [owner]⟩)

theorem commit_get (queue : List PrepareWriteChunk) (db : GattDatabase H)
    (apart : ∀ chunk ∈ queue, chunk.handle = other →
      ∀ attr, db.checkWritePermitted chunk.handle ≠ .ok attr) :
    (commit db queue).get other = db.get other := by
  induction queue generalizing db with
  | nil => rfl
  | cons chunk rest ih =>
    have first : (db.writeOffset chunk.handle chunk.offset.toNat chunk.data).2.get other =
        db.get other := by
      unfold GattDatabase.writeOffset
      cases checked : db.checkWritePermitted chunk.handle with
      | error => rfl
      | ok attr =>
        refine GattDatabase.get_modify_of_ne ?_ _
        rintro rfl
        exact apart chunk List.mem_cons_self rfl attr checked
    refine (ih _ ?_).trans first
    intro later listed same attr
    have before := apart later (List.mem_cons_of_mem _ listed) same
    rw [GattDatabase.checkWritePermitted, same, first] at *
    exact before attr

theorem writeOffset_handler (db : GattDatabase H) (offset : Nat) (value : Bytes) :
    ((db.writeOffset handle offset value).2.get other).map Attribute.handler =
      (db.get other).map Attribute.handler := by
  unfold GattDatabase.writeOffset
  cases db.checkWritePermitted handle with
  | error => rfl
  | ok attr =>
    by_cases same : other = handle
    · rw [same, GattDatabase.get_modify_self, Option.map_map]
      rfl
    · rw [GattDatabase.get_modify_of_ne same]

theorem commit_handler (queue : List PrepareWriteChunk) (db : GattDatabase H) :
    ((commit db queue).get other).map Attribute.handler = (db.get other).map Attribute.handler := by
  induction queue generalizing db with
  | nil => rfl
  | cons chunk rest ih => exact (ih _).trans (writeOffset_handler db _ _)

end Writes
end VirtualDevice

open VirtualDevice

section Records
variable {H : Type} {db after : GattDatabase (Recorded H)} {handle other : UInt16}

theorem Owned.of_kept (same : after.get handle = db.get handle) : Owned db after handle := by
  intro attr recorded found _ changed
  rw [same, found] at changed
  exact absurd rfl changed

theorem Owned.congr {db' after' : GattDatabase (Recorded H)} (owned : Owned db after handle)
    (before : db'.get handle = db.get handle) (result : after'.get handle = after.get handle) :
    Owned db' after' handle := by
  unfold Owned Called
  rw [before, result]
  exact owned

theorem handledWrite_called (act : HandlerAct H) (recorded : Recorded H) {attr : Attribute (Recorded H)}
    (found : db.get handle = some attr) (owner : attr.handler = some recorded) (value : Bytes) :
    Called db (db.handledWrite (recording act) recorded handle value).2 handle [value] := by
  intro attr' recorded' final found' owner' ends
  obtain rfl := Option.some.inj (found.symm.trans found')
  obtain rfl := Option.some.inj (owner.symm.trans owner')
  rw [GattDatabase.handledWrite, GattDatabase.attach, GattDatabase.get_modify_self] at ends
  obtain ⟨-, -, rfl⟩ := Option.map_eq_some_iff.mp ends
  exact ⟨_, rfl, rfl⟩

/-- A handled write leaves the other attributes to their handlers exactly if the handler does. -/
theorem handledWrite_owned_iff (act : HandlerAct H) (recorded : Recorded H) {attr : Attribute (Recorded H)}
    (found : db.get handle = some attr) (owner : attr.handler = some recorded) (value : Bytes) :
    (∀ other, Owned db (db.handledWrite (recording act) recorded handle value).2 other) ↔
      ∀ other, Owned (db.detach handle) (act recorded.handler (db.detach handle) value).2.2 other := by
  have called := handledWrite_called act recorded found owner value
  have before {other : UInt16} (differs : other ≠ handle) :
      (db.detach handle).get other = db.get other := GattDatabase.get_modify_of_ne differs _
  have result {other : UInt16} (differs : other ≠ handle) :
      (db.handledWrite (recording act) recorded handle value).2.get other =
        (act recorded.handler (db.detach handle) value).2.2.get other :=
    GattDatabase.get_modify_of_ne differs _
  constructor
  · intro owned other
    by_cases differs : other = handle
    · subst differs
      intro attr' recorded' found' owner'
      rw [GattDatabase.detach, GattDatabase.get_modify_self] at found'
      obtain ⟨_, _, rfl⟩ := Option.map_eq_some_iff.mp found'
      cases owner'
    · exact (owned other).congr (before differs) (result differs).symm
  · intro owned other
    by_cases differs : other = handle
    · subst differs
      exact fun _ _ _ _ _ => ⟨[value], nofun, called⟩
    · exact (owned other).congr (before differs).symm (result differs)

end Records

section Steps
variable {curve : P256} {H S : Type} {act : HandlerAct H} {bonds : BondStore S}
  {device after : VirtualDevice curve (Recorded H) S} {step : AttStep}

open VirtualDevice

theorem keeps_of_no_calls (quiet : device.calls step.pdu = [])
    (prepared : ∀ conn, AttPdu.parse step.pdu = some (.executeWriteReq 0x01) →
      device.connections.lookup step.connection = some conn → ∀ chunk ∈ conn.prepareWriteQueue,
        ∀ attr, device.gattDb.checkWritePermitted chunk.handle = .ok attr → attr.handler = none) :
    KeepsHandlers act device step := by
  refine ⟨prepared, ?_⟩
  intro handle full attr recorded listed
  rw [quiet] at listed
  contradiction

theorem obeys_iff_of_write {handle : UInt16} {value : Bytes}
    (parsed : AttPdu.parse step.pdu = some (.writeReq handle value) ∨
      AttPdu.parse step.pdu = some (.writeCmd handle value))
    (written : after.gattDb = (device.gattDb.write (recording act) handle value).2) :
    Obeys act bonds device step after ↔ KeepsHandlers act device step := by
  have calls : device.calls step.pdu = device.writeCalls handle value := by
    rcases parsed with parsed | parsed <;> simp only [VirtualDevice.calls, parsed]
  have prepared : ∀ conn, AttPdu.parse step.pdu = some (.executeWriteReq 0x01) →
      device.connections.lookup step.connection = some conn → ∀ chunk ∈ conn.prepareWriteQueue,
        ∀ attr, device.gattDb.checkWritePermitted chunk.handle = .ok attr → attr.handler = none := by
    intro conn execute
    rcases parsed with parsed | parsed <;> rw [parsed] at execute <;> cases execute
  have succeeds {other : UInt16} {full : Bytes}
      (success : device.Succeeds ⟨recording act, bonds⟩ step.connection step.pdu other full) :
      other = handle ∧ full = value ∧
        (device.gattDb.write (recording act) handle value).1 = .ok () := by
    cases success with
    | request same succeeded | command same succeeded =>
      rcases parsed with parsed | parsed <;> cases parsed.symm.trans same
      exact ⟨rfl, rfl, succeeded⟩
    | prepared same =>
      rcases parsed with parsed | parsed <;> cases parsed.symm.trans same
  rcases write_cases ⟨recording act, bonds⟩ device handle value with ⟨none, unchanged, failed⟩ |
    ⟨none, plain, others⟩ | ⟨attr, recorded, one, found, owner, delegated⟩
  · rw [unchanged] at written
    refine iff_of_true ⟨fun other => .of_kept (written ▸ rfl), ?_⟩
      (keeps_of_no_calls (calls.trans none) prepared)
    intro other full success
    exact absurd (succeeds success).2.2 failed
  · have unowned {attr recorded} (found : device.gattDb.get handle = some attr)
        (owner : attr.handler = some recorded) : False := by
      rw [plain attr found] at owner
      contradiction
    refine iff_of_true ⟨fun other => ?_, ?_⟩ (keeps_of_no_calls (calls.trans none) prepared)
    · by_cases differs : other = handle
      · subst differs
        exact fun _ _ found owner => (unowned found owner).elim
      · exact .of_kept (written ▸ others other differs)
    · intro other full success _ _ _ found owner
      obtain ⟨rfl, -, -⟩ := succeeds success
      exact (unowned found owner).elim
  · rw [delegated] at written
    have owned_iff := handledWrite_owned_iff act recorded found owner value
    rw [← written] at owned_iff
    constructor
    · rintro ⟨owned, -⟩
      refine ⟨prepared, ?_⟩
      intro handle' full attr' recorded' listed found' owner'
      rw [calls, one, List.mem_singleton] at listed
      cases listed
      obtain rfl := Option.some.inj (found.symm.trans found')
      obtain rfl := Option.some.inj (owner.symm.trans owner')
      exact owned_iff.mp owned
    · rintro ⟨-, confined⟩
      have listed : (handle, value) ∈ device.calls step.pdu := by
        rw [calls, one]
        exact List.mem_singleton_self _
      refine ⟨owned_iff.mpr (confined handle value attr recorded listed found owner), ?_⟩
      intro other full success
      obtain ⟨rfl, rfl, -⟩ := succeeds success
      rw [written]
      exact handledWrite_called act recorded found owner full

theorem obeys_iff_of_commit {conn : ConnectionState curve}
    (parsed : AttPdu.parse step.pdu = some (.executeWriteReq 0x01))
    (found : device.connections.lookup step.connection = some conn)
    (committed : after.gattDb = commit device.gattDb conn.prepareWriteQueue) :
    Obeys act bonds device step after ↔ KeepsHandlers act device step := by
  have quiet : device.calls step.pdu = [] := by simp only [calls, parsed]
  constructor
  · rintro ⟨-, called⟩
    apply keeps_of_no_calls quiet
    intro other _ same chunk listed attr permitted
    by_contra owned
    obtain ⟨recorded, owner⟩ := Option.ne_none_iff_exists'.mp owned
    obtain ⟨present, -⟩ := GattDatabase.checkWritePermitted_eq_ok.mp permitted
    -- A chunk that is stored leaves the handler as it was, with nothing added to its record.
    have kept := @commit_handler _ chunk.handle conn.prepareWriteQueue device.gattDb
    rw [← committed, present, Option.map_some, owner] at kept
    obtain ⟨attr', ends, handler⟩ := Option.map_eq_some_iff.mp kept
    obtain ⟨again, owner', grown⟩ := called chunk.handle _ (.prepared parsed same listed permitted)
      attr recorded attr' present owner ends
    obtain rfl := Option.some.inj (handler.symm.trans owner')
    simp at grown
  · rintro ⟨prepared, -⟩
    have apart {handle : UInt16} {attr : Attribute (Recorded H)} {recorded : Recorded H}
        (present : device.gattDb.get handle = some attr) (owner : attr.handler = some recorded) :
        ∀ chunk ∈ conn.prepareWriteQueue, chunk.handle = handle → ∀ attr,
          device.gattDb.checkWritePermitted chunk.handle ≠ .ok attr := by
      rintro chunk listed rfl other permitted
      obtain ⟨same, -⟩ := GattDatabase.checkWritePermitted_eq_ok.mp permitted
      obtain rfl := Option.some.inj (same.symm.trans present)
      rw [prepared conn parsed found chunk listed _ permitted] at owner
      contradiction
    refine ⟨fun handle attr recorded present owner => ?_, ?_⟩
    · exact Owned.of_kept (committed ▸ commit_get _ _ (apart present owner)) attr recorded present owner
    · intro handle value success attr recorded _ present owner
      cases success with
      | request same | command same => cases parsed.symm.trans same
      | prepared _ same listed permitted =>
        obtain rfl := Option.some.inj (found.symm.trans same)
        exact absurd permitted (apart present owner _ listed rfl _)

/-- A PDU that leaves the database alone and writes nothing. -/
theorem obeys_of_idle (kept : after.gattDb = device.gattDb) (silent : ∀ handle value,
      ¬ device.Succeeds ⟨recording act, bonds⟩ step.connection step.pdu handle value) :
    Obeys act bonds device step after where
  owned _ := .of_kept (kept ▸ rfl)
  called handle value success := absurd success (silent handle value)

/-- One PDU leaves the handled attributes to their handlers exactly when it
commits nothing past a handler and no handler reaches further than it may. -/
theorem obeys_iff (processed : Processes ⟨recording act, bonds⟩ device step after) :
    Obeys act bonds device step after ↔ KeepsHandlers act device step := by
  have result := processAttPacket_gattDb processed
  cases parsed : AttPdu.parse step.pdu with
  | none =>
    rw [parsed] at result
    have quiet : device.calls step.pdu = [] := by simp only [calls, parsed]
    refine iff_of_true (obeys_of_idle result ?_) (keeps_of_no_calls quiet ?_)
    · rintro handle value (same | same | same) <;> cases parsed.symm.trans same
    · intro conn same
      cases parsed.symm.trans same
  | some request =>
    rw [parsed] at result
    cases request with
    | writeReq handle value => exact obeys_iff_of_write (.inl parsed) result
    | writeCmd handle value => exact obeys_iff_of_write (.inr parsed) result
    | executeWriteReq flags =>
      have quiet : device.calls step.pdu = [] := by simp only [calls, parsed]
      cases found : device.connections.lookup step.connection with
      | none =>
        have kept : after.gattDb = device.gattDb := by
          rw [result]
          show databaseAfter ⟨recording act, bonds⟩ device step.connection (.executeWriteReq flags) = _
          simp only [databaseAfter, found]
        refine iff_of_true (obeys_of_idle kept ?_) (keeps_of_no_calls quiet ?_)
        · rintro handle value (same | same | ⟨same, present⟩)
          · cases parsed.symm.trans same
          · cases parsed.symm.trans same
          · cases found.symm.trans present
        · intro conn _ present
          cases found.symm.trans present
      | some conn =>
        have committed : after.gattDb = if flags = 0x01 then
            commit device.gattDb conn.prepareWriteQueue else device.gattDb := by
          rw [result]
          show databaseAfter ⟨recording act, bonds⟩ device step.connection (.executeWriteReq flags) = _
          simp only [databaseAfter, found]
        by_cases write : flags = 0x01
        · subst write
          exact obeys_iff_of_commit parsed found (committed.trans (if_pos rfl))
        · rw [if_neg write] at committed
          refine iff_of_true (obeys_of_idle committed ?_) (keeps_of_no_calls quiet ?_)
          · rintro handle value (same | same | ⟨same, present⟩) <;> cases parsed.symm.trans same
            exact write rfl
          · intro conn same
            cases parsed.symm.trans same
            exact absurd rfl write
    | _ =>
      have quiet : device.calls step.pdu = [] := by simp only [calls, parsed]
      refine iff_of_true (obeys_of_idle result ?_) (keeps_of_no_calls quiet ?_)
      · rintro handle value (same | same | same) <;> cases parsed.symm.trans same
      · intro conn same
        cases parsed.symm.trans same

end Steps

/-- A control point that accepts every command and stores none. -/
def controlPoint : Env Unit Unit where
  onWrite := ⟨fun handler db _ => (.ok (), handler, db)⟩
  bonds := ⟨fun store _ _ => store, fun _ _ => none, fun store _ _ _ => store, fun _ _ => []⟩

def deviceWith {H : Type} (handler : H) : VirtualDevice noCurve H Unit where
  address := Address.any
  addressType := .randomDevice
  gattDb := ⟨⟨[(1, ⟨.uuid16 0x2B7E, [], .default, some handler⟩)], List.pairwise_singleton _ _⟩, 2⟩
  connections := AList.singleton 0x40 (.newWithRole Address.any 23 .peripheral)
  defaultMtu := 23
  bondStore := none
  deferKeyDistribution := false

def controlDevice : VirtualDevice noCurve Unit Unit := deviceWith ()

/-- The control point's `on_write` on a database of records. -/
def acceptAll : HandlerAct Unit := fun handler db _ => (.ok (), handler, db)

end Simble.Device
