import Simble.Controller.Commands

/-! Every command is answered once, and in the way of its opcode, as long as the
peers that the command has to look at are still on the medium. -/
namespace Simble.Controller.Commands
open List

def Event.carries (opcode : UInt16) : Event → Bool
  | .commandComplete carried _ => carried = opcode
  | .commandStatus _ carried => carried = opcode
  | .other _ => false

def statuses : List UInt8 :=
  [Controller.Status.success, Status.unknownHciCommand, Controller.Status.unknownConnection,
    Status.connectionAlreadyExists, Controller.Status.commandDisallowed,
    Controller.Status.invalidParameters, Controller.Status.connectionFailed,
    Controller.Status.unknownAdvertisingId]

def Event.Suits (opcode : UInt16) : Event → Prop
  | .commandStatus _ _ => answeredByCommandStatus opcode = true
  | .commandComplete _ ret => answeredByCommandStatus opcode = false ∧
      ∃ status ∈ statuses, ret.head? = some status
  | .other _ => False

/-- A command that ends without a panic, and with one answer, of the right kind. -/
def Answered (opcode : UInt16) (result : Rust (List Event)) : Prop :=
  ∃ events event, result = .ok events ∧ events.filter (Event.carries opcode) = [event] ∧
    event.Suits opcode

/-! ## Arms -/

section Arms
variable {opcode : UInt16}

theorem answered_status (status : UInt8) {more : List Event}
    (silent : more.filter (Event.carries opcode) = [])
    (kind : answeredByCommandStatus opcode = true) :
    Answered opcode (.ok (.commandStatus status opcode :: more)) := by
  refine ⟨_, .commandStatus status opcode, rfl, ?_, kind⟩
  rw [filter_cons_of_pos (by simp [Event.carries]), silent]

theorem answered_complete {status : UInt8} (known : status ∈ statuses) (values : Bytes)
    {more : List Event} (silent : more.filter (Event.carries opcode) = [])
    (kind : answeredByCommandStatus opcode = false) :
    Answered opcode (.ok (.commandComplete opcode (status :: values) :: more)) := by
  refine ⟨_, .commandComplete opcode (status :: values), rfl, ?_, kind, status, known, rfl⟩
  rw [filter_cons_of_pos (by simp [Event.carries]), silent]

/-- An arm for an opcode of the table, and one for an opcode that is not on it. -/
def StatusArm (arm : Arm) : Prop := ∀ medium registers opcode params,
  answeredByCommandStatus opcode = true → Answered opcode (arm medium registers opcode params)

def CompleteArm (arm : Arm) : Prop := ∀ medium registers opcode params,
  answeredByCommandStatus opcode = false → Answered opcode (arm medium registers opcode params)

theorem decided_status (status : Registers → Bytes → UInt8) : StatusArm (decided status) :=
  fun _ _ _ _ kind => answered_status _ rfl kind

theorem begun_status : StatusArm begun := fun _ _ _ _ kind => answered_status _ rfl kind

theorem returned_complete (value : Registers → Bytes → Bytes) : CompleteArm (returned value) :=
  fun _ _ _ _ kind => answered_complete (by decide) _ rfl kind

theorem accepted_complete : CompleteArm accepted :=
  fun _ _ _ _ kind => answered_complete (by decide) [] rfl kind

theorem index_ok {params : Bytes} {n : Nat} (within : n < params.length) :
    index params n = .ok params[n] := by
  rw [index, List.getElem?_eq_getElem within, unwrap_some]

theorem slice_ok {params : Bytes} {start stop : Nat} (ordered : start ≤ stop)
    (within : stop ≤ params.length) : ∃ part, slice params start stop = .ok part :=
  ⟨_, by rw [slice, getRange, if_pos ⟨ordered, within⟩, unwrap_some]⟩

theorem trailer_ok (header : Nat) (count : UInt8 → Nat) (at_ : Nat) (params : Bytes) :
    ∃ found, trailer header count at_ params = .ok found := by
  unfold trailer
  cases params[at_]? with
  | none => exact ⟨_, rfl⟩
  | some counted =>
    simp only
    split_ifs with short lacking
    · exact ⟨_, rfl⟩
    · exact ⟨_, rfl⟩
    · obtain ⟨rest, sliced⟩ := slice_ok (Nat.zero_le _) (Nat.le_of_not_lt lacking)
      exact ⟨some rest, by rw [sliced]; rfl⟩

theorem createConnectionCancel_complete : CompleteArm createConnectionCancel := by
  intro medium registers opcode params kind
  unfold createConnectionCancel
  simp only
  split_ifs
  · exact answered_complete (by decide) _ rfl kind
  · exact answered_complete (by decide) _ rfl kind

theorem writeLocalName_complete : CompleteArm writeLocalName := by
  intro medium registers opcode params kind
  unfold writeLocalName
  have length : registers.localName.toList.length = 248 := registers.localName.toList_length
  obtain ⟨kept, first⟩ := @slice_ok (List.replicate 248 0) 0
    (min params.length registers.localName.toList.length) (Nat.zero_le _)
    (by rw [length, length_replicate]; exact Nat.min_le_right _ _)
  obtain ⟨given, second⟩ := @slice_ok params 0
    (min params.length registers.localName.toList.length) (Nat.zero_le _) (Nat.min_le_left _ _)
  simp only [first, second, Rust.ok_bind]
  exact answered_complete (by decide) [] rfl kind

theorem leSetAdvParams_complete : CompleteArm leSetAdvParams := by
  intro medium registers opcode params kind
  unfold leSetAdvParams
  split_ifs with long
  · simp only [index_ok (show 4 < params.length by omega),
      index_ok (show 5 < params.length by omega), Rust.ok_bind]
    exact answered_complete (by decide) [] rfl kind
  · exact answered_complete (by decide) [] rfl kind

theorem leSetAdvData_complete : CompleteArm leSetAdvData := by
  intro medium registers opcode params kind
  unfold leSetAdvData
  match params with
  | [] => exact answered_complete (by decide) [] rfl kind
  | len :: rest =>
    obtain ⟨data, sliced⟩ := @slice_ok (len :: rest) 1
      (1 + min len.toNat ((len :: rest).length - 1)) (by omega) (by
        rw [length_cons]
        omega)
    simp only [sliced, Rust.ok_bind]
    exact answered_complete (by decide) [] rfl kind

theorem onConnectionWith_status {length : Nat} {reads : Bytes → Rust Unit}
    (fine : ∀ params : Bytes, length ≤ params.length → reads params = .ok ()) :
    StatusArm (onConnectionWith length reads) := by
  intro medium registers opcode params kind
  unfold onConnectionWith
  split_ifs with absent short
  · exact answered_status _ rfl kind
  · exact answered_status _ rfl kind
  · rw [fine params (Nat.le_of_not_lt short)]
    exact answered_status _ rfl kind

theorem leSetPhy_status : StatusArm leSetPhy := by
  refine onConnectionWith_status fun params long => ?_
  simp only [index_ok (show 2 < params.length by omega),
    index_ok (show 3 < params.length by omega), index_ok (show 4 < params.length by omega),
    Rust.ok_bind]
  split_ifs <;> rfl

theorem leCsSecurityEnable_status : StatusArm leCsSecurityEnable := by
  intro medium registers opcode params kind
  unfold leCsSecurityEnable
  split_ifs
  · exact answered_status _ rfl kind
  · exact answered_status _ rfl kind

theorem leCsCreateConfig_status : StatusArm leCsCreateConfig := by
  intro medium registers opcode params kind
  unfold leCsCreateConfig
  split_ifs with long absent
  · simp only [index_ok (show 2 < params.length by omega),
      index_ok (show 3 < params.length by omega), index_ok (show 10 < params.length by omega),
      Rust.ok_bind]
    exact answered_status _ rfl kind
  · simp only [index_ok (show 2 < params.length by omega),
      index_ok (show 3 < params.length by omega), index_ok (show 10 < params.length by omega),
      Rust.ok_bind]
    exact answered_status _ rfl kind
  · exact answered_status _ rfl kind

theorem leCsProcedureEnable_status : StatusArm leCsProcedureEnable := by
  intro medium registers opcode params kind
  unfold leCsProcedureEnable
  split_ifs with long
  · simp only [index_ok (show 2 < params.length by omega),
      index_ok (show 3 < params.length by omega), Rust.ok_bind]
    exact answered_status _ rfl kind
  · exact answered_status _ rfl kind

theorem leCsRemoveConfig_status : StatusArm leCsRemoveConfig := by
  intro medium registers opcode params kind
  unfold leCsRemoveConfig
  split_ifs
  · exact answered_status _ rfl kind
  · exact answered_status _ rfl kind

theorem leSetExtAdvData_complete : CompleteArm leSetExtAdvData := by
  intro medium registers opcode params kind
  obtain ⟨found, read⟩ := trailer_ok 4 UInt8.toNat 3 params
  simp only [leSetExtAdvData, read, Rust.ok_bind]
  exact answered_complete (by decide) [] rfl kind

theorem leSetExtAdvEnable_complete : CompleteArm leSetExtAdvEnable := by
  intro medium registers opcode params kind
  obtain ⟨found, read⟩ := trailer_ok 2 (·.toNat * 4) 1 params
  simp only [leSetExtAdvEnable, read, Rust.ok_bind]
  exact answered_complete (by decide) [] rfl kind

theorem leSetPeriodicAdvData_complete : CompleteArm leSetPeriodicAdvData := by
  intro medium registers opcode params kind
  obtain ⟨found, read⟩ := trailer_ok 3 UInt8.toNat 2 params
  simp only [leSetPeriodicAdvData, read, Rust.ok_bind]
  exact answered_complete (by decide) [] rfl kind

theorem leBigCreateSync_status : StatusArm leBigCreateSync := by
  intro medium registers opcode params kind
  obtain ⟨found, read⟩ := trailer_ok 24 UInt8.toNat 23 params
  simp only [leBigCreateSync, read, Rust.ok_bind]
  cases found with
  | none => exact answered_status _ rfl kind
  | some indices =>
    split_ifs
    · exact answered_status _ rfl kind
    · exact answered_status _ rfl kind

theorem leBigTerminateSync_complete : CompleteArm leBigTerminateSync := by
  intro medium registers opcode params kind
  refine answered_complete ?_ _ rfl kind
  split_ifs <;> decide

theorem unmodelled_answered (medium : Medium) (registers : Registers) (params : Bytes) :
    Answered opcode (unmodelled medium registers opcode params) := by
  unfold unmodelled
  cases kind : answeredByCommandStatus opcode with
  | true => exact answered_status _ rfl kind
  | false => exact answered_complete (by decide) [] rfl kind

end Arms

/-! ## Dispatchers -/

def Kind (arm : UInt16 × Arm) : Prop :=
  answeredByCommandStatus arm.1 = true ∧ StatusArm arm.2 ∨
    answeredByCommandStatus arm.1 = false ∧ CompleteArm arm.2

variable {arm : Arm}

theorem Kind.status {opcode : UInt16} (known : answeredByCommandStatus opcode = true)
    (is : StatusArm arm) : Kind (opcode, arm) := .inl ⟨known, is⟩

theorem Kind.complete {opcode : UInt16} (known : answeredByCommandStatus opcode = false)
    (is : CompleteArm arm) :
    Kind (opcode, arm) := .inr ⟨known, is⟩

theorem securityArms_kind : ∀ arm ∈ securityArms, Kind arm := by
  simp only [securityArms, forall_mem_cons, not_mem_nil, false_imp_iff, implies_true,
    and_true]
  exact ⟨.status (by decide) (decided_status _), .status (by decide) (decided_status _),
    .status (by decide) (decided_status _), .status (by decide) begun_status,
    .status (by decide) (decided_status _), .complete (by decide) (returned_complete _),
    .complete (by decide) (returned_complete _), .complete (by decide) (returned_complete _),
    .complete (by decide) (returned_complete _), .complete (by decide) (returned_complete _),
    .complete (by decide) (returned_complete _), .complete (by decide) (returned_complete _),
    .complete (by decide) (returned_complete _), .complete (by decide) (returned_complete _),
    .complete (by decide) (returned_complete _), .complete (by decide) accepted_complete,
    .complete (by decide) (returned_complete _)⟩

theorem classicArms_kind : ∀ arm ∈ classicArms, arm.1 ≠ 0x0405 → Kind arm := by
  simp only [classicArms, forall_mem_cons, not_mem_nil, false_imp_iff, implies_true,
    and_true]
  exact ⟨fun _ => .status (by decide) begun_status,
    fun _ => .complete (by decide) accepted_complete, fun other => absurd rfl other,
    fun _ => .complete (by decide) createConnectionCancel_complete,
    fun _ => .status (by decide) (decided_status _),
    fun _ => .status (by decide) (decided_status _), fun _ => .status (by decide) begun_status,
    fun _ => .complete (by decide) accepted_complete,
    fun _ => .complete (by decide) (returned_complete _),
    fun _ => .complete (by decide) writeLocalName_complete,
    fun _ => .complete (by decide) (returned_complete _),
    fun _ => .complete (by decide) accepted_complete,
    fun _ => .complete (by decide) (returned_complete _),
    fun _ => .status (by decide) (decided_status _),
    fun _ => .status (by decide) (decided_status _),
    fun _ => .status (by decide) (decided_status _),
    fun _ => .status (by decide) (decided_status _),
    fun _ => .status (by decide) (decided_status _)⟩

theorem leArms_kind : ∀ arm ∈ leArms, Kind arm := by
  simp only [leArms, forall_mem_cons, not_mem_nil, false_imp_iff, implies_true, and_true]
  exact ⟨.complete (by decide) accepted_complete, .complete (by decide) (returned_complete _),
    .complete (by decide) leSetAdvParams_complete, .complete (by decide) leSetAdvData_complete,
    .complete (by decide) accepted_complete, .complete (by decide) accepted_complete,
    .status (by decide) begun_status, .complete (by decide) accepted_complete,
    .status (by decide) (onConnectionWith_status fun _ _ => rfl),
    .status (by decide) leSetPhy_status, .status (by decide) (decided_status _),
    .status (by decide) (decided_status _), .status (by decide) leCsSecurityEnable_status,
    .status (by decide) leCsCreateConfig_status, .complete (by decide) (returned_complete _),
    .status (by decide) leCsProcedureEnable_status, .status (by decide) leCsRemoveConfig_status,
    .complete (by decide) (returned_complete _), .complete (by decide) leSetExtAdvData_complete,
    .complete (by decide) leSetExtAdvEnable_complete,
    .complete (by decide) leSetPeriodicAdvData_complete, .complete (by decide) accepted_complete,
    .complete (by decide) accepted_complete, .status (by decide) (decided_status _),
    .complete (by decide) accepted_complete, .status (by decide) (decided_status _),
    .status (by decide) (decided_status _), .status (by decide) leBigCreateSync_status,
    .complete (by decide) leBigTerminateSync_complete, .status (by decide) begun_status⟩

theorem Kind.answered {opcode : UInt16} (kind : Kind (opcode, arm)) (medium : Medium)
    (registers : Registers) (params : Bytes) :
    Answered opcode (arm medium registers opcode params) := by
  rcases kind with ⟨known, status⟩ | ⟨known, complete⟩
  · exact status medium registers opcode params known
  · exact complete medium registers opcode params known

theorem armOf_mem {arms : List (UInt16 × Arm)} {opcode : UInt16}
    (found : armOf arms opcode = some arm) : (opcode, arm) ∈ arms := by
  obtain ⟨⟨named, held⟩, chosen, rfl⟩ := Option.map_eq_some_iff.mp found
  have same := List.find?_some chosen
  have member := mem_of_find?_eq_some chosen
  obtain rfl : named = opcode := of_decide_eq_true same
  exact member

/-! ## Peers -/

def LeaverFirst (medium : Medium) (target : Address) (connections : List Connection) : Prop :=
  ∃ before connection after, connections = before ++ connection :: after ∧
    (∀ other ∈ before, ∀ peer, medium.controllers[other.peer]? = some peer →
      peer.address ≠ target) ∧ medium.controllers.length ≤ connection.peer

/-- A command that looks at a peer which has left: Read RSSI at that of a connection, Create
Connection at those of all connections up to one to its target. -/
def Strays (medium : Medium) (registers : Registers) (opcode : UInt16) (params : Bytes) : Prop :=
  (opcode = readRssi ∧ ∃ peer, peerOf registers (leU16 params 0) = some peer ∧
    medium.controllers.length ≤ peer) ∨
  (opcode = 0x0405 ∧ ∃ target, classicAddress params = some target ∧
    LeaverFirst medium target registers.connections)

variable (medium : Medium)

/-- The look at the peers panics where it meets one that has left. -/
theorem leadsTo_cases (target : Address) (connections : List Connection) :
    (∃ found, leadsTo medium target connections = .ok found ∧
      ¬ LeaverFirst medium target connections) ∨
    (leadsTo medium target connections = .error .panic ∧
      LeaverFirst medium target connections) := by
  induction connections with
  | nil =>
    refine .inl ⟨false, rfl, ?_⟩
    rintro ⟨before, connection, after, split, -⟩
    exact append_ne_nil_of_right_ne_nil before (cons_ne_nil connection after) split.symm
  | cons connection rest ih =>
    unfold leadsTo
    cases present : medium.controllers[connection.peer]? with
    | none =>
      exact .inr ⟨rfl, [], connection, rest, rfl, nofun, List.getElem?_eq_none_iff.mp present⟩
    | some peer =>
      simp only [unwrap_some, Rust.ok_bind]
      have here : connection.peer < medium.controllers.length :=
        (List.getElem?_eq_some_iff.mp present).1
      by_cases same : peer.address = target
      · rw [if_pos same]
        refine .inl ⟨true, rfl, ?_⟩
        rintro ⟨before, other, after, split, apart, gone⟩
        rcases before with _ | ⟨first, before⟩
        · cases split
          exact absurd here (Nat.not_lt.mpr gone)
        · cases split
          exact apart _ (.head _) peer present same
      · rw [if_neg same]
        rcases ih with ⟨found, looked, none⟩ |
          ⟨panics, before, other, after, split, apart, gone⟩
        · refine .inl ⟨found, looked, ?_⟩
          rintro ⟨before, other, after, split, apart, gone⟩
          rcases before with _ | ⟨first, before⟩
          · cases split
            exact absurd here (Nat.not_lt.mpr gone)
          · cases split
            exact none ⟨before, other, after, rfl,
              fun another member => apart another (.tail _ member), gone⟩
        · refine .inr ⟨panics, connection :: before, other, after, by rw [split]; rfl, ?_, gone⟩
          intro another member
          rcases mem_cons.mp member with rfl | later
          · intro found held
            rw [present] at held
            cases held
            exact same
          · exact apart another later

theorem not_answered_panic {opcode : UInt16} : ¬ Answered opcode (.error .panic) := by
  rintro ⟨events, event, failed, -⟩
  contradiction

theorem handleReadRssi_answered (i : Nat) (registers : Registers) (params : Bytes) :
    Answered readRssi (handleReadRssi medium i registers (leU16 params 0)) ↔
      ¬ ∃ peer, peerOf registers (leU16 params 0) = some peer ∧
        medium.controllers.length ≤ peer := by
  unfold handleReadRssi
  cases found : peerOf registers (leU16 params 0) with
  | none => exact iff_of_true (answered_complete (by decide) _ rfl (by decide)) (by simp)
  | some peer =>
    simp only
    cases present : medium.controllers[peer]? with
    | none =>
      refine iff_of_false not_answered_panic (not_not.mpr ⟨peer, rfl, ?_⟩)
      exact List.getElem?_eq_none_iff.mp present
    | some other =>
      apply iff_of_true (answered_complete (by decide) _ rfl (by decide))
      rintro ⟨_, same, gone⟩
      cases same
      exact absurd (List.getElem?_eq_some_iff.mp present).1 (Nat.not_lt.mpr gone)

theorem createConnection_answered (registers : Registers) (params : Bytes) :
    Answered 0x0405 (createConnection medium registers 0x0405 params) ↔
      ¬ ∃ target, classicAddress params = some target ∧
        LeaverFirst medium target registers.connections := by
  unfold createConnection alreadyConnected
  cases classicAddress params with
  | none => exact iff_of_true (answered_status _ rfl (by decide)) (by simp)
  | some target =>
    simp only
    rcases leadsTo_cases medium target registers.connections with ⟨found, looked, none⟩ |
      ⟨panics, leaver⟩
    · rw [looked]
      apply iff_of_true (answered_status _ rfl (by decide))
      rintro ⟨_, same, leaver⟩
      cases same
      exact none leaver
    · rw [panics]
      exact iff_of_false not_answered_panic (not_not.mpr ⟨target, rfl, leaver⟩)

/-- A command is answered as it should be if and only if it looks at no peer that has left. -/
theorem answered_iff (medium : Medium) (i : Nat) (registers : Registers)
    (found : medium.controllers[i]? = some registers) (low high length : UInt8) (params : Bytes) :
    Answered (U16.fromLeBytes low high)
        (handlePacket medium i (0x01 :: low :: high :: length :: params)) ↔
      ¬ Strays medium registers (U16.fromLeBytes low high) params := by
  simp only [handlePacket]
  generalize U16.fromLeBytes low high = opcode
  unfold handleCommand Strays
  rw [found, unwrap_some, Rust.ok_bind]
  by_cases rssi : opcode = readRssi
  · subst rssi
    rw [if_pos rfl, handleReadRssi_answered]
    refine not_congr ⟨fun strays => .inl ⟨rfl, strays⟩, ?_⟩
    rintro (⟨-, strays⟩ | ⟨other, -⟩)
    · exact strays
    · exact absurd other (by decide)
  rw [if_neg rssi]
  by_cases connection : opcode = 0x0405
  · subst connection
    have unsecured : armOf securityArms 0x0405 = none := rfl
    have connects : armOf classicArms 0x0405 = some createConnection := rfl
    simp only [unsecured, connects]
    rw [createConnection_answered]
    refine not_congr ⟨fun strays => .inr ⟨trivial, strays⟩, ?_⟩
    rintro (⟨other, -⟩ | ⟨-, strays⟩)
    · exact absurd other (by decide)
    · exact strays
  apply iff_of_true
  · cases secured : armOf securityArms opcode with
    | some arm => exact (securityArms_kind _ (armOf_mem secured)).answered ..
    | none =>
      cases classic : armOf classicArms opcode with
      | some arm => exact (classicArms_kind _ (armOf_mem classic) connection).answered ..
      | none =>
        cases le : armOf leArms opcode with
        | some arm => exact (leArms_kind _ (armOf_mem le)).answered ..
        | none => exact unmodelled_answered medium registers params
  · rintro (⟨same, -⟩ | ⟨same, -⟩)
    · exact rssi same
    · exact connection same

/-! ## A peer that leaves -/

def address (low : UInt8) : Address := ⟨⟨[low, 2, 3, 4, 5, 6], rfl⟩⟩

def two : Medium :=
  (Medium.addDevice ⟨[], 0x0001, fun _ _ => 0xC4⟩ (address 1)).addDevice (address 9)

def connectedTwo : Medium := two.establishConnection 0 1

/-- Read RSSI while the peer is there. -/
theorem answered_iff_two :
    Answered 0x1405 (handlePacket connectedTwo 0 [0x01, 0x05, 0x14, 2, 1, 0]) := by
  apply (answered_iff connectedTwo 0 _ rfl 0x05 0x14 2 [1, 0]).mpr
  rintro (⟨-, peer, found, gone⟩ | ⟨other, -⟩)
  · cases found
    exact absurd gone (by decide)
  · exact absurd other (by decide)

/-- Create Connection panics once a peer has been removed. -/
theorem answered_fails : ∃ medium i params,
    medium = connectedTwo.removeDevice (address 9) ∧ (medium.controllers[i]?).isSome ∧
      ¬ Answered 0x0405 (handlePacket medium i (0x01 :: 0x05 :: 0x04 :: 13 :: params)) := by
  refine ⟨_, 0, [7, 2, 3, 4, 5, 6, 0, 0, 0, 0, 0, 0, 1], rfl, rfl, ?_⟩
  exact not_answered_panic

end Simble.Controller.Commands
