import Mathlib.Data.List.Perm.Subperm
import Simble.Device.Answers

/-! How discovery gets on whatever the peer answers. A central sweeps the handles for services,
then, service by service, for characteristics, past the last handle of its table: the peer fills
the table, and a sweep whose entries go into another service's list never gets past its start. -/
namespace Simble.Device
open Simble.Lib Simble.Gatt Simble.Att List

def CentralPhase.sweep : CentralPhase → Nat
  | .discoveringCharacteristics index => index + 1
  | _ => 0

structure Asked where
  sweep : Nat
  start : UInt16

def Outgoing.asked (phase : CentralPhase) : Outgoing → Option Asked
  | .att _ (op :: low :: high :: _) =>
    if op = Opcode.readByGroupTypeReq.byte then some ⟨0, U16.fromLeBytes low high⟩
    else if op = Opcode.readByTypeReq.byte then some ⟨phase.sweep, U16.fromLeBytes low high⟩
    else none
  | _ => none

def listedServices (att : Bytes) : List DiscoveredService :=
  match AttPdu.parse att with
  | some (.readByGroupTypeRsp length data) =>
    ((items 4 length data).getD []).filterMap fun (item : Bytes × Bytes) =>
      (Uuid.fromBytes item.2).map fun uuid =>
        ⟨entryHandle item.1, entryHandle (item.1.drop 2), uuid, []⟩
  | _ => []

def declaredCharacteristics (att : Bytes) : List DiscoveredCharacteristic :=
  match AttPdu.parse att with
  | some (.readByTypeRsp length data) =>
    if length.toNat < 5 then [] else (dataList 2 length.toNat data).filterMap GattClient.readDeclaration
  | _ => []

namespace LeCentral
variable (central : LeCentral)

def joined (handle : UInt16) : LeCentral :=
  { central with client := .new handle, phase := .exchangingMtu }.raise
    (.connectionStateChange central.target true 0)

def hears (att : Bytes) : Rust (LeCentral × List Outgoing) := do
  let dispatched ← central.dispatchAtt att
  let pumped := dispatched.1.pump
  pure (pumped.1, dispatched.2 ++ pumped.2)

def holds (index : Nat) (service : DiscoveredService) (att : Bytes) : List DiscoveredCharacteristic :=
  if central.client.services.findIdx? (fun other => other.uuid = service.uuid) = some index then
    service.characteristics ++ declaredCharacteristics att
  else service.characteristics

def sweeps (att : Bytes) : Option (UInt16 × UInt16) :=
  match central.phase with
  | .discoveringServices =>
    if att.head? = some Opcode.readByGroupTypeRsp.byte then
      some (((central.client.services ++ listedServices att).getLast?.map
        DiscoveredService.endHandle).getD 0xFFFF, 0xFFFF)
    else none
  | .discoveringCharacteristics index =>
    if att.head? = some Opcode.readByTypeRsp.byte then
      central.client.services[index]?.map fun service =>
        (((central.holds index service att).getLast?.map DiscoveredCharacteristic.valueHandle).getD
          service.startHandle, service.endHandle)
    else none
  | _ => none

end LeCentral

/-- A central with the requests of discovery that it has sent, oldest first. -/
structure Survey where
  central : LeCentral
  asked : List Asked

def Surveys (before : Survey) (att : Bytes) (after : Survey) : Prop :=
  ∃ sent, before.central.hears att = .ok (after.central, sent) ∧
    after.asked = before.asked ++ sent.filterMap (Outgoing.asked after.central.phase)

/-- The response takes its sweep past every start that was asked for, or to its end. -/
def Passes (before : Survey) (att : Bytes) : Prop :=
  ∀ reached last, before.central.sweeps att = some (reached, last) → reached < last →
    ∀ asked ∈ before.asked, asked.sweep = before.central.phase.sweep → asked.start ≤ reached

/-- Discovery gets on, and comes to an end: the starts of a sweep increase, there are
finitely many, none is reached by overflow, and the next PDU is no panic either. -/
structure Progresses (survey : Survey) : Prop where
  increasing : survey.asked.Pairwise fun earlier later =>
    earlier.sweep = later.sweep → earlier.start < later.start
  finite : survey.asked.length ≤ (survey.central.client.services.length + 1) * 65536
  unwrapped : survey.asked.Pairwise fun earlier later =>
    earlier.sweep = later.sweep → 0 < later.start
  hears : ∀ att, ∃ after, Surveys survey att after

inductive Turns (before : LeCentral) (att : Bytes) (after : LeCentral) (asked : List Asked) : Prop
  | quiet : before.sweeps att = none → after.phase = before.phase →
    after.client.services.length = before.client.services.length → asked = [] →
    Turns before att after asked
  | opens : before.phase = .exchangingMtu → after.phase = .discoveringServices →
    after.client.services.length = before.client.services.length → asked = [⟨0, 1⟩] →
    Turns before att after asked
  | goesOn {reached last} : before.sweeps att = some (reached, last) → reached < last →
    after.phase = before.phase → before.client.services.length ≤ after.client.services.length →
    asked = [⟨before.phase.sweep, reached + 1⟩] → Turns before att after asked
  | next {start} : (∀ reached last, before.sweeps att = some (reached, last) → ¬ reached < last) →
    before.phase.Discovers → after.phase = .discoveringCharacteristics before.phase.sweep →
    before.client.services.length ≤ after.client.services.length →
    before.phase.sweep < after.client.services.length →
    asked = [⟨before.phase.sweep + 1, start⟩] → Turns before att after asked
  | ends : (∀ reached last, before.sweeps att = some (reached, last) → ¬ reached < last) →
    after.phase = .ready → before.client.services.length ≤ after.client.services.length →
    asked = [] → Turns before att after asked

/-- The service under discovery is in the table. -/
def LeCentral.Indexed (central : LeCentral) : Prop :=
  ∀ index, central.phase = .discoveringCharacteristics index → index < central.client.services.length

open GattClient

section Tables
variable {α : Type} {test : α → Bool} {change : α → α} {head : α}

theorem modifyFirst_pos (hit : test head = true) (tail : List α) :
    modifyFirst test change (head :: tail) = change head :: tail := if_pos hit

theorem modifyFirst_neg (miss : test head = false) (tail : List α) :
    modifyFirst test change (head :: tail) = head :: modifyFirst test change tail :=
  if_neg (by rw [miss]; nofun)

@[simp] theorem length_modifyFirst (list : List α) :
    (modifyFirst test change list).length = list.length := by
  induction list with
  | nil => rfl
  | cons head tail ih =>
    cases hit : test head with
    | true =>
      rw [modifyFirst_pos hit]
      rfl
    | false =>
      rw [modifyFirst_neg hit]
      exact congrArg (· + 1) ih

theorem getElem?_modifyFirst (list : List α) (index : Nat) :
    (modifyFirst test change list)[index]? =
      list[index]?.map fun item => if list.findIdx? test = some index then change item else item := by
  induction list generalizing index with
  | nil => rfl
  | cons head tail ih =>
    rw [List.findIdx?_cons]
    cases hit : test head with
    | true =>
      rw [modifyFirst_pos hit]
      cases index with
      | zero => rfl
      | succ index =>
        rw [List.getElem?_cons_succ, List.getElem?_cons_succ]
        simp
    | false =>
      rw [modifyFirst_neg hit]
      cases index with
      | zero => simp
      | succ index =>
        rw [List.getElem?_cons_succ, List.getElem?_cons_succ, ih]
        simp

theorem modifyFirst_eq_self (same : ∀ item, change item = item) (list : List α) :
    modifyFirst test change list = list := by
  induction list with
  | nil => rfl
  | cons head tail ih =>
    unfold modifyFirst
    rw [same, ih, ite_self]

theorem modifyFirst_modifyFirst {again : α → α} (kept : ∀ item, test (change item) = test item)
    (list : List α) : modifyFirst test again (modifyFirst test change list) =
      modifyFirst test (fun item => again (change item)) list := by
  induction list with
  | nil => rfl
  | cons head tail ih =>
    cases hit : test head with
    | true =>
      have still : test (change head) = true := (kept head).trans hit
      rw [modifyFirst_pos hit, modifyFirst_pos hit, modifyFirst_pos still]
    | false => rw [modifyFirst_neg hit, modifyFirst_neg hit, modifyFirst_neg hit, ih]

theorem modifyFirst_append (front back : List α) :
    modifyFirst test change (front ++ back) =
      if front.any test then modifyFirst test change front ++ back
      else front ++ modifyFirst test change back := by
  induction front with
  | nil => rfl
  | cons head tail ih =>
    rw [cons_append]
    cases hit : test head with
    | true =>
      rw [modifyFirst_pos hit, modifyFirst_pos hit, if_pos (by simp [hit])]
      rfl
    | false =>
      rw [modifyFirst_neg hit, modifyFirst_neg hit, ih, any_cons, hit, Bool.false_or]
      split <;> rfl

end Tables

section Responses
variable {client : GattClient} {att : Bytes}

theorem onDiscoverServicesResponse_eq : client.onDiscoverServicesResponse att =
    { client with services := client.services ++ listedServices att } := by
  have same : client = { client with services := client.services ++ [] } := by rw [append_nil]
  unfold onDiscoverServicesResponse listedServices
  cases AttPdu.parse att with
  | none => exact same
  | some pdu =>
    cases pdu with
    | readByGroupTypeRsp length data =>
      dsimp only
      cases items 4 length data with
      | none => exact same
      | some list => rfl
    | _ => exact same

def GattClient.takes (client : GattClient) (uuid : Uuid) (batch : List DiscoveredCharacteristic) :
    GattClient :=
  { client with
    services := GattClient.modifyFirst (fun service => service.uuid = uuid)
      (fun service => { service with characteristics := service.characteristics ++ batch })
      client.services }

theorem takes_nil (uuid : Uuid) : takes client uuid [] = client := by
  unfold takes
  rw [modifyFirst_eq_self fun service => by rw [append_nil]]

theorem takes_takes (uuid : Uuid) (first second : List DiscoveredCharacteristic) :
    takes (takes client uuid first) uuid second =
      takes client uuid (first ++ second) := by
  unfold takes
  rw [modifyFirst_modifyFirst]
  · simp only [append_assoc]
  · exact fun _ => rfl

theorem onDiscoverCharacteristicsResponse_eq (uuid : Uuid) :
    client.onDiscoverCharacteristicsResponse uuid att =
      takes client uuid (declaredCharacteristics att) := by
  unfold onDiscoverCharacteristicsResponse declaredCharacteristics
  cases AttPdu.parse att with
  | none => exact (takes_nil uuid).symm
  | some pdu =>
    cases pdu with
    | readByTypeRsp length data =>
      dsimp only
      split
      · exact (takes_nil uuid).symm
      · rfl
    | _ => exact (takes_nil uuid).symm

theorem takes_length (uuid : Uuid) (batch : List DiscoveredCharacteristic) :
    (client.takes uuid batch).services.length = client.services.length := length_modifyFirst _

end Responses

open Outgoing

namespace LeCentral
variable {central : LeCentral} {att : Bytes}

theorem takes_get {index : Nat} {service : DiscoveredService}
    (listed : central.client.services[index]? = some service) :
    (central.client.takes service.uuid (declaredCharacteristics att)).services[index]? =
      some { service with characteristics := central.holds index service att } := by
  unfold takes holds
  rw [getElem?_modifyFirst, listed, Option.map_some]
  split <;> rfl

section Operations
variable (phase : CentralPhase)

/-- Operations keep the phase and the table, and send no request of discovery. -/
structure Steady (before after : LeCentral) (sent : List Outgoing) : Prop where
  phase : after.phase = before.phase
  length : after.client.services.length = before.client.services.length
  asked : ∀ phase, sent.filterMap (Outgoing.asked phase) = []

theorem startSubscribe_steady (target : Target) (enable : Bool) :
    Steady central (central.startSubscribe target enable).1 (central.startSubscribe target enable).2 := by
  unfold startSubscribe
  split
  · exact ⟨rfl, rfl, fun _ => rfl⟩
  · split
    · exact ⟨rfl, rfl, fun _ => rfl⟩
    · exact ⟨rfl, rfl, fun _ => rfl⟩

theorem start_steady (op : Op) : Steady central (central.start op).1 (central.start op).2 := by
  unfold start
  split
  · split
    · exact ⟨rfl, rfl, fun _ => rfl⟩
    · exact ⟨rfl, rfl, fun _ => rfl⟩
  · split
    · exact ⟨rfl, rfl, fun _ => rfl⟩
    · split
      · exact ⟨rfl, rfl, fun _ => rfl⟩
      · exact ⟨rfl, rfl, fun _ => rfl⟩
  · exact startSubscribe_steady _ _
  · split
    · exact ⟨rfl, rfl, fun _ => rfl⟩
    · split
      · exact startSubscribe_steady _ _
      · split
        · exact ⟨rfl, rfl, fun _ => rfl⟩
        · exact ⟨rfl, rfl, fun _ => rfl⟩

theorem Steady.trans {between after : LeCentral} {sent more : List Outgoing}
    (first : Steady central between sent) (second : Steady between after more) :
    Steady central after (sent ++ more) := by
  refine ⟨second.phase.trans first.phase, second.length.trans first.length, fun phase => ?_⟩
  rw [filterMap_append, first.asked, second.asked]
  rfl

theorem pumpFrom_steady (ops : List Op) :
    Steady central (pumpFrom ops central).1 (pumpFrom ops central).2 := by
  induction ops generalizing central with
  | nil => exact ⟨rfl, rfl, fun _ => rfl⟩
  | cons op rest ih =>
    unfold pumpFrom
    split
    · exact ⟨rfl, rfl, fun _ => rfl⟩
    · exact (start_steady op).trans ih

theorem pump_steady (central : LeCentral) : Steady central central.pump.1 central.pump.2 := by
  unfold pump
  split
  · exact ⟨rfl, rfl, fun _ => rfl⟩
  · exact pumpFrom_steady _

theorem recordDescriptors_steady (target : Target) :
    Steady central (central.recordDescriptors target att) [] := by
  unfold recordDescriptors
  split
  · split
    · exact ⟨rfl, rfl, fun _ => rfl⟩
    · exact ⟨rfl, length_modifyFirst _, fun _ => rfl⟩
  · exact ⟨rfl, rfl, fun _ => rfl⟩

theorem completeOperation_steady (isError : Bool) :
    Steady central (central.completeOperation att isError).1
      (central.completeOperation att isError).2 := by
  unfold completeOperation
  cases flies : central.inFlight with
  | none => exact ⟨rfl, rfl, fun _ => rfl⟩
  | some flying =>
    obtain ⟨op, handle⟩ := flying
    have taken : Steady central { central with inFlight := none } [] := ⟨rfl, rfl, fun _ => rfl⟩
    cases op with
    | read target =>
      dsimp only
      repeat' split
      all_goals exact ⟨rfl, rfl, fun _ => rfl⟩
    | write target value withResponse => exact ⟨rfl, rfl, fun _ => rfl⟩
    | subscribe target enable =>
      dsimp only
      repeat' split
      all_goals exact ⟨rfl, rfl, fun _ => rfl⟩
    | discoverDescriptors target enable =>
      dsimp only
      split
      · exact (taken.trans (recordDescriptors_steady target)).trans (startSubscribe_steady target enable)
      · exact taken.trans (startSubscribe_steady target enable)

end Operations

section Sweeps

theorem sweeps_of_undiscovering (still : ¬ central.phase.Discovers ∨ central.phase = .exchangingMtu) :
    central.sweeps att = none := by
  unfold sweeps
  cases phase : central.phase with
  | discoveringServices | discoveringCharacteristics index =>
    rw [phase] at still
    exact absurd still (not_or.mpr ⟨not_not.mpr trivial, nofun⟩)
  | _ => rfl

theorem steady_quiet {after : LeCentral} {sent : List Outgoing} (still : central.sweeps att = none)
    (steady : Steady central after sent) :
    Turns central att after (sent.filterMap (asked after.phase)) :=
  .quiet still steady.phase steady.length (steady.asked _)

theorem asked_services (phase : CentralPhase) (startHandle endHandle : UInt16) :
    asked phase (central.send (discoverServicesRequest startHandle endHandle)) =
      some ⟨0, startHandle⟩ :=
  congrArg (fun start => some (Asked.mk 0 start)) (U16.fromLeBytes_toLeBytes startHandle)

theorem asked_characteristics (phase : CentralPhase) (startHandle endHandle : UInt16) :
    asked phase
        (central.send (discoverCharacteristicsRequest startHandle endHandle)) =
      some ⟨phase.sweep, startHandle⟩ :=
  congrArg (fun start => some (Asked.mk phase.sweep start)) (U16.fromLeBytes_toLeBytes startHandle)

variable {table : LeCentral}

theorem discoverCharacteristicsFor_turns {service : DiscoveredService}
    (done : ∀ reached last, central.sweeps att = some (reached, last) → ¬ reached < last)
    (discovers : central.phase.Discovers)
    (grown : central.client.services.length ≤ table.client.services.length)
    (listed : central.phase.sweep < table.client.services.length) :
    Turns central att (table.discoverCharacteristicsFor central.phase.sweep service).1
      ((table.discoverCharacteristicsFor central.phase.sweep service).2.filterMap (Outgoing.asked
        (table.discoverCharacteristicsFor central.phase.sweep service).1.phase)) := by
  have asked : (table.discoverCharacteristicsFor central.phase.sweep service).2.filterMap
      (Outgoing.asked (.discoveringCharacteristics central.phase.sweep)) =
        [⟨central.phase.sweep + 1, service.startHandle⟩] := by
    unfold discoverCharacteristicsFor
    rw [filterMap_cons_some (asked_characteristics _ _ _)]
    rfl
  exact .next done discovers rfl grown listed asked

theorem nextCharacteristicService_turns {index : Nat}
    (done : ∀ reached last, central.sweeps att = some (reached, last) → ¬ reached < last)
    (phase : central.phase = .discoveringCharacteristics index)
    (grown : central.client.services.length ≤ table.client.services.length) :
    Turns central att (table.nextCharacteristicService index).1
      ((table.nextCharacteristicService index).2.filterMap
        (asked (table.nextCharacteristicService index).1.phase)) := by
  have sweep : central.phase.sweep = index + 1 := congrArg CentralPhase.sweep phase
  have discovers : central.phase.Discovers := by
    rw [phase]
    trivial
  unfold nextCharacteristicService
  split
  · rename_i service listed
    rw [← sweep] at listed ⊢
    exact discoverCharacteristicsFor_turns done discovers grown (List.getElem?_eq_some_iff.mp listed).1
  · exact .ends done rfl grown rfl

theorem startCharacteristicDiscovery_turns
    (done : ∀ reached last, central.sweeps att = some (reached, last) → ¬ reached < last)
    (phase : central.phase = .discoveringServices)
    (grown : central.client.services.length ≤ table.client.services.length) :
    Turns central att table.startCharacteristicDiscovery.1
      (table.startCharacteristicDiscovery.2.filterMap
        (asked table.startCharacteristicDiscovery.1.phase)) := by
  have sweep : central.phase.sweep = 0 := congrArg CentralPhase.sweep phase
  have discovers : central.phase.Discovers := by
    rw [phase]
    trivial
  unfold startCharacteristicDiscovery
  split
  · exact .ends done rfl grown rfl
  · rename_i service rest listed
    have some : central.phase.sweep < table.client.services.length := by
      rw [sweep, listed]
      exact Nat.succ_pos _
    rw [← sweep]
    exact discoverCharacteristicsFor_turns done discovers grown some

theorem onServices_turns (phase : central.phase = .discoveringServices)
    (response : att.head? = some Opcode.readByGroupTypeRsp.byte) :
    Turns central att (central.onServices att).1
      ((central.onServices att).2.filterMap (asked (central.onServices att).1.phase)) := by
  have services := congrArg GattClient.services (@onDiscoverServicesResponse_eq central.client att)
  have grown : central.client.services.length ≤
      (central.client.onDiscoverServicesResponse att).services.length := by
    rw [services, length_append]
    omega
  have sweeps : central.sweeps att =
      some (((central.client.onDiscoverServicesResponse att).services.getLast?.map
        DiscoveredService.endHandle).getD 0xFFFF, 0xFFFF) := by
    unfold LeCentral.sweeps
    rw [phase, services]
    exact if_pos response
  unfold onServices
  dsimp only
  split
  · rename_i before
    refine .goesOn sweeps before rfl grown ?_
    rw [filterMap_cons_some (asked_services _ _ _), congrArg CentralPhase.sweep phase]
    rfl
  · rename_i reached
    refine startCharacteristicDiscovery_turns ?_ phase grown
    intro last limit found
    cases sweeps.symm.trans found
    exact reached

theorem onCharacteristics_turns {index : Nat} (phase : central.phase = .discoveringCharacteristics index)
    (indexed : index < central.client.services.length)
    (response : att.head? = some Opcode.readByTypeRsp.byte) :
    ∃ after sent, central.onCharacteristics index att = .ok (after, sent) ∧
      Turns central att after (sent.filterMap (asked after.phase)) := by
  obtain ⟨service, listed⟩ : ∃ service, central.client.services[index]? = some service :=
    ⟨_, List.getElem?_eq_getElem indexed⟩
  have found := @takes_get central att index service listed
  have grown := (@takes_length central.client service.uuid (declaredCharacteristics att)).ge
  have sweeps : central.sweeps att =
      some (((central.holds index service att).getLast?.map
        DiscoveredCharacteristic.valueHandle).getD service.startHandle, service.endHandle) := by
    unfold LeCentral.sweeps
    rw [phase]
    dsimp only
    rw [if_pos response, listed]
    rfl
  unfold onCharacteristics
  rw [listed]
  dsimp only [unwrap_some, bind, Except.bind]
  rw [onDiscoverCharacteristicsResponse_eq, found]
  dsimp only [unwrap_some]
  split
  · rename_i before
    refine ⟨_, _, rfl, .goesOn sweeps before rfl grown ?_⟩
    rw [filterMap_cons_some (asked_characteristics _ _ _)]
    rfl
  · rename_i reached
    refine ⟨_, _, rfl, nextCharacteristicService_turns ?_ phase grown⟩
    intro last limit same
    cases sweeps.symm.trans same
    exact reached

/-- A PDU that is not the response of the sweep under way. -/
theorem sweeps_of_head {op : UInt8} {rest : Bytes} (services : op ≠ Opcode.readByGroupTypeRsp.byte)
    (characteristics : op ≠ Opcode.readByTypeRsp.byte) : central.sweeps (op :: rest) = none := by
  unfold sweeps
  split
  · exact if_neg fun same => services (Option.some.inj same)
  · exact if_neg fun same => characteristics (Option.some.inj same)
  · rfl

theorem steady_refl : Steady central central [] := ⟨rfl, rfl, fun _ => rfl⟩

theorem advance_turns (indexed : central.Indexed) (op : UInt8) (rest : Bytes) :
    ∃ after sent, central.advance op (op :: rest) = .ok (after, sent) ∧
      Turns central (op :: rest) after (sent.filterMap (asked after.phase)) := by
  have quiet (none : central.sweeps (op :: rest) = none) :
      Turns central (op :: rest) central (List.filterMap (asked central.phase) []) :=
    steady_quiet none steady_refl
  have ended (isError : op = Opcode.errorRsp.byte) (reached last : UInt16)
      (sweeps : central.sweeps (op :: rest) = some (reached, last)) : ¬ reached < last := by
    subst isError
    rw [sweeps_of_head (by decide) (by decide)] at sweeps
    contradiction
  unfold advance
  cases phase : central.phase with
  | exchangingMtu =>
    refine ⟨_, _, rfl, .opens phase rfl ?_ ?_⟩
    · split <;> rfl
    · exact filterMap_cons_some (asked_services _ _ _)
  | discoveringServices =>
    dsimp only
    split
    · rename_i isError
      exact ⟨_, _, rfl, startCharacteristicDiscovery_turns (ended (of_decide_eq_true isError)) phase
        le_rfl⟩
    · split
      · rename_i response
        exact ⟨_, _, rfl, onServices_turns phase (congrArg some response)⟩
      · rename_i other
        refine ⟨_, _, rfl, quiet ?_⟩
        unfold sweeps
        rw [phase]
        exact if_neg fun same => other (Option.some.inj same)
  | discoveringCharacteristics index =>
    dsimp only
    split
    · rename_i isError
      exact ⟨_, _, rfl, nextCharacteristicService_turns (ended (of_decide_eq_true isError)) phase
        le_rfl⟩
    · split
      · rename_i response
        exact onCharacteristics_turns phase (indexed index phase) (congrArg some response)
      · rename_i other
        refine ⟨_, _, rfl, quiet ?_⟩
        unfold sweeps
        rw [phase]
        exact if_neg fun same => other (Option.some.inj same)
  | ready =>
    refine ⟨_, _, rfl, steady_quiet ?_ (completeOperation_steady _)⟩
    unfold sweeps
    rw [phase]
  | idle | initializing | scanning | connecting | disconnected =>
    refine ⟨_, _, rfl, quiet ?_⟩
    unfold sweeps
    rw [phase]

theorem dispatchAtt_turns (indexed : central.Indexed) (att : Bytes) :
    ∃ after sent, central.dispatchAtt att = .ok (after, sent) ∧
      Turns central att after (sent.filterMap (asked after.phase)) := by
  cases att with
  | nil =>
    refine ⟨_, _, rfl, steady_quiet ?_ steady_refl⟩
    unfold sweeps
    split <;> rfl
  | cons op rest =>
    unfold dispatchAtt
    dsimp only
    split
    · rename_i value
      refine ⟨_, _, rfl, steady_quiet (sweeps_of_head ?_ ?_) ?_⟩
      · rcases value.1 with rfl | rfl <;> decide
      · rcases value.1 with rfl | rfl <;> decide
      · split
        · exact ⟨rfl, rfl, fun _ => rfl⟩
        · exact ⟨rfl, rfl, fun _ => rfl⟩
    · split
      · rename_i request
        refine ⟨_, _, rfl, steady_quiet (sweeps_of_head ?_ ?_) ⟨rfl, rfl, fun _ => rfl⟩⟩
        · rintro rfl
          exact absurd request (by decide)
        · rintro rfl
          exact absurd request (by decide)
      · split
        · rename_i command
          refine ⟨_, _, rfl, steady_quiet (sweeps_of_head ?_ ?_) steady_refl⟩
          · rcases command with rfl | rfl <;> decide
          · rcases command with rfl | rfl <;> decide
        · exact advance_turns indexed op rest

/-- The queue that is served afterwards makes no difference. -/
theorem turns_steady {between after : LeCentral} {asked : List Asked}
    (turns : Turns central att between asked) (phase : after.phase = between.phase)
    (length : after.client.services.length = between.client.services.length) :
    Turns central att after asked := by
  cases turns with
  | quiet none still same silent => exact .quiet none (phase.trans still) (length.trans same) silent
  | opens joined opened same asked =>
    exact .opens joined (phase.trans opened) (length.trans same) asked
  | goesOn sweeps below still grown asked =>
    exact .goesOn sweeps below (phase.trans still) (grown.trans length.ge) asked
  | next done discovers begun grown listed asked =>
    exact .next done discovers (phase.trans begun) (grown.trans length.ge) (length ▸ listed) asked
  | ends done ready grown silent =>
    exact .ends done (phase.trans ready) (grown.trans length.ge) silent

theorem hears_turns (indexed : central.Indexed) (att : Bytes) :
    ∃ after sent, central.hears att = .ok (after, sent) ∧
      Turns central att after (sent.filterMap (asked after.phase)) := by
  obtain ⟨between, sent, dispatched, turns⟩ := dispatchAtt_turns indexed att
  have pumped := pump_steady between
  refine ⟨between.pump.1, sent ++ between.pump.2, ?_, ?_⟩
  · unfold hears
    rw [dispatched]
    rfl
  · rw [filterMap_append, pumped.asked, append_nil, pumped.phase]
    exact turns_steady turns pumped.phase pumped.length

end Sweeps

end LeCentral

/-- What holds of a survey whatever the peer answers: requests have been sent for the
sweeps so far, and the table has their services. -/
structure Surveyed (survey : Survey) : Prop where
  opened : survey.central.phase = .exchangingMtu → survey.asked = []
  sweeps : survey.central.phase.Discovers → ∀ asked ∈ survey.asked,
    asked.sweep ≤ survey.central.phase.sweep
  listed : ∀ asked ∈ survey.asked, asked.sweep ≤ survey.central.client.services.length
  indexed : survey.central.Indexed
  unwrapped : survey.asked.Pairwise fun earlier later =>
    earlier.sweep = later.sweep → 0 < later.start

/-- The starts of a sweep increase. -/
def Increasing (asked : List Asked) : Prop :=
  asked.Pairwise fun earlier later => earlier.sweep = later.sweep → earlier.start < later.start

open LeCentral

section Surveys
variable {survey before after : Survey} {att : Bytes}

theorem surveys_turns (indexed : before.central.Indexed) (surveys : Surveys before att after) :
    ∃ asked, after.asked = before.asked ++ asked ∧ Turns before.central att after.central asked := by
  obtain ⟨sent, heard, all⟩ := surveys
  obtain ⟨central, sent', heard', turns⟩ := hears_turns indexed att
  cases heard.symm.trans heard'
  exact ⟨_, all, turns⟩

theorem pairwise_concat {relation : Asked → Asked → Prop} {earlier : List Asked} {last : Asked} :
    (earlier ++ [last]).Pairwise relation ↔
      earlier.Pairwise relation ∧ ∀ asked ∈ earlier, relation asked last := by
  rw [pairwise_append]
  simp

/-- A start that a sweep goes on from is not reached by overflow. -/
theorem toNat_succ {reached last : UInt16} (below : reached < last) :
    (reached + 1).toNat = reached.toNat + 1 := by
  have bound := UInt16.toNat_lt last
  have below := UInt16.lt_iff_toNat_lt.mp below
  rw [UInt16.toNat_add]
  exact Nat.mod_eq_of_lt (by simp; omega)

/-- Only a sweep under way can be taken on. -/
theorem sweeping {central : LeCentral} {reached last : UInt16}
    (sweeps : central.sweeps att = some (reached, last)) :
    central.phase.Discovers ∧ central.phase ≠ .exchangingMtu := by
  by_contra still
  rw [sweeps_of_undiscovering ((not_and_or.mp still).imp_right not_not.mp)] at sweeps
  contradiction

theorem LeCentral.Indexed.sweep_le {central : LeCentral} (indexed : central.Indexed) :
    central.phase.sweep ≤ central.client.services.length := by
  unfold CentralPhase.sweep
  split
  · rename_i index phase
    exact indexed index phase
  · exact Nat.zero_le _

theorem mem_concat {earlier : List Asked} {last asked : Asked} (listed : asked ∈ earlier ++ [last]) :
    asked ∈ earlier ∨ asked = last :=
  (List.mem_append.mp listed).imp_right List.mem_singleton.mp

theorem surveyed_step (surveyed : Surveyed before) (surveys : Surveys before att after) :
    Surveyed after := by
  obtain ⟨asked, all, turns⟩ := surveys_turns surveyed.indexed surveys
  cases turns with
  | quiet none still same silent =>
    subst silent
    rw [append_nil] at all
    constructor
    · rw [all, still]
      exact surveyed.opened
    · rw [all, still]
      exact surveyed.sweeps
    · rw [all, same]
      exact surveyed.listed
    · unfold LeCentral.Indexed
      rw [still, same]
      exact surveyed.indexed
    · rw [all]
      exact surveyed.unwrapped
  | opens joined opened same asked =>
    subst asked
    rw [surveyed.opened joined] at all
    constructor
    · rw [opened]
      nofun
    · rw [all]
      intro _ asked listed
      rw [List.mem_singleton.mp listed]
      exact Nat.zero_le _
    · rw [all]
      intro asked listed
      rw [List.mem_singleton.mp listed]
      exact Nat.zero_le _
    · intro index phase
      rw [opened] at phase
      contradiction
    · rw [all]
      exact pairwise_singleton _ _
  | goesOn sweeps below still grown asked =>
    subst asked
    have sweeping := sweeping sweeps
    constructor
    · rw [still]
      exact fun joined => absurd joined sweeping.2
    · rw [all, still]
      intro _ asked listed
      rcases mem_concat listed with earlier | rfl
      · exact surveyed.sweeps sweeping.1 asked earlier
      · exact le_rfl
    · rw [all]
      intro asked listed
      rcases mem_concat listed with earlier | rfl
      · exact (surveyed.listed asked earlier).trans grown
      · exact surveyed.indexed.sweep_le.trans grown
    · intro index phase
      rw [still] at phase
      exact (surveyed.indexed index phase).trans_le grown
    · rw [all, pairwise_concat]
      refine ⟨surveyed.unwrapped, fun asked earlier same => ?_⟩
      rw [UInt16.lt_iff_toNat_lt, toNat_succ below]
      exact Nat.succ_pos _
  | next done discovers begun grown listed asked =>
    subst asked
    have sweep : after.central.phase.sweep = before.central.phase.sweep + 1 :=
      congrArg CentralPhase.sweep begun
    constructor
    · rw [begun]
      nofun
    · rw [all, sweep]
      intro _ asked listed
      rcases mem_concat listed with earlier | rfl
      · exact (surveyed.sweeps discovers asked earlier).trans (Nat.le_succ _)
      · exact le_rfl
    · rw [all]
      intro asked last
      rcases mem_concat last with earlier | rfl
      · exact (surveyed.listed asked earlier).trans grown
      · exact listed
    · intro index phase
      cases begun.symm.trans phase
      exact listed
    · rw [all, pairwise_concat]
      refine ⟨surveyed.unwrapped, fun asked earlier same => ?_⟩
      have := surveyed.sweeps discovers asked earlier
      exact absurd same (by simp; omega)
  | ends done ready grown silent =>
    subst silent
    rw [append_nil] at all
    constructor
    · rw [ready]
      nofun
    · rw [ready]
      exact False.elim
    · rw [all]
      exact fun asked listed => (surveyed.listed asked listed).trans grown
    · intro index phase
      rw [ready] at phase
      contradiction
    · rw [all]
      exact surveyed.unwrapped

/-- Where the starts have increased so far, they go on to do so with the responses
that take their sweep on. -/
theorem increasing_iff_passes (surveyed : Surveyed before) (increasing : Increasing before.asked)
    (surveys : Surveys before att after) : Increasing after.asked ↔ Passes before att := by
  obtain ⟨asked, all, turns⟩ := surveys_turns surveyed.indexed surveys
  rw [all]
  cases turns with
  | quiet none still same silent =>
    subst silent
    rw [append_nil]
    refine iff_of_true increasing fun reached last sweeps => ?_
    cases none.symm.trans sweeps
  | opens joined opened same asked =>
    subst asked
    rw [surveyed.opened joined]
    refine iff_of_true (pairwise_singleton _ _) fun reached last sweeps => ?_
    exact absurd joined (sweeping sweeps).2
  | @goesOn reached last sweeps below still grown asked =>
    subst asked
    have succ := toNat_succ below
    unfold Increasing
    rw [pairwise_concat, and_iff_right (show before.asked.Pairwise _ from increasing)]
    constructor
    · intro past reached' last' sweeps' _ asked listed same
      cases sweeps.symm.trans sweeps'
      have := UInt16.lt_iff_toNat_lt.mp (past asked listed same)
      exact UInt16.le_iff_toNat_le.mpr (by dsimp only at this; omega)
    · intro passes asked listed same
      have := UInt16.le_iff_toNat_le.mp (passes reached last sweeps below asked listed same)
      exact UInt16.lt_iff_toNat_lt.mpr (by dsimp only; omega)
  | next done discovers begun grown listed asked =>
    subst asked
    refine iff_of_true (pairwise_concat.mpr ⟨increasing, fun asked earlier same => ?_⟩) ?_
    · have := surveyed.sweeps discovers asked earlier
      exact absurd same (by simp; omega)
    · exact fun reached last sweeps below => absurd below (done reached last sweeps)
  | ends done ready grown silent =>
    subst silent
    rw [append_nil]
    exact iff_of_true increasing fun reached last sweeps below => absurd below (done reached last sweeps)

/-- Requests of different sweeps, or with different starts, have different numbers. -/
def Asked.number (asked : Asked) : Nat := asked.sweep * 65536 + asked.start.toNat

/-- As many requests as there are sweeps and starts. -/
theorem length_le_of_increasing {asked : List Asked} {services : Nat} (increasing : Increasing asked)
    (listed : ∀ request ∈ asked, request.sweep ≤ services) : asked.length ≤ (services + 1) * 65536 := by
  have distinct : (asked.map Asked.number).Nodup := by
    refine List.pairwise_map.mpr (increasing.imp fun {earlier later} increases same => ?_)
    unfold Asked.number at same
    have first := UInt16.toNat_lt earlier.start
    have second := UInt16.toNat_lt later.start
    have := UInt16.lt_iff_toNat_lt.mp (increases (by omega))
    omega
  have bounded : asked.map Asked.number ⊆ List.range ((services + 1) * 65536) := by
    intro number numbered
    obtain ⟨request, among, rfl⟩ := List.mem_map.mp numbered
    have := listed request among
    have := UInt16.toNat_lt request.start
    unfold Asked.number
    rw [mem_range]
    omega
  have fits := (distinct.subperm bounded).length_le
  rwa [length_map, length_range] at fits

theorem progresses_of_increasing (surveyed : Surveyed survey) (increasing : Increasing survey.asked) :
    Progresses survey := by
  refine ⟨increasing, length_le_of_increasing increasing surveyed.listed, surveyed.unwrapped, ?_⟩
  intro att
  obtain ⟨central, sent, heard, -⟩ := hears_turns surveyed.indexed att
  exact ⟨⟨central, survey.asked ++ sent.filterMap (asked central.phase)⟩, sent, heard, rfl⟩

/-- A connection that has just come up. -/
def Survey.joined (central : LeCentral) (handle : UInt16) : Survey := ⟨central.joined handle, []⟩

variable {central : LeCentral} {handle : UInt16} {pdus : List Bytes}

theorem surveyed_of_run (run : Run Surveys (.joined central handle) pdus survey) : Surveyed survey := by
  induction run with
  | nil => exact ⟨fun _ => rfl, nofun, nofun, nofun, .nil⟩
  | snoc _ surveys surveyed => exact surveyed_step surveyed surveys

/-- What is asked for is only added to. -/
theorem increasing_of_step (surveys : Surveys before att after) (increasing : Increasing after.asked) :
    Increasing before.asked := by
  obtain ⟨sent, -, all⟩ := surveys
  rw [all] at increasing
  exact (List.pairwise_append.mp increasing).1

/-- Discovery makes progress over a whole connection where every response takes its
sweep past the starts that were asked for. -/
theorem discovery_progresses_iff (run : Run Surveys (.joined central handle) pdus survey) :
    Progresses survey ↔ Run (Guarded Passes Surveys) (.joined central handle) pdus survey := by
  constructor
  · intro progresses
    have increasing : Increasing survey.asked := progresses.increasing
    clear progresses
    induction run with
    | nil => exact .nil
    | snoc earlier surveys ih =>
      have before := increasing_of_step surveys increasing
      have passes := (increasing_iff_passes (surveyed_of_run earlier) before surveys).mp increasing
      exact (ih before).snoc ⟨passes, surveys⟩
  · intro passing
    apply progresses_of_increasing (surveyed_of_run run)
    clear run
    induction passing with
    | nil => exact .nil
    | snoc earlier stepped ih =>
      exact (increasing_iff_passes (surveyed_of_run earlier.unguarded) ih stepped.2).mpr stepped.1

end Surveys

/-- A connection with handle 0x40. -/
def linked : Survey := .joined (.begun 27 .any (some 1)) 0x40

def mtuResponse : Bytes := [0x03, 0x17, 0x00]

/-- One service, with the handles 1 to 5. -/
def servicesResponse : Bytes := [0x11, 0x06, 0x01, 0x00, 0x05, 0x00, 0x00, 0x18]

theorem hears_servicesResponse (client : GattClient) :
    client.onDiscoverServicesResponse servicesResponse =
      { client with services := client.services ++ [⟨0x0001, 0x0005, .uuid16 0x1800, []⟩] } := by
  have data : dataList 4 6 [0x01, 0x00, 0x05, 0x00, 0x00, 0x18] =
      [([0x01, 0x00, 0x05, 0x00], [0x00, 0x18])] := by
    unfold dataList
    rw [if_neg (by decide)]
    unfold dataList
    rw [if_pos (by decide)]
    rfl
  have parsed : AttPdu.parse servicesResponse =
      some (.readByGroupTypeRsp 6 [0x01, 0x00, 0x05, 0x00, 0x00, 0x18]) := rfl
  unfold onDiscoverServicesResponse items
  rw [parsed]
  dsimp only
  rw [if_neg (by decide)]
  rw [show (6 : UInt8).toNat = 6 from rfl, data]
  rfl

theorem surveys_servicesResponse {before : Survey} (phase : before.central.phase = .discoveringServices) :
    ∃ after, Surveys before servicesResponse after ∧ after.central.phase = .discoveringServices ∧
      after.asked = before.asked ++ [⟨0, 6⟩] := by
  obtain ⟨central, asked⟩ := before
  have served : central.onServices servicesResponse =
      ({ central with client := central.client.onDiscoverServicesResponse servicesResponse },
        [central.send (discoverServicesRequest 6 0xFFFF)]) := by
    unfold onServices
    rw [hears_servicesResponse]
    dsimp only
    rw [List.getLast?_concat]
    exact if_pos (by decide)
  have dispatched : central.dispatchAtt servicesResponse = .ok (central.onServices servicesResponse) := by
    change central.advance 0x11 servicesResponse = _
    unfold advance
    rw [show central.phase = _ from phase]
    rfl
  refine ⟨⟨{ central with client := central.client.onDiscoverServicesResponse servicesResponse },
    asked ++ [⟨0, 6⟩]⟩, ⟨[central.send (discoverServicesRequest 6 0xFFFF)], ?_, ?_⟩, phase,
    rfl⟩
  · unfold hears
    rw [dispatched, served]
    dsimp only [bind, Except.bind]
    unfold pump
    rw [if_pos (by rw [show central.phase = _ from phase]; nofun)]
    rfl
  · rfl

theorem linked_listed : ∃ listed : Survey, Run Surveys linked [mtuResponse, servicesResponse] listed ∧
    listed.central.phase = .discoveringServices ∧ listed.asked = [⟨0, 1⟩, ⟨0, 6⟩] := by
  obtain ⟨opened, first, phase, asked⟩ : ∃ opened, Surveys linked mtuResponse opened ∧
      opened.central.phase = .discoveringServices ∧ opened.asked = [⟨0, 1⟩] :=
    ⟨⟨_, _⟩, ⟨_, rfl, rfl⟩, rfl, rfl⟩
  obtain ⟨listed, second, still, more⟩ := surveys_servicesResponse phase
  exact ⟨listed, (Run.nil.snoc first).snoc second, still, by rw [more, asked]; rfl⟩

theorem discovery_progresses_listed : ∃ listed : Survey,
    Run (Guarded Passes Surveys) linked [mtuResponse, servicesResponse] listed ∧ Progresses listed := by
  obtain ⟨listed, run, -, asked⟩ := linked_listed
  have increasing : Increasing listed.asked := by
    rw [asked]
    exact .cons (by simp) (List.pairwise_singleton _ _)
  have progresses := progresses_of_increasing (surveyed_of_run run) increasing
  exact ⟨listed, (discovery_progresses_iff run).mp progresses, progresses⟩

/-- The peer lists the same service again, and is asked the same again. -/
theorem discovery_stalls : ∃ stalled : Survey,
    Run Surveys linked [mtuResponse, servicesResponse, servicesResponse] stalled ∧
    stalled.asked = [⟨0, 1⟩, ⟨0, 6⟩, ⟨0, 6⟩] ∧ ¬ Progresses stalled := by
  obtain ⟨listed, run, phase, asked⟩ := linked_listed
  obtain ⟨stalled, again, -, more⟩ := surveys_servicesResponse phase
  rw [asked] at more
  refine ⟨stalled, run.snoc again, more, fun progresses => ?_⟩
  have increasing := progresses.increasing
  rw [more] at increasing
  have last := (List.pairwise_cons.mp (List.pairwise_cons.mp increasing).2).1 ⟨0, 6⟩
    (List.mem_singleton.mpr rfl) rfl
  exact absurd last (by decide)

end Simble.Device
