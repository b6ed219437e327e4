import Simble.Lib.Sweep
import Simble.Device.Blocks
import Simble.Device.Progress

/-! Discovery between the two ends of the repository: what a client has once it has walked a
device's database, against the services as registered. -/
namespace Simble.Device
open Simble.Lib Simble.Gatt Simble.Att Simble.Crypto GattClient List Uuid

namespace VirtualDevice
variable {curve : P256} {H S : Type} (env : Env H S) (connection : UInt16)

/-- A request that only reads: the response, and the device after it. -/
def ask (device : VirtualDevice curve H S) (request : Bytes) : Option (Bytes × VirtualDevice curve H S) :=
  match device.processAttPacket env connection request with
  | .ok (some response, after) => some (response, after)
  | _ => none

/-- One request for services. Attribute Not Found ends the walk, and so does the last handle. -/
def servicesTurn (start : UInt16) (state : VirtualDevice curve H S × GattClient) :
    Option (Option UInt16 × VirtualDevice curve H S × GattClient) := do
  let (response, after) ← state.1.ask env connection (GattClient.discoverServicesRequest start 0xFFFF)
  let batch ← discovered readGroups response
  pure (batch.getLast?.bind fun (last : UInt16 × UInt16 × Bytes) => nextHandle last.2.1,
    after, state.2.onDiscoverServicesResponse response)

def characteristicsTurn (service : DiscoveredService) (start : UInt16)
    (state : VirtualDevice curve H S × GattClient) :
    Option (Option UInt16 × VirtualDevice curve H S × GattClient) :=
  if service.endHandle < start then some (none, state)
  else do
    let (response, after) ← state.1.ask env connection
      (GattClient.discoverCharacteristicsRequest start service.endHandle)
    let batch ← discovered readValues response
    pure (batch.getLast?.bind fun (last : UInt16 × Bytes) => nextHandle last.1,
      after, state.2.onDiscoverCharacteristicsResponse service.uuid response)

/-- A whole discovery: the services, and then the characteristics of each of them. No walk
has more turns than there are attributes, and one. -/
def discover (device : VirtualDevice curve H S) : Option (VirtualDevice curve H S × GattClient) := do
  let fuel := device.gattDb.attributes.entries.length + 1
  let found ← sweep (servicesTurn env connection) fuel 1 (device, .new connection)
  found.2.services.foldlM (fun state service =>
    sweep (characteristicsTurn env connection service) fuel service.startHandle state) found

end VirtualDevice

/-- Characteristics are declared only in the first service with a UUID. -/
def FirstOnly (services : List DiscoveredService) : Prop :=
  ∀ before service after, services = before ++ service :: after →
    (∃ other ∈ before, other.uuid = service.uuid) → service.characteristics = []

open DiscoveredService

section Responses

def leadingOf {α : Type} (size : α → Nat) : List α → List α
  | [] => []
  | first :: rest => (first :: rest).takeWhile fun item => size item = size first

theorem leadingOf_cons {α : Type} (size : α → Nat) (first : α) (rest : List α) :
    leadingOf size (first :: rest) = (first :: rest).takeWhile fun item => size item = size first := rfl

theorem leadingOf_split {α : Type} (size : α → Nat) (list : List α) :
    ∃ rest, list = leadingOf size list ++ rest ∧ (list ≠ [] → leadingOf size list ≠ []) := by
  cases list with
  | nil => exact ⟨[], rfl, fun some => absurd rfl some⟩
  | cons first rest =>
    rw [leadingOf_cons]
    refine ⟨(first :: rest).dropWhile fun item => size item = size first,
      List.takeWhile_append_dropWhile.symm, fun _ => ?_⟩
    rw [takeWhile_cons_of_pos (by simp)]
    exact cons_ne_nil _ _

variable {response : Bytes}

def DiscoveredService.bare (service : DiscoveredService) : DiscoveredService :=
  { service with characteristics := [] }

theorem listedServices_of_discovered {list : List DiscoveredService}
    (found : discovered readGroups response = some (list.map fun service =>
      (service.startHandle, service.endHandle, service.uuid.toAttBytes))) :
    listedServices response = list.map bare := by
  have read (groups : List (UInt16 × UInt16 × Bytes))
      (same : groups = list.map fun service =>
        (service.startHandle, service.endHandle, service.uuid.toAttBytes)) :
      (groups.filterMap fun group => (fromBytes group.2.2).map fun uuid =>
        (⟨group.1, group.2.1, uuid, []⟩ : DiscoveredService)) = list.map bare := by
    rw [same, filterMap_map, ← filterMap_eq_map]
    congr 1
    funext service
    simp only [Function.comp, fromBytes_toAttBytes, Option.map_some, bare]
  unfold discovered at found
  unfold listedServices
  cases parsed : AttPdu.parse response with
  | none =>
    rw [parsed] at found
    contradiction
  | some pdu =>
    rw [parsed] at found
    cases pdu with
    | errorRsp op handle code =>
      dsimp only at found
      split at found
      · cases list with
        | nil => rfl
        | cons service rest => exact absurd (Option.some.inj found) (by simp)
      · contradiction
    | readByGroupTypeRsp length data =>
      dsimp only
      obtain ⟨items, among, same⟩ := Option.map_eq_some_iff.mp found
      rw [among, ← read _ same, filterMap_map]
      rfl
    | _ => contradiction

end Responses

namespace VirtualDevice
variable {curve : P256} {H S : Type} (env : Env H S) {device : VirtualDevice curve H S}
  (connection : UInt16)

section Answers

def serviceSize (service : DiscoveredService) : Nat := service.uuid.toAttBytes.length

def declarationOf (characteristic : DiscoveredCharacteristic) : Bytes :=
  GattDatabase.characteristicDecl characteristic.properties characteristic.valueHandle
    characteristic.uuid

def declarationSize (characteristic : DiscoveredCharacteristic) : Nat :=
  (declarationOf characteristic).length

theorem length_toAttBytes_le (uuid : Uuid) : uuid.toAttBytes.length ≤ 16 := by
  cases uuid with
  | uuid16 value => exact show 2 ≤ 16 by decide
  | uuid128 bytes => exact bytes.2.le

theorem leading_services (first : DiscoveredService) (rest : List DiscoveredService) :
    (leading (serviceEntry first : UInt16 × Attribute H) (rest.map serviceEntry)) =
      (leadingOf serviceSize (first :: rest)).map serviceEntry := by
  unfold leading leadingOf
  rw [← map_cons, takeWhile_map]
  rfl

theorem ask_services (below : HandlesBelow device.gattDb) {start : UInt16}
    {list : List DiscoveredService} (nonzero : start ≠ 0)
    (found : readableFrom device.gattDb .primaryService start = list.map serviceEntry)
    (groups : ∀ service ∈ list, groupOf device.gattDb (serviceEntry service) =
      (service.startHandle, service.endHandle, service.uuid.toAttBytes)) :
    ∃ response, device.ask env connection (discoverServicesRequest start 0xFFFF) =
        some (response, device) ∧
      discovered readGroups response = some ((leadingOf serviceSize list).map fun service =>
        (service.startHandle, service.endHandle, service.uuid.toAttBytes)) := by
  have pages := device.groupPages env connection below .primaryService
  have page : device.Page env connection
      (requestFrom .readByGroupTypeReq primaryService.toAttBytes) readGroups start
      ((leadingOf serviceSize list).map fun service =>
        (service.startHandle, service.endHandle, service.uuid.toAttBytes)) := by
    cases list with
    | nil => exact (pages.empty nonzero found).mpr rfl
    | cons first rest =>
      have fits : 4 + (serviceEntry first : UInt16 × Attribute H).2.value.length ≤ 255 := by
        have := length_toAttBytes_le first.uuid
        exact show 4 + first.uuid.toAttBytes.length ≤ 255 by omega
      rw [map_cons] at found
      rw [pages.short nonzero found fits, leading_services, map_map]
      apply map_congr_left
      intro service listed
      obtain ⟨more, split, -⟩ := leadingOf_split serviceSize (first :: rest)
      exact (groups service (split ▸ mem_append_left _ listed)).symm
  obtain ⟨response, answered, decoded⟩ := page
  refine ⟨response, ?_, decoded⟩
  unfold ask
  rw [show discoverServicesRequest start 0xFFFF =
    requestFrom .readByGroupTypeReq primaryService.toAttBytes start from rfl, answered]

theorem parse_discoverCharacteristicsRequest (start stop : UInt16) :
    AttPdu.parse (discoverCharacteristicsRequest start stop) =
      some (.readByTypeReq start stop characteristic.toAttBytes) := by
  have flat : discoverCharacteristicsRequest start stop = Opcode.readByTypeReq.byte ::
      (U16.toLeBytes start ++ (U16.toLeBytes stop ++ characteristic.toAttBytes)) := rfl
  rw [flat, AttPdu.parse_opcode]
  simp only [AttPdu.parseFields, Option.bind_eq_bind, Option.bind_some, takeU16_toLeBytes]
  rfl

theorem readDeclaration_declarationOf {characteristic : DiscoveredCharacteristic}
    (plain : characteristic.descriptors = []) :
    readDeclaration (U16.toLeBytes characteristic.declarationHandle,
      declarationOf characteristic) = some characteristic := by
  obtain ⟨declHandle, valHandle, properties, uuid, descriptors⟩ := characteristic
  subst plain
  unfold readDeclaration declarationOf GattDatabase.characteristicDecl
  dsimp only [U16.toLeBytes, cons_append, nil_append]
  rw [fromBytes_toAttBytes, Option.map_some]
  have value := U16.fromLeBytes_toLeBytes valHandle
  have declared : entryHandle (U16.toLeBytes declHandle) = declHandle := entryHandle_toLeBytes declHandle []
  exact congrArg some (congrArg₂ (fun handle value => DiscoveredCharacteristic.mk handle value properties
    uuid []) declared value)

theorem ask_characteristics {start stop : UInt16} {list : List DiscoveredCharacteristic}
    (nonzero : start ≠ 0) (ordered : start ≤ stop)
    (found : device.gattDb.readByType start stop .characteristic =
      list.map fun characteristic => (characteristic.declarationHandle, declarationOf characteristic))
    (plain : ∀ characteristic ∈ list, characteristic.descriptors = []) :
    ∃ response, device.ask env connection (discoverCharacteristicsRequest start stop) =
        some (response, device) ∧
      discovered readValues response = some ((leadingOf declarationSize list).map
        fun characteristic => (characteristic.declarationHandle, declarationOf characteristic)) ∧
      declaredCharacteristics response = leadingOf declarationSize list := by
  have asked : device.ask env connection (discoverCharacteristicsRequest start stop) =
      some (device.onReadByTypeReq start stop Uuid.characteristic.toAttBytes, device) := by
    unfold ask processAttPacket
    rw [parse_discoverCharacteristicsRequest]
    rfl
  have typed : typeRange .readByTypeReq start stop Uuid.characteristic.toAttBytes =
      .ok .characteristic := by
    unfold typeRange
    rw [if_neg (not_or.mpr ⟨nonzero, not_lt.mpr ordered⟩), fromBytes_toAttBytes]
  refine ⟨_, asked, ?_⟩
  unfold onReadByTypeReq
  rw [typed]
  dsimp only
  rw [found]
  cases list with
  | nil =>
    refine ⟨discovered_notFound _ _ _, ?_⟩
    rfl
  | cons first rest =>
    have size : 5 ≤ 2 + (declarationOf first).length ∧ 2 + (declarationOf first).length ≤ 255 := by
      have := length_toAttBytes_le first.uuid
      unfold declarationOf GattDatabase.characteristicDecl
      rw [length_cons, length_append, show (U16.toLeBytes first.valueHandle).length = 2 from rfl]
      omega
    have same : sameLength (first.declarationHandle, declarationOf first) (rest.map fun characteristic =>
        (characteristic.declarationHandle, declarationOf characteristic)) =
        (leadingOf declarationSize (first :: rest)).map fun characteristic =>
          (characteristic.declarationHandle, declarationOf characteristic) := by
      have mapped := takeWhile_map (f := fun characteristic : DiscoveredCharacteristic =>
        (characteristic.declarationHandle, declarationOf characteristic))
        (p := fun entry => entry.2.length = (declarationOf first).length) (l := first :: rest)
      rw [map_cons] at mapped
      exact mapped
    have sized : ∀ entry ∈ leadingOf declarationSize (first :: rest),
        (declarationOf entry).length = (declarationOf first).length := by
      intro entry listed
      rw [leadingOf_cons] at listed
      have same : declarationSize entry = declarationSize first := by
        simpa using mem_takeWhile_imp listed
      exact same
    have bounds := length_list_iff .readByTypeRsp
      (fun characteristic : DiscoveredCharacteristic => U16.toLeBytes characteristic.declarationHandle)
      declarationOf (leadingOf declarationSize (first :: rest)) (fun _ _ => rfl) sized
      (show 0 < 2 by decide)
    have decoded := bounds.2.2 size.2
    have octet := bounds.2.1.mpr size.2
    rw [map_cons]
    dsimp only
    rw [same, flatMap_map]
    constructor
    · rw [discovered_values, decoded, Option.map_some, map_map]
      congr 1
      apply map_congr_left
      intro characteristic _
      exact congrArg (fun handle => (handle, declarationOf characteristic))
        (entryHandle_toLeBytes characteristic.declarationHandle [])
    · have parsed (length : UInt8) (data : Bytes) :
          AttPdu.parse (Opcode.readByTypeRsp.byte :: length :: data) =
            some (.readByTypeRsp length data) := by
        rw [AttPdu.parse_opcode]
        rfl
      unfold items at decoded
      rw [octet, if_neg (by omega)] at decoded
      unfold declaredCharacteristics
      rw [parsed]
      dsimp only
      rw [octet, if_neg (by omega), Option.some.inj decoded, filterMap_map]
      conv_rhs => rw [← filterMap_some (l := leadingOf declarationSize (first :: rest))]
      apply filterMap_congr
      intro characteristic listed
      obtain ⟨more, split, -⟩ := leadingOf_split declarationSize (first :: rest)
      exact readDeclaration_declarationOf (plain characteristic (split ▸ mem_append_left _ listed))

end Answers

section Turns
variable {services : List DiscoveredService}

def ServicesFrom (services : List DiscoveredService) (start : UInt16) (rest : List DiscoveredService) :
    Prop :=
  (start = 1 ∧ rest = services) ∨
    ∃ before service, services = before ++ service :: rest ∧ start = service.endHandle + 1

/-- No handle of a service is the last one. -/
theorem Placed.inner {db : GattDatabase H} {service : DiscoveredService}
    {later : List DiscoveredService} {front rest back : List (UInt16 × Attribute H)}
    (placed : Placed db service later front rest back) (below : HandlesBelow db) :
    service.startHandle ≠ 0xFFFF ∧ service.endHandle ≠ 0xFFFF := by
  obtain ⟨entry, listed, same⟩ := placed.listed
  have less := (below.handles entry listed).2
  rw [same] at less
  constructor
  · intro last
    exact not_last_handle_lt _ ((last ▸ placed.ordered).trans_lt less)
  · intro last
    exact not_last_handle_lt _ (last ▸ less)

theorem servicesFrom_found (registered : Registered device.gattDb services) {start : UInt16}
    {rest : List DiscoveredService} (left : ServicesFrom services start rest) :
    start ≠ 0 ∧ readableFrom device.gattDb .primaryService start = rest.map serviceEntry := by
  obtain ⟨below, blocks, entries, shaped⟩ := registered.blocks
  rcases left with ⟨rfl, rfl⟩ | ⟨before, service, rfl, rfl⟩
  · refine ⟨by decide, ?_⟩
    have all : device.gattDb.attributes.rangeFrom 1 = device.gattDb.attributes.entries := by
      unfold OrdMap.rangeFrom
      rw [filter_eq_self]
      intro entry listed
      exact decide_eq_true (below.handles entry listed).1
    unfold readableFrom
    rw [all, entries]
    exact readableServices_flatten shaped
  · obtain ⟨front, rest, back, placed⟩ := registered.placed
    have inner := (Placed.inner placed below).2
    exact ⟨nextHandle_ne_zero (if_neg inner), placed.remains_eq inner⟩

def addsServices (state : VirtualDevice curve H S × GattClient) (batch : List DiscoveredService) :
    VirtualDevice curve H S × GattClient :=
  (state.1, { state.2 with services := state.2.services ++ batch.map DiscoveredService.bare })

theorem services_sweeps (registered : Registered device.gattDb services) :
    Sweeps (servicesTurn env connection) (fun state => state.1 = device) (ServicesFrom services)
      addsServices := by
  have below := registered.blocks.1
  have groups {start : UInt16} {rest : List DiscoveredService}
      (left : ServicesFrom services start rest) : ∀ service ∈ rest,
        groupOf device.gattDb (serviceEntry service) =
          (service.startHandle, service.endHandle, service.uuid.toAttBytes) := by
    intro service listed
    have among : service ∈ services := by
      rcases left with ⟨-, rfl⟩ | ⟨before, other, rfl, -⟩
      · exact listed
      · exact mem_append_right _ (mem_cons_of_mem _ listed)
    obtain ⟨before, after, rfl⟩ := append_of_mem among
    obtain ⟨front, rest, back, placed⟩ := registered.placed
    exact placed.groupOf_eq (Placed.inner placed below).1
  have turned {start : UInt16} {rest : List DiscoveredService} (client : GattClient)
      (left : ServicesFrom services start rest) :
      servicesTurn env connection start (device, client) =
        some (((leadingOf serviceSize rest).getLast?.bind fun last => nextHandle last.endHandle),
          addsServices (device, client) (leadingOf serviceSize rest)) := by
    obtain ⟨nonzero, found⟩ := servicesFrom_found registered left
    obtain ⟨response, asked, decoded⟩ := ask_services env connection below nonzero
      found (groups left)
    unfold servicesTurn
    rw [asked]
    dsimp only [bind, Option.bind]
    rw [decoded]
    dsimp only [pure]
    rw [onDiscoverServicesResponse_eq, listedServices_of_discovered decoded, List.getLast?_map]
    cases (leadingOf serviceSize rest).getLast? <;> rfl
  refine ⟨?_, ?_, fun met _ => met, ?_, ?_⟩
  · intro state
    unfold addsServices
    rw [map_nil, append_nil]
  · intro state first second
    unfold addsServices
    rw [map_append, append_assoc]
  · rintro start ⟨device, client⟩ rfl left
    rw [turned client left]
    unfold addsServices
    simp [leadingOf]
  · rintro start entries ⟨device, client⟩ rfl left some
    obtain ⟨rest, split, leads⟩ := leadingOf_split serviceSize entries
    obtain ⟨front, last, final⟩ := (eq_nil_or_concat' (leadingOf serviceSize entries)).resolve_left
      (leads some)
    have placing : ∃ before, services = before ++ last :: rest := by
      rw [final, append_assoc] at split
      rcases left with ⟨-, rfl⟩ | ⟨before, other, same, -⟩
      · exact ⟨front, split⟩
      · exact ⟨before ++ other :: front, by rw [same, split]; simp⟩
    obtain ⟨before, placing⟩ := placing
    subst placing
    obtain ⟨_, _, _, placed⟩ := registered.placed
    have inner := (Placed.inner placed below).2
    refine ⟨leadingOf serviceSize entries, rest, last.endHandle + 1, split, leads some, ?_,
      .inr ⟨before, last, rfl, rfl⟩⟩
    rw [turned client left]
    congr 2
    rw [final, List.getLast?_concat]
    exact if_neg inner

variable {service : DiscoveredService}

structure DeclaredFrom (db : GattDatabase H) (service : DiscoveredService) (start : UInt16)
    (rest : List DiscoveredCharacteristic) : Prop where
  nonzero : start ≠ 0
  within : service.startHandle ≤ start
  found : remaining Prod.fst (declaredIn db service) start = rest.map characteristicEntry
  plain : ∀ characteristic ∈ rest, characteristic.descriptors = []

theorem DeclaredFrom.readByType_eq {start : UInt16} {rest : List DiscoveredCharacteristic}
    (left : DeclaredFrom device.gattDb service start rest) (ordered : start ≤ service.endHandle) :
    device.gattDb.readByType start service.endHandle .characteristic =
      rest.map fun characteristic => (characteristic.declarationHandle, declarationOf characteristic) := by
  have same : ((device.gattDb.attributes.range start service.endHandle).filter fun entry =>
      entry.2.uuid = .characteristic ∧ entry.2.permissions.read) =
        remaining Prod.fst (declaredIn device.gattDb service) start := by
    unfold OrdMap.range remaining declaredIn
    rw [filter_filter, filter_filter]
    apply filter_congr
    intro entry _
    by_cases reached : start ≤ entry.1
    · simp [reached, left.within.trans reached, and_comm]
    · simp [reached]
  unfold GattDatabase.readByType
  rw [if_neg (not_lt.mpr ordered), same, left.found, map_map]
  rfl

def addsCharacteristics (service : DiscoveredService) (state : VirtualDevice curve H S × GattClient)
    (batch : List DiscoveredCharacteristic) : VirtualDevice curve H S × GattClient :=
  (state.1, state.2.takes service.uuid batch)

theorem declaredIn_pageable (below : HandlesBelow device.gattDb) (service : DiscoveredService) :
    Pageable Prod.fst nextHandle (declaredIn device.gattDb service) := by
  have pageable := pageable_of_handlesBelow Prod.fst id below (fun entry =>
    (service.startHandle ≤ entry.1 ∧ entry.1 ≤ service.endHandle) ∧
      entry.2.uuid = .characteristic ∧ entry.2.permissions.read) (fun _ => rfl)
  rwa [map_id] at pageable

theorem characteristics_sweeps (below : HandlesBelow device.gattDb) :
    Sweeps (characteristicsTurn env connection service) (fun state => state.1 = device)
      (DeclaredFrom device.gattDb service) (addsCharacteristics service) := by
  have turned {start : UInt16} {rest : List DiscoveredCharacteristic} (client : GattClient)
      (left : DeclaredFrom device.gattDb service start rest) (ordered : start ≤ service.endHandle) :
      characteristicsTurn env connection service start (device, client) =
        some (((leadingOf declarationSize rest).getLast?.bind fun last =>
            nextHandle last.declarationHandle),
          addsCharacteristics service (device, client) (leadingOf declarationSize rest)) := by
    obtain ⟨response, asked, decoded, declared⟩ := ask_characteristics env connection
      left.nonzero ordered (left.readByType_eq ordered) left.plain
    unfold characteristicsTurn
    rw [if_neg (not_lt.mpr ordered), asked]
    dsimp only [bind, Option.bind]
    rw [decoded]
    dsimp only [pure]
    rw [onDiscoverCharacteristicsResponse_eq, declared, List.getLast?_map]
    cases (leadingOf declarationSize rest).getLast? <;> rfl
  refine ⟨?_, ?_, fun met _ => met, ?_, ?_⟩
  · intro state
    unfold addsCharacteristics
    rw [takes_nil]
  · intro state first second
    unfold addsCharacteristics
    rw [takes_takes]
  · rintro start ⟨device, client⟩ rfl left
    by_cases beyond : service.endHandle < start
    · exact if_pos beyond
    · rw [turned client left (not_lt.mp beyond)]
      unfold addsCharacteristics
      rw [show leadingOf declarationSize [] = [] from rfl, takes_nil]
      rfl
  · rintro start entries ⟨device, client⟩ rfl left some
    have pageable := declaredIn_pageable below service
    obtain ⟨rest, split, leads⟩ := leadingOf_split declarationSize entries
    obtain ⟨front, last, final⟩ :=
      (eq_nil_or_concat' (leadingOf declarationSize entries)).resolve_left (leads some)
    have whole : remaining Prod.fst (declaredIn device.gattDb service) start =
        front.map characteristicEntry ++ characteristicEntry last :: rest.map characteristicEntry := by
      rw [left.found, split, final]
      simp
    have listed : characteristicEntry last ∈ remaining Prod.fst (declaredIn device.gattDb service) start := by
      rw [whole]
      exact mem_append_right _ mem_cons_self
    obtain ⟨among, reached⟩ := List.mem_filter.mp listed
    have reached : start ≤ last.declarationHandle := of_decide_eq_true reached
    have inside := of_decide_eq_true (List.mem_filter.mp among).2
    have ordered : start ≤ service.endHandle := reached.trans inside.1.2
    obtain ⟨after, behind, least⟩ := pageable.follows _ among
    have onward : last.declarationHandle < after := by
      unfold nextHandle at behind
      split at behind
      · contradiction
      · rename_i inner
        cases behind
        exact (nextHandle_follows inner _).mp le_rfl
    refine ⟨leadingOf declarationSize entries, rest, after, split, leads some, ?_,
      nextHandle_ne_zero behind, (left.within.trans reached).trans onward.le,
      remaining_after pageable whole behind, fun characteristic later => ?_⟩
    · rw [turned client left ordered]
      congr 2
      rw [final, List.getLast?_concat]
      exact behind
    · exact left.plain characteristic (split ▸ mem_append_right _ later)

end Turns

section Discovery
variable {services : List DiscoveredService}

theorem length_declaredIn_lt (db : GattDatabase H) (service : DiscoveredService) :
    (declaredIn db service).length < db.attributes.entries.length + 1 :=
  Nat.lt_succ_of_le (length_filter_le _ _)

theorem sweep_characteristics {service : DiscoveredService}
    (registered : Registered device.gattDb services) (among : service ∈ services)
    (client : GattClient) :
    sweep (characteristicsTurn env connection service.bare)
      (device.gattDb.attributes.entries.length + 1) service.startHandle (device, client) =
        some (device, client.takes service.uuid service.characteristics) := by
  have below := registered.blocks.1
  obtain ⟨before, after, rfl⟩ := append_of_mem among
  obtain ⟨front, rest, back, placed⟩ := registered.placed
  have declared : declaredIn device.gattDb service.bare =
      service.characteristics.map characteristicEntry := placed.declaredIn_eq
  have first : 1 ≤ service.startHandle :=
    (below.handles (serviceEntry service) (placed.entries ▸ mem_append_right _ mem_cons_self)).1
  have begun : DeclaredFrom device.gattDb service.bare service.startHandle service.characteristics := by
    refine ⟨?_, le_rfl, ?_, placed.shape.plain⟩
    · intro zero
      rw [zero] at first
      exact absurd first (by decide)
    · unfold remaining
      rw [declared, List.filter_eq_self.mpr]
      intro entry listed
      rw [← declared] at listed
      exact decide_eq_true (of_decide_eq_true (List.mem_filter.mp listed).2).1.1
  have fits := length_declaredIn_lt device.gattDb service.bare
  rw [declared, length_map] at fits
  exact (characteristics_sweeps env connection below).sweep_eq fits rfl begun

theorem foldlM_characteristics (registered : Registered device.gattDb services)
    {list : List DiscoveredService} (among : ∀ service ∈ list, service ∈ services) (client : GattClient) :
    (list.map bare).foldlM (fun state service =>
      sweep (characteristicsTurn env connection service)
        (device.gattDb.attributes.entries.length + 1) service.startHandle state) (device, client) =
      some (device, list.foldl (fun client service =>
        client.takes service.uuid service.characteristics) client) := by
  induction list generalizing client with
  | nil => rfl
  | cons service rest ih =>
    have here := sweep_characteristics env connection registered
      (among service mem_cons_self) client
    rw [map_cons, foldlM_cons, show service.bare.startHandle = service.startHandle from rfl,
      here]
    exact ih (fun other listed => among other (mem_cons_of_mem _ listed)) _

theorem discover_eq (device : VirtualDevice curve H S)
    (registered : Registered device.gattDb services) :
    device.discover env connection = some (device, services.foldl (fun client service =>
        client.takes service.uuid service.characteristics)
      { new connection with services := services.map bare }) := by
  have fits : services.length < device.gattDb.attributes.entries.length + 1 := by
    obtain ⟨-, blocks, entries, shaped⟩ := registered.blocks
    have listed := congrArg List.length (readableServices_flatten shaped)
    rw [length_map, ← entries] at listed
    rw [← listed]
    exact Nat.lt_succ_of_le (length_filter_le _ _)
  have found := (services_sweeps env connection registered).sweep_eq fits
    (show (device, new connection).1 = device from rfl) (.inl ⟨rfl, rfl⟩)
  unfold discover
  dsimp only
  rw [found]
  exact foldlM_characteristics env connection registered (fun _ => id) _

end Discovery

end VirtualDevice

section Attaching

def attach (found : List DiscoveredService) (service : DiscoveredService) : List DiscoveredService :=
  GattClient.modifyFirst (fun other => other.uuid = service.uuid)
    (fun other => { other with characteristics := other.characteristics ++ service.characteristics })
    found

theorem foldl_takes (services : List DiscoveredService) (client : GattClient) :
    (services.foldl (fun client service =>
      client.takes service.uuid service.characteristics) client).services =
      services.foldl attach client.services := by
  induction services generalizing client with
  | nil => rfl
  | cons service rest ih => exact ih _

theorem attach_uuids (found : List DiscoveredService) (service : DiscoveredService) :
    (attach found service).map uuid = found.map uuid := by
  unfold attach
  induction found with
  | nil => rfl
  | cons head tail ih =>
    unfold modifyFirst
    split
    · rfl
    · exact congrArg (head.uuid :: ·) ih

variable {services : List DiscoveredService}

theorem foldl_attach_of_firstOnly (before : List DiscoveredService) {after : List DiscoveredService}
    (firstOnly : FirstOnly (before ++ after)) :
    after.foldl attach (before ++ after.map bare) = before ++ after := by
  induction after generalizing before with
  | nil => rfl
  | cons service after ih =>
    rw [append_cons] at firstOnly ⊢
    have attached : attach (before ++ service.bare :: after.map bare) service =
        before ++ [service] ++ after.map bare := by
      rw [append_assoc]
      unfold attach
      by_cases shadowed : ∃ other ∈ before, other.uuid = service.uuid
      · have none : service.characteristics = [] := by
          rw [append_assoc] at firstOnly
          exact firstOnly before service after rfl shadowed
        have same : service.bare = service := by
          rw [bare, ← none]
        rw [same, modifyFirst_eq_self fun other => by rw [none, append_nil]]
        rfl
      · rw [modifyFirst_append, if_neg, modifyFirst_pos]
        · rfl
        · exact decide_eq_true rfl
        · simpa using shadowed
    rw [map_cons, foldl_cons, attached, ih _ firstOnly]

def Shadowed (position : Nat) (service : DiscoveredService) (found : List DiscoveredService) : Prop :=
  ∃ early late, found = early ++ service :: late ∧ early.length = position ∧
    ∃ other ∈ early, other.uuid = service.uuid

/-- Nothing reaches a service behind another one with its UUID. -/
theorem Shadowed.attach {position : Nat} {service : DiscoveredService}
    {found : List DiscoveredService} (shadowed : Shadowed position service found)
    (other : DiscoveredService) : Shadowed position service (attach found other) := by
  obtain ⟨early, late, rfl, length, shadow, listed, same⟩ := shadowed
  unfold Device.attach
  rw [modifyFirst_append]
  split
  · have uuids := attach_uuids early other
    refine ⟨Device.attach early other, late, rfl, (length_modifyFirst _).trans length, ?_⟩
    have among : shadow.uuid ∈ (Device.attach early other).map uuid :=
      uuids ▸ mem_map_of_mem listed
    obtain ⟨changed, listed, kept⟩ := List.mem_map.mp among
    exact ⟨changed, listed, kept.trans same⟩
  · rename_i missed
    have differs : service.uuid ≠ other.uuid := by
      intro hit
      exact missed (List.any_eq_true.mpr ⟨shadow, listed, decide_eq_true (same.trans hit)⟩)
    rw [modifyFirst_neg]
    · exact ⟨early, _, rfl, length, shadow, listed, same⟩
    · exact decide_eq_false differs

theorem firstOnly_of_foldl_attach
    (agrees : services.foldl attach (services.map bare) = services) :
    FirstOnly services := by
  rintro before service after rfl ⟨other, listed, same⟩
  have begun : Shadowed before.length service.bare
      ((before ++ service :: after).map bare) := by
    refine ⟨before.map bare, after.map bare, ?_,
      length_map _, other.bare, mem_map_of_mem listed, same⟩
    rw [map_append, map_cons]
  have all (attached : List DiscoveredService) {found : List DiscoveredService}
      (shadowed : Shadowed before.length service.bare found) :
      Shadowed before.length service.bare (attached.foldl attach found) := by
    induction attached generalizing found with
    | nil => exact shadowed
    | cons first rest ih => exact ih (shadowed.attach first)
  obtain ⟨early, late, split, length, -⟩ := all (before ++ service :: after) begun
  rw [agrees] at split
  have ends := (append_inj split length.symm).2
  exact congrArg DiscoveredService.characteristics (List.cons.inj ends).1

/-- Each service gets its own characteristics exactly where they are declared in the first
services with their UUIDs only. -/
theorem foldl_attach_iff : services.foldl attach (services.map bare) = services ↔
    FirstOnly services :=
  ⟨firstOnly_of_foldl_attach, fun firstOnly => foldl_attach_of_firstOnly [] firstOnly⟩

end Attaching

/-- What a discovery leaves in the client is the structure of the database exactly where
characteristics are declared in the first service with a UUID only. -/
theorem discovery_agrees_iff {curve : P256} {H S : Type} (env : Env H S)
    (device : VirtualDevice curve H S) (connection : UInt16) {services : List DiscoveredService}
    (registered : Registered device.gattDb services) :
    (device.discover env connection).map (fun found => found.2.services) = some services ↔
      FirstOnly services := by
  rw [VirtualDevice.discover_eq env connection device registered, Option.map_some, foldl_takes,
    Option.some.injEq]
  exact foldl_attach_iff

theorem firstOnly_of_nodup {services : List DiscoveredService}
    (distinct : (services.map uuid).Nodup) : FirstOnly services := by
  rintro before service after rfl ⟨other, listed, same⟩
  rw [map_append] at distinct
  have apart := (List.nodup_append.mp distinct).2.2 other.uuid (mem_map_of_mem listed) service.uuid
    (mem_map_of_mem mem_cons_self)
  exact absurd same apart

/-- A battery service, and another service with a battery level. -/
def paired (uuid : Uuid) : Rust (GattDatabase Unit) := do
  let (_, db) ← GattDatabase.new.addService (.uuid16 0x180F) true
  let (_, db) ← db.addCharacteristic (.uuid16 0x2A19) 0x02 [0x64] .default
  let (_, db) ← db.addService uuid true
  let (_, db) ← db.addCharacteristic (.uuid16 0x2A19) 0x02 [0x32] .default
  pure db

def pairedServices (uuid : Uuid) : List DiscoveredService :=
  [⟨1, 3, .uuid16 0x180F, [⟨2, 3, 0x02, .uuid16 0x2A19, []⟩]⟩,
    ⟨4, 6, uuid, [⟨5, 6, 0x02, .uuid16 0x2A19, []⟩]⟩]

theorem registered_paired (uuid : Uuid) :
    ∃ db, paired uuid = .ok db ∧ Registered db (pairedServices uuid) := by
  have plain : PlainUuid (.uuid16 0x2A19) := by
    unfold PlainUuid
    decide
  have first : Registered _ ([] ++ [⟨1, 1, .uuid16 0x180F, []⟩]) :=
    .service .new (show (GattDatabase.new : GattDatabase Unit).addService _ _ = .ok (1, _) from rfl)
  have second : Registered _ ([] ++ [⟨1, 3, .uuid16 0x180F, [⟨2, 3, 0x02, .uuid16 0x2A19, []⟩]⟩]) :=
    .characteristic first plain (show GattDatabase.addCharacteristic _ _ _ [0x64] .default =
      .ok ((2, 3), _) from rfl)
  have third : Registered _ ([⟨1, 3, .uuid16 0x180F, [⟨2, 3, 0x02, .uuid16 0x2A19, []⟩]⟩] ++
      [⟨4, 4, uuid, []⟩]) :=
    .service second (show GattDatabase.addService _ uuid true = .ok (4, _) from rfl)
  exact ⟨_, rfl, .characteristic third plain (show GattDatabase.addCharacteristic _ _ _ [0x32] .default =
    .ok ((5, 6), _) from rfl)⟩

theorem discovery_agrees_paired : ∃ db, paired (.uuid16 0x1810) = .ok db ∧
    (({ controlDevice with gattDb := db } : VirtualDevice noCurve Unit Unit).discover controlPoint
      0x40).map (fun found => found.2.services) = some (pairedServices (.uuid16 0x1810)) := by
  obtain ⟨db, made, registered⟩ := registered_paired (.uuid16 0x1810)
  exact ⟨db, made, (discovery_agrees_iff controlPoint { controlDevice with gattDb := db } 0x40
    registered).mpr (firstOnly_of_nodup (by decide))⟩

def mergedServices : List DiscoveredService :=
  [⟨1, 3, .uuid16 0x180F, [⟨2, 3, 0x02, .uuid16 0x2A19, []⟩, ⟨5, 6, 0x02, .uuid16 0x2A19, []⟩]⟩,
    ⟨4, 6, .uuid16 0x180F, []⟩]

theorem discovery_merges : ∃ db, paired (.uuid16 0x180F) = .ok db ∧
    Registered db (pairedServices (.uuid16 0x180F)) ∧
    (({ controlDevice with gattDb := db } : VirtualDevice noCurve Unit Unit).discover controlPoint
      0x40).map (fun found => found.2.services) = some mergedServices ∧
    ¬ (({ controlDevice with gattDb := db } : VirtualDevice noCurve Unit Unit).discover controlPoint
      0x40).map (fun found => found.2.services) = some (pairedServices (.uuid16 0x180F)) := by
  obtain ⟨db, made, registered⟩ := registered_paired (.uuid16 0x180F)
  have found : (({ controlDevice with gattDb := db } : VirtualDevice noCurve Unit Unit).discover
      controlPoint 0x40).map (fun found => found.2.services) = some mergedServices := by
    rw [VirtualDevice.discover_eq controlPoint 0x40 { controlDevice with gattDb := db } registered,
      Option.map_some, foldl_takes]
    rfl
  refine ⟨db, made, registered, found, ?_⟩
  rw [found]
  decide

end Simble.Device
