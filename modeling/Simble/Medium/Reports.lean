import Simble.Controller.Broadcast
import Simble.Medium.Events

/-! The events of the simulated medium that grow with its state (`controller/sim.rs`): reports of
legacy, extended and periodic advertising, responses of an inquiry, handles of a broadcast group.
What decides no event's size is left out: the events of a fixed size are steps of their own, as
are the strengths that signals arrive with. -/
namespace Simble.Medium

open Controller (PendingPaSync PaSync BigSink reasonRemoteUser reasonLocalHost)
open Controller.Status (success unknownConnection commandDisallowed invalidParameters
  connectionFailed unknownAdvertisingId)

structure ExtAdvSet where
  advertisingHandle : UInt8
  advertisingSid : UInt8 := 0
  data : Bytes := []
  enabled : Bool := false
  periodicData : Bytes := []
  periodicEnabled : Bool := false

structure BigSource extends Controller.BigSource where
  sduInterval : Octets 3
  maxSdu : UInt16
  phy : UInt8
  framing : UInt8

structure Inquiry where
  ticksRemaining : Nat
  resultsSent : Bool := false

structure SimController where
  address : Address
  advertising : Bool := false
  advData : Bytes := []
  advEventType : UInt8 := 0
  ownAdvAddrType : UInt8 := 0
  scanning : Bool := false
  extAdvSets : List ExtAdvSet := []
  extScanning : Bool := false
  pendingPaSync : Option PendingPaSync := none
  paSyncs : List PaSync := []
  big : Option BigSource := none
  bigSinks : List BigSink := []
  scanEnable : UInt8 := 0
  classOfDevice : Octets 3 := .zero
  inquiry : Option Inquiry := none

/-- Effects on other controllers, which wait for a later phase. -/
inductive Action where
  | createBig (sender : Nat) (source : BigSource) (numBis : UInt8)
  | terminateBig (sender : Nat) (bigHandle : UInt8)
  | bigCreateSync (sender : Nat) (bigHandle : UInt8) (syncHandle : UInt16) (encryption : UInt8)
      (broadcastCode : Bytes) (indices : List UInt8)

inductive Command where
  | reset
  | leSetAdvParams (advType ownAddrType : UInt8)
  | leSetAdvData (params : Bytes)
  | leSetAdvEnable (enable : Bool)
  | leSetScanEnable (enable : Bool)
  | leSetExtAdvParams (handle sid : UInt8)
  | leSetExtAdvData (params : Bytes)
  | leSetExtAdvEnable (enable : Bool) (handles : List UInt8)
  | leSetPeriodicAdvData (params : Bytes)
  | leSetPeriodicAdvEnable (enable : Bool) (handle : UInt8)
  | leSetExtScanEnable (enable : Bool)
  | lePeriodicAdvCreateSync (address : Address) (sid : UInt8)
  | lePeriodicAdvTerminateSync (handle : UInt16)
  | leCreateBig (source : BigSource) (numBis : UInt8)
  | leTerminateBig (bigHandle : UInt8)
  | leBigCreateSync (bigHandle : UInt8) (syncHandle : UInt16) (encryption : UInt8)
      (broadcastCode : Bytes) (indices : List UInt8)
  | leBigTerminateSync (bigHandle : UInt8)
  | inquiry (params : Bytes)
  | inquiryCancel
  | writeScanEnable (scanEnable : UInt8)
  | writeClassOfDevice (classOfDevice : Octets 3)

namespace SimController
variable (controller : SimController)

def isDiscoverable : Bool := controller.scanEnable &&& 0x01 ≠ 0

/-- `ext_adv_set`: changes an advertising set, which is created if it is new. -/
def changeSet (handle : UInt8) (change : ExtAdvSet → ExtAdvSet) : SimController :=
  if controller.extAdvSets.any fun set => set.advertisingHandle = handle then
    { controller with extAdvSets := controller.extAdvSets.map fun set =>
        if set.advertisingHandle = handle then change set else set }
  else { controller with
    extAdvSets := controller.extAdvSets ++ [change { advertisingHandle := handle }] }

def reset : SimController := { controller with
  advertising := false
  advData := []
  scanning := false
  extAdvSets := []
  extScanning := false
  pendingPaSync := none
  paSyncs := []
  big := none
  bigSinks := []
  scanEnable := 0
  classOfDevice := .zero
  inquiry := none }

def setAdvData : Bytes → SimController
  | [] => controller
  | length :: rest => { controller with advData := rest.take length.toNat }

/-- LE Set Extended Advertising Data. Only an operation on complete data stores it. -/
def setExtAdvData : Bytes → SimController
  | handle :: operation :: _ :: length :: rest =>
    if rest.length < length.toNat then controller
    else controller.changeSet handle fun set =>
      if operation = 0x03 then { set with data := rest.take length.toNat } else set
  | _ => controller

def setPeriodicAdvData : Bytes → SimController
  | handle :: operation :: length :: rest =>
    if rest.length < length.toNat then controller
    else controller.changeSet handle fun set =>
      if operation = 0x03 then { set with periodicData := rest.take length.toNat } else set
  | _ => controller

def inquiryTicks (params : Bytes) : Nat := max 1 (min 8 (params.getD 3 1).toNat)

/-- A Command Complete that carries no more than a status. -/
def complete (opcode : UInt16) : FixedEvent := .commandComplete opcode (.status success)

/-- `handle_command` on one controller: its answer and the action that it asks for. -/
def handleCommand (i : Nat) : Command → SimController × FixedEvent × Option Action
  | .reset => (controller.reset, complete 0x0C03, none)
  | .leSetAdvParams advType ownAddrType =>
    ({ controller with advEventType := advType, ownAdvAddrType := ownAddrType },
      complete 0x2006, none)
  | .leSetAdvData params => (controller.setAdvData params, complete 0x2008, none)
  | .leSetAdvEnable enable => ({ controller with advertising := enable }, complete 0x200A, none)
  | .leSetScanEnable enable => ({ controller with scanning := enable }, complete 0x200C, none)
  | .leSetExtAdvParams handle sid =>
    (controller.changeSet handle fun set => { set with advertisingSid := sid },
      .commandComplete 0x2036 (.octet success 0x00), none)
  | .leSetExtAdvData params => (controller.setExtAdvData params, complete 0x2037, none)
  | .leSetExtAdvEnable enable handles =>
    (handles.foldl (fun controller handle =>
      controller.changeSet handle fun set => { set with enabled := enable }) controller,
      complete 0x2039, none)
  | .leSetPeriodicAdvData params => (controller.setPeriodicAdvData params, complete 0x203F, none)
  | .leSetPeriodicAdvEnable enable handle =>
    (controller.changeSet handle fun set => { set with periodicEnabled := enable },
      complete 0x2040, none)
  | .leSetExtScanEnable enable => ({ controller with extScanning := enable }, complete 0x2042, none)
  | .lePeriodicAdvCreateSync address sid =>
    ({ controller with pendingPaSync := some ⟨address, sid⟩ }, .commandStatus success 0x2044, none)
  | .lePeriodicAdvTerminateSync handle =>
    ({ controller with paSyncs := controller.paSyncs.filter fun sync => sync.syncHandle ≠ handle },
      complete 0x2046, none)
  | .leCreateBig source numBis =>
    if (!controller.extAdvSets.any fun set =>
        set.advertisingHandle = source.advertisingHandle ∧ set.enabled ∧ set.periodicEnabled) ∨
        numBis = 0 then
      (controller, .commandStatus commandDisallowed 0x2068, none)
    else (controller, .commandStatus success 0x2068, some (.createBig i source numBis))
  | .leTerminateBig bigHandle =>
    if (controller.big.map fun big => big.bigHandle) ≠ some bigHandle then
      (controller, .commandStatus unknownConnection 0x206A, none)
    else (controller, .commandStatus success 0x206A, some (.terminateBig i bigHandle))
  | .leBigCreateSync bigHandle syncHandle encryption broadcastCode indices =>
    if !controller.paSyncs.any fun sync => sync.syncHandle = syncHandle then
      (controller, .commandStatus unknownAdvertisingId 0x206B, none)
    else (controller, .commandStatus success 0x206B,
      some (.bigCreateSync i bigHandle syncHandle encryption broadcastCode indices))
  | .leBigTerminateSync bigHandle =>
    let known := controller.bigSinks.any fun sink => sink.bigHandle = bigHandle
    ({ controller with
        bigSinks := controller.bigSinks.filter fun sink => sink.bigHandle ≠ bigHandle },
      .commandComplete 0x206C (.octet (if known then success else unknownConnection) bigHandle), none)
  | .inquiry params =>
    ({ controller with inquiry := some { ticksRemaining := inquiryTicks params } },
      .commandStatus success 0x0401, none)
  | .inquiryCancel => ({ controller with inquiry := none }, complete 0x0402, none)
  | .writeScanEnable scanEnable =>
    ({ controller with scanEnable := scanEnable }, complete 0x0C1A, none)
  | .writeClassOfDevice classOfDevice =>
    ({ controller with classOfDevice := classOfDevice }, complete 0x0C24, none)

end SimController

structure Link where
  controllers : List SimController := []
  nextHandle : UInt16 := 1
  actions : List Action := []
  sent : List (Nat × Event) := []

/-- What a tick is made of, each phase as one turn for a controller. -/
inductive Step where
  | command (i : Nat) (command : Command)
  | send (i : Nat) (event : FixedEvent)
  | connect (count : Nat)
  /-- Advertising reports to one scanner (phases B and B2), with the strength of each. -/
  | advertise (i : Nat) (rssi : Nat → UInt8)
  | advertiseExtended (i : Nat) (rssi : Nat → UInt8)
  /-- `tick_periodic_sync_requests` -/
  | synchronize (i : Nat)
  /-- `tick_inquiry` -/
  | inquire (i : Nat)
  | act
  /-- `tick_periodic_advertising` -/
  | advertisePeriodic (i : Nat)
  | addDevice (address : Address)
  | removeDevice (address : Address)

namespace Link
variable (link : Link)

def change (i : Nat) (change : SimController → SimController) : Link :=
  { link with controllers := link.controllers.modify i change }

def push (i : Nat) (event : Event) : Link := { link with sent := link.sent ++ [(i, event)] }

def pushAll (i : Nat) (events : List Event) : Link :=
  { link with sent := link.sent ++ events.map (Prod.mk i) }

/-- `alloc_handle`, some number of times. -/
def allocHandles (link : Link) : Nat → List UInt16 × Link
  | 0 => ([], link)
  | count + 1 =>
    let (handles, last) := allocHandles { link with nextHandle := max (link.nextHandle + 1) 1 } count
    (link.nextHandle :: handles, last)

/-! ## Advertising -/

def advertisers (scanner : SimController) : List SimController :=
  link.controllers.filter fun advertiser =>
    advertiser.advertising ∧ advertiser.address ≠ scanner.address

def advertise (i : Nat) (rssi : Nat → UInt8) : Link :=
  match link.controllers[i]? with
  | none => link
  | some scanner =>
    if !scanner.scanning then link
    else link.pushAll i ((link.advertisers scanner).zipIdx.map fun (advertiser, n) =>
      .leAdvertisingReport advertiser.advEventType advertiser.ownAdvAddrType advertiser.address
        advertiser.advData (rssi n))

def extAdvertisers (scanner : SimController) : List (Address × ExtAdvSet) :=
  (link.controllers.flatMap fun advertiser =>
    (advertiser.extAdvSets.filter ExtAdvSet.enabled).map (Prod.mk advertiser.address)).filter
      fun (address, _) => address ≠ scanner.address

def advertiseExtended (i : Nat) (rssi : Nat → UInt8) : Link :=
  match link.controllers[i]? with
  | none => link
  | some scanner =>
    if !scanner.extScanning then link
    else link.pushAll i ((link.extAdvertisers scanner).zipIdx.map fun ((address, set), n) =>
      .leExtendedAdvertisingReport address set.advertisingSid set.data (rssi n))

def findTrain (pending : PendingPaSync) : Option (Nat × UInt8) :=
  (link.controllers.zipIdx).findSome? fun (controller, index) =>
    if controller.address ≠ pending.address then none
    else (controller.extAdvSets.find? fun set =>
      set.periodicEnabled ∧ set.advertisingSid = pending.advertisingSid).map fun set =>
        (index, set.advertisingHandle)

def synchronize (i : Nat) : Link :=
  match link.controllers[i]?.bind SimController.pendingPaSync with
  | none => link
  | some pending =>
    match link.findTrain pending with
    | none => link
    | some (source, advertisingHandle) =>
      let syncHandle := link.nextHandle
      ((link.allocHandles 1).2.change i fun controller => { controller with
        pendingPaSync := none
        paSyncs := controller.paSyncs ++ [(⟨syncHandle, source, advertisingHandle⟩ : PaSync)] }).push i
          (.fixed (.lePeriodicSyncEstablished syncHandle pending.advertisingSid pending.address))

/-- The source of a train that is on air, with the set that carries it. -/
def train (sync : PaSync) : Option (SimController × ExtAdvSet) := do
  let source ← link.controllers[sync.source]?
  let set ← source.extAdvSets.find? fun set => set.advertisingHandle = sync.advertisingHandle
  if set.periodicEnabled then some (source, set) else none

/-- The BIGInfo of a group that hangs off a train. -/
def bigInfo (sync : PaSync) (source : SimController) : Option Event :=
  (source.big.filter fun big => big.advertisingHandle = sync.advertisingHandle).map fun big =>
    .fixed (.leBigInfoReport sync.syncHandle (UInt8.ofNat big.bisHandles.length) big.maxSdu
      big.sduInterval big.phy big.framing big.encryption)

def periodicReports (sync : PaSync) : List Event :=
  match link.train sync with
  | none => []
  | some (source, set) =>
    (if set.periodicData = [] then []
      else [.lePeriodicAdvertisingReport sync.syncHandle set.periodicData]) ++
        (bigInfo sync source).toList

def advertisePeriodic (i : Nat) : Link :=
  match link.controllers[i]? with
  | none => link
  | some listener => link.pushAll i (listener.paSyncs.flatMap link.periodicReports)

/-! ## Inquiry -/

/-- The devices that an inquiring host is told of. What the turn of another host changes
decides none of it. -/
def found (inquirer : SimController) : List (Address × Octets 3) :=
  ((link.controllers.filter SimController.isDiscoverable).map fun controller =>
    (controller.address, controller.classOfDevice)).filter fun (address, _) =>
      address ≠ inquirer.address

def inquire (i : Nat) : Link :=
  match link.controllers[i]? with
  | none => link
  | some controller =>
    match controller.inquiry with
    | none => link
    | some inquiry =>
      let found := link.found controller
      let link := if inquiry.resultsSent ∨ found.isEmpty then link
        else link.push i (.inquiryResult found)
      if inquiry.ticksRemaining - 1 = 0 then
        (link.change i fun controller => { controller with inquiry := none }).push i
          (.fixed (.inquiryComplete success))
      else link.change i fun controller =>
        { controller with inquiry := some ⟨inquiry.ticksRemaining - 1, true⟩ }

/-! ## Broadcast groups -/

def routeCreateBig (sender : Nat) (source : BigSource) (numBis : UInt8) : Link :=
  let (handles, link) := link.allocHandles numBis.toNat
  (link.change sender fun controller =>
    { controller with big := some { source with bisHandles := handles } }).push sender
      (.leCreateBigComplete success source.bigHandle handles)

/-- The LE BIG Sync Lost of each sink of a source. -/
def lost (source : Nat) : List (Nat × Event) :=
  link.controllers.zipIdx.flatMap fun (controller, i) =>
    (controller.bigSinks.filter fun sink => sink.source = source).map fun sink =>
      (i, .fixed (.leBigSyncLost sink.bigHandle reasonRemoteUser))

def routeTerminateBig (sender : Nat) (bigHandle : UInt8) : Link :=
  let link := (link.change sender fun controller => { controller with big := none }).push sender
    (.fixed (.leTerminateBigComplete bigHandle reasonLocalHost))
  { link with
    controllers := link.controllers.map fun controller => { controller with
      bigSinks := controller.bigSinks.filter fun sink => sink.source ≠ sender }
    sent := link.sent ++ link.lost sender }

/-- The source of the group that a receiver may join, or the status that it is refused with. -/
def admits (sender : Nat) (syncHandle : UInt16) (encryption : UInt8) (broadcastCode : Bytes)
    (indices : List UInt8) : Except UInt8 Nat :=
  let found := do
    let controller ← link.controllers[sender]?
    let sync ← controller.paSyncs.find? fun (sync : PaSync) => sync.syncHandle = syncHandle
    let source ← link.controllers[sync.source]?
    let big ← source.big
    if big.advertisingHandle = sync.advertisingHandle then some (sync.source, big) else none
  match found with
  | none => .error commandDisallowed
  | some (source, big) =>
    if indices.isEmpty ∨
        !indices.all fun index => 1 ≤ index ∧ index.toNat ≤ big.bisHandles.length then
      .error invalidParameters
    else if ¬ (encryption = big.encryption ∧ (encryption = 0 ∨ broadcastCode = big.broadcastCode))
      then .error connectionFailed
    else .ok source

def routeBigCreateSync (sender : Nat) (bigHandle : UInt8) (syncHandle : UInt16) (encryption : UInt8)
    (broadcastCode : Bytes) (indices : List UInt8) : Link :=
  match link.admits sender syncHandle encryption broadcastCode indices with
  | .error status => link.push sender (.leBigSyncEstablished status bigHandle [])
  | .ok source =>
    let (handles, link) := link.allocHandles indices.length
    (link.change sender fun controller => { controller with bigSinks := controller.bigSinks ++
      [(⟨bigHandle, source, indices, handles⟩ : BigSink)] }).push sender
        (.leBigSyncEstablished success bigHandle handles)

def perform : Action → Link
  | .createBig sender source numBis => link.routeCreateBig sender source numBis
  | .terminateBig sender bigHandle => link.routeTerminateBig sender bigHandle
  | .bigCreateSync sender bigHandle syncHandle encryption broadcastCode indices =>
    link.routeBigCreateSync sender bigHandle syncHandle encryption broadcastCode indices

/-! ## Steps -/

def step (link : Link) : Step → Link
  | .command i command =>
    match link.controllers[i]? with
    | none => link
    | some controller =>
      let (next, answer, action) := controller.handleCommand i command
      { (link.change i fun _ => next).push i (.fixed answer) with
        actions := link.actions ++ action.toList }
  | .send i event => link.push i (.fixed event)
  | .connect count => (link.allocHandles count).2
  | .advertise i rssi => link.advertise i rssi
  | .advertiseExtended i rssi => link.advertiseExtended i rssi
  | .synchronize i => link.synchronize i
  | .inquire i => link.inquire i
  | .act =>
    match link.actions with
    | [] => link
    | action :: rest => ({ link with actions := rest } : Link).perform action
  | .advertisePeriodic i => link.advertisePeriodic i
  | .addDevice address => { link with controllers := link.controllers ++ [{ address }] }
  | .removeDevice address => { link with
      controllers := link.controllers.filter fun controller => controller.address ≠ address }

/-- Every event that was pushed is well formed. -/
def Sound : Prop := ∀ sent ∈ link.sent, WellFormed sent.2.packet

end Link
end Simble.Medium
