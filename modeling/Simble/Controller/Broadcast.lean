import Simble.Octets

/-! Broadcast isochronous groups on the simulated medium (`controller/sim.rs`): setting up a
periodic train, synchronizing to it, creating, joining and leaving a group, and the routing of
what is written on it. Commands are what their packets parse to; an outbox is everything a host
has been sent. -/
namespace Simble.Controller

namespace Status
def success : UInt8 := 0x00
def unknownConnection : UInt8 := 0x02
def commandDisallowed : UInt8 := 0x0C
def invalidParameters : UInt8 := 0x12
def connectionFailed : UInt8 := 0x3E
def unknownAdvertisingId : UInt8 := 0x42
end Status

def reasonRemoteUser : UInt8 := 0x13
def reasonLocalHost : UInt8 := 0x16

inductive Packet where
  | commandComplete (status : UInt8)
  | commandStatus (status : UInt8)
  | periodicSyncEstablished (syncHandle : UInt16) (sid : UInt8) (address : Address)
  | createBigComplete (status bigHandle : UInt8) (handles : List UInt16)
  | terminateBigComplete (bigHandle reason : UInt8)
  | bigSyncEstablished (status bigHandle : UInt8) (handles : List UInt16)
  | bigSyncLost (bigHandle reason : UInt8)
  | iso (data : Bytes)
deriving DecidableEq

structure ExtAdvSet where
  advertisingHandle : UInt8
  advertisingSid : UInt8
  enabled : Bool
  periodicEnabled : Bool

structure BigSource where
  bigHandle : UInt8
  advertisingHandle : UInt8
  bisHandles : List UInt16
  encryption : UInt8
  broadcastCode : Bytes
deriving DecidableEq

structure PaSync where
  syncHandle : UInt16
  source : Nat
  advertisingHandle : UInt8

structure BigSink where
  bigHandle : UInt8
  source : Nat
  indices : List UInt8
  bisHandles : List UInt16

structure PendingPaSync where
  address : Address
  advertisingSid : UInt8

structure SimController where
  address : Address
  extAdvSets : List ExtAdvSet
  pendingPaSync : Option PendingPaSync
  paSyncs : List PaSync
  big : Option BigSource
  bigSinks : List BigSink
  outbox : List Packet

namespace SimController
variable (controller : SimController)

def new (address : Address) : SimController := ⟨address, [], none, [], none, [], []⟩

def push (packet : Packet) : SimController :=
  { controller with outbox := controller.outbox ++ [packet] }

/-- `ext_adv_set`: changes an advertising set, which is created if it is new. -/
def changeSet (handle : UInt8) (change : ExtAdvSet → ExtAdvSet) : SimController :=
  if controller.extAdvSets.any fun set => set.advertisingHandle = handle then
    { controller with extAdvSets := controller.extAdvSets.map fun set =>
        if set.advertisingHandle = handle then change set else set }
  else { controller with extAdvSets := controller.extAdvSets ++ [change ⟨handle, 0, false, false⟩] }

def reset : SimController := { controller with
  extAdvSets := []
  pendingPaSync := none
  paSyncs := []
  big := none
  bigSinks := [] }

end SimController

/-- Effects on other controllers, which wait for a later phase. -/
inductive Action where
  | createBig (from_ : Nat) (source : BigSource) (numBis : UInt8)
  | terminateBig (from_ : Nat) (bigHandle : UInt8)
  | bigCreateSync (from_ : Nat) (bigHandle : UInt8) (syncHandle : UInt16) (encryption : UInt8)
      (broadcastCode : Bytes) (indices : List UInt8)
  | iso (from_ : Nat) (data : Bytes)

inductive Command where
  | reset
  | setExtAdvParams (handle sid : UInt8)
  | setExtAdvEnable (enable : Bool) (handles : List UInt8)
  | setPeriodicAdvEnable (enable : Bool) (handle : UInt8)
  | periodicAdvCreateSync (address : Address) (sid : UInt8)
  | periodicAdvTerminateSync (handle : UInt16)
  | createBig (bigHandle advertisingHandle numBis encryption : UInt8) (broadcastCode : Bytes)
  | terminateBig (bigHandle : UInt8)
  | bigCreateSync (bigHandle : UInt8) (syncHandle : UInt16) (encryption : UInt8)
      (broadcastCode : Bytes) (indices : List UInt8)
  | bigTerminateSync (bigHandle : UInt8)

structure Link where
  controllers : List SimController
  nextHandle : UInt16

namespace Link
variable (link : Link)

def controller (i : Nat) : Option SimController := link.controllers[i]?

def change (i : Nat) (change : SimController → SimController) : Link :=
  { link with controllers := link.controllers.modify i change }

def push (i : Nat) (packet : Packet) : Link := link.change i (·.push packet)

/-- `alloc_handle`, some number of times. -/
def allocHandles (link : Link) : Nat → List UInt16 × Link
  | 0 => ([], link)
  | count + 1 =>
    let (handles, last) := allocHandles { link with nextHandle := max (link.nextHandle + 1) 1 } count
    (link.nextHandle :: handles, last)

/-! ## Routing -/

def routeCreateBig (from_ : Nat) (source : BigSource) (numBis : UInt8) : Link :=
  let (handles, link) := link.allocHandles numBis.toNat
  link.change from_ fun controller =>
    ({ controller with big := some { source with bisHandles := handles } }).push
      (.createBigComplete Status.success source.bigHandle handles)

/-- Drops the sinks of a source, each with LE BIG Sync Lost. -/
def loseSource (source : Nat) (controller : SimController) : SimController :=
  { controller with
    bigSinks := controller.bigSinks.filter fun sink => sink.source ≠ source
    outbox := controller.outbox ++
      (controller.bigSinks.filter fun sink => sink.source = source).map fun sink =>
        .bigSyncLost sink.bigHandle reasonRemoteUser }

def routeTerminateBig (from_ : Nat) (bigHandle : UInt8) : Link :=
  let link := link.change from_ fun controller =>
    ({ controller with big := none }).push (.terminateBigComplete bigHandle reasonLocalHost)
  { link with controllers := link.controllers.map (loseSource from_) }

/-- The group that a receiver may join, or the status that it is refused with. -/
def admits (from_ : Nat) (syncHandle : UInt16) (encryption : UInt8) (broadcastCode : Bytes)
    (indices : List UInt8) : Except UInt8 (Nat × BigSource) :=
  let found := do
    let controller ← link.controller from_
    let sync ← controller.paSyncs.find? fun (sync : PaSync) => sync.syncHandle = syncHandle
    let source ← link.controller sync.source
    let big ← source.big
    if big.advertisingHandle = sync.advertisingHandle then some (sync.source, big) else none
  match found with
  | none => .error Status.commandDisallowed
  | some (source, big) =>
    if indices.isEmpty ∨ !indices.all fun index => 1 ≤ index ∧ index.toNat ≤ big.bisHandles.length then
      .error Status.invalidParameters
    else if ¬ (encryption = big.encryption ∧ (encryption = 0 ∨ broadcastCode = big.broadcastCode))
      then .error Status.connectionFailed
    else .ok (source, big)

def routeBigCreateSync (from_ : Nat) (bigHandle : UInt8) (syncHandle : UInt16) (encryption : UInt8)
    (broadcastCode : Bytes) (indices : List UInt8) : Link :=
  match link.admits from_ syncHandle encryption broadcastCode indices with
  | .error status => link.push from_ (.bigSyncEstablished status bigHandle [])
  | .ok (source, _) =>
    let (handles, link) := link.allocHandles indices.length
    link.change from_ fun controller =>
      ({ controller with bigSinks := controller.bigSinks ++ [(⟨bigHandle, source, indices, handles⟩ : BigSink)] }).push
        (.bigSyncEstablished Status.success bigHandle handles)

def rewriteIsoHandle (handle : UInt16) : Bytes → Bytes
  | low :: high :: rest =>
    U16.toLeBytes ((handle &&& 0x0FFF) ||| (U16.fromLeBytes low high &&& 0xF000)) ++ rest
  | body => body

def BigSink.handleFor (sink : BigSink) (index : UInt8) : Option UInt16 :=
  (sink.indices.findIdx? (· = index)).bind fun position => sink.bisHandles[position]?

def bisIndex (from_ : Nat) (handle : UInt16) : Option UInt8 := do
  let controller ← link.controller from_
  let big ← controller.big
  let slot ← big.bisHandles.findIdx? (· = handle)
  some (UInt8.ofNat (slot + 1))

def isoHandle : Bytes → UInt16
  | low :: high :: _ => U16.fromLeBytes low high &&& 0x0FFF
  | _ => 0

/-- Fans an SDU out to the sinks of its source. -/
def deliverSdu (source : Nat) (index : UInt8) (data : Bytes) (controller : SimController) :
    SimController :=
  { controller with outbox := controller.outbox ++
      ((controller.bigSinks.filter fun sink => sink.source = source).filterMap
        (BigSink.handleFor · index)).map fun handle => .iso (rewriteIsoHandle handle data) }

def routeBisIso (from_ : Nat) (data : Bytes) : Link :=
  match link.bisIndex from_ (isoHandle data) with
  | none => link
  | some index =>
    { link with controllers := link.controllers.map (deliverSdu from_ index data) }

def perform : Action → Link
  | .createBig from_ source numBis => link.routeCreateBig from_ source numBis
  | .terminateBig from_ bigHandle => link.routeTerminateBig from_ bigHandle
  | .bigCreateSync from_ bigHandle syncHandle encryption broadcastCode indices =>
    link.routeBigCreateSync from_ bigHandle syncHandle encryption broadcastCode indices
  | .iso from_ data => link.routeBisIso from_ data

/-! ## Commands -/

/-- `handle_command` on one controller, with the action that it asks for. -/
def handleCommand (i : Nat) (controller : SimController) :
    Command → SimController × Option Action
  | .reset => (controller.reset.push (.commandComplete Status.success), none)
  | .setExtAdvParams handle sid =>
    ((controller.changeSet handle fun set => { set with advertisingSid := sid }).push
      (.commandComplete Status.success), none)
  | .setExtAdvEnable enable handles =>
    ((handles.foldl (fun controller handle =>
      controller.changeSet handle fun set => { set with enabled := enable }) controller).push
        (.commandComplete Status.success), none)
  | .setPeriodicAdvEnable enable handle =>
    ((controller.changeSet handle fun set => { set with periodicEnabled := enable }).push
      (.commandComplete Status.success), none)
  | .periodicAdvCreateSync address sid =>
    (({ controller with pendingPaSync := some ⟨address, sid⟩ }).push
      (.commandStatus Status.success), none)
  | .periodicAdvTerminateSync handle =>
    (({ controller with
        paSyncs := controller.paSyncs.filter fun sync => sync.syncHandle ≠ handle }).push
      (.commandComplete Status.success), none)
  | .createBig bigHandle advertisingHandle numBis encryption broadcastCode =>
    if (!controller.extAdvSets.any fun set =>
        set.advertisingHandle = advertisingHandle ∧ set.enabled ∧ set.periodicEnabled) ∨
        numBis = 0 then
      (controller.push (.commandStatus Status.commandDisallowed), none)
    else (controller.push (.commandStatus Status.success),
      some (.createBig i ⟨bigHandle, advertisingHandle, [], encryption, broadcastCode⟩ numBis))
  | .terminateBig bigHandle =>
    if controller.big.map BigSource.bigHandle ≠ some bigHandle then
      (controller.push (.commandStatus Status.unknownConnection), none)
    else (controller.push (.commandStatus Status.success), some (.terminateBig i bigHandle))
  | .bigCreateSync bigHandle syncHandle encryption broadcastCode indices =>
    if !controller.paSyncs.any fun sync => sync.syncHandle = syncHandle then
      (controller.push (.commandStatus Status.unknownAdvertisingId), none)
    else (controller.push (.commandStatus Status.success),
      some (.bigCreateSync i bigHandle syncHandle encryption broadcastCode indices))
  | .bigTerminateSync bigHandle =>
    let known := controller.bigSinks.any fun sink => sink.bigHandle = bigHandle
    (({ controller with
        bigSinks := controller.bigSinks.filter fun sink => sink.bigHandle ≠ bigHandle }).push
      (.commandComplete (if known then Status.success else Status.unknownConnection)), none)

/-! ## Periodic trains -/

def findTrain (pending : PendingPaSync) : Option (Nat × UInt8) :=
  ((link.controllers.zipIdx).findSome? fun (controller, index) =>
    if controller.address ≠ pending.address then none
    else (controller.extAdvSets.find? fun set =>
      set.periodicEnabled ∧ set.advertisingSid = pending.advertisingSid).map fun set =>
        (index, set.advertisingHandle))

/-- One turn of `tick_periodic_sync_requests`. -/
def synchronize (i : Nat) : Link :=
  match (link.controller i).bind SimController.pendingPaSync with
  | none => link
  | some pending =>
    match link.findTrain pending with
    | none => link
    | some (source, advertisingHandle) =>
      let (handles, link) := link.allocHandles 1
      let syncHandle := handles.headD 0
      link.change i fun controller =>
        ({ controller with
            pendingPaSync := none
            paSyncs := controller.paSyncs ++ [(⟨syncHandle, source, advertisingHandle⟩ : PaSync)] }).push
          (.periodicSyncEstablished syncHandle pending.advertisingSid pending.address)

end Link

structure Medium where
  link : Link
  actions : List Action

inductive Step where
  /-- A command of a host (phase A). -/
  | command (i : Nat) (command : Command)
  | write (i : Nat) (data : Bytes)
  /-- Connection procedures take handles. -/
  | connect (count : Nat)
  | synchronize (i : Nat)
  | act
  /-- `add_device`, between ticks. -/
  | addDevice (address : Address)

namespace Medium
variable (medium : Medium)

def step : Step → Medium
  | .command i command =>
    match medium.link.controller i with
    | none => medium
    | some controller =>
      let (next, action) := Link.handleCommand i controller command
      ⟨medium.link.change i fun _ => next, medium.actions ++ action.toList⟩
  | .write i data =>
    if data.length < 4 then medium else { medium with actions := medium.actions ++ [.iso i data] }
  | .connect count => { medium with link := (medium.link.allocHandles count).2 }
  | .synchronize i => { medium with link := medium.link.synchronize i }
  | .act =>
    match medium.actions with
    | [] => medium
    | action :: rest => ⟨medium.link.perform action, rest⟩
  | .addDevice address => { medium with link := { medium.link with
      controllers := medium.link.controllers ++ [.new address] } }

end Medium
end Simble.Controller
