import Simble.Device.Discovery
import Simble.Device.SmpServer

/-! A GATT central that connects to one peer: bring-up, discovery, and a queue of operations on
what it has discovered. Its host calls it and hands it packets; what it sends is a command or an
ATT PDU. -/
namespace Simble.Device
open Simble.Gatt Simble.Att

section Client

structure DiscoveredDescriptor where
  handle : UInt16
  uuid : Uuid
deriving DecidableEq

structure DiscoveredCharacteristic where
  declarationHandle : UInt16
  valueHandle : UInt16
  properties : UInt8
  uuid : Uuid
  descriptors : List DiscoveredDescriptor
deriving DecidableEq

structure DiscoveredService where
  startHandle : UInt16
  endHandle : UInt16
  uuid : Uuid
  characteristics : List DiscoveredCharacteristic
deriving DecidableEq

structure GattClient where
  connectionHandle : UInt16
  mtu : UInt16
  services : List DiscoveredService
deriving DecidableEq

namespace GattClient

def new (connectionHandle : UInt16) : GattClient := ⟨connectionHandle, 23, []⟩

variable (client : GattClient)

def onExchangeMtuResponse (serverMtu clientMtu : UInt16) : GattClient :=
  { client with mtu := max (min serverMtu clientMtu) 23 }

def rangeRequest (opcode : Opcode) (startHandle endHandle uuid16 : UInt16) : Bytes :=
  opcode.byte :: (U16.toLeBytes startHandle ++ U16.toLeBytes endHandle ++ U16.toLeBytes uuid16)

def discoverServicesRequest (startHandle endHandle : UInt16) : Bytes :=
  rangeRequest .readByGroupTypeReq startHandle endHandle 0x2800

def discoverCharacteristicsRequest (startHandle endHandle : UInt16) : Bytes :=
  rangeRequest .readByTypeReq startHandle endHandle 0x2803

def onDiscoverServicesResponse (payload : Bytes) : GattClient :=
  match AttPdu.parse payload with
  | some (.readByGroupTypeRsp length data) =>
    match items 4 length data with
    | none => client
    | some list =>
      { client with
        services := client.services ++ list.filterMap fun (item : Bytes × Bytes) =>
          (Uuid.fromBytes item.2).map fun uuid =>
            ⟨entryHandle item.1, entryHandle (item.1.drop 2), uuid, []⟩ }
  | _ => client

def readDeclaration (item : Bytes × Bytes) : Option DiscoveredCharacteristic :=
  match item.2 with
  | properties :: low :: high :: uuidBytes =>
    (Uuid.fromBytes uuidBytes).map fun uuid =>
      ⟨entryHandle item.1, U16.fromLeBytes low high, properties, uuid, []⟩
  | _ => none

def modifyFirst {α : Type} (test : α → Bool) (change : α → α) : List α → List α
  | [] => []
  | head :: tail => if test head then change head :: tail else head :: modifyFirst test change tail

def onDiscoverCharacteristicsResponse (serviceUuid : Uuid) (payload : Bytes) : GattClient :=
  match AttPdu.parse payload with
  | some (.readByTypeRsp length data) =>
    if length.toNat < 5 then client
    else
      { client with
        services := modifyFirst (fun service => service.uuid = serviceUuid)
          (fun service => { service with
            characteristics := service.characteristics ++
              (dataList 2 length.toNat data).filterMap readDeclaration })
          client.services }
  | _ => client

def characteristics : List DiscoveredCharacteristic :=
  client.services.flatMap fun service => service.characteristics

end GattClient

end Client

inductive CentralPhase where
  | idle
  | initializing
  | scanning
  | connecting
  | exchangingMtu
  | discoveringServices
  | discoveringCharacteristics (index : Nat)
  | ready
  | disconnected
deriving DecidableEq

inductive CentralEvent where
  | connectionStateChange (peer : Address) (connected : Bool) (status : UInt8)
  | mtuChanged (mtu : UInt16)
  | servicesDiscovered (services : Nat)
  | characteristicRead (uuid : Uuid) (handle : UInt16) (value : Bytes) (status : UInt8)
  | characteristicWrite (uuid : Uuid) (handle : UInt16) (status : UInt8)
  | characteristicChanged (uuid : Uuid) (handle : UInt16) (value : Bytes)
  | subscriptionChanged (uuid : Uuid) (handle : UInt16) (enabled : Bool) (status : UInt8)
  | operationFailed (uuid : Uuid) (operation reason : String)

inductive Target where
  | uuid (uuid : Uuid)
  | handle (handle : UInt16)
deriving DecidableEq

inductive Op where
  | read (target : Target)
  | write (target : Target) (value : Bytes) (withResponse : Bool)
  | subscribe (target : Target) (enable : Bool)
  | discoverDescriptors (target : Target) (enable : Bool)
deriving DecidableEq

inductive Outgoing where
  | command (opcode : UInt16) (params : Bytes)
  | att (connection : UInt16) (pdu : Bytes)

structure LeCentral where
  aclDataLen : Nat
  target : Address
  client : GattClient
  reassembler : Map UInt16 (Nat × Bytes)
  phase : CentralPhase
  pending : List Op
  inFlight : Option (Op × UInt16)
  values : Map UInt16 Bytes
  subscribed : List UInt16
  events : List CentralEvent
  peerAddressType : Option UInt8

def pushFragment (buffers : Map UInt16 (Nat × Bytes)) (handle : UInt16) (isFirst : Bool)
    (fragment : Bytes) : Option Bytes × Map UInt16 (Nat × Bytes) :=
  if isFirst then
    match fragment with
    | low :: high :: _ :: _ :: _ =>
      match buffers.lookup handle with
      | some _ => (none, buffers.erase handle)
      | none =>
        let expected := 4 + (U16.fromLeBytes low high).toNat
        if expected ≤ fragment.length then (some (fragment.take expected), buffers)
        else (none, buffers.insert handle (expected, fragment))
    | _ => (none, buffers)
  else
    match buffers.lookup handle with
    | none => (none, buffers)
    | some (expected, buffered) =>
      let buf := buffered ++ fragment
      if expected ≤ buf.length then (some (buf.take expected), buffers.erase handle)
      else (none, buffers.insert handle (expected, buf))

/-- `HciAclHeader::parse`: the handle, whether the fragment is a first one, and
its payload. -/
def parseAcl : Bytes → Option (UInt16 × Bool × Bytes)
  | low :: high :: lengthLow :: lengthHigh :: payload =>
    let expected := (U16.fromLeBytes lengthLow lengthHigh).toNat
    let flags := U16.fromLeBytes low high
    if payload.length < expected then none
    else some (flags &&& 0x0FFF, decide ((flags >>> 12) &&& 0x01 = 0), payload.take expected)
  | _ => none

def isPeerRequest (op : UInt8) : Bool :=
  op ∈ [Opcode.exchangeMtuReq, .findInformationReq, .findByTypeValueReq, .readByTypeReq, .readReq,
    .readBlobReq, .readMultipleReq, .readByGroupTypeReq, .writeReq, .prepareWriteReq,
    .executeWriteReq].map Opcode.byte

def signedWriteCmd : UInt8 := 0xD2
def clientMtu : UInt16 := 517

inductive HciEvent where
  | leConnectionComplete (status : UInt8) (connectionHandle : UInt16)
  | disconnectionComplete (status : UInt8) (connectionHandle : UInt16) (reason : UInt8)
  | commandComplete (commandOpcode : UInt16)
  | other (code : UInt8) (parameters : Bytes)
  | ignored

namespace HciEvent

/-- The parameters of an event the central does not look into, which has to be
long enough all the same. -/
def fixed (length : Nat) (parameters : Bytes) : Option HciEvent :=
  if parameters.length < length then none else some .ignored

def fromParameters (code : UInt8) (parameters : Bytes) : Option HciEvent :=
  if code = 0x3E then
    match parameters with
    | subevent :: rest =>
      if subevent = 0x01 ∨ subevent = 0x0A then
        match rest with
        | status :: low :: high :: fields =>
          if fields.length < 8 then none
          else some (.leConnectionComplete status (U16.fromLeBytes low high))
        | _ => none
      else if subevent = 0x05 then fixed 13 parameters
      else if subevent = 0x1A then fixed 7 parameters
      else if subevent = 0x19 then fixed 4 parameters
      else some (.other code parameters)
    | [] => some (.other code parameters)
  else if code = 0x0E then
    match parameters with
    | _ :: low :: high :: _ => some (.commandComplete (U16.fromLeBytes low high))
    | _ => none
  else if code = 0x08 then fixed 4 parameters
  else if code = 0x05 then
    match parameters with
    | status :: low :: high :: reason :: _ =>
      some (.disconnectionComplete status (U16.fromLeBytes low high) reason)
    | _ => none
  else if code = 0x04 then fixed 10 parameters
  else if code = 0x03 then fixed 11 parameters
  else if code = 0x2C then fixed 17 parameters
  else some (.other code parameters)

/-- `parse_h4`, of a packet without its H4 octet. -/
def parse : Bytes → Option HciEvent
  | code :: length :: parameters => fromParameters code (parameters.take length.toNat)
  | _ => none

end HciEvent

namespace LeCentral

def leSetHostFeature : UInt16 := 0x2074
def leCreateConnection : UInt16 := 0x200D
def leSetScanParameters : UInt16 := 0x200B
def leSetScanEnable : UInt16 := 0x200C

variable (central : LeCentral)

def send (pdu : Bytes) : Outgoing := .att central.client.connectionHandle pdu

def raise (event : CentralEvent) : LeCentral := { central with events := central.events ++ [event] }

section Operations

def hits : Target → DiscoveredCharacteristic → Bool
  | .uuid uuid, characteristic => characteristic.uuid = uuid
  | .handle handle, characteristic => characteristic.valueHandle = handle

def resolve (target : Target) : Option DiscoveredCharacteristic :=
  central.client.characteristics.find? (hits target)

/-- `{handle:#06X}`. -/
def upperHex (handle : UInt16) : String :=
  let digits := (Nat.toDigits 16 handle.toNat).map Char.toUpper
  "0x" ++ String.ofList (List.replicate (4 - digits.length) '0' ++ digits)

def fail (target : Target) (operation reason : String) : LeCentral :=
  central.raise (match central.resolve target, target with
    | some characteristic, _ => .operationFailed characteristic.uuid operation reason
    | none, .uuid uuid => .operationFailed uuid operation reason
    | none, .handle handle =>
      .operationFailed (.uuid16 0) operation (reason ++ " (handle " ++ upperHex handle ++ ")"))

def saturatingSucc (handle : UInt16) : UInt16 := if handle = 0xFFFF then 0xFFFF else handle + 1
def saturatingPred (handle : UInt16) : UInt16 := if handle = 0 then 0 else handle - 1

def rangeIn (target : Target) (endHandle : UInt16) :
    List DiscoveredCharacteristic → Option (UInt16 × UInt16)
  | [] => none
  | characteristic :: rest =>
    if hits target characteristic then
      some (saturatingSucc characteristic.valueHandle,
        match rest with
        | next :: _ => saturatingPred next.declarationHandle
        | [] => endHandle)
    else rangeIn target endHandle rest

def descriptorRange (target : Target) : Option (UInt16 × UInt16) :=
  central.client.services.findSome? fun service =>
    rangeIn target service.endHandle service.characteristics

def missing : String := "no such characteristic on this peer"
def operationName (enable : Bool) : String := if enable then "subscribe" else "unsubscribe"

def subscriptionBits (enable : Bool) (properties : UInt8) : UInt16 :=
  if enable = false then 0x0000
  else if properties &&& 0x20 ≠ 0 ∧ properties &&& 0x10 = 0 then 0x0002
  else 0x0001

def writeRequest (opcode : Opcode) (handle : UInt16) (value : Bytes) : Bytes :=
  opcode.byte :: (U16.toLeBytes handle ++ value)

def startSubscribe (target : Target) (enable : Bool) : LeCentral × List Outgoing :=
  match central.resolve target with
  | none => (central.fail target (operationName enable) missing, [])
  | some characteristic =>
    match characteristic.descriptors.find? fun descriptor => descriptor.uuid = .cccd with
    | none =>
      (central.fail target (operationName enable)
        "characteristic has no Client Characteristic Configuration descriptor", [])
    | some cccd =>
      ({ central with inFlight := some (.subscribe target enable, characteristic.valueHandle) },
        [central.send (writeRequest .writeReq cccd.handle
          (U16.toLeBytes (subscriptionBits enable characteristic.properties)))])

/-- `start`. Whether a request went out is whether an operation is in flight. -/
def start (op : Op) : LeCentral × List Outgoing :=
  match op with
  | .read target =>
    match central.resolve target with
    | none => (central.fail target "read" missing, [])
    | some characteristic =>
      ({ central with inFlight := some (op, characteristic.valueHandle) },
        [central.send (Opcode.readReq.byte :: U16.toLeBytes characteristic.valueHandle)])
  | .write target value withResponse =>
    match central.resolve target with
    | none => (central.fail target "write" missing, [])
    | some characteristic =>
      if withResponse then
        ({ central with inFlight := some (op, characteristic.valueHandle) },
          [central.send (writeRequest .writeReq characteristic.valueHandle value)])
      else
        (central.raise (.characteristicWrite characteristic.uuid characteristic.valueHandle 0),
          [central.send (writeRequest .writeCmd characteristic.valueHandle value)])
  | .subscribe target enable => central.startSubscribe target enable
  | .discoverDescriptors target enable =>
    match central.descriptorRange target with
    | none => (central.fail target (operationName enable) missing, [])
    | some (first, last) =>
      if (central.resolve target).any fun characteristic => characteristic.descriptors ≠ [] then
        central.startSubscribe target enable
      else if first > last then
        (central.fail target (operationName enable) "characteristic has no descriptors", [])
      else
        ({ central with inFlight := some (op, first) },
          [central.send (Opcode.findInformationReq.byte ::
            (U16.toLeBytes first ++ U16.toLeBytes last))])

/-- The loop of `pump`, as far as the list of operations goes. -/
def pumpFrom : List Op → LeCentral → LeCentral × List Outgoing
  | [], central => ({ central with pending := [] }, [])
  | op :: rest, central =>
    if central.inFlight.isSome then ({ central with pending := op :: rest }, [])
    else
      let started := central.start op
      let pumped := pumpFrom rest started.1
      (pumped.1, started.2 ++ pumped.2)

def pump : LeCentral × List Outgoing :=
  if central.phase ≠ .ready then (central, []) else pumpFrom central.pending central

end Operations

section Responses

def uuidForHandle (handle : UInt16) : Option Uuid :=
  (central.client.characteristics.find? fun characteristic =>
    characteristic.valueHandle = handle).map DiscoveredCharacteristic.uuid

def uuidOf : Target → Uuid
  | .uuid uuid => uuid
  | .handle handle => (central.uuidForHandle handle).getD (.uuid16 0)

def recordDescriptors (target : Target) (att : Bytes) : LeCentral :=
  match AttPdu.parse att with
  | some (.findInformationRsp format data) =>
    match informationItemLen format with
    | none => central
    | some itemLen =>
      let found : List DiscoveredDescriptor := (dataList 2 itemLen data).filterMap fun item =>
        (Uuid.fromBytes item.2).map fun uuid => ⟨entryHandle item.1, uuid⟩
      { central with
        client := { central.client with
          services := GattClient.modifyFirst (fun service => service.characteristics.any (hits target))
            (fun service => { service with
              characteristics := GattClient.modifyFirst (hits target)
                (fun characteristic => { characteristic with descriptors := found })
                service.characteristics })
            central.client.services } }
  | _ => central

def completeOperation (att : Bytes) (isError : Bool) : LeCentral × List Outgoing :=
  let op := att.head?.getD 0
  match central.inFlight with
  | none => (central, [])
  | some (pending, attributeHandle) =>
    let taken := { central with inFlight := none }
    let status := if isError then (att[4]?).getD 0xFF else 0
    match pending with
    | .read target =>
      let value := if isError = false ∧ op = Opcode.readRsp.byte then att.drop 1 else []
      let kept := if value ≠ [] ∨ isError = false then
        { taken with values := taken.values.insert attributeHandle value } else taken
      (kept.raise (.characteristicRead (taken.uuidOf target) attributeHandle value status), [])
    | .write target _ _ =>
      (taken.raise (.characteristicWrite (taken.uuidOf target) attributeHandle status), [])
    | .subscribe target enable =>
      let marked := if isError then taken
        else if enable then { taken with subscribed := taken.subscribed.insert attributeHandle }
        else { taken with subscribed := taken.subscribed.erase attributeHandle }
      (marked.raise (.subscriptionChanged (taken.uuidOf target) attributeHandle
        (enable && !isError) status), [])
    | .discoverDescriptors target enable =>
      let recorded := if isError = false ∧ op = Opcode.findInformationRsp.byte then
        taken.recordDescriptors target att else taken
      recorded.startSubscribe target enable

def finishDiscovery : LeCentral :=
  { central with phase := .ready }.raise (.servicesDiscovered central.client.services.length)

def discoverCharacteristicsFor (index : Nat) (service : DiscoveredService) :
    LeCentral × List Outgoing :=
  ({ central with phase := .discoveringCharacteristics index },
    [central.send (GattClient.discoverCharacteristicsRequest service.startHandle service.endHandle)])

def startCharacteristicDiscovery : LeCentral × List Outgoing :=
  match central.client.services with
  | [] => (central.finishDiscovery, [])
  | service :: _ => central.discoverCharacteristicsFor 0 service

def nextCharacteristicService (index : Nat) : LeCentral × List Outgoing :=
  match central.client.services[index + 1]? with
  | some service => central.discoverCharacteristicsFor (index + 1) service
  | none => (central.finishDiscovery, [])

def onServices (att : Bytes) : LeCentral × List Outgoing :=
  let found := { central with client := central.client.onDiscoverServicesResponse att }
  let lastEnd := (found.client.services.getLast?.map DiscoveredService.endHandle).getD 0xFFFF
  if lastEnd < 0xFFFF then
    (found, [central.send (GattClient.discoverServicesRequest (lastEnd + 1) 0xFFFF)])
  else found.startCharacteristicDiscovery

/-- `services[i]` is read before the response is taken in and after it. -/
def onCharacteristics (index : Nat) (att : Bytes) : Rust (LeCentral × List Outgoing) := do
  let service ← unwrap central.client.services[index]?
  let found := { central with
    client := central.client.onDiscoverCharacteristicsResponse service.uuid att }
  let service ← unwrap found.client.services[index]?
  let last := (service.characteristics.getLast?.map DiscoveredCharacteristic.valueHandle).getD
    service.startHandle
  if last < service.endHandle then
    pure (found,
      [central.send (GattClient.discoverCharacteristicsRequest (last + 1) service.endHandle)])
  else pure (found.nextCharacteristicService index)

/-- The match on the phase in `dispatch_att`. -/
def advance (op : UInt8) (att : Bytes) : Rust (LeCentral × List Outgoing) :=
  let isError : Bool := op = Opcode.errorRsp.byte
  match central.phase with
  | .exchangingMtu =>
    let client := match AttPdu.parse att with
      | some (.exchangeMtuRsp serverMtu) =>
        central.client.onExchangeMtuResponse serverMtu clientMtu
      | _ => central.client
    .ok ({ central with client, phase := .discoveringServices }.raise (.mtuChanged client.mtu),
      [central.send (GattClient.discoverServicesRequest 0x0001 0xFFFF)])
  | .discoveringServices =>
    if isError then .ok central.startCharacteristicDiscovery
    else if op = Opcode.readByGroupTypeRsp.byte then .ok (central.onServices att)
    else .ok (central, [])
  | .discoveringCharacteristics index =>
    if isError then .ok (central.nextCharacteristicService index)
    else if op = Opcode.readByTypeRsp.byte then central.onCharacteristics index att
    else .ok (central, [])
  | .ready => .ok (central.completeOperation att isError)
  | .idle | .initializing | .scanning | .connecting | .disconnected => .ok (central, [])

def isValue (op : UInt8) (att : Bytes) : Prop :=
  (op = Opcode.handleValueNtf.byte ∨ op = Opcode.handleValueInd.byte) ∧ 3 ≤ att.length

instance (op : UInt8) (att : Bytes) : Decidable (isValue op att) :=
  inferInstanceAs (Decidable (_ ∧ _))

def onValue (op : UInt8) (rest : Bytes) : LeCentral × List Outgoing :=
  let valueHandle := entryHandle rest
  let value := rest.drop 2
  ({ central with values := central.values.insert valueHandle value }.raise
      (.characteristicChanged ((central.uuidForHandle valueHandle).getD (.uuid16 0)) valueHandle
        value),
    if op = Opcode.handleValueInd.byte then [central.send [Opcode.handleValueCfm.byte]] else [])

def dispatchAtt (att : Bytes) : Rust (LeCentral × List Outgoing) :=
  match att with
  | [] => .ok (central, [])
  | op :: rest =>
    if isValue op att then .ok (central.onValue op rest)
    else if isPeerRequest op then
      .ok (central, [central.send (errorRsp op 0x0000 ErrorCode.requestNotSupported)])
    else if op = Opcode.writeCmd.byte ∨ op = signedWriteCmd then .ok (central, [])
    else central.advance op att

end Responses

section Events

def scanCommands : List Outgoing :=
  [.command leSetScanParameters [0x00, 0x10, 0x00, 0x10, 0x00, 0x00, 0x00],
    .command leSetScanEnable [0x01, 0x00]]

def createConnectionParams : Bytes :=
  [0x60, 0x00, 0x60, 0x00, 0x00, central.peerAddressType.getD 0x00] ++ central.target.bytes.toList ++
    [0x01, 0x18, 0x00, 0x28, 0x00, 0x00, 0x00, 0x90, 0x01, 0x00, 0x00, 0x00, 0x00]

def finishInitializing : LeCentral × List Outgoing :=
  match central.peerAddressType with
  | some _ => ({ central with phase := .connecting },
    [.command leCreateConnection central.createConnectionParams])
  | none => ({ central with phase := .scanning }, scanCommands)

/-- The address types and addresses of up to `count` reports. -/
def reports : Nat → Bytes → List (UInt8 × Bytes)
  | 0, _ => []
  | count + 1, _ :: addressType :: fields =>
    match fields.drop 6 with
    | [] => []
    | dataLength :: after =>
      if after.length < dataLength.toNat + 1 then []
      else (addressType, fields.take 6) :: reports count (after.drop (dataLength.toNat + 1))
  | _, _ => []

def advertisingReports : Bytes → List (UInt8 × Bytes)
  | _ :: count :: rest => reports count.toNat rest
  | _ => []

def onReport (parameters : Bytes) : LeCentral × List Outgoing :=
  match (advertisingReports parameters).find? fun (report : UInt8 × Bytes) =>
      report.2 = central.target.bytes.toList with
  | none => (central, [])
  | some report =>
    let known := { central with peerAddressType := some report.1, phase := .connecting }
    (known, [.command leSetScanEnable [0x00, 0x00],
      .command leCreateConnection known.createConnectionParams])

def onOther (code : UInt8) (parameters : Bytes) : LeCentral × List Outgoing :=
  if central.phase = .initializing ∧ code = 0x0F ∧
      (parameters.drop 2).take 2 = U16.toLeBytes leSetHostFeature then central.finishInitializing
  else if central.phase = .scanning ∧ code = 0x3E ∧ parameters.head? = some 0x02 then
    central.onReport parameters
  else (central, [])

def onEvent (packet : Bytes) : LeCentral × List Outgoing :=
  match HciEvent.parse packet with
  | none | some .ignored => (central, [])
  | some (.commandComplete commandOpcode) =>
    if central.phase = .initializing ∧ commandOpcode = leSetHostFeature then
      central.finishInitializing
    else (central, [])
  | some (.other code parameters) => central.onOther code parameters
  | some (.leConnectionComplete status connectionHandle) =>
    if status ≠ 0x00 then
      ({ central with phase := .disconnected }.raise
        (.connectionStateChange central.target false status), [])
    else
      let handle := connectionHandle &&& 0x0FFF
      ({ central with client := .new handle, phase := .exchangingMtu }.raise
          (.connectionStateChange central.target true 0),
        [.att handle (Opcode.exchangeMtuReq.byte :: U16.toLeBytes clientMtu)])
  | some (.disconnectionComplete _ _ reason) =>
    ({ central with
        phase := .disconnected
        client := { central.client with connectionHandle := 0 }
        inFlight := none
        subscribed := [] }.raise (.connectionStateChange central.target false reason), [])

/-- The frame that an ACL packet completes: its connection, channel and payload. -/
def heard (packet : Bytes) : Option (UInt16 × UInt16 × Bytes) × Map UInt16 (Nat × Bytes) :=
  match parseAcl packet with
  | none => (none, central.reassembler)
  | some (handle, isFirst, payload) =>
    let pushed := pushFragment central.reassembler handle isFirst payload
    ((pushed.1.bind L2cap.parse).map fun frame => (handle, frame), pushed.2)

/-- Neither the channel nor the connection of the frame is looked at. -/
def onAcl (packet : Bytes) : Rust (LeCentral × List Outgoing) :=
  let pushed := central.heard packet
  let fed := { central with reassembler := pushed.2 }
  match pushed.1 with
  | none => .ok (fed, [])
  | some (_, _, att) => fed.dispatchAtt att

def handle (packet : Bytes) : Rust (LeCentral × List Outgoing) :=
  match packet with
  | [] => .ok (central, [])
  | h4Type :: rest =>
    if h4Type = 0x04 then .ok (central.onEvent rest)
    else if h4Type = 0x02 then central.onAcl rest
    else .ok (central, [])

def onPacket (packet : Bytes) : Rust (LeCentral × List Outgoing) := do
  let handled ← central.handle packet
  let pumped := handled.1.pump
  pure (pumped.1, handled.2 ++ pumped.2)

end Events

end LeCentral

end Simble.Device
