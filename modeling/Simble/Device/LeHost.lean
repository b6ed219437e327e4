import Simble.Device.Bonds
import Simble.Hci.Events
import Simble.L2cap.Acl

/-! The LE host of `device/host.rs` for one virtual device: which link and which
stream it takes to be up. The packets that it sends back are left out. -/
namespace Simble.Device
open Simble.Gatt Simble.Att Simble.Smp Simble.Crypto Simble.Hci Simble.L2cap

structure LeConnectionComplete where
  status : UInt8
  connectionHandle : UInt16
  peerAddressType : UInt8
  peerAddress : Address

def leConnectionComplete : Hci.HciEvent → Option LeConnectionComplete
  | .lowEnergy subevent (_ :: status :: low :: high :: _ :: peerType :: rest) =>
    if subevent = 0x01 ∨ subevent = 0x0A then
      (addressAt rest 0).map fun peer => ⟨status, U16.fromLeBytes low high, peerType, peer⟩
    else none
  | _ => none

def leCisEstablished : Hci.HciEvent → Option (UInt8 × UInt16)
  | .lowEnergy subevent (_ :: status :: low :: high :: _) =>
    if subevent = 0x19 then some (status, U16.fromLeBytes low high) else none
  | _ => none

structure IsoSdu where
  handle : UInt16
  sequenceNumber : UInt16
  payload : Bytes

def parseIsoLoad (handle : UInt16) : Bytes → Option IsoSdu
  | a :: b :: c :: d :: payload =>
    let length := (U16.fromLeBytes c d &&& 0x0FFF).toNat
    if payload.length < length then none
    else some ⟨handle, U16.fromLeBytes a b, payload.take length⟩
  | _ => none

/-- `parse_iso_packet`. Continuations and last fragments are not taken. -/
def parseIsoPacket : Bytes → Option IsoSdu
  | h4 :: a :: b :: _ :: _ :: rest =>
    let flags := U16.fromLeBytes a b
    let boundary := (flags >>> 12) &&& 0x03
    if h4 ≠ 0x05 ∨ boundary ≠ 0b10 ∧ boundary ≠ 0b00 then none
    else if (flags >>> 14) &&& 0x01 = 1 then
      if rest.length < 4 then none else parseIsoLoad (flags &&& 0x0FFF) (rest.drop 4)
    else parseIsoLoad (flags &&& 0x0FFF) rest
  | _ => none

/-- A host and its device. The last three fields are the device's. -/
structure LeStation (curve : P256) (H S : Type) where
  reassembler : AclReassembler
  connection : Option (UInt16 × Address)
  cisHandle : Option UInt16
  device : VirtualDevice curve H S
  isAdvertising : Bool
  audioRx : List Bytes
  deviceCisHandle : Option UInt16

structure H4Input (curve : P256) where
  packet : Bytes
  made : Made curve
  draws : Draws

def maxQueuedSdus : Nat := 256

/-- `on_iso_sdu`: the oldest SDU gives way where the inbox is full. -/
def enqueueSdu (inbox : List Bytes) (payload : Bytes) : List Bytes :=
  (if inbox.length ≥ maxQueuedSdus then inbox.tail else inbox) ++ [payload]

namespace VirtualDevice
variable {curve : P256} {H S : Type} (env : Env H S) (device : VirtualDevice curve H S)

/-- The PDUs that a connection's session has still to send. -/
def pendingSmp (handle : UInt16) : Nat :=
  (((device.connections.lookup handle).bind ConnectionState.pairingSession).map
    fun session => session.pending.length).getD 0

/-- `drain_smp`: one call of `poll_smp_pdu` for each PDU that is queued. -/
def drainSmp (handle : UInt16) : VirtualDevice curve H S :=
  (fun device => (device.pollSmpPdu env handle).1)^[device.pendingSmp handle] device

end VirtualDevice

namespace LeStation
variable {curve : P256} {H S : Type} (env : Env H S) (station : LeStation curve H S)

def handleConnected (event : LeConnectionComplete) : LeStation curve H S :=
  let handle := event.connectionHandle &&& 0x0FFF
  let peerType := if event.peerAddressType = 0x01 ∨ event.peerAddressType = 0x03 then
    AddressType.randomDevice else AddressType.publicDevice
  { station with
    device := (station.device.onConnectedWithRole env handle event.peerAddress
      .peripheral).setPeerAddressType handle peerType
    isAdvertising := false
    connection := some (handle, event.peerAddress) }

/-- The status of a Disconnection Complete is not looked at, nor what kind of
handle it is for. -/
def handleDisconnected (complete : DisconnectionComplete) : LeStation curve H S :=
  let handle := complete.connectionHandle &&& 0x0FFF
  { station with
    device := station.device.onDisconnected handle
    reassembler := station.reassembler.onDisconnected handle
    connection := none }

def handleEvent (event : Hci.HciEvent) : LeStation curve H S :=
  match event with
  | .encryptionChange change =>
    let handle := change.connectionHandle &&& 0x0FFF
    if change.status = 0x00 then
      { station with
        device := (station.device.onEncryptionChanged env handle
          (change.encryptionEnabled != 0)).1.drainSmp env handle }
    else station
  | .disconnectionComplete complete => station.handleDisconnected complete
  | other =>
    match leConnectionComplete other with
    | some complete => if complete.status = 0x00 then station.handleConnected env complete else station
    | none =>
      match leCisEstablished other with
      | some (status, handle) =>
        if status = 0x00 then
          { station with cisHandle := some handle, deviceCisHandle := some handle }
        else station
      | none => station

/-- A frame that the reassembler has put together. An `Err` leaves the device as it is. -/
def handleFrame (handle : UInt16) (input : H4Input curve) (frame : Bytes) :
    Rust (LeStation curve H S) :=
  match station.device.processL2capPacket env handle input.made input.draws frame with
  | .ok processed => .ok { station with device := processed.1.drainSmp env handle }
  | .error (.err _) => .ok station
  | .error stop => .error stop

def handleAcl (input : H4Input curve) : Rust (LeStation curve H S) :=
  match readAcl input.packet with
  | none => .ok station
  | some (header, payload) =>
    let pushed := station.reassembler.pushFragment header.handle header.isFirstFragment payload
    let kept := { station with reassembler := pushed.1 }
    match pushed.2 with
    | .ok (some frame) => kept.handleFrame env header.handle input frame
    | _ => .ok kept

def handleIso (packet : Bytes) : LeStation curve H S :=
  match parseIsoPacket packet with
  | none => station
  | some sdu => { station with audioRx := enqueueSdu station.audioRx sdu.payload }

def handlePacket (input : H4Input curve) : Rust (LeStation curve H S) :=
  match input.packet.head? with
  | some 0x04 =>
    match Hci.HciEvent.parseH4 input.packet with
    | none => .ok station
    | some event => .ok (station.handleEvent env event)
  | some 0x02 => station.handleAcl env input
  | some 0x05 => .ok (station.handleIso input.packet)
  | _ => .ok station

end LeStation
end Simble.Device
