import Simble.Octets

/-! The event packets of the simulated medium (`controller/sim.rs`), and what makes one well
formed: its parameter length is the number of octets that follow, and so are the counts and
lengths inside it. -/
namespace Simble.Medium

/-- `event_packet`: the length is cast with `as u8`. -/
def eventPacket (code : UInt8) (body : Bytes) : Bytes :=
  [0x04, code, UInt8.ofNat body.length] ++ body

inductive Returned where
  | status (status : UInt8)
  | octet (status value : UInt8)
  | address (status : UInt8) (address : Address)
  | handle (status : UInt8) (handle : UInt16)
  | rssi (status : UInt8) (handle : UInt16) (rssi : UInt8)
  | classOfDevice (status : UInt8) (classOfDevice : Octets 3)
  | localName (status : UInt8) (name : Octets 248)
deriving DecidableEq

def Returned.bytes : Returned → Bytes
  | .status error => [error]
  | .octet error value => [error, value]
  | .address error peer => error :: peer.bytes.toList
  | .handle error connection => error :: U16.toLeBytes connection
  | .rssi error connection power => error :: U16.toLeBytes connection ++ [power]
  | .classOfDevice error device => error :: device.toList
  | .localName error name => error :: name.toList

/-- `pbr_step`: the channel of a tone and its phase correction term. -/
structure PbrStep where
  channel : UInt8
  pct : Octets 3
deriving DecidableEq

def PbrStep.bytes (step : PbrStep) : Bytes :=
  -- A permutation index, then the tone on one antenna path and in the extension slot.
  let data := 0x00 :: (step.pct.toList ++ [0x00] ++ (step.pct.toList ++ [0x00]))
  [2, step.channel, UInt8.ofNat data.length] ++ data

def tonesPerSubevent : Nat := 19

/-- The events whose size no list of the medium's state decides. -/
inductive FixedEvent where
  | commandComplete (opcode : UInt16) (returned : Returned)
  | commandStatus (status : UInt8) (opcode : UInt16)
  | inquiryComplete (status : UInt8)
  | connectionRequest (initiator : Address) (classOfDevice : Octets 3) (linkType : UInt8)
  | synchronousConnectionComplete (status : UInt8) (handle : UInt16) (peer : Address)
      (linkType airMode : UInt8)
  | connectionComplete (status : UInt8) (handle : UInt16) (peer : Address)
  | remoteNameRequestComplete (status : UInt8) (peer : Address) (name : Octets 248)
  | linkKeyRequest (peer : Address)
  | linkKeyNotification (peer : Address) (key : Octets 16) (keyType : UInt8)
  | ioCapabilityRequest (peer : Address)
  | ioCapabilityResponse (peer : Address) (io oob auth : UInt8)
  | userConfirmationRequest (peer : Address) (numericValue : Octets 4)
  | userPasskeyRequest (peer : Address)
  | userPasskeyNotification (peer : Address) (passkey : Octets 4)
  | simplePairingComplete (status : UInt8) (peer : Address)
  | authenticationComplete (status : UInt8) (handle : UInt16)
  | encryptionChange (status : UInt8) (handle : UInt16) (enabled : UInt8)
  | changeConnectionLinkKeyComplete (status : UInt8) (handle : UInt16)
  | disconnectionComplete (handle : UInt16) (reason : UInt8)
  | leLongTermKeyRequest (handle : UInt16) (rand : Octets 8) (ediv : UInt16)
  | leConnectionComplete (handle : UInt16) (role : UInt8) (peer : Address)
  | leConnectionUpdateComplete (handle interval latency timeout : UInt16)
  | lePhyUpdateComplete (handle : UInt16) (txPhy rxPhy : UInt8)
  | leCisRequest (aclHandle cisHandle : UInt16)
  | leCisEstablished (status : UInt8) (cisHandle : UInt16)
  | leCsSecurityEnableComplete (handle : UInt16)
  | leCsConfigComplete (handle : UInt16) (configId role action : UInt8) (channelMap : Octets 10)
  | leCsProcedureEnableComplete (status : UInt8) (handle : UInt16) (configId state txPower : UInt8)
  | leCsSubeventResult (handle : UInt16) (configId : UInt8) (procedureCounter : UInt16)
      (referencePowerLevel : UInt8) (steps : List.Vector PbrStep tonesPerSubevent)
  | lePeriodicSyncEstablished (syncHandle : UInt16) (sid : UInt8) (address : Address)
  | leBigInfoReport (syncHandle : UInt16) (numBis : UInt8) (maxSdu : UInt16) (sduInterval : Octets 3)
      (phy framing encryption : UInt8)
  | leTerminateBigComplete (bigHandle reason : UInt8)
  | leBigSyncLost (bigHandle reason : UInt8)

inductive Event where
  | fixed (event : FixedEvent)
  | inquiryResult (devices : List (Address × Octets 3))
  | leAdvertisingReport (eventType addrType : UInt8) (address : Address) (data : Bytes) (rssi : UInt8)
  | leExtendedAdvertisingReport (address : Address) (sid : UInt8) (data : Bytes) (rssi : UInt8)
  | lePeriodicAdvertisingReport (syncHandle : UInt16) (data : Bytes)
  | leCreateBigComplete (status bigHandle : UInt8) (handles : List UInt16)
  | leBigSyncEstablished (status bigHandle : UInt8) (handles : List UInt16)

def leMeta : UInt8 := 0x3E

def FixedEvent.code : FixedEvent → UInt8
  | .commandComplete _ _ => 0x0E
  | .commandStatus _ _ => 0x0F
  | .inquiryComplete _ => 0x01
  | .connectionRequest _ _ _ => 0x04
  | .synchronousConnectionComplete _ _ _ _ _ => 0x2C
  | .connectionComplete _ _ _ => 0x03
  | .remoteNameRequestComplete _ _ _ => 0x07
  | .linkKeyRequest _ => 0x17
  | .linkKeyNotification _ _ _ => 0x18
  | .ioCapabilityRequest _ => 0x31
  | .ioCapabilityResponse _ _ _ _ => 0x32
  | .userConfirmationRequest _ _ => 0x33
  | .userPasskeyRequest _ => 0x34
  | .userPasskeyNotification _ _ => 0x3B
  | .simplePairingComplete _ _ => 0x36
  | .authenticationComplete _ _ => 0x06
  | .encryptionChange _ _ _ => 0x08
  | .changeConnectionLinkKeyComplete _ _ => 0x09
  | .disconnectionComplete _ _ => 0x05
  | _ => leMeta

def delay : Bytes := [0x40, 0x9C, 0x00]

def FixedEvent.body : FixedEvent → Bytes
  | .commandComplete opcode returned => 1 :: U16.toLeBytes opcode ++ returned.bytes
  | .commandStatus status opcode => status :: 1 :: U16.toLeBytes opcode
  | .inquiryComplete status => [status]
  | .connectionRequest initiator classOfDevice linkType =>
    initiator.bytes.toList ++ classOfDevice.toList ++ [linkType]
  | .synchronousConnectionComplete status handle peer linkType airMode =>
    status :: U16.toLeBytes handle ++ peer.bytes.toList ++ [linkType, 0x00, 0x00] ++
      U16.toLeBytes 60 ++ U16.toLeBytes 60 ++ [airMode]
  | .connectionComplete status handle peer =>
    status :: U16.toLeBytes handle ++ peer.bytes.toList ++ [0x01, 0x00]
  | .remoteNameRequestComplete status peer name => status :: peer.bytes.toList ++ name.toList
  | .linkKeyRequest peer => peer.bytes.toList
  | .linkKeyNotification peer key keyType => peer.bytes.toList ++ key.toList ++ [keyType]
  | .ioCapabilityRequest peer => peer.bytes.toList
  | .ioCapabilityResponse peer io oob auth => peer.bytes.toList ++ [io, oob, auth]
  | .userConfirmationRequest peer numericValue => peer.bytes.toList ++ numericValue.toList
  | .userPasskeyRequest peer => peer.bytes.toList
  | .userPasskeyNotification peer passkey => peer.bytes.toList ++ passkey.toList
  | .simplePairingComplete status peer => status :: peer.bytes.toList
  | .authenticationComplete status handle => status :: U16.toLeBytes handle
  | .encryptionChange status handle enabled => status :: U16.toLeBytes handle ++ [enabled]
  | .changeConnectionLinkKeyComplete status handle => status :: U16.toLeBytes handle
  | .disconnectionComplete handle reason => 0x00 :: U16.toLeBytes handle ++ [reason]
  | .leLongTermKeyRequest handle rand ediv =>
    0x05 :: U16.toLeBytes handle ++ rand.toList ++ U16.toLeBytes ediv
  | .leConnectionComplete handle role peer =>
    0x01 :: 0x00 :: U16.toLeBytes handle ++ [role, 0x00] ++ peer.bytes.toList ++
      U16.toLeBytes 0x0018 ++ U16.toLeBytes 0 ++ U16.toLeBytes 0x002A ++ [0x00]
  | .leConnectionUpdateComplete handle interval latency timeout =>
    0x03 :: 0x00 :: U16.toLeBytes handle ++ U16.toLeBytes interval ++ U16.toLeBytes latency ++
      U16.toLeBytes timeout
  | .lePhyUpdateComplete handle txPhy rxPhy => 0x0C :: 0x00 :: U16.toLeBytes handle ++ [txPhy, rxPhy]
  | .leCisRequest aclHandle cisHandle =>
    0x1A :: U16.toLeBytes aclHandle ++ U16.toLeBytes cisHandle ++ [0x00, 0x00]
  | .leCisEstablished status cisHandle =>
    0x19 :: status :: U16.toLeBytes cisHandle ++ delay ++ delay ++ delay ++ delay ++
      [0x02, 0x02, 1, 1, 1, 1, 1] ++ U16.toLeBytes 100 ++ U16.toLeBytes 100 ++ U16.toLeBytes 8
  | .leCsSecurityEnableComplete handle => 0x2E :: 0x00 :: U16.toLeBytes handle
  | .leCsConfigComplete handle configId role action channelMap =>
    0x2F :: 0x00 :: U16.toLeBytes handle ++
      [configId, action, 2, 0xFF, UInt8.ofNat tonesPerSubevent, UInt8.ofNat tonesPerSubevent, 0, 0,
        role, 0x00, 0x01] ++ channelMap.toList ++ [1, 0x00, 0x00, 0x00, 0x00]
  | .leCsProcedureEnableComplete status handle configId state txPower =>
    0x30 :: status :: U16.toLeBytes handle ++ [configId, state, 0x00, txPower, 0x40, 0x0D, 0x00, 1] ++
      U16.toLeBytes 0 ++ U16.toLeBytes 1 ++ U16.toLeBytes 1 ++ U16.toLeBytes 0 ++ U16.toLeBytes 0x0040
  | .leCsSubeventResult handle configId procedureCounter referencePowerLevel steps =>
    0x31 :: U16.toLeBytes handle ++ [configId] ++ U16.toLeBytes procedureCounter ++
      U16.toLeBytes procedureCounter ++ U16.toLeBytes 0xFFFF ++
      [referencePowerLevel, 0x00, 0x00, 0x00, 0x00, 1, UInt8.ofNat steps.toList.length] ++
      steps.toList.flatMap PbrStep.bytes
  | .lePeriodicSyncEstablished syncHandle sid address =>
    0x0E :: 0x00 :: U16.toLeBytes syncHandle ++ [sid, 0x00] ++ address.bytes.toList ++ [0x02] ++
      U16.toLeBytes 0 ++ [0x00]
  | .leBigInfoReport syncHandle numBis maxSdu sduInterval phy framing encryption =>
    0x22 :: U16.toLeBytes syncHandle ++ [numBis, 3] ++ U16.toLeBytes 8 ++ [1, 0, 2] ++
      U16.toLeBytes maxSdu ++ sduInterval.toList ++ U16.toLeBytes maxSdu ++ [phy, framing, encryption]
  | .leTerminateBigComplete bigHandle reason => [0x1C, bigHandle, reason]
  | .leBigSyncLost bigHandle reason => [0x1E, bigHandle, reason]

namespace Event

def code : Event → UInt8
  | .fixed event => event.code
  | .inquiryResult _ => 0x02
  | _ => leMeta

def body : Event → Bytes
  | .fixed event => event.body
  | .inquiryResult devices =>
    UInt8.ofNat devices.length :: devices.flatMap fun device =>
      device.1.bytes.toList ++ [0x01, 0x00, 0x00] ++ device.2.toList ++ [0x00, 0x00]
  | .leAdvertisingReport eventType addrType address data rssi =>
    0x02 :: 1 :: eventType :: addrType :: address.bytes.toList ++ [UInt8.ofNat data.length] ++ data ++
      [rssi]
  | .leExtendedAdvertisingReport address sid data rssi =>
    -- The number of reports, then the only one.
    0x0D :: 1 :: U16.toLeBytes 0 ++ [0x00] ++ address.bytes.toList ++ [0x01, 0x02, sid, 0x7F, rssi] ++
      U16.toLeBytes 0 ++ [0x00] ++ List.replicate 6 0 ++ [UInt8.ofNat data.length] ++ data
  | .lePeriodicAdvertisingReport syncHandle data =>
    0x0F :: U16.toLeBytes syncHandle ++ [0x7F, 0x7F, 0xFF, 0x00, UInt8.ofNat data.length] ++ data
  | .leCreateBigComplete status bigHandle handles =>
    [0x1B, status, bigHandle, 0xA0, 0x86, 0x01, 0xF8, 0x24, 0x01, 0x02, 3, 1, 0, 2] ++
      U16.toLeBytes 100 ++ U16.toLeBytes 8 ++ [UInt8.ofNat handles.length] ++
      handles.flatMap U16.toLeBytes
  | .leBigSyncEstablished status bigHandle handles =>
    [0x1D, status, bigHandle, 0xF8, 0x24, 0x01, 3, 1, 0, 2] ++ U16.toLeBytes 100 ++ U16.toLeBytes 8 ++
      [UInt8.ofNat handles.length] ++ handles.flatMap U16.toLeBytes

def packet (event : Event) : Bytes := eventPacket event.code event.body

end Event

/-! ## Well-formed packets -/

def octet (bytes : Bytes) (i : Nat) : Nat := (bytes.getD i 0).toNat

/-- The counts and lengths inside an event's parameters are those of what follows: the responses
of an Inquiry Result, the data of the three advertising reports, the handles of LE Create BIG
Complete and LE BIG Sync Established, the steps of a subevent result. -/
def InnerCounts (code : UInt8) (body : Bytes) : Prop :=
  if code = 0x02 then body.length = 1 + 14 * octet body 0
  else if code ≠ leMeta then True
  else match body.head? with
  | some 0x02 => octet body 1 = 1 ∧ body.length = 11 + octet body 10 + 1
  | some 0x0D => octet body 1 = 1 ∧ body.length = 26 + octet body 25
  | some 0x0F => body.length = 8 + octet body 7
  | some 0x1B => body.length = 19 + 2 * octet body 18
  | some 0x1D => body.length = 15 + 2 * octet body 14
  | some 0x31 => body.length = 17 + 12 * octet body 16
  | _ => True

/-- An H4 event packet whose counts and lengths are right, the parameter length first. -/
def WellFormed (packet : Bytes) : Prop :=
  ∃ code length body, packet = 0x04 :: code :: length :: body ∧ length.toNat = body.length ∧
    InnerCounts code body

end Simble.Medium
