import Mathlib.Data.PNat.Basic
import Simble.Hci.Events
import Simble.L2cap.Acl
import Simble.L2cap.Classic

/-! The BR/EDR host (`device/classic_host.rs`): events, inbound ACL data, L2CAP signaling and the
polling of protocol handlers. Inquiry results are left out; nothing else reads them. -/
namespace Simble.Device
open L2cap Hci

structure HandlerChannel where
  psm : UInt16
  cid : UInt16
  peerMtu : UInt16
deriving DecidableEq, Repr

/-- The methods of `ProtocolHandler` that the host calls. -/
class ProtocolHandler (H : Type) where
  onChannelOpen : H → HandlerChannel → H
  onChannelLost : H → UInt16 → H
  onChannelData : H → HandlerChannel → Bytes → H × List Bytes
  pollChannelOutput : H → HandlerChannel → H × List Bytes
  pollChannelRequests : H → H × List UInt16
  onChannelClosed : H → H

structure Handler (H : Type) where
  psms : List UInt16
  state : H
deriving DecidableEq

structure ScoConnection where
  handle : UInt16
  linkType : UInt8
  airMode : UInt8
deriving DecidableEq, Repr

inductive ScoPolicy where
  | accept
  | reject (reason : UInt8)
deriving DecidableEq, Repr

structure LinkKey where
  value : Octets 16
  keyType : UInt8
deriving DecidableEq

structure LinkSecurity where
  authenticated : Bool := false
  encrypted : Bool := false
  pairingStatus : Option UInt8 := none
  peerIoCapability : Option UInt8 := none
  numericValue : Option UInt32 := none
deriving DecidableEq, Repr

structure ClassicHost (H : Type) where
  channels : ClassicChannelManager
  handlers : List (Handler H)
  connection : Option (UInt16 × Address)
  connectionFailure : Option UInt8
  nextIdentifier : UInt8
  localCids : List UInt16
  sco : Option ScoConnection
  scoPolicy : ScoPolicy
  scoVoiceSetting : UInt16
  scoPacketType : UInt16
  scoReceived : List Bytes
  scoFailure : Option UInt8
  linkKeys : List (Address × LinkKey)
  ioCapability : UInt8
  authenticationRequirements : UInt8
  acceptPairing : Bool
  passkey : Option UInt32
  security : LinkSecurity
  announcedCids : List UInt16
  aclReassembler : AclReassembler
  /-- `HC_ACL_Data_Packet_Length`. -/
  aclMtu : ℕ+
  /-- `HC_Total_Num_ACL_Data_Packets`. -/
  aclCreditsTotal : Nat
  aclInFlight : Nat
  pendingAcl : List Bytes
  localAddress : Option Address

/-! ## Packets -/

def command (opcode : Bytes) (params : Bytes) : Bytes :=
  H4Type.hciCommand :: (opcode ++ UInt8.ofNat params.length :: params)

def aclPacket (handle : UInt16) (l2cap : Bytes) : Bytes :=
  aclFragment handle .firstNonFlushable l2cap

/-- The `while` loop of `acl_packets`. -/
def aclFragments (handle : UInt16) (boundary : AclPacketBoundary) (rest : Bytes) (mtu : ℕ+) :
    List Bytes :=
  if rest = [] then [] else
    aclFragment handle boundary (rest.take (min rest.length mtu)) ::
      aclFragments handle .continuing (rest.drop (min rest.length mtu)) mtu
termination_by rest.length
decreasing_by
  have := mtu.pos
  have := List.length_pos_iff.mpr ‹_›
  simp only [List.length_drop]
  omega

def aclPackets (handle : UInt16) (l2cap : Bytes) (mtu : ℕ+) : List Bytes :=
  if l2cap.length ≤ mtu then [aclPacket handle l2cap]
  else aclFragments handle .firstNonFlushable l2cap mtu

def signalingPdu (code identifier : UInt8) (payload : Bytes) : Bytes :=
  serialize brSignaling
    (L2capSignalingHeader.asBytes ⟨code, identifier, UInt16.ofNat payload.length⟩ ++ payload)

def defaultL2capMtu : UInt16 := 672

namespace Opcode
def writeScanEnable : Bytes := [0x1A, 0x0C]
def acceptConnectionRequest : Bytes := [0x09, 0x04]
def readBufferSize : UInt16 := 0x1005
def readBdAddr : UInt16 := 0x1009
def linkKeyRequestReply : Bytes := [0x0B, 0x04]
def linkKeyRequestNegativeReply : Bytes := [0x0C, 0x04]
def ioCapabilityRequestReply : Bytes := [0x2B, 0x04]
def userConfirmationRequestReply : Bytes := [0x2C, 0x04]
def userConfirmationRequestNegativeReply : Bytes := [0x2D, 0x04]
def userPasskeyRequestReply : Bytes := [0x2E, 0x04]
def userPasskeyRequestNegativeReply : Bytes := [0x2F, 0x04]
def acceptSynchronousConnectionRequest : Bytes := [0x29, 0x04]
def rejectSynchronousConnectionRequest : Bytes := [0x2A, 0x04]
end Opcode

namespace SecurityEvent
def authenticationComplete : UInt8 := 0x06
def numberOfCompletedPackets : UInt8 := 0x13
def linkKeyRequest : UInt8 := 0x17
def linkKeyNotification : UInt8 := 0x18
def ioCapabilityRequest : UInt8 := 0x31
def ioCapabilityResponse : UInt8 := 0x32
def userConfirmationRequest : UInt8 := 0x33
def userPasskeyRequest : UInt8 := 0x34
def simplePairingComplete : UInt8 := 0x36
def userPasskeyNotification : UInt8 := 0x3B
end SecurityEvent

/-- `u32::to_le_bytes`. -/
def u32ToLeBytes (value : UInt32) : Bytes :=
  [value.toUInt8, (value >>> 8).toUInt8, (value >>> 16).toUInt8, (value >>> 24).toUInt8]

/-- `parameters.get(6..10)` as a little-endian number. -/
def numericValueAt (parameters : Bytes) : Option UInt32 :=
  match parameters.drop 6 with
  | a :: b :: c :: d :: _ => some (a.toUInt32 ||| (b.toUInt32 <<< 8) ||| (c.toUInt32 <<< 16) |||
      (d.toUInt32 <<< 24))
  | _ => none

def completedPackets : Nat → Bytes → Nat
  | pairs + 1, _ :: _ :: low :: high :: rest =>
    (U16.fromLeBytes low high).toNat + completedPackets pairs rest
  | _, _ => 0

def handlerFor {H α : Type} (psm : UInt16) (method : H → H × α) :
    List (Handler H) → List (Handler H) × Option α
  | [] => ([], none)
  | handler :: rest =>
    if psm ∈ handler.psms then
      ({ handler with state := (method handler.state).1 } :: rest, some (method handler.state).2)
    else
      let (others, result) := handlerFor psm method rest
      (handler :: others, result)

open SecurityEvent

namespace ClassicHost
variable {H : Type}

def usizeMax : Nat := 2 ^ 64 - 1

def new : ClassicHost H where
  channels := .new
  handlers := []
  connection := none
  connectionFailure := none
  nextIdentifier := 1
  localCids := []
  sco := none
  scoPolicy := .accept
  scoVoiceSetting := 0x0060
  scoPacketType := 0x0007
  scoReceived := []
  scoFailure := none
  linkKeys := []
  ioCapability := 0x01
  authenticationRequirements := 0x04
  acceptPairing := true
  passkey := none
  security := {}
  announcedCids := []
  aclReassembler := .new
  aclMtu := ⟨usizeMax, by decide⟩
  aclCreditsTotal := usizeMax
  aclInFlight := 0
  pendingAcl := []
  localAddress := none

/-- The loop of `register_handler`: all the PSMs or none. -/
def registerServers (done : List UInt16) :
    List UInt16 → ClassicChannelManager → ClassicChannelManager × Except SimbleError Unit
  | [], channels => (channels, .ok ())
  | psm :: rest, channels =>
    match channels.registerServer psm with
    | (channels, .error error) => (done.foldl (·.unregisterServer ·) channels, .error error)
    | (channels, .ok ()) => registerServers (done ++ [psm]) rest channels

def registerHandler (host : ClassicHost H) (handler : Handler H) :
    ClassicHost H × Except SimbleError Unit :=
  match registerServers [] handler.psms host.channels with
  | (channels, .error error) => ({ host with channels }, .error error)
  | (channels, .ok ()) => ({ host with channels, handlers := host.handlers ++ [handler] }, .ok ())

variable (host : ClassicHost H)

def linkKey (peer : Address) : Option LinkKey :=
  (host.linkKeys.find? fun entry => entry.1 = peer).map Prod.snd

def insertLinkKey (peer : Address) (key : LinkKey) : ClassicHost H :=
  let rec insert : List (Address × LinkKey) → List (Address × LinkKey)
    | [] => [(peer, key)]
    | entry :: rest => if entry.1 = peer then (entry.1, key) :: rest else entry :: insert rest
  { host with linkKeys := insert host.linkKeys }

def takeIdentifier : ClassicHost H × UInt8 :=
  ({ host with nextIdentifier := max (host.nextIdentifier + 1) 1 }, host.nextIdentifier)

/-! ## Events -/

def answerSynchronousRequest (bdAddr : Address) : List Bytes :=
  match host.scoPolicy with
  | .accept => [command Opcode.acceptSynchronousConnectionRequest
      (bdAddr.bytes.toList ++ u32ToLeBytes 8000 ++ u32ToLeBytes 8000 ++ U16.toLeBytes 0xFFFF ++
        U16.toLeBytes host.scoVoiceSetting ++ [0xFF] ++ U16.toLeBytes host.scoPacketType)]
  | .reject reason =>
    [command Opcode.rejectSynchronousConnectionRequest (bdAddr.bytes.toList ++ [reason])]

def handleSco (packet : Bytes) : ClassicHost H :=
  match host.sco, packet with
  | some sco, _ :: low :: high :: length :: payload =>
    if U16.fromLeBytes low high &&& 0x0FFF ≠ sco.handle then host else
    if payload.length < length.toNat then host
    else { host with scoReceived := host.scoReceived ++ [payload.take length.toNat] }
  | _, _ => host

/-- `none` for an event that is no question or news about security. -/
def handleSecurityEvent (code : UInt8) (parameters : Bytes) :
    Option (ClassicHost H × List Bytes) :=
  if code = SecurityEvent.linkKeyRequest then do
    let peer ← addressAt parameters 0
    match host.linkKey peer with
    | some key => return (host, [command Opcode.linkKeyRequestReply
        (peer.bytes.toList ++ key.value.toList)])
    | none => return (host, [command Opcode.linkKeyRequestNegativeReply peer.bytes.toList])
  else if code = SecurityEvent.linkKeyNotification then do
    let peer ← addressAt parameters 0
    let value ← Octets.tryFrom 16 (← getRange parameters 6 22)
    let keyType ← parameters[22]?
    return (host.insertLinkKey peer ⟨value, keyType⟩, [])
  else if code = SecurityEvent.ioCapabilityRequest then do
    let peer ← addressAt parameters 0
    return (host, [command Opcode.ioCapabilityRequestReply (peer.bytes.toList ++
      [host.ioCapability, 0x00, host.authenticationRequirements])])
  else if code = SecurityEvent.ioCapabilityResponse then
    some ({ host with security := { host.security with peerIoCapability := parameters[6]? } }, [])
  else if code = SecurityEvent.userConfirmationRequest then do
    let peer ← addressAt parameters 0
    let opcode := if host.acceptPairing then Opcode.userConfirmationRequestReply
      else Opcode.userConfirmationRequestNegativeReply
    return ({ host with security :=
        { host.security with numericValue := numericValueAt parameters } },
      [command opcode peer.bytes.toList])
  else if code = SecurityEvent.userPasskeyRequest then do
    let peer ← addressAt parameters 0
    match host.passkey.filter fun _ => host.acceptPairing with
    | some passkey => return (host, [command Opcode.userPasskeyRequestReply
        (peer.bytes.toList ++ u32ToLeBytes passkey)])
    | none => return (host, [command Opcode.userPasskeyRequestNegativeReply peer.bytes.toList])
  else if code = SecurityEvent.userPasskeyNotification then
    some ({ host with security :=
      { host.security with numericValue := numericValueAt parameters } }, [])
  else if code = SecurityEvent.simplePairingComplete then
    let security := { host.security with pairingStatus := parameters.head? }
    some ({ host with security :=
      if parameters.head? = some 0x00 then { security with authenticated := true }
      else security }, [])
  else if code = SecurityEvent.authenticationComplete then
    some ({ host with security :=
      { host.security with authenticated := parameters.head? = some 0x00 } }, [])
  else none

def readBufferSize (returnParameters : Bytes) : ClassicHost H :=
  match returnParameters with
  | status :: a :: b :: _ :: c :: d :: _ :: _ :: _ =>
    if status ≠ 0x00 then host else
    let aclLen := (U16.fromLeBytes a b).toNat
    let aclNum := (U16.fromLeBytes c d).toNat
    { host with
      aclMtu := if positive : 0 < aclLen then ⟨aclLen, positive⟩ else host.aclMtu
      aclCreditsTotal := if aclNum > 0 then aclNum else host.aclCreditsTotal }
  | _ => host

def readBdAddr (returnParameters : Bytes) : ClassicHost H :=
  match returnParameters.head?, addressAt returnParameters 1 with
  | some status, some address =>
    if status = 0x00 then { host with localAddress := some address } else host
  | _, _ => host

variable [ProtocolHandler H]
open ProtocolHandler

def loseChannel (channels : ClassicChannelManager) (handlers : List (Handler H)) (cid : UInt16) :
    ClassicChannelManager × List (Handler H) :=
  match channels.removeChannel cid with
  | (channels, some channel) =>
    (channels, (handlerFor channel.psm (fun state => (onChannelLost state cid, ())) handlers).1)
  | (channels, none) => (channels, handlers)

def loseChannels : List UInt16 → ClassicChannelManager → List (Handler H) →
    ClassicChannelManager × List (Handler H)
  | [], channels, handlers => (channels, handlers)
  | cid :: rest, channels, handlers =>
    loseChannels rest (loseChannel channels handlers cid).1 (loseChannel channels handlers cid).2

def onLinkEnded (handle : UInt16) : ClassicHost H :=
  let (channels, handlers) := loseChannels host.localCids host.channels host.handlers
  { host with
    channels
    handlers := handlers.map fun handler =>
      { handler with state := onChannelClosed handler.state }
    connection := none
    sco := none
    scoReceived := []
    security := {}
    aclReassembler := host.aclReassembler.onDisconnected handle
    announcedCids := []
    localCids := [] }

def onEvent : HciEvent → ClassicHost H × List Bytes
  | .connectionRequest request =>
    if request.linkType ≠ 0x01 then (host, host.answerSynchronousRequest request.bdAddr)
    else (host, [command Opcode.acceptConnectionRequest (request.bdAddr.bytes.toList ++ [0x01])])
  | .synchronousConnectionComplete complete =>
    if complete.status = 0x00 then
      ({ host with
        sco := some ⟨complete.connectionHandle, complete.linkType, complete.airMode⟩
        scoFailure := none }, [])
    else ({ host with scoFailure := some complete.status }, [])
  | .connectionComplete complete =>
    if complete.status ≠ 0x00 then ({ host with connectionFailure := some complete.status }, [])
    else
      ({ host with
        connection := some (complete.connectionHandle, complete.bdAddr)
        security := {}
        aclReassembler := host.aclReassembler.onDisconnected complete.connectionHandle }, [])
  | .commandComplete header returnParameters =>
    if header.commandOpcode = Opcode.readBufferSize then
      (host.readBufferSize returnParameters, [])
    else if header.commandOpcode = Opcode.readBdAddr then (host.readBdAddr returnParameters, [])
    else (host, [])
  | .encryptionChange change =>
    if change.status = 0x00 then
      ({ host with security :=
        { host.security with encrypted := change.encryptionEnabled ≠ 0x00 } }, [])
    else (host, [])
  | .disconnectionComplete complete =>
    if host.sco.map ScoConnection.handle = some complete.connectionHandle then
      ({ host with sco := none, scoReceived := [] }, [])
    else (host.onLinkEnded complete.connectionHandle, [command Opcode.writeScanEnable [0x03]])
  | .lowEnergy _ _ => (host, [])
  | .other code parameters =>
    if code = SecurityEvent.numberOfCompletedPackets then
      let released := match parameters with
        | [] => 0
        | count :: rest => completedPackets count.toNat rest
      ({ host with aclInFlight := host.aclInFlight - released }, [])
    else (host.handleSecurityEvent code parameters).getD (host, [])

def handleEvent (packet : Bytes) : ClassicHost H × List Bytes :=
  match HciEvent.parseH4 packet with
  | none => (host, [])
  | some event => host.onEvent event

/-! ## Signaling -/

def configure (cid : UInt16) : ClassicHost H × List Bytes :=
  match host.channels.makeConfigurationRequest cid with
  | .error _ => (host, [])
  | .ok (config, mtuOption) =>
    (host.takeIdentifier.1, [signalingPdu SignalingCode.configurationRequest host.takeIdentifier.2
      (config.asBytes ++ mtuOption)])

def onConnectionRequest (identifier : UInt8) (request : ConnectionRequestHeader) :
    ClassicHost H × List Bytes :=
  match host.channels.onConnectionRequest request defaultL2capMtu with
  | (channels, .error _) => ({ host with channels }, [])
  | (channels, .ok response) =>
    let localCid := response.destinationCid
    let answer := signalingPdu SignalingCode.connectionResponse identifier response.asBytes
    if localCid ≠ 0 then
      let (host, request) :=
        ({ host with channels, localCids := host.localCids ++ [localCid] } :
          ClassicHost H).configure localCid
      (host, answer :: request)
    else ({ host with channels }, [answer])

def onConnectionResponse (response : ConnectionResponseHeader) : ClassicHost H × List Bytes :=
  let localCid := response.sourceCid
  match host.channels.onConnectionResponse localCid response with
  | (channels, .error _) =>
    ({ host with channels, localCids := host.localCids.filter (· ≠ localCid) }, [])
  | (channels, .ok ()) => ({ host with channels } : ClassicHost H).configure localCid

def onConfigurationRequest (identifier : UInt8) (request : ConfigurationRequestHeader)
    (options : Bytes) : ClassicHost H × List Bytes :=
  match host.channels.onConfigurationRequest request.destinationCid options with
  | (channels, .error _) => ({ host with channels }, [])
  | (channels, .ok response) => ({ host with channels },
      [signalingPdu SignalingCode.configurationResponse identifier response.asBytes])

def onConfigurationResponse (response : ConfigurationResponseHeader) : ClassicHost H × List Bytes :=
  ({ host with channels :=
    (host.channels.onConfigurationResponse response.sourceCid response).1 }, [])

/-- Whether a channel still alive belongs to the handler serving `psm`. -/
def hasChannelServedBy (psm : UInt16) : Bool :=
  match host.handlers.find? fun handler => psm ∈ handler.psms with
  | none => false
  | some handler => (host.localCids.filterMap host.channels.getChannel).any fun channel =>
      channel.psm ∈ handler.psms

def onDisconnectionRequest (identifier : UInt8) (params : Bytes) (localCid : UInt16) :
    ClassicHost H × List Bytes :=
  let (channels, removed) := host.channels.removeChannel localCid
  let host := { host with
    channels
    localCids := host.localCids.filter (· ≠ localCid)
    announcedCids := host.announcedCids.filter (· ≠ localCid) }
  let handlers := match removed with
    | none => host.handlers
    | some channel =>
      let last := !host.hasChannelServedBy channel.psm
      (handlerFor channel.psm (fun state =>
        let state := onChannelLost state localCid
        (if last then onChannelClosed state else state, ())) host.handlers).1
  ({ host with handlers }, [signalingPdu SignalingCode.disconnectionResponse identifier params])

/-- The arms of `handle_signaling`, with the frames they answer with. -/
def signalingFrames (body : Bytes) : ClassicHost H × List Bytes :=
  match L2capSignalingHeader.refFromPrefix body with
  | none => (host, [])
  | some (header, params) =>
    let params := params.take (min header.length.toNat params.length)
    if header.code = SignalingCode.connectionRequest then
      match ConnectionRequestHeader.refFromPrefix params with
      | none => (host, [])
      | some (request, _) => host.onConnectionRequest header.identifier request
    else if header.code = SignalingCode.connectionResponse then
      match ConnectionResponseHeader.refFromPrefix params with
      | none => (host, [])
      | some (response, _) => host.onConnectionResponse response
    else if header.code = SignalingCode.configurationRequest then
      match ConfigurationRequestHeader.refFromPrefix params with
      | none => (host, [])
      | some (request, options) => host.onConfigurationRequest header.identifier request options
    else if header.code = SignalingCode.configurationResponse then
      match ConfigurationResponseHeader.refFromPrefix params with
      | none => (host, [])
      | some (response, _) => host.onConfigurationResponse response
    else if header.code = SignalingCode.disconnectionRequest then
      match params with
      | low :: high :: _ :: _ :: _ =>
        host.onDisconnectionRequest header.identifier params (U16.fromLeBytes low high)
      | _ => (host, [])
    else (host, [])

def handleSignaling (handle : UInt16) (body : Bytes) : ClassicHost H × List Bytes :=
  ((host.signalingFrames body).1, (host.signalingFrames body).2.map (aclPacket handle))

/-! ## Data -/

def dataFrames (cid : UInt16) (data : Bytes) : ClassicHost H × List Bytes :=
  match host.channels.getChannel cid with
  | none => (host, [])
  | some channel =>
    match handlerFor channel.psm (fun state =>
        onChannelData state ⟨channel.psm, channel.cid, channel.peerMtu⟩ data) host.handlers with
    | (_, none) => (host, [])
    | (handlers, some replies) => ({ host with handlers },
        (replies.filter (· ≠ [])).map (serialize channel.peerCid))

def handleChannelData (handle : UInt16) (cid : UInt16) (data : Bytes) :
    ClassicHost H × List Bytes :=
  ((host.dataFrames cid data).1, (host.dataFrames cid data).2.map (aclPacket handle))

def handleAcl (packet : Bytes) : ClassicHost H × Except SimbleError (List Bytes) :=
  match HciAclHeader.parse (packet.drop 1) with
  | none => (host, .error (.packetParseError "Invalid ACL header"))
  | some (header, payload) =>
    match host.aclReassembler.pushFragment header.handle header.isFirstFragment payload with
    | (aclReassembler, .error error) => ({ host with aclReassembler }, .error error)
    | (aclReassembler, .ok none) => ({ host with aclReassembler }, .ok [])
    | (aclReassembler, .ok (some frame)) =>
      let host := { host with aclReassembler }
      match readFrame frame with
      | none => (host, .ok [])
      | some (channelId, body) =>
        let (host, out) :=
          if channelId = brSignaling then host.handleSignaling header.handle body
          else host.handleChannelData header.handle channelId body
        (host, .ok out)

/-! ## Polling -/

def openChannels : List (HandlerChannel × UInt16) :=
  ((host.localCids.filterMap host.channels.getChannel).filter (·.isOpen)).map fun channel =>
    (⟨channel.psm, channel.cid, channel.peerMtu⟩, channel.peerCid)

def announce (host : ClassicHost H) : List HandlerChannel → ClassicHost H
  | [] => host
  | channel :: rest =>
    if channel.cid ∈ host.announcedCids then announce host rest
    else announce { host with
      announcedCids := host.announcedCids ++ [channel.cid]
      handlers := (handlerFor channel.psm
        (fun state => (onChannelOpen state channel, ())) host.handlers).1 } rest

def outputFrames (channel : HandlerChannel) (peerCid : UInt16) : ClassicHost H × List Bytes :=
  match handlerFor channel.psm (pollChannelOutput · channel) host.handlers with
  | (_, none) => (host, [])
  | (handlers, some sdus) => ({ host with handlers },
      (sdus.filter (· ≠ [])).map (serialize peerCid))

def collect (host : ClassicHost H) (handle : UInt16) :
    List (HandlerChannel × UInt16) → ClassicHost H
  | [] => host
  | (channel, peerCid) :: rest =>
    let (next, frames) := host.outputFrames channel peerCid
    collect { next with
      pendingAcl := next.pendingAcl ++ frames.flatMap (aclPackets handle · next.aclMtu) } handle rest

/-- Releases queued packets up to the buffers the controller has free. -/
def release : ClassicHost H × List Bytes :=
  let count := min (host.aclCreditsTotal - host.aclInFlight) host.pendingAcl.length
  ({ host with
      aclInFlight := host.aclInFlight + count
      pendingAcl := host.pendingAcl.drop count }, host.pendingAcl.take count)

/-- The frame that opens a channel to the peer's `psm`. -/
def connectFrame (psm : UInt16) : ClassicHost H × Except SimbleError Bytes :=
  match host.channels.connect ⟨psm, defaultL2capMtu⟩ with
  | (channels, .error error) => ({ host with channels }, .error error)
  | (channels, .ok (localCid, request)) =>
    let host := { host with channels, localCids := host.localCids ++ [localCid] }
    (host.takeIdentifier.1, .ok (signalingPdu SignalingCode.connectionRequest
      host.takeIdentifier.2 request.asBytes))

def openChannel (psm : UInt16) : ClassicHost H × Except SimbleError (List Bytes) :=
  match host.connection with
  | none => (host, .error (.deviceError "L2CAP: no ACL connection to open a channel on"))
  | some (handle, _) =>
    ((host.connectFrame psm).1, (host.connectFrame psm).2.map fun frame => [aclPacket handle frame])

def wantedChannels : List (Handler H) → List (Handler H) × List UInt16
  | [] => ([], [])
  | handler :: rest =>
    let (state, wanted) := pollChannelRequests handler.state
    let (others, more) := wantedChannels rest
    ({ handler with state } :: others, wanted ++ more)

def openEach (host : ClassicHost H) : List UInt16 → ClassicHost H × List Bytes
  | [] => (host, [])
  | psm :: rest =>
    let (next, opened) := host.openChannel psm
    let (last, more) := openEach next rest
    (last, (opened.toOption.getD []) ++ more)

def openRequestedChannels : ClassicHost H × List Bytes :=
  let (handlers, wanted) := wantedChannels host.handlers
  ({ host with handlers }).openEach wanted

def poll : ClassicHost H × List Bytes :=
  match host.connection with
  | none => (host, [])
  | some (handle, _) =>
    let channels := host.openChannels
    let (host, released) :=
      ((host.announce (channels.map Prod.fst)).collect handle channels).release
    let (host, opened) := host.openRequestedChannels
    (host, released ++ opened)

/-- The `match` of `handle_packet` on the packet's type. -/
def dispatch (packet : Bytes) : ClassicHost H × Except SimbleError (List Bytes) :=
  if packet.head? = some H4Type.hciEvent then
    ((host.handleEvent packet).1, .ok (host.handleEvent packet).2)
  else if packet.head? = some H4Type.hciAclData then host.handleAcl packet
  else if packet.head? = some H4Type.hciScoData then (host.handleSco packet, .ok [])
  else (host, .ok [])

def handlePacket (packet : Bytes) : ClassicHost H × Except SimbleError (List Bytes) :=
  match host.dispatch packet with
  | (host, .error error) => (host, .error error)
  | (host, .ok out) => (host.poll.1, .ok (out ++ host.poll.2))

inductive Input where
  | packet (bytes : Bytes)
  | poll
  | openChannel (psm : UInt16)

def step (host : ClassicHost H) : Input → ClassicHost H × List Bytes
  | .packet bytes => ((host.handlePacket bytes).1, (host.handlePacket bytes).2.toOption.getD [])
  | .poll => host.poll
  | .openChannel psm => ((host.openChannel psm).1, (host.openChannel psm).2.toOption.getD [])

def Input.event : Input → Option HciEvent
  | .packet bytes => HciEvent.parseH4 bytes
  | _ => none

/-! ## What the parts leave alone -/

structure Keeps (host next : ClassicHost H) : Prop where
  connection : next.connection = host.connection
  security : next.security = host.security
  sco : next.sco = host.sco
  aclMtu : next.aclMtu = host.aclMtu
  aclCreditsTotal : next.aclCreditsTotal = host.aclCreditsTotal
  aclInFlight : next.aclInFlight = host.aclInFlight
  pendingAcl : next.pendingAcl = host.pendingAcl

omit [ProtocolHandler H] in
theorem Keeps.rfl {host : ClassicHost H} : Keeps host host := ⟨.refl _, .refl _, .refl _, .refl _,
  .refl _, .refl _, .refl _⟩

omit [ProtocolHandler H] in
theorem Keeps.trans {first second third : ClassicHost H} (before : Keeps first second)
    (after : Keeps second third) : Keeps first third :=
  ⟨after.connection.trans before.connection, after.security.trans before.security,
    after.sco.trans before.sco, after.aclMtu.trans before.aclMtu,
    after.aclCreditsTotal.trans before.aclCreditsTotal,
    after.aclInFlight.trans before.aclInFlight, after.pendingAcl.trans before.pendingAcl⟩

omit [ProtocolHandler H] in
theorem Keeps.after {first second third : ClassicHost H} (after : Keeps second third)
    (before : Keeps first second) : Keeps first third := before.trans after

omit [ProtocolHandler H] in
theorem configure_keeps (cid : UInt16) : Keeps host (host.configure cid).1 := by
  unfold configure
  split <;> exact ⟨rfl, rfl, rfl, rfl, rfl, rfl, rfl⟩

omit [ProtocolHandler H] in
theorem onConnectionRequest_keeps (identifier : UInt8) (request : ConnectionRequestHeader) :
    Keeps host (host.onConnectionRequest identifier request).1 := by
  unfold onConnectionRequest
  split
  · exact ⟨rfl, rfl, rfl, rfl, rfl, rfl, rfl⟩
  · dsimp only
    split
    · exact (configure_keeps _ _).after ⟨rfl, rfl, rfl, rfl, rfl, rfl, rfl⟩
    · exact ⟨rfl, rfl, rfl, rfl, rfl, rfl, rfl⟩

omit [ProtocolHandler H] in
theorem onConnectionResponse_keeps (response : ConnectionResponseHeader) :
    Keeps host (host.onConnectionResponse response).1 := by
  unfold onConnectionResponse
  dsimp only
  split
  · exact ⟨rfl, rfl, rfl, rfl, rfl, rfl, rfl⟩
  · exact (configure_keeps _ _).after ⟨rfl, rfl, rfl, rfl, rfl, rfl, rfl⟩

omit [ProtocolHandler H] in
theorem onConfigurationRequest_keeps (identifier : UInt8) (request : ConfigurationRequestHeader)
    (options : Bytes) : Keeps host (host.onConfigurationRequest identifier request options).1 := by
  unfold onConfigurationRequest
  split <;> exact ⟨rfl, rfl, rfl, rfl, rfl, rfl, rfl⟩

theorem signalingFrames_keeps (body : Bytes) : Keeps host (host.signalingFrames body).1 := by
  unfold signalingFrames
  split
  · exact .rfl
  · dsimp only
    split_ifs
    · split
      · exact .rfl
      · exact host.onConnectionRequest_keeps _ _
    · split
      · exact .rfl
      · exact host.onConnectionResponse_keeps _
    · split
      · exact .rfl
      · exact host.onConfigurationRequest_keeps _ _ _
    · split
      · exact .rfl
      · exact ⟨rfl, rfl, rfl, rfl, rfl, rfl, rfl⟩
    · split
      · exact ⟨rfl, rfl, rfl, rfl, rfl, rfl, rfl⟩
      · exact .rfl
    · exact .rfl

theorem dataFrames_keeps (cid : UInt16) (data : Bytes) :
    Keeps host (host.dataFrames cid data).1 := by
  unfold dataFrames
  split
  · exact .rfl
  · split
    · exact .rfl
    · exact ⟨rfl, rfl, rfl, rfl, rfl, rfl, rfl⟩

theorem handleAcl_keeps (packet : Bytes) : Keeps host (host.handleAcl packet).1 := by
  unfold handleAcl
  split
  · exact .rfl
  · split
    · exact ⟨rfl, rfl, rfl, rfl, rfl, rfl, rfl⟩
    · exact ⟨rfl, rfl, rfl, rfl, rfl, rfl, rfl⟩
    · split
      · exact ⟨rfl, rfl, rfl, rfl, rfl, rfl, rfl⟩
      · split_ifs
        · exact (signalingFrames_keeps _ _).after ⟨rfl, rfl, rfl, rfl, rfl, rfl, rfl⟩
        · exact (dataFrames_keeps _ _ _).after ⟨rfl, rfl, rfl, rfl, rfl, rfl, rfl⟩

omit [ProtocolHandler H] in
theorem handleSco_keeps (packet : Bytes) : Keeps host (host.handleSco packet) := by
  unfold handleSco
  split
  · split_ifs <;> exact ⟨rfl, rfl, rfl, rfl, rfl, rfl, rfl⟩
  · exact .rfl

theorem announce_keeps (channels : List HandlerChannel) (host : ClassicHost H) :
    Keeps host (host.announce channels) := by
  induction channels generalizing host with
  | nil => exact .rfl
  | cons channel rest ih =>
    unfold announce
    split_ifs
    · exact ih _
    · exact (ih _).after ⟨rfl, rfl, rfl, rfl, rfl, rfl, rfl⟩

theorem outputFrames_keeps (channel : HandlerChannel) (peerCid : UInt16) :
    Keeps host (host.outputFrames channel peerCid).1 := by
  unfold outputFrames
  split
  · exact .rfl
  · exact ⟨rfl, rfl, rfl, rfl, rfl, rfl, rfl⟩

omit [ProtocolHandler H] in
theorem connectFrame_keeps (psm : UInt16) : Keeps host (host.connectFrame psm).1 := by
  unfold connectFrame
  split <;> exact ⟨rfl, rfl, rfl, rfl, rfl, rfl, rfl⟩

omit [ProtocolHandler H] in
theorem openChannel_keeps (psm : UInt16) : Keeps host (host.openChannel psm).1 := by
  unfold openChannel
  split
  · exact .rfl
  · exact host.connectFrame_keeps psm

omit [ProtocolHandler H] in
theorem openEach_keeps (wanted : List UInt16) (host : ClassicHost H) :
    Keeps host (host.openEach wanted).1 := by
  induction wanted generalizing host with
  | nil => exact .rfl
  | cons psm rest ih => exact (host.openChannel_keeps psm).trans (ih _)

theorem openRequestedChannels_keeps : Keeps host host.openRequestedChannels.1 :=
  (openEach_keeps _ _).after ⟨rfl, rfl, rfl, rfl, rfl, rfl, rfl⟩

omit [ProtocolHandler H] in
theorem Keeps.queue {host next : ClassicHost H} (kept : Keeps host next) (pendingAcl : List Bytes) :
    Keeps { host with pendingAcl } { next with pendingAcl } := { kept with pendingAcl := .refl _ }

theorem collect_keeps (handle : UInt16) (channels : List (HandlerChannel × UInt16))
    (host : ClassicHost H) : let ready := host.collect handle channels
    Keeps { host with pendingAcl := ready.pendingAcl } ready := by
  induction channels generalizing host with
  | nil => exact .rfl
  | cons entry rest ih => exact (ih _).after ((host.outputFrames_keeps entry.1 entry.2).queue _)

/-- What a poll releases from the queue is counted, and fits the buffers that are free; what the
handlers ask for leaves behind it. -/
theorem poll_keeps : ∃ released requests, host.poll.2 = released ++ requests ∧
    released.length ≤ host.aclCreditsTotal - host.aclInFlight ∧ Keeps { host with
      aclInFlight := host.aclInFlight + released.length
      pendingAcl := host.poll.1.pendingAcl } host.poll.1 := by
  unfold poll
  split
  · exact ⟨[], [], rfl, Nat.zero_le _, .rfl⟩
  · rename_i handle _ _
    let ready := (host.announce (host.openChannels.map Prod.fst)).collect handle host.openChannels
    have kept := (collect_keeps handle host.openChannels _).after
      ((announce_keeps (host.openChannels.map Prod.fst) host).queue ready.pendingAcl)
    have opened := openRequestedChannels_keeps ready.release.1
    have count : ready.release.2.length =
        min (host.aclCreditsTotal - host.aclInFlight) ready.pendingAcl.length := by
      rw [← kept.aclInFlight, ← kept.aclCreditsTotal]
      exact List.length_take.trans (Nat.min_eq_left (Nat.min_le_right _ _))
    refine ⟨ready.release.2, _, rfl, count ▸ Nat.min_le_left _ _, opened.after { kept with
      aclInFlight := ?_
      pendingAcl := opened.pendingAcl.symm }⟩
    rw [count, ← kept.aclInFlight, ← kept.aclCreditsTotal]
    rfl

theorem poll_link : host.poll.1.connection = host.connection ∧
    host.poll.1.security = host.security := by
  obtain ⟨_, _, -, -, kept⟩ := host.poll_keeps
  exact ⟨kept.connection, kept.security⟩

structure SameChannels (host next : ClassicHost H) : Prop where
  channels : next.channels = host.channels
  handlers : next.handlers = host.handlers
  localCids : next.localCids = host.localCids
  announcedCids : next.announcedCids = host.announcedCids
  pendingAcl : next.pendingAcl = host.pendingAcl

def aclHandle : Bytes → Option UInt16
  | h4 :: low :: high :: _ =>
    if h4 = H4Type.hciAclData then some (U16.fromLeBytes low high &&& 0x0FFF) else none
  | _ => none

theorem aclHandle_command (opcode params : Bytes) : aclHandle (command opcode params) = none := by
  unfold command
  match opcode ++ UInt8.ofNat params.length :: params with
  | [] | [_] | _ :: _ :: _ => rfl

omit [ProtocolHandler H] in
theorem handleSecurityEvent_cases {code : UInt8} {parameters : Bytes} {next : ClassicHost H}
    {out : List Bytes} (handled : host.handleSecurityEvent code parameters = some (next, out)) :
    (∃ security linkKeys, next = { host with security, linkKeys }) ∧
      (out = [] ∨ ∃ opcode params, out = [command opcode params]) := by
  unfold handleSecurityEvent at handled
  by_cases key : code = linkKeyRequest
  · rw [if_pos key] at handled
    obtain ⟨peer, -, handled⟩ := Option.bind_eq_some_iff.mp handled
    cases found : host.linkKey peer <;> rw [found] at handled <;> cases handled <;>
      exact ⟨⟨_, _, rfl⟩, .inr ⟨_, _, rfl⟩⟩
  rw [if_neg key] at handled
  by_cases notified : code = linkKeyNotification
  · rw [if_pos notified] at handled
    obtain ⟨peer, -, handled⟩ := Option.bind_eq_some_iff.mp handled
    obtain ⟨slice, -, handled⟩ := Option.bind_eq_some_iff.mp handled
    obtain ⟨value, -, handled⟩ := Option.bind_eq_some_iff.mp handled
    obtain ⟨keyType, -, handled⟩ := Option.bind_eq_some_iff.mp handled
    cases handled
    exact ⟨⟨_, _, rfl⟩, .inl rfl⟩
  rw [if_neg notified] at handled
  by_cases capability : code = ioCapabilityRequest
  · rw [if_pos capability] at handled
    obtain ⟨peer, -, handled⟩ := Option.bind_eq_some_iff.mp handled
    cases handled
    exact ⟨⟨_, _, rfl⟩, .inr ⟨_, _, rfl⟩⟩
  rw [if_neg capability] at handled
  by_cases response : code = ioCapabilityResponse
  · rw [if_pos response] at handled
    cases handled
    exact ⟨⟨_, _, rfl⟩, .inl rfl⟩
  rw [if_neg response] at handled
  by_cases confirmation : code = userConfirmationRequest
  · rw [if_pos confirmation] at handled
    obtain ⟨peer, -, handled⟩ := Option.bind_eq_some_iff.mp handled
    cases handled
    exact ⟨⟨_, _, rfl⟩, .inr ⟨_, _, rfl⟩⟩
  rw [if_neg confirmation] at handled
  by_cases passkey : code = userPasskeyRequest
  · rw [if_pos passkey] at handled
    obtain ⟨peer, -, handled⟩ := Option.bind_eq_some_iff.mp handled
    cases found : host.passkey.filter (fun _ => host.acceptPairing) <;> rw [found] at handled <;>
      cases handled <;> exact ⟨⟨_, _, rfl⟩, .inr ⟨_, _, rfl⟩⟩
  rw [if_neg passkey] at handled
  by_cases shown : code = userPasskeyNotification
  · rw [if_pos shown] at handled
    cases handled
    exact ⟨⟨_, _, rfl⟩, .inl rfl⟩
  rw [if_neg shown] at handled
  by_cases paired : code = simplePairingComplete
  · rw [if_pos paired] at handled
    cases handled
    exact ⟨⟨_, _, rfl⟩, .inl rfl⟩
  rw [if_neg paired] at handled
  by_cases authenticated : code = authenticationComplete
  · rw [if_pos authenticated] at handled
    cases handled
    exact ⟨⟨_, _, rfl⟩, .inl rfl⟩
  rw [if_neg authenticated] at handled
  cases handled

theorem onEvent_cases (event : HciEvent) :
    (∃ complete, event = .disconnectionComplete complete ∧
      (host.onEvent event).1 = host.onLinkEnded complete.connectionHandle) ∨
    SameChannels host (host.onEvent event).1 ∧
      (host.onEvent event).1.aclInFlight ≤ host.aclInFlight := by
  cases event with
  | disconnectionComplete complete =>
    unfold onEvent
    by_cases audio : host.sco.map ScoConnection.handle = some complete.connectionHandle
    · simp only [if_pos audio]
      exact .inr ⟨⟨rfl, rfl, rfl, rfl, rfl⟩, le_rfl⟩
    · simp only [if_neg audio]
      exact .inl ⟨complete, rfl, rfl⟩
  | connectionRequest request =>
    unfold onEvent
    simp only
    split_ifs <;> exact .inr ⟨⟨rfl, rfl, rfl, rfl, rfl⟩, le_rfl⟩
  | synchronousConnectionComplete complete =>
    unfold onEvent
    simp only
    split_ifs <;> exact .inr ⟨⟨rfl, rfl, rfl, rfl, rfl⟩, le_rfl⟩
  | connectionComplete complete =>
    unfold onEvent
    simp only
    split_ifs <;> exact .inr ⟨⟨rfl, rfl, rfl, rfl, rfl⟩, le_rfl⟩
  | encryptionChange change =>
    unfold onEvent
    simp only
    split_ifs <;> exact .inr ⟨⟨rfl, rfl, rfl, rfl, rfl⟩, le_rfl⟩
  | commandComplete header returnParameters =>
    unfold onEvent readBufferSize readBdAddr
    simp only
    split_ifs
    · split
      · split_ifs <;> exact .inr ⟨⟨rfl, rfl, rfl, rfl, rfl⟩, le_rfl⟩
      · exact .inr ⟨⟨rfl, rfl, rfl, rfl, rfl⟩, le_rfl⟩
    · split
      · split_ifs <;> exact .inr ⟨⟨rfl, rfl, rfl, rfl, rfl⟩, le_rfl⟩
      · exact .inr ⟨⟨rfl, rfl, rfl, rfl, rfl⟩, le_rfl⟩
    · exact .inr ⟨⟨rfl, rfl, rfl, rfl, rfl⟩, le_rfl⟩
  | lowEnergy subevent parameters => exact .inr ⟨⟨rfl, rfl, rfl, rfl, rfl⟩, le_rfl⟩
  | other code parameters =>
    unfold onEvent
    simp only
    split_ifs
    · exact .inr ⟨⟨rfl, rfl, rfl, rfl, rfl⟩, Nat.sub_le _ _⟩
    · cases handled : host.handleSecurityEvent code parameters with
      | none => exact .inr ⟨⟨rfl, rfl, rfl, rfl, rfl⟩, le_rfl⟩
      | some result =>
        obtain ⟨⟨security, linkKeys, same⟩, -⟩ := host.handleSecurityEvent_cases handled
        rw [Option.getD_some, same]
        exact .inr ⟨⟨rfl, rfl, rfl, rfl, rfl⟩, le_rfl⟩

theorem onEvent_sent (event : HciEvent) : (host.onEvent event).2.filterMap aclHandle = [] := by
  have single : ∀ opcode params, [command opcode params].filterMap aclHandle = [] := by
    intro opcode params
    rw [List.filterMap_cons_none (aclHandle_command opcode params), List.filterMap_nil]
  unfold onEvent
  cases event <;> simp only
  case connectionRequest request =>
    split_ifs
    · unfold answerSynchronousRequest
      cases host.scoPolicy <;> exact single _ _
    · exact single _ _
  case disconnectionComplete complete =>
    split_ifs
    · rfl
    · exact single _ _
  case other code parameters =>
    split_ifs
    · rfl
    · cases handled : host.handleSecurityEvent code parameters with
      | none => rfl
      | some result =>
        rcases (host.handleSecurityEvent_cases handled).2 with empty | ⟨opcode, params, sent⟩
        · rw [Option.getD_some, empty]
          rfl
        · rw [Option.getD_some, sent]
          exact single _ _
  case lowEnergy subevent parameters => rfl
  all_goals (split_ifs <;> rfl)

/-! ## Inbound frames -/

def completed (packet : Bytes) : Option (UInt16 × UInt16 × Bytes) :=
  match HciAclHeader.parse (packet.drop 1) with
  | none => none
  | some (header, payload) =>
    match host.aclReassembler.pushFragment header.handle header.isFirstFragment payload with
    | (_, .ok (some frame)) => (readFrame frame).map fun read => (header.handle, read)
    | _ => none

def answerFrames (channelId : UInt16) (body : Bytes) : ClassicHost H × List Bytes :=
  if channelId = brSignaling then host.signalingFrames body else host.dataFrames channelId body

theorem handleAcl_cases (packet : Bytes) : ∃ aclReassembler,
    (host.completed packet = none ∧
      (host.handleAcl packet).1 = { host with aclReassembler } ∧
      ((host.handleAcl packet).2 = .ok [] ∨ ∃ error, (host.handleAcl packet).2 = .error error)) ∨
    ∃ handle channelId body, host.completed packet = some (handle, channelId, body) ∧
      host.handleAcl packet =
        ((({ host with aclReassembler } : ClassicHost H).answerFrames channelId body).1,
          .ok ((({ host with aclReassembler } : ClassicHost H).answerFrames channelId body).2.map
            (aclPacket handle))) := by
  unfold completed handleAcl
  cases HciAclHeader.parse (packet.drop 1) with
  | none => exact ⟨host.aclReassembler, .inl ⟨rfl, rfl, .inr ⟨_, rfl⟩⟩⟩
  | some parsed =>
    obtain ⟨header, payload⟩ := parsed
    simp only
    obtain ⟨aclReassembler, result⟩ :=
      host.aclReassembler.pushFragment header.handle header.isFirstFragment payload
    refine ⟨aclReassembler, ?_⟩
    match result with
    | .error error => exact .inl ⟨rfl, rfl, .inr ⟨_, rfl⟩⟩
    | .ok none => exact .inl ⟨rfl, rfl, .inl rfl⟩
    | .ok (some frame) =>
      simp only
      cases readFrame frame with
      | none => exact .inl ⟨rfl, rfl, .inl rfl⟩
      | some found =>
        obtain ⟨channelId, body⟩ := found
        refine .inr ⟨header.handle, channelId, body, rfl, ?_⟩
        unfold answerFrames handleSignaling handleChannelData
        by_cases signaling : channelId = brSignaling
        · simp only [if_pos signaling]
        · simp only [if_neg signaling]

/-! ## Inputs to try a host with -/

/-- A handler without a session. -/
instance idleHandler : ProtocolHandler Unit where
  onChannelOpen state _ := state
  onChannelLost state _ := state
  onChannelData state _ _ := (state, [])
  pollChannelOutput state _ := (state, [])
  pollChannelRequests state := (state, [])
  onChannelClosed state := state

def connected (handle : UInt8) : Input :=
  .packet [0x04, 0x03, 0x0B, 0x00, handle, 0x00, 1, 2, 3, 4, 5, 6, 0x01, 0x00]

end ClassicHost
end Simble.Device
