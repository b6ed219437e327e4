import Simble.Classic.Avdtp

/-! The signaling state machine of AVDTP (`Protocol` of `classic/avdtp.rs`): stream endpoints, an
initiator's commands, and what is done on commands and responses. Discovery, capabilities and
media channels are left out. -/
namespace Simble.Avdtp

/-! ## Capabilities -/

namespace ServiceCategory
def mediaTransport : UInt8 := 0x01
def mediaCodec : UInt8 := 0x07
end ServiceCategory

namespace ErrorCode
def badAcpSeid : UInt8 := 0x12
def sepInUse : UInt8 := 0x13
def badServCategory : UInt8 := 0x17
def invalidCapabilities : UInt8 := 0x1A
def badState : UInt8 := 0x31
end ErrorCode

/-- `codec_type::SBC` -/
def codecTypeSbc : UInt8 := 0x00

def MediaType.fromU8 (value : UInt8) : Option MediaType :=
  if value = 0 then some .audio else if value = 1 then some .video
  else if value = 2 then some .multimedia else none

def ServiceCapability.parseList : Bytes → Option (List ServiceCapability)
  | [] => some []
  | [_] => none
  | category :: length :: rest =>
    if rest.length < length.toNat then none
    else (parseList (rest.drop length.toNat)).map fun others =>
      ⟨category, rest.take length.toNat⟩ :: others
termination_by payload => payload.length
decreasing_by
  rw [List.length_drop]
  exact Nat.lt_succ_of_le (Nat.le_succ_of_le (Nat.sub_le _ _))

structure MediaCodecCapabilities where
  mediaType : MediaType
  mediaCodecType : UInt8
  mediaCodecInformation : Bytes

def MediaCodecCapabilities.fromCapability (capability : ServiceCapability) :
    Option MediaCodecCapabilities :=
  if capability.serviceCategory ≠ ServiceCategory.mediaCodec then none
  else
    match capability.data with
    | mediaType :: codecType :: information =>
      (MediaType.fromU8 mediaType).map fun mediaType => ⟨mediaType, codecType, information⟩
    | _ => none

structure SbcMediaCodecInformation where
  samplingFrequency : UInt8
  channelMode : UInt8
  blockLength : UInt8
  subbands : UInt8
  allocationMethod : UInt8
  minimumBitpoolValue : UInt8
  maximumBitpoolValue : UInt8

def SbcMediaCodecInformation.parse : Bytes → Option SbcMediaCodecInformation
  | first :: second :: minimum :: maximum :: _ =>
    some ⟨(first >>> 4) &&& 0x0F, first &&& 0x0F, (second >>> 4) &&& 0x0F, (second >>> 2) &&& 0x03,
      second &&& 0x03, minimum, maximum⟩
  | _ => none

/-! ## Messages -/

def StreamEndPointType.fromU8 (value : UInt8) : Option StreamEndPointType :=
  if value = 0 then some .source else if value = 1 then some .sink else none

def SepInfo.parse (first second : UInt8) : Option SepInfo := do
  let mediaType ← MediaType.fromU8 (second >>> 4)
  let tsep ← StreamEndPointType.fromU8 ((second >>> 3) &&& 1)
  return ⟨first >>> 2, (first >>> 1) &&& 1 ≠ 0, mediaType, tsep⟩

/-- The endpoints of a list, two octets each; an octet that is left over is not read. -/
def SepInfo.parseList : Bytes → Option (List SepInfo)
  | first :: second :: rest => do
    let info ← SepInfo.parse first second
    let others ← parseList rest
    return info :: others
  | _ => some []

def seidFromByte (byte : UInt8) : UInt8 := byte >>> 2

namespace Message

def rejectErrorCode : Message → Option UInt8
  | setConfigurationReject _ errorCode | reconfigureReject _ errorCode | startReject _ errorCode
  | suspendReject _ errorCode | reject _ errorCode => some errorCode
  | generalReject _ => some 0
  | _ => none

/-- The arms of `parse` for commands. -/
def parseCommand (signal : UInt8) (payload : Bytes) : Option Message :=
  if signal = SignalIdentifier.discover then some discoverCommand
  else if signal = SignalIdentifier.getCapabilities then
    payload.head?.map fun byte => getCapabilitiesCommand (seidFromByte byte)
  else if signal = SignalIdentifier.getAllCapabilities then
    payload.head?.map fun byte => getAllCapabilitiesCommand (seidFromByte byte)
  else if signal = SignalIdentifier.setConfiguration then
    match payload with
    | acp :: int :: rest => (ServiceCapability.parseList rest).map
        (setConfigurationCommand (seidFromByte acp) (seidFromByte int))
    | _ => none
  else if signal = SignalIdentifier.getConfiguration then
    payload.head?.map fun byte => getConfigurationCommand (seidFromByte byte)
  else if signal = SignalIdentifier.reconfigure then
    match payload with
    | acp :: rest => (ServiceCapability.parseList rest).map (reconfigureCommand (seidFromByte acp))
    | [] => none
  else if signal = SignalIdentifier.open then
    payload.head?.map fun byte => openCommand (seidFromByte byte)
  else if signal = SignalIdentifier.start then some (startCommand (payload.map seidFromByte))
  else if signal = SignalIdentifier.suspend then some (suspendCommand (payload.map seidFromByte))
  else if signal = SignalIdentifier.close then
    payload.head?.map fun byte => closeCommand (seidFromByte byte)
  else if signal = SignalIdentifier.abort then
    payload.head?.map fun byte => abortCommand (seidFromByte byte)
  else if signal = SignalIdentifier.securityControl then
    match payload with
    | acp :: data => some (securityControlCommand (seidFromByte acp) data)
    | [] => none
  else if signal = SignalIdentifier.delayReport then
    match payload with
    | acp :: high :: low :: _ =>
      some (delayReportCommand (seidFromByte acp) ((high.toUInt16 <<< 8) ||| low.toUInt16))
    | _ => none
  else none

/-- The arms of `parse` for accepting responses. -/
def parseAccept (signal : UInt8) (payload : Bytes) : Option Message :=
  if signal = SignalIdentifier.discover then (SepInfo.parseList payload).map discoverResponse
  else if signal = SignalIdentifier.getCapabilities then
    (ServiceCapability.parseList payload).map getCapabilitiesResponse
  else if signal = SignalIdentifier.getAllCapabilities then
    (ServiceCapability.parseList payload).map getAllCapabilitiesResponse
  else if signal = SignalIdentifier.setConfiguration then some setConfigurationResponse
  else if signal = SignalIdentifier.getConfiguration then
    (ServiceCapability.parseList payload).map getConfigurationResponse
  else if signal = SignalIdentifier.reconfigure then some reconfigureResponse
  else if signal = SignalIdentifier.open then some openResponse
  else if signal = SignalIdentifier.start then some startResponse
  else if signal = SignalIdentifier.suspend then some suspendResponse
  else if signal = SignalIdentifier.close then some closeResponse
  else if signal = SignalIdentifier.abort then some abortResponse
  else if signal = SignalIdentifier.securityControl then some securityControlResponse
  else if signal = SignalIdentifier.delayReport then some delayReportResponse
  else none

/-- The arms of `parse` for rejecting responses. -/
def parseReject (signal : UInt8) (payload : Bytes) : Option Message :=
  if signal = SignalIdentifier.setConfiguration ∨ signal = SignalIdentifier.reconfigure then
    match payload with
    | category :: errorCode :: _ =>
      some (if signal = SignalIdentifier.setConfiguration then
        setConfigurationReject category errorCode else reconfigureReject category errorCode)
    | _ => none
  else if signal = SignalIdentifier.start ∨ signal = SignalIdentifier.suspend then
    match payload with
    | acp :: errorCode :: _ =>
      some (if signal = SignalIdentifier.start then startReject (seidFromByte acp) errorCode
        else suspendReject (seidFromByte acp) errorCode)
    | _ => none
  else payload.head?.map (reject signal)

def parse (signal : UInt8) (messageType : MessageType) (payload : Bytes) : Option Message :=
  match messageType with
  | .generalReject => some (generalReject signal)
  | .command => parseCommand signal payload
  | .responseAccept => parseAccept signal payload
  | .responseReject => parseReject signal payload

end Message

/-! ## Endpoints -/

inductive StreamState where
  | idle
  | configured
  | «open»
  | streaming
  | closing
  | aborting
deriving DecidableEq, Repr

structure LocalStreamEndPoint where
  seid : UInt8
  mediaType : MediaType
  tsep : StreamEndPointType
  capabilities : List ServiceCapability
  configuration : List ServiceCapability
  state : StreamState
  remoteSeid : Option UInt8

namespace LocalStreamEndPoint
variable (endpoint : LocalStreamEndPoint)

def inUse : Bool := endpoint.state ≠ .idle

def sepInfo : SepInfo := ⟨endpoint.seid, endpoint.inUse, endpoint.mediaType, endpoint.tsep⟩

end LocalStreamEndPoint

abbrev EndPoints := List LocalStreamEndPoint

namespace EndPoints

/-- `get_local_endpoint_by_seid` -/
def get (endpoints : EndPoints) (seid : UInt8) : Option LocalStreamEndPoint :=
  if 0 < seid then endpoints[seid.toNat - 1]? else none

/-- A change through `get_local_endpoint_mut`, none if there is no such endpoint. -/
def update (endpoints : EndPoints) (seid : UInt8)
    (change : LocalStreamEndPoint → LocalStreamEndPoint) : EndPoints :=
  if 0 < seid then endpoints.modify (seid.toNat - 1) change else endpoints

/-- `local_endpoint_by_remote_seid` -/
def byRemoteSeid (endpoints : EndPoints) (remoteSeid : UInt8) : Option LocalStreamEndPoint :=
  endpoints.find? fun endpoint => endpoint.remoteSeid = some remoteSeid

end EndPoints

def applyReconfiguration (configuration capabilities : List ServiceCapability) :
    List ServiceCapability :=
  capabilities.foldl (fun configuration capability =>
    match configuration.findIdx? fun existing =>
        existing.serviceCategory = capability.serviceCategory with
    | some index => configuration.set index capability
    | none => configuration ++ [capability]) configuration

def selectsOne (field offered : UInt8) : Bool :=
  (List.range 8).countP (fun bit => field.toNat.testBit bit) = 1 && (field &&& offered) = field

def configurationError (endpoint : LocalStreamEndPoint) (capabilities : List ServiceCapability) :
    Option (UInt8 × UInt8) :=
  let advertised := endpoint.capabilities.map ServiceCapability.serviceCategory
  if ¬ capabilities.any fun capability =>
      capability.serviceCategory = ServiceCategory.mediaTransport then
    some (ServiceCategory.mediaTransport, ErrorCode.badServCategory)
  else
    match capabilities.find? fun capability => ¬ advertised.contains capability.serviceCategory with
    | some unknown => some (unknown.serviceCategory, ErrorCode.badServCategory)
    | none =>
      match capabilities.findSome? MediaCodecCapabilities.fromCapability with
      | none => some (ServiceCategory.mediaCodec, ErrorCode.badServCategory)
      | some proposed =>
        match endpoint.capabilities.findSome? MediaCodecCapabilities.fromCapability with
        | none => some (ServiceCategory.mediaCodec, ErrorCode.invalidCapabilities)
        | some supported =>
          if proposed.mediaType ≠ supported.mediaType ∨
              proposed.mediaCodecType ≠ supported.mediaCodecType then
            some (ServiceCategory.mediaCodec, ErrorCode.invalidCapabilities)
          else if proposed.mediaCodecType ≠ codecTypeSbc then none
          else
            match SbcMediaCodecInformation.parse proposed.mediaCodecInformation,
              SbcMediaCodecInformation.parse supported.mediaCodecInformation with
            | some want, some can =>
              if selectsOne want.samplingFrequency can.samplingFrequency &&
                selectsOne want.channelMode can.channelMode &&
                selectsOne want.blockLength can.blockLength &&
                selectsOne want.subbands can.subbands &&
                selectsOne want.allocationMethod can.allocationMethod &&
                want.minimumBitpoolValue ≤ want.maximumBitpoolValue &&
                can.minimumBitpoolValue ≤ want.minimumBitpoolValue &&
                want.maximumBitpoolValue ≤ can.maximumBitpoolValue then none
              else some (ServiceCategory.mediaCodec, ErrorCode.invalidCapabilities)
            | _, _ => some (ServiceCategory.mediaCodec, ErrorCode.invalidCapabilities)

/-! ## The protocol -/

inductive Pending where
  | setConfiguration (acpSeid intSeid : UInt8) (capabilities : List ServiceCapability)
  | reconfigure (intSeid : UInt8) (capabilities : List ServiceCapability)
  | «open» (intSeid : UInt8)
  | start (intSeids : List UInt8)
  | suspend (intSeids : List UInt8)
  | close (intSeid : UInt8)
  | abort (intSeid : UInt8)

def Pending.signalIdentifier : Pending → UInt8
  | setConfiguration .. => SignalIdentifier.setConfiguration
  | reconfigure .. => SignalIdentifier.reconfigure
  | .open _ => SignalIdentifier.open
  | start _ => SignalIdentifier.start
  | suspend _ => SignalIdentifier.suspend
  | close _ => SignalIdentifier.close
  | abort _ => SignalIdentifier.abort

inductive AvdtpEvent where
  | streamConfigured (seid : UInt8)
  | streamReconfigured (seid : UInt8)
  | streamOpened (seid : UInt8)
  | streamStarted (seid : UInt8)
  | streamSuspended (seid : UInt8)
  | streamClosed (seid : UInt8)
  | streamAborted (seid : UInt8)
  | delayReport (seid : UInt8) (delay : UInt16)
  | securityControl (seid : UInt8) (data : Bytes)
  | commandRejected (signalIdentifier errorCode : UInt8)
  | commandRefused (signalIdentifier errorCode : UInt8)

structure Protocol where
  localEndpoints : EndPoints
  peerMtu : UInt16
  assembler : MessageAssembler
  pending : Map UInt8 Pending
  nextTransaction : UInt8

namespace Protocol
variable (protocol : Protocol)

def setEndpoints (endpoints : EndPoints) : Protocol := { protocol with localEndpoints := endpoints }

def update (seid : UInt8) (change : LocalStreamEndPoint → LocalStreamEndPoint) : Protocol :=
  protocol.setEndpoints (protocol.localEndpoints.update seid change)

/-! ### Commands of an initiator -/

/-- The first label from the next one on that is not in flight. -/
def freeLabel : Option UInt8 :=
  ((List.range 16).map fun offset => (protocol.nextTransaction + UInt8.ofNat offset) % 16).find?
    fun label => (protocol.pending.lookup label).isNone

def labelsInFlight : Stop :=
  .err (.deviceError "AVDTP: all 16 transaction labels are in flight")

def sendCommand (pending : Pending) (message : Message) : Rust (Protocol × List Bytes) :=
  match protocol.freeLabel with
  | none => .error labelsInFlight
  | some label =>
    .ok ({ protocol with
        pending := protocol.pending.insert label pending
        nextTransaction := (label + 1) % 16 },
      writeMessage label message protocol.peerMtu)

def unknownSeid (seid : UInt8) : Stop := .err (.deviceError s!"AVDTP: unknown local SEID {seid}")

def stateName : StreamState → String
  | .idle => "Idle"
  | .configured => "Configured"
  | .open => "Open"
  | .streaming => "Streaming"
  | .closing => "Closing"
  | .aborting => "Aborting"

def badLocalState (seid : UInt8) (state : StreamState) : Stop :=
  .err (.deviceError
    s!"AVDTP: local SEID {seid} is in state {stateName state}, invalid for this operation")

def noStream (remoteSeid : UInt8) : Stop :=
  .err (.deviceError s!"AVDTP: no stream configured with remote SEID {remoteSeid}")

def requireLocalState (seid : UInt8) (states : List StreamState) : Rust Unit :=
  match protocol.localEndpoints.get seid with
  | none => .error (unknownSeid seid)
  | some endpoint =>
    if states.contains endpoint.state then .ok () else .error (badLocalState seid endpoint.state)

def requireStream (remoteSeid : UInt8) (states : List StreamState) : Rust UInt8 :=
  match protocol.localEndpoints.byRemoteSeid remoteSeid with
  | none => .error (noStream remoteSeid)
  | some endpoint =>
    if states.contains endpoint.state then .ok endpoint.seid
    else .error (badLocalState endpoint.seid endpoint.state)

def setConfiguration (acpSeid intSeid : UInt8) (capabilities : List ServiceCapability) :
    Rust (Protocol × List Bytes) := do
  protocol.requireLocalState intSeid [.idle]
  protocol.sendCommand (.setConfiguration acpSeid intSeid capabilities)
    (.setConfigurationCommand acpSeid intSeid capabilities)

def reconfigure (acpSeid : UInt8) (capabilities : List ServiceCapability) :
    Rust (Protocol × List Bytes) := do
  let intSeid ← protocol.requireStream acpSeid [.open]
  protocol.sendCommand (.reconfigure intSeid capabilities) (.reconfigureCommand acpSeid capabilities)

def «open» (acpSeid : UInt8) : Rust (Protocol × List Bytes) := do
  let intSeid ← protocol.requireStream acpSeid [.configured]
  protocol.sendCommand (.open intSeid) (.openCommand acpSeid)

def start (acpSeids : List UInt8) : Rust (Protocol × List Bytes) := do
  let intSeids ← acpSeids.mapM fun seid => protocol.requireStream seid [.open]
  protocol.sendCommand (.start intSeids) (.startCommand acpSeids)

def suspend (acpSeids : List UInt8) : Rust (Protocol × List Bytes) := do
  let intSeids ← acpSeids.mapM fun seid => protocol.requireStream seid [.streaming]
  protocol.sendCommand (.suspend intSeids) (.suspendCommand acpSeids)

def close (acpSeid : UInt8) : Rust (Protocol × List Bytes) := do
  let intSeid ← protocol.requireStream acpSeid [.open, .streaming]
  protocol.sendCommand (.close intSeid) (.closeCommand acpSeid)

def abort (acpSeid : UInt8) : Rust (Protocol × List Bytes) := do
  let intSeid ← protocol.requireStream acpSeid [.configured, .open, .streaming]
  protocol.sendCommand (.abort intSeid) (.abortCommand acpSeid)

/-! ### Commands of the peer -/

def finish (endpoint : LocalStreamEndPoint) : LocalStreamEndPoint :=
  { endpoint with state := .idle, remoteSeid := none }

def configure (capabilities : List ServiceCapability) (remoteSeid : UInt8)
    (endpoint : LocalStreamEndPoint) : LocalStreamEndPoint :=
  { endpoint with configuration := capabilities, remoteSeid := some remoteSeid, state := .configured }

def enter (state : StreamState) (endpoint : LocalStreamEndPoint) : LocalStreamEndPoint :=
  { endpoint with state }

def onSetConfigurationCommand (acpSeid intSeid : UInt8) (capabilities : List ServiceCapability) :
    Protocol × List AvdtpEvent × Message :=
  match protocol.localEndpoints.get acpSeid with
  | none => (protocol, [], .setConfigurationReject 0 ErrorCode.badAcpSeid)
  | some endpoint =>
    if endpoint.inUse then (protocol, [], .setConfigurationReject 0 ErrorCode.sepInUse)
    else
      match configurationError endpoint capabilities with
      | some (category, errorCode) => (protocol, [], .setConfigurationReject category errorCode)
      | none => (protocol.update acpSeid (configure capabilities intSeid),
          [.streamConfigured acpSeid], .setConfigurationResponse)

def onReconfigureCommand (acpSeid : UInt8) (capabilities : List ServiceCapability) :
    Protocol × List AvdtpEvent × Message :=
  match protocol.localEndpoints.get acpSeid with
  | none => (protocol, [], .reconfigureReject 0 ErrorCode.badAcpSeid)
  | some endpoint =>
    if endpoint.state ≠ .open then (protocol, [], .reconfigureReject 0 ErrorCode.badState)
    else
      let merged := applyReconfiguration endpoint.configuration capabilities
      match configurationError endpoint merged with
      | some (category, errorCode) => (protocol, [], .reconfigureReject category errorCode)
      | none => (protocol.update acpSeid fun endpoint => { endpoint with configuration := merged },
          [.streamReconfigured acpSeid], .reconfigureResponse)

def firstUnready (expected : StreamState) (acpSeids : List UInt8) : Option (UInt8 × UInt8) :=
  acpSeids.findSome? fun seid =>
    match protocol.localEndpoints.get seid with
    | none => some (seid, ErrorCode.badAcpSeid)
    | some endpoint => if endpoint.state ≠ expected then some (seid, ErrorCode.badState) else none

def onStartOrSuspendCommand (acpSeids : List UInt8) (expected next : StreamState) :
    Protocol × List AvdtpEvent × Message :=
  match protocol.firstUnready expected acpSeids with
  | some (seid, errorCode) => (protocol, [],
      if expected = .open then .startReject seid errorCode else .suspendReject seid errorCode)
  | none => (acpSeids.foldl (fun protocol seid => protocol.update seid (enter next)) protocol,
      acpSeids.map (if next = .streaming then .streamStarted else .streamSuspended),
      if expected = .open then .startResponse else .suspendResponse)

def onOpenCommand (acpSeid : UInt8) : Protocol × List AvdtpEvent × Message :=
  match protocol.localEndpoints.get acpSeid with
  | none => (protocol, [], .reject SignalIdentifier.open ErrorCode.badAcpSeid)
  | some endpoint =>
    if endpoint.state = .configured then
      (protocol.update acpSeid (enter .open), [.streamOpened acpSeid], .openResponse)
    else (protocol, [], .reject SignalIdentifier.open ErrorCode.badState)

def onCloseCommand (acpSeid : UInt8) : Protocol × List AvdtpEvent × Message :=
  match protocol.localEndpoints.get acpSeid with
  | none => (protocol, [], .reject SignalIdentifier.close ErrorCode.badAcpSeid)
  | some endpoint =>
    if endpoint.state = .open ∨ endpoint.state = .streaming then
      (protocol.update acpSeid finish, [.streamClosed acpSeid], .closeResponse)
    else (protocol, [], .reject SignalIdentifier.close ErrorCode.badState)

def onAbortCommand (acpSeid : UInt8) : Protocol × List AvdtpEvent × Message :=
  match protocol.localEndpoints.get acpSeid with
  | none => (protocol, [], .abortResponse)
  | some endpoint =>
    if endpoint.inUse then
      (protocol.update acpSeid finish, [.streamAborted acpSeid], .abortResponse)
    else (protocol, [], .abortResponse)

def capabilitiesOf (acpSeid : UInt8) (signal : UInt8) (response : List ServiceCapability → Message) :
    Message :=
  match protocol.localEndpoints.get acpSeid with
  | none => .reject signal ErrorCode.badAcpSeid
  | some endpoint => response endpoint.capabilities

def configurationOf (acpSeid : UInt8) : Message :=
  match protocol.localEndpoints.get acpSeid with
  | none => .reject SignalIdentifier.getConfiguration ErrorCode.badAcpSeid
  | some endpoint =>
    if endpoint.state = .configured ∨ endpoint.state = .open ∨ endpoint.state = .streaming then
      .getConfigurationResponse endpoint.configuration
    else .reject SignalIdentifier.getConfiguration ErrorCode.badState

def noticed (acpSeid signal : UInt8) (event : AvdtpEvent) (response : Message) :
    List AvdtpEvent × Message :=
  match protocol.localEndpoints.get acpSeid with
  | none => ([], .reject signal ErrorCode.badAcpSeid)
  | some _ => ([event], response)

def handleCommand : Message → Option (Protocol × List AvdtpEvent × Message)
  | .discoverCommand =>
    some (protocol, [], .discoverResponse (protocol.localEndpoints.map LocalStreamEndPoint.sepInfo))
  | .getCapabilitiesCommand acpSeid => some (protocol, [],
      protocol.capabilitiesOf acpSeid SignalIdentifier.getCapabilities .getCapabilitiesResponse)
  | .getAllCapabilitiesCommand acpSeid => some (protocol, [],
      protocol.capabilitiesOf acpSeid SignalIdentifier.getAllCapabilities .getAllCapabilitiesResponse)
  | .setConfigurationCommand acpSeid intSeid capabilities =>
    some (protocol.onSetConfigurationCommand acpSeid intSeid capabilities)
  | .getConfigurationCommand acpSeid => some (protocol, [], protocol.configurationOf acpSeid)
  | .reconfigureCommand acpSeid capabilities =>
    some (protocol.onReconfigureCommand acpSeid capabilities)
  | .openCommand acpSeid => some (protocol.onOpenCommand acpSeid)
  | .startCommand acpSeids => some (protocol.onStartOrSuspendCommand acpSeids .open .streaming)
  | .suspendCommand acpSeids => some (protocol.onStartOrSuspendCommand acpSeids .streaming .open)
  | .closeCommand acpSeid => some (protocol.onCloseCommand acpSeid)
  | .abortCommand acpSeid => some (protocol.onAbortCommand acpSeid)
  | .securityControlCommand acpSeid data =>
    let (events, response) := protocol.noticed acpSeid SignalIdentifier.securityControl
      (.securityControl acpSeid data) .securityControlResponse
    some (protocol, events, response)
  | .delayReportCommand acpSeid delay =>
    let (events, response) := protocol.noticed acpSeid SignalIdentifier.delayReport
      (.delayReport acpSeid delay) .delayReportResponse
    some (protocol, events, response)
  | _ => none

def respond (transactionLabel : UInt8) (message : Message) : List Bytes :=
  writeMessage transactionLabel message protocol.peerMtu

def refusal (response : Message) : List AvdtpEvent :=
  match response.rejectErrorCode with
  | some errorCode => [.commandRefused response.signalIdentifier errorCode]
  | none => []

def onCommand (assembled : AssembledMessage) : Protocol × List Bytes × List AvdtpEvent :=
  if assembled.signalIdentifier = 0 then (protocol, [], [])
  else if SignalIdentifier.delayReport < assembled.signalIdentifier then
    (protocol, protocol.respond assembled.transactionLabel (.generalReject assembled.signalIdentifier),
      [.commandRefused assembled.signalIdentifier 0])
  else
    match Message.parse assembled.signalIdentifier .command assembled.payload with
    | none => (protocol, [], [])
    | some message =>
      match protocol.handleCommand message with
      | none => (protocol, [], [])
      | some (after, events, response) =>
        (after, after.respond assembled.transactionLabel response, events ++ refusal response)

/-! ### Responses of the peer -/

def onAccepted : Pending → Message → Protocol × List AvdtpEvent
  | .setConfiguration acpSeid intSeid capabilities, .setConfigurationResponse =>
    (protocol.update intSeid (configure capabilities acpSeid), [.streamConfigured intSeid])
  | .reconfigure intSeid capabilities, .reconfigureResponse =>
    (protocol.update intSeid fun endpoint => { endpoint with
        configuration := applyReconfiguration endpoint.configuration capabilities },
      [.streamReconfigured intSeid])
  | .open intSeid, .openResponse => (protocol.update intSeid (enter .open), [.streamOpened intSeid])
  | .start intSeids, .startResponse =>
    (intSeids.foldl (fun protocol seid => protocol.update seid (enter .streaming)) protocol,
      intSeids.map .streamStarted)
  | .suspend intSeids, .suspendResponse =>
    (intSeids.foldl (fun protocol seid => protocol.update seid (enter .open)) protocol,
      intSeids.map .streamSuspended)
  | .close intSeid, .closeResponse => (protocol.update intSeid finish, [.streamClosed intSeid])
  | .abort intSeid, .abortResponse => (protocol.update intSeid finish, [.streamAborted intSeid])
  | _, _ => (protocol, [])

/-- The error code of a response that is no accept, 0 if it carries none. -/
def rejectedWith (assembled : AssembledMessage) : UInt8 :=
  match Message.parse assembled.signalIdentifier assembled.messageType assembled.payload with
  | some (.generalReject _) | none => 0
  | some message => message.rejectErrorCode.getD 0

def onResponse (assembled : AssembledMessage) : Protocol × List AvdtpEvent :=
  match protocol.pending.lookup assembled.transactionLabel with
  | none => (protocol, [])
  | some pending =>
    let protocol := { protocol with pending := protocol.pending.erase assembled.transactionLabel }
    if assembled.signalIdentifier ≠ pending.signalIdentifier ∧
        assembled.messageType ≠ .generalReject then (protocol, [])
    else if assembled.messageType ≠ .responseAccept then
      (protocol, [.commandRejected pending.signalIdentifier (rejectedWith assembled)])
    else
      match Message.parse assembled.signalIdentifier .responseAccept assembled.payload with
      | none => (protocol, [])
      | some message => protocol.onAccepted pending message

def receive (pdu : Bytes) : Rust (Protocol × List Bytes × List AvdtpEvent) := do
  let (assembler, assembled) ← protocol.assembler.onPdu pdu
  let protocol := { protocol with assembler }
  match assembled with
  | none => return (protocol, [], [])
  | some assembled =>
    if assembled.messageType = .command then return protocol.onCommand assembled
    else
      let (protocol, events) := protocol.onResponse assembled
      return (protocol, [], events)

end Protocol

end Simble.Avdtp
