import Mathlib.Tactic.IntervalCases
import Simble.Octets
import Simble.Lib.Feed
import Simble.Lib.Pieces

/-! AVDTP signaling messages (`classic/avdtp.rs`): their payloads, cut into PDUs that fit the
peer's MTU and put together again. -/
namespace Simble.Avdtp
open List

/-! ## Messages -/

inductive MediaType where
  | audio
  | video
  | multimedia
deriving DecidableEq, Repr

def MediaType.asU8 : MediaType → UInt8
  | .audio => 0x00
  | .video => 0x01
  | .multimedia => 0x02

inductive StreamEndPointType where
  | source
  | sink
deriving DecidableEq, Repr

def StreamEndPointType.asU8 : StreamEndPointType → UInt8
  | .source => 0x00
  | .sink => 0x01

inductive MessageType where
  | command
  | generalReject
  | responseAccept
  | responseReject
deriving DecidableEq, Repr

namespace MessageType

def fromBits (bits : UInt8) : MessageType :=
  match (bits &&& 3).toNat with
  | 0 => .command
  | 1 => .generalReject
  | 2 => .responseAccept
  | _ => .responseReject

def asBits : MessageType → UInt8
  | .command => 0
  | .generalReject => 1
  | .responseAccept => 2
  | .responseReject => 3

end MessageType

inductive PacketType where
  | single
  | start
  | continue
  | end
deriving DecidableEq, Repr

namespace PacketType

def fromBits (bits : UInt8) : PacketType :=
  match (bits &&& 3).toNat with
  | 0 => .single
  | 1 => .start
  | 2 => .continue
  | _ => .end

def asBits : PacketType → UInt8
  | .single => 0
  | .start => 1
  | .continue => 2
  | .end => 3

end PacketType

structure ServiceCapability where
  serviceCategory : UInt8
  data : Bytes
deriving DecidableEq, Repr

def ServiceCapability.serializeList (capabilities : List ServiceCapability) : Bytes :=
  capabilities.flatMap fun capability =>
    capability.serviceCategory :: UInt8.ofNat capability.data.length :: capability.data

structure SepInfo where
  seid : UInt8
  inUse : Bool
  mediaType : MediaType
  tsep : StreamEndPointType
deriving DecidableEq, Repr

def SepInfo.toBytes (info : SepInfo) : Bytes :=
  [(info.seid <<< 2) ||| (bit info.inUse <<< 1),
    (info.mediaType.asU8 <<< 4) ||| (info.tsep.asU8 <<< 3)]

inductive Message where
  | discoverCommand
  | discoverResponse (endpoints : List SepInfo)
  | getCapabilitiesCommand (acpSeid : UInt8)
  | getCapabilitiesResponse (capabilities : List ServiceCapability)
  | getAllCapabilitiesCommand (acpSeid : UInt8)
  | getAllCapabilitiesResponse (capabilities : List ServiceCapability)
  | setConfigurationCommand (acpSeid intSeid : UInt8) (capabilities : List ServiceCapability)
  | setConfigurationResponse
  | setConfigurationReject (serviceCategory errorCode : UInt8)
  | getConfigurationCommand (acpSeid : UInt8)
  | getConfigurationResponse (capabilities : List ServiceCapability)
  | reconfigureCommand (acpSeid : UInt8) (capabilities : List ServiceCapability)
  | reconfigureResponse
  | reconfigureReject (serviceCategory errorCode : UInt8)
  | openCommand (acpSeid : UInt8)
  | openResponse
  | startCommand (acpSeids : List UInt8)
  | startResponse
  | startReject (acpSeid errorCode : UInt8)
  | suspendCommand (acpSeids : List UInt8)
  | suspendResponse
  | suspendReject (acpSeid errorCode : UInt8)
  | closeCommand (acpSeid : UInt8)
  | closeResponse
  | abortCommand (acpSeid : UInt8)
  | abortResponse
  | securityControlCommand (acpSeid : UInt8) (data : Bytes)
  | securityControlResponse
  | delayReportCommand (acpSeid : UInt8) (delay : UInt16)
  | delayReportResponse
  | reject (signalIdentifier errorCode : UInt8)
  | generalReject (signalIdentifier : UInt8)
deriving DecidableEq, Repr

def seidToByte (seid : UInt8) : UInt8 := seid <<< 2

namespace SignalIdentifier
def discover : UInt8 := 0x01
def getCapabilities : UInt8 := 0x02
def setConfiguration : UInt8 := 0x03
def getConfiguration : UInt8 := 0x04
def reconfigure : UInt8 := 0x05
def «open» : UInt8 := 0x06
def start : UInt8 := 0x07
def close : UInt8 := 0x08
def suspend : UInt8 := 0x09
def abort : UInt8 := 0x0A
def securityControl : UInt8 := 0x0B
def getAllCapabilities : UInt8 := 0x0C
def delayReport : UInt8 := 0x0D
end SignalIdentifier

namespace Message

def signalIdentifier : Message → UInt8
  | discoverCommand | discoverResponse _ => SignalIdentifier.discover
  | getCapabilitiesCommand _ | getCapabilitiesResponse _ => SignalIdentifier.getCapabilities
  | getAllCapabilitiesCommand _ | getAllCapabilitiesResponse _ =>
    SignalIdentifier.getAllCapabilities
  | setConfigurationCommand .. | setConfigurationResponse | setConfigurationReject .. =>
    SignalIdentifier.setConfiguration
  | getConfigurationCommand _ | getConfigurationResponse _ => SignalIdentifier.getConfiguration
  | reconfigureCommand .. | reconfigureResponse | reconfigureReject .. =>
    SignalIdentifier.reconfigure
  | openCommand _ | openResponse => SignalIdentifier.open
  | startCommand _ | startResponse | startReject .. => SignalIdentifier.start
  | suspendCommand _ | suspendResponse | suspendReject .. => SignalIdentifier.suspend
  | closeCommand _ | closeResponse => SignalIdentifier.close
  | abortCommand _ | abortResponse => SignalIdentifier.abort
  | securityControlCommand .. | securityControlResponse => SignalIdentifier.securityControl
  | delayReportCommand .. | delayReportResponse => SignalIdentifier.delayReport
  | reject signalIdentifier _ | generalReject signalIdentifier => signalIdentifier

def messageType : Message → MessageType
  | discoverCommand | getCapabilitiesCommand _ | getAllCapabilitiesCommand _
  | setConfigurationCommand .. | getConfigurationCommand _ | reconfigureCommand ..
  | openCommand _ | startCommand _ | suspendCommand _ | closeCommand _ | abortCommand _
  | securityControlCommand .. | delayReportCommand .. => .command
  | setConfigurationReject .. | reconfigureReject .. | startReject .. | suspendReject ..
  | reject .. => .responseReject
  | generalReject _ => .generalReject
  | _ => .responseAccept

def toPayload : Message → Bytes
  | discoverCommand | setConfigurationResponse | reconfigureResponse | openResponse
  | startResponse | suspendResponse | closeResponse | abortResponse | securityControlResponse
  | delayReportResponse | generalReject _ => []
  | discoverResponse endpoints => endpoints.flatMap SepInfo.toBytes
  | getCapabilitiesCommand acpSeid | getAllCapabilitiesCommand acpSeid
  | getConfigurationCommand acpSeid | openCommand acpSeid | closeCommand acpSeid
  | abortCommand acpSeid => [seidToByte acpSeid]
  | getCapabilitiesResponse capabilities | getAllCapabilitiesResponse capabilities
  | getConfigurationResponse capabilities => ServiceCapability.serializeList capabilities
  | setConfigurationCommand acpSeid intSeid capabilities =>
    seidToByte acpSeid :: seidToByte intSeid :: ServiceCapability.serializeList capabilities
  | reconfigureCommand acpSeid capabilities =>
    seidToByte acpSeid :: ServiceCapability.serializeList capabilities
  | setConfigurationReject serviceCategory errorCode
  | reconfigureReject serviceCategory errorCode => [serviceCategory, errorCode]
  | startCommand acpSeids | suspendCommand acpSeids => acpSeids.map seidToByte
  | startReject acpSeid errorCode | suspendReject acpSeid errorCode =>
    [seidToByte acpSeid, errorCode]
  | securityControlCommand acpSeid data => seidToByte acpSeid :: data
  | delayReportCommand acpSeid delay => seidToByte acpSeid :: U16.toBeBytes delay
  | reject _ errorCode => [errorCode]

end Message

/-! ## Writing -/

def headerByte (transactionLabel : UInt8) (packetType : PacketType) (messageType : MessageType) :
    UInt8 :=
  (transactionLabel <<< 4) ||| (packetType.asBits <<< 2) ||| messageType.asBits

theorem headerByte_fields {label : UInt8} (small : label < 16) (packetType : PacketType)
    (messageType : MessageType) :
    headerByte label packetType messageType >>> 4 = label ∧
    PacketType.fromBits (headerByte label packetType messageType >>> 2) = packetType ∧
    MessageType.fromBits (headerByte label packetType messageType) = messageType := by
  have bounded : label.toNat < 16 := small
  have same : label = UInt8.ofNat label.toNat := by simp
  generalize label.toNat = value at bounded same
  subst same
  interval_cases value <;> cases packetType <;> cases messageType <;> decide

section Writing
variable (transactionLabel signal : UInt8) (messageType : MessageType) (maxFragmentSize : ℕ+)

/-- What stands before the data in a PDU. A start PDU counts the PDUs that the
payload takes, in one octet. -/
def header (packetType : PacketType) (payload : Bytes) : Bytes :=
  let firstByte := headerByte transactionLabel packetType messageType
  match packetType with
  | .single => [firstByte, signal]
  | .start => [firstByte, signal, UInt8.ofNat (Lib.divCeil payload.length maxFragmentSize)]
  | _ => [firstByte]

/-- The loop of `write_message`. -/
def writeLoop (packetType : PacketType) (payload : Bytes) : List Bytes :=
  let take := min maxFragmentSize.val payload.length
  let pdu := header transactionLabel signal messageType maxFragmentSize packetType payload ++
    payload.take take
  if payload.drop take = [] then [pdu] else
    let packetType := if (payload.drop take).length > maxFragmentSize then .continue else .end
    pdu :: writeLoop packetType (payload.drop take)
termination_by payload.length
decreasing_by
  rename_i more
  have := maxFragmentSize.pos
  simp only [List.drop_eq_nil_iff, not_le, List.length_drop] at more ⊢
  omega

end Writing

def maxFragmentSize (peerMtu : UInt16) : ℕ+ := ⟨max (peerMtu.toNat - 3) 1, by omega⟩

theorem maxFragmentSize_val {peerMtu : UInt16} (room : 4 ≤ peerMtu) :
    (maxFragmentSize peerMtu : Nat) + 3 = peerMtu.toNat := by
  have room : 4 ≤ peerMtu.toNat := room
  change max (peerMtu.toNat - 3) 1 + 3 = peerMtu.toNat
  omega

def writeMessage (transactionLabel : UInt8) (message : Message) (peerMtu : UInt16) : List Bytes :=
  let payload := message.toPayload
  let packetType := if payload.length + 2 ≤ peerMtu.toNat then .single else .start
  writeLoop transactionLabel message.signalIdentifier message.messageType
    (maxFragmentSize peerMtu) packetType payload

/-! ## Reassembly -/

structure AssembledMessage where
  transactionLabel : UInt8
  signalIdentifier : UInt8
  messageType : MessageType
  payload : Bytes
deriving DecidableEq, Repr

structure MessageAssembler where
  transactionLabel : UInt8 := 0
  message : Option Bytes := none
  messageType : MessageType := .command
  signalIdentifier : UInt8 := 0
  numberOfSignalPackets : UInt8 := 0
  packetCount : Nat := 0
deriving DecidableEq, Repr

namespace MessageAssembler

/-- `MessageAssembler::new`, and what `reset` leaves. -/
def new : MessageAssembler := {}

variable (assembler : MessageAssembler)

def complete : MessageAssembler × Option AssembledMessage :=
  (new, some ⟨assembler.transactionLabel, assembler.signalIdentifier, assembler.messageType,
    assembler.message.getD []⟩)

/-- The arm of `on_pdu` for a single or start packet, after the header octet. -/
def begin (transactionLabel : UInt8) (messageType : MessageType) (single : Bool) (rest : Bytes) :
    MessageAssembler × Option AssembledMessage :=
  match rest with
  | [] => (assembler, none)
  | second :: data =>
    -- The previous fragmented message was never terminated.
    let assembler :=
      if assembler.message.isSome then { new with packetCount := 1 } else assembler
    let assembler :=
      { assembler with transactionLabel, signalIdentifier := second &&& 0x3F, messageType }
    if single then complete { assembler with message := some data } else
    match data with
    | [] => (assembler, none)
    | numberOfSignalPackets :: data =>
      ({ assembler with numberOfSignalPackets, message := some data }, none)

/-- The arm of `on_pdu` for a continue or end packet, after the header octet. -/
def extend (transactionLabel : UInt8) (messageType : MessageType) (last : Bool) (data : Bytes) :
    MessageAssembler × Option AssembledMessage :=
  match assembler.message with
  | none => (assembler, none)
  | some message =>
    if transactionLabel ≠ assembler.transactionLabel ∨ messageType ≠ assembler.messageType then
      (assembler, none)
    else
      let extended := { assembler with message := some (message ++ data) }
      if last then
        if assembler.packetCount ≠ assembler.numberOfSignalPackets.toNat then (new, none)
        else extended.complete
      else if assembler.packetCount > assembler.numberOfSignalPackets.toNat then (new, none)
      else (extended, none)

def receive (packetType : PacketType) (transactionLabel : UInt8) (messageType : MessageType)
    (rest : Bytes) : MessageAssembler × Option AssembledMessage :=
  match packetType with
  | .single => assembler.begin transactionLabel messageType true rest
  | .start => assembler.begin transactionLabel messageType false rest
  | .continue => assembler.extend transactionLabel messageType false rest
  | .end => assembler.extend transactionLabel messageType true rest

def onPdu (pdu : Bytes) : Rust (MessageAssembler × Option AssembledMessage) := do
  let packetCount ← U8.add assembler.packetCount 1
  let assembler := { assembler with packetCount }
  match pdu with
  | [] => pure (assembler, none)
  | firstByte :: rest =>
    pure (assembler.receive (PacketType.fromBits (firstByte >>> 2)) (firstByte >>> 4)
      (MessageType.fromBits firstByte) rest)

def onPdus : MessageAssembler → List Bytes →
    Rust (MessageAssembler × List (Option AssembledMessage)) := Lib.feed onPdu

end MessageAssembler

/-! ## The PDUs of a message -/

section Loop
variable (label signal : UInt8) (messageType : MessageType) (size : ℕ+)

/-- The loop from its second turn on. -/
def writeRest (payload : Bytes) : List Bytes :=
  writeLoop label signal messageType size
    (if payload.length > size then .continue else .end) payload

variable (packetType : PacketType) {payload : Bytes}

theorem writeLoop_last (fits : payload.length ≤ size) :
    writeLoop label signal messageType size packetType payload =
      [header label signal messageType size packetType payload ++ payload] := by
  rw [writeLoop]
  simp only [Nat.min_eq_right fits, drop_length, if_true, take_length]

theorem writeLoop_more (exceeds : size < payload.length) :
    writeLoop label signal messageType size packetType payload =
      (header label signal messageType size packetType payload ++ payload.take size) ::
        writeRest label signal messageType size (payload.drop size) := by
  have more : payload.drop size ≠ [] := by simpa using exceeds
  rw [writeLoop]
  simp only [Nat.min_eq_left exceeds.le, if_neg more]
  rfl

theorem writeRest_last (fits : payload.length ≤ size) :
    writeRest label signal messageType size payload =
      [headerByte label .end messageType :: payload] := by
  rw [writeRest, if_neg (Nat.not_lt.mpr fits), writeLoop_last _ _ _ _ _ fits]
  rfl

theorem writeRest_more (exceeds : size < payload.length) :
    writeRest label signal messageType size payload =
      (headerByte label .continue messageType :: payload.take size) ::
        writeRest label signal messageType size (payload.drop size) := by
  rw [writeRest, if_pos exceeds, writeLoop_more _ _ _ _ _ exceeds]
  rfl

variable (payload)

theorem writeRest_length (nonempty : payload ≠ []) :
    (writeRest label signal messageType size payload).length =
      Lib.divCeil payload.length size := by
  induction payload using Lib.piecewise size with
  | last payload fits =>
    rw [writeRest_last _ _ _ _ fits, length_singleton,
      Lib.divCeil_of_le (List.length_pos_iff.mpr nonempty) fits]
  | more payload exceeds ih =>
    have rest : payload.drop size ≠ [] := by simpa using exceeds
    rw [writeRest_more _ _ _ _ exceeds, length_cons, ih rest, length_drop,
      Lib.divCeil_of_lt size.pos exceeds]

theorem header_length : (header label signal messageType size packetType payload).length ≤ 3 := by
  cases packetType <;> simp [header]

theorem writeLoop_bounded : ∀ pdu ∈ writeLoop label signal messageType size packetType payload,
    pdu.length ≤ 3 + size := by
  induction payload using Lib.piecewise size generalizing packetType with
  | last payload fits =>
    rw [writeLoop_last _ _ _ _ _ fits]
    have := header_length label signal messageType size packetType payload
    simp only [mem_singleton, forall_eq, length_append]
    omega
  | more payload exceeds ih =>
    rw [writeLoop_more _ _ _ _ _ exceeds]
    have := header_length label signal messageType size packetType payload
    refine List.forall_mem_cons.mpr ⟨?_, ih _⟩
    simp only [length_append, length_take]
    omega

end Loop

/-! ## Round trip -/

open MessageAssembler

section RoundTrip
variable {label : UInt8} {messageType : MessageType}

def MessageAssembler.counted (assembler : MessageAssembler) : MessageAssembler :=
  { assembler with packetCount := assembler.packetCount + 1 }

theorem onPdu_header {assembler : MessageAssembler} (small : label < 16)
    (room : assembler.packetCount < 255) (packetType : PacketType) (rest : Bytes) :
    assembler.onPdu (headerByte label packetType messageType :: rest) =
      .ok (assembler.counted.receive packetType label messageType rest) := by
  obtain ⟨sameLabel, sameType, sameMessage⟩ := headerByte_fields small packetType messageType
  rw [onPdu, U8.add_ok room]
  simp only [Rust.ok_bind, sameLabel, sameType, sameMessage]
  rfl

theorem onPdu_panic {assembler : MessageAssembler} (full : 255 ≤ assembler.packetCount)
    (pdu : Bytes) : assembler.onPdu pdu = .error .panic := by
  rw [onPdu, U8.add, if_neg (by omega)]
  rfl

theorem onPdus_header {assembler last : MessageAssembler} (small : label < 16)
    {packetType : PacketType} {rest : Bytes} {pdus : List Bytes}
    {outputs : List (Option AssembledMessage)}
    (fed : assembler.onPdus ((headerByte label packetType messageType :: rest) :: pdus) =
      .ok (last, outputs)) :
    assembler.packetCount < 255 ∧ ∃ later,
      outputs = (assembler.counted.receive packetType label messageType rest).2 :: later ∧
      (assembler.counted.receive packetType label messageType rest).1.onPdus pdus =
        .ok (last, later) := by
  obtain ⟨next, output, later, stepped, tail, rfl⟩ := Lib.feed_cons_ok.mp fed
  rcases Nat.lt_or_ge assembler.packetCount 255 with room | full
  · rw [onPdu_header small room] at stepped
    obtain ⟨rfl, rfl⟩ := Prod.ext_iff.mp (Except.ok.inj stepped)
    exact ⟨room, later, rfl, tail⟩
  · rw [onPdu_panic full] at stepped
    cases stepped

variable (label messageType) (signal : UInt8) (size : ℕ+)

theorem onPdus_writeRest (small : label < 16) (written : UInt8) {number : UInt8} {count : Nat}
    (held payload : Bytes) (nonempty : payload ≠ [])
    (counted : count + (writeRest label signal messageType size payload).length = number.toNat) :
    onPdus ⟨label, some held, messageType, written, number, count⟩
        (writeRest label signal messageType size payload) =
      .ok (.new, Lib.once (writeRest label signal messageType size payload).length
        ⟨label, written, messageType, held ++ payload⟩) := by
  have bounded := number.toNat_lt
  induction payload using Lib.piecewise size generalizing held count with
  | last payload fits =>
    rw [writeRest_last _ _ _ _ fits, length_singleton] at counted
    have room : count < 255 := by omega
    rw [writeRest_last _ _ _ _ fits]
    refine Lib.feed_step ((onPdu_header small room _ _).trans ?_) rfl
    simp [receive, extend, complete,
      MessageAssembler.counted, counted]
    rfl
  | more payload exceeds ih =>
    have rest : payload.drop size ≠ [] := by simpa using exceeds
    have further : 0 < (writeRest label signal messageType size (payload.drop size)).length := by
      rw [writeRest_length _ _ _ _ _ rest]
      exact Lib.divCeil_pos size.pos (List.length_pos_iff.mpr rest)
    rw [writeRest_more _ _ _ _ exceeds, length_cons] at counted
    have later : count + 1 +
        (writeRest label signal messageType size (payload.drop size)).length = number.toNat := by
      omega
    have room : count < 255 := by omega
    have within : ¬ count + 1 > number.toNat := by omega
    have done := ih (held ++ payload.take size) rest later
    rw [append_assoc, take_append_drop] at done
    rw [writeRest_more _ _ _ _ exceeds, length_cons, Lib.once_succ further]
    refine Lib.feed_step ((onPdu_header small room _ _).trans ?_) done
    simp [receive, extend, MessageAssembler.counted, within]
    rfl

/-- A receiver that will not get its message whole out of `remaining` more
PDUs: it holds none, or has counted too many already. -/
def Behind (assembler : MessageAssembler) (remaining : Nat) : Prop :=
  assembler.message.isSome →
    assembler.numberOfSignalPackets.toNat < assembler.packetCount + remaining

theorem extend_continue_behind {assembler : MessageAssembler} {remaining : Nat}
    (behind : Behind assembler remaining) (data : Bytes) :
    (assembler.extend label messageType false data).2 = none ∧
    Behind (assembler.extend label messageType false data).1 remaining := by
  unfold extend
  simp only [Bool.false_eq_true, if_false]
  split
  · exact ⟨rfl, behind⟩
  · rename_i held some'
    split_ifs
    · exact ⟨rfl, behind⟩
    · exact ⟨rfl, nofun⟩
    · exact ⟨rfl, fun _ => behind (by simp [some'])⟩

theorem extend_end_behind {assembler : MessageAssembler} (behind : Behind assembler 0)
    (data : Bytes) : (assembler.extend label messageType true data).2 = none := by
  unfold extend
  simp only [if_true]
  split
  · rfl
  · rename_i held some'
    have past := behind (by simp [some'])
    split_ifs with _ equal
    · rfl
    · rfl
    · omega

/-- Such a receiver gets nothing out of them. -/
theorem onPdus_writeRest_none (small : label < 16) (payload : Bytes)
    {assembler last : MessageAssembler} {outputs : List (Option AssembledMessage)}
    (behind : Behind assembler (writeRest label signal messageType size payload).length)
    (fed : assembler.onPdus (writeRest label signal messageType size payload) =
      .ok (last, outputs)) :
    ∀ output ∈ outputs, output = none := by
  induction payload using Lib.piecewise size generalizing assembler outputs with
  | last payload fits =>
    rw [writeRest_last _ _ _ _ fits] at fed behind
    obtain ⟨-, later, rfl, tail⟩ := onPdus_header small fed
    cases tail
    have counted : Behind assembler.counted 0 := behind
    simpa [receive] using extend_end_behind label messageType counted payload
  | more payload exceeds ih =>
    rw [writeRest_more _ _ _ _ exceeds] at fed behind
    obtain ⟨-, later, rfl, tail⟩ := onPdus_header small fed
    have counted : Behind assembler.counted
        (writeRest label signal messageType size (payload.drop size)).length := by
      intro holds
      have past := behind holds
      simp only [length_cons, MessageAssembler.counted] at past ⊢
      omega
    obtain ⟨silent, still⟩ :=
      extend_continue_behind label messageType counted (payload.take size)
    exact List.forall_mem_cons.mpr ⟨silent, ih still tail⟩

end RoundTrip

/-! ## When messages get through -/

def Delivered (assembler : MessageAssembler) (label : UInt8) (message : Message)
    (peerMtu : UInt16) : Prop :=
  (∀ pdu ∈ writeMessage label message peerMtu, pdu.length ≤ peerMtu.toNat) ∧
  ∃ last, assembler.onPdus (writeMessage label message peerMtu) =
    .ok (last, Lib.once (writeMessage label message peerMtu).length
      ⟨label, message.signalIdentifier, message.messageType, message.toPayload⟩)

/-- The signal identifier has six bits, the payload is not the one size that the sender takes for
a single packet and then cuts, and the receiver has counted no stray PDUs. -/
def Deliverable (assembler : MessageAssembler) (message : Message) (peerMtu : UInt16) : Prop :=
  assembler.packetCount < 255 ∧ message.signalIdentifier < 64 ∧
  message.toPayload.length + 2 ≠ peerMtu.toNat ∧
  (peerMtu.toNat < message.toPayload.length + 2 →
    assembler.message.isSome ∨ assembler.packetCount = 0)

section Delivery
variable {assembler : MessageAssembler} {label : UInt8} {message : Message} {peerMtu : UInt16}

theorem pdus_fit (label : UInt8) (message : Message) (room : 4 ≤ peerMtu) :
    ∀ pdu ∈ writeMessage label message peerMtu, pdu.length ≤ peerMtu.toNat := by
  intro pdu listed
  have size := maxFragmentSize_val room
  have := writeLoop_bounded _ _ _ _ _ _ pdu listed
  omega

theorem writeMessage_single (room : 4 ≤ peerMtu)
    (fits : message.toPayload.length + 2 < peerMtu.toNat) :
    writeMessage label message peerMtu =
      [headerByte label .single message.messageType :: message.signalIdentifier ::
        message.toPayload] := by
  have size := maxFragmentSize_val room
  rw [writeMessage, if_pos (by omega), writeLoop_last _ _ _ _ _ (by omega)]
  rfl

theorem writeMessage_cut (label : UInt8) (room : 4 ≤ peerMtu)
    (between : message.toPayload.length + 2 = peerMtu.toNat) :
    ∃ first second, writeMessage label message peerMtu =
      [headerByte label .single message.messageType :: message.signalIdentifier :: first,
        second] := by
  have size := maxFragmentSize_val room
  have short : (message.toPayload.drop (maxFragmentSize peerMtu)).length ≤
      maxFragmentSize peerMtu := by
    have pos := (maxFragmentSize peerMtu).pos
    rw [length_drop]
    omega
  rw [writeMessage, if_pos (by omega), writeLoop_more _ _ _ _ _ (by omega),
    writeRest_last _ _ _ _ short]
  exact ⟨_, _, rfl⟩

theorem writeMessage_start (room : 4 ≤ peerMtu)
    (long : peerMtu.toNat < message.toPayload.length + 2) :
    writeMessage label message peerMtu =
      (headerByte label .start message.messageType :: message.signalIdentifier ::
        UInt8.ofNat (Lib.divCeil message.toPayload.length (maxFragmentSize peerMtu)) ::
          message.toPayload.take (maxFragmentSize peerMtu)) ::
      writeRest label message.signalIdentifier message.messageType (maxFragmentSize peerMtu)
        (message.toPayload.drop (maxFragmentSize peerMtu)) := by
  have size := maxFragmentSize_val room
  rw [writeMessage, if_neg (by omega), writeLoop_more _ _ _ _ _ (by omega)]
  rfl

theorem masked_signal {signal : UInt8} : signal &&& 0x3F = signal ↔ signal < 64 := by
  constructor
  · intro same
    rw [← same]
    exact Nat.lt_of_le_of_lt (by simpa using Nat.and_le_right) (by decide : 63 < 64)
  · intro small
    have bounded : signal.toNat < 64 := small
    apply UInt8.toNat_inj.mp
    simpa using Nat.and_two_pow_sub_one_of_lt_two_pow (n := 6) bounded

theorem begin_single {messageType : MessageType} (signal : UInt8) (data : Bytes) :
    assembler.begin label messageType true (signal :: data) =
      (.new, some ⟨label, signal &&& 0x3F, messageType, data⟩) := rfl

theorem begin_start {messageType : MessageType} (signal number : UInt8) (data : Bytes) :
    assembler.begin label messageType false (signal :: number :: data) =
      (⟨label, some data, messageType, signal &&& 0x3F, number,
        if assembler.message.isSome then 1 else assembler.packetCount⟩, none) := by
  unfold begin
  simp only [Bool.false_eq_true, if_false]
  split_ifs <;> rfl

theorem delivered_single (room : 4 ≤ peerMtu) (small : label < 16)
    (fits : message.toPayload.length + 2 < peerMtu.toNat) :
    Delivered assembler label message peerMtu ↔ Deliverable assembler message peerMtu := by
  have bounded := pdus_fit label message room
  unfold Delivered Deliverable
  rw [writeMessage_single room fits] at bounded ⊢
  constructor
  · rintro ⟨-, last, fed⟩
    obtain ⟨free, later, same, -⟩ := onPdus_header small fed
    have heads := head_eq_of_cons_eq same
    have signals := congrArg AssembledMessage.signalIdentifier (Option.some.inj heads)
    exact ⟨free, masked_signal.mp signals.symm, by omega, by omega⟩
  · rintro ⟨free, signals, -, -⟩
    refine ⟨bounded, .new, Lib.feed_step ((onPdu_header small free _ _).trans ?_) rfl⟩
    rw [receive, begin_single, masked_signal.mpr signals]
    rfl

theorem delivered_cut (room : 4 ≤ peerMtu) (small : label < 16)
    (between : message.toPayload.length + 2 = peerMtu.toNat) :
    ¬ Delivered assembler label message peerMtu := by
  rintro ⟨-, last, fed⟩
  obtain ⟨first, second, pdus⟩ := writeMessage_cut label room between
  rw [pdus] at fed
  obtain ⟨-, later, same, -⟩ := onPdus_header small fed
  have heads := head_eq_of_cons_eq same
  cases heads

theorem delivered_start (room : 4 ≤ peerMtu) (small : label < 16)
    (long : peerMtu.toNat < message.toPayload.length + 2)
    (countable : (writeMessage label message peerMtu).length ≤ 255) :
    Delivered assembler label message peerMtu ↔ Deliverable assembler message peerMtu := by
  have bounded := pdus_fit label message room
  have size := maxFragmentSize_val room
  unfold Delivered Deliverable
  rw [writeMessage_start room long] at bounded countable ⊢
  rw [length_cons] at countable ⊢
  have rest : message.toPayload.drop (maxFragmentSize peerMtu) ≠ [] := by
    apply ne_nil_of_length_pos
    rw [length_drop]
    omega
  have length := writeRest_length label message.signalIdentifier message.messageType
    (maxFragmentSize peerMtu) _ rest
  have further := Lib.divCeil_pos (maxFragmentSize peerMtu).pos (List.length_pos_iff.mpr rest)
  have number : (UInt8.ofNat (Lib.divCeil message.toPayload.length
      (maxFragmentSize peerMtu))).toNat = (writeRest label message.signalIdentifier
        message.messageType (maxFragmentSize peerMtu)
          (message.toPayload.drop (maxFragmentSize peerMtu))).length + 1 := by
    rw [Lib.divCeil_of_lt (maxFragmentSize peerMtu).pos (by omega), length, length_drop,
      UInt8.toNat_ofNat', Nat.mod_eq_of_lt]
    rw [length, length_drop] at countable
    omega
  have counted := (Nat.add_comm 1 _).trans number.symm
  rw [← length] at further
  rw [Lib.once_succ further]
  constructor
  · rintro ⟨-, last, fed⟩
    obtain ⟨free, later, same, tail⟩ := onPdus_header small fed
    rw [receive, begin_start] at same tail
    obtain ⟨-, rfl⟩ := List.cons_eq_cons.mp same
    have pending : assembler.message.isSome ∨ assembler.packetCount = 0 := by
      by_contra stray
      obtain ⟨idle, some'⟩ := not_or.mp stray
      have silent := onPdus_writeRest_none label message.messageType message.signalIdentifier
        (maxFragmentSize peerMtu) small _ (fun _ => ?_) tail
      · have answered := silent (some _) (mem_append_right _ mem_cons_self)
        cases answered
      · have late : (if assembler.counted.message.isSome then 1
            else assembler.counted.packetCount) = assembler.packetCount + 1 := if_neg idle
        simp only [late, number]
        omega
    have restarted : (if assembler.counted.message.isSome then 1
        else assembler.counted.packetCount) = 1 := by
      rcases pending with held | none
      · exact if_pos held
      · simp [MessageAssembler.counted, none]
    rw [restarted, onPdus_writeRest _ _ _ _ small _ _ _ rest counted, take_append_drop] at tail
    have signals := append_inj_right' (Prod.ext_iff.mp (Except.ok.inj tail)).2 rfl
    have signals := congrArg AssembledMessage.signalIdentifier
      (Option.some.inj (head_eq_of_cons_eq signals))
    exact ⟨free, masked_signal.mp signals, by omega, fun _ => pending⟩
  · rintro ⟨free, signals, -, pending⟩
    have restarted : (if assembler.counted.message.isSome then 1
        else assembler.counted.packetCount) = 1 := by
      rcases pending long with held | none
      · exact if_pos held
      · simp [MessageAssembler.counted, none]
    have done := onPdus_writeRest label message.messageType message.signalIdentifier
      (maxFragmentSize peerMtu) small message.signalIdentifier
      (message.toPayload.take (maxFragmentSize peerMtu)) _ rest
      counted
    rw [take_append_drop] at done
    refine ⟨bounded, .new, Lib.feed_step ((onPdu_header small free _ _).trans ?_) done⟩
    rw [receive, begin_start, restarted, masked_signal.mpr signals]
    rfl

end Delivery

/-! ## Hostile peers -/

/-- What the PDUs alone tell of a receiver: the message in progress, by its label, type and number
of packets, and how many PDUs came since one was last completed, replaced or given up. -/
structure Listener where
  message : Option (UInt8 × MessageType × UInt8) := none
  counted : Nat := 0

namespace Listener

def hear (listener : Listener) (pdu : Bytes) : Listener :=
  let more : Listener := { listener with counted := listener.counted + 1 }
  let begun := if listener.message.isSome then 1 else more.counted
  match pdu with
  | [] => more
  | firstByte :: rest =>
    let label := firstByte >>> 4
    let messageType := MessageType.fromBits firstByte
    match PacketType.fromBits (firstByte >>> 2), rest with
    | .single, [] | .start, [] => more
    | .single, _ :: _ => {}
    | .start, [_] => ⟨none, begun⟩
    | .start, _ :: number :: _ => ⟨some (label, messageType, number), begun⟩
    | packetType, _ =>
      match listener.message with
      | none => more
      | some (ofLabel, ofType, number) =>
        if label ≠ ofLabel ∨ messageType ≠ ofType then more
        -- The last packet completes the message or gives it up, and one too many gives it up.
        else if packetType = .end ∨ number.toNat < more.counted then {}
        else more

/-- No PDU of a list comes when 255 of them count. -/
def Within : Listener → List Bytes → Prop
  | _, [] => True
  | listener, pdu :: rest => listener.counted < 255 ∧ Within (listener.hear pdu) rest

end Listener

def MessageAssembler.listened (assembler : MessageAssembler) : Listener where
  message := assembler.message.map fun _ =>
    (assembler.transactionLabel, assembler.messageType, assembler.numberOfSignalPackets)
  counted := assembler.packetCount

theorem onPdu_listened {assembler : MessageAssembler} (free : assembler.packetCount < 255)
    (pdu : Bytes) : ∃ next output, assembler.onPdu pdu = .ok (next, output) ∧
      next.listened = assembler.listened.hear pdu := by
  rw [onPdu, U8.add_ok free]
  cases pdu with
  | nil => exact ⟨_, _, rfl, rfl⟩
  | cons firstByte rest =>
    refine ⟨_, _, rfl, ?_⟩
    simp only [Listener.hear, listened, Option.isSome_map]
    cases PacketType.fromBits (firstByte >>> 2) with
    | single =>
      cases rest with
      | nil => rfl
      | cons => rfl
    | start =>
      match rest with
      | [] => rfl
      | [_] => cases assembler.message <;> rfl
      | _ :: _ :: _ => cases assembler.message <;> rfl
    | «continue» =>
      simp only [extend]
      cases held : assembler.message with
      | none => simp
      | some message =>
        simp only [Option.map_some]
        split_ifs <;> simp_all [new]
        omega
    | «end» =>
      simp only [extend]
      cases held : assembler.message with
      | none => simp
      | some message =>
        simp only [Option.map_some]
        split_ifs <;> simp_all [new, complete]

theorem onPdus_total_iff (assembler : MessageAssembler) (pdus : List Bytes) :
    ((∃ last outputs, assembler.onPdus pdus = .ok (last, outputs)) ↔
      assembler.listened.Within pdus) ∧
    ∀ last outputs, assembler.onPdus pdus = .ok (last, outputs) →
      last.listened = pdus.foldl Listener.hear assembler.listened := by
  induction pdus generalizing assembler with
  | nil =>
    refine ⟨⟨fun _ => trivial, fun _ => ⟨_, _, rfl⟩⟩, fun last outputs fed => ?_⟩
    cases fed
    rfl
  | cons pdu rest ih =>
    rcases Nat.lt_or_ge assembler.packetCount 255 with free | full
    · obtain ⟨next, output, stepped, heard⟩ := onPdu_listened free pdu
      obtain ⟨onward, later⟩ := ih next
      rw [heard] at onward later
      refine ⟨⟨?_, ?_⟩, ?_⟩
      · rintro ⟨last, outputs, fed⟩
        obtain ⟨other, _, outputs, same, tail, -⟩ := Lib.feed_cons_ok.mp fed
        obtain ⟨rfl, -⟩ := Prod.ext_iff.mp (Except.ok.inj (same.symm.trans stepped))
        exact ⟨free, onward.mp ⟨last, outputs, tail⟩⟩
      · rintro ⟨-, within⟩
        obtain ⟨last, outputs, tail⟩ := onward.mpr within
        exact ⟨last, _, Lib.feed_cons_ok.mpr ⟨_, _, _, stepped, tail, rfl⟩⟩
      · intro last outputs fed
        obtain ⟨other, _, outputs, same, tail, -⟩ := Lib.feed_cons_ok.mp fed
        obtain ⟨rfl, -⟩ := Prod.ext_iff.mp (Except.ok.inj (same.symm.trans stepped))
        exact later last outputs tail
    · have stuck (last : MessageAssembler) (outputs : List (Option AssembledMessage)) :
          assembler.onPdus (pdu :: rest) ≠ .ok (last, outputs) := by
        intro fed
        obtain ⟨_, _, _, stepped, -⟩ := Lib.feed_cons_ok.mp fed
        rw [onPdu_panic full] at stepped
        cases stepped
      refine ⟨⟨?_, fun within => absurd within.1 (Nat.not_lt.mpr full)⟩, ?_⟩
      · rintro ⟨last, outputs, fed⟩
        exact absurd fed (stuck last outputs)
      · exact fun last outputs fed => absurd fed (stuck last outputs)

/-- A message gets through to a receiver in any state, and a receiver takes
any list of PDUs, exactly under these conditions. The counter of a receiver that takes them is
the number of PDUs that count. -/
theorem message_round_trip_iff {label : UInt8} (small : label < 16) (message : Message)
    {peerMtu : UInt16} (room : 4 ≤ peerMtu)
    (countable : (writeMessage label message peerMtu).length ≤ 255) :
    (∀ assembler, Delivered assembler label message peerMtu ↔
      Deliverable assembler message peerMtu) ∧
    ∀ pdus, ((∃ last outputs, MessageAssembler.new.onPdus pdus = .ok (last, outputs)) ↔
        Listener.Within {} pdus) ∧
      ∀ last outputs, MessageAssembler.new.onPdus pdus = .ok (last, outputs) →
        last.listened = pdus.foldl Listener.hear {} := by
  constructor
  · intro assembler
    rcases Nat.lt_trichotomy (message.toPayload.length + 2) peerMtu.toNat with fits | between | long
    · exact delivered_single room small fits
    · exact iff_of_false (delivered_cut room small between) fun able => able.2.2.1 between
    · exact delivered_start room small long countable
  · exact onPdus_total_iff .new

def twoEndpoints : Message :=
  .discoverResponse [⟨1, false, .audio, .sink⟩, ⟨2, true, .audio, .source⟩]

/-- In two fragments, to a receiver that has half of another message. -/
theorem message_round_trip_two_endpoints :
    (writeMessage 5 twoEndpoints 5).length = 2 ∧
      Delivered ⟨3, some [1], .command, 7, 4, 9⟩ 5 twoEndpoints 5 := by
  have two : (writeMessage 5 twoEndpoints 5).length = 2 := by
    rw [writeMessage_start (by decide) (by decide), length_cons, writeRest_length _ _ _ _ _ (by decide)]
    decide
  refine ⟨two, ((message_round_trip_iff (by decide) _ (by decide) (by omega)).1 _).mpr ?_⟩
  exact ⟨by decide, by decide, by decide, fun _ => .inl rfl⟩

/-- Two octets of payload and an MTU of four: the first PDU alone comes out as
a message with one of them. And 256 empty PDUs overflow the counter. -/
theorem message_round_trip_fails :
    (writeMessage 0 (.setConfigurationReject 7 0x29) 4).length ≤ 255 ∧
    ¬ Delivered .new 0 (.setConfigurationReject 7 0x29) 4 ∧
    MessageAssembler.new.onPdus (List.replicate 256 []) = .error .panic := by
  refine ⟨?_, ?_, ?_⟩
  · obtain ⟨first, second, pdus⟩ := writeMessage_cut 0 (by decide)
      (by decide : (Message.setConfigurationReject 7 0x29).toPayload.length + 2 =
        (4 : UInt16).toNat)
    rw [pdus]
    exact Nat.le_of_ble_eq_true rfl
  · exact delivered_cut (by decide) (by decide) (by decide)
  · decide +kernel

end Simble.Avdtp
