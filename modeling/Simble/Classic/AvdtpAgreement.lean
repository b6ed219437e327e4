import Simble.Classic.AvdtpAnswers

/-! Two AVDTP instances joined by two FIFO channels, and the streams they agree on
once nothing is on its way. -/
namespace Simble.Avdtp

/-! ## Calls -/

inductive StreamCall where
  | setConfiguration (acpSeid intSeid : UInt8) (capabilities : List ServiceCapability)
  | reconfigure (acpSeid : UInt8) (capabilities : List ServiceCapability)
  | «open» (acpSeid : UInt8)
  | start (acpSeids : List UInt8)
  | suspend (acpSeids : List UInt8)
  | close (acpSeid : UInt8)
  | abort (acpSeid : UInt8)

def StreamCall.message : StreamCall → Message
  | setConfiguration acpSeid intSeid capabilities =>
    .setConfigurationCommand acpSeid intSeid capabilities
  | reconfigure acpSeid capabilities => .reconfigureCommand acpSeid capabilities
  | .open acpSeid => .openCommand acpSeid
  | start acpSeids => .startCommand acpSeids
  | suspend acpSeids => .suspendCommand acpSeids
  | close acpSeid => .closeCommand acpSeid
  | abort acpSeid => .abortCommand acpSeid

def Protocol.call (protocol : Protocol) : StreamCall → Rust (Protocol × List Bytes)
  | .setConfiguration acpSeid intSeid capabilities =>
    protocol.setConfiguration acpSeid intSeid capabilities
  | .reconfigure acpSeid capabilities => protocol.reconfigure acpSeid capabilities
  | .open acpSeid => protocol.open acpSeid
  | .start acpSeids => protocol.start acpSeids
  | .suspend acpSeids => protocol.suspend acpSeids
  | .close acpSeid => protocol.close acpSeid
  | .abort acpSeid => protocol.abort acpSeid

theorem length_of_mapM {α β : Type} {step : α → Rust β} {inputs : List α} {outputs : List β}
    (mapped : inputs.mapM step = .ok outputs) : inputs.length = outputs.length := by
  induction inputs generalizing outputs with
  | nil =>
    cases mapped
    rfl
  | cons input inputs ih =>
    rw [List.mapM_cons] at mapped
    obtain ⟨first, -, mapped⟩ := Rust.bind_eq_ok.mp mapped
    obtain ⟨rest, others, same⟩ := Rust.bind_eq_ok.mp mapped
    cases same
    rw [List.length_cons, List.length_cons, ih others]

/-- A request that is sent takes a free label and nothing else. -/
structure Sent (protocol after : Protocol) (pdus : List Bytes) (pending : Pending) (message : Message)
    (label : UInt8) : Prop where
  asks : Asks pending message
  free : protocol.pending.lookup label = none
  small : label < 16
  after : after = { protocol with
    pending := protocol.pending.insert label pending, nextTransaction := (label + 1) % 16 }
  pdus : pdus = writeMessage label message protocol.peerMtu

section Calls
variable {protocol after : Protocol} {pdus : List Bytes}

theorem sent_of_sendCommand {pending : Pending} {message : Message} (asks : Asks pending message)
    (sent : protocol.sendCommand pending message = .ok (after, pdus)) :
    ∃ pending label, Sent protocol after pdus pending message label := by
  unfold Protocol.sendCommand at sent
  cases free : protocol.freeLabel with
  | none =>
    rw [free] at sent
    contradiction
  | some label =>
    rw [free] at sent
    cases sent
    have vacant := List.find?_some free
    obtain ⟨offset, -, same⟩ := List.mem_map.mp (List.mem_of_find?_eq_some free)
    have small : label < 16 := by
      rw [← same]
      exact UInt8.mod_lt _ (by decide)
    exact ⟨pending, label, asks, Option.isNone_iff_eq_none.mp vacant, small, rfl, rfl⟩

theorem sent_of_call {request : StreamCall} (called : protocol.call request = .ok (after, pdus)) :
    ∃ pending label, Sent protocol after pdus pending request.message label := by
  cases request with
  | setConfiguration acpSeid intSeid capabilities =>
    obtain ⟨-, -, sent⟩ := Rust.bind_eq_ok.mp called
    exact sent_of_sendCommand (.setConfiguration ..) sent
  | reconfigure acpSeid capabilities =>
    obtain ⟨intSeid, -, sent⟩ := Rust.bind_eq_ok.mp called
    exact sent_of_sendCommand (.reconfigure ..) sent
  | «open» acpSeid =>
    obtain ⟨intSeid, -, sent⟩ := Rust.bind_eq_ok.mp called
    exact sent_of_sendCommand (.open ..) sent
  | start acpSeids =>
    obtain ⟨intSeids, found, sent⟩ := Rust.bind_eq_ok.mp called
    exact sent_of_sendCommand (.start (length_of_mapM found)) sent
  | suspend acpSeids =>
    obtain ⟨intSeids, found, sent⟩ := Rust.bind_eq_ok.mp called
    exact sent_of_sendCommand (.suspend (length_of_mapM found)) sent
  | close acpSeid =>
    obtain ⟨intSeid, -, sent⟩ := Rust.bind_eq_ok.mp called
    exact sent_of_sendCommand (.close ..) sent
  | abort acpSeid =>
    obtain ⟨intSeid, -, sent⟩ := Rust.bind_eq_ok.mp called
    exact sent_of_sendCommand (.abort ..) sent

end Calls

/-! ## The two sides -/

structure Link where
  left : Protocol
  right : Protocol
  toRight : List Bytes
  toLeft : List Bytes

def Link.swap (link : Link) : Link := ⟨link.right, link.left, link.toLeft, link.toRight⟩

def onTheWay (assembler : MessageAssembler) (pdus : List Bytes) : List AssembledMessage :=
  match assembler.onPdus pdus with
  | .ok (_, outputs) => outputs.filterMap id
  | .error _ => []

theorem onTheWay_of_carries {assembler : MessageAssembler} {pdus : List Bytes}
    {messages : List AssembledMessage} (carries : Carries assembler pdus messages) :
    onTheWay assembler pdus = messages := by
  obtain ⟨outputs, fed, rfl⟩ := carries
  rw [onTheWay, fed]

structure Sendable (peerMtu : UInt16) (message : Message) : Prop where
  fits : Fits peerMtu message
  read : Message.parse message.signalIdentifier .command message.toPayload = some message

def Awaited (side : Protocol) (coming : List AssembledMessage) (seid : UInt8) : Prop :=
  ∃ message ∈ coming, message.messageType = .responseAccept ∧
    ∃ pending, side.pending.lookup message.transactionLabel = some pending ∧ seid ∈ pending.names

def AwaitedOnly (change : StreamChange) (side : Protocol) (coming : List AssembledMessage)
    (seid : UInt8) : Prop :=
  ∀ message ∈ coming, message.messageType = .responseAccept → ∀ pending,
    side.pending.lookup message.transactionLabel = some pending → seid ∈ pending.names →
      pending.change = change

def settled (side : Protocol) (coming : List AssembledMessage) : Protocol :=
  coming.foldl (fun side message =>
    if message.messageType = .command then side else (side.onResponse message).1) side

/-- A command finds the endpoint that it is about at rest, and its sender's with it. -/
structure Untangled (side other : Protocol) (coming going : List AssembledMessage) (label : UInt8)
    (message : Message) : Prop where
  /-- A stream about which the command is accepted: the sender's, with no response about it on its
  way, or one that both sides asked for, with the sender's endpoint there already. -/
  used : ∀ pending seid peer endpoint, other.pending.lookup label = some pending →
    (seid, peer) ∈ message.names.zip pending.names →
    side.localEndpoints.get seid = some endpoint → endpoint.state ∈ message.accepting →
    (¬ Awaited side coming seid ∧ endpoint.remoteSeid = some peer) ∨
    (Awaited side coming seid ∧ AwaitedOnly pending.change side coming seid ∧
      ∃ target, pending.change.target = some target ∧
        ∀ mate, (settled other going).localEndpoints.get peer = some mate → mate.state = target)
  configured : ∀ acpSeid intSeid capabilities endpoint,
    message = .setConfigurationCommand acpSeid intSeid capabilities →
    side.localEndpoints.get acpSeid = some endpoint → endpoint.state = .idle →
    ¬ Awaited side coming acpSeid ∧
      ∃ mate, (settled other going).localEndpoints.get intSeid = some mate ∧ mate.state = .idle
  aborted : ∀ acpSeid intSeid, message = .abortCommand acpSeid →
    other.pending.lookup label = some (.abort intSeid) →
    (∀ endpoint, side.localEndpoints.get acpSeid = some endpoint → endpoint.state = .idle) →
    ∀ mate, (settled other going).localEndpoints.get intSeid = some mate → mate.state = .idle

/-- The left side calls or receives; carefully, if its messages get through and the
commands that it is given find what they are about at rest. -/
inductive Step (careful : Prop) (link : Link) : Link → Prop
  | call {request after pdus} : (careful → Sendable link.left.peerMtu request.message) →
    link.left.call request = .ok (after, pdus) →
    Step careful link { link with left := after, toRight := link.toRight ++ pdus }
  | receive {pdu rest after out events} : link.toLeft = pdu :: rest →
    (careful → ∀ next assembled message,
      link.left.assembler.onPdu pdu = .ok (next, some assembled) →
      assembled.messageType = .command →
      Message.parse assembled.signalIdentifier .command assembled.payload = some message →
      Untangled link.left link.right (onTheWay next rest) (onTheWay link.right.assembler link.toRight)
        assembled.transactionLabel message) →
    link.left.receive pdu = .ok (after, out, events) →
    Step careful link ⟨after, link.right, link.toRight ++ out, rest⟩

/-- Two instances before their first call. -/
structure Fresh (protocol : Protocol) : Prop where
  pending : protocol.pending.entries = []
  idle : ∀ endpoint ∈ protocol.localEndpoints, endpoint.state = .idle ∧ endpoint.remoteSeid = none
  assembler : protocol.assembler = .new
  room : 5 ≤ protocol.peerMtu.toNat

inductive Run (careful : Prop) : Link → Prop
  | start {left right} : Fresh left → Fresh right → Run careful ⟨left, right, [], []⟩
  | left {link next} : Run careful link → Step careful link next → Run careful next
  | right {link next} : Run careful link → Step careful link.swap next → Run careful next.swap

end Simble.Avdtp
