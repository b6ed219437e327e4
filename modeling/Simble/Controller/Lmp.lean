import Simble.Octets
import Simble.Lib.Duplex
import Simble.Lib.Run

/-! The Link Manager Protocol (`controller/lmp.rs`): one end of a Classic link, driven by its host
and the PDUs it receives, and two joined ends. -/
namespace Simble.Lmp
open Simble.Lib

/-! ## PDUs -/

namespace Opcode
def accepted : UInt8 := 3
def notAccepted : UInt8 := 4
def featuresReq : UInt8 := 39
def featuresRes : UInt8 := 40
def hostConnectionReq : UInt8 := 51
end Opcode

/-- `reject_reason::CONNECTION_REJECTED_LIMITED_RESOURCES` -/
def limitedResources : UInt8 := 0x0D

/-- `[u8; 8]`, a bit for each feature of page 0. -/
abbrev Features := Octets 8

/-- The transaction ID stands in the lowest bit. -/
def packHeader (tid opcode : UInt8) : UInt8 := (tid &&& (0x01 : UInt8)) ||| (opcode <<< 1)

def headerOpcode (header : UInt8) : UInt8 := header >>> 1

def headerTid (header : UInt8) : UInt8 := header &&& 0x01

def LmpHostConnectionReq.new (tid : UInt8) : Bytes := [packHeader tid Opcode.hostConnectionReq]

/-- The transaction ID of a request, read from the front of the octets. -/
def LmpHostConnectionReq.parse : Bytes → Option UInt8
  | header :: _ =>
    if headerOpcode header = Opcode.hostConnectionReq then some (headerTid header) else none
  | [] => none

def LmpAccepted.new (tid acceptedOpcode : UInt8) : Bytes :=
  [packHeader tid Opcode.accepted, acceptedOpcode]

def LmpAccepted.parse : Bytes → Option UInt8
  | header :: acceptedOpcode :: _ =>
    if headerOpcode header = Opcode.accepted then some acceptedOpcode else none
  | _ => none

def LmpNotAccepted.new (tid rejectedOpcode errorCode : UInt8) : Bytes :=
  [packHeader tid Opcode.notAccepted, rejectedOpcode, errorCode]

def LmpNotAccepted.parse : Bytes → Option (UInt8 × UInt8)
  | header :: rejectedOpcode :: errorCode :: _ =>
    if headerOpcode header = Opcode.notAccepted then some (rejectedOpcode, errorCode) else none
  | _ => none

def LmpFeaturesReq.new (tid : UInt8) : Bytes := [packHeader tid Opcode.featuresReq]

def LmpFeaturesReq.parse : Bytes → Option UInt8
  | header :: _ => if headerOpcode header = Opcode.featuresReq then some (headerTid header) else none
  | [] => none

def LmpFeaturesRes.new (tid : UInt8) (features : Features) : Bytes :=
  packHeader tid Opcode.featuresRes :: features.toList

def LmpFeaturesRes.parse : Bytes → Option Features
  | header :: rest =>
    if headerOpcode header = Opcode.featuresRes then Octets.tryFrom 8 (rest.take 8) else none
  | [] => none

/-! ## One end of a link -/

inductive LmpRole where
  | central
  | peripheral
deriving DecidableEq, Repr

inductive LmpLinkState where
  | idle
  | connectionRequested
  | connectionAccepted
  | connected
  | rejected
  | connectionPending
deriving DecidableEq, Repr

structure LmpLink where
  role : LmpRole
  localFeatures : Features
  peerFeatures : Option Features := none
  state : LmpLinkState := .idle
  rejectedReason : Option UInt8 := none
  acceptConnections : Bool := true
  deferToHost : Bool := false
  requestedPeerFeatures : Bool := false
  pendingTid : UInt8 := 0
deriving DecidableEq

namespace LmpLink

def new (role : LmpRole) (localFeatures : Features) : LmpLink := { role, localFeatures }

/-- An end that leaves every request to its host. -/
def deferring (localFeatures : Features) : LmpLink :=
  { new .peripheral localFeatures with deferToHost := true }

/-- The end and the PDUs to send when a call succeeds. -/
abbrev Answer := Except SimbleError (LmpLink × List Bytes)

variable (link : LmpLink)

def roleBit : UInt8 :=
  match link.role with
  | .central => 0
  | .peripheral => 1

/-! ### Calls of the host -/

def acceptPendingConnection : Answer :=
  if link.state ≠ .connectionPending then
    .error (.deviceError "LMP: no connection request is awaiting a host decision")
  else
    .ok ({ link with state := .connectionAccepted, requestedPeerFeatures := true },
      [LmpAccepted.new link.pendingTid Opcode.hostConnectionReq, LmpFeaturesReq.new link.roleBit])

def rejectPendingConnection (reason : UInt8) : Answer :=
  if link.state ≠ .connectionPending then
    .error (.deviceError "LMP: no connection request is awaiting a host decision")
  else
    .ok ({ link with state := .rejected, rejectedReason := some reason },
      [LmpNotAccepted.new link.pendingTid Opcode.hostConnectionReq reason])

def buildConnectionRequest : Answer :=
  if link.role ≠ .central then
    .error (.deviceError "LMP: only the central initiates a host_connection_req")
  else if link.state ≠ .idle then
    .error (.deviceError "LMP: connection establishment already in progress")
  else
    .ok ({ link with state := .connectionRequested }, [LmpHostConnectionReq.new link.roleBit])

/-! ### PDUs of the peer -/

def onHostConnectionReq (bytes : Bytes) : Answer :=
  match LmpHostConnectionReq.parse bytes with
  | none => .error (.packetParseError "LMP: malformed host_connection_req")
  | some tid =>
    if link.role ≠ .peripheral then
      .error (.deviceError "LMP: host_connection_req received by a non-peripheral link end")
    else if link.deferToHost then
      .ok ({ link with pendingTid := tid, state := .connectionPending }, [])
    else if ¬ link.acceptConnections then
      .ok ({ link with state := .rejected, rejectedReason := some limitedResources },
        [LmpNotAccepted.new tid Opcode.hostConnectionReq limitedResources])
    else
      .ok ({ link with state := .connectionAccepted, requestedPeerFeatures := true },
        [LmpAccepted.new tid Opcode.hostConnectionReq, LmpFeaturesReq.new link.roleBit])

def onAccepted (bytes : Bytes) : Answer :=
  match LmpAccepted.parse bytes with
  | none => .error (.packetParseError "LMP: malformed accepted")
  | some acceptedOpcode =>
    if acceptedOpcode = Opcode.hostConnectionReq ∧ link.state = .connectionRequested then
      .ok ({ link with state := .connectionAccepted }, [])
    else .ok (link, [])

def onNotAccepted (bytes : Bytes) : Answer :=
  match LmpNotAccepted.parse bytes with
  | none => .error (.packetParseError "LMP: malformed not_accepted")
  | some (_, errorCode) =>
    .ok ({ link with state := .rejected, rejectedReason := some errorCode }, [])

def onFeaturesReq (bytes : Bytes) : Answer :=
  match LmpFeaturesReq.parse bytes with
  | none => .error (.packetParseError "LMP: malformed features_req")
  | some tid =>
    if link.state ≠ .connectionAccepted ∧ link.state ≠ .connected then
      .error (.deviceError "LMP: features_req received before connection establishment")
    else if link.requestedPeerFeatures then
      .ok (link, [LmpFeaturesRes.new tid link.localFeatures])
    else
      .ok ({ link with requestedPeerFeatures := true },
        [LmpFeaturesRes.new tid link.localFeatures, LmpFeaturesReq.new link.roleBit])

def onFeaturesRes (bytes : Bytes) : Answer :=
  match LmpFeaturesRes.parse bytes with
  | none => .error (.packetParseError "LMP: malformed features_res")
  | some features =>
    let link := { link with peerFeatures := some features }
    if link.state = .connectionAccepted then .ok ({ link with state := .connected }, [])
    else .ok (link, [])

def receive : Bytes → Answer
  | [] => .error (.packetParseError "LMP: empty packet")
  | header :: rest =>
    if headerOpcode header = Opcode.hostConnectionReq then link.onHostConnectionReq (header :: rest)
    else if headerOpcode header = Opcode.accepted then link.onAccepted (header :: rest)
    else if headerOpcode header = Opcode.notAccepted then link.onNotAccepted (header :: rest)
    else if headerOpcode header = Opcode.featuresReq then link.onFeaturesReq (header :: rest)
    else if headerOpcode header = Opcode.featuresRes then link.onFeaturesRes (header :: rest)
    else .error (.packetParseError s!"LMP: unrecognized opcode {hexByte (headerOpcode header)}")

/-! ### Runs of one end -/

inductive Call where
  | request
  | accept
  | reject (reason : UInt8)
deriving DecidableEq

inductive Input where
  | receive (bytes : Bytes)
  | call (call : Call)
deriving DecidableEq

def answer : Input → Answer
  | .receive bytes => link.receive bytes
  | .call .request => link.buildConnectionRequest
  | .call .accept => link.acceptPendingConnection
  | .call (.reject reason) => link.rejectPendingConnection reason

def next (input : Input) : LmpLink :=
  match link.answer input with
  | .ok (link, _) => link
  | .error _ => link

def said (input : Input) : List Bytes :=
  match link.answer input with
  | .ok (_, pdus) => pdus
  | .error _ => []

def after (inputs : List Input) : LmpLink := inputs.foldl next link

end LmpLink

/-! ## Two ends -/

/-- Central is the left side and Peripheral the right one. -/
abbrev Net := Duplex LmpLink Bytes

inductive Label where
  | deliver (side : Side)
  | call (side : Side) (call : LmpLink.Call)
deriving DecidableEq

namespace Net

def input (net : Net) (side : Side) (input : LmpLink.Input) : Net :=
  net.emit side ((net.node side).next input) ((net.node side).said input)

/-- The oldest PDU towards an end is delivered, or a host decides. -/
inductive Step : Net → Label → Net → Prop where
  | deliver {net : Net} {side : Side} {bytes : Bytes} {rest : List Bytes} :
      net.inbox side = bytes :: rest →
      Step net (.deliver side) (input (net.consume side rest) side (.receive bytes))
  | call (net : Net) (side : Side) (call : LmpLink.Call) :
      Step net (.call side call) (input net side (.call call))

end Net

/-- What the two ends are set up with. -/
structure Setup where
  features : Side → Features
  acceptConnections : Side → Bool
  deferToHost : Side → Bool

namespace Setup

def role : Side → LmpRole
  | .left => .central
  | .right => .peripheral

def link (setup : Setup) (side : Side) : LmpLink :=
  { LmpLink.new (role side) (setup.features side) with
    acceptConnections := setup.acceptConnections side
    deferToHost := setup.deferToHost side }

def start (setup : Setup) : Net := ⟨setup.link, fun _ => []⟩

end Setup

end Simble.Lmp
