import Simble.Obex.Packet

/-! The OBEX server (`obex/server.rs`): it puts an object together from the
packets it arrives in. -/
namespace Simble.Obex

structure ReceivedObject where
  name : Option String
  mimeType : Option Bytes
  declaredLength : Option UInt32
  body : Bytes
deriving DecidableEq

instance : Inhabited ReceivedObject := ⟨none, none, none, []⟩

inductive ServerEvent where
  | connected
  | disconnected
  | continued
  | objectReceived (object : ReceivedObject)
  | aborted
  | rejected (code : UInt8)
deriving DecidableEq

inductive SessionPolicy where
  | optional
  | required
deriving DecidableEq

structure ServerLimits where
  maxPacketLength : UInt16
  maxObjectBytes : Nat
deriving DecidableEq

structure ObexServer where
  limits : ServerLimits
  policy : SessionPolicy
  connected : Bool
  inProgress : Option ReceivedObject
  completed : List ReceivedObject
  peerMaxPacketLength : Option UInt16
deriving DecidableEq

namespace ObexServer

def new (policy : SessionPolicy) (limits : ServerLimits) : ObexServer :=
  ⟨limits, policy, false, none, [], none⟩

/-- The server after a packet, its response, and what the packet meant. -/
abbrev Handled := ObexServer × Bytes × ServerEvent

variable (server : ObexServer)

def reject (code : UInt8) : Handled :=
  ({ server with inProgress := none }, (Response.status code).toBytes, .rejected code)

def onConnect (request : Request) : Handled :=
  ({ server with
      connected := true
      inProgress := none
      peerMaxPacketLength := request.connect.map ConnectFields.maxPacketLength },
    (Response.connectSuccess server.limits.maxPacketLength []).toBytes, .connected)

end ObexServer

namespace ReceivedObject

/-- One header of a PUT, `none` when the object would grow too large. -/
def absorb (maxObjectBytes : Nat) (object : ReceivedObject) : Header → Option ReceivedObject
  | .name name => some { object with name := some name }
  | .type mime => some { object with mimeType := some mime }
  | .length length => some { object with declaredLength := some length }
  | .body chunk | .endOfBody chunk =>
    if maxObjectBytes < object.body.length + chunk.length then none
    else some { object with body := object.body ++ chunk }
  | _ => some object

end ReceivedObject

namespace ObexServer
variable (server : ObexServer)

def onPut (request : Request) : Handled :=
  let object := server.inProgress.getD default
  match request.headers.foldlM (ReceivedObject.absorb server.limits.maxObjectBytes) object with
  | none => server.reject ResponseCode.entityTooLarge
  | some object =>
    if request.isFinal then
      ({ server with inProgress := none, completed := server.completed ++ [object] },
        (Response.success []).toBytes, .objectReceived object)
    else ({ server with inProgress := some object }, Response.cont.toBytes, .continued)

def handleRequest (request : Request) : Handled :=
  if server.policy = .required ∧ server.connected = false ∧
      request.opcode ≠ Opcode.connect ∧ request.opcode ≠ Opcode.abort then
    server.reject ResponseCode.serviceUnavailable
  else if request.opcode = Opcode.connect then server.onConnect request
  else if request.opcode = Opcode.disconnect then
    ({ server with connected := false, inProgress := none }, (Response.success []).toBytes,
      .disconnected)
  else if request.opcode = Opcode.put then server.onPut request
  else if request.opcode = Opcode.abort then
    ({ server with inProgress := none }, (Response.success []).toBytes, .aborted)
  else server.reject ResponseCode.notImplemented

/-- A packet that cannot be parsed is answered here, and not by `reject`. -/
def handlePacket (packet : Bytes) : Handled :=
  match Request.parse packet with
  | .ok request => server.handleRequest request
  | .error _ => (server, (Response.status ResponseCode.badRequest).toBytes,
      .rejected ResponseCode.badRequest)

end ObexServer

end Simble.Obex
