import Simble.Obex.Server

/-! The OBEX client (`obex/client.rs`) and how it cuts an object into packets
(`put_packets` of `obex/server.rs`). -/
namespace Simble.Obex

def leadingHeaders (name : Option String) (mimeType : Option Bytes) (body : Bytes) : List Header :=
  (name.map Header.name).toList ++ (mimeType.map Header.type).toList ++
    [.length (UInt32.ofNat body.length)]

def leadingLen (name : Option String) (mimeType : Option Bytes) (body : Bytes) : Nat :=
  ((leadingHeaders name mimeType body).map Header.encodedLen).sum

/-- The packets behind the first, with so much room in each. A turn without room
would not end; `putPackets` does not get here without (`laterPackets_cons`). -/
def laterPackets (capacity : Nat) (rest : Bytes) : List Bytes :=
  if capacity < rest.length ∧ 0 < capacity then
    (Request.put false [.body (rest.take capacity)]).toBytes ::
      laterPackets capacity (rest.drop capacity)
  else [(Request.put true [.endOfBody rest]).toBytes]
termination_by rest.length
decreasing_by
  rw [List.length_drop]
  omega

def putPackets (name : Option String) (mimeType : Option Bytes) (body : Bytes)
    (maxPacketLength : UInt16) : List Bytes :=
  let leading := leadingHeaders name mimeType body
  let firstCapacity := maxPacketLength.toNat - (3 + leadingLen name mimeType body + 3)
  let laterCapacity := maxPacketLength.toNat - (3 + 3)
  if firstCapacity = 0 ∨ laterCapacity = 0 then [(Request.put true leading).toBytes]
  else if body.length ≤ firstCapacity then
    [(Request.put true (leading ++ [.endOfBody body])).toBytes]
  else
    (Request.put false (leading ++ [.body (body.take firstCapacity)])).toBytes ::
      laterPackets laterCapacity (body.drop firstCapacity)

inductive ClientState where
  | idle
  | connected
  | putting
  | done
  | failed (code : UInt8)
deriving DecidableEq

structure ObexClient where
  state : ClientState
  maxPacketLength : UInt16
  /-- In the order in which they are sent. -/
  queued : List Bytes
  awaitingConnect : Bool
deriving DecidableEq

namespace ObexClient
variable (client : ObexClient)

def put (name : Option String) (mimeType : Option Bytes) (body : Bytes)
    (peerMaxPacketLength : UInt16) : ObexClient × Bytes :=
  let queued := putPackets name mimeType body peerMaxPacketLength
  ({ client with queued := queued.tail, awaitingConnect := false, state := .putting },
    queued.headD [])

def handleResponse (bytes : Bytes) : Except PacketError (ObexClient × Option Bytes) := do
  let parsed ← Response.parse bytes client.awaitingConnect
  let client := { client with awaitingConnect := false }
  if parsed.code = ResponseCode.continue then
    return ({ client with queued := client.queued.tail }, client.queued.head?)
  else if parsed.code = ResponseCode.success then
    if client.queued ≠ [] then
      return ({ client with queued := [], state := .failed ResponseCode.success }, none)
    else
      return ({ client with state := if parsed.connect.isSome then .connected else .done }, none)
  else return ({ client with queued := [], state := .failed parsed.code }, none)

end ObexClient

structure Pushed where
  packets : List Bytes
  client : ObexClient
  server : ObexServer
deriving DecidableEq

def exchange : (turns : Nat) → ObexClient → ObexServer → Bytes → Option Pushed
  | 0, _, _, _ => none
  | turns + 1, client, server, packet =>
    let (server, response, _) := server.handlePacket packet
    match client.handleResponse response with
    | .ok (client, some next) =>
      (exchange turns client server next).map fun pushed =>
        { pushed with packets := packet :: pushed.packets }
    | .ok (client, none) => some ⟨[packet], client, server⟩
    | .error _ => some ⟨[packet], client, server⟩

/-- A push with a turn for every packet; it does not take more (`push_ends`). -/
def push (client : ObexClient) (server : ObexServer) (name : Option String)
    (mimeType : Option Bytes) (body : Bytes) (peerMaxPacketLength : UInt16) : Option Pushed :=
  let (client, first) := client.put name mimeType body peerMaxPacketLength
  exchange (client.queued.length + 1) client server first

end Simble.Obex
