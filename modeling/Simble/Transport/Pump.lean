import Simble.Transport.H4
import Simble.Transport.WebSocket

/-! The transports that move packets between a stream and the channel to the host:
`RootcanalTransport` (`transport/rootcanal.rs`), `NetsimTransport`
(`transport/netsim.rs`) and `WsServerConn` (`transport/ws.rs`). -/
namespace Simble.Transport
open Simble.Lib

/-- `while let Some(packet) = self.reader.next()`; every packet takes an octet off the
buffer, so that this is how often it goes round at most. -/
def rounds (reader : Cursor) : Nat := reader.unread.length + 1

structure RootcanalTransport where
  stream : Stream
  framer : H4FrameReader

namespace RootcanalTransport

def deliver (channel : HciChannel) (packet : Bytes) : HciChannel × Option Halt :=
  (channel.receiveFromController packet, none)

def pump (transport : RootcanalTransport) (channel : HciChannel) :
    RootcanalTransport × HciChannel × Option Halt :=
  let (stream, left, refused) := writeQueue (fun _ => id) transport.stream channel.hostToCtrl
  let channel := { channel with hostToCtrl := left }
  match refused with
  | some halt => ({ transport with stream }, channel, some halt)
  | none =>
    let (framer, reads, pause) := readAll Cursor.feed transport.framer stream.reads
    let stream := { stream with reads }
    match pause with
    | .closed => (⟨stream, framer⟩, channel, some (.transport "Rootcanal pipe closed"))
    | .failed message => (⟨stream, framer⟩, channel, some (.transport message))
    | .blocked =>
      let (framer, channel, halt) :=
        drain H4FrameReader.nextPacket deliver (rounds framer) framer channel
      (⟨stream, framer⟩, channel, halt)

end RootcanalTransport

/-! ## Messages in fragments -/

/-- The payload of a message so far, and the opcode of its first frame until the last. -/
structure Assembly where
  fragment : Bytes
  fragmentOpcode : Option UInt8
deriving DecidableEq

namespace Assembly

def new : Assembly := ⟨[], none⟩

def onData (assembly : Assembly) (frame : DecodedFrame) : Assembly × Option Bytes :=
  let begun :=
    if frame.opcode = Opcode.continuation then assembly else ⟨[], some frame.opcode⟩
  let extended := { begun with fragment := begun.fragment ++ frame.payload }
  if frame.fin ∧ extended.fragmentOpcode.isSome then (new, some extended.fragment)
  else (extended, none)

end Assembly

/-- What tells the two ends apart. -/
structure Role where
  /-- The opcodes that start a message. -/
  starts : List UInt8
  pongMask : Option (Nat → Octets 4)
  goodbye : String

def Role.server : Role where
  starts := [Opcode.binary, Opcode.text]
  pongMask := none
  goodbye := "WebSocket peer closed the connection"

/-- `maskKey` gives the key that `mask_key()` draws when so much was written. -/
def Role.netsim (maskKey : Nat → Octets 4) : Role where
  starts := [Opcode.binary]
  pongMask := some maskKey
  goodbye := "netsim closed the WebSocket connection"

/-- `handle_frame` of either end: what is written, what is assembled, and the message
that the frame completes. -/
def Role.handleFrame (role : Role) (stream : Stream) (assembly : Assembly) (frame : DecodedFrame) :
    Stream × Assembly × Except Halt (Option Bytes) :=
  if frame.opcode ∈ role.starts ∨ frame.opcode = Opcode.continuation then
    let (assembly, message) := assembly.onData frame
    (stream, assembly, .ok message)
  else if frame.opcode = Opcode.ping then
    let mask := role.pongMask.map fun maskKey => maskKey stream.written.length
    match stream.writeAll (encodeFrame Opcode.pong frame.payload mask) with
    | .ok stream => (stream, assembly, .ok none)
    | .error halt => (stream, assembly, .error halt)
  else if frame.opcode = Opcode.pong then (stream, assembly, .ok none)
  else if frame.opcode = Opcode.close then (stream, assembly, .error (.transport role.goodbye))
  else
    (stream, assembly, .error (.transport ("unsupported WebSocket opcode 0x" ++
      String.ofList (Nat.toDigits 16 frame.opcode.toNat))))

/-- One round of the loop over frames: a message it completes goes to `deliver`. -/
def Role.round {τ : Type} (role : Role) (deliver : τ → Bytes → τ) (work : Stream × Assembly × τ)
    (frame : DecodedFrame) : (Stream × Assembly × τ) × Option Halt :=
  match role.handleFrame work.1 work.2.1 frame with
  | (stream, assembly, .ok none) => ((stream, assembly, work.2.2), none)
  | (stream, assembly, .ok (some message)) => ((stream, assembly, deliver work.2.2 message), none)
  | (stream, assembly, .error halt) => ((stream, assembly, work.2.2), some halt)

structure NetsimTransport where
  stream : Stream
  reader : WsFrameReader
  assembly : Assembly

namespace NetsimTransport

def pump (maskKey : Nat → Octets 4) (transport : NetsimTransport) (channel : HciChannel) :
    NetsimTransport × HciChannel × Option Halt :=
  let (stream, left, refused) :=
    writeQueue (fun drawn => encodeMaskedBinaryFrame (maskKey drawn)) transport.stream
      channel.hostToCtrl
  let channel := { channel with hostToCtrl := left }
  match refused with
  | some halt => ({ transport with stream }, channel, some halt)
  | none =>
    let (reader, reads, pause) := readAll Cursor.feed transport.reader stream.reads
    let stream := { stream with reads }
    match pause with
    | .closed =>
      (⟨stream, reader, transport.assembly⟩, channel,
        some (.transport "netsim WebSocket connection closed"))
    | .failed message =>
      (⟨stream, reader, transport.assembly⟩, channel, some (.transport message))
    | .blocked =>
      let (reader, (stream, assembly, channel), halt) :=
        drain WsFrameReader.nextFrame ((Role.netsim maskKey).round HciChannel.receiveFromController)
          (rounds reader) reader (stream, transport.assembly, channel)
      (⟨stream, reader, assembly⟩, channel, halt)

end NetsimTransport

structure WsServerConn where
  stream : Stream
  reader : WsFrameReader
  assembly : Assembly
  /-- Why the connection is over, once that was found out. -/
  closed : Option String

namespace WsServerConn

/-- The messages that were decoded, or why there will be none. -/
def report (reader : WsFrameReader) (stream : Stream) (assembly : Assembly)
    (messages : List Bytes) (closed : Option String) : WsServerConn × Except Halt (List Bytes) :=
  match closed, messages with
  | some closed, [] => (⟨stream, reader, assembly, some closed⟩, .error (.transport closed))
  | closed, messages => (⟨stream, reader, assembly, closed⟩, .ok messages)

def pollMessages (conn : WsServerConn) : WsServerConn × Except Halt (List Bytes) :=
  match conn.closed with
  | some closed => (conn, .error (.transport closed))
  | none =>
    let (reader, reads, pause) := readAll Cursor.feed conn.reader conn.stream.reads
    let closed := match pause with
      | .blocked => none
      | .closed => some "WebSocket connection closed"
      | .failed message => some message
    let (reader, (stream, assembly, messages), halt) :=
      drain WsFrameReader.nextFrame
        (Role.server.round fun messages message => messages ++ [message])
        (rounds reader) reader ({ conn.stream with reads }, conn.assembly, [])
    match halt with
    | some .panic => (⟨stream, reader, assembly, closed⟩, .error .panic)
    | some (.transport message) => report reader stream assembly messages
        (closed.or (some ("Transport Error: " ++ message)))
    | none => report reader stream assembly messages closed

def pump (conn : WsServerConn) (channel : HciChannel) :
    WsServerConn × HciChannel × Option Halt :=
  let (stream, left, refused) :=
    writeQueue (fun _ packet => encodeFrame Opcode.binary packet none) conn.stream
      channel.ctrlToHost
  let channel := { channel with ctrlToHost := left }
  match refused with
  | some halt => ({ conn with stream }, channel, some halt)
  | none =>
    match { conn with stream }.pollMessages with
    | (conn, .error halt) => (conn, channel, some halt)
    | (conn, .ok messages) => (conn, messages.foldl HciChannel.injectHostPacket channel, none)

end WsServerConn

end Simble.Transport
