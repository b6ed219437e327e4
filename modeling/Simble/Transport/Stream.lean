import Simble.Lib.Streaming
import Simble.Octets

/-! Byte streams of the HCI transports (`transport/`): what is read of a stream, the framers'
buffer with its read cursor, and the channel to the host (`transport/hci_adapter.rs`). -/
namespace Simble.Transport
open Simble.Lib

inductive Halt where
  /-- `SimbleError::Transport`. -/
  | transport (message : String)
  | panic
deriving DecidableEq, Repr

inductive ReadResult where
  /-- `Ok(n)` with the `n` octets; no octets are the end of the stream. -/
  | octets (chunk : Bytes)
  | wouldBlock
  | failed (message : String)
deriving DecidableEq

/-- A non-blocking stream: what its reads to come give, in order, what was written to
it, and the error it refuses writes with, if it does. -/
structure Stream where
  reads : List ReadResult
  written : Bytes
  refusal : Option String

def Stream.writeAll (stream : Stream) (bytes : Bytes) : Except Halt Stream :=
  match stream.refusal with
  | none => .ok { stream with written := stream.written ++ bytes }
  | some message => .error (.transport message)

inductive Pause where
  | blocked
  | closed
  | failed (message : String)
deriving DecidableEq

/-- The read loop of every transport: chunks go to the framer until the stream has no
more, is at its end or fails. -/
def readAll {σ : Type} (feed : σ → Bytes → σ) (framer : σ) :
    List ReadResult → σ × List ReadResult × Pause
  | [] => (framer, [], .blocked)
  | .octets [] :: later => (framer, later, .closed)
  | .octets chunk :: later => readAll feed (feed framer chunk) later
  | .wouldBlock :: later => (framer, later, .blocked)
  | .failed message :: later => (framer, later, .failed message)

/-- Writes all packets of a queue, up to the first that the stream refuses; how much
was written tells the frames of one packet from those of another. -/
def writeQueue (frame : Nat → Bytes → Bytes) (stream : Stream) :
    List Bytes → Stream × List Bytes × Option Halt
  | [] => (stream, [], none)
  | packet :: later =>
    match stream.writeAll (frame stream.written.length packet) with
    | .ok stream => writeQueue frame stream later
    | .error halt => (stream, later, some halt)

/-- `HciChannel`: both ends of both queues live in it, so no send fails. -/
structure HciChannel where
  hostToCtrl : List Bytes
  ctrlToHost : List Bytes

namespace HciChannel

def receiveFromController (channel : HciChannel) (packet : Bytes) : HciChannel :=
  { channel with ctrlToHost := channel.ctrlToHost ++ [packet] }

def injectHostPacket (channel : HciChannel) (packet : Bytes) : HciChannel :=
  { channel with hostToCtrl := channel.hostToCtrl ++ [packet] }

end HciChannel

structure Cursor where
  buffer : Bytes
  offset : Nat
  within : offset ≤ buffer.length

namespace Cursor

def new : Cursor := ⟨[], 0, Nat.zero_le _⟩

def unread (cursor : Cursor) : Bytes := cursor.buffer.drop cursor.offset

def feed (cursor : Cursor) (bytes : Bytes) : Cursor where
  buffer := (if 0 < cursor.offset then cursor.buffer.drop cursor.offset else cursor.buffer) ++ bytes
  offset := 0
  within := Nat.zero_le _

def advance (cursor : Cursor) (count : Nat) (fits : count ≤ cursor.unread.length) : Cursor :=
  if cursor.offset + count = cursor.buffer.length then new
  else
    { cursor with
      offset := cursor.offset + count
      within := by
        rw [unread, List.length_drop] at fits
        have inside := cursor.within
        omega }

@[simp] theorem unread_new : new.unread = [] := rfl

@[simp] theorem unread_feed (cursor : Cursor) (bytes : Bytes) :
    (cursor.feed bytes).unread = cursor.unread ++ bytes := by
  have kept : (if 0 < cursor.offset then cursor.buffer.drop cursor.offset else cursor.buffer) =
      cursor.unread := by
    split
    · rfl
    · rename_i still
      rw [unread, Nat.eq_zero_of_not_pos still, List.drop_zero]
  simp only [feed, kept, unread, List.drop_zero]

@[simp] theorem unread_advance (cursor : Cursor) {count : Nat}
    (fits : count ≤ cursor.unread.length) :
    (cursor.advance count fits).unread = cursor.unread.drop count := by
  rw [advance]
  split
  · rename_i done
    rw [unread_new, unread, List.drop_drop, done, List.drop_length]
  · rw [unread, unread, List.drop_drop]

end Cursor

theorem writeQueue_taken (frame : Nat → Bytes → Bytes) (packets : List Bytes)
    (reads : List ReadResult) (written : Bytes) : ∃ written',
      writeQueue frame ⟨reads, written, none⟩ packets = (⟨reads, written', none⟩, [], none) := by
  induction packets generalizing written with
  | nil => exact ⟨written, rfl⟩
  | cons packet rest ih => exact ih _

section Reading
variable {σ : Type} {feed : σ → Bytes → σ} {unread : σ → Bytes}

/-- The reads that a call of a read loop comes to: chunks, none of them empty. -/
def chunks (arrived : List Bytes) : List ReadResult := arrived.map .octets

theorem readAll_chunks (fed : ∀ reader chunk, unread (feed reader chunk) = unread reader ++ chunk)
    {arrived : List Bytes} (nonempty : ∀ chunk ∈ arrived, chunk ≠ []) (reader : σ) : ∃ after,
      (∀ later, readAll feed reader (chunks arrived ++ later) = readAll feed after later) ∧
      unread after = unread reader ++ arrived.flatten := by
  induction arrived generalizing reader with
  | nil => exact ⟨reader, fun _ => rfl, by simp⟩
  | cons chunk rest ih =>
    obtain ⟨octet, others, rfl⟩ : ∃ octet others, chunk = octet :: others :=
      List.exists_cons_of_ne_nil (nonempty chunk List.mem_cons_self)
    obtain ⟨after, same, left⟩ := ih (fun other inside => nonempty other
      (List.mem_cons_of_mem _ inside)) (feed reader (octet :: others))
    refine ⟨after, same, ?_⟩
    rw [left, fed, List.flatten_cons, List.append_assoc]

end Reading

end Simble.Transport
