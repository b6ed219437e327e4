import Simble.Transport.Delivery

/-! WebSocket streams: the frames that are read off them, the lengths that stop the
reader, and the messages that come in fragments between control frames. -/
namespace Simble.Transport
open Simble.Lib WsFrameReader List

/-! ## Lengths that no encoder writes -/

/-- What is left of octets when whole frames are taken off their front. -/
inductive Reaches : Bytes → Bytes → Prop where
  | here (bytes : Bytes) : Reaches bytes bytes
  | skip {bytes rest : Bytes} {header : FrameHeader} (parsed : parseFrameHeader bytes = some header)
      (small : header.headerLen + header.payloadLen < usizeRange)
      (whole : header.headerLen + header.payloadLen ≤ bytes.length)
      (later : Reaches (bytes.drop (header.headerLen + header.payloadLen)) rest) :
      Reaches bytes rest

/-- Octets that hold, after whole frames, a header whose length and the payload's are
together more than `usize` holds. -/
def Overlong (bytes : Bytes) : Prop :=
  ∃ rest header, Reaches bytes rest ∧ parseFrameHeader rest = some header ∧
    usizeRange ≤ header.headerLen + header.payloadLen

theorem Overlong.step {bytes : Bytes} {header : FrameHeader}
    (parsed : parseFrameHeader bytes = some header)
    (small : header.headerLen + header.payloadLen < usizeRange)
    (whole : header.headerLen + header.payloadLen ≤ bytes.length)
    (later : Overlong (bytes.drop (header.headerLen + header.payloadLen))) : Overlong bytes := by
  obtain ⟨rest, last, reaches, found, wraps⟩ := later
  exact ⟨rest, last, .skip parsed small whole reaches, found, wraps⟩

theorem exists_panic {reader : WsFrameReader} {bytes rest : Bytes} {last : FrameHeader}
    (reaches : Reaches bytes rest) (found : parseFrameHeader rest = some last)
    (wraps : usizeRange ≤ last.headerLen + last.payloadLen) (same : reader.unread = bytes) :
    ∃ count, feed (serve Cursor.feed nextFrame) reader
      (List.replicate count Call.next) = .error .panic := by
  induction reaches generalizing reader with
  | here bytes =>
    have stops : reader.nextFrame = .error .panic :=
      follows.stops reader .panic trivial (by
        rw [same, takeFrame, found]
        exact if_pos wraps)
    refine ⟨1, ?_⟩
    rw [replicate_one, feed_cons, serve, stops]
    rfl
  | skip parsed small whole later ih =>
    obtain ⟨after, handed, -, left⟩ := follows.hands reader _ _ trivial (by
      rw [same, takeFrame, parsed]
      exact (if_neg (Nat.not_le_of_lt small)).trans (if_neg (Nat.not_lt_of_le whole)))
    obtain ⟨count, failed⟩ := ih found left
    refine ⟨count + 1, ?_⟩
    rw [replicate_succ, feed_cons, serve, handed]
    simp only [bind, Except.bind, failed]

theorem overlong_of_stop {reader : WsFrameReader} {calls : List (Call UInt8)} {halt : Halt}
    (failed : feed (serve Cursor.feed nextFrame) reader calls = .error halt) :
    Overlong (reader.unread ++ calls.flatMap Call.chunk) := by
  induction calls generalizing reader with
  | nil => cases failed
  | cons call rest ih =>
    cases call with
    | feed chunk =>
      have found := ih (feed_error_of_first rfl failed)
      rw [Cursor.unread_feed, append_assoc] at found
      exact found
    | next =>
      rw [flatMap_cons, Call.chunk, nil_append]
      have later : ∀ {after output}, reader.nextFrame = .ok (after, output) →
          feed (serve Cursor.feed nextFrame) after rest = .error halt :=
        fun first => @feed_error_of_first _ _ _ _ (serve Cursor.feed nextFrame) _ _
          .next _ _ _ first failed
      cases parsed : parseFrameHeader reader.unread with
      | none =>
        obtain ⟨after, waited, -, kept⟩ := follows.waits reader trivial (by
          rw [takeFrame, parsed])
        rw [← kept]
        exact ih (later waited)
      | some header =>
        have still := parseFrameHeader_append parsed (rest.flatMap Call.chunk)
        by_cases wraps : usizeRange ≤ header.headerLen + header.payloadLen
        · exact ⟨_, header, .here _, still, wraps⟩
        · by_cases short : reader.unread.length < header.headerLen + header.payloadLen
          · obtain ⟨after, waited, -, kept⟩ := follows.waits reader trivial (by
              simp only [takeFrame, parsed, if_neg wraps, if_pos short])
            rw [← kept]
            exact ih (later waited)
          · have whole := Nat.le_of_not_lt short
            obtain ⟨after, handed, -, left⟩ := follows.hands reader _ _ trivial (by
              simp only [takeFrame, parsed, if_neg wraps, if_neg short]
              rfl)
            refine .step still (Nat.lt_of_not_le wraps)
              (Nat.le_trans whole (by rw [length_append]; omega)) ?_
            rw [drop_append_of_le_length whole, ← left]
            exact ih (later handed)

/-- The reader never fails on octets exactly if they are not overlong, however they are cut. -/
theorem never_fails_iff (bytes : Bytes) :
    (∀ calls : List (Call UInt8), calls.flatMap Call.chunk = bytes →
      ∃ ran, feed (serve Cursor.feed nextFrame) .new calls = .ok ran) ↔
    ¬ Overlong bytes := by
  constructor
  · rintro goes ⟨rest, header, reaches, parsed, wraps⟩
    have fed : (Cursor.feed .new bytes).unread = bytes := by simp
    obtain ⟨count, failed⟩ := exists_panic reaches parsed wraps fed
    have silent : (List.replicate count (Call.next (α := UInt8))).flatMap Call.chunk = [] := by
      simp [Call.chunk]
    obtain ⟨ran, same⟩ := goes (.feed bytes :: List.replicate count .next) (by
      rw [flatMap_cons, silent, Call.chunk, append_nil])
    rw [feed_cons, serve] at same
    simp only [bind, Except.bind, failed, reduceCtorEq] at same
  · intro short calls split
    cases ran : feed (serve Cursor.feed nextFrame) .new calls with
    | ok last => exact ⟨last, rfl⟩
    | error halt =>
      have found := overlong_of_stop ran
      rw [Cursor.unread_new, nil_append, split] at found
      exact absurd found short

/-! ## Conversations -/

inductive Control where
  | ping (payload : Bytes)
  | pong (payload : Bytes)

def Control.frame : Control → DecodedFrame
  | ping payload => ⟨true, Opcode.ping, payload⟩
  | pong payload => ⟨true, Opcode.pong, payload⟩

/-- A message: the payload of its data frame, and the continuations with the control
frames before each. -/
structure Message where
  opcode : UInt8
  first : Bytes
  rest : List (List Control × Bytes)
  data : opcode = Opcode.text ∨ opcode = Opcode.binary

namespace Message

def payload (message : Message) : Bytes :=
  message.first ++ message.rest.flatMap Prod.snd

def continuations : List (List Control × Bytes) → List DecodedFrame
  | [] => []
  | (controls, payload) :: later =>
    controls.map Control.frame ++
      ⟨later.isEmpty, Opcode.continuation, payload⟩ :: continuations later

def frames (message : Message) : List DecodedFrame :=
  ⟨message.rest.isEmpty, message.opcode, message.first⟩ :: continuations message.rest

end Message

inductive Item where
  | control (control : Control)
  | message (message : Message)

namespace Item

def frames : Item → List DecodedFrame
  | .control it => [it.frame]
  | .message it => it.frames

def payload : Item → List Bytes
  | .control _ => []
  | .message it => [it.payload]

def Taken (role : Role) : Item → Prop
  | .control _ => True
  | .message it => it.opcode ∈ role.starts

end Item

theorem part_control (begun : Option Bytes) (control : Control) :
    part begun control.frame = (begun, none) := by
  cases control <;> exact if_pos (by simp [Control.frame])

theorem messages_controls (begun : Option Bytes) (controls : List Control)
    (rest : List DecodedFrame) :
    messages begun (controls.map Control.frame ++ rest) = messages begun rest := by
  induction controls with
  | nil => rfl
  | cons control others ih =>
    rw [map_cons, cons_append, messages_cons, part_control]
    exact ih

open Message

theorem messages_continuations (begun : Bytes) {first : List Control × Bytes}
    {others : List (List Control × Bytes)} (rest : List DecodedFrame) :
    messages (some begun) (continuations (first :: others) ++ rest) =
      (begun ++ (first :: others).flatMap Prod.snd) :: messages none rest := by
  induction others generalizing begun first with
  | nil =>
    obtain ⟨controls, payload⟩ := first
    rw [continuations, append_assoc, messages_controls]
    simp [continuations, messages_cons, part, Opcode.continuation, Opcode.ping,
      Opcode.pong]
  | cons second others ih =>
    obtain ⟨controls, payload⟩ := first
    rw [continuations, append_assoc, messages_controls, cons_append,
      messages_cons]
    have extended : part (some begun) ⟨(second :: others).isEmpty, Opcode.continuation, payload⟩ =
        (some (begun ++ payload), none) := rfl
    rw [extended, ih, append_assoc]
    rfl

/-- A message is put together whole, whatever was begun before it. -/
theorem messages_message (begun : Option Bytes) (message : Message) (rest : List DecodedFrame) :
    messages begun (message.frames ++ rest) = message.payload :: messages none rest := by
  obtain ⟨opcode, first, continued, data⟩ := message
  have starts : ∀ fin, part begun ⟨fin, opcode, first⟩ =
      if fin then (none, some first) else (some first, none) := by
    intro fin
    rcases data with rfl | rfl <;> rfl
  rw [frames, cons_append, messages_cons, starts]
  cases continued with
  | nil => simp [continuations, payload]
  | cons next others =>
    exact messages_continuations first rest

theorem messages_items (begun : Option Bytes) (items : List Item) :
    messages begun (items.flatMap Item.frames) = items.flatMap Item.payload := by
  induction items generalizing begun with
  | nil => rfl
  | cons item rest ih =>
    rw [flatMap_cons, flatMap_cons]
    cases item with
    | control control =>
      have skipped := messages_controls begun [control] (rest.flatMap Item.frames)
      exact skipped.trans (ih begun)
    | message message =>
      rw [Item.frames, messages_message, ih]
      rfl

theorem Role.speaks_control (role : Role) (control : Control) : role.Speaks control.frame := by
  cases control <;> exact .inr (by simp [Control.frame])

theorem Role.speaks_continuations (role : Role) (rest : List (List Control × Bytes)) :
    ∀ frame ∈ continuations rest, role.Speaks frame := by
  induction rest with
  | nil => simp [continuations]
  | cons next others ih =>
    obtain ⟨controls, payload⟩ := next
    intro frame inside
    rw [continuations, mem_append, mem_cons, mem_map] at inside
    rcases inside with ⟨control, -, rfl⟩ | rfl | later
    · exact role.speaks_control control
    · exact .inr (by simp)
    · exact ih frame later

theorem Role.speaks_items {role : Role} {items : List Item} (taken : ∀ item ∈ items, item.Taken role) :
    ∀ frame ∈ items.flatMap Item.frames, role.Speaks frame := by
  intro frame inside
  obtain ⟨item, here, inside⟩ := List.mem_flatMap.mp inside
  cases item with
  | control control =>
    rw [Item.frames, mem_singleton] at inside
    rw [inside]
    exact role.speaks_control control
  | message message =>
    rw [Item.frames, Message.frames, mem_cons] at inside
    rcases inside with rfl | later
    · exact .inl (taken _ here)
    · exact role.speaks_continuations message.rest frame later

theorem Role.speaks_of_goes {τ : Type} {role : Role} {deliver : τ → Bytes → τ}
    {frames : List DecodedFrame} {work : Stream × Assembly × τ}
    (goes : (handleAll (role.round deliver) work frames).2 = none) :
    ∀ frame ∈ frames, role.Speaks frame := by
  induction frames generalizing work with
  | nil => simp
  | cons frame rest ih =>
    rw [handleAll] at goes
    intro other inside
    rcases handled : role.round deliver work frame with ⟨after, _ | halt⟩
    · rw [handled] at goes
      rcases List.mem_cons.mp inside with rfl | later
      · by_contra strange
        rw [Speaks, not_or] at strange
        obtain ⟨unstarted, unknown⟩ := strange
        simp only [mem_cons, not_mem_nil, or_false, not_or] at unknown
        obtain ⟨discontinued, noPing, noPong⟩ := unknown
        have stopped : (role.round deliver work other).2 ≠ none := by
          simp only [round, handleFrame, if_neg (not_or.mpr ⟨unstarted, discontinued⟩),
            if_neg noPing, if_neg noPong]
          by_cases close : other.opcode = Opcode.close
          · rw [if_pos close]
            exact Option.some_ne_none _
          · rw [if_neg close]
            exact Option.some_ne_none _
        exact stopped (by rw [handled])
      · exact ih goes other later
    · rw [handled] at goes
      cases goes

/-- Frames that come in any chunks are read back; no octets stop the reader but overlong
ones; and an end that takes the messages of a conversation delivers each of them once and
whole, whatever it kept from before, and answers each Ping, and nothing else does. -/
theorem web_socket_streams (frames : List WireFrame) (calls : List (Call UInt8)) (later : Bytes)
    (frame : WireFrame) (bytes : Bytes) (maskKey : Nat → Octets 4) (role : Role)
    (items : List Item) (reads : List ReadResult) (written : Bytes) (assembly : Assembly)
    (delivered : List Bytes) :
    (calls.flatMap Call.chunk ++ later = frames.flatMap WireFrame.octets → ∃ last,
      feed (serve Cursor.feed WsFrameReader.nextFrame) .new calls = .ok (last,
        (feed (m := Id) (owed WireFrame.octets WireFrame.decoded frames) ⟨0, 0⟩ calls).2)) ∧
    (frame.fin = true → encodeFrame frame.opcode frame.payload frame.mask = frame.octets) ∧
    ((∀ calls : List (Call UInt8), calls.flatMap Call.chunk = bytes →
      ∃ ran, feed (serve Cursor.feed WsFrameReader.nextFrame) .new calls = .ok ran) ↔
      ¬ Overlong bytes) ∧
    (role ∈ [Role.server, Role.netsim maskKey] →
      ((∃ assembly', handleAll (role.round fun messages message => messages ++ [message])
          (⟨reads, written, none⟩, assembly, delivered) (items.flatMap Item.frames) =
        ((⟨reads, role.answer written (pings (items.flatMap Item.frames)), none⟩, assembly',
          delivered ++ items.flatMap Item.payload), none)) ↔
      ∀ item ∈ items, item.Taken role)) := by
  refine ⟨?_, ?_, never_fails_iff bytes, ?_⟩
  · intro split
    exact serve_stream WsFrameReader.follows takeFrame_delimits (fun _ _ => trivial) trivial rfl
      split
  · obtain ⟨fin, opcode, payload, mask, small, fits⟩ := frame
    rintro rfl
    rfl
  · intro either
    have sound : role.Sound := by
      rcases List.mem_cons.mp either with rfl | other
      · exact Role.server_sound
      · rw [List.mem_singleton.mp other]
        exact Role.netsim_sound maskKey
    constructor
    · rintro ⟨assembly', handled⟩ item inside
      have speaks := Role.speaks_of_goes (congrArg Prod.snd handled)
      cases item with
      | control control => trivial
      | message message =>
        have first : ⟨message.rest.isEmpty, message.opcode, message.first⟩ ∈
            items.flatMap Item.frames :=
          List.mem_flatMap.mpr ⟨_, inside, List.mem_cons_self⟩
        rcases speaks _ first with starts | other
        · exact starts
        · rcases message.data with same | same <;> rw [same] at other <;>
            simp [Opcode.text, Opcode.binary, Opcode.continuation, Opcode.ping,
              Opcode.pong] at other
    · intro taken
      obtain ⟨assembly', handled, -⟩ := Role.handleAll_speaks
        (fun messages message => messages ++ [message]) sound (Role.speaks_items taken) reads
        written assembly delivered
      rw [messages_items, WsServerConn.foldl_append] at handled
      exact ⟨assembly', handled⟩

def key : Octets 4 := ⟨[1, 2, 3, 4], rfl⟩

/-- A masked text in two frames with a Ping between them, in chunks that split the frames:
the text is delivered whole, and the Ping is answered. -/
theorem text_around_ping :
    (∃ last, feed (serve Cursor.feed WsFrameReader.nextFrame) .new
      [.feed [0x01, 0x81, 1, 2, 3], .next,
        .feed [4, 0x69, 0x89, 0x81, 1, 2, 3, 4, 6, 0x80], .next, .next, .next,
        .feed [0x81, 1, 2, 3, 4, 0x68], .next] =
      .ok (last, [none, none, none, some ⟨false, Opcode.text, [0x68]⟩,
        some ⟨true, Opcode.ping, [7]⟩, none, none, some ⟨true, Opcode.continuation, [0x69]⟩])) ∧
    ∃ assembly, handleAll (Role.server.round fun messages message => messages ++ [message])
      (⟨[], [], none⟩, .new, [])
      [⟨false, Opcode.text, [0x68]⟩, ⟨true, Opcode.ping, [7]⟩, ⟨true, Opcode.continuation, [0x69]⟩] =
        ((⟨[], [0x8A, 1, 7], none⟩, assembly, [[0x68, 0x69]]), none) := by
  obtain ⟨reads, -, -, delivers⟩ := web_socket_streams
    [⟨false, Opcode.text, [0x68], some key, by decide, by decide⟩,
      ⟨true, Opcode.ping, [7], some key, by decide, by decide⟩,
      ⟨true, Opcode.continuation, [0x69], some key, by decide, by decide⟩]
    [.feed [0x01, 0x81, 1, 2, 3], .next,
      .feed [4, 0x69, 0x89, 0x81, 1, 2, 3, 4, 6, 0x80], .next, .next, .next,
      .feed [0x81, 1, 2, 3, 4, 0x68], .next] []
    ⟨true, 0, [], none, by decide, by decide⟩ [] (fun _ => .zero) .server
    [.message ⟨Opcode.text, [0x68], [([.ping [7]], [0x69])], .inl rfl⟩] [] [] .new []
  refine ⟨reads rfl, (delivers mem_cons_self).mpr fun item inside => ?_⟩
  rw [mem_singleton.mp inside]
  exact mem_cons_of_mem _ mem_cons_self

/-- A header of fourteen octets whose length is the greatest there is: the sum of the two
overflows, whatever comes next. -/
theorem greatest_length_stops :
    feed (serve Cursor.feed WsFrameReader.nextFrame) .new
      [.feed [0x82, 0xFF, 0xFF, 0xFF, 0xFF, 0xFF, 0xFF, 0xFF, 0xFF, 0xFF, 0, 0, 0, 0], .next] =
        .error .panic := by
  rfl

end Simble.Transport
