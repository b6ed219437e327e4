import Simble.Transport.Pump

/-! What is delivered of a stream that comes in chunks: by the framers, whatever calls
are made of them, and by the transports, up to the end of their stream. -/
namespace Simble.Transport
open Simble.Lib HciChannel Cursor WireFrame List

/-! ## Messages -/

/-- What a frame does to the message that is being put together, and the message that
it completes. -/
def part (begun : Option Bytes) (frame : DecodedFrame) : Option Bytes × Option Bytes :=
  if frame.opcode = Opcode.ping ∨ frame.opcode = Opcode.pong then (begun, none)
  else
    let so := if frame.opcode = Opcode.continuation then begun.map (· ++ frame.payload)
      else some frame.payload
    if frame.fin then (none, so) else (so, none)

def messages (begun : Option Bytes) (frames : List DecodedFrame) : List Bytes :=
  (feed (m := Id) part begun frames).2.filterMap id

def begunAfter (begun : Option Bytes) (frames : List DecodedFrame) : Option Bytes :=
  (feed (m := Id) part begun frames).1

theorem messages_cons (begun : Option Bytes) (frame : DecodedFrame) (rest : List DecodedFrame) :
    messages begun (frame :: rest) =
      (part begun frame).2.toList ++ messages (part begun frame).1 rest := by
  show ((part begun frame).2 :: (feed (m := Id) part (part begun frame).1 rest).2).filterMap id = _
  cases complete : (part begun frame).2 <;> simp [messages]

theorem begunAfter_cons (begun : Option Bytes) (frame : DecodedFrame) (rest : List DecodedFrame) :
    begunAfter begun (frame :: rest) = begunAfter (part begun frame).1 rest := rfl

theorem messages_append (begun : Option Bytes) (first second : List DecodedFrame) :
    messages begun (first ++ second) =
      messages begun first ++ messages (begunAfter begun first) second := by
  induction first generalizing begun with
  | nil => rfl
  | cons frame rest ih =>
    rw [cons_append, messages_cons, messages_cons, ih, begunAfter_cons, append_assoc]

theorem begunAfter_append (begun : Option Bytes) (first second : List DecodedFrame) :
    begunAfter begun (first ++ second) = begunAfter (begunAfter begun first) second := by
  induction first generalizing begun with
  | nil => rfl
  | cons frame rest ih => exact ih _

/-- The frames that an end takes part in a conversation with. -/
def Role.Speaks (role : Role) (frame : DecodedFrame) : Prop :=
  frame.opcode ∈ role.starts ∨
    frame.opcode ∈ [Opcode.continuation, Opcode.ping, Opcode.pong]

def Assembly.begun (assembly : Assembly) : Option Bytes :=
  if assembly.fragmentOpcode.isSome then some assembly.fragment else none

theorem Assembly.onData_part (assembly : Assembly) {frame : DecodedFrame}
    (data : ¬ (frame.opcode = Opcode.ping ∨ frame.opcode = Opcode.pong)) :
    ((assembly.onData frame).1.begun, (assembly.onData frame).2) = part assembly.begun frame := by
  obtain ⟨fragment, fragmentOpcode⟩ := assembly
  obtain ⟨fin, opcode, payload⟩ := frame
  rw [part, if_neg data]
  by_cases continues : opcode = Opcode.continuation
  · subst continues
    cases fragmentOpcode <;> cases fin <;> simp [onData, begun, new]
  · cases fin <;> simp [onData, begun, new, continues]

/-- An end whose messages start with frames of their own opcodes. -/
structure Role.Sound (role : Role) : Prop where
  starts : ∀ opcode ∈ role.starts, opcode = Opcode.binary ∨ opcode = Opcode.text

open Role

theorem Role.server_sound : server.Sound := ⟨by simp [server]⟩

theorem Role.netsim_sound (maskKey : Nat → Octets 4) : (netsim maskKey).Sound :=
  ⟨by simp [netsim]⟩

def Role.answer (role : Role) (written : Bytes) (pings : List Bytes) : Bytes :=
  pings.foldl (fun written payload => written ++ encodeFrame Opcode.pong payload
    (role.pongMask.map fun maskKey => maskKey written.length)) written

def pings (frames : List DecodedFrame) : List Bytes :=
  frames.filterMap fun frame => if frame.opcode = Opcode.ping then some frame.payload else none

section Rounds
variable {τ : Type} {role : Role} (deliver : τ → Bytes → τ)

theorem Role.round_speaks (sound : role.Sound) {frame : DecodedFrame} (speaks : role.Speaks frame)
    (reads : List ReadResult) (written : Bytes) (assembly : Assembly) (work : τ) :
    ∃ written' assembly', role.round deliver (⟨reads, written, none⟩, assembly, work) frame =
        ((⟨reads, written', none⟩, assembly',
          (part assembly.begun frame).2.toList.foldl deliver work), none) ∧
      assembly'.begun = (part assembly.begun frame).1 ∧
      written' = role.answer written (pings [frame]) := by
  by_cases data : frame.opcode ∈ role.starts ∨ frame.opcode = Opcode.continuation
  · have kind : ¬ (frame.opcode = Opcode.ping ∨ frame.opcode = Opcode.pong) := by
      rcases data with starts | same
      · rcases sound.starts _ starts with same | same <;> rw [same] <;> decide
      · rw [same]
        decide
    have parts := assembly.onData_part kind
    have other : frame.opcode ≠ Opcode.ping := fun same => kind (.inl same)
    have silent : pings [frame] = [] := by simp [pings, other]
    rw [← parts, silent]
    refine ⟨written, (assembly.onData frame).1, ?_, rfl, rfl⟩
    simp only [round, handleFrame, if_pos data]
    cases (assembly.onData frame).2 <;> rfl
  · have control : frame.opcode = Opcode.ping ∨ frame.opcode = Opcode.pong := by
      rcases speaks with starts | inside
      · exact absurd (.inl starts) data
      · simp only [mem_cons, not_mem_nil, or_false] at inside
        rcases inside with same | same
        · exact absurd (.inr same) data
        · exact same
    have nothing : part assembly.begun frame = (assembly.begun, none) := if_pos control
    rw [nothing]
    by_cases ping : frame.opcode = Opcode.ping
    · have answered : pings [frame] = [frame.payload] := by simp [pings, ping]
      rw [answered]
      refine ⟨_, assembly, ?_, rfl, rfl⟩
      simp only [round, handleFrame, if_neg data, if_pos ping]
      rfl
    · have pong := control.resolve_left ping
      have silent : pings [frame] = [] := by simp [pings, ping]
      rw [silent]
      refine ⟨written, assembly, ?_, rfl, rfl⟩
      simp only [round, handleFrame, if_neg data, if_neg ping, if_pos pong]
      rfl

theorem Role.handleAll_speaks (sound : role.Sound) {frames : List DecodedFrame}
    (speaks : ∀ frame ∈ frames, role.Speaks frame)
    (reads : List ReadResult) (written : Bytes) (assembly : Assembly) (work : τ) :
    ∃ assembly', handleAll (role.round deliver) (⟨reads, written, none⟩, assembly, work) frames =
        ((⟨reads, role.answer written (pings frames), none⟩, assembly',
          (messages assembly.begun frames).foldl deliver work), none) ∧
      assembly'.begun = begunAfter assembly.begun frames := by
  induction frames generalizing written assembly work with
  | nil => exact ⟨assembly, rfl, rfl⟩
  | cons frame rest ih =>
    obtain ⟨written', assembly', handled, begun, rfl⟩ :=
      round_speaks deliver sound (speaks frame mem_cons_self) reads written assembly work
    obtain ⟨last, later, after⟩ := ih
      (fun other inside => speaks other (mem_cons_of_mem _ inside))
      (role.answer written (pings [frame])) assembly'
      ((part assembly.begun frame).2.toList.foldl deliver work)
    have answered : role.answer (role.answer written (pings [frame])) (pings rest) =
        role.answer written (pings (frame :: rest)) := by
      have joined : pings (frame :: rest) = pings [frame] ++ pings rest :=
        filterMap_append (l := [frame])
      rw [joined, answer, answer, answer, foldl_append]
    refine ⟨last, ?_, ?_⟩
    · rw [handleAll, handled]
      simp only [later, answered, messages_cons, foldl_append, begun]
    · rw [after, begunAfter_cons, begun]

end Rounds

theorem speaks_newly {role : Role} {frames before newly : List WireFrame}
    (speaks : ∀ frame ∈ frames, role.Speaks frame.decoded) {come : Nat}
    (more : ready WireFrame.octets frames come = before ++ newly) :
    ∀ frame ∈ newly.map WireFrame.decoded, role.Speaks frame := by
  intro frame inside
  obtain ⟨wire, here, rfl⟩ := List.mem_map.mp inside
  have whole : wire ∈ ready WireFrame.octets frames come := by
    rw [more]
    exact mem_append_right _ here
  exact speaks wire ((ready_isPrefix frames _).subset whole)

/-! ## Runs of a transport up to the end of its stream -/

/-- What a stream gives to one call after the other until its end, by which it tells
the end, chunk by chunk. -/
structure Arrival where
  early : List (List Bytes)
  last : List Bytes
  ending : ReadResult
  nonempty : ∀ batch ∈ early ++ [last], ∀ chunk ∈ batch, chunk ≠ []
  ends : ending = .octets [] ∨ ∃ message, ending = .failed message

/-- The reads of calls that find the stream with no more to give yet. -/
def blockedReads (batches : List (List Bytes)) : List ReadResult :=
  batches.flatMap fun batch => chunks batch ++ [.wouldBlock]

namespace Arrival

def reads (arrival : Arrival) : List ReadResult :=
  blockedReads arrival.early ++ (chunks arrival.last ++ [arrival.ending])

def earlyOctets (arrival : Arrival) : Bytes := arrival.early.flatten.flatten

def octets (arrival : Arrival) : Bytes := arrival.earlyOctets ++ arrival.last.flatten

end Arrival

section Pumps
variable {T : Type}

/-- Calls of `pump` up to the first that returns an error, each after packets are
queued for the other side of the stream. -/
def pumps (pump : T → HciChannel → T × HciChannel × Option Halt)
    (queue : HciChannel → List Bytes → HciChannel) (transport : T) (channel : HciChannel) :
    List (List Bytes) → T × HciChannel × Option Halt
  | [] => (transport, channel, none)
  | packets :: later =>
    match pump transport (queue channel packets) with
    | (transport, channel, none) => pumps pump queue transport channel later
    | (transport, channel, some halt) => (transport, channel, some halt)

/-- What a transport holds before a call, of the octets that have come, of the reads and
the octets that are to come. -/
abbrev Holding (T : Type) := Nat → List ReadResult → Bytes → T → HciChannel → Prop

variable (pump : T → HciChannel → T × HciChannel × Option Halt)
  (queue : HciChannel → List Bytes → HciChannel) (Holds : Holding T)
  (queued : ∀ come reads later transport channel packets,
    Holds come reads later transport channel →
    Holds come reads later transport (queue channel packets))
  (step : ∀ come batch reads later transport channel, (∀ chunk ∈ batch, chunk ≠ []) →
    Holds come (chunks batch ++ .wouldBlock :: reads) (batch.flatten ++ later) transport channel →
    ∃ after channel', pump transport channel = (after, channel', none) ∧
      Holds (come + batch.flatten.length) reads later after channel')
include queued step

theorem pumps_early {early : List (List Bytes)} (nonempty : ∀ batch ∈ early, ∀ chunk ∈ batch,
  chunk ≠ [])
    {come : Nat} {reads : List ReadResult} {later : Bytes} {transport : T} {channel : HciChannel}
    (holds : Holds come (blockedReads early ++ reads) (early.flatten.flatten ++ later) transport
      channel) {first : List (List Bytes)} (calls : first.length = early.length)
    (more : List (List Bytes)) : ∃ after channel',
      pumps pump queue transport channel (first ++ more) = pumps pump queue after channel' more ∧
      Holds (come + early.flatten.flatten.length) reads later after channel' := by
  induction early generalizing come transport channel first with
  | nil =>
    obtain rfl := List.length_eq_zero_iff.mp calls
    exact ⟨transport, channel, rfl, holds⟩
  | cons batch rest ih =>
    obtain ⟨packets, others, rfl⟩ : ∃ packets others, first = packets :: others :=
      exists_cons_of_length_pos (by rw [calls]; exact Nat.succ_pos _)
    have joined : blockedReads (batch :: rest) ++ reads =
        chunks batch ++ .wouldBlock :: (blockedReads rest ++ reads) := by
      simp [blockedReads]
    have octets : (batch :: rest).flatten.flatten ++ later =
        batch.flatten ++ (rest.flatten.flatten ++ later) := by
      simp
    rw [joined, octets] at holds
    obtain ⟨after, channel', pumped, holds⟩ := step _ _ _ _ _ _
      (nonempty batch mem_cons_self) (queued _ _ _ _ _ packets holds)
    obtain ⟨last, lastChannel, same, final⟩ := ih
      (fun other inside => nonempty other (mem_cons_of_mem _ inside)) holds
      (Nat.succ.inj calls)
    refine ⟨last, lastChannel, ?_, ?_⟩
    · rw [cons_append, pumps, pumped]
      exact same
    · have size : (batch :: rest).flatten.flatten.length =
          batch.flatten.length + rest.flatten.flatten.length := by
        rw [flatten_cons, flatten_append, length_append]
      rw [size, ← Nat.add_assoc]
      exact final

theorem pumps_to_end {result : Nat → List Bytes}
    (ended : ∀ come batch ending later transport channel, (∀ chunk ∈ batch, chunk ≠ []) →
      (ending = .octets [] ∨ ∃ message, ending = .failed message) →
      Holds come (chunks batch ++ [ending]) later transport channel →
      ∃ after channel' message, pump transport channel = (after, channel', some (.transport message)) ∧
        channel'.ctrlToHost = result come)
    {arrival : Arrival} {later : Bytes} {transport : T} {channel : HciChannel}
    (holds : Holds 0 arrival.reads (arrival.octets ++ later) transport channel)
    {calls : List (List Bytes)} (long : arrival.early.length < calls.length) : ∃ message,
      (pumps pump queue transport channel calls).2.2 = some (.transport message) ∧
      (pumps pump queue transport channel calls).2.1.ctrlToHost =
        result arrival.earlyOctets.length := by
  obtain ⟨packets, others, last⟩ : ∃ packets others,
      calls.drop arrival.early.length = packets :: others :=
    exists_cons_of_length_pos (by rw [length_drop]; omega)
  have all : calls = calls.take arrival.early.length ++ packets :: others := by
    rw [← last, take_append_drop]
  rw [Arrival.octets, append_assoc] at holds
  obtain ⟨after, channel', same, holds⟩ := pumps_early pump queue Holds queued step
    (fun batch inside => arrival.nonempty batch (mem_append_left _ inside)) holds
    (length_take_of_le (Nat.le_of_lt long)) (packets :: others)
  rw [Nat.zero_add] at holds
  obtain ⟨final, finalChannel, message, pumped, delivered⟩ := ended _ _ _ _ _ _
    (arrival.nonempty arrival.last (by simp)) arrival.ends (queued _ _ _ _ _ packets holds)
  refine ⟨message, ?_⟩
  rw [all, same, pumps, pumped]
  exact ⟨rfl, delivered⟩

end Pumps

def queueHost (channel : HciChannel) (packets : List Bytes) : HciChannel :=
  { channel with hostToCtrl := channel.hostToCtrl ++ packets }

def queueCtrl (channel : HciChannel) (packets : List Bytes) : HciChannel :=
  { channel with ctrlToHost := channel.ctrlToHost ++ packets }

/-! ### Rootcanal -/

namespace RootcanalTransport

structure Holds (packets : List H4Packet) (start : List Bytes) (come : Nat)
    (reads : List ReadResult) (later : Bytes) (transport : RootcanalTransport)
    (channel : HciChannel) : Prop where
  reads : transport.stream.reads = reads
  takes : transport.stream.refusal = none
  stands : Stands (fun _ => True) Cursor.unread H4Packet.octets packets come transport.framer later
  delivered : channel.ctrlToHost = start ++ (ready H4Packet.octets packets come).map H4Packet.octets

theorem handleAll_deliver (channel : HciChannel) (packets : List Bytes) :
    handleAll deliver channel packets =
      ({ channel with ctrlToHost := channel.ctrlToHost ++ packets }, none) := by
  induction packets generalizing channel with
  | nil => simp [handleAll]
  | cons packet rest ih => simp [handleAll, deliver, receiveFromController, ih]

variable {packets : List H4Packet} {start : List Bytes}

variable {later : Bytes}

theorem pump_blocked {come : Nat} {batch : List Bytes} {reads : List ReadResult}
    {transport : RootcanalTransport} {channel : HciChannel} (nonempty : ∀ chunk ∈ batch, chunk ≠ [])
    (holds : Holds packets start come (chunks batch ++ .wouldBlock :: reads)
      (batch.flatten ++ later) transport channel) :
    ∃ after channel',
    pump transport channel = (after, channel', none) ∧
      Holds packets start (come + batch.flatten.length) reads later after channel' := by
  obtain ⟨⟨_, written, _⟩, framer⟩ := transport
  obtain ⟨rfl, rfl, stands, delivered⟩ := holds
  obtain ⟨written', wrote⟩ := writeQueue_taken (fun _ => id) channel.hostToCtrl
    (chunks batch ++ .wouldBlock :: reads) written
  obtain ⟨fed, read, same⟩ := readAll_chunks unread_feed nonempty framer
  obtain ⟨last, newly, more, drained, stays⟩ := stands.drain H4FrameReader.follows
    takePacket_delimits (fun _ _ => trivial) trivial same deliver
    { channel with hostToCtrl := [] } (Nat.lt_succ_self _)
  rw [handleAll_deliver] at drained stays
  refine ⟨⟨⟨reads, written', none⟩, last⟩, ⟨[], channel.ctrlToHost ++ newly.map H4Packet.octets⟩,
    ?_, ?_⟩
  · simp only [pump, wrote, read, readAll, rounds, drained]
  · refine ⟨rfl, rfl, stays rfl, ?_⟩
    rw [more, List.map_append, ← List.append_assoc, ← delivered]

theorem pump_ended {come : Nat} {batch : List Bytes} {ending : ReadResult}
    {transport : RootcanalTransport} {channel : HciChannel} (nonempty : ∀ chunk ∈ batch, chunk ≠ [])
    (ends : ending = .octets [] ∨ ∃ message, ending = .failed message)
    (holds : Holds packets start come (chunks batch ++ [ending]) later transport channel) :
    ∃ after channel' message, pump transport channel =
        (after, channel', some (.transport message)) ∧
      channel'.ctrlToHost = start ++ (ready H4Packet.octets packets come).map H4Packet.octets := by
  obtain ⟨⟨_, written, _⟩, framer⟩ := transport
  obtain ⟨rfl, rfl, -, delivered⟩ := holds
  obtain ⟨written', wrote⟩ := writeQueue_taken (fun _ => id) channel.hostToCtrl
    (chunks batch ++ [ending]) written
  obtain ⟨fed, read, -⟩ := readAll_chunks unread_feed nonempty framer
  rcases ends with rfl | ⟨message, rfl⟩
  · refine ⟨⟨⟨[], written', none⟩, fed⟩, ⟨[], channel.ctrlToHost⟩, "Rootcanal pipe closed", ?_,
      delivered⟩
    simp only [pump, wrote, read, readAll]
  · refine ⟨⟨⟨[], written', none⟩, fed⟩, ⟨[], channel.ctrlToHost⟩, message, ?_, delivered⟩
    simp only [pump, wrote, read, readAll]

theorem delivered_at_end {arrival : Arrival}
    (split : arrival.octets ++ later = packets.flatMap H4Packet.octets) (written : Bytes)
    (channel : HciChannel) {queued : List (List Bytes)}
    (calls : arrival.early.length < queued.length) : ∃ message,
    (pumps pump queueHost ⟨⟨arrival.reads, written, none⟩, .new⟩ channel queued).2.2 =
        some (.transport message) ∧
      (pumps pump queueHost ⟨⟨arrival.reads, written, none⟩, .new⟩ channel queued).2.1.ctrlToHost =
        channel.ctrlToHost ++
          (ready H4Packet.octets packets arrival.earlyOctets.length).map H4Packet.octets := by
  have positive : ∀ packet ∈ packets, 0 < packet.octets.length := fun packet _ =>
    takePacket_delimits.length_pos packet trivial
  have begins : Holds packets channel.ctrlToHost 0 arrival.reads (arrival.octets ++ later)
      ⟨⟨arrival.reads, written, none⟩, .new⟩ channel := by
    refine ⟨rfl, rfl, stands_at_start trivial rfl positive split, ?_⟩
    rw [ready_zero positive, map_nil, append_nil]
  exact pumps_to_end pump queueHost (Holds packets channel.ctrlToHost)
    (fun come reads later transport channel packets holds =>
      ⟨holds.reads, holds.takes, holds.stands, holds.delivered⟩)
    (fun _ _ _ _ _ _ nonempty holds => pump_blocked nonempty holds)
    (fun _ _ _ _ _ _ nonempty ends holds => pump_ended nonempty ends holds)
    begins calls

end RootcanalTransport

/-! ### netsim -/

namespace NetsimTransport

structure Holds (frames : List WireFrame) (start : List Bytes) (come : Nat)
    (reads : List ReadResult) (later : Bytes) (transport : NetsimTransport)
    (channel : HciChannel) : Prop where
  reads : transport.stream.reads = reads
  takes : transport.stream.refusal = none
  stands : Stands (fun _ => True) Cursor.unread WireFrame.octets frames come transport.reader later
  begun : transport.assembly.begun =
    begunAfter none ((ready WireFrame.octets frames come).map WireFrame.decoded)
  delivered : channel.ctrlToHost = start ++
    messages none ((ready WireFrame.octets frames come).map WireFrame.decoded)

theorem foldl_receive (channel : HciChannel) (delivered : List Bytes) :
    delivered.foldl receiveFromController channel =
      { channel with ctrlToHost := channel.ctrlToHost ++ delivered } := by
  induction delivered generalizing channel with
  | nil => simp
  | cons message rest ih => simp [receiveFromController, ih]

variable {maskKey : Nat → Octets 4} {frames : List WireFrame} {start : List Bytes}

variable {later : Bytes}

theorem pump_blocked (speaks : ∀ frame ∈ frames, (netsim maskKey).Speaks frame.decoded)
    {come : Nat} {batch : List Bytes} {reads : List ReadResult} {transport : NetsimTransport}
    {channel : HciChannel} (nonempty : ∀ chunk ∈ batch, chunk ≠ [])
    (holds : Holds frames start come (chunks batch ++ .wouldBlock :: reads)
      (batch.flatten ++ later) transport channel) :
    ∃ after channel',
    pump maskKey transport channel = (after, channel', none) ∧
      Holds frames start (come + batch.flatten.length) reads later after channel' := by
  obtain ⟨⟨_, written, _⟩, reader, assembly⟩ := transport
  obtain ⟨rfl, rfl, stands, begun, delivered⟩ := holds
  obtain ⟨written', wrote⟩ := writeQueue_taken (fun drawn => encodeMaskedBinaryFrame (maskKey drawn))
    channel.hostToCtrl (chunks batch ++ .wouldBlock :: reads) written
  obtain ⟨fed, read, same⟩ := readAll_chunks unread_feed nonempty reader
  obtain ⟨last, newly, more, drained, stays⟩ := stands.drain WsFrameReader.follows
    takeFrame_delimits (fun _ _ => trivial) trivial same
    ((netsim maskKey).round receiveFromController)
    (⟨reads, written', none⟩, assembly, { channel with hostToCtrl := [] }) (Nat.lt_succ_self _)
  have spoken := speaks_newly speaks more
  obtain ⟨assembly', handled, after⟩ := handleAll_speaks
    receiveFromController (netsim_sound maskKey) spoken reads written' assembly
    { channel with hostToCtrl := [] }
  rw [handled] at drained stays
  rw [foldl_receive] at drained
  let answered := (netsim maskKey).answer written' (pings (newly.map decoded))
  refine ⟨⟨⟨reads, answered, none⟩, last, assembly'⟩, ⟨[], channel.ctrlToHost ++
    messages assembly.begun (newly.map decoded)⟩, ?_, ?_⟩
  · simp only [pump, wrote, read, readAll, rounds, drained, answered]
  · refine ⟨rfl, rfl, stays rfl, ?_, ?_⟩
    · rw [after, more, List.map_append, begunAfter_append, ← begun]
    · rw [more, List.map_append, messages_append, ← List.append_assoc, ← delivered, ← begun]

theorem pump_ended {come : Nat} {batch : List Bytes} {ending : ReadResult}
    {transport : NetsimTransport} {channel : HciChannel} (nonempty : ∀ chunk ∈ batch, chunk ≠ [])
    (ends : ending = .octets [] ∨ ∃ message, ending = .failed message)
    (holds : Holds frames start come (chunks batch ++ [ending]) later transport channel) :
    ∃ after channel' message, pump maskKey transport channel =
        (after, channel', some (.transport message)) ∧
      channel'.ctrlToHost = start ++
        messages none ((ready octets frames come).map decoded) := by
  obtain ⟨⟨_, written, _⟩, reader, assembly⟩ := transport
  obtain ⟨rfl, rfl, -, -, delivered⟩ := holds
  obtain ⟨written', wrote⟩ := writeQueue_taken (fun drawn => encodeMaskedBinaryFrame (maskKey drawn))
    channel.hostToCtrl (chunks batch ++ [ending]) written
  obtain ⟨fed, read, -⟩ := readAll_chunks unread_feed nonempty reader
  rcases ends with rfl | ⟨message, rfl⟩
  · refine ⟨⟨⟨[], written', none⟩, fed, assembly⟩, ⟨[], channel.ctrlToHost⟩,
      "netsim WebSocket connection closed", ?_, delivered⟩
    simp only [pump, wrote, read, readAll]
  · refine ⟨⟨⟨[], written', none⟩, fed, assembly⟩, ⟨[], channel.ctrlToHost⟩, message, ?_, delivered⟩
    simp only [pump, wrote, read, readAll]

theorem delivered_at_end (speaks : ∀ frame ∈ frames, (netsim maskKey).Speaks frame.decoded)
    {arrival : Arrival} (split : arrival.octets ++ later = frames.flatMap octets)
    (written : Bytes) (channel : HciChannel) {queued : List (List Bytes)}
    (calls : arrival.early.length < queued.length) : ∃ message,
    (pumps (pump maskKey) queueHost ⟨⟨arrival.reads, written, none⟩, .new, .new⟩ channel
      queued).2.2 = some (.transport message) ∧
    (pumps (pump maskKey) queueHost ⟨⟨arrival.reads, written, none⟩, .new, .new⟩ channel
      queued).2.1.ctrlToHost = channel.ctrlToHost ++ messages none
        ((ready octets frames arrival.earlyOctets.length).map decoded) := by
  have positive : ∀ frame ∈ frames, 0 < frame.octets.length := fun frame _ =>
    takeFrame_delimits.length_pos frame trivial
  have begins : Holds frames channel.ctrlToHost 0 arrival.reads (arrival.octets ++ later)
      ⟨⟨arrival.reads, written, none⟩, .new, .new⟩ channel := by
    refine ⟨rfl, rfl, stands_at_start trivial rfl positive split, ?_, ?_⟩
    · rw [ready_zero positive]
      rfl
    · rw [ready_zero positive, map_nil]
      exact (append_nil _).symm
  exact pumps_to_end (pump maskKey) queueHost (Holds frames channel.ctrlToHost)
    (fun come reads later transport channel packets holds =>
      ⟨holds.reads, holds.takes, holds.stands, holds.begun, holds.delivered⟩)
    (fun _ _ _ _ _ _ nonempty holds => pump_blocked speaks nonempty holds)
    (fun _ _ _ _ _ _ nonempty ends holds => pump_ended nonempty ends holds)
    begins calls

end NetsimTransport

/-! ### The server -/

namespace WsServerConn

structure Holds (frames : List WireFrame) (start : List Bytes) (come : Nat)
    (reads : List ReadResult) (later : Bytes) (conn : WsServerConn) (channel : HciChannel) :
    Prop where
  reads : conn.stream.reads = reads
  takes : conn.stream.refusal = none
  goes : conn.closed = none
  stands : Stands (fun _ => True) Cursor.unread WireFrame.octets frames come conn.reader later
  begun : conn.assembly.begun =
    begunAfter none ((ready WireFrame.octets frames come).map WireFrame.decoded)
  delivered : channel.hostToCtrl = start ++
    messages none ((ready WireFrame.octets frames come).map WireFrame.decoded)

theorem foldl_inject (channel : HciChannel) (delivered : List Bytes) :
    delivered.foldl injectHostPacket channel =
      { channel with hostToCtrl := channel.hostToCtrl ++ delivered } := by
  induction delivered generalizing channel with
  | nil => simp
  | cons message rest ih => simp [injectHostPacket, ih]

theorem foldl_append (front delivered : List Bytes) :
    delivered.foldl (fun messages message => messages ++ [message]) front = front ++ delivered := by
  induction delivered generalizing front with
  | nil => simp
  | cons message rest ih => simp [ih]

variable {frames : List WireFrame} {start : List Bytes}

variable {come : Nat} {batch : List Bytes} {later : Bytes} {conn : WsServerConn}
  {channel : HciChannel}

section Nonempty
variable (speaks : ∀ frame ∈ frames, server.Speaks frame.decoded) {reads : List ReadResult}
  (nonempty : ∀ chunk ∈ batch, chunk ≠ [])
include speaks nonempty

theorem poll_batch
    (holds : Holds frames start come (chunks batch ++ reads) (batch.flatten ++ later) conn channel)
    (written : Bytes) (left : List ReadResult) : ∃ fed last written' assembly newly,
    (∀ reads, readAll feed conn.reader (chunks batch ++ reads) =
      readAll feed fed reads) ∧
    drain WsFrameReader.nextFrame
        (server.round fun messages message => messages ++ [message]) (rounds fed) fed
        (⟨left, written, none⟩, conn.assembly, []) =
      (last, (⟨left, written', none⟩, assembly, newly), none) ∧
    Stands (fun _ => True) unread octets frames (come + batch.flatten.length) last
      later ∧
    assembly.begun = begunAfter none ((ready octets frames
      (come + batch.flatten.length)).map decoded) ∧
    channel.hostToCtrl ++ newly = start ++ messages none ((ready octets frames
      (come + batch.flatten.length)).map decoded) := by
  obtain ⟨-, -, -, stands, begun, delivered⟩ := holds
  obtain ⟨fed, read, same⟩ := readAll_chunks unread_feed nonempty conn.reader
  obtain ⟨last, newly, more, drained, stays⟩ := stands.drain WsFrameReader.follows
    takeFrame_delimits (fun _ _ => trivial) trivial same
    (server.round fun messages message => messages ++ [message])
    (⟨left, written, none⟩, conn.assembly, []) (Nat.lt_succ_self _)
  have spoken := speaks_newly speaks more
  obtain ⟨assembly, handled, after⟩ := handleAll_speaks
    (fun messages message => messages ++ [message]) server_sound spoken left written
    conn.assembly []
  rw [handled] at drained stays
  rw [foldl_append, nil_append] at drained
  refine ⟨fed, last, _, assembly, _, read, drained, stays rfl, ?_, ?_⟩
  · rw [after, more, map_append, begunAfter_append, ← begun]
  · rw [more, map_append, messages_append, ← append_assoc, ← delivered, ← begun]

theorem pump_blocked
    (holds : Holds frames start come (chunks batch ++ .wouldBlock :: reads)
      (batch.flatten ++ later) conn channel) :
    ∃ after channel',
    pump conn channel = (after, channel', none) ∧
      Holds frames start (come + batch.flatten.length) reads later after channel' := by
  have here := holds
  obtain ⟨⟨_, written, _⟩, reader, assembly, _⟩ := conn
  obtain ⟨rfl, rfl, rfl, -, -, -⟩ := holds
  obtain ⟨wrote, write⟩ := writeQueue_taken (fun _ packet => encodeFrame Opcode.binary packet none)
    channel.ctrlToHost (chunks batch ++ .wouldBlock :: reads) written
  obtain ⟨fed, last, written', assembly', newly, read, drained, stands, begun, delivered⟩ :=
    poll_batch speaks nonempty here wrote reads
  refine ⟨⟨⟨reads, written', none⟩, last, assembly', none⟩, ⟨channel.hostToCtrl ++ newly, []⟩,
    ?_, ⟨rfl, rfl, rfl, stands, begun, delivered⟩⟩
  simp only [pump, write, pollMessages, read, readAll, drained, report, foldl_inject]

end Nonempty

theorem pollMessages_closed (stream : Stream) (reader : WsFrameReader) (assembly : Assembly)
    (closed : String) : pollMessages ⟨stream, reader, assembly, some closed⟩ =
      (⟨stream, reader, assembly, some closed⟩, .error (.transport closed)) := rfl

theorem pumps_ended (speaks : ∀ frame ∈ frames, server.Speaks frame.decoded)
    {ending : ReadResult} (nonempty : ∀ chunk ∈ batch, chunk ≠ [])
    (ends : ending = .octets [] ∨ ∃ message, ending = .failed message)
    (holds : Holds frames start come (chunks batch ++ [ending])
      (batch.flatten ++ later) conn channel)
    (queued : List (List Bytes)) (packets others : List Bytes) : ∃ message,
    (pumps pump queueCtrl conn channel (packets :: others :: queued)).2.2 =
      some (.transport message) ∧
    (pumps pump queueCtrl conn channel (packets :: others :: queued)).2.1.hostToCtrl =
      start ++ messages none ((ready octets frames
        (come + batch.flatten.length)).map decoded) := by
  have here := holds
  obtain ⟨⟨_, written, _⟩, reader, assembly, _⟩ := conn
  obtain ⟨rfl, rfl, rfl, -, -, -⟩ := holds
  obtain ⟨wrote, write⟩ := writeQueue_taken (fun _ packet => encodeFrame Opcode.binary packet none)
    (channel.ctrlToHost ++ packets) (chunks batch ++ [ending]) written
  obtain ⟨fed, last, written', assembly', newly, read, drained, stands, begun, delivered⟩ :=
    poll_batch speaks nonempty here wrote []
  -- What the call records, whatever the end is.
  obtain ⟨message, polled⟩ : ∃ message, pollMessages
      ⟨⟨chunks batch ++ [ending], wrote, none⟩, reader, assembly, none⟩ =
        report last ⟨[], written', none⟩ assembly' newly (some message) := by
    rcases ends with rfl | ⟨message, rfl⟩
    · refine ⟨"WebSocket connection closed", ?_⟩
      simp only [pollMessages, read, readAll, drained]
    · refine ⟨message, ?_⟩
      simp only [pollMessages, read, readAll, drained]
  refine ⟨message, ?_⟩
  cases newly with
  | nil =>
    rw [append_nil] at delivered
    simp only [pumps, queueCtrl, pump, write, polled, report, delivered, and_self]
  | cons first rest =>
    obtain ⟨again, write'⟩ := writeQueue_taken
      (fun _ packet => encodeFrame Opcode.binary packet none) others [] written'
    simp only [pumps, queueCtrl, pump, write, polled, report, foldl_inject, nil_append, write',
      pollMessages_closed, delivered, and_self]

theorem delivered_at_end (speaks : ∀ frame ∈ frames, server.Speaks frame.decoded)
    {arrival : Arrival} (split : arrival.octets ++ later = frames.flatMap octets)
    (written : Bytes) (channel : HciChannel) {queued : List (List Bytes)}
    (calls : arrival.early.length + 1 < queued.length) : ∃ message,
    (pumps pump queueCtrl ⟨⟨arrival.reads, written, none⟩, .new, .new, none⟩ channel
      queued).2.2 = some (.transport message) ∧
    (pumps pump queueCtrl ⟨⟨arrival.reads, written, none⟩, .new, .new, none⟩ channel
      queued).2.1.hostToCtrl = channel.hostToCtrl ++ messages none
        ((ready octets frames arrival.octets.length).map decoded) := by
  have positive : ∀ frame ∈ frames, 0 < frame.octets.length := fun frame _ =>
    takeFrame_delimits.length_pos frame trivial
  have begins : Holds frames channel.hostToCtrl 0 arrival.reads (arrival.octets ++ later)
      ⟨⟨arrival.reads, written, none⟩, .new, .new, none⟩ channel := by
    refine ⟨rfl, rfl, rfl, stands_at_start trivial rfl positive split, ?_, ?_⟩
    · rw [ready_zero positive]
      rfl
    · rw [ready_zero positive, map_nil]
      exact (append_nil _).symm
  obtain ⟨packets, others, more, last⟩ : ∃ packets others more,
      queued.drop arrival.early.length = packets :: others :: more := by
    have long : 2 ≤ (queued.drop arrival.early.length).length := by
      rw [length_drop]
      omega
    rcases calls' : queued.drop arrival.early.length with _ | ⟨packets, _ | ⟨others, more⟩⟩
    · rw [calls'] at long
      simp at long
    · rw [calls'] at long
      simp at long
    · exact ⟨packets, others, more, rfl⟩
  have all : queued = queued.take arrival.early.length ++ packets :: others :: more := by
    rw [← last, take_append_drop]
  rw [Arrival.octets, append_assoc] at begins
  obtain ⟨after, channel', same, holds⟩ :=
    pumps_early pump queueCtrl (Holds frames channel.hostToCtrl)
    (fun come reads later conn channel packets holds =>
      ⟨holds.reads, holds.takes, holds.goes, holds.stands, holds.begun, holds.delivered⟩)
    (fun _ _ _ _ _ _ nonempty holds => pump_blocked speaks nonempty holds)
    (fun batch inside => arrival.nonempty batch (mem_append_left _ inside)) begins
    (length_take_of_le (show arrival.early.length ≤ queued.length by omega))
    (packets :: others :: more)
  rw [Nat.zero_add] at holds
  obtain ⟨message, reported, delivered⟩ := pumps_ended speaks
    (arrival.nonempty arrival.last (by simp)) arrival.ends holds more packets others
  refine ⟨message, ?_⟩
  rw [all, same, Arrival.octets, length_append]
  exact ⟨reported, delivered⟩

end WsServerConn

/-! ## Byte streams -/

/-- The three framers hand over every packet as soon as its last octet has come, whatever calls
are made of them; the server delivers every message before it reports the end, the two others what
had come in calls before the one that finds the end. -/
theorem byte_streams (packets : List H4Packet) (frames : List WireFrame)
    (maskKey : Nat → Octets 4) (calls : List (Call UInt8)) (arrival : Arrival)
    (later written : Bytes) (channel : HciChannel) (queued : List (List Bytes)) :
    (calls.flatMap Call.chunk ++ later = packets.flatMap H4Packet.octets → ∃ last,
      feed (serve Cursor.feed H4FrameReader.nextPacket) .new calls =
        .ok (last, (feed (m := Id) (owed H4Packet.octets H4Packet.octets packets) ⟨0, 0⟩ calls).2)) ∧
    ((∀ packet ∈ packets, packet.IsAcl) →
      calls.flatMap Call.chunk ++ later = packets.flatMap (fun packet => packet.octets.tail) →
      ∃ last, feed (m := Except Halt) (serve AclInReassembler.feed fun reassembler =>
          .ok reassembler.nextPacket) ⟨[], false⟩ calls =
        .ok (last, (feed (m := Id) (owed (fun packet => packet.octets.tail) H4Packet.octets packets)
          ⟨0, 0⟩ calls).2)) ∧
    ((∀ packet ∈ packets, packet.IsAclOrIso) →
      calls.flatMap Call.chunk ++ later = packets.flatMap H4Packet.octets →
      ∃ last, feed (m := Except Halt) (serve AclInReassembler.feed fun reassembler =>
          .ok reassembler.nextPacket) ⟨[], true⟩ calls =
        .ok (last, (feed (m := Id) (owed H4Packet.octets H4Packet.octets packets) ⟨0, 0⟩ calls).2)) ∧
    ((∀ frame ∈ frames, Role.server.Speaks frame.decoded) →
      arrival.octets ++ later = frames.flatMap WireFrame.octets →
      arrival.early.length + 1 < queued.length →
      let ran := pumps WsServerConn.pump queueCtrl
        ⟨⟨arrival.reads, written, none⟩, .new, .new, none⟩ channel queued
      (∃ message, ran.2.2 = some (.transport message)) ∧
      ran.2.1.hostToCtrl = channel.hostToCtrl ++ messages none
        ((ready WireFrame.octets frames arrival.octets.length).map WireFrame.decoded)) ∧
    (arrival.octets ++ later = packets.flatMap H4Packet.octets →
      arrival.early.length < queued.length →
      let ran := pumps RootcanalTransport.pump queueHost ⟨⟨arrival.reads, written, none⟩, .new⟩
        channel queued
      (∃ message, ran.2.2 = some (.transport message)) ∧
      (ran.2.1.ctrlToHost = channel.ctrlToHost ++
          (ready H4Packet.octets packets arrival.octets.length).map H4Packet.octets ↔
        ready H4Packet.octets packets arrival.earlyOctets.length =
          ready H4Packet.octets packets arrival.octets.length)) ∧
    ((∀ frame ∈ frames, (Role.netsim maskKey).Speaks frame.decoded) →
      arrival.octets ++ later = frames.flatMap WireFrame.octets →
      arrival.early.length < queued.length →
      let ran := pumps (NetsimTransport.pump maskKey) queueHost
        ⟨⟨arrival.reads, written, none⟩, .new, .new⟩ channel queued
      let complete := fun come =>
        messages none ((ready WireFrame.octets frames come).map WireFrame.decoded)
      (∃ message, ran.2.2 = some (.transport message)) ∧
      (ran.2.1.ctrlToHost = channel.ctrlToHost ++ complete arrival.octets.length ↔
        complete arrival.earlyOctets.length = complete arrival.octets.length)) := by
  refine ⟨?_, ?_, ?_, ?_, ?_, ?_⟩
  · intro split
    exact serve_stream H4FrameReader.follows takePacket_delimits (fun _ _ => trivial) trivial rfl
      split
  · intro acl split
    exact serve_stream (AclInReassembler.follows false) AclInReassembler.untyped_delimits acl rfl
      rfl split
  · intro carried split
    exact serve_stream (AclInReassembler.follows true) AclInReassembler.typed_delimits carried rfl
      rfl split
  · intro speaks split enough
    obtain ⟨message, reported, delivered⟩ :=
      WsServerConn.delivered_at_end speaks split written channel enough
    exact ⟨⟨message, reported⟩, delivered⟩
  · intro split enough
    obtain ⟨message, reported, delivered⟩ :=
      RootcanalTransport.delivered_at_end split written channel enough
    refine ⟨⟨message, reported⟩, ?_⟩
    rw [delivered]
    constructor
    · intro same
      have lengths := congrArg List.length (List.append_cancel_left same)
      rw [List.length_map, List.length_map] at lengths
      exact ready_eq_iff.mp lengths
    · intro same
      rw [same]
  · intro speaks split enough
    obtain ⟨message, reported, delivered⟩ :=
      NetsimTransport.delivered_at_end speaks split written channel enough
    refine ⟨⟨message, reported⟩, ?_⟩
    rw [delivered]
    constructor
    · exact List.append_cancel_left
    · intro same
      rw [← same]

/-- An event in one batch with the end of the stream: it is never delivered. -/
def cutOff : Arrival where
  early := []
  last := [[0x04, 0x13, 0x00]]
  ending := .octets []
  nonempty := by simp
  ends := .inl rfl

theorem last_packet_lost :
    (pumps RootcanalTransport.pump queueHost ⟨⟨cutOff.reads, [], none⟩, .new⟩ ⟨[], []⟩
      [[], []]).2 = (⟨[], []⟩, some (.transport "Rootcanal pipe closed")) ∧
    (ready H4Packet.octets [.event 0x13 [] (by decide)] cutOff.octets.length).map H4Packet.octets =
      [[0x04, 0x13, 0x00]] := ⟨rfl, rfl⟩

/-- The same event in a call before the one that finds the end. -/
def inTime : Arrival where
  early := [[[0x04, 0x13], [0x00]]]
  last := []
  ending := .octets []
  nonempty := by simp
  ends := .inl rfl

theorem last_packet_in_time :
    (pumps RootcanalTransport.pump queueHost ⟨⟨inTime.reads, [], none⟩, .new⟩ ⟨[], []⟩
      [[], []]).2.1.ctrlToHost = [[0x04, 0x13, 0x00]] :=
  ((byte_streams [.event 0x13 [] (by decide)] [] (fun _ => .zero) [] inTime [] [] ⟨[], []⟩
    [[], []]).2.2.2.2.1 rfl (by decide)).2.mpr rfl

end Simble.Transport
