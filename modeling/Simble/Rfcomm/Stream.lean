import Simble.Rfcomm.Link
import Simble.Rfcomm.Endpoint
import Simble.Lib.CreditStream

/-! Both directions of a connection as credit streams. A direction's buffer and credits are the
sender's, its window the receiver's; the UIH frames in flight carry its chunks one way and its
credits the other. -/
namespace Simble.Rfcomm
open Simble.Lib RfcommFrame List

def MultiplexerEvent.payload : MultiplexerEvent → Bytes
  | .dataReceived _ data => data
  | _ => []

namespace Signal

/-- The bytes side `i` wrote with a call that returned `Ok`. -/
def writtenBy (i : Side) : Signal → Bytes
  | .called j (.write _ data) => if j = i then data else []
  | _ => []

/-- The bytes side `i` reported as received. -/
def deliveredTo (i : Side) (signal : Signal) : Bytes :=
  (signal.events i).flatMap MultiplexerEvent.payload

end Signal

namespace Pair

def writtenBy (i : Side) (signals : List Signal) : Bytes :=
  signals.flatMap (Signal.writtenBy i)

def deliveredTo (i : Side) (signals : List Signal) : Bytes :=
  signals.flatMap (Signal.deliveredTo i)

@[simp] theorem writtenBy_snoc (i : Side) (signals : List Signal) (signal : Signal) :
    writtenBy i (signals ++ [signal]) = writtenBy i signals ++ signal.writtenBy i := by
  simp [writtenBy]

@[simp] theorem deliveredTo_snoc (i : Side) (signals : List Signal) (signal : Signal) :
    deliveredTo i (signals ++ [signal]) = deliveredTo i signals ++ signal.deliveredTo i := by
  simp [deliveredTo]

/-- Calls of `write` and deliveries. -/
def isTraffic (_ : Pair) : Signal → Bool
  | .called _ (.write ..) | .refused _ (.write ..) | .received .. | .dropped _ => true
  | _ => false

def Traffic (net : Pair) (signal : Signal) : Prop := net.isTraffic signal = true

/-- The stream from side `i` to its peer. -/
def direction (dlci : UInt8) (net : Pair) (dlc : Side → Dlc) (i : Side) : CreditStream UInt8 where
  buffer := (dlc i).txBuffer
  credits := (dlc i).txCredits
  returning := credits (uihFrames dlci (net.inbox i))
  flight := chunks (uihFrames dlci (net.inbox i.peer))
  window := (dlc i.peer).rxCredits

end Pair

/-- Every history of the two streams so far, and why neither is stuck: bytes
wait for credits only, and while a side has not seen the peer transmit the peer
has nothing to say or a frame on the way. -/
structure Streaming (link : Link) (signals : List Signal) (net : Pair) (dlc : Side → Dlc)
    (actions : Side → List (CreditStream.Action UInt8)) : Prop where
  endpoint : ∀ i, Endpoint link.dlci (net.node i) (dlc i)
  spoken : ∀ i, ∀ bytes ∈ net.inbox i, ∃ message, message.Carried bytes ∧ Spoken link.dlci message
  stream : ∀ i, Run (CreditStream.Step defaultMaxCredits)
    (Pair.direction link.dlci link.negotiated link.dlc i) (actions i)
    (Pair.direction link.dlci net dlc i)
  written : ∀ i, CreditStream.written (actions i) = Pair.writtenBy i signals
  delivered : ∀ i, CreditStream.delivered (actions i) = Pair.deliveredTo i.peer signals
  blocked : ∀ i, (dlc i).txBuffer ≠ [] → (dlc i).txCredits = 0
  primed : ∀ i, (dlc i.peer).rxCredits ≤ defaultCreditThreshold →
    ((dlc i).rxCredits ≤ defaultCreditThreshold ∧ (dlc i).txBuffer = []) ∨
      uihFrames link.dlci (net.inbox i.peer) ≠ []

/-- The pair as the transmit loop of side `i` finds it. -/
structure Ready (link : Link) (signals : List Signal) (net : Pair) (i : Side) (dlc : Side → Dlc)
    (actions : Side → List (CreditStream.Action UInt8)) : Prop where
  endpoint : Endpoint link.dlci (net.node i.peer) (dlc i.peer)
  spoken : ∀ k, ∀ bytes ∈ net.inbox k, ∃ message, message.Carried bytes ∧ Spoken link.dlci message
  stream : ∀ k, Run (CreditStream.Step defaultMaxCredits)
    (Pair.direction link.dlci link.negotiated link.dlc k) (actions k)
    (Pair.direction link.dlci net dlc k)
  written : ∀ k, CreditStream.written (actions k) = Pair.writtenBy k signals
  delivered : ∀ k, CreditStream.delivered (actions k) = Pair.deliveredTo k.peer signals
  blocked : (dlc i.peer).txBuffer ≠ [] → (dlc i.peer).txCredits = 0
  primed : (dlc i.peer).rxCredits ≤ defaultCreditThreshold →
    (dlc i).rxCredits ≤ defaultCreditThreshold ∨ uihFrames link.dlci (net.inbox i.peer) ≠ []

open Pair

theorem Ready.transmit {link : Link} {signals : List Signal} {net : Pair} {i : Side}
    {dlc : Side → Dlc} {actions : Side → List (CreditStream.Action UInt8)}
    (ready : Ready link signals net i dlc actions) {after : Multiplexer} {last : Dlc}
    {out : List Bytes} (endpoint : Endpoint link.dlci after last)
    (sends : Endpoint.Sends link.dlci (dlc i) last out) :
    ∃ dlc actions, Streaming link signals (net.emit i after out) dlc actions := by
  let next : Side → CreditStream.Action UInt8 := fun k =>
    if k = i then .send (chunks (uihFrames link.dlci out)) else .grant (credits (uihFrames link.dlci out))
  refine ⟨Function.update dlc i last, fun k => actions k ++ [next k], ?_⟩
  constructor
  case endpoint =>
    rw [Side.forall_iff i]
    exact ⟨by simpa using endpoint, by simpa using ready.endpoint⟩
  case spoken =>
    rw [Side.forall_iff i]
    refine ⟨by simpa using ready.spoken i, fun bytes member => ?_⟩
    rw [Duplex.emit_inbox_peer] at member
    exact (mem_append.mp member).elim (ready.spoken i.peer bytes) (sends.spoken bytes)
  case stream =>
    rw [Side.forall_iff i]
    constructor
    · have sent : CreditStream.Step defaultMaxCredits (direction link.dlci net dlc i)
          (.send (chunks (uihFrames link.dlci out))) _ := .send sends.sent.symm sends.spent.symm
      rw [show next i = _ from if_pos rfl]
      convert (ready.stream i).snoc sent using 1
      simp [direction]
    · have within : (direction link.dlci net dlc i.peer).window +
          credits (uihFrames link.dlci out) ≤ defaultMaxCredits := by
        simpa [direction, sends.granted] using sends.bounded
      rw [show next i.peer = _ from if_neg (Side.peer_ne i)]
      convert (ready.stream i.peer).snoc (.grant within) using 1
      simp [direction, sends.granted]
  case written =>
    intro k
    rw [← ready.written k]
    by_cases same : k = i <;> simp [next, same, CreditStream.Action.written]
  case delivered =>
    intro k
    rw [← ready.delivered k]
    by_cases same : k = i <;> simp [next, same, CreditStream.Action.delivered]
  case blocked =>
    rw [Side.forall_iff i]
    exact ⟨by simpa using sends.blocked, by simpa using ready.blocked⟩
  case primed =>
    rw [Side.forall_iff i]
    constructor
    · intro low
      right
      rw [Function.update_of_ne (Side.peer_ne i)] at low
      simp only [Duplex.emit_inbox_peer, uihFrames_append, ne_eq, append_eq_nil_iff, not_and_or]
      exact (ready.primed low).elim (fun mine => .inr (sends.refills mine)) .inl
    · intro low
      have above := sends.above
      rw [Side.peer_peer, Function.update_self] at low
      omega

namespace Streaming
variable {link : Link} {signals : List Signal} {net next : Pair} {i : Side} {dlc : Side → Dlc}
  {actions : Side → List (CreditStream.Action UInt8)}

theorem negotiated_inbox (link : Link) (i : Side) : Signalling link.dlci (link.negotiated.inbox i) := by
  revert i
  rw [Side.forall_iff link.opener]
  constructor
  · simp [Link.negotiated, Link.answered, Link.opening, Link.started, Pair.started, Signalling]
  · have sabm := signals_frame (.sabm link.dlci) link.validDlci .sabm rfl
      (Multiplexer.roleCR_isBit (link.started.node link.opener))
    have inFlight : link.negotiated.inbox link.opener.peer =
        [link.bytes link.opener (.sabm link.dlci)] := by
      simp [Link.negotiated, Link.answered, Link.opening, Link.started, Pair.started]
    rw [inFlight]
    intro bytes member
    obtain rfl := mem_singleton.mp member
    exact sabm

theorem txCredits_negotiated (link : Link) (i : Side) :
    (link.dlc i).txCredits = (link.dlc i.peer).rxCredits ∧
      (link.dlc i).rxCredits ≤ maxInitialCredits.toNat := by
  have few := UInt8.le_iff_toNat_le.mp link.few_request
  have fewer := UInt8.le_iff_toNat_le.mp link.few_response
  rcases Side.eq_or_eq_peer link.opener i with rfl | rfl
  · simpa [Link.dlc, Dlc.new] using few
  · simpa [Link.dlc, Dlc.new] using fewer

theorem balanced_negotiated (link : Link) (i : Side) :
    CreditStream.Balanced defaultMaxCredits
      (direction link.dlci link.negotiated link.dlc i) := by
  have few := (txCredits_negotiated link i.peer).2
  constructor
  · simp [direction, (negotiated_inbox link _).uihFrames link.validDlci,
      (txCredits_negotiated link i).1]
  · exact few.trans (by decide)

section Streaming
variable (streaming : Streaming link signals net dlc actions)
include streaming

theorem balanced (i : Side) :
    CreditStream.Balanced defaultMaxCredits (direction link.dlci net dlc i) :=
  (balanced_negotiated link i).run (streaming.stream i)

theorem bounded (i : Side) :
    (dlc i).rxCredits ≤ defaultMaxCredits := by
  simpa [direction] using (streaming.balanced i.peer).bounded

theorem queued (i : Side) (asked : UInt8) (data : Bytes) :
    Ready link (signals ++ [.called i (.write asked data)]) net i
      (Function.update dlc i ((dlc i).queue data))
      (Function.update actions i (actions i ++ [.write data])) where
  endpoint := by simpa using streaming.endpoint i.peer
  spoken := streaming.spoken
  stream := by
    rw [Side.forall_iff i]
    constructor
    · rw [Function.update_self]
      convert (streaming.stream i).snoc (.write _ data) using 1
      simp [Pair.direction, Dlc.queue]
    · rw [Function.update_of_ne (Side.peer_ne i)]
      convert streaming.stream i.peer using 1
      simp [Pair.direction, Dlc.queue]
  written := by
    rw [Side.forall_iff i]
    constructor
    · simp [streaming.written i, CreditStream.Action.written, Signal.writtenBy]
    · simp [streaming.written i.peer, Signal.writtenBy]
  delivered := by
    rw [Side.forall_iff i]
    constructor
    · simp [streaming.delivered i, CreditStream.Action.delivered, Signal.deliveredTo, Signal.events]
    · simp [streaming.delivered i.peer, Signal.deliveredTo, Signal.events]
  blocked := by simpa using streaming.blocked i.peer
  primed low := by
    rw [Function.update_of_ne (Side.peer_ne i)] at low
    rw [Function.update_self]
    exact (streaming.primed i low).imp And.left id

theorem taken {bytes : Bytes} {rest : List Bytes} {information : Bytes} {pF : UInt8}
    (arrived : net.inbox i = bytes :: rest)
    (carried : (Message.data link.dlci information pF).Carried bytes) :
    Ready link
      (signals ++ [.received i (if (uih 0 link.dlci information pF).payload = [] then []
        else [.dataReceived link.dlci (uih 0 link.dlci information pF).payload])])
      (net.consume i rest) i
      (Function.update dlc i (Endpoint.taken (dlc i) (uih 0 link.dlci information pF)))
      fun k => actions k ++ if k = i then [.credit (uih 0 link.dlci information pF).creditOctet]
        else if (uih 0 link.dlci information pF).payload = [] then []
          else [.deliver (uih 0 link.dlci information pF).payload] where
  endpoint := by simpa using streaming.endpoint i.peer
  spoken := by
    rw [Side.forall_iff i]
    refine ⟨fun other member => streaming.spoken i other ?_, by simpa using streaming.spoken i.peer⟩
    rw [Duplex.consume_inbox_self] at member
    exact arrived ▸ mem_cons_of_mem _ member
  stream := by
    obtain ⟨cR, seen⟩ := uihFrames_data carried
    have shown : uihFrames link.dlci (net.inbox i) =
        { uih cR link.dlci information pF with withCredits := false } :: uihFrames link.dlci rest := by
      rw [arrived, uihFrames_cons, seen]
      rfl
    rw [Side.forall_iff i]
    constructor
    · have arrives : (direction link.dlci net dlc i).returning =
          (uih 0 link.dlci information pF).creditOctet + credits (uihFrames link.dlci rest) := by
        simp only [direction, shown, credits_cons]
        rfl
      rw [if_pos rfl]
      convert (streaming.stream i).snoc (.credit arrives) using 1
      simp [direction, Endpoint.taken]
    · rw [if_neg (Side.peer_ne i)]
      have flight : (direction link.dlci net dlc i.peer).flight =
          if (uih 0 link.dlci information pF).payload = [] then chunks (uihFrames link.dlci rest)
          else (uih 0 link.dlci information pF).payload :: chunks (uihFrames link.dlci rest) := by
        simp only [direction, Side.peer_peer, shown, chunks_cons]
        rfl
      split
      · rename_i empty
        rw [if_pos empty] at flight
        rw [append_nil]
        convert streaming.stream i.peer using 1
        simp [direction, Endpoint.taken, empty, ← flight]
      · rename_i filled
        rw [if_neg filled] at flight
        convert (streaming.stream i.peer).snoc (.deliver flight) using 1
        simp [direction, Endpoint.taken, filled]
  written := by
    rw [Side.forall_iff i]
    constructor
    · simp [streaming.written i, CreditStream.Action.written, Signal.writtenBy]
    · simp only [if_neg (Side.peer_ne i)]
      split <;> simp [streaming.written i.peer, CreditStream.Action.written, Signal.writtenBy]
  delivered := by
    rw [Side.forall_iff i]
    constructor
    · simp [streaming.delivered i, CreditStream.Action.delivered, Signal.deliveredTo, Signal.events]
    · simp only [if_neg (Side.peer_ne i)]
      split <;> simp_all [streaming.delivered i.peer, CreditStream.Action.delivered,
        Signal.deliveredTo, Signal.events, MultiplexerEvent.payload]
  blocked := by simpa using streaming.blocked i.peer
  primed low := by
    rw [Function.update_of_ne (Side.peer_ne i)] at low
    rw [Function.update_self, Duplex.consume_inbox_peer]
    refine (streaming.primed i low).imp (fun mine => ?_) id
    have fewer : (Endpoint.taken (dlc i) (uih 0 link.dlci information pF)).rxCredits ≤
        (dlc i).rxCredits := by
      dsimp only [Endpoint.taken]
      split <;> omega
    exact fewer.trans mine.1

section Arrived
variable {bytes : Bytes} {rest : List Bytes} (arrived : net.inbox i = bytes :: rest)
include arrived

/-- What arrives never brings more credits than the counter holds, nor data that
was not granted. -/
theorem arriving :
    (dlc i).txCredits + credits (uihFrames link.dlci [bytes]) ≤ defaultMaxCredits ∧
      (chunks (uihFrames link.dlci [bytes])).length ≤ (dlc i).rxCredits := by
  have outward := (streaming.balanced i).conserved
  have within := (streaming.balanced i).bounded
  have inward := (streaming.balanced i.peer).conserved
  have shown : uihFrames link.dlci (net.inbox i) =
      uihFrames link.dlci [bytes] ++ uihFrames link.dlci rest := by
    rw [arrived, uihFrames_cons]
  simp only [direction, Side.peer_peer, shown, credits_append, chunks_append,
    length_append] at outward within inward
  omega

/-- A frame that carries no data moves neither stream. -/
theorem signalled (silent : uihFrames link.dlci [bytes] = []) {out : List Bytes}
    {events : List MultiplexerEvent} {after : Multiplexer} {state : DlcState}
    (endpoint : Endpoint link.dlci after { dlc i with state })
    (signalling : Signalling link.dlci out)
    (quiet : ∀ other data, .dataReceived other data ∉ events) :
    Streaming link (signals ++ [.received i events]) ((net.consume i rest).emit i after out)
      (Function.update dlc i { dlc i with state }) actions := by
  have shown : uihFrames link.dlci (net.inbox i) = uihFrames link.dlci rest := by
    rw [arrived, uihFrames_cons, silent, nil_append]
  have nothing := signalling.uihFrames link.validDlci
  have unread : (Signal.received i events).deliveredTo i = [] := by
    simp only [Signal.deliveredTo, Signal.events, if_true, flatMap_eq_nil_iff]
    intro event member
    cases event with
    | dataReceived other data => exact absurd member (quiet other data)
    | _ => rfl
  have unreadPeer : (Signal.received i events).deliveredTo i.peer = [] := by
    simp [Signal.deliveredTo, Signal.events]
  constructor
  case endpoint =>
    rw [Side.forall_iff i]
    exact ⟨by simpa using endpoint, by simpa using streaming.endpoint i.peer⟩
  case spoken =>
    rw [Side.forall_iff i]
    constructor
    · intro other member
      rw [Duplex.emit_inbox_self, Duplex.consume_inbox_self] at member
      exact streaming.spoken i other (arrived ▸ mem_cons_of_mem _ member)
    · intro other member
      rw [Duplex.emit_inbox_peer, Duplex.consume_inbox_peer] at member
      rcases mem_append.mp member with member | member
      · exact streaming.spoken i.peer other member
      · obtain ⟨message, carried, spoken, _⟩ := signalling other member
        exact ⟨message, carried, spoken⟩
  case stream =>
    rw [Side.forall_iff i]
    constructor
    · convert streaming.stream i using 1
      simp [direction, nothing, shown]
    · convert streaming.stream i.peer using 1
      simp [direction, nothing, shown]
  case written =>
    intro k
    rw [streaming.written k]
    simp [Signal.writtenBy]
  case delivered =>
    rw [Side.forall_iff i]
    constructor
    · rw [streaming.delivered i, deliveredTo_snoc, unreadPeer, append_nil]
    · rw [streaming.delivered i.peer, Side.peer_peer, deliveredTo_snoc, unread, append_nil]
  case blocked =>
    rw [Side.forall_iff i]
    exact ⟨by simpa using streaming.blocked i, by simpa using streaming.blocked i.peer⟩
  case primed =>
    rw [Side.forall_iff i]
    constructor
    · simpa [nothing] using streaming.primed i
    · simpa [shown] using streaming.primed i.peer

/-- Whatever is in flight is received without an error. -/
theorem receive :
    ∃ out events after, (net.node i).receive bytes = .ok ((out, events), after) ∧
      ∃ dlc actions, Streaming link (signals ++ [.received i events])
        ((net.consume i rest).emit i after out) dlc actions := by
  obtain ⟨message, carried, spoken⟩ := streaming.spoken i bytes (arrived ▸ mem_cons_self)
  rw [Multiplexer.receive_carried _ carried]
  by_cases data : message.isData
  · cases spoken with
    | sabm | ua | msc => simp [Message.isData] at data
    | data information pF =>
      have room := (streaming.arriving arrived).1.trans (by decide : defaultMaxCredits ≤ 255)
      rw [credits_uihFrames_data carried] at room
      obtain ⟨out, after, last, ran, endpoint, sends⟩ :=
        (streaming.endpoint i).receive_data link.validDlci (streaming.bounded i) room
      refine ⟨out, _, after, ran, (streaming.taken arrived carried).transmit endpoint ?_⟩
      rw [Function.update_self]
      exact sends
  · have other : message.isData = false := by simpa using data
    obtain ⟨out, events, after, state, ran, endpoint, signalling, quiet⟩ :=
      (streaming.endpoint i).receive_signalling link.validDlci spoken other
    exact ⟨out, events, after, ran, _, _, streaming.signalled arrived
      (uihFrames_signalling link.validDlci carried other) endpoint signalling quiet⟩

end Arrived

theorem write (i : Side) (asked : UInt8) (data : Bytes) :
    (∃ error, (net.node i).write asked data = .error (.err error)) ∨
      ∃ out after, (net.node i).write asked data = .ok (out, after) ∧
        ∃ dlc actions, Streaming link (signals ++ [.called i (.write asked data)])
          (net.emit i after out) dlc actions := by
  apply ((streaming.endpoint i).write link.validDlci (streaming.bounded i) asked data).imp_right
  rintro ⟨out, after, last, ran, endpoint, sends⟩
  refine ⟨out, after, ran, (streaming.queued i asked data).transmit endpoint ?_⟩
  rw [Function.update_self]
  exact sends

/-- A refusal changes nothing. -/
theorem refused (i : Side) (call : Call) :
    Streaming link (signals ++ [.refused i call]) net dlc actions :=
  { streaming with
    written := fun k => by simp [streaming.written k, Signal.writtenBy]
    delivered := fun k => by simp [streaming.delivered k, Signal.deliveredTo, Signal.events] }

end Streaming

theorem negotiated (link : Link) (written : ∀ i, writtenBy i signals = [])
    (delivered : ∀ i, deliveredTo i signals = []) :
    Streaming link signals link.negotiated link.dlc fun _ => [] where
  endpoint := by
    have fits (i : Side) : (link.dlc i).Gated link.dlci := by
      obtain ⟨mine, theirs, mtu⟩ := link.room
      have isBit := Multiplexer.roleCR_isBit (link.started.node i)
      have room : 2 ≤ (link.peerMtu i).toNat - Dlc.maxOverhead :=
        Nat.le_sub_of_add_le (mtu i)
      rcases Side.eq_or_eq_peer link.opener i with rfl | rfl
      · exact ⟨by simp [Link.dlc, Dlc.new], by simpa [Link.dlc, Dlc.new] using isBit, .inl rfl,
          by simp [Link.dlc, Dlc.new], by simpa [Link.dlc, Dlc.new] using ⟨theirs, room⟩, rfl, rfl⟩
      · exact ⟨by simp [Link.dlc, Dlc.new], by simpa [Link.dlc, Dlc.new] using isBit, .inl rfl,
          by simp [Link.dlc, Dlc.new], by simpa [Link.dlc, Dlc.new] using ⟨mine, room⟩, rfl, rfl⟩
    have joined (i : Side) : Endpoint link.dlci (link.joined i) (link.dlc i) :=
      ⟨AList.lookup_insert _, fun other different => AList.lookup_insert_ne different, fits i⟩
    rw [Side.forall_iff link.opener]
    exact ⟨by simpa [Link.negotiated] using joined link.opener,
      by simpa [Link.negotiated, Link.answered] using joined link.opener.peer⟩
  spoken i bytes member := by
    obtain ⟨message, carried, spoken, _⟩ := negotiated_inbox link i bytes member
    exact ⟨message, carried, spoken⟩
  stream i := .nil
  written i := (written i).symm
  delivered i := (delivered i.peer).symm
  blocked i waiting := absurd rfl waiting
  primed i _ := .inl ⟨(txCredits_negotiated link i).2.trans (by decide), rfl⟩

end Streaming

end Simble.Rfcomm
