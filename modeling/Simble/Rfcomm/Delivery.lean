import Simble.Rfcomm.Stream

/-! Whole runs of a connection: what was written arrives, credits are accounted
for, and no call fails to return. -/
namespace Simble.Rfcomm
open Simble.Lib RfcommFrame Signal

namespace Pair

/-- Every write returns, and every frame that is next in a queue is taken. -/
structure Responds (net : Pair) : Prop where
  write : ∀ i asked data, (∃ error, (net.node i).write asked data = .error (.err error)) ∨
    ∃ answer, (net.node i).write asked data = .ok answer
  receive : ∀ i bytes rest, net.inbox i = bytes :: rest →
    ∃ answer, (net.node i).receive bytes = .ok answer

end Pair

/-- How far the connection has come: its negotiation is under way and nothing
has been written, or both ends exist. -/
inductive Progress (link : Link) (signals : List Signal) (net : Pair) : Prop where
  | opening (state : net = link.opening) (written : ∀ i, Pair.writtenBy i signals = [])
      (delivered : ∀ i, Pair.deliveredTo i signals = [])
  | answered (state : net = link.answered) (written : ∀ i, Pair.writtenBy i signals = [])
      (delivered : ∀ i, Pair.deliveredTo i signals = [])
  | streaming (dlc : Side → Dlc) (actions : Side → List (CreditStream.Action UInt8))
      (streaming : Streaming link signals net dlc actions)

namespace Progress
variable {link : Link} {signals : List Signal} {net next : Pair}

section Progress
variable (progress : Progress link signals net)
include progress

theorem responds : Pair.Responds net := by
  cases progress with
  | opening state =>
    subst state
    refine ⟨fun i asked data => .inl (link.opening_write i asked data), fun i bytes rest arrived => ?_⟩
    rcases Side.eq_or_eq_peer link.opener i with rfl | rfl
    · simp at arrived
    · rw [link.opening_inbox.2] at arrived
      cases arrived
      exact ⟨_, by simpa [Link.opening] using link.receive_request⟩
  | answered state =>
    subst state
    refine ⟨fun i asked data => .inl (link.answered_write i asked data), fun i bytes rest arrived => ?_⟩
    rcases Side.eq_or_eq_peer link.opener i with rfl | rfl
    · rw [link.answered_inbox.1] at arrived
      cases arrived
      exact ⟨_, by simpa [Link.answered, Link.opening] using link.receive_response⟩
    · simp at arrived
  | streaming dlc actions streaming =>
    refine ⟨fun i asked data => (streaming.write i asked data).imp_right ?_,
      fun i bytes rest arrived => ?_⟩
    · rintro ⟨out, after, ran, _⟩
      exact ⟨_, ran⟩
    · obtain ⟨out, events, after, ran, _⟩ := streaming.receive arrived
      exact ⟨_, ran⟩

theorem refused (i : Side) (call : Call) :
    Progress link (signals ++ [.refused i call]) net := by
  cases progress with
  | opening state written delivered =>
    exact .opening state (fun k => by simp [written k, writtenBy])
      fun k => by simp [delivered k, deliveredTo, events]
  | answered state written delivered =>
    exact .answered state (fun k => by simp [written k, writtenBy])
      fun k => by simp [delivered k, deliveredTo, events]
  | streaming dlc actions streaming => exact .streaming dlc actions (streaming.refused i call)

theorem write {i : Side} {asked : UInt8} {data : Bytes} {out : List Bytes} {after : Multiplexer}
    (ran : (net.node i).write asked data = .ok (out, after)) :
    Progress link (signals ++ [.called i (.write asked data)]) (net.emit i after out) := by
  cases progress with
  | opening state =>
    subst state
    obtain ⟨error, failed⟩ := link.opening_write i asked data
    rw [failed] at ran
    contradiction
  | answered state =>
    subst state
    obtain ⟨error, failed⟩ := link.answered_write i asked data
    rw [failed] at ran
    contradiction
  | streaming dlc actions streaming =>
    rcases streaming.write i asked data with ⟨error, failed⟩ | ⟨out, after, done, dlc, actions, streams⟩
    · rw [failed] at ran
      contradiction
    · rw [done] at ran
      cases ran
      exact .streaming dlc actions streams

theorem receive {i : Side} {bytes : Bytes} {rest out : List Bytes} {events : List MultiplexerEvent}
    {after : Multiplexer} (arrived : net.inbox i = bytes :: rest)
    (ran : (net.node i).receive bytes = .ok ((out, events), after)) :
    Progress link (signals ++ [.received i events]) ((net.consume i rest).emit i after out) := by
  cases progress with
  | opening state written delivered =>
    subst state
    rcases Side.eq_or_eq_peer link.opener i with rfl | rfl
    · simp at arrived
    · rw [link.opening_inbox.2] at arrived
      cases arrived
      have done := link.receive_request
      rw [show link.started.node link.opener.peer = link.opening.node link.opener.peer by
        simp [Link.opening], ran] at done
      cases done
      exact .answered rfl (fun k => by simp [written k, writtenBy])
        fun k => by simp [delivered k, deliveredTo, Signal.events]
  | answered state written delivered =>
    subst state
    rcases Side.eq_or_eq_peer link.opener i with rfl | rfl
    · rw [link.answered_inbox.1] at arrived
      cases arrived
      have done := link.receive_response
      rw [show link.waiting = link.answered.node link.opener by
        simp [Link.answered, Link.opening], ran] at done
      cases done
      exact .streaming link.dlc _ (.negotiated link (fun k => by simp [written k, writtenBy])
        fun k => by simp [delivered k, deliveredTo, Signal.events])
    · simp at arrived
  | streaming dlc actions streaming =>
    obtain ⟨out, events, after, done, dlc, actions, streams⟩ := streaming.receive arrived
    rw [done] at ran
    cases ran
    exact .streaming dlc actions streams

end Progress

theorem step {signal : Signal} (progress : Progress link signals net)
    (stepped : Guarded Pair.Traffic Pair.Step net signal next) :
    Progress link (signals ++ [signal]) next := by
  obtain ⟨traffic, stepped⟩ := stepped
  cases stepped with
  | @call i call frames events mux ran =>
    cases call with
    | write asked data =>
      obtain ⟨⟨out, after⟩, wrote, finished⟩ := Rust.bind_eq_ok.mp ran
      cases finished
      exact progress.write wrote
    | _ => exact nomatch traffic
  | refuse => exact progress.refused _ _
  | receive arrived ran => exact progress.receive arrived ran
  | drop arrived failed =>
    obtain ⟨answer, ran⟩ := progress.responds.receive _ _ _ arrived
    rw [ran] at failed
    contradiction

theorem run (run : Run (Guarded Pair.Traffic Pair.Step) link.opening signals net) :
    Progress link signals net :=
  run.invariant (P := Progress link) (.opening rfl (fun _ => rfl) fun _ => rfl) step

end Progress
namespace Streaming
variable {link : Link} {signals : List Signal} {net : Pair} {dlc : Side → Dlc}
  {actions : Side → List (CreditStream.Action UInt8)}

/-- With nothing in flight every credit the receiver counts on is the sender's,
so the sender has nothing left to send. -/
theorem drained (streaming : Streaming link signals net dlc actions) (quiescent : net.Quiescent)
    (i : Side) : (dlc i).txBuffer = [] := by
  by_contra waiting
  have broke := streaming.blocked i waiting
  have conserved := (streaming.balanced i).conserved
  simp only [Pair.direction, quiescent i, quiescent i.peer, uihFrames_nil, credits_nil, chunks_nil,
    List.length_nil, broke] at conserved
  rcases streaming.primed i (by omega) with idle | inFlight
  · exact waiting idle.2
  · simp [quiescent i.peer] at inFlight

theorem content (streaming : Streaming link signals net dlc actions) (i : Side) :
    Pair.deliveredTo i.peer signals ++ (Pair.direction link.dlci net dlc i).flight.flatten ++
      (dlc i).txBuffer = Pair.writtenBy i signals := by
  have empty : (Pair.direction link.dlci link.negotiated link.dlc i).flight = [] ∧
      (Pair.direction link.dlci link.negotiated link.dlc i).buffer = [] := by
    refine ⟨?_, rfl⟩
    simp [Pair.direction, (negotiated_inbox link _).uihFrames link.validDlci]
  rw [← streaming.delivered i, ← streaming.written i]
  exact CreditStream.content empty (streaming.stream i)

end Streaming

/-- The bytes one side reports are a prefix of those the other wrote, all of
them once nothing is in flight, and no call on the way fails to return. -/
theorem stream_delivery (link : Link) {signals : List Signal} {net : Pair}
    (ran : Run (Guarded Pair.Traffic Pair.Step) link.opening signals net) :
    (∀ i, Pair.deliveredTo i signals <+: Pair.writtenBy i.peer signals) ∧
      (net.Quiescent → ∀ i, Pair.deliveredTo i signals = Pair.writtenBy i.peer signals ∧
        ∀ dlc, (net.node i).dlcs.lookup link.dlci = some dlc → dlc.txBuffer = []) ∧
      net.Responds := by
  have progress := Progress.run ran
  refine ⟨fun i => ?_, fun quiescent i => ?_, progress.responds⟩
  · cases progress with
    | opening _ _ delivered | answered _ _ delivered => simp [delivered i]
    | streaming dlc actions streaming =>
      have content := streaming.content i.peer
      rw [Side.peer_peer, List.append_assoc] at content
      exact ⟨_, content⟩
  · cases progress with
    | opening state =>
      have inFlight := quiescent link.opener.peer
      simp [state] at inFlight
    | answered state =>
      have inFlight := quiescent link.opener
      simp [state] at inFlight
    | streaming dlc actions streaming =>
      constructor
      · have content := streaming.content i.peer
        simpa [Pair.direction, quiescent i, streaming.drained quiescent i.peer] using content
      · intro other found
        obtain rfl := Option.some.inj ((streaming.endpoint i).found.symm.trans found)
        exact streaming.drained quiescent i

/-- The left side opens channel 1, which the right one listens on. -/
def exampleLink : Link where
  initiator := .left
  peerMtu _ := 100
  listens i := if i = .right then [(1, 100, 7)] else []
  opener := .left
  channel := 1
  maxFrameSize := 50
  initialCredits := 5
  rxMaxFrameSize := 100
  rxInitialCredits := 7
  range := by decide
  listened := by decide
  room := ⟨by decide, by decide, fun _ => by decide⟩

/-- Opening the connection, one write and all deliveries. -/
def exampleMoves : List Pair.Move :=
  [.deliver .right, .deliver .left, .deliver .right, .deliver .left, .call .left (.write 2 [1, 2, 3]),
    .deliver .left, .deliver .right, .deliver .left, .deliver .right, .deliver .right, .deliver .left]

theorem stream_delivery_example : ∃ signals net,
    Run (Guarded Pair.Traffic Pair.Step) exampleLink.opening signals net ∧
      Pair.writtenBy .left signals = [1, 2, 3] ∧ Pair.deliveredTo .right signals = [1, 2, 3] := by
  obtain ⟨⟨signals, net⟩, played, outcome⟩ := Option.map_eq_some_iff.mp
    (show (Pair.play Pair.isTraffic exampleLink.opening exampleMoves).map
        (fun last => (Pair.writtenBy .left last.1, last.2.inbox .left, last.2.inbox .right)) =
      some ([1, 2, 3], [], []) by decide +kernel)
  obtain ⟨written, left, right⟩ : _ ∧ _ ∧ _ := by simpa using outcome
  have ran := Pair.play_run .nil played
  have quiescent : net.Quiescent := by
    rintro (_ | _)
    · exact left
    · exact right
  exact ⟨signals, net, ran, written,
    ((stream_delivery exampleLink ran).2.1 quiescent .right).1.trans written⟩

/-- The credits of one direction, from side `i` to its peer: where they are, and
that no counter at side `i` is about to leave its range. -/
structure Pair.Accounted (dlci : UInt8) (net : Pair) (i : Side) (sender receiver : Dlc) : Prop where
  conserved : sender.txCredits + credits (uihFrames dlci (net.inbox i)) +
    (chunks (uihFrames dlci (net.inbox i.peer))).length = receiver.rxCredits
  bounded : receiver.rxCredits ≤ receiver.rxMaxCredits ∧ receiver.rxMaxCredits = 32
  received : ∀ bytes rest, net.inbox i = bytes :: rest →
    sender.txCredits + credits (uihFrames dlci [bytes]) ≤ 255 ∧
      (chunks (uihFrames dlci [bytes])).length ≤ sender.rxCredits
  written : ∀ asked data out after, (net.node i).write asked data = .ok (out, after) →
    (chunks (uihFrames dlci out)).length ≤ sender.txCredits
  answered : ∀ bytes rest out events after, net.inbox i = bytes :: rest →
    (net.node i).receive bytes = .ok ((out, events), after) →
      (chunks (uihFrames dlci out)).length ≤
        sender.txCredits + credits (uihFrames dlci [bytes])

theorem Streaming.accounted {link : Link} {signals : List Signal} {net : Pair} {dlc : Side → Dlc}
    {actions : Side → List (CreditStream.Action UInt8)}
    (streaming : Streaming link signals net dlc actions) (i : Side) :
    Pair.Accounted link.dlci net i (dlc i) (dlc i.peer) where
  conserved := (streaming.balanced i).conserved
  bounded := by
    have limit := (streaming.endpoint i.peer).gated.limit
    exact ⟨limit ▸ streaming.bounded i.peer, limit⟩
  received bytes rest arrived := by
    obtain ⟨room, granted⟩ := streaming.arriving arrived
    exact ⟨room.trans (by decide), granted⟩
  written asked data out after ran := by
    rcases (streaming.endpoint i).write link.validDlci (streaming.bounded i) asked data with
      ⟨error, failed⟩ | ⟨sent, final, last, done, _, sends⟩
    · rw [failed] at ran
      contradiction
    · rw [done] at ran
      cases ran
      exact Nat.le.intro sends.spent
  answered bytes rest out events after arrived ran := by
    obtain ⟨message, carried, spoken⟩ := streaming.spoken i bytes (arrived ▸ List.mem_cons_self)
    rw [Multiplexer.receive_carried _ carried] at ran
    by_cases data : message.isData
    · cases spoken with
      | sabm | ua | msc => simp [Message.isData] at data
      | data information pF =>
        have octet := credits_uihFrames_data carried
        have room := (streaming.arriving arrived).1.trans (by decide : defaultMaxCredits ≤ 255)
        rw [octet] at room
        obtain ⟨sent, final, last, done, _, sends⟩ :=
          (streaming.endpoint i).receive_data link.validDlci (streaming.bounded i) room
        rw [done] at ran
        cases ran
        rw [octet]
        exact Nat.le.intro sends.spent
    · have other : message.isData = false := by simpa using data
      obtain ⟨sent, reported, final, state, done, _, signalling, _⟩ :=
        (streaming.endpoint i).receive_signalling link.validDlci spoken other
      rw [done] at ran
      cases ran
      simp [signalling.uihFrames link.validDlci]

/-- Whenever both ends of the connection exist, the credits of each direction
are accounted for; and no call on the way fails to return. -/
theorem credit_conservation (link : Link) {signals : List Signal} {net : Pair}
    (ran : Run (Guarded Pair.Traffic Pair.Step) link.opening signals net) :
    (∀ i sender receiver, (net.node i).dlcs.lookup link.dlci = some sender →
        (net.node i.peer).dlcs.lookup link.dlci = some receiver →
          Pair.Accounted link.dlci net i sender receiver) ∧
      net.Responds := by
  have progress := Progress.run ran
  refine ⟨fun i sender receiver found foundPeer => ?_, progress.responds⟩
  cases progress with
  | opening state => simp [state, link.opening_dlcs i] at found
  | answered state =>
    rcases Side.eq_or_eq_peer link.opener i with rfl | rfl
    · simp [state, link.answered_dlcs] at found
    · simp [state, link.answered_dlcs] at foundPeer
  | streaming dlc actions streaming =>
    obtain rfl := Option.some.inj ((streaming.endpoint i).found.symm.trans found)
    obtain rfl := Option.some.inj ((streaming.endpoint i.peer).found.symm.trans foundPeer)
    exact streaming.accounted i

theorem credit_conservation_example : ∃ signals net sender receiver,
    Run (Guarded Pair.Traffic Pair.Step) exampleLink.opening signals net ∧
      Pair.Accounted 2 net .right sender receiver ∧ sender.txCredits = 32 := by
  obtain ⟨⟨signals, net⟩, played, outcome⟩ := Option.map_eq_some_iff.mp
    (show (Pair.play Pair.isTraffic exampleLink.opening exampleMoves).map
        (fun last => (((last.2.node .right).dlcs.lookup 2).map Dlc.txCredits,
          ((last.2.node .left).dlcs.lookup 2).map Dlc.rxCredits)) =
      some (some 32, some 32) by decide +kernel)
  obtain ⟨⟨sender, found, credits⟩, receiver, foundPeer, _⟩ :
      (∃ dlc, (net.node .right).dlcs.lookup 2 = some dlc ∧ dlc.txCredits = 32) ∧
        ∃ dlc, (net.node .left).dlcs.lookup 2 = some dlc ∧ dlc.rxCredits = 32 := by
    simpa using outcome
  have ran := Pair.play_run .nil played
  exact ⟨signals, net, sender, receiver, ran,
    (credit_conservation exampleLink ran).1 .right sender receiver found foundPeer, credits⟩

end Simble.Rfcomm
