import Simble.Rfcomm.Multiplexer
import Simble.Lib.Run
import Simble.Lib.Duplex

/-! Two multiplexers joined by two FIFO channels. Frames are read as messages: what a receiver
makes of one does not depend on its command/response bit, so a message stands for the frames that
differ there only. The pair starts where the session handshake leaves it. -/
namespace Simble.Rfcomm
open Simble.Lib RfcommFrame

inductive Message where
  | pn (command : Bool) (params : MccPn)
  | msc (command : Bool) (dlci : UInt8)
  | sabm (dlci : UInt8)
  | ua (dlci : UInt8)
  | dm (dlci : UInt8)
  | data (dlci : UInt8) (information : Bytes) (pF : UInt8)
deriving DecidableEq, Repr

def IsBit (value : UInt8) : Prop := value = 0 ∨ value = 1

theorem IsBit.flip {value : UInt8} (isBit : IsBit value) : IsBit (1 - value) := by
  rcases isBit with rfl | rfl
  · exact .inr rfl
  · exact .inl rfl

/-- A DLCI that fits the address octet and is not the control channel. -/
structure ValidDlci (dlci : UInt8) : Prop where
  data : dlci ≠ 0
  six : dlci < 64

theorem validDlci_channel {channel : UInt8} (range : 1 ≤ channel ∧ channel ≤ 30) :
    ValidDlci (channel <<< 1) ∧ (channel <<< 1) &&& 1 = 0 ∧ (channel <<< 1) >>> 1 = channel := by
  have all : ∀ c : UInt8, 1 ≤ c ∧ c ≤ 30 →
      c <<< 1 ≠ 0 ∧ c <<< 1 < 64 ∧ (c <<< 1) &&& 1 = 0 ∧ (c <<< 1) >>> 1 = c := by decide +kernel
  obtain ⟨data, six, even, back⟩ := all channel range
  exact ⟨⟨data, six⟩, even, back⟩

namespace Message

def frame (cR : UInt8) : Message → RfcommFrame
  | .pn command params => .uih cR 0 (makeMcc MccType.pn command params.toBytes) 0
  | .msc command dlci =>
    .uih cR 0 (makeMcc MccType.msc command (MccMsc.defaultResponse dlci).toBytes) 0
  | .sabm dlci => .sabm cR dlci
  | .ua dlci => .ua cR dlci
  | .dm dlci => .dm cR dlci
  | .data dlci information pF => .uih cR dlci information pF

def WellFormed : Message → Prop
  | .pn _ params => params.initialCredits ≤ maxInitialCredits
  | .msc _ dlci | .sabm dlci | .ua dlci | .dm dlci => ValidDlci dlci
  | .data dlci _ pF => ValidDlci dlci ∧ IsBit pF

structure Carried (message : Message) (bytes : Bytes) : Prop where
  wellFormed : message.WellFormed
  sent : ∃ cR, IsBit cR ∧ bytes = (message.frame cR).toBytes

theorem WellFormed.encodable {message : Message} (wellFormed : message.WellFormed) {cR : UInt8}
    (isBit : IsBit cR) : (message.frame cR).Encodable := by
  have uih : FrameType.uih &&& 0xEF = FrameType.uih := by decide
  have control : (0 : UInt8) < 64 := by decide
  cases message with
  | pn | msc => exact ⟨control, isBit, .inl rfl, uih, fun other => absurd rfl other⟩
  | sabm => exact ⟨wellFormed.six, isBit, .inr rfl, (by decide : 0x2F &&& 0xEF = (0x2F : UInt8)), fun _ => rfl⟩
  | ua => exact ⟨wellFormed.six, isBit, .inr rfl, (by decide : 0x63 &&& 0xEF = (0x63 : UInt8)), fun _ => rfl⟩
  | dm => exact ⟨wellFormed.six, isBit, .inr rfl, (by decide : 0x0F &&& 0xEF = (0x0F : UInt8)), fun _ => rfl⟩
  | data => exact ⟨wellFormed.1.six, isBit, wellFormed.2, uih, fun other => absurd rfl other⟩

theorem Carried.parse {message : Message} {bytes : Bytes} (carried : message.Carried bytes) :
    ∃ cR, RfcommFrame.parse bytes = some { message.frame cR with withCredits := false } := by
  obtain ⟨cR, isBit, rfl⟩ := carried.sent
  exact ⟨cR, parse_toBytes (carried.wellFormed.encodable isBit)⟩

end Message

namespace Multiplexer
variable (mux : Multiplexer)

theorem roleCR_isBit : IsBit mux.roleCR := by
  unfold roleCR
  split
  · exact .inr rfl
  · exact .inl rfl

/-- No handler reads the command/response bit of a frame. -/
theorem onFrame_header (frame : RfcommFrame) (cR : UInt8) (withCredits : Bool) :
    mux.onFrame { frame with cR, withCredits } = mux.onFrame frame := rfl

def onMessage (message : Message) : Rust (Reply × Multiplexer) := mux.onFrame (message.frame 0)

theorem receive_carried {message : Message} {bytes : Bytes} (carried : message.Carried bytes) :
    mux.receive bytes = mux.onMessage message := by
  obtain ⟨cR, parsed⟩ := carried.parse
  have same : message.frame 0 = { message.frame cR with cR := 0 } := by cases message <;> rfl
  simp only [receive, parsed, onMessage, same, onFrame_header]

section Message
variable {mux} {dlci : UInt8} {dlc : Dlc}

theorem onMessage_pn {command : Bool} {params : MccPn}
    (few : params.initialCredits ≤ maxInitialCredits) :
    mux.onMessage (.pn command params) =
      .ok (if command then mux.onMccPnCommand params else mux.onMccPnResponse params) := by
  have readable := parseMcc_makeMcc MccType.pn command params.toBytes (by decide)
    (show 8 ≤ 127 by decide)
  show Except.ok (mux.onUihControl _) = _
  simp only [onUihControl, Message.frame, RfcommFrame.uih, readable, if_true, onMccPn,
    MccPn.parse_toBytes params few]

theorem onMessage_msc_lookup (command : Bool) (valid : ValidDlci dlci) :
    mux.onMessage (.msc command dlci) = .ok (match mux.dlcs.lookup dlci with
      | none => (([], []), mux)
      | some dlc =>
        ((if command then [((Message.msc false dlci).frame dlc.cR).toBytes] else [], []), mux)) :=
          by
  have readable := parseMcc_makeMcc MccType.msc command (MccMsc.defaultResponse dlci).toBytes
    (by decide) (show 2 ≤ 127 by decide)
  have value : MccMsc.parse (MccMsc.defaultResponse dlci).toBytes = some (.defaultResponse dlci) :=
    MccMsc.parse_toBytes _ valid.six
  have other : MccType.msc ≠ MccType.pn := by decide
  show Except.ok (mux.onUihControl _) = _
  simp only [onUihControl, Message.frame, uih, readable, if_true, if_neg other, onMccMsc, value]
  show Except.ok (match mux.dlcs.lookup dlci with | none => _ | some dlc => _) = _
  cases mux.dlcs.lookup dlci <;> cases command <;> rfl

theorem onMessage_msc {command : Bool} (valid : ValidDlci dlci)
    (present : mux.dlcs.lookup dlci = some dlc) :
    mux.onMessage (.msc command dlci) =
      .ok ((if command then [((Message.msc false dlci).frame dlc.cR).toBytes] else [], []), mux) := by
  rw [onMessage_msc_lookup command valid, present]

theorem onMessage_msc_absent {command : Bool} (valid : ValidDlci dlci)
    (absent : mux.dlcs.lookup dlci = none) :
    mux.onMessage (.msc command dlci) = .ok (([], []), mux) := by
  rw [onMessage_msc_lookup command valid, absent]

theorem onMessage_dm (valid : ValidDlci dlci) :
    mux.onMessage (.dm dlci) = .ok (mux.onDmFrame (.dm 0 dlci)) := by
  simp [onMessage, Message.frame, onFrame, dm, valid.data]

theorem onMessage_sabm (valid : ValidDlci dlci) (present : mux.dlcs.lookup dlci = some dlc) :
    mux.onMessage (.sabm dlci) =
      .ok (if dlc.state = .connecting then
          mux.opened dlci dlc [((Message.ua dlci).frame (1 - dlc.cR)).toBytes,
            ((Message.msc true dlci).frame dlc.cR).toBytes]
        else (([], []), mux)) := by
  by_cases state : dlc.state = .connecting <;>
    simp [onMessage, Message.frame, onFrame, sabm, valid.data, onDlcFrame, present, state,
      FrameType.sabm, FrameType.dm, mscCommand]

theorem onMessage_ua (valid : ValidDlci dlci) (present : mux.dlcs.lookup dlci = some dlc)
    (state : dlc.state = .connecting ∨ dlc.state = .connected) :
    mux.onMessage (.ua dlci) =
      .ok (if dlc.state = .connecting then
          mux.opened dlci dlc [((Message.msc true dlci).frame dlc.cR).toBytes]
        else (([], []), mux)) := by
  rcases state with state | state <;>
    simp [onMessage, Message.frame, onFrame, ua, valid.data, onDlcFrame, present, state,
      FrameType.sabm, FrameType.dm, FrameType.ua, mscCommand]

theorem onMessage_data {information : Bytes} {pF : UInt8} (valid : ValidDlci dlci)
    (present : mux.dlcs.lookup dlci = some dlc) :
    mux.onMessage (.data dlci information pF) = mux.onDlcUih dlci (.uih 0 dlci information pF) := by
  simp [onMessage, Message.frame, onFrame, uih, valid.data, onDlcFrame, present,
    FrameType.sabm, FrameType.dm, FrameType.ua, FrameType.disc, FrameType.uih]

end Message
end Multiplexer

/-- What happened at one side: a call that returned, an `Err`, or the receipt
of a frame. -/
inductive Signal where
  | called (i : Side) (call : Call)
  | refused (i : Side) (call : Call)
  | received (i : Side) (events : List MultiplexerEvent)
  | dropped (i : Side)

/-- The events side `i` reported. -/
def Signal.events (i : Side) : Signal → List MultiplexerEvent
  | .received j events => if j = i then events else []
  | _ => []

abbrev Pair := Duplex Multiplexer Bytes

namespace Pair

/-- Either side is called, or takes the oldest frame that is in flight to it.
A call that panics or does not end is no step. -/
inductive Step : Pair → Signal → Pair → Prop where
  | call {net : Pair} {i call frames events mux} :
      (net.node i).perform call = .ok ((frames, events), mux) →
      Step net (.called i call) (net.emit i mux frames)
  | refuse {net : Pair} {i call error} : (net.node i).perform call = .error (.err error) →
      Step net (.refused i call) net
  | receive {net : Pair} {i bytes rest frames events mux} : net.inbox i = bytes :: rest →
      (net.node i).receive bytes = .ok ((frames, events), mux) →
      Step net (.received i events) ((net.consume i rest).emit i mux frames)
  | drop {net : Pair} {i bytes rest error} : net.inbox i = bytes :: rest →
      (net.node i).receive bytes = .error (.err error) → Step net (.dropped i) (net.consume i rest)

inductive Move where
  | call (i : Side) (call : Call)
  | deliver (i : Side)

/-- The one step a choice leads to, if there is one. -/
def move (net : Pair) : Move → Option (Signal × Pair)
  | .call i call =>
    match (net.node i).perform call with
    | .ok ((frames, _), mux) => some (.called i call, net.emit i mux frames)
    | .error (.err _) => some (.refused i call, net)
    | .error _ => none
  | .deliver i =>
    match net.inbox i with
    | [] => none
    | bytes :: rest =>
      match (net.node i).receive bytes with
      | .ok ((frames, events), mux) =>
        some (.received i events, (net.consume i rest).emit i mux frames)
      | .error (.err _) => some (.dropped i, net.consume i rest)
      | .error _ => none

theorem move_step {net next : Pair} {choice : Move} {signal : Signal}
    (moved : net.move choice = some (signal, next)) : Step net signal next := by
  cases choice with
  | call i call =>
    simp only [move] at moved
    split at moved
    · rename_i ran
      cases moved
      exact .call ran
    · rename_i failed
      cases moved
      exact .refuse failed
    · contradiction
  | deliver i =>
    simp only [move] at moved
    split at moved
    · contradiction
    · rename_i bytes rest arrived
      split at moved
      · rename_i ran
        cases moved
        exact .receive arrived ran
      · rename_i failed
        cases moved
        exact .drop arrived failed
      · contradiction

/-- A schedule of choices, each of which must lead to a step that `allowed`
admits. -/
def play (allowed : Pair → Signal → Bool) : Pair → List Move → Option (List Signal × Pair)
  | net, [] => some ([], net)
  | net, choice :: choices => do
    let (signal, next) ← net.move choice
    if allowed net signal then
      let (signals, last) ← play allowed next choices
      return (signal :: signals, last)
    else none

theorem play_run {allowed : Pair → Signal → Bool} {choices : List Move} {start net last : Pair}
    {before signals : List Signal}
    (ran : Run (Guarded (fun net signal => allowed net signal = true) Step) start before net)
    (played : play allowed net choices = some (signals, last)) :
    Run (Guarded (fun net signal => allowed net signal = true) Step) start (before ++ signals) last := by
  induction choices generalizing net before signals with
  | nil =>
    cases played
    rwa [List.append_nil]
  | cons choice choices ih =>
    simp only [play, Option.bind_eq_bind, Option.bind_eq_some_iff] at played
    obtain ⟨⟨signal, next⟩, moved, played⟩ := played
    split at played
    · rename_i met
      simp only [Option.bind_eq_some_iff] at played
      obtain ⟨⟨later, final⟩, rest, finished⟩ := played
      cases finished
      rw [List.append_cons]
      exact ih (ran.snoc ⟨met, move_step moved⟩) rest
    · contradiction

/-- A multiplexer that `listen` was called on, once for each entry. -/
def listening (mux : Multiplexer) (listens : List (UInt8 × UInt16 × UInt8)) : Multiplexer :=
  listens.foldl (fun mux (channel, maxFrameSize, initialCredits) =>
    (mux.listen channel maxFrameSize initialCredits).2) mux

def roleAt (initiator i : Side) : Role := if i = initiator then .initiator else .responder

/-- The two sides before their session: one role each. -/
def fresh (initiator : Side) (peerMtu : Side → UInt16)
    (listens : Side → List (UInt8 × UInt16 × UInt8)) : Pair where
  node i := listening (.new (roleAt initiator i) (peerMtu i)) (listens i)
  inbox _ := []

def started (initiator : Side) (peerMtu : Side → UInt16)
    (listens : Side → List (UInt8 × UInt16 × UInt8)) : Pair where
  node i := { (fresh initiator peerMtu listens).node i with state := .connected }
  inbox _ := []

theorem listening_eq (mux : Multiplexer) (listens : List (UInt8 × UInt16 × UInt8))
    (few : ∀ channel size credits, mux.listenConfigs.lookup channel = some (size, credits) →
      credits ≤ maxInitialCredits) :
    ∃ listenConfigs, listening mux listens = { mux with listenConfigs } ∧
      ∀ channel size credits, listenConfigs.lookup channel = some (size, credits) →
        credits ≤ maxInitialCredits := by
  induction listens generalizing mux with
  | nil => exact ⟨mux.listenConfigs, rfl, few⟩
  | cons entry listens ih =>
    obtain ⟨channel, maxFrameSize, initialCredits⟩ := entry
    refine (ih (mux.listen channel maxFrameSize initialCredits).2 ?_).imp fun _ => id
    intro other size credits found
    simp only [Multiplexer.listen, reserveListenChannel] at found
    split at found
    · exact few other size credits found
    · by_cases same : other = channel
      · subst same
        rw [AList.lookup_insert] at found
        cases found
        exact min_maxInitialCredits_le initialCredits
      · rw [AList.lookup_insert_ne same] at found
        exact few other size credits found

variable (initiator : Side) (peerMtu : Side → UInt16)
  (listens : Side → List (UInt8 × UInt16 × UInt8))

theorem fresh_node (i : Side) :
    ∃ listenConfigs, (fresh initiator peerMtu listens).node i =
        { Multiplexer.new (roleAt initiator i) (peerMtu i) with listenConfigs } ∧
      ∀ channel size credits, listenConfigs.lookup channel = some (size, credits) →
        credits ≤ maxInitialCredits :=
  listening_eq _ (listens i) fun _ _ _ found => by simp [Multiplexer.new] at found

end Pair
end Simble.Rfcomm
