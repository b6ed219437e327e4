import Simble.Lib.Each
import Simble.Hfp.Ag

/-! How an audio gateway comes to ask for an audio connection: its turns, and what
each of them does to the codec and the state of the connection. -/
namespace Simble.Hfp
open Simble.Lib AgProtocol

/-! ## Turns -/

/-- What a gateway acts upon: a line, or a call of its own side. -/
inductive Turn where
  | line (line : Bytes)
  | startAudioConnection
  | onAudioConnected
  | onAudioDisconnected

structure Done where
  before : AgProtocol
  turn : Turn
  outgoing : List Bytes
  events : List HfpEvent

inductive Input where
  | receive (data : Bytes)
  | startAudioConnection
  | onAudioConnected
  | onAudioDisconnected

namespace AgProtocol

def reply (ag : AgProtocol) : Turn → Rust Reply
  | .line line => ag.receiveLine line
  | .startAudioConnection => .ok ag.startAudioConnection
  | .onAudioConnected => .ok ag.onAudioConnected
  | .onAudioDisconnected => .ok ag.onAudioDisconnected

def takeTurns (ag : AgProtocol) : List Turn → Rust (AgProtocol × List Done)
  | [] => .ok (ag, [])
  | turn :: turns => do
    let reply ← ag.reply turn
    let (after, dones) ← reply.ag.takeTurns turns
    return (after, ⟨ag, turn, reply.outgoing, reply.events⟩ :: dones)

def turns (ag : AgProtocol) : Input → AgProtocol × List Turn
  | .receive data =>
    let (lines, left) := extractCommandLines (ag.readBuffer ++ data)
    ({ ag with readBuffer := left }, (lines.filter (· ≠ [])).map .line)
  | .startAudioConnection => (ag, [.startAudioConnection])
  | .onAudioConnected => (ag, [.onAudioConnected])
  | .onAudioDisconnected => (ag, [.onAudioDisconnected])

def take (ag : AgProtocol) (input : Input) : Rust (AgProtocol × List Done) :=
  (ag.turns input).1.takeTurns (ag.turns input).2

def serve (ag : AgProtocol) : List Input → Rust (AgProtocol × List Done)
  | [] => .ok (ag, [])
  | input :: inputs => do
    let (after, dones) ← ag.take input
    let (final, later) ← after.serve inputs
    return (final, dones ++ later)

end AgProtocol

/-! ## What a turn does to the audio connection -/

def HfpEvent.isAudio : HfpEvent → Bool
  | .audioConnectionState _ | .audioConnectionRequested _ => true
  | _ => false

structure Quiet (ag : AgProtocol) (reply : Reply) : Prop where
  codec : reply.ag.activeCodec = ag.activeCodec
  state : reply.ag.audioState = ag.audioState
  own : reply.ag.supportedAudioCodecs = ag.supportedAudioCodecs
  silent : reply.events.filter HfpEvent.isAudio = []

/-- An `AT+BCS` whose number is cut to that of a codec. -/
def Names (turn : Turn) (value : UInt32) (codec : AudioCodec) : Prop :=
  ∃ line cmd, turn = .line line ∧ AtCommand.parseFrom line = .ok cmd ∧
    commandOf cmd.code cmd.subCode = some .bcs ∧ numberAt cmd.parameters 0 = some value ∧
    AudioCodec.fromValue value.toUInt8 = some codec

inductive Outcome (ag : AgProtocol) (turn : Turn) (reply : Reply) : Prop where
  | quiet (quiet : Quiet ag reply)
  | offered (codec : AudioCodec) (idle : ag.audioState = .disconnected)
      (choice : ag.codecToNegotiate = some codec)
      (after : reply.ag = { ag with activeCodec := codec, audioState := .negotiating })
      (sent : negotiateCodec codec ∈ reply.outgoing)
      (audio : reply.events.filter HfpEvent.isAudio = [.audioConnectionState .negotiating])
  | defaulted (idle : ag.audioState = .disconnected) (choice : ag.codecToNegotiate = none)
      (after : reply.ag = { ag with activeCodec := .cvsd, audioState := .connecting })
      (audio : reply.events.filter HfpEvent.isAudio =
        [.audioConnectionState .connecting, .audioConnectionRequested .cvsd])
  | settled (value : UInt32) (codec : AudioCodec) (names : Names turn value codec)
      (idle : ag.audioState ≠ .negotiating) (after : reply.ag = { ag with activeCodec := codec })
      (audio : reply.events.filter HfpEvent.isAudio = [])
  | confirmed (value : UInt32) (codec : AudioCodec) (names : Names turn value codec)
      (running : ag.audioState = .negotiating)
      (after : reply.ag = { ag with activeCodec := codec, audioState := .connecting })
      (audio : reply.events.filter HfpEvent.isAudio =
        [.audioConnectionState .connecting, .audioConnectionRequested codec])
  | moved (state : AudioConnectionState) (ends : state = .connected ∨ state = .disconnected)
      (after : reply.ag = { ag with audioState := state })
      (audio : reply.events.filter HfpEvent.isAudio = [.audioConnectionState state])

namespace AgProtocol
variable {ag : AgProtocol} {params : List AtParameter}

theorem quiet_same {outgoing : List Bytes} {events : List HfpEvent}
    (silent : events.filter HfpEvent.isAudio = []) : Quiet ag ⟨ag, outgoing, events⟩ :=
  ⟨rfl, rfl, rfl, silent⟩

theorem filter_slcComplete (ag : AgProtocol) :
    ag.checkRemainingSlcCommands.filter HfpEvent.isAudio = [] := by
  unfold checkRemainingSlcCommands
  split <;> rfl

theorem quiet_onChld {reply : Reply} (handled : ag.onChld params = .ok reply) : Quiet ag reply := by
  unfold onChld at handled
  split at handled
  · cases handled
    exact quiet_same rfl
  · obtain ⟨parts, -, handled⟩ := Rust.bind_eq_ok.mp handled
    split at handled
    · cases handled
      exact quiet_same rfl
    · split at handled
      · cases handled
        exact quiet_same rfl
      · split_ifs at handled <;> cases handled <;> exact quiet_same rfl

theorem quiet_onCindTest {reply : Reply} (handled : ag.onCindTest = .ok reply) :
    Quiet ag reply := by
  unfold onCindTest at handled
  split at handled
  · cases handled
    exact quiet_same rfl
  · obtain ⟨texts, -, handled⟩ := Rust.bind_eq_ok.mp handled
    cases handled
    exact quiet_same rfl

theorem quiet_onBiev : Quiet ag (ag.onBiev params) := by
  unfold onBiev
  dsimp only
  split
  · split
    · exact quiet_same rfl
    · exact ⟨rfl, rfl, rfl, rfl⟩
  · exact quiet_same rfl

/-- Every command but those two leaves the audio connection alone. -/
theorem quiet_handle {command : Command} (notBcs : command ≠ .bcs) (notBcc : command ≠ .bcc)
    {reply : Reply} (handled : ag.handle params command = .ok reply) : Quiet ag reply := by
  cases command with
  | bcs => contradiction
  | bcc => contradiction
  | chld => exact quiet_onChld handled
  | cindTest => exact quiet_onCindTest handled
  | biev =>
    cases handled
    exact quiet_onBiev
  | bvra =>
    cases handled
    apply quiet_same
    cases (numberAt params 0).bind VoiceRecognitionState.fromValue <;> rfl
  | vgs | vgm =>
    cases handled
    apply quiet_same
    cases numberAt params 0 <;> rfl
  | chldTest | bindRead =>
    cases handled
    dsimp only [onChldTest, onBindRead]
    split_ifs
    · exact ⟨rfl, rfl, rfl, filter_slcComplete _⟩
    · exact quiet_same rfl
  | cindRead =>
    cases handled
    dsimp only [onCindRead]
    split_ifs
    · exact quiet_same rfl
    · exact quiet_same (filter_slcComplete ag)
  | brsf | bac | cmer | cmee | ccwa | bia | answer | dial | chup | clcc | clip =>
    cases handled
    exact ⟨rfl, rfl, rfl, rfl⟩
  | bind | bindTest | copsSet | copsRead =>
    cases handled
    dsimp only [onBind, onBindTest, onCopsSet, onCopsRead]
    split_ifs <;> exact ⟨rfl, rfl, rfl, rfl⟩

theorem setAudioState_of_ne {state : AudioConnectionState} (other : ag.audioState ≠ state) :
    ag.setAudioState state = ({ ag with audioState := state }, [.audioConnectionState state]) :=
  if_neg other

theorem outcome_setAudioState {turn : Turn} {state : AudioConnectionState}
    (ends : state = .connected ∨ state = .disconnected) :
    Outcome ag turn ⟨(ag.setAudioState state).1, [], (ag.setAudioState state).2⟩ := by
  by_cases same : ag.audioState = state
  · refine .quiet ?_
    rw [setAudioState, if_pos same]
    exact quiet_same rfl
  · refine .moved state ends ?_ ?_
    · rw [setAudioState_of_ne same]
    · rw [setAudioState_of_ne same]
      rfl

theorem outcome_start (ag : AgProtocol) (turn : Turn) (lines : List Bytes) {events : List HfpEvent}
    (silent : events.filter HfpEvent.isAudio = []) :
    Outcome ag turn ⟨ag.startAudioConnection.ag, lines ++ ag.startAudioConnection.outgoing,
      events ++ ag.startAudioConnection.events⟩ := by
  unfold startAudioConnection
  by_cases idle : ag.audioState = .disconnected
  · rw [if_neg (not_not.mpr idle)]
    have move (codec : AudioCodec) {state : AudioConnectionState} (other : .disconnected ≠ state) :
        { ag with activeCodec := codec }.setAudioState state =
          ({ ag with activeCodec := codec, audioState := state }, [.audioConnectionState state]) :=
      setAudioState_of_ne fun same => other (idle.symm.trans same)
    cases choice : ag.codecToNegotiate with
    | some codec =>
      simp only [move codec (by decide : AudioConnectionState.disconnected ≠ .negotiating)]
      refine .offered codec idle choice rfl (by simp) ?_
      rw [List.filter_append, silent]
      rfl
    | none =>
      simp only [move .cvsd (by decide : AudioConnectionState.disconnected ≠ .connecting)]
      refine .defaulted idle choice rfl ?_
      rw [List.filter_append, silent]
      rfl
  · rw [if_pos idle, List.append_nil, List.append_nil]
    exact .quiet (quiet_same silent)

theorem outcome_onBcs {line : Bytes} {cmd : AtCommand} (read : AtCommand.parseFrom line = .ok cmd)
    (bcs : commandOf cmd.code cmd.subCode = some .bcs) :
    Outcome ag (.line line) (ag.onBcs cmd.parameters) := by
  unfold onBcs
  cases named : namedCodec cmd.parameters with
  | none => exact .quiet (quiet_same rfl)
  | some codec =>
    obtain ⟨value, number, cut⟩ := Option.bind_eq_some_iff.mp named
    have names : Names (.line line) value codec := ⟨line, cmd, rfl, read, bcs, number, cut⟩
    dsimp only
    split_ifs with running
    · have move : { ag with activeCodec := codec }.setAudioState .connecting =
          ({ ag with activeCodec := codec, audioState := .connecting },
            [.audioConnectionState .connecting]) :=
        setAudioState_of_ne fun same => by
          rw [show ag.audioState = .negotiating from running] at same
          contradiction
      simp only [move]
      exact .confirmed value codec names running rfl rfl
    · exact .settled value codec names running rfl rfl

theorem reply_outcome {turn : Turn} {reply : Reply} (replied : ag.reply turn = .ok reply) :
    Outcome ag turn reply := by
  cases turn with
  | startAudioConnection =>
    cases replied
    exact @outcome_start ag .startAudioConnection [] [] rfl
  | onAudioConnected =>
    cases replied
    exact outcome_setAudioState (.inl rfl)
  | onAudioDisconnected =>
    cases replied
    exact outcome_setAudioState (.inr rfl)
  | line line =>
    rw [AgProtocol.reply, receiveLine] at replied
    split at replied
    case h_2 =>
      cases replied
      exact .quiet (quiet_same rfl)
    case h_1 cmd read =>
      rw [dispatch] at replied
      split at replied
      case h_2 =>
        cases replied
        exact .quiet (quiet_same rfl)
      case h_1 command known =>
        by_cases bcs : command = .bcs
        · cases bcs
          cases replied
          exact outcome_onBcs read known
        · by_cases bcc : command = .bcc
          · cases bcc
            cases replied
            exact @outcome_start ag (.line line) [ok] [.codecConnectionRequested] rfl
          · exact .quiet (quiet_handle bcs bcc replied)

end AgProtocol

end Simble.Hfp
