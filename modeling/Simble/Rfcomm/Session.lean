import Simble.Rfcomm.Multiplexer
import Simble.Lib.Run

/-! What one call of the multiplexer does to its session, and what follows for histories of calls:
a connection is open, and is reported open, only inside a session. The handlers of SABM on the
control channel and of the PN response look at the session state; those of the PN command and of a
SABM or UA on a data link do not: the histories on which that shows are singled out. -/
namespace Simble.Rfcomm
open Simble.Lib FrameType List

namespace Multiplexer

/-- A call that returns, with or without an error. One that panics or does not
end has no successor. -/
inductive Step : Multiplexer → Call × List MultiplexerEvent → Multiplexer → Prop where
  | done {mux call frames events after} : mux.perform call = .ok ((frames, events), after) →
      Step mux (call, events) after
  | refused {mux call error} : mux.perform call = .error (.err error) → Step mux (call, []) mux

theorem Step.deterministic (s : Multiplexer) (label : Call × List MultiplexerEvent)
    (t u : Multiplexer) (first : Step s label t) (second : Step s label u) : t = u := by
  cases first <;> cases second <;> simp_all

def sessionUp (mux : Multiplexer) : Prop :=
  mux.state = .connected ∨ mux.state = .opening ∨ mux.state = .disconnecting

/-- The frame completes the opening of a data link connection: the SABM or UA that one in
`Connecting` waits for, or a bare SABM on a listened channel. -/
def Opens (mux : Multiplexer) (frame : RfcommFrame) : Prop :=
  frame.dlci ≠ 0 ∧
    ((∃ dlc, mux.dlcs.lookup frame.dlci = some dlc ∧ dlc.state = .connecting ∧
        (frame.frameType = FrameType.sabm ∨ frame.frameType = FrameType.ua)) ∨
      (mux.dlcs.lookup frame.dlci = none ∧ frame.frameType = FrameType.sabm ∧
        ∃ config, mux.listenConfigs.lookup (frame.dlci >>> 1) = some config))

instance (mux : Multiplexer) (frame : RfcommFrame) : Decidable (mux.Opens frame) :=
  match found : mux.dlcs.lookup frame.dlci with
  | none =>
    decidable_of_iff (frame.dlci ≠ 0 ∧ frame.frameType = FrameType.sabm ∧
      (mux.listenConfigs.lookup (frame.dlci >>> 1)).isSome) <| by
        simp [Opens, found, Option.isSome_iff_exists]
  | some dlc =>
    decidable_of_iff (frame.dlci ≠ 0 ∧ dlc.state = .connecting ∧
      (frame.frameType = FrameType.sabm ∨ frame.frameType = FrameType.ua)) <| by
        simp [Opens, found]

def Negotiates (mux : Multiplexer) (frame : RfcommFrame) : Prop :=
  frame.dlci = 0 ∧ frame.frameType = FrameType.uih ∧
    ∃ value pn, parseMcc frame.information = some (MccType.pn, true, value) ∧
      MccPn.parse value = some pn ∧ pn.dlci &&& 1 = 0 ∧
        ∃ config, mux.listenConfigs.lookup (pn.dlci >>> 1) = some config

end Multiplexer

/-- Events that say nothing about a session or about a connection opening. -/
def MultiplexerEvent.plain : MultiplexerEvent → Prop
  | .started | .disconnected | .dlcOpened _ => False
  | _ => True

namespace Multiplexer

/-- Connections of `after` that are open were open in `before`, and a
multiplexer without connections gets none. -/
structure Retains (before after : Multiplexer) : Prop where
  opened : ∀ {dlci dlc}, after.dlcs.lookup dlci = some dlc → dlc.state = .connected →
    ∃ dlc, before.dlcs.lookup dlci = some dlc ∧ dlc.state = .connected
  empty : before.dlcs = ∅ → after.dlcs = ∅

theorem Retains.of_eq {before after : Multiplexer} (same : after.dlcs = before.dlcs) :
    Retains before after :=
  ⟨fun found isOpen => ⟨_, same ▸ found, isOpen⟩, fun none => same.trans none⟩

theorem Retains.erase (mux : Multiplexer) (dlci : UInt8) :
    Retains mux { mux with dlcs := mux.dlcs.erase dlci } where
  opened {other dlc} found isOpen := by
    by_cases same : other = dlci
    · subst same
      rw [AList.lookup_erase] at found
      contradiction
    · rw [AList.lookup_erase_ne same] at found
      exact ⟨dlc, found, isOpen⟩
  empty none := by
    show mux.dlcs.erase dlci = ∅
    rw [none]
    rfl

/-- Replacing a connection by one that is not newly open. -/
theorem Retains.insert {mux : Multiplexer} {dlci : UInt8} {old new : Dlc}
    (found : mux.dlcs.lookup dlci = some old)
    (kept : new.state = .connected → old.state = .connected) :
    Retains mux { mux with dlcs := mux.dlcs.insert dlci new } where
  opened {other dlc} present isOpen := by
    by_cases same : other = dlci
    · subst same
      rw [AList.lookup_insert] at present
      cases present
      exact ⟨old, found, kept isOpen⟩
    · rw [AList.lookup_insert_ne same] at present
      exact ⟨dlc, present, isOpen⟩
  empty none := by simp [none] at found

inductive Effect (mux : Multiplexer) (call : Call) : List MultiplexerEvent → Multiplexer → Prop where
  | quiet {events after} (plain : ∀ event ∈ events, event.plain) (state : after.state = mux.state)
      (retains : Retains mux after) : Effect mux call events after
  | moves {events after} (plain : ∀ event ∈ events, event.plain) (up : mux.sessionUp)
      (upAfter : after.sessionUp) (retains : Retains mux after) : Effect mux call events after
  | starting {after} (state : mux.state = .init) (stateAfter : after.state = .connecting)
      (retains : Retains mux after) : Effect mux call [] after
  | started {after} (state : mux.state = .init ∨ mux.state = .connecting)
      (stateAfter : after.state = .connected) (retains : Retains mux after) :
      Effect mux call [.started] after
  | ended {closed after} (plain : ∀ event ∈ closed, MultiplexerEvent.plain event)
      (stateAfter : after.state = .disconnected) (empty : after.dlcs = ∅) :
      Effect mux call (closed ++ [.disconnected]) after
  | opened {bytes frame after} (received : call = .receive bytes)
      (parsed : RfcommFrame.parse bytes = some frame) (opens : mux.Opens frame)
      (stateAfter : after.state = .connected) : Effect mux call [.dlcOpened frame.dlci] after
  | negotiated {bytes frame dlci dlc after} (received : call = .receive bytes)
      (parsed : RfcommFrame.parse bytes = some frame)
      (asked : mux.Negotiates frame ∨ mux.state = .opening) (state : after.state = mux.state)
      (dlcs : after.dlcs = mux.dlcs.insert dlci dlc) (waiting : dlc.state = .connecting) :
      Effect mux call [] after

variable {mux after : Multiplexer}

theorem Effect.unchanged {call : Call} : Effect mux call [] mux :=
  .quiet (by simp) rfl (.of_eq rfl)

theorem Effect.of_ok {call : Call} {answer : Reply × Multiplexer} {reply : Reply}
    (effect : Effect mux call answer.1.2 answer.2)
    (ran : (.ok answer : Rust (Reply × Multiplexer)) = .ok (reply, after)) :
    Effect mux call reply.2 after := by
  cases ran
  exact effect

theorem connectedDlc_ok {dlci : UInt8} {dlc : Dlc} (found : mux.connectedDlc dlci = .ok dlc) :
    mux.dlcs.lookup dlci = some dlc ∧ dlc.state = .connected := by
  unfold connectedDlc at found
  split at found
  · contradiction
  · rename_i other present
    split at found
    · contradiction
    · rename_i state
      cases found
      exact ⟨present, not_not.mp state⟩

theorem closeAllDlcs_plain : ∀ event ∈ mux.closeAllDlcs.1, event.plain := by
  intro event member
  obtain ⟨dlci, _, rfl⟩ := mem_map.mp member
  trivial

theorem negotiateCfc_state (wants : Bool) : (mux.negotiateCfc wants).state = mux.state := by
  unfold negotiateCfc
  split
  · rfl
  · split <;> rfl

theorem negotiateCfc_dlcs (wants : Bool) : (mux.negotiateCfc wants).dlcs = mux.dlcs := by
  unfold negotiateCfc
  split
  · rfl
  · split <;> rfl

section Control
variable {bytes : Bytes} {frame : RfcommFrame}

theorem onMccPn_effect (parsed : RfcommFrame.parse bytes = some frame) (control : frame.dlci = 0)
    (kind : frame.frameType = uih) {cR : Bool} {value : Bytes}
    (mcc : parseMcc frame.information = some (MccType.pn, cR, value)) :
    Effect mux (.receive bytes) (mux.onMccPn cR value).1.2 (mux.onMccPn cR value).2 := by
  unfold onMccPn
  split
  · exact .unchanged
  · rename_i pn readable
    split
    · rename_i command
      subst command
      unfold onMccPnCommand
      split
      · exact .unchanged
      · rename_i even
        split
        · exact .unchanged
        · rename_i config listened
          have asked : mux.Negotiates frame :=
            ⟨control, kind, value, pn, mcc, readable, not_not.mp even, _, listened⟩
          exact .negotiated rfl parsed (.inl asked) (negotiateCfc_state _)
            (congrArg (AList.insert pn.dlci _) (negotiateCfc_dlcs _)) rfl
    · unfold onMccPnResponse
      split
      · exact .unchanged
      · rename_i isOpening
        split
        · exact .unchanged
        · exact .negotiated rfl parsed (.inr (not_not.mp isOpening)) (negotiateCfc_state _)
            (congrArg (AList.insert pn.dlci _) (negotiateCfc_dlcs _)) rfl

theorem onMccMsc_effect {cR : Bool} {value : Bytes} :
    Effect mux (.receive bytes) (mux.onMccMsc cR value).1.2 (mux.onMccMsc cR value).2 := by
  unfold onMccMsc
  split
  · exact .unchanged
  · split
    · exact .unchanged
    · split <;> exact .unchanged

theorem onControlFrame_effect (parsed : RfcommFrame.parse bytes = some frame)
    (control : frame.dlci = 0) :
    Effect mux (.receive bytes) (mux.onControlFrame frame).1.2 (mux.onControlFrame frame).2 := by
  unfold onControlFrame
  split
  · unfold onSabm
    split
    · exact .unchanged
    · rename_i state
      exact .started (.inl (not_not.mp state)) rfl (.of_eq rfl)
  split
  · unfold onUa
    split
    · rename_i state
      exact .started (.inr state) rfl (.of_eq rfl)
    · exact .ended closeAllDlcs_plain rfl rfl
    · exact .unchanged
  split
  · exact .ended closeAllDlcs_plain rfl rfl
  split
  · rename_i kind
    unfold onUihControl
    split
    · exact .unchanged
    · rename_i mcc cR value readable
      split
      · rename_i pn
        subst pn
        exact onMccPn_effect parsed control kind readable
      split
      · exact onMccMsc_effect
      split <;> exact .unchanged
  · exact .unchanged

end Control

theorem takeCredits_state (dlc : Dlc) (frame : RfcommFrame) :
    (takeCredits dlc frame).1.state = dlc.state := by
  unfold takeCredits
  split <;> rfl

theorem takeData_state (dlc : Dlc) (dlci : UInt8) (data : Bytes) :
    (takeData dlc dlci data).1.state = dlc.state := by
  unfold takeData
  split <;> rfl

open MultiplexerEvent

theorem takeData_plain (dlc : Dlc) (dlci : UInt8) (data : Bytes) :
    ∀ event ∈ (takeData dlc dlci data).2, event.plain := by
  unfold takeData
  split
  · simp [plain]
  · simp

theorem onDlcUih_effect {dlci : UInt8} {frame : RfcommFrame} {call : Call} {reply : Reply}
    (ran : mux.onDlcUih dlci frame = .ok (reply, after)) : Effect mux call reply.2 after := by
  unfold onDlcUih at ran
  split at ran
  · cases ran
    exact .unchanged
  · rename_i dlc present
    obtain ⟨⟨frames, last⟩, sent, finished⟩ := Rust.bind_eq_ok.mp ran
    cases finished
    have state : last.state = dlc.state := by
      have kept : last.state = _ := (congrArg Dlc.state (Dlc.processTx_settings sent) :)
      rw [kept]
      exact (takeData_state _ _ _).trans (takeCredits_state _ _)
    exact .quiet (takeData_plain _ _ _) rfl (.insert present fun isOpen => state ▸ isOpen)

theorem onDlcFrame_effect {bytes : Bytes} {frame : RfcommFrame} {reply : Reply}
    (parsed : RfcommFrame.parse bytes = some frame) (data : frame.dlci ≠ 0)
    (ran : mux.onDlcFrame frame = .ok (reply, after)) :
    Effect mux (.receive bytes) reply.2 after := by
  unfold onDlcFrame at ran
  dsimp only at ran
  split at ran
  · rename_i unknown
    refine .of_ok ?_ ran
    unfold onFrameForUnknownDlci
    dsimp only
    split
    · rename_i kind
      split
      · exact .unchanged
      · rename_i size credits listened
        exact .opened rfl parsed ⟨data, .inr ⟨unknown, kind, _, listened⟩⟩ rfl
    · split <;> exact .unchanged
  · rename_i dlc present
    split at ran
    · rename_i kind
      split at ran
      · cases ran
        exact .unchanged
      · rename_i state
        cases ran
        exact .opened rfl parsed ⟨data, .inl ⟨dlc, present, not_not.mp state, .inl kind⟩⟩ rfl
    split at ran
    · rename_i kind
      split at ran
      · rename_i state
        cases ran
        exact .opened rfl parsed ⟨data, .inl ⟨dlc, present, state, .inr kind⟩⟩ rfl
      · cases ran
        exact .quiet (by simp [plain]) rfl (.erase mux frame.dlci)
      · cases ran
        exact .unchanged
    split at ran
    · cases ran
      exact .quiet (by simp [plain]) rfl (.erase mux frame.dlci)
    split at ran
    · exact onDlcUih_effect ran
    · cases ran
      exact .unchanged

theorem receive_effect {bytes : Bytes} {reply : Reply}
    (ran : mux.receive bytes = .ok (reply, after)) : Effect mux (.receive bytes) reply.2 after := by
  unfold receive at ran
  split at ran
  · contradiction
  · rename_i frame parsed
    unfold onFrame at ran
    split at ran
    · rename_i control
      exact .of_ok (onControlFrame_effect parsed control) ran
    · rename_i data
      split at ran
      · refine .of_ok ?_ ran
        unfold onDmFrame
        split
        · rename_i state
          exact .moves (by simp [plain]) (.inr (.inl state)) (.inl rfl) (.of_eq rfl)
        · exact .unchanged
      · exact onDlcFrame_effect parsed data ran

theorem perform_effect {call : Call} {reply : Reply}
    (ran : mux.perform call = .ok (reply, after)) : Effect mux call reply.2 after := by
  cases call with
  | start =>
    obtain ⟨⟨bytes, next⟩, started, finished⟩ := Rust.bind_eq_ok.mp ran
    cases finished
    unfold start at started
    split at started
    · contradiction
    · split at started
      · contradiction
      · rename_i state
        cases started
        exact .starting (not_not.mp state) rfl (.of_eq rfl)
  | listen channel maxFrameSize initialCredits =>
    cases ran
    exact .quiet (by simp) rfl (.of_eq rfl)
  | openDlc channel maxFrameSize initialCredits =>
    obtain ⟨⟨bytes, next⟩, opened, finished⟩ := Rust.bind_eq_ok.mp ran
    cases finished
    unfold openDlc at opened
    split at opened
    · contradiction
    · rename_i state
      cases opened
      exact .moves (by simp) (.inl (not_not.mp state)) (.inr (.inl rfl)) (.of_eq rfl)
  | write dlci data =>
    obtain ⟨⟨frames, next⟩, wrote, finished⟩ := Rust.bind_eq_ok.mp ran
    cases finished
    obtain ⟨dlc, found, wrote⟩ := Rust.bind_eq_ok.mp wrote
    obtain ⟨⟨sent, last⟩, transmitted, finished⟩ := Rust.bind_eq_ok.mp wrote
    cases finished
    obtain ⟨present, isOpen⟩ := connectedDlc_ok found
    exact .quiet (by simp) rfl (.insert present fun _ => isOpen)
  | closeDlc dlci =>
    obtain ⟨⟨bytes, next⟩, closed, finished⟩ := Rust.bind_eq_ok.mp ran
    cases finished
    obtain ⟨dlc, found, closed⟩ := Rust.bind_eq_ok.mp closed
    cases closed
    obtain ⟨present, isOpen⟩ := connectedDlc_ok found
    exact .quiet (by simp) rfl (.insert present fun _ => isOpen)
  | disconnect =>
    obtain ⟨⟨bytes, next⟩, ended, finished⟩ := Rust.bind_eq_ok.mp ran
    cases finished
    unfold disconnect at ended
    split at ended
    · contradiction
    · rename_i state
      cases ended
      exact .moves (by simp) (.inl (not_not.mp state)) (.inr (.inr rfl)) (.of_eq rfl)
  | receive bytes => exact receive_effect ran

end Multiplexer

section History
variable {events more : List MultiplexerEvent}

/-- A session was started and has not been reported over since. -/
def Live (events : List MultiplexerEvent) : Prop :=
  ∃ before after, events = before ++ .started :: after ∧ .disconnected ∉ after

def OpensLive (events : List MultiplexerEvent) : Prop :=
  ∀ before dlci after, events = before ++ .dlcOpened dlci :: after → Live before

theorem Live.append (live : Live events) (kept : .disconnected ∉ more) : Live (events ++ more) := by
  obtain ⟨before, after, rfl, clear⟩ := live
  refine ⟨before, after ++ more, by simp, ?_⟩
  simp [clear, kept]

theorem Live.started (live : Live events) : .started ∈ events := by
  obtain ⟨before, after, rfl, _⟩ := live
  simp

theorem not_live_disconnected : ¬ Live (events ++ [.disconnected]) := by
  rintro ⟨before, after, split, clear⟩
  rcases append_eq_append_iff.mp split with ⟨tail, rfl, same⟩ | ⟨tail, _, same⟩
  · cases tail with
    | nil => simp at same
    | cons event tail => simp at same
  · cases tail with
    | nil => simp at same
    | cons event tail =>
      rw [cons_append, List.cons.injEq] at same
      exact clear (same.2 ▸ by simp)

section Plain
variable (plain : ∀ event ∈ more, event.plain)
include plain

theorem started_not_mem : .started ∉ more :=
  fun member => plain _ member

theorem disconnected_not_mem : .disconnected ∉ more :=
  fun member => plain _ member

theorem dlcOpened_not_mem (dlci : UInt8) :
    .dlcOpened dlci ∉ more :=
  fun member => plain _ member

theorem live_append_plain :
    Live (events ++ more) ↔ Live events := by
  constructor
  · rintro ⟨before, after, split, clear⟩
    rcases append_eq_append_iff.mp split with ⟨tail, rfl, same⟩ | ⟨tail, rfl, same⟩
    · exact absurd (same ▸ by simp : .started ∈ more) (started_not_mem plain)
    · cases tail with
      | nil =>
        obtain rfl : .started :: after = more := same
        exact absurd (by simp) (started_not_mem plain)
      | cons event tail =>
        rw [cons_append, List.cons.injEq] at same
        obtain ⟨rfl, rfl⟩ := same
        exact ⟨before, tail, rfl, fun member => clear (by simp [member])⟩
  · exact fun live => live.append (disconnected_not_mem plain)

end Plain

theorem OpensLive.append (opened : OpensLive events)
    (closed : ∀ dlci, .dlcOpened dlci ∉ more) : OpensLive (events ++ more) := by
  intro before dlci after split
  rcases append_eq_append_iff.mp split with ⟨tail, rfl, same⟩ | ⟨tail, rfl, same⟩
  · exact absurd (same ▸ by simp : .dlcOpened dlci ∈ more) (closed dlci)
  · cases tail with
    | nil =>
      obtain rfl : .dlcOpened dlci :: after = more := same
      exact absurd (by simp) (closed dlci)
    | cons event tail =>
      rw [cons_append, List.cons.injEq] at same
      obtain ⟨rfl, _⟩ := same
      exact opened before dlci tail rfl

theorem OpensLive.snoc {dlci : UInt8} (opened : OpensLive events) (live : Live events) :
    OpensLive (events ++ [.dlcOpened dlci]) := by
  intro before other after split
  rcases append_eq_append_iff.mp split with ⟨tail, rfl, same⟩ | ⟨tail, rfl, same⟩
  · cases tail with
    | nil => simpa using live
    | cons event tail => simp at same
  · cases tail with
    | nil => simpa using live
    | cons event tail =>
      rw [cons_append, List.cons.injEq] at same
      obtain ⟨rfl, _⟩ := same
      exact opened before other tail rfl

end History

namespace Multiplexer
variable {mux after : Multiplexer} {events : List MultiplexerEvent}

def AnyOpen (mux : Multiplexer) : Prop :=
  ∃ dlci dlc, mux.dlcs.lookup dlci = some dlc ∧ dlc.state = .connected

def reported (labels : List (Call × List MultiplexerEvent)) : List MultiplexerEvent :=
  labels.flatMap Prod.snd

theorem reported_snoc (labels : List (Call × List MultiplexerEvent)) (call : Call)
    (reply : List MultiplexerEvent) :
    reported (labels ++ [(call, reply)]) = reported labels ++ reply := by simp [reported]

/-- Connections are open, and are reported open, inside a session only, and a
session that is over leaves none and does not come back. -/
structure Contained (labels : List (Call × List MultiplexerEvent)) (mux : Multiplexer) : Prop where
  inside : mux.AnyOpen → Live (reported labels)
  opened : OpensLive (reported labels)
  finished : .disconnected ∈ reported labels → mux.dlcs = ∅ ∧ mux.state ≠ .connected

/-- The received frame does not reach a handler that should have looked at the
session first. -/
def Admissible (mux : Multiplexer) (label : Call × List MultiplexerEvent) : Prop :=
  ∀ bytes frame, label.1 = .receive bytes → RfcommFrame.parse bytes = some frame →
    (mux.Opens frame → mux.sessionUp) ∧ (mux.Negotiates frame → mux.state ≠ .disconnected)

structure Told (events : List MultiplexerEvent) (mux : Multiplexer) : Prop where
  waiting : mux.state = .init ∨ mux.state = .connecting →
    .started ∉ events ∧ .disconnected ∉ events ∧ ¬ mux.AnyOpen
  up : mux.sessionUp → Live events ∧ .disconnected ∉ events
  finished : mux.state = .disconnected → .disconnected ∈ events ∧ ¬ Live events ∧ mux.dlcs = ∅
  opened : OpensLive events

theorem state_cases (mux : Multiplexer) :
    (mux.state = .init ∨ mux.state = .connecting) ∨ mux.sessionUp ∨ mux.state = .disconnected := by
  unfold sessionUp
  cases mux.state <;> simp

theorem not_sessionUp_of_disconnected (state : mux.state = .disconnected) : ¬ mux.sessionUp := by
  simp [sessionUp, state]

theorem Retains.anyOpen (retains : Retains mux after) : after.AnyOpen → mux.AnyOpen := by
  rintro ⟨dlci, dlc, found, isOpen⟩
  obtain ⟨old, present, wasOpen⟩ := retains.opened found isOpen
  exact ⟨dlci, old, present, wasOpen⟩

variable {labels : List (Call × List MultiplexerEvent)}

theorem Told.contained (told : Told (reported labels) mux) : Contained labels mux where
  inside isOpen := by
    rcases mux.state_cases with waiting | up | finished
    · exact absurd isOpen (told.waiting waiting).2.2
    · exact (told.up up).1
    · obtain ⟨dlci, dlc, found, _⟩ := isOpen
      simp [(told.finished finished).2.2] at found
  opened := told.opened
  finished ended := by
    rcases mux.state_cases with waiting | up | finished
    · exact absurd ended (told.waiting waiting).2.1
    · exact absurd ended (told.up up).2
    · exact ⟨(told.finished finished).2.2, by simp [finished]⟩

theorem Told.not_live_of_down (told : Told events mux) (down : ¬ mux.sessionUp) : ¬ Live events := by
  rcases mux.state_cases with waiting | up | finished
  · exact fun live => (told.waiting waiting).1 live.started
  · exact absurd up down
  · exact (told.finished finished).2.1

theorem Told.keep (told : Told events mux) {more : List MultiplexerEvent}
    (plain : ∀ event ∈ more, event.plain) (state : after.state = mux.state)
    (retains : Retains mux after) : Told (events ++ more) after where
  waiting stage := by
    obtain ⟨fresh, going, closed⟩ := told.waiting (state ▸ stage)
    exact ⟨by simp [fresh, started_not_mem plain], by simp [going, disconnected_not_mem plain],
      fun isOpen => closed (retains.anyOpen isOpen)⟩
  up stage := by
    have up : mux.sessionUp := by simpa only [sessionUp, state] using stage
    obtain ⟨live, going⟩ := told.up up
    exact ⟨(live_append_plain plain).mpr live, by simp [going, disconnected_not_mem plain]⟩
  finished stage := by
    obtain ⟨ended, dead, none⟩ := told.finished (state ▸ stage)
    exact ⟨by simp [ended], fun live => dead ((live_append_plain plain).mp live),
      retains.empty none⟩
  opened := told.opened.append (dlcOpened_not_mem plain)

/-- A step whose source session is up, or that starts it, ends up in one. -/
theorem Told.arrive {more : List MultiplexerEvent} (stateAfter : after.sessionUp)
    (live : Live (events ++ more)) (going : .disconnected ∉ events ++ more)
    (opened : OpensLive (events ++ more)) : Told (events ++ more) after where
  waiting stage := by
    rcases stateAfter with state | state | state <;> simp [state] at stage
  up _ := ⟨live, going⟩
  finished stage := absurd stateAfter (not_sessionUp_of_disconnected stage)
  opened := opened

theorem Told.effect (told : Told events mux) {call : Call} {reply : List MultiplexerEvent}
    (admissible : mux.Admissible (call, reply)) (effect : Effect mux call reply after) :
    Told (events ++ reply) after := by
  cases effect with
  | quiet plain state retains => exact told.keep plain state retains
  | moves plain up upAfter retains =>
    obtain ⟨live, going⟩ := told.up up
    exact .arrive upAfter ((live_append_plain plain).mpr live)
      (by simp [going, disconnected_not_mem plain])
      (told.opened.append (dlcOpened_not_mem plain))
  | starting state stateAfter retains =>
    obtain ⟨fresh, going, closed⟩ := told.waiting (.inl state)
    rw [append_nil]
    exact ⟨fun _ => ⟨fresh, going, fun isOpen => closed (retains.anyOpen isOpen)⟩,
      fun up => by simp [sessionUp, stateAfter] at up, fun finished => by simp [stateAfter] at finished,
      told.opened⟩
  | started state stateAfter retains =>
    obtain ⟨_, going, _⟩ := told.waiting state
    exact .arrive (.inl stateAfter) ⟨events, [], rfl, by simp⟩ (by simp [going])
      (told.opened.append (by simp))
  | @ended closed _ plain stateAfter empty =>
    refine ⟨fun stage => by simp [stateAfter] at stage,
      fun up => absurd up (not_sessionUp_of_disconnected stateAfter), fun _ => ⟨by simp, ?_, empty⟩, ?_⟩
    · rw [← append_assoc]
      exact not_live_disconnected
    · refine told.opened.append fun dlci member => ?_
      rcases mem_append.mp member with member | member
      · exact plain _ member
      · simp at member
  | opened received parsed opens stateAfter =>
    obtain ⟨live, going⟩ := told.up ((admissible _ _ received parsed).1 opens)
    exact .arrive (.inl stateAfter) (live.append (by simp)) (by simp [going])
      (told.opened.snoc live)
  | @negotiated bytes frame dlci dlc _ received parsed asked state dlcs waiting =>
    have going : mux.state ≠ .disconnected := by
      rcases asked with asked | opening
      · exact (admissible _ _ received parsed).2 asked
      · simp [opening]
    rw [append_nil]
    refine ⟨fun stage => ?_, fun up => told.up ?_, fun finished => absurd (state ▸ finished) going,
      told.opened⟩
    · obtain ⟨fresh, alive, closed⟩ := told.waiting (state ▸ stage)
      refine ⟨fresh, alive, fun ⟨other, found, present, isOpen⟩ => closed ⟨other, found, ?_, isOpen⟩⟩
      rw [dlcs] at present
      by_cases same : other = dlci
      · subst same
        rw [AList.lookup_insert] at present
        cases present
        simp [waiting] at isOpen
      · rwa [AList.lookup_insert_ne same] at present
    · simpa only [sessionUp, state] using up

theorem Told.new (role : Role) (peerMtu : UInt16) : Told [] (new role peerMtu) where
  waiting _ := ⟨by simp, by simp, fun ⟨_, _, found, _⟩ => by simp [Multiplexer.new] at found⟩
  up stage := by simp [sessionUp, Multiplexer.new] at stage
  finished stage := by simp [Multiplexer.new] at stage
  opened before dlci after split := by simp at split

theorem told_of_guarded {role : Role} {peerMtu : UInt16}
    (run : Run (Guarded Admissible Step) (new role peerMtu) labels mux) :
    Told (reported labels) mux := by
  refine run.invariant (P := fun labels mux => Told (reported labels) mux) (.new role peerMtu) ?_
  rintro labels mux ⟨call, reply⟩ next told ⟨admissible, stepped⟩
  rw [reported_snoc]
  cases stepped with
  | done ran => exact told.effect admissible (perform_effect ran)
  | refused => exact told.effect admissible .unchanged

theorem onFrame_opens {frame : RfcommFrame} (opens : mux.Opens frame) :
    ∃ frames after, mux.onFrame frame = .ok ((frames, [.dlcOpened frame.dlci]), after) := by
  obtain ⟨data, ⟨dlc, present, waiting, kind⟩ | ⟨unknown, kind, ⟨size, credits⟩, listened⟩⟩ := opens
  · rcases kind with kind | kind <;>
      simp [onFrame, data, kind, onDlcFrame, present, waiting, opened, sabm, ua,
        dm]
  · simp [onFrame, data, kind, onDlcFrame, unknown, onFrameForUnknownDlci, listened,
      sabm, dm]

theorem onFrame_negotiates {frame : RfcommFrame} (negotiates : mux.Negotiates frame) :
    ∃ reply after dlci dlc, mux.onFrame frame = .ok (reply, after) ∧
      after.dlcs.lookup dlci = some dlc := by
  obtain ⟨control, kind, value, pn, mcc, readable, even, ⟨size, credits⟩, listened⟩ := negotiates
  simp [onFrame, control, onControlFrame, kind, onUihControl, mcc, onMccPn, readable,
    onMccPnCommand, even, listened, uih, sabm, ua, disc]
  exact ⟨pn.dlci, _, AList.lookup_insert _⟩

theorem perform_receive {bytes : Bytes} {frame : RfcommFrame} {reply : Reply}
    (parsed : RfcommFrame.parse bytes = some frame) (ran : mux.onFrame frame = .ok (reply, after)) :
    mux.perform (.receive bytes) = .ok (reply, after) := by
  simp [perform, receive, parsed, ran]

theorem Step.of_perform {call : Call} {reply : Reply} {next : Multiplexer}
    (stepped : Step mux (call, events) after) (ran : mux.perform call = .ok (reply, next)) :
    events = reply.2 ∧ after = next := by
  cases stepped with
  | done done =>
    rw [ran] at done
    cases done
    exact ⟨rfl, rfl⟩
  | refused failed =>
    rw [ran] at failed
    contradiction

/-- The first inadmissible frame shows: a connection opens, or is negotiated,
where no session is. -/
theorem not_contained_of_inadmissible {label : Call × List MultiplexerEvent}
    (told : Told (reported labels) mux) (stepped : Step mux label after)
    (inadmissible : ¬ mux.Admissible label) :
    ¬ Contained (labels ++ [label]) after := by
  intro contained
  obtain ⟨call, events⟩ := label
  refine inadmissible fun bytes frame received parsed => ⟨fun opens => ?_, fun negotiates => ?_⟩
  · by_contra down
    obtain ⟨frames, next, ran⟩ := onFrame_opens opens
    obtain rfl : call = .receive bytes := received
    obtain ⟨rfl, rfl⟩ := stepped.of_perform (perform_receive parsed ran)
    exact told.not_live_of_down down
      (contained.opened (reported labels) frame.dlci [] (reported_snoc _ _ _))
  · intro finished
    obtain ⟨reply, next, dlci, dlc, ran, present⟩ := onFrame_negotiates negotiates
    obtain rfl : call = .receive bytes := received
    obtain ⟨rfl, rfl⟩ := stepped.of_perform (perform_receive parsed ran)
    have ended : .disconnected ∈ reported (labels ++ [(.receive bytes, reply.2)]) := by
      rw [reported_snoc]
      exact mem_append_left _ (told.finished finished).1
    simp [(contained.finished ended).1] at present

/-- The histories that stay contained throughout are those whose frames are all
admissible. -/
theorem contained_iff_admissible {role : Role} {peerMtu : UInt16}
    {labels : List (Call × List MultiplexerEvent)}
    (run : Run Step (new role peerMtu) labels mux) :
    (∀ before reached, before <+: labels → Run Step (new role peerMtu) before reached →
        Contained before reached) ↔
      Run (Guarded Admissible Step) (new role peerMtu) labels mux :=
  Run.always_iff_guarded Step.deterministic (fun guarded => (told_of_guarded guarded).contained)
    (fun guarded stepped inadmissible =>
      not_contained_of_inadmissible (told_of_guarded guarded) stepped inadmissible) run

def startedHistory : List (Call × List MultiplexerEvent) :=
  [(.listen 1 1000 7, []), (.receive (RfcommFrame.sabm 1 0).toBytes, [.started]),
    (.receive (RfcommFrame.sabm 1 2).toBytes, [.dlcOpened 2])]

/-- A responder started by its peer's SABM opens a channel it listens on. -/
theorem contained_iff_admissible_started :
    ∃ mux, Run (Guarded Admissible Step) (new .responder 1000) startedHistory mux ∧
      ∀ before reached, before <+: startedHistory →
        Run Step (new .responder 1000) before reached → Contained before reached := by
  have listens : ∃ mux, Run (Guarded Admissible Step) (new .responder 1000) startedHistory mux := by
    refine ⟨_, ((Run.nil.snoc ⟨?listen, Step.done rfl⟩).snoc ⟨?start, Step.done rfl⟩).snoc
      ⟨?opening, Step.done rfl⟩⟩
    case listen => rintro bytes frame ⟨⟩
    case start =>
      rintro bytes frame ⟨⟩ ⟨⟩
      exact ⟨fun opens => absurd rfl opens.1, fun asked => absurd asked.2.1 (by decide)⟩
    case opening =>
      rintro bytes frame ⟨⟩ ⟨⟩
      exact ⟨fun _ => .inl rfl, fun asked => absurd asked.1 (by decide)⟩
  obtain ⟨mux, guarded⟩ := listens
  exact ⟨mux, guarded, (contained_iff_admissible guarded.unguarded).mpr guarded⟩

/-- A responder that never saw a SABM for the session answers one for a
listened channel, and the connection is open without a session. -/
theorem not_contained_bare_sabm :
    ¬ ∀ (role : Role) (peerMtu : UInt16) (labels : List (Call × List MultiplexerEvent))
        (mux : Multiplexer), Run Step (new role peerMtu) labels mux → Contained labels mux := by
  intro contained
  have run : Run Step (new .responder 1000)
      ([] ++ [(.listen 1 1000 7, [])] ++ [(.receive (RfcommFrame.sabm 1 2).toBytes, [.dlcOpened 2])])
      _ := (Run.nil.snoc (.done rfl)).snoc (.done rfl)
  obtain ⟨before, after, split, _⟩ := (contained _ _ _ _ run).opened [] 2 [] rfl
  simp at split

end Multiplexer
end Simble.Rfcomm
