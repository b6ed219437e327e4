import Simble.Device.ClassicHost
import Simble.Device.LeHost
import Simble.Lib.Along

/-! The initiator of a connected isochronous stream (`device/cis_central.rs`), and what
its state says about the answers of the controller. -/
namespace Simble.Device
open Simble.Hci Simble.Lib List

namespace IsoOpcode
def leSetCigParameters : UInt16 := 0x2062
def leCreateCis : UInt16 := 0x2064
def leSetupIsoDataPath : UInt16 := 0x206E
end IsoOpcode

def buildIsoPacket (handle sequenceNumber : UInt16) (sdu : Bytes) : Bytes :=
  let flags := (handle &&& (0x0FFF : UInt16)) ||| ((0b10 : UInt16) <<< (12 : UInt16))
  0x05 :: U16.toLeBytes flags ++ U16.toLeBytes (UInt16.ofNat (4 + sdu.length)) ++
    (U16.toLeBytes sequenceNumber ++ U16.toLeBytes (UInt16.ofNat sdu.length &&& 0x0FFF) ++ sdu)

structure CisConfig where
  cigId : UInt8 := 1
  cisId : UInt8 := 1
  sduIntervalUs : UInt32 := 10000
  maxSdu : UInt16 := 40
  maxTransportLatencyMs : UInt16 := 10
  retransmissions : UInt8 := 2
  phy : UInt8 := 0x02

inductive CisState where
  | idle
  | configuringGroup
  | connecting
  | openingDataPath
  | streaming
  | failed (status : UInt8)
deriving DecidableEq

structure CisCentral where
  config : CisConfig
  state : CisState := .idle
  aclHandle : UInt16 := 0
  cisHandle : Option UInt16 := none
  txSequence : UInt16 := 0

namespace CisCentral
variable (central : CisCentral)

def cigParameters : Bytes :=
  let config := central.config
  let interval := (u32ToLeBytes config.sduIntervalUs).take 3
  let latency := U16.toLeBytes config.maxTransportLatencyMs
  config.cigId :: interval ++ interval ++ [0x00, 0x00, 0x00] ++ latency ++ latency ++ [0x01] ++
    config.cisId :: U16.toLeBytes config.maxSdu ++ U16.toLeBytes 0 ++
    [config.phy, config.phy, config.retransmissions, config.retransmissions]

def start (aclHandle : UInt16) : List Bytes × CisCentral :=
  ([command (U16.toLeBytes IsoOpcode.leSetCigParameters) central.cigParameters],
    { central with aclHandle, state := .configuringGroup })

def inputDataPath : Bytes :=
  U16.toLeBytes (central.cisHandle.getD 0) ++
    [0x00, 0x00, 0x03, 0x00, 0x00, 0x00, 0x00, 0x00, 0x00, 0x00, 0x00]

def onCigConfigured : Bytes → List Bytes × CisCentral
  | [] => ([], central)
  | status :: rest =>
    if status ≠ 0x00 then ([], { central with state := .failed status }) else
    match rest with
    | _ :: _ :: low :: high :: _ =>
      let cisHandle := U16.fromLeBytes low high
      ([command (U16.toLeBytes IsoOpcode.leCreateCis)
          (0x01 :: U16.toLeBytes cisHandle ++ U16.toLeBytes central.aclHandle)],
        { central with cisHandle := some cisHandle, state := .connecting })
    | _ => ([], { central with state := .failed 0xFF })

def onCisEstablished (status : UInt8) (handle : UInt16) : List Bytes × CisCentral :=
  if status ≠ 0x00 then ([], { central with state := .failed status }) else
  let opening := { central with cisHandle := some handle, state := .openingDataPath }
  ([command (U16.toLeBytes IsoOpcode.leSetupIsoDataPath) opening.inputDataPath], opening)

/-- The arms of `on_packet`. -/
def onEvent : Hci.HciEvent → List Bytes × CisCentral
  | .commandComplete header returnParameters =>
    if header.commandOpcode = IsoOpcode.leSetCigParameters ∧ central.state = .configuringGroup then
      central.onCigConfigured returnParameters
    else if header.commandOpcode = IsoOpcode.leSetupIsoDataPath ∧
        central.state = .openingDataPath then ([], { central with state := .streaming })
    else ([], central)
  | event => match leCisEstablished event with
    | some (status, handle) =>
      if central.state = .connecting then central.onCisEstablished status handle
      else ([], central)
    | none => ([], central)

def onPacket (packet : Bytes) : List Bytes × CisCentral :=
  match Hci.HciEvent.parseH4 packet with
  | none => ([], central)
  | some event => central.onEvent event

def sendSdu (sdu : Bytes) : Option Bytes × CisCentral :=
  if central.state ≠ .streaming then (none, central) else
  match central.cisHandle with
  | none => (none, central)
  | some handle => (some (buildIsoPacket handle central.txSequence sdu),
      { central with txSequence := central.txSequence + 1 })

def reset : CisCentral := { central with state := .idle, cisHandle := none, txSequence := 0 }

end CisCentral

/-! ## What an event says -/

def completed (opcode : UInt16) : Hci.HciEvent → Option Bytes
  | .commandComplete header returnParameters =>
    if header.commandOpcode = opcode then some returnParameters else none
  | _ => none

def commandStatus (opcode : UInt16) : Hci.HciEvent → Option UInt8
  | .other code (status :: _ :: low :: high :: _) =>
    if code = 0x0F ∧ U16.fromLeBytes low high = opcode then some status else none
  | _ => none

def disconnected : Hci.HciEvent → Option UInt16
  | .disconnectionComplete complete => some complete.connectionHandle
  | _ => none

def givenHandle (event : Hci.HciEvent) : Option UInt16 :=
  match completed IsoOpcode.leSetCigParameters event with
  | some (status :: _ :: _ :: low :: high :: _) =>
    if status = 0x00 then some (U16.fromLeBytes low high) else none
  | _ => none

/-- Return parameters of LE Setup ISO Data Path: success, for no other handle. -/
def OpensPath (held : Option UInt16) : Bytes → Prop
  | [] => False
  | [status] | [status, _] => status = 0x00
  | status :: low :: high :: _ => status = 0x00 ∧ held = some (U16.fromLeBytes low high)

theorem OpensPath.status {held : Option UInt16} {status : UInt8} {rest : Bytes}
    (opens : OpensPath held (status :: rest)) : status = 0x00 := by
  match rest with
  | [] | [_] => exact opens
  | _ :: _ :: _ => exact opens.1

def CisState.answered : CisState → Hci.HciEvent → Option UInt8
  | .configuringGroup, event =>
    ((completed IsoOpcode.leSetCigParameters event).bind List.head?).or
      (commandStatus IsoOpcode.leSetCigParameters event)
  | .connecting, event =>
    ((leCisEstablished event).map Prod.fst).or (commandStatus IsoOpcode.leCreateCis event)
  | .openingDataPath, event =>
    ((completed IsoOpcode.leSetupIsoDataPath event).bind List.head?).or
      (commandStatus IsoOpcode.leSetupIsoDataPath event)
  | _, _ => none

/-! ## Runs -/

/-- A central, the events it has been told since its last start, and the number of SDUs
of its stream. -/
structure CisRun where
  central : CisCentral
  heard : List Hci.HciEvent := []
  sent : Nat := 0

inductive CisCall where
  | start (aclHandle : UInt16)
  | packet (octets : Bytes)
  | sendSdu (sdu : Bytes)
  | reset

namespace CisRun

def hear (run : CisRun) (event : Hci.HciEvent) : CisRun :=
  { run with central := (run.central.onEvent event).2, heard := run.heard ++ [event] }

def next (run : CisRun) : CisCall → CisRun
  | .start aclHandle => { central := (run.central.start aclHandle).2 }
  | .packet octets => { run with
      central := (run.central.onPacket octets).2,
      heard := run.heard ++ (Hci.HciEvent.parseH4 octets).toList }
  | .sendSdu sdu => { run with
      central := (run.central.sendSdu sdu).2,
      sent := run.sent + (run.central.sendSdu sdu).1.toList.length }
  | .reset => { run with central := run.central.reset, sent := 0 }

variable (run : CisRun)

/-- The controller has given the handle, and neither it nor the ACL link has ended. -/
structure Given (held : UInt16) : Prop where
  holds : run.central.cisHandle = some held
  given : ∃ event ∈ run.heard, givenHandle event = some held
  kept : ∀ event ∈ run.heard, disconnected event ≠ some held
  acl : ∀ event ∈ run.heard, disconnected event ≠ some run.central.aclHandle

def Established (held : UInt16) : Prop :=
  ∃ event ∈ run.heard, leCisEstablished event = some (0x00, held)

def Opened (held : UInt16) : Prop :=
  ∃ event ∈ run.heard, ∃ params, completed IsoOpcode.leSetupIsoDataPath event = some params ∧
    OpensPath (some held) params

/-- What one call is to keep: a stream that the controller has opened and not ended, a
refusal that is recorded, and SDUs numbered from zero. -/
structure Honest (call : CisCall) : Prop where
  streaming : (run.next call).central.state = .streaming → ∃ held, (run.next call).Given held ∧
    (run.next call).Established held ∧ (run.next call).Opened held
  refused : ∀ octets event status, call = .packet octets → Hci.HciEvent.parseH4 octets = some event →
    run.central.state.answered event = some status → status ≠ 0x00 →
    (run.next call).central.state = .failed status
  numbered : ∀ sdu packet, call = .sendSdu sdu → (run.central.sendSdu sdu).1 = some packet →
    (packet.drop 5).take 2 = U16.toLeBytes (UInt16.ofNat run.sent)

/-- The event ends neither the stream nor its link. -/
def Lives (event : Hci.HciEvent) : Prop := ∀ gone ∈ disconnected event,
  gone ≠ run.central.aclHandle ∧ some gone ≠ run.central.cisHandle

/-- No event that `on_packet` takes unchecked or not at all: a Command Status refusing the awaited
command, a refusal in LE Setup ISO Data Path, a handle other than the one given, and the end of
the stream or its link. -/
def Expected (event : Hci.HciEvent) : Prop := match run.central.state with
  | .idle | .failed _ => True
  | .configuringGroup =>
    (∀ status ∈ commandStatus IsoOpcode.leSetCigParameters event, status = 0x00) ∧
    disconnected event ≠ some run.central.aclHandle ∧
    ∀ handle ∈ givenHandle event, ∀ before ∈ run.heard, disconnected before ≠ some handle
  | .connecting =>
    (∀ status ∈ commandStatus IsoOpcode.leCreateCis event, status = 0x00) ∧
    run.Lives event ∧
    ∀ made ∈ leCisEstablished event, made.1 = 0x00 → run.central.cisHandle = some made.2
  | .openingDataPath =>
    (∀ status ∈ commandStatus IsoOpcode.leSetupIsoDataPath event, status = 0x00) ∧
    run.Lives event ∧
    ∀ params ∈ completed IsoOpcode.leSetupIsoDataPath event,
      OpensPath run.central.cisHandle params
  | .streaming => run.Lives event

def Meets : CisCall → Prop
  | .start _ => run.central.txSequence = 0
  | .packet octets => ∀ event ∈ Hci.HciEvent.parseH4 octets, run.Expected event
  | .sendSdu _ | .reset => True

/-! ## One call -/

def Faithful : Prop := match run.central.state with
  | .idle | .failed _ => True
  | .configuringGroup => ∀ event ∈ run.heard, disconnected event ≠ some run.central.aclHandle
  | .connecting => ∃ held, run.Given held
  | .openingDataPath => ∃ held, run.Given held ∧ run.Established held
  | .streaming => ∃ held, run.Given held ∧ run.Established held ∧ run.Opened held

structure Sound : Prop where
  faithful : run.Faithful
  numbered : run.central.txSequence = UInt16.ofNat run.sent

end CisRun

open IsoOpcode

namespace CisCentral
variable (central : CisCentral) (event : Hci.HciEvent)

theorem onEvent_eq : central.onEvent event = match central.state with
    | .configuringGroup => (completed leSetCigParameters event).elim ([], central)
        central.onCigConfigured
    | .connecting => (leCisEstablished event).elim ([], central)
        fun made => central.onCisEstablished made.1 made.2
    | .openingDataPath => (completed leSetupIsoDataPath event).elim ([], central)
        fun _ => ([], { central with state := .streaming })
    | _ => ([], central) := by
  cases event with
  | commandComplete header params =>
    simp only [onEvent, completed, leCisEstablished]
    cases state : central.state <;> simp <;> split <;> rfl
  | lowEnergy subevent params =>
    simp only [onEvent]
    cases leCisEstablished (.lowEnergy subevent params) <;> cases central.state <;>
      simp [completed]
  | _ => cases state : central.state <;> rfl

theorem onCigConfigured_cases (params : Bytes) :
    (central.onCigConfigured params).2 = central ∨
    (∃ status, (central.onCigConfigured params).2 = { central with state := .failed status }) ∨
    ∃ group count low high more, params = 0x00 :: group :: count :: low :: high :: more ∧
      (central.onCigConfigured params).2 =
        { central with cisHandle := some (U16.fromLeBytes low high), state := .connecting } := by
  match params with
  | [] => exact .inl rfl
  | status :: rest =>
    simp only [onCigConfigured]
    split
    · exact .inr (.inl ⟨status, rfl⟩)
    · rename_i accepted
      rw [not_not.mp accepted]
      split
      · exact .inr (.inr ⟨_, _, _, _, _, rfl, rfl⟩)
      · exact .inr (.inl ⟨0xFF, rfl⟩)

theorem onEvent_txSequence : (central.onEvent event).2.txSequence = central.txSequence := by
  rw [onEvent_eq]
  split
  · cases completed leSetCigParameters event with
    | none => rfl
    | some params =>
      rcases central.onCigConfigured_cases params with
        same | ⟨status, failed⟩ | ⟨_, _, _, _, _, -, connects⟩
      · rw [Option.elim_some, same]
      · rw [Option.elim_some, failed]
      · rw [Option.elim_some, connects]
  · cases leCisEstablished event with
    | none => rfl
    | some made => simp only [Option.elim_some, onCisEstablished]; split <;> rfl
  · cases completed leSetupIsoDataPath event <;> rfl
  · rfl

end CisCentral

namespace CisRun
variable {run : CisRun} {event : Hci.HciEvent} {held : UInt16}

theorem Given.hear (given : run.Given held) (lives : run.Lives event)
    (same : (run.central.onEvent event).2.cisHandle = run.central.cisHandle)
    (link : (run.central.onEvent event).2.aclHandle = run.central.aclHandle) :
    (run.hear event).Given held where
  holds := same.trans given.holds
  given := by
    obtain ⟨said, member, gives⟩ := given.given
    exact ⟨said, mem_append_left _ member, gives⟩
  kept said member gone := by
    rcases mem_append.mp member with before | now
    · exact given.kept said before gone
    · rw [mem_singleton.mp now] at gone
      exact (lives held gone).2 given.holds.symm
  acl said member gone := by
    rw [CisRun.hear, link] at gone
    rcases mem_append.mp member with before | now
    · exact given.acl said before gone
    · rw [mem_singleton.mp now] at gone
      exact (lives _ gone).1 rfl

theorem Established.hear (established : run.Established held) :
    (run.hear event).Established held := by
  obtain ⟨said, member, made⟩ := established
  exact ⟨said, mem_append_left _ member, made⟩

theorem Opened.hear (opened : run.Opened held) : (run.hear event).Opened held := by
  obtain ⟨said, member, answer⟩ := opened
  exact ⟨said, mem_append_left _ member, answer⟩

theorem hear_faithful (faithful : run.Faithful) (expected : run.Expected event) :
    (run.hear event).Faithful := by
  have eq := run.central.onEvent_eq event
  have after : (run.hear event).central = (run.central.onEvent event).2 := rfl
  have now : event ∈ (run.hear event).heard := mem_append_right _ mem_cons_self
  unfold Faithful at faithful
  unfold Expected at expected
  cases state : run.central.state with
  | idle | failed =>
    simp only [Faithful, after, eq, state]
  | streaming =>
    simp only [state] at eq faithful expected
    obtain ⟨held, given, established, opened⟩ := faithful
    have kept : (run.hear event).Given held := given.hear expected (by rw [eq]) (by rw [eq])
    simp only [Faithful, after, eq, state]
    exact ⟨held, kept, established.hear, opened.hear⟩
  | configuringGroup =>
    simp only [state] at eq faithful expected
    obtain ⟨-, lives, fresh⟩ := expected
    have alive : ∀ said ∈ (run.hear event).heard, disconnected said ≠ some run.central.aclHandle := by
      intro said member
      rcases mem_append.mp member with before | same
      · exact faithful said before
      · rwa [mem_singleton.mp same]
    cases answer : completed leSetCigParameters event with
    | none =>
      rw [answer, Option.elim_none] at eq
      simp only [Faithful, after, eq, state]
      exact alive
    | some params =>
      rw [answer, Option.elim_some] at eq
      rcases run.central.onCigConfigured_cases params with
        same | ⟨status, failed⟩ | ⟨_, _, low, high, _, rfl, connects⟩
      · simp only [Faithful, after, eq, same, state]
        exact alive
      · simp only [Faithful, after, eq, failed]
      · have gives : givenHandle event = some (U16.fromLeBytes low high) := by
          rw [givenHandle, answer]
          rfl
        simp only [Faithful, after, eq, connects]
        refine ⟨_, by rw [after, eq, connects], ⟨event, now, gives⟩, ?_, ?_⟩
        · intro said member
          rcases mem_append.mp member with before | same
          · exact fresh _ gives said before
          · rw [mem_singleton.mp same]
            cases event <;> first | cases answer | simp [disconnected]
        · rw [after, eq, connects]
          exact alive
  | connecting =>
    simp only [state] at eq faithful expected
    obtain ⟨held, given⟩ := faithful
    obtain ⟨-, lives, named⟩ := expected
    cases made : leCisEstablished event with
    | none =>
      rw [made, Option.elim_none] at eq
      have kept : (run.hear event).Given held := given.hear lives (by rw [eq]) (by rw [eq])
      simp only [Faithful, after, eq, state]
      exact ⟨held, kept⟩
    | some answer =>
      obtain ⟨status, handle⟩ := answer
      rw [made, Option.elim_some] at eq
      unfold CisCentral.onCisEstablished at eq
      by_cases refused : status ≠ 0x00
      · simp only [Faithful, after, eq, if_pos refused]
      · rw [if_neg refused] at eq
        have same := named _ made (not_not.mp refused)
        have kept : (run.hear event).Given held :=
          given.hear lives (by rw [eq]; exact same.symm) (by rw [eq])
        simp only [Faithful, after, eq]
        have handle_eq : handle = held := Option.some.inj (same.symm.trans given.holds)
        exact ⟨held, kept, event, now, by rw [made, not_not.mp refused, handle_eq]⟩
  | openingDataPath =>
    simp only [state] at eq faithful expected
    obtain ⟨held, given, established⟩ := faithful
    obtain ⟨-, lives, opens⟩ := expected
    cases answer : completed leSetupIsoDataPath event with
    | none =>
      rw [answer, Option.elim_none] at eq
      have kept : (run.hear event).Given held := given.hear lives (by rw [eq]) (by rw [eq])
      simp only [Faithful, after, eq, state]
      exact ⟨held, kept, established.hear⟩
    | some params =>
      rw [answer, Option.elim_some] at eq
      have kept : (run.hear event).Given held := given.hear lives (by rw [eq]) (by rw [eq])
      simp only [Faithful, after, eq]
      exact ⟨held, kept, established.hear, event, now, params, answer,
        given.holds ▸ opens params answer⟩

theorem hear_refused (expected : run.Expected event) {status : UInt8}
    (answer : run.central.state.answered event = some status) (refused : status ≠ 0x00) :
    (run.hear event).central.state = .failed status := by
  have eq := run.central.onEvent_eq event
  rw [CisRun.hear, eq]
  unfold Expected at expected
  cases state : run.central.state with
  | configuringGroup =>
    simp only [state, CisState.answered, Option.or_eq_some_iff] at expected answer ⊢
    rcases answer with answer | ⟨-, answer⟩
    · obtain ⟨params, complete, head⟩ := Option.bind_eq_some_iff.mp answer
      cases params with
      | nil => cases head
      | cons first rest =>
        rw [complete, Option.some.inj head]
        simp only [Option.elim_some, CisCentral.onCigConfigured, if_pos refused]
    · exact absurd (expected.1 status answer) refused
  | connecting =>
    simp only [state, CisState.answered, Option.or_eq_some_iff] at expected answer ⊢
    rcases answer with answer | ⟨-, answer⟩
    · obtain ⟨made, established, head⟩ := Option.map_eq_some_iff.mp answer
      rw [established, Option.elim_some, CisCentral.onCisEstablished, head, if_pos refused]
    · exact absurd (expected.1 status answer) refused
  | openingDataPath =>
    simp only [state, CisState.answered, Option.or_eq_some_iff] at expected answer ⊢
    rcases answer with answer | ⟨-, answer⟩
    · obtain ⟨params, complete, head⟩ := Option.bind_eq_some_iff.mp answer
      cases params with
      | nil => cases head
      | cons first rest =>
        exact absurd (Option.some.inj head ▸ (expected.2.2 _ complete).status) refused
    · exact absurd (expected.1 status answer) refused
  | _ => rw [state] at answer; cases answer

theorem next_packet {octets : Bytes} (parsed : Hci.HciEvent.parseH4 octets = some event) :
    run.next (.packet octets) = run.hear event := by
  simp only [next, hear, CisCentral.onPacket, parsed, Option.toList_some]

theorem next_unreadable {octets : Bytes} (unread : Hci.HciEvent.parseH4 octets = none) :
    run.next (.packet octets) = run := by
  simp only [next, CisCentral.onPacket, unread, Option.toList_none, append_nil]

theorem next_sound (sound : run.Sound) {call : CisCall} (meets : run.Meets call) :
    (run.next call).Sound := by
  obtain ⟨faithful, numbered⟩ := sound
  cases call with
  | start acl => exact ⟨by simp [next, Faithful, CisCentral.start], meets⟩
  | reset => exact ⟨trivial, rfl⟩
  | packet octets =>
    cases parsed : Hci.HciEvent.parseH4 octets with
    | none =>
      rw [next_unreadable parsed]
      exact ⟨faithful, numbered⟩
    | some event =>
      rw [next_packet parsed]
      exact ⟨hear_faithful faithful (meets event parsed),
        (run.central.onEvent_txSequence event).trans numbered⟩
  | sendSdu sdu =>
    simp only [next, CisCentral.sendSdu]
    split
    · exact ⟨faithful, numbered⟩
    · rename_i streams
      have state := not_not.mp streams
      split
      · exact ⟨faithful, numbered⟩
      · simp only [Faithful, state] at faithful
        obtain ⟨held, given, established, opened⟩ := faithful
        refine ⟨?_, by simp [numbered, UInt16.ofNat_add]⟩
        simp only [Faithful, state]
        exact ⟨held, ⟨given.holds, given.given, given.kept, given.acl⟩, established, opened⟩

theorem honest_of_meets (sound : run.Sound) {call : CisCall} (meets : run.Meets call) :
    run.Honest call where
  streaming state := by
    have faithful := (next_sound sound meets).faithful
    rwa [Faithful, state] at faithful
  refused octets event status same parsed answer refused := by
    subst same
    rw [next_packet parsed]
    exact hear_refused (meets event parsed) answer refused
  numbered sdu packet same sent := by
    unfold CisCentral.sendSdu at sent
    split at sent
    · cases sent
    · split at sent
      · cases sent
      · rw [← Option.some.inj sent, ← sound.numbered]
        rfl

/-- The stream's state is honest along every run in which no unexpected event comes and
each stream is begun with a fresh sequence number. -/
theorem honest_along (config : CisConfig) (calls : List CisCall)
    (meets : Along next Meets { central := { config } } calls) :
    Along next Honest { central := { config } } calls :=
  Along.mono (fun _ _ sound meets => honest_of_meets sound meets)
    (fun _ _ sound meets => next_sound sound meets) ⟨trivial, rfl⟩ meets

/-- A stream set up by the controller, with the status that LE Setup ISO Data Path returns. -/
def setup (status : UInt8) : List CisCall := [.start 0x0040,
  .packet [0x04, 0x0E, 0x09, 0x01, 0x62, 0x20, 0x00, 0x01, 0x01, 0x00, 0x0E],
  .packet [0x04, 0x3E, 0x04, 0x19, 0x00, 0x00, 0x0E],
  .packet [0x04, 0x0E, 0x06, 0x01, 0x6E, 0x20, status, 0x00, 0x0E], .sendSdu [0xAA]]

theorem setup_honest : Along next Honest { central := { config := {} } } (setup 0x00) := by
  refine honest_along {} (setup 0x00) ⟨rfl, ?_, ?_, ?_, trivial, trivial⟩
  · intro event parsed
    obtain rfl : Hci.HciEvent.commandComplete ⟨0x01, 0x2062⟩ [0x00, 0x01, 0x01, 0x00, 0x0E] = event :=
      Option.some.inj parsed
    exact ⟨nofun, nofun, fun _ _ _ => nofun⟩
  · intro event parsed
    obtain rfl : Hci.HciEvent.lowEnergy 0x19 [0x19, 0x00, 0x00, 0x0E] = event :=
      Option.some.inj parsed
    refine ⟨nofun, nofun, fun made same _ => ?_⟩
    obtain rfl : (0x00, 0x0E00) = made := Option.some.inj same
    rfl
  · intro event parsed
    obtain rfl : Hci.HciEvent.commandComplete ⟨0x01, 0x206E⟩ [0x00, 0x00, 0x0E] = event :=
      Option.some.inj parsed
    refine ⟨nofun, nofun, fun params same => ?_⟩
    obtain rfl : [0x00, 0x00, 0x0E] = params := Option.some.inj same
    exact ⟨rfl, rfl⟩

theorem refused_path_streams : ¬ ∀ config calls,
    Along next Honest { central := { config } } calls := by
  intro always
  obtain ⟨-, -, -, answered, -⟩ := always {} (setup 0x0C)
  have failed := answered.refused _ _ 0x0C rfl rfl rfl (by decide)
  exact absurd failed (by decide)

end CisRun
end Simble.Device
