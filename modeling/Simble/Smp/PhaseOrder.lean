import Simble.Smp.Failure

/-! The order in which PDUs take effect. No handler looks at the recorded phase, so a PDU of the
handshake that comes outside its phase is let through by what it says: it leaves the session alone
exactly if the handler's own checks refuse it or it repeats what the session holds. -/
namespace Simble.Smp
open Simble.Lib Simble.Crypto PairingSession

variable {curve : P256}

def Command.awaitedIn : Command → Option Phase
  | .pairingRequest => some .idle
  | .pairingResponse => some .waitPairingResponse
  | .pairingPublicKey => some .waitPeerPublicKey
  | .pairingConfirm => some .waitPeerConfirm
  | .pairingRandom => some .waitPeerRandom
  | .pairingDhkeyCheck => some .waitPeerDhKeyCheck
  | _ => none

def commandOf (pdu : Bytes) : Option Command := pdu.head?.bind Command.ofOpcode

/-- One call of `handle_pdu`, with what it returned. -/
structure Handled where
  draws : Draws
  pdu : Bytes
  answer : Option Bytes

def Handles (s : PairingSession curve) (handled : Handled) (t : PairingSession curve) : Prop :=
  s.handlePdu handled.draws handled.pdu = .ok (handled.answer, t)

/-- A command on the link, as the session sees it. -/
inductive Pass where
  | sent (command : Command)
  | received (command : Command)

/-- The peer's PDU comes before the session's answer to it. -/
def Handled.exchanges (handled : Handled) : List Pass :=
  (commandOf handled.pdu).toList.map .received ++ (handled.answer.bind commandOf).toList.map .sent

/-- What has to come before encryption. But for the feature exchange only the peer's PDUs count,
and a responder under Secure Connections awaits no Pairing Confirm. -/
def order : Role → Bool → List Pass
  | .responder, true =>
    [.received .pairingRequest, .sent .pairingResponse, .received .pairingPublicKey,
      .received .pairingRandom, .received .pairingDhkeyCheck]
  | .responder, false =>
    [.received .pairingRequest, .sent .pairingResponse, .received .pairingConfirm,
      .received .pairingRandom]
  | .initiator, true =>
    [.sent .pairingRequest, .received .pairingResponse, .received .pairingPublicKey,
      .received .pairingConfirm, .received .pairingRandom, .received .pairingDhkeyCheck]
  | .initiator, false =>
    [.sent .pairingRequest, .received .pairingResponse, .received .pairingConfirm,
      .received .pairingRandom]

namespace PairingSession
variable (session : PairingSession curve)

/-- A PDU of the handshake that the session's phase does not wait for. -/
def OutOfPhase (pdu : Bytes) : Prop :=
  ∃ command phase, commandOf pdu = some command ∧ command.awaitedIn = some phase ∧
    session.phase ≠ phase

/-- A PDU of the handshake out of its phase does not pass the handler's own checks, or it says what
the session holds and sets the phase that the session is in. -/
def KeepsPhase (handled : Handled) : Prop :=
  session.failed = false → session.OutOfPhase handled.pdu → session.Refuses handled.pdu ∨
    ∃ command, commandOf handled.pdu = some command ∧
      session.phase = nextPhase session.role session.sc command ∧
      session.Holds handled.draws handled.pdu command

/-- Neither the negotiated features nor a key nor the phase differs. -/
structure Untouched (t : PairingSession curve) : Prop where
  preq : t.preq = session.preq
  pres : t.pres = session.pres
  sc : t.sc = session.sc
  phase : t.phase = session.phase
  secrets : t.tk = session.tk ∧ t.stk = session.stk ∧ t.dhKey = session.dhKey ∧
    t.ltk = session.ltk ∧ t.ea = session.ea ∧ t.eb = session.eb
  bonded : t.localBondedLtk = session.localBondedLtk ∧ t.peerLtk = session.peerLtk ∧
    t.peerIrk = session.peerIrk ∧ t.peerCsrk = session.peerCsrk
  publicKeys : t.localPubX = session.localPubX ∧ t.localPubY = session.localPubY ∧
    t.peerPubX = session.peerPubX ∧ t.peerPubY = session.peerPubY

/-- A session that may hear PDUs: a responder as it is created, or an initiator
that has started. `said` is what it has sent before. -/
inductive Listening : PairingSession curve → List Pass → Prop
  | responder {session : PairingSession curve} {config : PairingConfig} :
    session.Fresh .responder config → Listening session []
  | initiator {fresh session : PairingSession curve} {config : PairingConfig} {request : Bytes} :
    fresh.Fresh .initiator config → fresh.start = .ok (request, session) →
    Listening session [.sent .pairingRequest]

/-- What the phase says has been exchanged. -/
def progress : Role → Bool → Phase → Option (List Pass)
  | .responder, _, .idle => some []
  | .initiator, _, .waitPairingResponse => some [.sent .pairingRequest]
  | role, true, .waitPeerPublicKey => some ((order role true).take 2)
  | .initiator, true, .waitPeerConfirm => some ((order .initiator true).take 3)
  | role, false, .waitPeerConfirm => some ((order role false).take 2)
  | .responder, true, .waitPeerRandom => some ((order .responder true).take 3)
  | .initiator, true, .waitPeerRandom => some ((order .initiator true).take 4)
  | role, false, .waitPeerRandom => some ((order role false).take 3)
  | .responder, true, .waitPeerDhKeyCheck => some ((order .responder true).take 4)
  | .initiator, true, .waitPeerDhKeyCheck => some ((order .initiator true).take 5)
  | role, sc, .complete => some (order role sc)
  | _, _, _ => none

structure Standing (exchanged : List Pass) : Prop where
  encrypted : session.isEncrypted = true ↔ session.phase = .complete
  reached : ∃ done, progress session.role session.sc session.phase = some done ∧
    done.Sublist exchanged
  mute : session.phase = .idle → session.pending = []

/-- The link was not encrypted before the exchange was over. -/
def EncryptedInOrder (exchanged : List Pass) : Prop :=
  session.isEncrypted = true → (order session.role session.sc).Sublist exchanged

section Step
variable {session t : PairingSession curve}

variable {handled : Handled}

theorem handles_eq_ok (handles : Handles session handled t) :
    ∃ after, session.step handled.draws handled.pdu = .ok after ∧
      handled.answer = after.pending.head? ∧ t = after.pollPending.2 := by
  obtain ⟨after, stepped, polled⟩ := Rust.bind_eq_ok.mp handles
  obtain ⟨answer, rest⟩ := Prod.mk.inj (Except.ok.inj polled)
  exact ⟨after, stepped, answer.symm, rest.symm⟩

theorem handles_of_step {draws : Draws} {pdu : Bytes} {after : PairingSession curve}
    (stepped : session.step draws pdu = .ok after) :
    Handles session ⟨draws, pdu, after.pending.head?⟩ after.pollPending.2 :=
  Rust.bind_eq_ok.mpr ⟨_, stepped, rfl⟩

theorem keepsPhase_of_awaited (command : Command) (named : commandOf handled.pdu = some command)
    (awaited : command.awaitedIn = some session.phase) : session.KeepsPhase handled := by
  rintro - ⟨other, phase, again, waits, out⟩
  obtain rfl := Option.some.inj (named.symm.trans again)
  exact absurd (Option.some.inj (awaited.symm.trans waits)) out

theorem handles_failed (failed : session.failed = true) (handles : Handles session handled t) :
    t = session.pollPending.2 := by
  have ignored := (handlePdu_failed failed handled.draws handled.pdu).symm.trans handles
  exact (congrArg Prod.snd (Except.ok.inj ignored)).symm

theorem scAfter_le (session : PairingSession curve) (pdu : Bytes) : session.scAfter pdu = session.sc ∨
    session.role = .initiator ∧ session.sc = true ∧ session.scAfter pdu = false := by
  unfold scAfter
  split
  · rename_i both
    cases parsed : parsePairingParameters pdu with
    | none => exact .inl rfl
    | some resp =>
      show session.agreedSc resp = session.sc ∨ _ ∧ _ ∧ session.agreedSc resp = false
      unfold agreedSc
      cases secure : session.sc with
      | false => exact .inl rfl
      | true =>
        cases asked : resp.authReq &&& AuthReq.sc != 0 with
        | false => exact .inr ⟨both.2, rfl, rfl⟩
        | true => exact .inl rfl
  · exact .inl rfl

variable {exchanged : List Pass}

theorem Standing.inOrder (standing : session.Standing exchanged) :
    session.EncryptedInOrder exchanged := by
  intro encrypted
  obtain ⟨done, reached, sublist⟩ := standing.reached
  rw [standing.encrypted.mp encrypted] at reached
  cases role : session.role <;> cases secure : session.sc <;> rw [role, secure] at reached <;>
    exact Option.some.inj reached ▸ sublist

/-- A failure does not bring the order forward: it leaves the flags, or drops
the one for Secure Connections. -/
theorem EncryptedInOrder.fails {after : PairingSession curve} {pdu : Bytes} {left : List Bytes}
    (inOrder : session.EncryptedInOrder exchanged)
    (fails : session.FailedInto after (session.scAfter pdu) left) :
    after.pollPending.2.EncryptedInOrder exchanged := by
  intro encrypted
  have before := inOrder (fails.encrypted.symm.trans encrypted)
  show (order after.role after.sc).Sublist exchanged
  rw [fails.role, fails.sc]
  rcases scAfter_le session pdu with same | ⟨initiator, secure, dropped⟩
  · rw [same]
    exact before
  · rw [initiator, secure] at before
    rw [initiator, dropped]
    exact List.Sublist.trans (.cons_cons _ (.cons_cons _ (.cons _ (.cons_cons _ (.cons_cons _
      (.cons _ .slnil)))))) before

theorem EncryptedInOrder.mono {exchanged more : List Pass}
    (inOrder : session.EncryptedInOrder exchanged) (longer : exchanged.Sublist more) :
    session.EncryptedInOrder more :=
  fun encrypted => (inOrder encrypted).trans longer

theorem Standing.mono {exchanged more : List Pass} (standing : session.Standing exchanged)
    (longer : exchanged.Sublist more) : session.Standing more :=
  let ⟨encrypted, ⟨done, reached, sublist⟩, mute⟩ := standing
  ⟨encrypted, ⟨done, reached, sublist.trans longer⟩, mute⟩

/-- A handler of the handshake sets its phase, and the flag with the last one. -/
theorem AdvancesTo.next {command : Command} {phase : Phase} (advanced : session.AdvancesTo t command)
    (awaited : command.awaitedIn = some phase) :
    t.phase = nextPhase session.role t.sc command ∧
      (t.sc = session.sc ∨ command = .pairingRequest ∨ command = .pairingResponse) ∧
      (t.isEncrypted = session.isEncrypted ∧ t.phase ≠ .complete ∨
        t.isEncrypted = true ∧ t.phase = .complete) := by
  obtain ⟨-, -, advances⟩ := advanced
  cases command with
  | pairingRequest | pairingResponse =>
    obtain ⟨encrypted, phase⟩ := advances
    refine ⟨phase, .inr (by simp), .inl ⟨encrypted, ?_⟩⟩
    rw [phase]
    split <;> exact Phase.noConfusion
  | pairingPublicKey =>
    obtain ⟨encrypted, sc, phase⟩ := advances
    refine ⟨phase, .inl sc, .inl ⟨encrypted, ?_⟩⟩
    rw [phase]
    split <;> exact Phase.noConfusion
  | pairingConfirm =>
    obtain ⟨encrypted, sc, phase⟩ := advances
    exact ⟨phase, .inl sc, .inl ⟨encrypted, phase ▸ Phase.noConfusion⟩⟩
  | pairingRandom =>
    obtain ⟨sc, advances⟩ := advances
    rw [sc]
    split at advances
    case isTrue secure =>
      exact ⟨advances.2.trans (if_pos secure).symm, .inl rfl,
        .inl ⟨advances.1, advances.2 ▸ Phase.noConfusion⟩⟩
    case isFalse legacy => exact ⟨advances.2.trans (if_neg legacy).symm, .inl rfl, .inr advances⟩
  | pairingDhkeyCheck =>
    obtain ⟨sc, encrypted, phase⟩ := advances
    exact ⟨phase, .inl sc, .inr ⟨encrypted, phase⟩⟩
  | _ => cases awaited

theorem nextPhase_ne_idle (role : Role) (sc : Bool) (command : Command) :
    nextPhase role sc command ≠ .idle := by
  cases role <;> cases sc <;> cases command <;> exact Phase.noConfusion

/-- What a PDU of the handshake adds to the exchange in its phase. -/
theorem progress_next {role : Role} {sc after : Bool} {command : Command} {phase : Phase}
    {done : List Pass} (awaited : command.awaitedIn = some phase)
    (reached : progress role sc phase = some done)
    (same : after = sc ∨ command = .pairingRequest ∨ command = .pairingResponse) :
    progress role after (nextPhase role after command) = some (done ++ .received command ::
      if command = .pairingRequest then [.sent .pairingResponse] else []) := by
  cases command <;> cases awaited <;> cases role <;> cases sc <;> cases after <;>
    first
      | cases reached; done
      | cases reached; rfl
      | simp at same

/-- A PDU of the handshake that leaves the session alone leaves it where it stands. -/
theorem Standing.untouched {command : Command} {phase : Phase}
    (standing : session.Standing exchanged) (advanced : session.AdvancesTo t command)
    (awaited : command.awaitedIn = some phase) (same : session.Untouched t.pollPending.2) :
    t.pollPending.2.Standing exchanged := by
  obtain ⟨next, -, encrypted⟩ := advanced.next awaited
  have at' : t.phase = session.phase := same.phase
  refine ⟨?_, ?_, fun idle => absurd (next.symm.trans idle) (nextPhase_ne_idle _ _ _)⟩
  · show t.isEncrypted = true ↔ t.phase = .complete
    rcases encrypted with ⟨kept, -⟩ | both
    · rw [kept, at']
      exact standing.encrypted
    · exact iff_of_true both.1 both.2
  · show ∃ done, progress t.role t.sc t.phase = some done ∧ _
    rw [advanced.role, show t.sc = session.sc from same.sc, at']
    exact standing.reached

/-- A key of the peer's comes after encryption, and leaves the session where it stands. -/
theorem Standing.keyed {command : Command} {pdu : Bytes} (standing : session.Standing exchanged)
    (advanced : session.AdvancesTo t command) (other : command.awaitedIn = none)
    (accepted : ¬ session.RefusesCommand pdu command) (pending : List Bytes) :
    { t with pending }.Standing exchanged := by
  obtain ⟨-, role, advances⟩ := advanced
  have kept {α : Type} {parsed : Option α}
      (good : ¬ Bad parsed fun _ => session.RefusesKey command) : session.isEncrypted = true := by
    obtain ⟨value, -, allowed⟩ := not_bad good
    exact Bool.eq_true_of_not_eq_false (not_or.mp allowed).1
  cases command with
  | encryptionInfo | masterIdentification | identityInfo | identityAddrInfo | signingInfo =>
    obtain ⟨encrypted, sc, phase⟩ := advances
    have complete := standing.encrypted.mp (kept accepted)
    refine ⟨iff_of_true (encrypted.trans (kept accepted)) (phase.trans complete), ?_,
      fun idle => absurd ((phase.trans complete).symm.trans idle) Phase.noConfusion⟩
    show ∃ done, progress t.role t.sc t.phase = some done ∧ _
    rw [role, sc, phase]
    exact standing.reached
  | pairingFailed | securityRequest | keypressNotification => exact advances.elim
  | _ => cases other

theorem Standing.advances {command : Command} {phase : Phase} {answers : List Pass}
    (standing : session.Standing exchanged) (advanced : session.AdvancesTo t command)
    (awaited : command.awaitedIn = some phase) (inPhase : session.phase = phase)
    (answered : command = Command.pairingRequest → answers = [.sent .pairingResponse])
    (pending : List Bytes) :
    { t with pending }.Standing (exchanged ++ Pass.received command :: answers) := by
  obtain ⟨done, reached, sublist⟩ := standing.reached
  obtain ⟨next, same, encrypted⟩ := advanced.next awaited
  rw [inPhase] at reached
  have reached := progress_next awaited reached same
  rw [← next, ← advanced.role] at reached
  refine ⟨?_, ⟨_, reached, sublist.append (.cons_cons _ ?_)⟩, fun idle => ?_⟩
  · rcases encrypted with ⟨kept, early⟩ | both
    · refine iff_of_false (fun on => ?_) early
      have complete := standing.encrypted.mp (kept.symm.trans on)
      rw [← inPhase, complete] at awaited
      cases command <;> cases awaited
    · exact iff_of_true both.1 both.2
  · split
    case isTrue request => exact answered request ▸ .refl _
    case isFalse => exact List.nil_sublist _
  · have idle : t.phase = .idle := idle
    exact absurd (next.symm.trans idle) (nextPhase_ne_idle _ _ _)

/-- A PDU of the handshake that is let through leaves the session alone exactly if it says what the
session holds. -/
theorem Heard.untouched_iff {draws : Draws} {pdu : Bytes} {command : Command} {phase : Phase}
    (heard : session.Heard draws pdu command t) (awaited : command.awaitedIn = some phase)
    (pending : List Bytes) : session.Untouched { t with pending } ↔
      session.phase = nextPhase session.role session.sc command ∧ session.Holds draws pdu command := by
  have sets {sc : Bool} (same : sc = session.sc) :
      nextPhase session.role sc command = nextPhase session.role session.sc command := same ▸ rfl
  cases heard with
  | @features _ _ _ _ sc _ _ _ _ _ _ _ feature _ set holds =>
    have set := set.trans (show _ = nextPhase session.role sc command by
      rcases feature with rfl | rfl <;> rfl)
    constructor
    · intro same
      exact ⟨same.phase.symm.trans (set.trans (sets same.sc)),
        holds.mp ⟨same.preq.symm, same.pres.symm, same.sc.symm⟩⟩
    · rintro ⟨phase, held⟩
      obtain ⟨rfl, rfl, rfl⟩ := holds.mpr held
      exact ⟨rfl, rfl, rfl, set.trans phase.symm, ⟨rfl, rfl, rfl, rfl, rfl, rfl⟩, ⟨rfl, rfl, rfl, rfl⟩,
        ⟨rfl, rfl, rfl, rfl⟩⟩
  | confirm =>
    exact ⟨fun same => ⟨same.phase.symm, trivial⟩, fun both => ⟨rfl, rfl, rfl, both.1.symm,
      ⟨rfl, rfl, rfl, rfl, rfl, rfl⟩, ⟨rfl, rfl, rfl, rfl⟩, ⟨rfl, rfl, rfl, rfl⟩⟩⟩
  | randomSc secure holds =>
    have set : nextPhase session.role session.sc .pairingRandom = .waitPeerDhKeyCheck := if_pos secure
    rw [set]
    constructor
    · intro same
      exact ⟨same.phase.symm, holds.mp ⟨same.secrets.2.2.2.1.symm, same.secrets.2.2.2.2.1.symm,
        same.secrets.2.2.2.2.2.symm⟩⟩
    · rintro ⟨phase, held⟩
      obtain ⟨ltk, ea, eb⟩ := holds.mpr held
      exact ⟨rfl, rfl, rfl, phase.symm, ⟨rfl, rfl, rfl, ltk.symm, ea.symm, eb.symm⟩,
        ⟨rfl, rfl, rfl, rfl⟩, ⟨rfl, rfl, rfl, rfl⟩⟩
  | @randomLegacy value legacy holds =>
    obtain ⟨_, _, _, _, encrypted⟩ := (session.keyedLegacy draws value).onEncrypted_frame
    have set : nextPhase session.role session.sc .pairingRandom = .complete :=
      if_neg (Bool.eq_false_iff.mp legacy)
    rw [set, encrypted]
    constructor
    · intro same
      exact ⟨same.phase.symm, holds.mp ⟨same.secrets.2.1.symm, same.bonded.1.symm⟩⟩
    · rintro ⟨phase, held⟩
      obtain ⟨stk, ltk⟩ := holds.mpr held
      exact ⟨rfl, rfl, rfl, phase.symm, ⟨rfl, stk.symm, rfl, rfl, rfl, rfl⟩,
        ⟨ltk.symm, rfl, rfl, rfl⟩, ⟨rfl, rfl, rfl, rfl⟩⟩
  | publicKey _ set holds =>
    constructor
    · intro same
      exact ⟨same.phase.symm.trans set, holds.mp ⟨same.publicKeys.2.2.1.symm,
        same.publicKeys.2.2.2.symm, same.secrets.2.2.1.symm⟩⟩
    · rintro ⟨phase, held⟩
      obtain ⟨rfl, rfl, rfl⟩ := holds.mpr held
      exact ⟨rfl, rfl, rfl, set.trans phase.symm, ⟨rfl, rfl, rfl, rfl, rfl, rfl⟩, ⟨rfl, rfl, rfl, rfl⟩,
        ⟨rfl, rfl, rfl, rfl⟩⟩
  | @check queued timer =>
    obtain ⟨_, _, _, _, encrypted⟩ := { session with
      pending := queued, timerRemaining := timer }.onEncrypted_frame
    rw [encrypted]
    exact ⟨fun same => ⟨same.phase.symm, trivial⟩, fun both => ⟨rfl, rfl, rfl, both.1.symm,
      ⟨rfl, rfl, rfl, rfl, rfl, rfl⟩, ⟨rfl, rfl, rfl, rfl⟩, ⟨rfl, rfl, rfl, rfl⟩⟩⟩
  | key isKey => cases command <;> first | cases isKey; done | cases awaited

/-- The session keeps its phase exactly if the PDU out of it fails the session or leaves it as it
is. -/
theorem keepsPhase_iff (handles : Handles session handled t) (out : session.OutOfPhase handled.pdu) :
    (t.failed = true ∨ session.Untouched t) ↔ session.KeepsPhase handled := by
  cases failed : session.failed with
  | true =>
    obtain rfl := handles_failed failed handles
    exact iff_of_true (.inl failed) fun alive => absurd (failed.symm.trans alive) Bool.noConfusion
  | false =>
    obtain ⟨after, stepped, -, rfl⟩ := handles_eq_ok handles
    by_cases refused : session.Refuses handled.pdu
    · obtain ⟨other, steps, reason, fails⟩ := step_refused failed handled.draws refused
      obtain rfl := Except.ok.inj (steps.symm.trans stepped)
      exact iff_of_true (.inl fails.failed) fun _ _ => .inl refused
    · obtain ⟨command, phase, named, awaited, other⟩ := out
      obtain ⟨op, first, coded⟩ := Option.bind_eq_some_iff.mp named
      obtain ⟨rest, pdu⟩ := List.head?_eq_some_iff.mp first
      obtain rfl := Command.ofOpcode_eq_some.mp coded
      have accepted : ¬ session.RefusesCommand handled.pdu command := fun refuses =>
        refused (pdu ▸ ⟨command, coded, pdu ▸ refuses⟩)
      have dispatched : session.dispatch handled.draws handled.pdu (some command) = .ok after := by
        rw [pdu, step_command failed, ← pdu] at stepped
        exact stepped
      have heard := dispatch_hears accepted (by rintro rfl; cases awaited) dispatched
      have alive := heard.advances.alive.trans failed
      have same := heard.untouched_iff awaited after.pending.tail
      constructor
      · rintro (fails | untouched)
        · exact absurd (alive.symm.trans fails) Bool.noConfusion
        · intro _ _
          exact .inr ⟨command, named, same.mp untouched⟩
      · intro keeps
        obtain ⟨again, known, holds⟩ :=
          (keeps failed ⟨command, phase, named, awaited, other⟩).resolve_left refused
        obtain rfl := Option.some.inj (named.symm.trans known)
        exact .inr (same.mpr holds)

/-- Whatever a live session makes of a PDU that keeps its phase, it fails or
stands where the commands exchanged have taken it. -/
theorem Standing.handles (alive : session.failed = false) (standing : session.Standing exchanged)
    (keeps : session.KeepsPhase handled) (handles : Handles session handled t) :
    t.EncryptedInOrder (exchanged ++ handled.exchanges) ∧
      (t.failed = false → t.Standing (exchanged ++ handled.exchanges)) := by
  obtain ⟨after, stepped, answered, rfl⟩ := handles_eq_ok handles
  have longer := List.sublist_append_left exchanged handled.exchanges
  by_cases refused : session.Refuses handled.pdu
  · obtain ⟨other, steps, reason, fails⟩ := step_refused alive handled.draws refused
    obtain rfl := Except.ok.inj (steps.symm.trans stepped)
    refine ⟨(standing.inOrder.mono longer).fails fails, ?_⟩
    intro still
    exact absurd (fails.failed.symm.trans still) Bool.noConfusion
  by_cases failed : PeerFails handled.pdu
  · obtain ⟨other, steps, fails⟩ := step_peerFails alive handled.draws failed
    obtain rfl := Except.ok.inj (steps.symm.trans stepped)
    have same : session.scAfter handled.pdu = session.sc := by
      obtain ⟨reason, pdu⟩ := failed
      rw [pdu]
      exact if_neg fun both => absurd (Option.some.inj both.1)
        (by decide : ¬ Command.pairingFailed.opcode = Command.pairingResponse.opcode)
    rw [← same] at fails
    refine ⟨(standing.inOrder.mono longer).fails fails, ?_⟩
    intro still
    exact absurd (fails.failed.symm.trans still) Bool.noConfusion
  suffices next : after.pollPending.2.Standing (exchanged ++ handled.exchanges) from
    ⟨next.inOrder, fun _ => next⟩
  rcases step_accepted alive refused failed stepped with ⟨rfl, -⟩ | ⟨command, rest, pdu, accepted, advanced⟩
  · obtain ⟨encrypted, reached, mute⟩ := standing.mono longer
    exact ⟨encrypted, reached, fun idle => congrArg List.tail (mute idle)⟩
  have named : commandOf handled.pdu = some command := by
    rw [pdu]
    exact Command.ofOpcode_opcode command
  cases awaited : command.awaitedIn with
  | none => exact (standing.mono longer).keyed advanced awaited accepted _
  | some phase =>
    by_cases inPhase : session.phase = phase
    · have exchanges : handled.exchanges =
          .received command :: (handled.answer.bind commandOf).toList.map .sent := by
        rw [Handled.exchanges, named]
        rfl
      rw [exchanges]
      refine standing.advances advanced awaited inPhase ?_ after.pending.tail
      rintro rfl
      obtain ⟨responder, read⟩ := not_or.mp accepted
      obtain ⟨req, parsed⟩ := Option.ne_none_iff_exists'.mp read
      rw [pdu, step_command alive] at stepped
      rw [pdu] at parsed
      have answers := (onPairingRequest_eq (not_not.mp responder) parsed).trans
        (session.answerRequest_eq req)
      obtain rfl := Except.ok.inj (answers.symm.trans stepped)
      cases awaited
      rw [answered]
      show ((((session.pending ++ [(session.response req).asBytes]).head?).bind commandOf).toList).map
        Pass.sent = _
      rw [standing.mute inPhase]
      rfl
    · have out : session.OutOfPhase handled.pdu := ⟨command, phase, named, awaited, inPhase⟩
      apply (standing.mono longer).untouched advanced awaited
      exact ((keepsPhase_iff handles out).mpr keeps).resolve_left
        (Bool.eq_false_iff.mp (advanced.alive.trans alive))

end Step
end PairingSession

section Runs
variable {session s : PairingSession curve} {said : List Pass}

theorem PairingSession.Listening.standing (listening : Listening session said) :
    session.failed = false ∧ session.Standing said := by
  cases listening with
  | responder fresh =>
    refine ⟨fresh.alive, ?_, ⟨[], ?_, List.Sublist.refl _⟩, fun _ => fresh.mute⟩
    · rw [fresh.phase, fresh.unencrypted]
      exact iff_of_false Bool.noConfusion Phase.noConfusion
    · rw [fresh.role, fresh.phase]
      rfl
  | @initiator fresh _ config request created started =>
    cases started
    refine ⟨created.alive, ?_, ⟨[.sent .pairingRequest], ?_, List.Sublist.refl _⟩, Phase.noConfusion⟩
    · refine iff_of_false ?_ Phase.noConfusion
      show ¬ fresh.isEncrypted = true
      rw [created.unencrypted]
      exact Bool.noConfusion
    · show progress fresh.role fresh.sc .waitPairingResponse = _
      rw [created.role]
      rfl

/-- While the session keeps its phase, encryption comes after the whole exchange, in order. In any
state it does keep its phase exactly if the PDU out of it changes nothing but to fail the session. -/
theorem phase_order (listening : Listening session said) {history : List Handled}
    (run : Run (Guarded KeepsPhase Handles) session history s) :
    s.EncryptedInOrder (said ++ history.flatMap Handled.exchanges) ∧
      ∀ handled t, Handles s handled t → s.OutOfPhase handled.pdu →
        ((t.failed = true ∨ s.Untouched t) ↔ s.KeepsPhase handled) := by
  obtain ⟨alive, standing⟩ := listening.standing
  refine ⟨?_, fun handled t handles out => keepsPhase_iff handles out⟩
  refine (run.invariant (P := fun history s =>
    s.EncryptedInOrder (said ++ history.flatMap Handled.exchanges) ∧
    (s.failed = false → s.Standing (said ++ history.flatMap Handled.exchanges))) ?_ ?_).1
  · simpa using ⟨standing.inOrder, fun _ => standing⟩
  · rintro history s handled t ⟨inOrder, stands⟩ ⟨keeps, handles⟩
    rw [List.flatMap_append, List.flatMap_singleton, ← List.append_assoc]
    cases failed : s.failed with
    | false => exact (stands failed).handles failed keeps handles
    | true =>
      obtain rfl := handles_failed failed handles
      refine ⟨inOrder.mono (List.sublist_append_left _ _), ?_⟩
      intro alive
      exact absurd (failed.symm.trans alive) Bool.noConfusion

/-- A legacy pairing to its encryption, and then a Public Key that is cut off. -/
theorem phase_order_legacy : ∃ (session s t : PairingSession noCurve) (confirm : Octets 16)
    (answers : List (Option Bytes)) (history : List Handled), freshResponder = .ok session ∧
    Run (Guarded KeepsPhase Handles) session history s ∧ s.isEncrypted = true ∧
    history = List.zipWith (Handled.mk noDraws) [[0x01, 0x03, 0x00, 0x01, 0x10, 0x03, 0x03],
      build16 Command.pairingConfirm.opcode confirm, build16 Command.pairingRandom.opcode .zero]
      answers ∧
    s.EncryptedInOrder ([] ++ history.flatMap Handled.exchanges) ∧
    (∃ answer, Handles s ⟨noDraws, [0x0C], answer⟩ t) ∧ (t.failed = true ∨ s.Untouched t) := by
  obtain ⟨session, r, created, requested, alive, legacy, responder, phase, idle, mute⟩ :
      ∃ session r, freshResponder = .ok session ∧ Handles session
        ⟨noDraws, [0x01, 0x03, 0x00, 0x01, 0x10, 0x03, 0x03],
          some [0x02, 0x03, 0x00, 0x01, 0x10, 0x03, 0x03]⟩ r ∧ r.failed = false ∧ r.sc = false ∧
        r.role = .responder ∧ r.phase = .waitPeerConfirm ∧ session.phase = .idle ∧ r.pending = [] :=
    ⟨_, _, rfl, rfl, rfl, rfl, rfl, rfl, rfl, rfl⟩
  have confirms := handles_of_step ((step_command alive noDraws .pairingConfirm _).trans
    (congrArg Except.ok (onPairingConfirm_responder noDraws
      (parse16_build16 _ (r.legacyConfirm .zero)) legacy responder)))
  obtain ⟨c, confirms, alive, legacy, phase', opened⟩ : ∃ c, Handles r ⟨noDraws,
        build16 Command.pairingConfirm.opcode (r.legacyConfirm .zero), _⟩ c ∧ c.failed = false ∧
      c.sc = false ∧ c.phase = .waitPeerRandom ∧ c.peerConfirm = some (c.legacyConfirm .zero) :=
    ⟨_, confirms, alive, legacy, rfl, rfl⟩
  have random := handles_of_step ((step_command alive noDraws .pairingRandom _).trans
    (onPairingRandom_legacy noDraws (parse16_build16 _ .zero) legacy opened))
  obtain ⟨_, _, _, _, encrypted⟩ := (c.keyedLegacy noDraws .zero).onEncrypted_frame
  rw [encrypted] at random
  obtain ⟨s, encrypts, alive, on, ended⟩ : ∃ s, Handles c ⟨noDraws,
        build16 Command.pairingRandom.opcode .zero, _⟩ s ∧ s.failed = false ∧
      s.isEncrypted = true ∧ s.phase = .complete :=
    ⟨_, random, alive, rfl, rfl⟩
  have run : Run (Guarded KeepsPhase Handles) session _ s :=
    ((Run.nil.snoc ⟨keepsPhase_of_awaited .pairingRequest rfl (congrArg some idle.symm), requested⟩).snoc
    ⟨keepsPhase_of_awaited .pairingConfirm rfl (congrArg some phase.symm), confirms⟩).snoc
    ⟨keepsPhase_of_awaited .pairingRandom rfl (congrArg some phase'.symm), encrypts⟩
  obtain ⟨inOrder, exactly⟩ := phase_order (.responder (new_eq_ok created).1) run
  have refused : s.Refuses [0x0C] := ⟨.pairingPublicKey, rfl, nofun⟩
  obtain ⟨after, stepped, -⟩ := step_refused alive noDraws refused
  have handles := handles_of_step stepped
  refine ⟨session, s, _, r.legacyConfirm .zero, [_, _, _], _, created, run, on, rfl, inOrder,
    ⟨_, handles⟩, (exactly _ _ handles ?_).mpr fun _ _ => .inl refused⟩
  exact ⟨.pairingPublicKey, _, rfl, rfl, ended ▸ Phase.noConfusion⟩

/-- A second Pairing Request, without the Secure Connections bit, downgrades the
session that waits for a public key. -/
theorem not_phase_order : ∃ session s t, freshResponder = .ok session ∧
    Handles session ⟨noDraws, [0x01, 0x03, 0x00, 0x09, 0x10, 0x03, 0x03],
      some [0x02, 0x03, 0x00, 0x09, 0x10, 0x03, 0x03]⟩ s ∧
    Handles s ⟨noDraws, [0x01, 0x03, 0x00, 0x01, 0x10, 0x03, 0x03],
      some [0x02, 0x03, 0x00, 0x01, 0x10, 0x03, 0x03]⟩ t ∧
    s.OutOfPhase [0x01, 0x03, 0x00, 0x01, 0x10, 0x03, 0x03] ∧
    t.failed = false ∧ ¬ s.Untouched t := by
  refine ⟨_, _, _, rfl, rfl, rfl, ⟨.pairingRequest, _, rfl, rfl, ?_⟩, rfl, fun untouched => ?_⟩
  · exact Phase.noConfusion
  · exact Bool.false_ne_true untouched.sc

end Runs
end Simble.Smp
