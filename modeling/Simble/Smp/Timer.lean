import Simble.Smp.Bonding

/-! The Security Manager Timer along a pairing. Whatever is queued restarts it, and
the end of key distribution stops it: a session that queues something after that
has nothing left to stop it. -/
namespace Simble.Smp
open Simble.Lib Simble.Crypto PairingSession Command

variable {curve : P256}

namespace PairingSession
variable (session : PairingSession curve)

def Starts : Call → Prop
  | .start => True
  | .handlePdu _ pdu => session.failed = false ∧ commandOf pdu = some .pairingRequest ∧
    ¬ session.Refuses pdu
  | _ => False

def Encrypts : Command → Prop
  | .pairingRandom => session.sc = false
  | .pairingDhkeyCheck => True
  | _ => False

/-- The call brings the last of what the pairing waits for: the check that ends
phase 2 where the peer has no keys to send, or the last of its keys. -/
def Finishes : Call → Prop
  | .handlePdu _ pdu => session.failed = false ∧ ¬ session.Refuses pdu ∧
    ∃ command, commandOf pdu = some command ∧
      (session.Encrypts command ∧ session.peerExpected = [] ∨
        command.isKey = true ∧ session.peerExpected.erase command.opcode = [])
  | _ => False

/-- The command is answered, and nothing that follows the answer stops the timer. -/
def Prompts : Command → Prop
  | .pairingResponse | .pairingConfirm => True
  | .pairingRandom => session.sc = true
  | .pairingPublicKey => session.role = .responder
  | _ => False

def Restarts : Call → Prop
  | .handlePdu _ pdu => session.failed = false ∧ ¬ session.Refuses pdu ∧
    ∃ command, commandOf pdu = some command ∧ session.Prompts command
  | .onLinkEncrypted => session.phase = .complete ∧ session.role = .responder ∧
    session.ownKeysSent = false ∧ keyCommands session.sc session.ownFlags ≠ []
  | _ => False

/-- A complete session whose timer is stopped is not made to queue anything more. -/
def Rests (call : Call) : Prop :=
  session.complete = true → session.timerRemaining = none → ¬ session.Restarts call

/-- The timer is stopped, so that no tick finds it expired or takes the key away. -/
structure Untimed : Prop where
  stopped : session.timerRemaining = none
  ticks : ∀ time, (session.tick time).1 = false ∧
    (session.tick time).2.getLtk = session.getLtk

end PairingSession

/-- After these calls the session is complete, and since the call that completed
it, or completed its latest pairing, no other pairing has been started. -/
inductive Rested (begun : PairingSession curve) : List Call → PairingSession curve → Prop
  | completes {calls s call t} : Run Performs begun calls s → Performs s call t →
      t.complete = true → s.complete = false ∨ s.Finishes call → Rested begun (calls ++ [call]) t
  | stays {calls s call t} : Rested begun calls s → ¬ s.Starts call → Performs s call t →
      Rested begun (calls ++ [call]) t

namespace PairingSession
variable {session t : PairingSession curve} {pdu : Bytes}

/-- Key distribution goes on, or ends with the timer stopped. `queued` says that a
PDU has been queued on the way. -/
structure Distributes (session t : PairingSession curve) (expected : List UInt8) (queued : Prop) :
    Prop where
  awaited : t.peerExpected = expected
  ends : expected = [] → t.complete = true ∧ t.timerRemaining = none
  waits : expected ≠ [] → t.complete = session.complete ∧
    (t.timerRemaining ≠ none ∨ t.timerRemaining = session.timerRemaining ∧ ¬ queued)

/-- What a command that is not refused makes of the timer. -/
def Times (session t : PairingSession curve) : Command → Prop
  | .pairingRequest | .pairingResponse | .pairingConfirm =>
    t.complete = session.complete ∧ t.timerRemaining ≠ none
  | .pairingRandom =>
    if session.sc then t.complete = session.complete ∧ t.timerRemaining ≠ none
    else session.Distributes t session.peerExpected (session.role = .responder)
  | .pairingPublicKey =>
    t.complete = session.complete ∧ t.peerExpected = session.peerExpected ∧
      if session.role = .responder then t.timerRemaining ≠ none
      else t.timerRemaining = session.timerRemaining
  | .pairingDhkeyCheck => session.Distributes t session.peerExpected (session.role = .responder)
  | .encryptionInfo => session.Distributes t (session.peerExpected.erase Command.encryptionInfo.opcode) False
  | .masterIdentification =>
    session.Distributes t (session.peerExpected.erase Command.masterIdentification.opcode) False
  | .identityInfo => session.Distributes t (session.peerExpected.erase Command.identityInfo.opcode) False
  | .identityAddrInfo =>
    session.Distributes t (session.peerExpected.erase Command.identityAddrInfo.opcode) False
  | .signingInfo => session.Distributes t (session.peerExpected.erase Command.signingInfo.opcode) False
  | .pairingFailed | .securityRequest | .keypressNotification => False

section Distribution

theorem distributeKeys_timer (session : PairingSession curve) :
    ∃ sent pending timer, session.distributeKeys = { session with
      ownKeysSent := sent, pending, timerRemaining := timer } ∧
    (session.timerRemaining ≠ none → timer ≠ none) := by
  cases sent : session.ownKeysSent with
  | true =>
    refine ⟨true, session.pending, session.timerRemaining, ?_, id⟩
    rw [session.distributeKeys_sent sent, ← sent]
  | false =>
    refine ⟨_, _, _, session.distributeKeys_eq sent, ?_⟩
    intro running
    split
    · exact running
    · exact Option.some_ne_none _

theorem completeIfDistributed_distributes (session : PairingSession curve) (queued : Prop)
    (silent : ¬ queued) :
    session.Distributes session.completeIfDistributed session.peerExpected queued := by
  by_cases empty : session.peerExpected = []
  · rw [completeIfDistributed_none _ empty]
    have completed : session.onPeerDistributionComplete.peerExpected = session.peerExpected := by
      obtain ⟨sent, pending, timer, same⟩ := session.onPeerDistributionComplete_frame
      rw [same]
    exact ⟨completed, fun _ => ⟨rfl, rfl⟩, fun some => absurd empty some⟩
  · rw [completeIfDistributed_some _ empty]
    exact ⟨rfl, fun none => absurd none empty, fun _ => ⟨rfl, .inr ⟨rfl, silent⟩⟩⟩

/-- The timer that ran when phase 2 ended runs on, unless there is nothing to wait for. -/
theorem onEncrypted_distributes (keyed : PairingSession curve) (queued : Prop)
    (running : queued → keyed.timerRemaining ≠ none) (answers : ¬ queued → keyed.role = .initiator) :
    keyed.Distributes keyed.onEncrypted keyed.peerExpected queued := by
  unfold onEncrypted distributeEagerly
  split
  · rename_i eager
    have queues : queued := by
      by_contra silent
      exact absurd ((answers silent).symm.trans eager.1) Role.noConfusion
    obtain ⟨sent, pending, timer, distributed, still⟩ :=
      distributeKeys_timer { keyed with isEncrypted := true, phase := .complete }
    rw [distributed]
    obtain ⟨awaited, ends, waits⟩ := completeIfDistributed_distributes { keyed with
      isEncrypted := true, phase := .complete, ownKeysSent := sent, pending
      timerRemaining := timer } False id
    refine ⟨awaited, ends, fun some => ⟨(waits some).1, .inl ?_⟩⟩
    rcases (waits some).2 with armed | ⟨same, -⟩
    · exact armed
    · rw [same]
      exact still (running queues)
  · obtain ⟨awaited, ends, waits⟩ := completeIfDistributed_distributes { keyed with
      isEncrypted := true, phase := .complete } False id
    refine ⟨awaited, ends, fun some => ⟨(waits some).1, ?_⟩⟩
    rcases (waits some).2 with armed | ⟨same, -⟩
    · exact .inl armed
    · by_cases queues : queued
      · refine .inl fun stopped => ?_
        exact running queues (same.symm.trans stopped)
      · exact .inr ⟨same, queues⟩

end Distribution

section Accepted

theorem Role.eq_initiator {role : Role} (other : ¬ role = .responder) : role = .initiator := by
  cases role with
  | initiator => rfl
  | responder => exact absurd rfl other

theorem Heard.times {draws : Draws} {command : Command}
    (heard : session.Heard draws pdu command t) : session.Times t command := by
  have answered (responder : session.role = .responder) :
      (if session.role = .responder then some smpTimeoutSeconds else session.timerRemaining) ≠
        none := by
    rw [if_pos responder]
    exact Option.some_ne_none _
  cases heard with
  | features feature => rcases feature with rfl | rfl <;> exact ⟨rfl, Option.some_ne_none _⟩
  | confirm => exact ⟨rfl, Option.some_ne_none _⟩
  | randomSc secure =>
    unfold Times
    rw [if_pos secure]
    exact ⟨rfl, Option.some_ne_none _⟩
  | randomLegacy legacy =>
    unfold Times
    rw [if_neg (Bool.eq_false_iff.mp legacy)]
    obtain ⟨awaited, ends, waits⟩ := onEncrypted_distributes (session.keyedLegacy draws _)
      (session.role = .responder) answered Role.eq_initiator
    refine ⟨awaited, ends, fun some => (waits some).imp id ?_⟩
    rintro (armed | ⟨same, initiator⟩)
    · exact .inl armed
    · exact .inr ⟨same.trans (if_neg initiator), initiator⟩
  | publicKey timer =>
    subst timer
    refine ⟨rfl, rfl, ?_⟩
    split
    · exact Option.some_ne_none _
    · rfl
  | check timer =>
    subst timer
    obtain ⟨awaited, ends, waits⟩ := onEncrypted_distributes { session with
      pending := _
      timerRemaining := if session.role = .responder then some smpTimeoutSeconds
        else session.timerRemaining } (session.role = .responder) answered Role.eq_initiator
    refine ⟨awaited, ends, fun some => (waits some).imp id ?_⟩
    rintro (armed | ⟨same, initiator⟩)
    · exact .inl armed
    · exact .inr ⟨same.trans (if_neg initiator), initiator⟩
  | key isKey =>
    obtain ⟨awaited, ends, waits⟩ := completeIfDistributed_distributes { session with
      peerLtk := _, peerEdiv := _, peerRand := _, peerIrk := _, peerIdentityAddress := _,
      peerCsrk := _, peerExpected := session.peerExpected.erase command.opcode } False id
    cases command <;> first | exact ⟨awaited, ends, waits⟩ | contradiction

end Accepted

section Calls

/-- What a PDU makes of a session that has not failed: it fails it with the timer
stopped, is ignored, or takes it on. -/
theorem step_times (alive : session.failed = false) {draws : Draws}
    (stepped : session.step draws pdu = .ok t) :
    t.failed = true ∧ t.phase = .failed ∧ t.timerRemaining = none ∨
    t = session ∧ commandOf pdu = none ∨
    ∃ command, commandOf pdu = some command ∧ ¬ session.Refuses pdu ∧
      session.AdvancesTo t command ∧ session.Times t command := by
  by_cases refused : session.Refuses pdu
  · refine .inl ?_
    obtain ⟨other, steps, failing, reason, rfl, -⟩ := step_refused_by alive draws refused
    obtain rfl := Except.ok.inj (steps.symm.trans stepped)
    exact ⟨rfl, rfl, rfl⟩
  by_cases failed : PeerFails pdu
  · refine .inl ?_
    obtain ⟨other, steps, fails⟩ := step_peerFails alive draws failed
    obtain rfl := Except.ok.inj (steps.symm.trans stepped)
    refine ⟨fails.failed, fails.phase, ?_⟩
    obtain ⟨reason, rfl⟩ := failed
    rw [step_command alive draws .pairingFailed [reason]] at stepped
    cases stepped
    rfl
  · refine .inr ?_
    rcases step_accepted alive refused failed stepped with
      ⟨same, op, rest, rfl, unknown⟩ | ⟨command, rest, rfl, accepted, advanced⟩
    · exact .inl ⟨same, unknown⟩
    · refine .inr ⟨command, ofOpcode_opcode command, refused, advanced, ?_⟩
      rw [step_command alive] at stepped
      refine (dispatch_hears accepted ?_ stepped).times
      rintro rfl
      exact advanced.advances

theorem tick_timer (session : PairingSession curve) (time : Float) :
    (session.tick time).2.failed = true ∨
      ∃ timer, (session.tick time).2 =
        { session with lastTick := some time, timerRemaining := timer } ∧
        (timer = none → session.timerRemaining = none) := by
  by_cases expires : session.Expires time
  · rw [tick_expired expires]
    exact .inl rfl
  · obtain ⟨timer, ticked⟩ := tick_quiet expires
    refine .inr ⟨timer, ticked, ?_⟩
    rintro rfl
    cases running : session.timerRemaining with
    | none => rfl
    | some remaining =>
      have more : remaining - session.elapsed time > 0.0 := by
        by_contra spent
        exact expires ⟨remaining, running, spent⟩
      have left : (session.tick time).2 = { session with
          lastTick := some time, timerRemaining := some (remaining - session.elapsed time) } := by
        unfold tick
        rw [running]
        exact congrArg Prod.snd (if_pos more)
      exact absurd (congrArg PairingSession.timerRemaining (left.symm.trans ticked))
        (Option.some_ne_none _)

theorem tick_stopped (stopped : session.timerRemaining = none) (time : Float) :
    session.tick time = (false, { session with lastTick := some time }) := by
  unfold tick
  rw [stopped]

theorem Untimed.of_stopped (stopped : session.timerRemaining = none) : session.Untimed where
  stopped := stopped
  ticks time := by
    rw [tick_stopped stopped]
    exact ⟨rfl, rfl⟩

structure Quiet (session : PairingSession curve) : Prop where
  stopped : session.timerRemaining = none
  ended : session.failed = true ∧ session.phase ≠ .complete ∨
    session.failed = false ∧ session.complete = true ∧ session.peerExpected = []

theorem Distributes.quiet {expected : List UInt8} {queued : Prop}
    (distributes : session.Distributes t expected queued) (alive : t.failed = false)
    (empty : expected = []) : t.Quiet :=
  ⟨(distributes.ends empty).2,
    .inr ⟨alive, (distributes.ends empty).1, distributes.awaited.trans empty⟩⟩

theorem Distributes.completed {expected : List UInt8} {queued : Prop}
    (distributes : session.Distributes t expected queued) (before : session.complete = false)
    (complete : t.complete = true) : expected = [] := by
  by_contra some
  exact Bool.false_ne_true (before.symm.trans ((distributes.waits some).1.symm.trans complete))

section Times
variable {command : Command} (times : session.Times t command)
include times

theorem Times.key (isKey : command.isKey = true) :
    session.Distributes t (session.peerExpected.erase command.opcode) False := by
  cases command <;> first | exact times | contradiction

theorem Times.completed (alive : t.failed = false) (before : session.complete = false)
    (complete : t.complete = true) :
    t.Quiet := by
  have kept (same : t.complete = session.complete) : t.Quiet :=
    absurd (before.symm.trans (same.symm.trans complete)) Bool.false_ne_true
  cases command with
  | pairingRequest | pairingResponse | pairingConfirm => exact kept times.1
  | pairingRandom =>
    unfold Times at times
    dsimp only at times
    split at times
    · exact kept times.1
    · exact times.quiet alive (times.completed before complete)
  | pairingPublicKey => exact kept times.1
  | pairingDhkeyCheck => exact Distributes.quiet times alive (Distributes.completed times before complete)
  | encryptionInfo | masterIdentification | identityInfo | identityAddrInfo | signingInfo =>
    exact Distributes.quiet times alive (Distributes.completed times before complete)
  | pairingFailed | securityRequest | keypressNotification => exact times.elim

theorem Times.finished (alive : t.failed = false)
    (finishes : session.Encrypts command ∧ session.peerExpected = [] ∨
      command.isKey = true ∧ session.peerExpected.erase command.opcode = []) :
    t.Quiet := by
  rcases finishes with ⟨encrypts, empty⟩ | ⟨isKey, empty⟩
  · cases command with
    | pairingRandom =>
      unfold Times at times
      rw [if_neg (Bool.eq_false_iff.mp encrypts)] at times
      exact times.quiet alive empty
    | pairingDhkeyCheck => exact Distributes.quiet times alive empty
    | _ => exact encrypts.elim
  · exact (times.key isKey).quiet alive empty

theorem Times.rests (alive : t.failed = false) (quiet : session.Quiet)
    (running : session.failed = false) (continues : command ≠ .pairingRequest)
    (unprompted : ¬ session.Prompts command) : t.Quiet := by
  obtain ⟨stopped, ⟨failed, -⟩ | ⟨-, complete, empty⟩⟩ := quiet
  · exact absurd (running.symm.trans failed) Bool.false_ne_true
  cases command with
  | pairingRequest => exact absurd rfl continues
  | pairingResponse | pairingConfirm => exact absurd trivial unprompted
  | pairingRandom =>
    unfold Times at times
    have legacy : ¬ session.sc = true := unprompted
    rw [if_neg legacy] at times
    exact times.quiet alive empty
  | pairingPublicKey =>
    obtain ⟨completes, awaited, timer⟩ := times
    have initiator : ¬ session.role = .responder := unprompted
    rw [if_neg initiator] at timer
    exact ⟨timer.trans stopped, .inr ⟨alive, completes.trans complete, awaited.trans empty⟩⟩
  | pairingDhkeyCheck => exact Distributes.quiet times alive empty
  | encryptionInfo | masterIdentification | identityInfo | identityAddrInfo | signingInfo =>
    exact Distributes.quiet times alive (by rw [empty]; rfl)
  | pairingFailed | securityRequest | keypressNotification => exact times.elim

end Times

theorem Quiet.polled (quiet : session.Quiet) : session.pollPending.2.Quiet := ⟨quiet.stopped, quiet.ended⟩

theorem onLinkEncrypted_timer (session : PairingSession curve) :
    ∃ sent pending timer, session.onLinkEncrypted = { session with
      linkEncrypted := true, ownKeysSent := sent, pending, timerRemaining := timer } ∧
    (session.timerRemaining ≠ none → timer ≠ none) ∧
    (¬ session.Restarts .onLinkEncrypted → timer = session.timerRemaining) := by
  by_cases deferred : session.phase = .complete ∧ session.role = .responder
  · have linked : session.onLinkEncrypted = { session with linkEncrypted := true }.distributeKeys :=
      if_pos deferred
    rcases Bool.eq_false_or_eq_true session.ownKeysSent with sent | unsent
    · rw [linked, distributeKeys_sent { session with linkEncrypted := true } sent]
      exact ⟨_, _, _, rfl, id, fun _ => rfl⟩
    · rw [linked, distributeKeys_eq { session with linkEncrypted := true } unsent]
      refine ⟨_, _, _, rfl, ?_, ?_⟩
      · intro running
        split
        · exact running
        · exact Option.some_ne_none _
      · intro silent
        have none : keyCommands session.sc session.ownFlags = [] := by
          by_contra some
          exact silent ⟨deferred.1, deferred.2, unsent, some⟩
        exact if_pos none
  · rw [show session.onLinkEncrypted = { session with linkEncrypted := true } from if_neg deferred]
    exact ⟨_, _, _, rfl, id, fun _ => rfl⟩

theorem performs_completed {call : Call} (performed : Performs session call t)
    (complete : t.complete = true) (now : session.complete = false ∨ session.Finishes call) :
    t.Quiet := by
  cases call with
  | handlePdu draws pdu =>
    obtain ⟨after, stepped, rfl⟩ := handlePdu_eq_ok performed
    apply Quiet.polled
    cases alive : session.failed with
    | true =>
      obtain rfl := Except.ok.inj ((if_pos alive).symm.trans stepped)
      rcases now with before | ⟨running, -⟩
      · exact absurd (before.symm.trans complete) Bool.false_ne_true
      · exact absurd (running.symm.trans alive) Bool.false_ne_true
    | false =>
      rcases step_times alive stepped with ⟨failed, phase, stopped⟩ | ⟨rfl, unknown⟩ |
        ⟨command, coded, -, advanced, times⟩
      · exact ⟨stopped, .inl ⟨failed, by rw [phase]; exact Phase.noConfusion⟩⟩
      · rcases now with before | ⟨-, -, command, coded, -⟩
        · exact absurd (before.symm.trans complete) Bool.false_ne_true
        · cases unknown.symm.trans coded
      · have still := advanced.alive.trans alive
        rcases now with before | ⟨-, -, command', coded', finishes⟩
        · exact times.completed still before complete
        · obtain rfl := Option.some.inj (coded.symm.trans coded')
          exact times.finished still finishes
  | start | pollPending =>
    cases performed
    exact (now.elim (fun before => absurd (before.symm.trans complete) Bool.false_ne_true) False.elim)
  | tick time =>
    cases performed
    refine now.elim (fun before => ?_) False.elim
    have kept : (session.tick time).2.complete = session.complete := by
      by_cases expires : session.Expires time
      · rw [tick_expired expires]
      · obtain ⟨timer, ticked⟩ := tick_quiet expires
        rw [ticked]
    exact absurd (before.symm.trans (kept.symm.trans complete)) Bool.false_ne_true
  | onLinkEncrypted =>
    cases performed
    refine now.elim (fun before => ?_) False.elim
    obtain ⟨sent, pending, timer, linked, -⟩ := session.onLinkEncrypted_timer
    have kept : session.onLinkEncrypted.complete = session.complete := by rw [linked]
    exact absurd (before.symm.trans (kept.symm.trans complete)) Bool.false_ne_true

theorem Quiet.performs {call : Call} (quiet : session.Quiet) (continues : ¬ session.Starts call)
    (rests : session.Rests call) (performed : Performs session call t) : t.Quiet := by
  obtain ⟨stopped, ended⟩ := id quiet
  cases call with
  | start => exact absurd trivial continues
  | pollPending =>
    cases performed
    exact quiet.polled
  | tick time =>
    cases performed
    rw [tick_stopped stopped]
    exact ⟨stopped, ended⟩
  | onLinkEncrypted =>
    obtain rfl : session.onLinkEncrypted = t := Except.ok.inj performed
    obtain ⟨sent, pending, timer, linked, -, still⟩ := session.onLinkEncrypted_timer
    have silent : ¬ session.Restarts .onLinkEncrypted := by
      rcases ended with ⟨-, phase⟩ | ⟨-, complete, -⟩
      · exact fun restarts => phase restarts.1
      · exact rests complete stopped
    rw [linked]
    exact ⟨(still silent).trans stopped, ended⟩
  | handlePdu draws pdu =>
    obtain ⟨after, stepped, rfl⟩ := handlePdu_eq_ok performed
    apply Quiet.polled
    cases alive : session.failed with
    | true =>
      obtain rfl := Except.ok.inj ((if_pos alive).symm.trans stepped)
      exact quiet
    | false =>
      obtain ⟨complete, -⟩ := (ended.resolve_left fun failed =>
        Bool.false_ne_true (alive.symm.trans failed.1)).2
      rcases step_times alive stepped with ⟨failed, phase, stopped⟩ | ⟨rfl, -⟩ |
        ⟨command, coded, accepted, advanced, times⟩
      · exact ⟨stopped, .inl ⟨failed, by rw [phase]; exact Phase.noConfusion⟩⟩
      · exact quiet
      · apply times.rests (advanced.alive.trans alive) quiet alive
        · rintro rfl
          exact continues ⟨alive, coded, accepted⟩
        · exact fun prompts => rests complete stopped ⟨alive, accepted, command, coded, prompts⟩

/-- A session has not been started, or is over, or its timer runs. -/
def Armed (session : PairingSession curve) : Prop :=
  session.role = .responder ∧ session.phase = .idle ∨ session.complete = true ∨
    session.failed = true ∨ session.timerRemaining ≠ none

theorem Distributes.armed {expected : List UInt8} {queued : Prop}
    (distributes : session.Distributes t expected queued) (armed : session.Armed)
    (alive : session.failed = false)
    (idle : session.role = .responder ∧ session.phase = .idle →
      queued ∨ t.role = .responder ∧ t.phase = .idle) : t.Armed := by
  by_cases empty : expected = []
  · exact .inr (.inl (distributes.ends empty).1)
  obtain ⟨completes, running | ⟨same, silent⟩⟩ := distributes.waits empty
  · exact .inr (.inr (.inr running))
  · rcases armed with fresh | complete | failed | running
    · exact .inl ((idle fresh).resolve_left silent)
    · exact .inr (.inl (completes.trans complete))
    · exact absurd (alive.symm.trans failed) Bool.false_ne_true
    · exact .inr (.inr (.inr (same ▸ running)))

theorem Times.armed {command : Command} (times : session.Times t command) (armed : session.Armed)
    (alive : session.failed = false) (advanced : session.AdvancesTo t command) : t.Armed := by
  have key (isKey : command.isKey = true) (phase : t.phase = session.phase) : t.Armed :=
    (times.key isKey).armed armed alive fun fresh =>
      .inr ⟨advanced.role.trans fresh.1, phase.trans fresh.2⟩
  cases command with
  | pairingRequest | pairingResponse | pairingConfirm => exact .inr (.inr (.inr times.2))
  | pairingRandom =>
    unfold Times at times
    dsimp only at times
    split at times
    · exact .inr (.inr (.inr times.2))
    · exact times.armed armed alive fun fresh => .inl fresh.1
  | pairingPublicKey =>
    obtain ⟨completes, -, timer⟩ := times
    split at timer
    · exact .inr (.inr (.inr timer))
    · rename_i initiator
      rcases armed with fresh | complete | failed | running
      · exact absurd fresh.1 initiator
      · exact .inr (.inl (completes.trans complete))
      · exact absurd (alive.symm.trans failed) Bool.false_ne_true
      · exact .inr (.inr (.inr (timer ▸ running)))
  | pairingDhkeyCheck => exact Distributes.armed times armed alive fun fresh => .inl fresh.1
  | encryptionInfo | masterIdentification | identityInfo | identityAddrInfo | signingInfo =>
    exact key rfl advanced.advances.2.2
  | pairingFailed | securityRequest | keypressNotification => exact times.elim

theorem Armed.performs {call : Call} (armed : session.Armed) (performed : Performs session call t) :
    t.Armed := by
  cases call with
  | start =>
    obtain ⟨started, starts, result⟩ := Rust.bind_eq_ok.mp performed
    obtain ⟨preq, -, made⟩ := Rust.bind_eq_ok.mp starts
    cases made
    obtain rfl := Except.ok.inj result
    exact .inr (.inr (.inr (Option.some_ne_none _)))
  | pollPending =>
    cases performed
    exact armed
  | tick time =>
    cases performed
    rcases session.tick_timer time with failed | ⟨timer, ticked, stopped⟩
    · exact .inr (.inr (.inl failed))
    · rw [ticked]
      exact armed.imp id (Or.imp id (Or.imp id fun running none => running (stopped none)))
  | onLinkEncrypted =>
    obtain rfl : session.onLinkEncrypted = t := Except.ok.inj performed
    obtain ⟨sent, pending, timer, linked, running, -⟩ := session.onLinkEncrypted_timer
    rw [linked]
    exact armed.imp id (Or.imp id (Or.imp id running))
  | handlePdu draws pdu =>
    obtain ⟨after, stepped, rfl⟩ := handlePdu_eq_ok performed
    change after.Armed
    cases alive : session.failed with
    | true =>
      obtain rfl := Except.ok.inj ((if_pos alive).symm.trans stepped)
      exact armed
    | false =>
      rcases step_times alive stepped with ⟨failed, -⟩ | ⟨rfl, -⟩ |
        ⟨command, -, -, advanced, times⟩
      · exact .inr (.inr (.inl failed))
      · exact armed
      · exact times.armed armed alive advanced

end Calls

end PairingSession

section Runs
variable {begun session : PairingSession curve} {calls : List Call}

theorem Begun.armed (made : Begun session) : session.Armed := by
  cases made with
  | responder created =>
    have fresh := (new_eq_ok created).1
    exact .inl ⟨fresh.role, fresh.phase⟩
  | initiator created started =>
    obtain ⟨preq, -, made⟩ := Rust.bind_eq_ok.mp started
    cases made
    exact .inr (.inr (.inr (Option.some_ne_none _)))

theorem Rested.run (rested : Rested begun calls session) : Run Performs begun calls session := by
  induction rested with
  | completes run performed => exact run.snoc performed
  | stays _ _ performed ih => exact ih.snoc performed

/-- Once a pairing is over the timer stays stopped, while no other pairing is
started and nothing that the session still answers comes. -/
theorem quiet_of_run (run : Run (Guarded Rests Performs) begun calls session) :
    Rested begun calls session → session.Quiet := by
  refine run.invariant (P := fun calls session => Run Performs begun calls session ∧
    (Rested begun calls session → session.Quiet)) ?_ ?_ |>.2
  · refine ⟨.nil, fun rested => ?_⟩
    generalize none : ([] : List Call) = calls at rested
    cases rested <;> simp at none
  · rintro calls s call t ⟨earlier, ih⟩ ⟨rests, performed⟩
    refine ⟨earlier.snoc performed, fun rested => ?_⟩
    generalize same : calls ++ [call] = all at rested
    cases rested with
    | completes run now complete finished =>
      obtain ⟨rfl, last⟩ := List.append_inj' same rfl
      obtain rfl := List.head_eq_of_cons_eq last
      obtain rfl := earlier.deterministic performs_deterministic run
      exact performs_completed performed complete finished
    | stays before continues now =>
      obtain ⟨rfl, last⟩ := List.append_inj' same rfl
      obtain rfl := List.head_eq_of_cons_eq last
      obtain rfl := earlier.deterministic performs_deterministic before.run
      exact (ih before).performs continues rests performed

/-- While a complete session queues nothing more, the timer of a session whose
pairing is over is stopped; that of one which has been started runs till then. -/
theorem completed_sessions_are_untimed (made : Begun begun)
    (run : Run (Guarded Rests Performs) begun calls session) :
    (Rested begun calls session → session.Untimed) ∧
      (session.role = .initiator ∨ session.phase ≠ .idle → session.complete = false →
        session.failed = false → session.timerRemaining ≠ none) := by
  constructor
  · exact fun rested => .of_stopped (quiet_of_run run rested).stopped
  · intro started incomplete alive
    have armed := run.unguarded.invariant (P := fun _ session => session.Armed) made.armed
      fun armed performed => armed.performs performed
    rcases armed with fresh | complete | failed | running
    · rcases started with initiator | begun
      · exact absurd (initiator.symm.trans fresh.1) Role.noConfusion
      · exact absurd fresh.2 begun
    · exact absurd (incomplete.symm.trans complete) Bool.false_ne_true
    · exact absurd (alive.symm.trans failed) Bool.false_ne_true
    · exact running

end Runs

def deferringResponder : Rust (PairingSession noCurve) :=
  PairingSession.new .responder { PairingConfig.default with deferKeyDistribution := true }
    Address.any .randomDevice Address.any .randomDevice ⟨(), .zero, .zero⟩ .zero

theorem handlePdu_of_step {session after : PairingSession curve} {draws : Draws} {pdu : Bytes}
    (stepped : session.step draws pdu = .ok after) :
    Performs session (.handlePdu draws pdu) after.pollPending.2 := by
  simp only [Performs, perform, handlePdu, stepped, Rust.ok_bind]
  rfl

theorem onEncrypted_deferred {keyed : PairingSession curve} (responder : keyed.role = .responder)
    (deferred : keyed.deferKeyDistribution = true) (plain : keyed.linkEncrypted = false)
    (empty : keyed.peerExpected = []) : keyed.onEncrypted = { keyed with
      isEncrypted := true, phase := .complete, complete := true, timerRemaining := none } := by
  have waits : { keyed with isEncrypted := true, phase := .complete }.distributeEagerly =
      { keyed with isEncrypted := true, phase := .complete } := by
    refine if_neg fun eager => ?_
    rcases eager.2 with now | linked
    · exact now deferred
    · exact Bool.false_ne_true (plain.symm.trans linked)
  unfold onEncrypted
  rw [waits, completeIfDistributed_none { keyed with isEncrypted := true, phase := .complete } empty]
  exact onPeerDistributionComplete_responder _ responder

theorem rests_of_incomplete {session : PairingSession curve} (incomplete : session.complete = false)
    (call : Call) : session.Rests call :=
  fun complete => absurd (incomplete.symm.trans complete) Bool.false_ne_true

/-- Legacy pairing with an initiator that has no keys to send, up to its end: the
responder has still to send its own. -/
theorem run_deferring : ∃ (begun : PairingSession noCurve) (calls : List Call)
    (session : PairingSession noCurve), Begun begun ∧
    Run (Guarded Rests Performs) begun calls session ∧ Rested begun calls session ∧
    session.failed = false ∧ session.Restarts .onLinkEncrypted := by
  obtain ⟨begun, asked, created, requested, role, alive, legacy, empty, unsent, deferred, plain,
      fresh, incomplete, commands⟩ :
      ∃ begun asked, deferringResponder = .ok begun ∧
        Performs begun (.handlePdu noDraws [0x01, 0x03, 0x00, 0x01, 0x10, 0x00, 0x03]) asked ∧
        asked.role = .responder ∧ asked.failed = false ∧ asked.sc = false ∧
        asked.peerExpected = [] ∧ asked.ownKeysSent = false ∧ asked.deferKeyDistribution = true ∧
        asked.linkEncrypted = false ∧ begun.complete = false ∧ asked.complete = false ∧
        keyCommands asked.sc asked.ownFlags ≠ [] :=
    ⟨_, _, rfl, rfl, rfl, rfl, rfl, rfl, rfl, rfl, rfl, rfl, rfl, by decide⟩
  have confirms := handlePdu_of_step ((step_command alive noDraws .pairingConfirm _).trans
    (congrArg Except.ok (onPairingConfirm_responder noDraws
      (parse16_build16 pairingConfirm.opcode (asked.legacyConfirm .zero)) legacy role)))
  obtain ⟨confirmed, confirming, role, alive, legacy, empty, unsent, deferred, plain, waiting, commands,
      matched⟩ : ∃ confirmed, Performs asked (.handlePdu noDraws
          (build16 pairingConfirm.opcode (asked.legacyConfirm .zero))) confirmed ∧
        confirmed.role = .responder ∧ confirmed.failed = false ∧ confirmed.sc = false ∧
        confirmed.peerExpected = [] ∧ confirmed.ownKeysSent = false ∧
        confirmed.deferKeyDistribution = true ∧ confirmed.linkEncrypted = false ∧
        confirmed.complete = false ∧ keyCommands confirmed.sc confirmed.ownFlags ≠ [] ∧
        confirmed.peerConfirm = some (confirmed.legacyConfirm .zero) :=
    ⟨_, confirms, role, alive, legacy, empty, unsent, deferred, plain, incomplete, commands, rfl⟩
  have reveals := onPairingRandom_legacy noDraws
    (parse16_build16 pairingRandom.opcode .zero) legacy matched
  rw [@onEncrypted_deferred _ (confirmed.keyedLegacy noDraws .zero) role deferred plain
    empty] at reveals
  have steps : confirmed.step noDraws (build16 pairingRandom.opcode .zero) = .ok _ :=
    (step_command alive noDraws .pairingRandom _).trans reveals
  have revealed := handlePdu_of_step steps
  have run : Run (Guarded Rests Performs) begun ([] ++ [_] ++ [_]) confirmed :=
    (Run.nil.snoc ⟨rests_of_incomplete fresh _, requested⟩).snoc
      ⟨rests_of_incomplete incomplete _, confirming⟩
  exact ⟨begun, _, _, .responder created, run.snoc ⟨rests_of_incomplete waiting _, revealed⟩,
    .completes run.unguarded revealed rfl (.inl waiting), alive, rfl, role, unsent, commands⟩

theorem completed_sessions_are_untimed_deferring : ∃ (begun : PairingSession noCurve)
    (calls : List Call) (session : PairingSession noCurve), Rested begun calls session ∧
    session.Untimed := by
  obtain ⟨begun, calls, session, made, run, rested, -⟩ := run_deferring
  exact ⟨begun, calls, session, rested, (completed_sessions_are_untimed made run).1 rested⟩

/-- The link is encrypted after the pairing is over. -/
theorem deferred_keys_restart_the_timer : ¬ ∀ (begun : PairingSession noCurve) (calls : List Call)
    (session : PairingSession noCurve), Begun begun → Run Performs begun calls session →
      Rested begun calls session → session.Untimed := by
  intro untimed
  obtain ⟨begun, calls, session, made, run, rested, alive, restarts⟩ := run_deferring
  have linked : Performs session .onLinkEncrypted session.onLinkEncrypted := rfl
  have stopped := (untimed begun _ _ made (run.unguarded.snoc linked) (.stays rested id linked)).stopped
  obtain ⟨phase, role, unsent, commands⟩ := restarts
  have distributes : session.onLinkEncrypted = { session with linkEncrypted := true }.distributeKeys :=
    if_pos ⟨phase, role⟩
  rw [distributes, distributeKeys_eq { session with linkEncrypted := true } unsent] at stopped
  exact Option.some_ne_none _ ((if_neg commands).symm.trans stopped)

end Simble.Smp
