import Simble.Smp.Timer

/-! Every call on a session returns. What the handlers unwrap is there: the check values come and
go together, and the shared secret and the peer's random value are looked for, or set, before use.
-/
namespace Simble.Smp
open Simble.Lib Simble.Crypto PairingSession

variable {curve : P256}

namespace PairingSession
variable {session t : PairingSession curve} {pdu : Bytes}

/-- Both check values have been computed, or neither. -/
def Checked (session : PairingSession curve) : Prop := session.ea = none ↔ session.eb = none

/-- The call returns a session whose check values are in order. -/
def Returns (call : Rust (PairingSession curve)) : Prop := ∃ t, call = .ok t ∧ t.Checked

theorem Returns.ok (checked : t.Checked) : Returns (.ok t) := ⟨t, rfl, checked⟩

theorem fail_checked (session : PairingSession curve) (reason : UInt8) :
    (session.fail reason).Checked := Iff.rfl

theorem Checked.completeIfDistributed (checked : session.Checked) :
    session.completeIfDistributed.Checked := by
  obtain ⟨sent, pending, timer, complete, completed⟩ := session.completeIfDistributed_frame
  rw [completed]
  exact checked

theorem Checked.onEncrypted (checked : session.Checked) : session.onEncrypted.Checked := by
  obtain ⟨sent, pending, timer, complete, encrypted⟩ := session.onEncrypted_frame
  rw [encrypted]
  exact checked

theorem Heard.checked {draws : Draws} {command : Command}
    (heard : session.Heard draws pdu command t) (checked : session.Checked) : t.Checked := by
  cases heard with
  | features | confirm | publicKey => exact checked
  | randomSc => exact iff_of_false (Option.some_ne_none _) (Option.some_ne_none _)
  | randomLegacy | check =>
    apply Checked.onEncrypted
    exact checked
  | key =>
    apply Checked.completeIfDistributed
    exact checked

section Handlers
variable (checked : session.Checked) (draws : Draws)
include checked

theorem Checked.step : Returns (session.step draws pdu) := by
  cases alive : session.failed with
  | true => exact ⟨session, if_pos alive, checked⟩
  | false =>
    by_cases refused : session.Refuses pdu
    · obtain ⟨_, steps, failing, reason, rfl, -⟩ := step_refused_by alive draws refused
      exact ⟨_, steps, failing.fail_checked reason⟩
    by_cases failed : PeerFails pdu
    · obtain ⟨reason, rfl⟩ := failed
      exact ⟨_, step_command alive draws .pairingFailed [reason], Iff.rfl⟩
    cases pdu with
    | nil => exact absurd trivial refused
    | cons op rest =>
      cases coded : Command.ofOpcode op with
      | none =>
        refine ⟨session, ?_, checked⟩
        simp only [PairingSession.step, alive, coded, dispatch, Bool.false_eq_true, if_false]
      | some command =>
        obtain rfl := Command.ofOpcode_eq_some.mp coded
        have accepted : ¬ session.RefusesCommand (command.opcode :: rest) command :=
          fun bad => refused ⟨command, coded, bad⟩
        have kept : command ≠ .pairingFailed := by
          rintro rfl
          have two := not_not.mp accepted
          obtain ⟨reason, rfl⟩ := List.length_eq_one_iff.mp (Nat.succ_injective two)
          exact failed ⟨reason, rfl⟩
        -- The responder has compared `ea`, so `eb` is there to be sent.
        have computed : command = .pairingDhkeyCheck → session.role = .responder →
            session.eb ≠ none := by
          rintro rfl responder missing
          obtain ⟨value, -, allowed⟩ := not_bad accepted
          have matched := not_not.mp allowed
          rw [if_neg (by simp [responder]), checked.mpr missing] at matched
          cases matched
        obtain ⟨t, returns, heard⟩ : ∃ t, session.dispatch draws (command.opcode :: rest)
            (some command) = .ok t ∧ session.Heard draws (command.opcode :: rest) command t :=
          dispatch_returns accepted kept computed
        exact ⟨t, (step_command alive draws command rest).trans returns, heard.checked checked⟩

theorem Checked.perform (call : Call) : Returns (session.perform call) := by
  cases call with
  | start => exact .ok checked
  | handlePdu draws pdu =>
    obtain ⟨after, stepped, still⟩ := @Checked.step curve session pdu checked draws
    refine ⟨after.pollPending.2, ?_, still⟩
    simp only [PairingSession.perform, handlePdu, stepped, Rust.ok_bind]
    rfl
  | pollPending => exact .ok checked
  | tick time =>
    refine .ok ?_
    by_cases expires : session.Expires time
    · rw [tick_expired expires]
      exact Iff.rfl
    · obtain ⟨timer, ticked⟩ := tick_quiet expires
      rw [ticked]
      exact checked
  | onLinkEncrypted =>
    refine .ok ?_
    obtain ⟨sent, pending, timer, linked, -⟩ := session.onLinkEncrypted_timer
    rw [linked]
    exact checked

end Handlers
end PairingSession

section Runs
variable {begun session : PairingSession curve} {calls : List Call}

theorem Begun.checked (made : Begun begun) : begun.Checked := by
  cases made with
  | responder created =>
    obtain ⟨-, -, -, ea, eb⟩ := (new_eq_ok created).1.secrets
    exact iff_of_true ea eb
  | initiator created started =>
    obtain ⟨-, -, -, ea, eb⟩ := (new_eq_ok created).1.secrets
    obtain ⟨preq, -, made⟩ := Rust.bind_eq_ok.mp started
    cases made
    exact iff_of_true ea eb

theorem checked_of_run (made : Begun begun) (run : Run Performs begun calls session) :
    session.Checked := by
  refine run.invariant (P := fun _ session => session.Checked) made.checked ?_
  intro _ s call t checked performed
  obtain ⟨other, performs, after⟩ := checked.perform call
  exact performs_deterministic s call _ _ performs performed ▸ after

end Runs

/-- Where the curve takes the scalar of Debug Mode for a private key, a session can
be made of every configuration, and started; and after any calls on it, any other
call returns. -/
theorem pairing_never_panics
    (valid : P256Keypair.fromPrivateBe curve smpDebugKeyPrivateBe ≠ none) :
    (∀ role config localAddress localType peerAddress peerType (generated : P256Keypair curve) irk,
      ∃ fresh, PairingSession.new role config localAddress localType peerAddress peerType generated
        irk = .ok fresh ∧ ∃ request session, fresh.start = .ok (request, session)) ∧
    ∀ (begun session : PairingSession curve) calls, Begun begun → Run Performs begun calls session →
      ∀ call, ∃ t, session.perform call = .ok t := by
  obtain ⟨debug, made⟩ := Option.ne_none_iff_exists'.mp valid
  constructor
  · intro role config localAddress localType peerAddress peerType generated irk
    cases role <;> cases localType <;>
    · simp only [PairingSession.new, reduceCtorEq, if_true, if_false]
      split
      · rw [made, unwrap_some]
        exact ⟨_, rfl, _, _, rfl⟩
      · exact ⟨_, rfl, _, _, rfl⟩
  · intro begun session calls made run call
    obtain ⟨t, performs, -⟩ := (checked_of_run made run).perform call
    exact ⟨t, performs⟩

theorem pairing_never_panics_early_check : ∃ session t, freshResponder = .ok session ∧
    session.perform (.handlePdu noDraws (build16 Command.pairingDhkeyCheck.opcode .zero)) = .ok t := by
  obtain ⟨session, created⟩ : ∃ session, freshResponder = .ok session := ⟨_, rfl⟩
  have valid : P256Keypair.fromPrivateBe noCurve smpDebugKeyPrivateBe ≠ none := Option.some_ne_none _
  obtain ⟨t, performs⟩ := (pairing_never_panics valid).2 session session [] (.responder created) .nil
    (.handlePdu noDraws (build16 Command.pairingDhkeyCheck.opcode .zero))
  exact ⟨session, t, created, performs⟩

end Simble.Smp
