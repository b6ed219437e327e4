import Simble.Smp.Refusal
import Simble.Lib.Run

/-! What a failed session leaves behind. A failure drops the secrets but keeps flags and queue, so
it is clean exactly where it strikes before encryption, under Secure Connections and with nothing
queued. -/
namespace Simble.Smp
open Simble.Lib Simble.Crypto PairingSession

variable {curve : P256}

inductive Call where
  | start
  | handlePdu (draws : Draws) (pdu : Bytes)
  | pollPending
  | tick (t : Float)
  | onLinkEncrypted

namespace PairingSession
variable (session : PairingSession curve)

def perform : Call → Rust (PairingSession curve)
  | .start => do
    let started ← session.start
    pure started.2
  | .handlePdu draws pdu => do
    let handled ← session.handlePdu draws pdu
    pure handled.2
  | .pollPending => .ok session.pollPending.2
  | .tick t => .ok (session.tick t).2
  | .onLinkEncrypted => .ok session.onLinkEncrypted

/-- The seconds that a tick at `t` counts. -/
def elapsed (t : Float) : Float :=
  match session.lastTick with
  | some previous => if t > previous then t - previous else 0.0
  | none => 0.0

/-- The Security Manager Timer runs out at `t`. -/
def Expires (t : Float) : Prop :=
  ∃ remaining, session.timerRemaining = some remaining ∧ ¬ remaining - session.elapsed t > 0.0

/-- Nothing that a failure leaves standing is set. -/
structure Blank (sc : Bool) : Prop where
  sc : sc = true
  unencrypted : session.isEncrypted = false
  incomplete : session.complete = false

def FailsEarly : Call → Prop
  | .handlePdu _ pdu => session.failed = false →
    (session.Refuses pdu → session.Blank (session.scAfter pdu) ∧ session.pending = []) ∧
      (PeerFails pdu → session.Blank session.sc ∧ session.pending.length ≤ 1)
  | .tick t => session.Expires t → session.Blank session.sc
  | _ => True

structure NothingUsable (calls : List Call) : Prop where
  ltk : session.getLtk = none
  unencrypted : session.isEncrypted = false
  incomplete : session.complete = false
  keys : session.pairingKeys.ltk = none ∧ session.pairingKeys.ltkCentral = none ∧
    session.pairingKeys.ltkPeripheral = none
  inert : ∀ draws pdu, session.handlePdu draws pdu = .ok (none, session)
  onlyFailed : ∀ pdu ∈ session.pending, PeerFails pdu
  silent : (session.timedOut = true ∨
    ∃ draws pdu, PeerFails pdu ∧ .handlePdu draws pdu ∈ calls) → session.pending = []

/-- A failed session that will stay as it is. -/
structure Dead : Prop where
  blank : session.Blank session.sc
  ltk : session.ltk = none
  mute : session.pending = []
  phase : session.phase ≠ .complete

end PairingSession

def Performs (s : PairingSession curve) (call : Call) (t : PairingSession curve) : Prop :=
  s.perform call = .ok t

theorem performs_deterministic (s : PairingSession curve) (call : Call)
    (t u : PairingSession curve) (first : Performs s call t) (second : Performs s call u) : t = u :=
  Except.ok.inj (first.symm.trans second)

namespace PairingSession
variable {session t : PairingSession curve}

theorem no_ltk_iff (session : PairingSession curve) :
    (session.pairingKeys.ltk = none ∧ session.pairingKeys.ltkCentral = none ∧
      session.pairingKeys.ltkPeripheral = none) ↔ session.sc = true ∧ session.ltk = none := by
  unfold pairingKeys
  cases secure : session.sc with
  | true => simp
  | false => cases role : session.role <;> simp

theorem handlePdu_eq_ok {draws : Draws} {pdu : Bytes}
    (performed : Performs session (.handlePdu draws pdu) t) :
    ∃ after, session.step draws pdu = .ok after ∧ t = after.pollPending.2 := by
  obtain ⟨handled, handles, result⟩ := Rust.bind_eq_ok.mp performed
  obtain ⟨after, stepped, polled⟩ := Rust.bind_eq_ok.mp handles
  refine ⟨after, stepped, ?_⟩
  cases polled
  exact (Except.ok.inj result).symm

theorem handlePdu_failed (failed : session.failed = true) (draws : Draws) (pdu : Bytes) :
    session.handlePdu draws pdu = .ok session.pollPending := by
  unfold handlePdu step
  rw [if_pos failed]
  rfl

theorem tick_quiet {time : Float} (runs : ¬ session.Expires time) :
    ∃ timer, (session.tick time).2 =
      { session with lastTick := some time, timerRemaining := timer } := by
  unfold tick
  cases timer : session.timerRemaining with
  | none =>
    refine ⟨session.timerRemaining, ?_⟩
    rw [timer]
  | some remaining =>
    have more : remaining - session.elapsed time > 0.0 := by
      by_contra over'
      exact runs ⟨remaining, timer, over'⟩
    refine ⟨some (remaining - session.elapsed time), ?_⟩
    exact congrArg Prod.snd (if_pos more)

theorem tick_expired {time : Float} (expires : session.Expires time) :
    (session.tick time).2 = { session with
      lastTick := some time, timerRemaining := none, timedOut := true, phase := .failed
      failed := true, tk := .zero, stk := none, dhKey := none, ltk := none, ea := none, eb := none
      peerConfirm := none, pending := [] } := by
  obtain ⟨remaining, timer, spent⟩ := expires
  unfold tick
  rw [timer]
  exact congrArg Prod.snd (if_neg spent)

theorem Dead.nothingUsable (dead : session.Dead) (failed : session.failed = true)
    (calls : List Call) : session.NothingUsable calls where
  ltk := (if_pos dead.blank.sc).trans dead.ltk
  unencrypted := dead.blank.unencrypted
  incomplete := dead.blank.incomplete
  keys := session.no_ltk_iff.mpr ⟨dead.blank.sc, dead.ltk⟩
  inert draws pdu := by
    rw [handlePdu_failed failed]
    refine congrArg Except.ok (Prod.ext ?_ ?_)
    · exact congrArg List.head? dead.mute
    · have tail : session.pending.tail = session.pending := by rw [dead.mute]; rfl
      simp only [pollPending, tail]
  onlyFailed := by
    rw [dead.mute]
    intro pdu absent
    contradiction
  silent _ := dead.mute

theorem Dead.performs {call : Call} (dead : session.Dead) (failed : session.failed = true)
    (performed : Performs session call t) : t.Dead := by
  obtain ⟨⟨sc, unencrypted, incomplete⟩, ltk, mute, phase⟩ := id dead
  cases call with
  | start =>
    cases performed
    refine ⟨⟨sc, unencrypted, incomplete⟩, ltk, mute, ?_⟩
    exact Phase.noConfusion
  | handlePdu draws pdu =>
    obtain ⟨after, stepped, rfl⟩ := handlePdu_eq_ok performed
    obtain rfl := Except.ok.inj ((if_pos failed).symm.trans stepped)
    exact ⟨⟨sc, unencrypted, incomplete⟩, ltk, congrArg List.tail mute, phase⟩
  | pollPending =>
    cases performed
    exact ⟨⟨sc, unencrypted, incomplete⟩, ltk, congrArg List.tail mute, phase⟩
  | tick time =>
    cases performed
    by_cases expires : session.Expires time
    · rw [tick_expired expires]
      exact ⟨⟨sc, unencrypted, incomplete⟩, rfl, rfl, Phase.noConfusion⟩
    · obtain ⟨timer, ticked⟩ := tick_quiet expires
      rw [ticked]
      exact ⟨⟨sc, unencrypted, incomplete⟩, ltk, mute, phase⟩
  | onLinkEncrypted =>
    cases performed
    have linked : session.onLinkEncrypted = { session with linkEncrypted := true } :=
      if_neg fun both => phase both.1
    rw [linked]
    exact ⟨⟨sc, unencrypted, incomplete⟩, ltk, mute, phase⟩

theorem FailedInto.dead {after : PairingSession curve} {sc : Bool} {left : List Bytes}
    (fails : session.FailedInto after sc left) (blank : session.Blank sc)
    (few : left.length ≤ 1) : after.pollPending.2.failed = true ∧ after.pollPending.2.Dead := by
  refine ⟨fails.failed, ⟨fails.sc.trans ?_, fails.encrypted.trans blank.unencrypted,
    fails.complete.trans blank.incomplete⟩, fails.keys.1, ?_, ?_⟩
  · exact blank.sc
  · show after.pending.tail = []
    rw [fails.pending]
    exact List.eq_nil_of_length_eq_zero (by rw [List.length_tail]; omega)
  · show after.phase ≠ .complete
    rw [fails.phase]
    exact Phase.noConfusion

theorem performs_alive {call : Call} (alive : session.failed = false)
    (early : session.FailsEarly call) (performed : Performs session call t) :
    t.failed = false ∨ t.failed = true ∧ t.Dead := by
  cases call with
  | start =>
    cases performed
    exact .inl alive
  | pollPending =>
    cases performed
    exact .inl alive
  | onLinkEncrypted =>
    cases performed
    refine .inl ?_
    show session.onLinkEncrypted.failed = false
    unfold onLinkEncrypted
    split
    · obtain ⟨sent, pending, timer, distributed⟩ :=
        { session with linkEncrypted := true }.distributeKeys_frame
      rw [distributed]
      exact alive
    · exact alive
  | tick time =>
    cases performed
    by_cases expires : session.Expires time
    · obtain ⟨sc, unencrypted, incomplete⟩ := early expires
      rw [tick_expired expires]
      exact .inr ⟨rfl, ⟨sc, unencrypted, incomplete⟩, rfl, rfl, Phase.noConfusion⟩
    · obtain ⟨timer, ticked⟩ := tick_quiet expires
      rw [ticked]
      exact .inl alive
  | handlePdu draws pdu =>
    obtain ⟨after, stepped, rfl⟩ := handlePdu_eq_ok performed
    obtain ⟨onRefused, onFailed⟩ := early alive
    by_cases refused : session.Refuses pdu
    · obtain ⟨blank, mute⟩ := onRefused refused
      obtain ⟨other, steps, reason, fails⟩ := step_refused alive draws refused
      obtain rfl := Except.ok.inj (steps.symm.trans stepped)
      exact .inr (fails.dead blank (by simp [mute]))
    · by_cases failed : PeerFails pdu
      · obtain ⟨blank, few⟩ := onFailed failed
        obtain ⟨other, steps, fails⟩ := step_peerFails alive draws failed
        obtain rfl := Except.ok.inj (steps.symm.trans stepped)
        exact .inr (fails.dead blank few)
      · rcases step_accepted alive refused failed stepped with ⟨same, -⟩ | ⟨command, rest, -, -, advanced⟩
        · rw [same]
          exact .inl alive
        · exact .inl (advanced.alive.trans alive)

theorem NothingUsable.blank {calls : List Call} (unusable : t.NothingUsable calls)
    (failed : t.failed = true) : t.Blank t.sc ∧ t.pending = [] := by
  refine ⟨⟨(t.no_ltk_iff.mp unusable.keys).1, unusable.unencrypted, unusable.incomplete⟩, ?_⟩
  have inert := unusable.inert ⟨.zero, .zero, 0, .zero⟩ []
  rw [handlePdu_failed failed] at inert
  have polled := congrArg Prod.fst (Except.ok.inj inert)
  exact List.head?_eq_none_iff.mp polled

theorem FailedInto.blank {after : PairingSession curve} {sc : Bool} {left : List Bytes}
    {calls : List Call} (fails : session.FailedInto after sc left)
    (unusable : after.pollPending.2.NothingUsable calls) : session.Blank sc ∧ left.tail = [] := by
  obtain ⟨⟨secure, unencrypted, incomplete⟩, mute⟩ := unusable.blank fails.failed
  exact ⟨⟨fails.sc.symm.trans secure, fails.encrypted.symm.trans unencrypted,
    fails.complete.symm.trans incomplete⟩, (congrArg List.tail fails.pending).symm.trans mute⟩

theorem not_refuses_of_peerFails {pdu : Bytes} (fails : PeerFails pdu) : ¬ session.Refuses pdu := by
  obtain ⟨reason, rfl⟩ := fails
  rintro ⟨command, coded, refused⟩
  obtain rfl := Command.opcode_inj.mp (Command.ofOpcode_eq_some.mp coded)
  exact refused rfl

theorem performs_late {call : Call} {calls : List Call} (late : ¬ session.FailsEarly call)
    (performed : Performs session call t) : t.failed = true ∧ ¬ t.NothingUsable calls := by
  cases call with
  | start | pollPending | onLinkEncrypted => exact absurd trivial late
  | tick time =>
    cases performed
    have expires : session.Expires time := by
      by_contra runs
      exact late fun expires => absurd expires runs
    rw [tick_expired expires]
    refine ⟨rfl, ?_⟩
    intro unusable
    obtain ⟨⟨sc, unencrypted, incomplete⟩, -⟩ := unusable.blank rfl
    exact late fun _ => ⟨sc, unencrypted, incomplete⟩
  | handlePdu draws pdu =>
    obtain ⟨after, stepped, rfl⟩ := handlePdu_eq_ok performed
    have alive : session.failed = false := by
      by_contra failed
      exact late fun alive => absurd alive failed
    by_cases refused : session.Refuses pdu
    · obtain ⟨other, steps, reason, fails⟩ := step_refused alive draws refused
      obtain rfl := Except.ok.inj (steps.symm.trans stepped)
      refine ⟨fails.failed, ?_⟩
      intro unusable
      obtain ⟨blank, polled⟩ := fails.blank unusable
      refine late fun _ => ⟨fun _ => ⟨blank, ?_⟩,
        fun peer => absurd refused (not_refuses_of_peerFails peer)⟩
      cases queued : session.pending with
      | nil => rfl
      | cons => simp [queued] at polled
    · by_cases failed : PeerFails pdu
      · obtain ⟨other, steps, fails⟩ := step_peerFails alive draws failed
        obtain rfl := Except.ok.inj (steps.symm.trans stepped)
        refine ⟨fails.failed, ?_⟩
        intro unusable
        obtain ⟨blank, polled⟩ := fails.blank unusable
        refine late fun _ => ⟨fun other => absurd other refused, fun _ => ⟨blank, ?_⟩⟩
        have shorter := congrArg List.length polled
        rw [List.length_tail, List.length_nil] at shorter
        omega
      · refine absurd ?_ late
        exact fun _ => ⟨fun other => absurd other refused, fun other => absurd other failed⟩

end PairingSession

section Runs
variable {session t : PairingSession curve}

theorem guarded_dead (alive : session.failed = false) {calls : List Call}
    (run : Run (Guarded FailsEarly Performs) session calls t) : t.failed = true → t.Dead := by
  refine run.invariant (P := fun _ t => t.failed = true → t.Dead) ?_ ?_
  · rw [alive]
    intro failed
    contradiction
  · rintro calls s call next ih ⟨early, performed⟩ failed
    cases before : s.failed with
    | true => exact (ih before).performs before performed
    | false =>
      rcases performs_alive before early performed with still | ⟨-, dead⟩
      · rw [still] at failed
        contradiction
      · exact dead

/-- A history leaves nothing usable behind a failure at any point, exactly when
each failure in it strikes early. -/
theorem failure_contained_iff {role : Role} {config : PairingConfig}
    {localAddress peerAddress : Address} {localType peerType : AddressType}
    {generated : P256Keypair curve} {irk : Octets 16}
    (created : PairingSession.new role config localAddress localType peerAddress peerType generated
      irk = .ok session)
    {calls : List Call} (run : Run Performs session calls t) :
    (∀ before u, before <+: calls → Run Performs session before u →
      u.failed = true → u.NothingUsable before) ↔
      Run (Guarded FailsEarly Performs) session calls t := by
  have fresh := (new_eq_ok created).1
  refine Run.always_iff_guarded (P := fun before u => u.failed = true → u.NothingUsable before)
    performs_deterministic ?_ ?_ run
  · intro before u guarded failed
    exact (guarded_dead fresh.alive guarded failed).nothingUsable failed before
  · intro before u call next _ performed late contained
    obtain ⟨failed, usable⟩ := performs_late late performed
    exact usable (contained failed)

end Runs

/-- A responder as `VirtualDevice` makes one, before the first PDU. -/
def freshResponder : Rust (PairingSession noCurve) :=
  PairingSession.new .responder .default Address.any .randomDevice Address.any .randomDevice
    ⟨(), .zero, .zero⟩ .zero

def noDraws : Draws := ⟨.zero, .zero, 0, .zero⟩

theorem failure_contained_iff_empty_pdu : ∃ session t, freshResponder = .ok session ∧
    Performs session (.handlePdu noDraws []) t ∧
    (t.failed = true → t.NothingUsable [.handlePdu noDraws []]) := by
  obtain ⟨session, created⟩ : ∃ session, freshResponder = .ok session := ⟨_, rfl⟩
  have fresh := (new_eq_ok created).1
  obtain ⟨after, stepped, -⟩ := step_refused fresh.alive noDraws (show session.Refuses [] from trivial)
  have performed : Performs session (.handlePdu noDraws []) after.pollPending.2 := by
    simp only [Performs, perform, handlePdu, stepped, Rust.ok_bind]
    rfl
  have early : session.FailsEarly (.handlePdu noDraws []) := fun _ =>
    ⟨fun _ => ⟨⟨fresh.sc, fresh.unencrypted, fresh.incomplete⟩, fresh.mute⟩, by
      rintro ⟨reason, wrong⟩
      contradiction⟩
  have contained := (failure_contained_iff created (.snoc .nil performed)).mpr
    (.snoc .nil ⟨early, performed⟩)
  exact ⟨session, _, created, performed,
    contained _ _ (List.prefix_refl _) (.snoc .nil performed)⟩

/-- A Pairing Request without the Secure Connections bit, and then an empty PDU:
the failed session still hands out a long term key. -/
theorem not_failure_contained : ∃ session t, freshResponder = .ok session ∧
    Run Performs session [.handlePdu noDraws [0x01, 0x03, 0x00, 0x01, 0x10, 0x03, 0x03],
      .handlePdu noDraws []] t ∧
    t.failed = true ∧ ¬ t.NothingUsable [.handlePdu noDraws
      [0x01, 0x03, 0x00, 0x01, 0x10, 0x03, 0x03], .handlePdu noDraws []] := by
  obtain ⟨session, s, created, requested, alive, legacy⟩ : ∃ session s,
      freshResponder = .ok session ∧
      Performs session (.handlePdu noDraws [0x01, 0x03, 0x00, 0x01, 0x10, 0x03, 0x03]) s ∧
      s.failed = false ∧ s.sc = false := ⟨_, _, rfl, rfl, rfl, rfl⟩
  obtain ⟨after, stepped, -⟩ := step_refused alive noDraws (show s.Refuses [] from trivial)
  have performed : Performs s (.handlePdu noDraws []) after.pollPending.2 := by
    simp only [Performs, perform, handlePdu, stepped, Rust.ok_bind]
    rfl
  have late : ¬ s.FailsEarly (.handlePdu noDraws []) := by
    intro early
    have secure := ((early alive).1 trivial).1.sc
    exact Bool.false_ne_true (legacy.symm.trans secure)
  exact ⟨session, _, created, .snoc (.snoc .nil requested) performed, performs_late late performed⟩

end Simble.Smp
