import Simble.Smp.PhaseOrder

/-! What a bond may be recorded from: a complete session that has not failed, with the keys of the
exchange that completed it. Such a session has nothing more to hear, but its handlers still act on
what comes. -/
namespace Simble.Smp
open Simble.Lib Simble.Crypto PairingSession KeyDistribution Command

variable {curve : P256}

inductive Begun : PairingSession curve → Prop
  | responder {config localAddress localType peerAddress peerType generated irk session} :
    PairingSession.new .responder config localAddress localType peerAddress peerType generated irk =
      .ok session → Begun session
  | initiator {config localAddress localType peerAddress peerType generated irk fresh request
      session} :
    PairingSession.new .initiator config localAddress localType peerAddress peerType generated irk =
      .ok fresh → fresh.start = .ok (request, session) → Begun session

def Happened (begun : PairingSession curve) (calls : List Call)
    (event : PairingSession curve → Call → Prop) : Prop :=
  ∃ front call back s, calls = front ++ call :: back ∧ Run Performs begun front s ∧ event s call

namespace PairingSession
variable (session : PairingSession curve)

/-- The LTK and both check values are there together, from one `f5`. -/
def Derived : Prop :=
  session.ltk = none ∧ session.ea = none ∧ session.eb = none ∨
  ∃ dhKey na nb ioCapA ioCapB,
    session.ltk = some (session.scKeys dhKey na nb).2 ∧
    session.ea = some (f6 (session.scKeys dhKey na nb).1 na nb .zero ioCapA
      (addressWithType session.ia session.iat) (addressWithType session.ra session.rat)) ∧
    session.eb = some (f6 (session.scKeys dhKey na nb).1 nb na .zero ioCapB
      (addressWithType session.ra session.rat) (addressWithType session.ia session.iat))

def Confirms (key : Octets 16) (session : PairingSession curve) : Call → Prop
  | .handlePdu _ pdu => session.failed = false ∧ session.sc = true ∧ session.Derived ∧
    session.ltk = some key ∧ ∃ check, parse16 pdu Command.pairingDhkeyCheck.opcode = some check ∧
      (if session.role = .initiator then session.eb else session.ea) = some check
  | _ => False

def Queues (sent : Bytes) (session : PairingSession curve) : Call → Prop
  | .handlePdu draws pdu => ∃ after, session.step draws pdu = .ok after ∧ sent ∈ after.pending
  | .onLinkEncrypted => sent ∈ session.onLinkEncrypted.pending
  | _ => False

def Receives {α : Type} (command : Command) (parse : Bytes → Option α) (value : α)
    (session : PairingSession curve) : Call → Prop
  | .handlePdu _ pdu => session.failed = false ∧ session.isEncrypted = true ∧
    command.opcode ∈ session.peerExpected ∧ parse pdu = some value
  | _ => False

/-- The keys that a bond keeps are those of the exchange: the LTK that the peer
has confirmed, or the legacy keys that were sent and received. -/
structure Established (begun : PairingSession curve) (calls : List Call) : Prop where
  sc : session.sc = true → ∃ key, session.ltk = some key ∧ Happened begun calls (Confirms key)
  own : session.sc = false → Happened begun calls (Queues (session.keyPdu .encryptionInfo)) ∧
    Happened begun calls (Queues (session.keyPdu .masterIdentification))
  peerLtk : session.sc = false → ∀ value, session.peerLtk = some value → Happened begun calls
    (Receives .encryptionInfo (parse16 · Command.encryptionInfo.opcode) value)
  peerId : session.sc = false → ∀ ediv rand, session.peerEdiv = some ediv →
    session.peerRand = some rand → Happened begun calls
      (Receives .masterIdentification parseMasterId (ediv, rand))

def Completes (pdu : Bytes) : Prop :=
  commandOf pdu = some .pairingRandom ∧ session.peerExpected = [] ∨
    ∃ command, commandOf pdu = some command ∧ command.isKey = true ∧
      session.peerExpected.erase command.opcode = []

def SendsKey (pdu : Bytes) : Prop :=
  session.ownFlags &&& KeyDistribution.encKey ≠ 0 ∧
    (session.role = .initiator ∨ session.ownKeysSent = true ∨
      commandOf pdu = some .pairingRandom ∧
        (session.deferKeyDistribution = false ∨ session.linkEncrypted = true))

def Settles : Call → Prop
  | .handlePdu _ pdu => session.failed = false → session.bonding = true →
    (session.complete = true → ∃ op rest, pdu = op :: rest ∧ Command.ofOpcode op = none) ∧
    (session.isEncrypted = true → ∀ command phase, commandOf pdu = some command →
      command.awaitedIn = some phase → session.Refuses pdu) ∧
    (session.sc = false → commandOf pdu = some .pairingDhkeyCheck → session.Refuses pdu) ∧
    (session.sc = false → session.Completes pdu → ¬ session.Refuses pdu → session.SendsKey pdu)
  | .tick t => session.bonding = true → session.Expires t → session.complete = false
  | .start => False
  | _ => True

structure Live (begun : PairingSession curve) (calls : List Call) : Prop where
  derived : session.Derived
  early : session.isEncrypted = false → session.complete = false ∧ session.ownKeysSent = false ∧
    session.phase ≠ .complete ∧ session.peerLtk = none ∧ session.peerEdiv = none
  sc : session.isEncrypted = true → session.sc = true →
    ∃ key, session.ltk = some key ∧ Happened begun calls (Confirms key)
  own : session.sc = false → session.ownKeysSent = true →
    ∀ command ∈ keyCommands false session.ownFlags,
      Happened begun calls (Queues (session.keyPdu command))
  complete : session.sc = false → session.complete = true →
    session.ownKeysSent = true ∧ session.ownFlags &&& KeyDistribution.encKey ≠ 0
  peerLtk : ∀ value, session.peerLtk = some value → Happened begun calls
    (Receives .encryptionInfo (parse16 · Command.encryptionInfo.opcode) value)
  peerId : ∀ ediv rand, session.peerEdiv = some ediv → session.peerRand = some rand →
    Happened begun calls (Receives .masterIdentification parseMasterId (ediv, rand))

structure Recordable (begun : PairingSession curve) (calls : List Call) : Prop where
  failed : session.failed = true → session.complete = false
  live : session.failed = false → session.Live begun calls

section Distribution
variable {session}

theorem distributeKeys_spec (session : PairingSession curve) :
    ∃ sent pending timer, session.distributeKeys = { session with
      ownKeysSent := sent, pending, timerRemaining := timer } ∧ sent = true ∧
    (session.ownKeysSent = false → ∀ command ∈ keyCommands session.sc session.ownFlags,
      session.keyPdu command ∈ pending) := by
  cases sent : session.ownKeysSent with
  | true =>
    refine ⟨true, session.pending, session.timerRemaining, ?_, rfl, nofun⟩
    rw [session.distributeKeys_sent sent, ← sent]
  | false =>
    refine ⟨_, _, _, session.distributeKeys_eq sent, rfl, ?_⟩
    intro _ command selected
    exact List.mem_append_right _ (List.mem_map_of_mem selected)

theorem completeIfDistributed_spec (session : PairingSession curve) :
    ∃ sent pending timer complete,
    session.completeIfDistributed = { session with
      ownKeysSent := sent, pending, timerRemaining := timer, complete } ∧
    (session.ownKeysSent = true → sent = true ∧ ∀ pdu ∈ session.pending, pdu ∈ pending) ∧
    (session.ownKeysSent = false → sent = true →
      ∀ command ∈ keyCommands session.sc session.ownFlags, session.keyPdu command ∈ pending) ∧
    (complete = true → session.complete = true ∨
      session.peerExpected = [] ∧ (session.role = .initiator → sent = true)) := by
  by_cases over' : session.peerExpected = []
  · rw [session.completeIfDistributed_none over']
    unfold onPeerDistributionComplete
    by_cases initiator : session.role = .initiator
    · rw [if_pos initiator]
      cases before : session.ownKeysSent with
      | true =>
        rw [session.distributeKeys_sent before]
        refine ⟨true, session.pending, none, true, ?_, fun _ => ⟨rfl, fun _ => id⟩, nofun,
          fun _ => .inr ⟨over', fun _ => rfl⟩⟩
        unfold stopTimer
        rw [← before]
      | false =>
        obtain ⟨sent, pending, timer, distributed, done, queued⟩ := session.distributeKeys_spec
        rw [distributed]
        exact ⟨sent, pending, none, true, rfl, nofun, fun _ _ => queued before,
          fun _ => .inr ⟨over', fun _ => done⟩⟩
    · rw [if_neg initiator]
      exact ⟨session.ownKeysSent, session.pending, none, true, rfl, fun sent => ⟨sent, fun _ => id⟩,
        fun unsent sent => absurd (unsent.symm.trans sent) Bool.false_ne_true,
        fun _ => .inr ⟨over', fun role => absurd role initiator⟩⟩
  · rw [session.completeIfDistributed_some over']
    exact ⟨session.ownKeysSent, session.pending, session.timerRemaining, session.complete, rfl,
      fun sent => ⟨sent, fun _ => id⟩,
      fun unsent sent => absurd (unsent.symm.trans sent) Bool.false_ne_true, .inl⟩

/-- What encryption starts: a responder that does not defer sends its keys, and
the session is complete where the peer has none to send. -/
theorem onEncrypted_spec (unsent : session.ownKeysSent = false) :
    ∃ sent pending timer complete, session.onEncrypted = { session with
      isEncrypted := true, phase := .complete
      ownKeysSent := sent, pending, timerRemaining := timer, complete } ∧
    (sent = true → ∀ command ∈ keyCommands session.sc session.ownFlags,
      session.keyPdu command ∈ pending) ∧
    (complete = true → session.complete = true ∨ session.peerExpected = [] ∧
      (session.role = .initiator ∨ session.deferKeyDistribution = false ∨
        session.linkEncrypted = true → sent = true)) := by
  unfold onEncrypted distributeEagerly
  split
  · obtain ⟨sent, pending, timer, distributed, done, queued⟩ :=
      distributeKeys_spec { session with isEncrypted := true, phase := .complete }
    subst done
    rw [distributed]
    obtain ⟨sent, pending', timer, complete, completed, kept, -, finished⟩ :=
      completeIfDistributed_spec { session with
        isEncrypted := true, phase := .complete, ownKeysSent := true, pending
        timerRemaining := timer }
    obtain ⟨still, more⟩ := kept rfl
    refine ⟨sent, pending', timer, complete, completed, ?_, ?_⟩
    · intro _ command selected
      exact more _ (queued unsent command selected)
    · intro now
      exact (finished now).imp id fun finished => ⟨finished.1, fun _ => still⟩
  · rename_i waits
    obtain ⟨sent, pending, timer, complete, completed, -, queued, finished⟩ :=
      completeIfDistributed_spec { session with
        isEncrypted := true, phase := .complete }
    refine ⟨sent, pending, timer, complete, completed, queued unsent, ?_⟩
    intro now
    refine (finished now).imp id fun finished => ⟨finished.1, ?_⟩
    rintro (initiator | eager)
    · exact finished.2 initiator
    · apply finished.2
      by_contra other
      have responder : session.role = .responder := by
        cases role : session.role with
        | initiator => exact absurd role other
        | responder => rfl
      exact waits ⟨responder, by simpa using eager⟩

end Distribution

section Bonding
variable {session t : PairingSession curve} {pdu : Bytes}

theorem step_bonding {draws : Draws} (stepped : session.step draws pdu = .ok t)
    (bonds : t.bonding = true) : session.bonding = true := by
  cases alive : session.failed with
  | true =>
    obtain rfl := Except.ok.inj ((if_pos alive).symm.trans stepped)
    exact bonds
  | false =>
    by_cases refused : session.Refuses pdu
    · obtain ⟨other, steps, failing, reason, rfl, same⟩ := step_refused_by alive draws refused
      obtain rfl := Except.ok.inj (steps.symm.trans stepped)
      exact same.bonds bonds
    by_cases failed : PeerFails pdu
    · obtain ⟨reason, rfl⟩ := failed
      rw [step_command alive draws .pairingFailed [reason]] at stepped
      cases stepped
      exact bonds
    · rcases step_accepted alive refused failed stepped with
        ⟨rfl, -⟩ | ⟨command, rest, rfl, accepted, advanced⟩
      · exact bonds
      · rw [step_command alive] at stepped
        refine (dispatch_hears accepted ?_ stepped).bonds bonds
        rintro rfl
        exact advanced.advances

end Bonding

end PairingSession

section Happened
variable {begun s t : PairingSession curve} {calls : List Call} {call : Call}
  {event : PairingSession curve → Call → Prop}

theorem Happened.snoc (happened : Happened begun calls event) (call : Call) :
    Happened begun (calls ++ [call]) event := by
  obtain ⟨front, now, back, s, rfl, run, holds⟩ := happened
  exact ⟨front, now, back ++ [call], s, by simp, run, holds⟩

theorem Happened.now (run : Run Performs begun calls s) (holds : event s call) :
    Happened begun (calls ++ [call]) event := ⟨calls, call, [], s, rfl, run, holds⟩

end Happened

namespace PairingSession

section Live
variable {session t begun : PairingSession curve} {pdu : Bytes} {calls : List Call}

theorem Live.frame (live : session.Live begun calls) (pending : List Bytes)
    (timerRemaining lastTick : Option Float) (linkEncrypted : Bool) :
    { session with pending, timerRemaining, lastTick, linkEncrypted }.Live begun calls :=
  ⟨live.derived, live.early, live.sc, live.own, live.complete, live.peerLtk, live.peerId⟩

theorem Live.of_unencrypted (derived : session.Derived) (unencrypted : session.isEncrypted = false)
    (incomplete : session.complete = false) (unsent : session.ownKeysSent = false)
    (waits : session.phase ≠ .complete) (noLtk : session.peerLtk = none)
    (noId : session.peerEdiv = none) : session.Live begun calls where
  derived
  early _ := ⟨incomplete, unsent, waits, noLtk, noId⟩
  sc encrypted := absurd (unencrypted.symm.trans encrypted) Bool.false_ne_true
  own _ sent := absurd (unsent.symm.trans sent) Bool.false_ne_true
  complete _ complete := absurd (incomplete.symm.trans complete) Bool.false_ne_true
  peerLtk _ known := nomatch noLtk.symm.trans known
  peerId _ _ known := nomatch noId.symm.trans known

theorem Live.snoc (live : session.Live begun calls) (call : Call) :
    session.Live begun (calls ++ [call]) where
  derived := live.derived
  early := live.early
  sc encrypted secure := by
    obtain ⟨key, held, confirmed⟩ := live.sc encrypted secure
    exact ⟨key, held, confirmed.snoc call⟩
  own legacy sent command selected := (live.own legacy sent command selected).snoc call
  complete := live.complete
  peerLtk value known := (live.peerLtk value known).snoc call
  peerId ediv rand known with' := (live.peerId ediv rand known with').snoc call

theorem Live.encrypts (keyed : PairingSession curve) (unsent : keyed.ownKeysSent = false)
    (incomplete : keyed.complete = false) (noLtk : keyed.peerLtk = none)
    (noId : keyed.peerEdiv = none) (derived : keyed.Derived)
    (confirmed : keyed.sc = true →
      ∃ key, keyed.ltk = some key ∧ Happened begun calls (Confirms key))
    (queued : ∀ sent ∈ keyed.onEncrypted.pending, Happened begun calls (Queues sent))
    (sends : keyed.sc = false → keyed.peerExpected = [] →
      keyed.ownFlags &&& encKey ≠ 0 ∧ (keyed.role = .initiator ∨
        keyed.deferKeyDistribution = false ∨ keyed.linkEncrypted = true)) :
    keyed.onEncrypted.Live begun calls := by
  obtain ⟨sent, pending, timer, complete, encrypted, out, finished⟩ := keyed.onEncrypted_spec unsent
  rw [encrypted] at queued ⊢
  refine ⟨derived, nofun, fun _ => confirmed, ?_, ?_, ?_, ?_⟩
  · intro legacy now command selected
    refine queued _ (out now command ?_)
    rw [show keyed.sc = false from legacy]
    exact selected
  · intro legacy now
    rcases finished now with before | ⟨none, all⟩
    · exact absurd (incomplete.symm.trans before) Bool.false_ne_true
    · obtain ⟨flag, side⟩ := sends legacy none
      exact ⟨all side, flag⟩
  · intro value known
    exact nomatch noLtk.symm.trans known
  · intro ediv rand known
    exact nomatch noId.symm.trans known

theorem Live.completes (next : PairingSession curve) (live : next.Live begun calls)
    (encrypted : next.isEncrypted = true) (incomplete : next.complete = false)
    (queued : ∀ sent ∈ next.completeIfDistributed.pending, Happened begun calls (Queues sent))
    (sends : next.sc = false → next.peerExpected = [] →
      next.ownFlags &&& encKey ≠ 0 ∧
        (next.role = .initiator ∨ next.ownKeysSent = true)) :
    next.completeIfDistributed.Live begun calls := by
  obtain ⟨sent, pending, timer, complete, completed, kept, out, finished⟩ :=
    next.completeIfDistributed_spec
  rw [completed] at queued ⊢
  refine ⟨live.derived, ?_, live.sc, ?_, ?_, live.peerLtk, live.peerId⟩
  · intro plain
    exact absurd (plain.symm.trans encrypted) Bool.false_ne_true
  · intro legacy now command selected
    cases before : next.ownKeysSent with
    | true => exact live.own legacy before command selected
    | false =>
      refine queued _ (out before now command ?_)
      rw [show next.sc = false from legacy]
      exact selected
  · intro legacy now
    rcases finished now with before | ⟨none, all⟩
    · exact absurd (incomplete.symm.trans before) Bool.false_ne_true
    · obtain ⟨flag, side⟩ := sends legacy none
      refine ⟨?_, flag⟩
      rcases side with initiator | before
      · exact all initiator
      · exact (kept before).1

section Handle
variable {after : PairingSession curve} {draws : Draws}

theorem queues_now (run : Run Performs begun calls session)
    (stepped : session.step draws pdu = .ok after) :
    ∀ sent ∈ after.pending, Happened begun (calls ++ [.handlePdu draws pdu]) (Queues sent) := by
  intro sent listed
  exact Happened.now run ⟨after, stepped, listed⟩

theorem Derived.ltk_of_check (derived : session.Derived) {check : Octets 16}
    (held : (if session.role = .initiator then session.eb else session.ea) = some check) :
    ∃ key, session.ltk = some key := by
  rcases derived with ⟨-, noA, noB⟩ | ⟨dhKey, na, nb, ioCapA, ioCapB, key, -, -⟩
  · split at held
    · exact nomatch noB.symm.trans held
    · exact nomatch noA.symm.trans held
  · exact ⟨_, key⟩

theorem Live.checks (run : Run Performs begun calls session) (live : session.Live begun calls)
    (alive : session.failed = false) (unencrypted : session.isEncrypted = false)
    (secure : session.sc = true)
    (accepted : ¬ session.RefusesCommand pdu .pairingDhkeyCheck)
    (stepped : session.step draws pdu = .ok after) (checked : session.onDhkeyCheck pdu = .ok after) :
    after.Live begun (calls ++ [.handlePdu draws pdu]) := by
  obtain ⟨value, parsed, allowed⟩ := not_bad accepted
  have matched := not_not.mp allowed
  obtain ⟨incomplete, unsent, -, noLtk, noId⟩ := live.early unencrypted
  obtain ⟨key, held⟩ := live.derived.ltk_of_check matched
  have confirmed : Happened begun (calls ++ [.handlePdu draws pdu]) (Confirms key) :=
    Happened.now run ⟨alive, secure, live.derived, held, value, parsed, matched⟩
  have queued := queues_now run stepped
  have legacy {other : Prop} (plain : session.sc = false) : other :=
    absurd (secure.symm.trans plain) Bool.noConfusion
  have heard : session.Heard draws pdu .pairingDhkeyCheck after := dispatch_hears accepted nofun checked
  cases heard with
  | check =>
    exact Live.encrypts { session with pending := _, timerRemaining := _ } unsent incomplete noLtk
      noId live.derived (fun _ => ⟨key, held, confirmed⟩) queued fun plain => legacy plain
  | features feature => simp at feature
  | key isKey => contradiction

theorem Live.moves (live : session.Live begun calls) (unencrypted : session.isEncrypted = false)
    {command : Command} (accepted : ¬ session.RefusesCommand pdu command)
    (handshake : command = .pairingRequest ∨ command = .pairingResponse ∨
      command = .pairingConfirm ∨ command = .pairingPublicKey ∨
        command = .pairingRandom ∧ session.sc = true)
    (dispatched : session.dispatch draws pdu (some command) = .ok after) :
    after.Live begun calls := by
  obtain ⟨incomplete, unsent, -, noLtk, noId⟩ := live.early unencrypted
  have derived := live.derived
  have heard := dispatch_hears accepted (by rintro rfl; simp at handshake) dispatched
  cases heard with
  | features _ _ phase =>
    refine Live.of_unencrypted derived unencrypted incomplete unsent ?_ noLtk noId
    rw [phase]
    split <;> exact Phase.noConfusion
  | confirm => exact Live.of_unencrypted derived unencrypted incomplete unsent nofun noLtk noId
  | publicKey _ phase =>
    refine Live.of_unencrypted derived unencrypted incomplete unsent ?_ noLtk noId
    rw [phase]
    split <;> exact Phase.noConfusion
  | @randomSc dhKey na nb =>
    exact Live.of_unencrypted (.inr ⟨dhKey, na, nb, ioCapOctets session.preq,
      ioCapOctets session.pres, rfl, rfl, rfl⟩) unencrypted incomplete unsent nofun noLtk noId
  | randomLegacy legacy =>
    have secure : session.sc = true := by simpa using handshake
    exact absurd (legacy.symm.trans secure) Bool.false_ne_true
  | check => simp at handshake
  | key isKey => rcases handshake with rfl | rfl | rfl | rfl | ⟨rfl, -⟩ <;> contradiction

theorem Live.receives {α : Type} {parsed : Option α} {store : α → PairingSession curve}
    {command : Command} (incomplete : session.complete = false)
    (accepted : ¬ Bad parsed fun _ => session.RefusesKey command)
    (stores : ∀ value, parsed = some value → (store value).Live begun calls ∧
      session.KeepsPeerKeys (store value))
    (queued : ∀ sent ∈ (session.onKey parsed store command.opcode).pending,
      Happened begun calls (Queues sent))
    (sends : session.sc = false → session.peerExpected.erase command.opcode = [] →
      session.ownFlags &&& encKey ≠ 0 ∧
        (session.role = .initiator ∨ session.ownKeysSent = true)) :
    (session.onKey parsed store command.opcode).Live begun calls := by
  obtain ⟨value, reads, allowed⟩ := not_bad accepted
  obtain ⟨stored, ltk, ediv, rand, irk, identity, csrk, same⟩ := stores value reads
  have encrypted : session.isEncrypted = true :=
    Bool.eq_true_of_not_eq_false (not_or.mp allowed).1
  have kept : session.onKey parsed store command.opcode =
      { store value with
        peerExpected := (store value).peerExpected.erase command.opcode }.completeIfDistributed := by
    rw [reads]
    apply checkDistribution_accepted _
    rw [same]
    exact allowed
  rw [kept] at queued ⊢
  refine Live.completes { store value with
      peerExpected := (store value).peerExpected.erase command.opcode }
    ⟨stored.derived, stored.early, stored.sc, stored.own, stored.complete, stored.peerLtk,
      stored.peerId⟩ ?_ ?_ queued ?_
  · rw [same]
    exact encrypted
  · rw [same]
    exact incomplete
  · rw [same]
    exact sends

theorem Live.learns (live : session.Live begun calls) (encrypted : session.isEncrypted = true)
    {ltk : Option (Octets 16)} {ediv : Option UInt16} {rand : Option (Octets 8)}
    (irk : Option (Octets 16)) (identity : Option (UInt8 × Address)) (csrk : Option (Octets 16))
    (received : ∀ value, ltk = some value → Happened begun calls
      (Receives .encryptionInfo (parse16 · encryptionInfo.opcode) value))
    (identified : ∀ e r, ediv = some e → rand = some r →
      Happened begun calls (Receives .masterIdentification parseMasterId (e, r))) :
    { session with
      peerLtk := ltk, peerEdiv := ediv, peerRand := rand, peerIrk := irk
      peerIdentityAddress := identity, peerCsrk := csrk }.Live begun calls where
  derived := live.derived
  early plain := absurd (plain.symm.trans encrypted) Bool.false_ne_true
  sc := live.sc
  own := live.own
  complete := live.complete
  peerLtk := received
  peerId := identified

theorem Live.handles (run : Run Performs begun calls session) (live : session.Live begun calls)
    (alive : session.failed = false) (bonds : session.bonding = true)
    (settles : session.Settles (.handlePdu draws pdu)) (accepted : ¬ session.Refuses pdu)
    (kept : ¬ PeerFails pdu) (stepped : session.step draws pdu = .ok after) :
    after.failed = false ∧ after.Live begun (calls ++ [.handlePdu draws pdu]) := by
  obtain ⟨quiet, late, secured, sending⟩ := settles alive bonds
  rcases step_accepted alive accepted kept stepped with
    ⟨rfl, -⟩ | ⟨command, rest, rfl, taken, advanced⟩
  · exact ⟨alive, live.snoc _⟩
  refine ⟨advanced.alive.trans alive, ?_⟩
  have coded : commandOf (command.opcode :: rest) = some command := by
    simp [commandOf, ofOpcode_opcode]
  have incomplete : session.complete = false := by
    by_contra complete
    obtain ⟨op, tail, same, unknown⟩ := quiet (Bool.eq_true_of_not_eq_false complete)
    cases same
    rw [ofOpcode_opcode] at unknown
    contradiction
  have unencrypted {phase : Phase} (awaited : command.awaitedIn = some phase) :
      session.isEncrypted = false := by
    by_contra encrypted
    exact accepted (late (Bool.eq_true_of_not_eq_false encrypted) command phase coded awaited)
  have sends (legacy : session.sc = false) (completes : session.Completes (command.opcode :: rest)) :
      session.SendsKey (command.opcode :: rest) := sending legacy completes accepted
  have live' := live.snoc (.handlePdu draws (command.opcode :: rest))
  have queued := queues_now run stepped
  have dispatched := stepped
  rw [step_command alive] at dispatched
  have keySends (isKey : command.isKey = true) (other : command ≠ .pairingRandom)
      (legacy : session.sc = false) (last : session.peerExpected.erase command.opcode = []) :
      session.ownFlags &&& encKey ≠ 0 ∧
        (session.role = .initiator ∨ session.ownKeysSent = true) := by
    obtain ⟨flag, side⟩ := sends legacy (.inr ⟨command, coded, isKey, last⟩)
    refine ⟨flag, ?_⟩
    rcases side with initiator | sent | ⟨random, -⟩
    · exact .inl initiator
    · exact .inr sent
    · exact absurd (Option.some.inj (coded.symm.trans random)) other
  cases command with
  | pairingRequest => exact live'.moves (unencrypted rfl) taken (.inl rfl) dispatched
  | pairingResponse => exact live'.moves (unencrypted rfl) taken (.inr (.inl rfl)) dispatched
  | pairingConfirm => exact live'.moves (unencrypted rfl) taken (.inr (.inr (.inl rfl))) dispatched
  | pairingPublicKey =>
    exact live'.moves (unencrypted rfl) taken (.inr (.inr (.inr (.inl rfl)))) dispatched
  | pairingFailed | securityRequest | keypressNotification => exact advanced.advances.elim
  | pairingDhkeyCheck =>
    have secure : session.sc = true := by
      by_contra legacy
      exact accepted (secured (Bool.eq_false_iff.mpr legacy) coded)
    exact live.checks run alive (unencrypted rfl) secure taken stepped dispatched
  | pairingRandom =>
    cases secure : session.sc with
    | true =>
      exact live'.moves (unencrypted rfl) taken (.inr (.inr (.inr (.inr ⟨rfl, secure⟩)))) dispatched
    | false =>
      obtain ⟨value, parsed, allowed⟩ := not_bad taken
      unfold RefusesRandom at allowed
      rw [if_neg (Bool.eq_false_iff.mp secure)] at allowed
      change session.onPairingRandom draws _ = .ok after at dispatched
      rw [onPairingRandom_legacy draws parsed secure (not_not.mp allowed)] at dispatched
      cases dispatched
      obtain ⟨-, unsent, -, noLtk, noId⟩ := live.early (unencrypted rfl)
      refine Live.encrypts (session.keyedLegacy draws value) unsent incomplete noLtk noId
        live.derived (fun now => absurd (secure.symm.trans now) Bool.false_ne_true) queued ?_
      intro legacy none
      obtain ⟨flag, side⟩ := sends secure (.inl ⟨coded, none⟩)
      refine ⟨flag, ?_⟩
      rcases side with initiator | sent | ⟨-, eager⟩
      · exact .inl initiator
      · exact absurd (unsent.symm.trans sent) Bool.false_ne_true
      · exact .inr eager
  | encryptionInfo =>
    cases dispatched
    refine Live.receives incomplete taken ?_ queued (keySends rfl (by decide))
    intro value parsed
    obtain ⟨encrypted, expected⟩ := not_or.mp (not_bad taken).choose_spec.2
    refine ⟨live'.learns (Bool.eq_true_of_not_eq_false encrypted) _ _ _ ?_ live'.peerId,
      ⟨_, _, _, _, _, _, rfl⟩⟩
    rintro _ ⟨⟩
    exact Happened.now run
      ⟨alive, Bool.eq_true_of_not_eq_false encrypted, not_not.mp expected, parsed⟩
  | masterIdentification =>
    cases dispatched
    refine Live.receives incomplete taken ?_ queued (keySends rfl (by decide))
    intro value parsed
    obtain ⟨encrypted, expected⟩ := not_or.mp (not_bad taken).choose_spec.2
    refine ⟨live'.learns (Bool.eq_true_of_not_eq_false encrypted) _ _ _ live'.peerLtk ?_,
      ⟨_, _, _, _, _, _, rfl⟩⟩
    rintro _ _ ⟨⟩ ⟨⟩
    exact Happened.now run
      ⟨alive, Bool.eq_true_of_not_eq_false encrypted, not_not.mp expected, parsed⟩
  | identityInfo | identityAddrInfo | signingInfo =>
    cases dispatched
    refine Live.receives incomplete taken ?_ queued (keySends rfl (by decide))
    intro value parsed
    obtain ⟨encrypted, -⟩ := not_or.mp (not_bad taken).choose_spec.2
    exact ⟨live'.learns (Bool.eq_true_of_not_eq_false encrypted) _ _ _ live'.peerLtk live'.peerId,
      ⟨_, _, _, _, _, _, rfl⟩⟩

end Handle

end Live

section Runs
variable {session t begun : PairingSession curve} {calls : List Call} {call : Call}

theorem Live.linked (run : Run Performs begun calls session) (live : session.Live begun calls) :
    session.onLinkEncrypted.Live begun (calls ++ [.onLinkEncrypted]) := by
  have live' := live.snoc .onLinkEncrypted
  have queued : ∀ sent ∈ session.onLinkEncrypted.pending,
      Happened begun (calls ++ [.onLinkEncrypted]) (Queues sent) :=
    fun sent listed => Happened.now run listed
  unfold onLinkEncrypted at queued ⊢
  split
  · rename_i done
    rw [if_pos done] at queued
    obtain ⟨sent, pending, timer, distributed, now, out⟩ :=
      distributeKeys_spec { session with linkEncrypted := true }
    rw [distributed] at queued ⊢
    refine ⟨live.derived, ?_, live'.sc, ?_, fun legacy complete => ⟨now, (live.complete legacy complete).2⟩,
      live'.peerLtk, live'.peerId⟩
    · intro plain
      exact absurd done.1 (live.early plain).2.2.1
    · intro legacy _ command selected
      cases before : session.ownKeysSent with
      | true => exact live'.own legacy before command selected
      | false =>
        refine queued _ (out before command ?_)
        rw [show session.sc = false from legacy]
        exact selected
  · exact live'.frame _ _ _ true

theorem onLinkEncrypted_frame (session : PairingSession curve) :
    session.onLinkEncrypted.failed = session.failed ∧
      session.onLinkEncrypted.complete = session.complete ∧
        session.onLinkEncrypted.bonding = session.bonding := by
  unfold onLinkEncrypted
  split
  · obtain ⟨sent, pending, timer, distributed⟩ :=
      { session with linkEncrypted := true }.distributeKeys_frame
    rw [distributed]
    exact ⟨rfl, rfl, rfl⟩
  · exact ⟨rfl, rfl, rfl⟩

theorem Recordable.performs (run : Run Performs begun calls session)
    (recordable : session.bonding = true → session.Recordable begun calls)
    (settles : session.Settles call) (performed : Performs session call t)
    (bonds : t.bonding = true) : t.Recordable begun (calls ++ [call]) := by
  cases call with
  | start => exact settles.elim
  | pollPending =>
    cases performed
    obtain ⟨failed, live⟩ := recordable bonds
    exact ⟨failed, fun alive => ((live alive).snoc _).frame _ _ _ _⟩
  | onLinkEncrypted =>
    cases performed
    obtain ⟨sameFailed, sameComplete, sameBonding⟩ := session.onLinkEncrypted_frame
    obtain ⟨failed, live⟩ := recordable (sameBonding.symm.trans bonds)
    refine ⟨?_, fun alive => (live (sameFailed.symm.trans alive)).linked run⟩
    intro dead
    exact sameComplete.trans (failed (sameFailed.symm.trans dead))
  | tick time =>
    cases performed
    by_cases expires : session.Expires time
    · rw [tick_expired expires] at bonds ⊢
      exact ⟨fun _ => settles bonds expires, nofun⟩
    · obtain ⟨timer, ticked⟩ := tick_quiet expires
      rw [ticked] at bonds ⊢
      obtain ⟨failed, live⟩ := recordable bonds
      exact ⟨failed, fun alive => ((live alive).snoc _).frame _ _ _ _⟩
  | handlePdu draws pdu =>
    obtain ⟨after, stepped, rfl⟩ := handlePdu_eq_ok performed
    have bonded := step_bonding stepped bonds
    obtain ⟨failed, live⟩ := recordable bonded
    cases alive : session.failed with
    | true =>
      unfold step at stepped
      rw [if_pos alive] at stepped
      cases stepped
      exact ⟨failed, fun now => absurd (now.symm.trans alive) Bool.false_ne_true⟩
    | false =>
      have incomplete (heard : pdu = [] ∨ ∃ (command : Command) (rest : Bytes), pdu = command.opcode :: rest) :
          session.complete = false := by
        by_contra complete
        obtain ⟨op, tail, same, unknown⟩ :=
          (settles alive bonded).1 (Bool.eq_true_of_not_eq_false complete)
        rcases heard with rfl | ⟨command, rest, rfl⟩
        · contradiction
        · cases same
          rw [ofOpcode_opcode] at unknown
          contradiction
      by_cases refused : session.Refuses pdu
      · obtain ⟨other, same, reason, into⟩ := step_refused alive draws refused
        obtain rfl := Except.ok.inj (stepped.symm.trans same)
        refine ⟨fun _ => into.complete.trans (incomplete ?_),
          fun now => absurd (now.symm.trans into.failed) Bool.false_ne_true⟩
        cases pdu with
        | nil => exact .inl rfl
        | cons op rest =>
          obtain ⟨command, coded, -⟩ := refused
          exact .inr ⟨command, rest, by rw [ofOpcode_eq_some.mp coded]⟩
      · by_cases announced : PeerFails pdu
        · obtain ⟨other, same, into⟩ := step_peerFails alive draws announced
          obtain rfl := Except.ok.inj (stepped.symm.trans same)
          obtain ⟨reason, rfl⟩ := announced
          exact ⟨fun _ => into.complete.trans (incomplete (.inr ⟨.pairingFailed, [reason], rfl⟩)),
            fun now => absurd (now.symm.trans into.failed) Bool.false_ne_true⟩
        · obtain ⟨still, lives⟩ :=
            (live alive).handles run alive bonded settles refused announced stepped
          exact ⟨fun dead => absurd (still.symm.trans dead) Bool.false_ne_true,
            fun _ => lives.frame _ _ _ _⟩

theorem new_peerKeys {role : Role} {config : PairingConfig} {localAddress peerAddress : Address}
    {localType peerType : AddressType} {generated : P256Keypair curve} {irk : Octets 16}
    (created : PairingSession.new role config localAddress localType peerAddress peerType generated
      irk = .ok session) : session.peerLtk = none ∧ session.peerEdiv = none := by
  cases role <;> cases localType <;>
  · simp only [PairingSession.new, reduceCtorEq, if_true, if_false] at created
    split at created <;>
    · obtain ⟨ecdh, -, made⟩ := Rust.bind_eq_ok.mp created
      cases made
      exact ⟨rfl, rfl⟩

theorem recordable_begun (made : Begun begun) : begun.Recordable begun [] := by
  have unencrypted {fresh : PairingSession curve} {role : Role} {config : PairingConfig}
      (clean : fresh.Fresh role config) (keys : fresh.peerLtk = none ∧ fresh.peerEdiv = none) :
      fresh.Live begun [] := by
    refine Live.of_unencrypted (.inl ⟨clean.secrets.2.2.1, clean.secrets.2.2.2⟩) clean.unencrypted
      clean.incomplete clean.unsent ?_ keys.1 keys.2
    rw [clean.phase]
    decide
  cases made with
  | responder created =>
    obtain ⟨clean, -⟩ := new_eq_ok created
    exact ⟨fun _ => clean.incomplete, fun _ => unencrypted clean (new_peerKeys created)⟩
  | initiator created started =>
    obtain ⟨clean, -⟩ := new_eq_ok created
    obtain ⟨preq, -, made⟩ := Rust.bind_eq_ok.mp started
    cases made
    have live := unencrypted clean (new_peerKeys created)
    obtain ⟨incomplete, unsent, -, noLtk, noId⟩ := live.early clean.unencrypted
    exact ⟨fun _ => clean.incomplete,
      fun _ => Live.of_unencrypted live.derived clean.unencrypted incomplete unsent nofun noLtk noId⟩

theorem recordable_of_run (made : Begun begun)
    (run : Run (Guarded Settles Performs) begun calls session) (bonds : session.bonding = true) :
    session.Recordable begun calls := by
  induction run with
  | nil => exact recordable_begun made
  | snoc earlier stepped ih =>
    exact Recordable.performs earlier.unguarded ih stepped.1 stepped.2 bonds

theorem Recordable.established (recordable : session.Recordable begun calls)
    (complete : session.complete = true) :
    session.failed = false ∧ session.Established begun calls := by
  have alive : session.failed = false := by
    by_contra failed
    have incomplete := recordable.failed (Bool.eq_true_of_not_eq_false failed)
    exact absurd (incomplete.symm.trans complete) Bool.false_ne_true
  have live := recordable.live alive
  have encrypted : session.isEncrypted = true := by
    by_contra plain
    have incomplete := (live.early (Bool.eq_false_iff.mpr plain)).1
    exact absurd (incomplete.symm.trans complete) Bool.false_ne_true
  refine ⟨alive, live.sc encrypted, ?_, fun _ => live.peerLtk, fun _ => live.peerId⟩
  intro legacy
  obtain ⟨sent, flag⟩ := live.complete legacy complete
  have selected : keyCommands false session.ownFlags = [.encryptionInfo, .masterIdentification] ++
      ((if session.ownFlags &&& idKey ≠ 0 then
        [.identityInfo, .identityAddrInfo] else []) ++
      (if session.ownFlags &&& signKey ≠ 0 then [.signingInfo] else [])) := by
    unfold keyCommands
    rw [if_pos ⟨Bool.false_ne_true, flag⟩, List.append_assoc]
  refine ⟨live.own legacy sent _ ?_, live.own legacy sent _ ?_⟩
  · rw [selected]
    exact List.mem_append_left _ List.mem_cons_self
  · rw [selected]
    exact List.mem_append_left _ (List.mem_cons_of_mem _ List.mem_cons_self)

end Runs

end PairingSession
end Simble.Smp
