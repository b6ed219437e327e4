import Simble.Smp.Distribution

/-! Which PDUs fail a session, and what each of the others makes of it. The
tests are the handlers' own, made on the PDU and on the session before it. -/
namespace Simble.Smp
open Simble.Crypto Command

namespace PairingSession
variable {curve : P256} (session : PairingSession curve)

/-- A PDU is bad if it does not parse or if what it parses to is. -/
def Bad {α : Type} (parsed : Option α) (bad : α → Prop) : Prop := ∀ value, parsed = some value → bad value

/-- The random value does not open the commitment, or comes before it. -/
def RefusesRandom (value : Octets 16) : Prop :=
  if session.sc then
    session.dhKey = none ∨ session.role = .initiator ∧
      session.peerConfirm ≠ some (f4 session.peerPubX session.localPubX value 0)
  else session.peerConfirm ≠ some (session.legacyConfirm value)

/-- A key-distribution PDU that comes before encryption or is not expected. -/
def RefusesKey (command : Command) : Prop :=
  session.isEncrypted = false ∨ command.opcode ∉ session.peerExpected

def RefusesCommand (pdu : Bytes) : Command → Prop
  | .pairingRequest => session.role ≠ .responder ∨ parsePairingParameters pdu = none
  | .pairingResponse =>
    session.role ≠ .initiator ∨ Bad (parsePairingParameters pdu) fun resp => ¬ session.Grants resp
  | .pairingConfirm =>
    Bad (parse16 pdu Command.pairingConfirm.opcode) fun _ =>
      session.sc = true ∧ session.role ≠ .initiator
  | .pairingRandom => Bad (parse16 pdu Command.pairingRandom.opcode) session.RefusesRandom
  | .pairingFailed => pdu.length ≠ 2
  | .pairingPublicKey =>
    Bad (parsePublicKey pdu) fun point => session.ecdh.sharedXLe point.1 point.2 = none
  | .pairingDhkeyCheck =>
    Bad (parse16 pdu Command.pairingDhkeyCheck.opcode) fun value =>
      (if session.role = .initiator then session.eb else session.ea) ≠ some value
  | .encryptionInfo =>
    Bad (parse16 pdu Command.encryptionInfo.opcode) fun _ => session.RefusesKey .encryptionInfo
  | .masterIdentification =>
    Bad (parseMasterId pdu) fun _ => session.RefusesKey .masterIdentification
  | .identityInfo =>
    Bad (parse16 pdu Command.identityInfo.opcode) fun _ => session.RefusesKey .identityInfo
  | .identityAddrInfo =>
    Bad (parseIdentityAddrInfo pdu) fun _ => session.RefusesKey .identityAddrInfo
  | .signingInfo =>
    Bad (parse16 pdu Command.signingInfo.opcode) fun _ => session.RefusesKey .signingInfo
  | .securityRequest | .keypressNotification => True

/-- The PDU fails a session that has not failed yet. -/
def Refuses : Bytes → Prop
  | [] => True
  | op :: rest => ∃ command, Command.ofOpcode op = some command ∧
    session.RefusesCommand (op :: rest) command

def PeerFails (pdu : Bytes) : Prop := ∃ reason, pdu = [Command.pairingFailed.opcode, reason]

/-- Whether Secure Connections is in force once the PDU has been refused: a
Pairing Response that grants too much has its flags taken over first. -/
def scAfter (pdu : Bytes) : Bool :=
  if pdu.head? = some Command.pairingResponse.opcode ∧ session.role = .initiator then
    ((parsePairingParameters pdu).map session.agreedSc).getD session.sc
  else session.sc

/-- `t` is the session after a failure, with `left` still queued. -/
structure FailedInto (t : PairingSession curve) (sc : Bool) (left : List Bytes) : Prop where
  failed : t.failed = true
  phase : t.phase = .failed
  sc : t.sc = sc
  keys : t.ltk = none ∧ t.stk = none
  encrypted : t.isEncrypted = session.isEncrypted
  complete : t.complete = session.complete
  pending : t.pending = left
  role : t.role = session.role

/-- `t` is the session after a refused PDU. -/
def FailsInto (t : PairingSession curve) (sc : Bool) : Prop :=
  ∃ reason, session.FailedInto t sc (session.pending ++ [[Command.pairingFailed.opcode, reason]])

section Frames

theorem distributeKeys_frame : ∃ sent pending timer, session.distributeKeys = { session with
    ownKeysSent := sent, pending, timerRemaining := timer } := by
  cases sent : session.ownKeysSent with
  | true =>
    refine ⟨true, session.pending, session.timerRemaining, ?_⟩
    rw [session.distributeKeys_sent sent, ← sent]
  | false => exact ⟨_, _, _, session.distributeKeys_eq sent⟩

theorem onPeerDistributionComplete_frame : ∃ sent pending timer,
    session.onPeerDistributionComplete = { session with
      ownKeysSent := sent, pending, timerRemaining := timer, complete := true } := by
  unfold onPeerDistributionComplete
  split
  · obtain ⟨sent, pending, timer, distributed⟩ := session.distributeKeys_frame
    rw [distributed]
    exact ⟨_, _, _, rfl⟩
  · exact ⟨_, _, _, rfl⟩

theorem completeIfDistributed_frame : ∃ sent pending timer complete,
    session.completeIfDistributed = { session with
      ownKeysSent := sent, pending, timerRemaining := timer, complete } := by
  unfold completeIfDistributed
  split
  · obtain ⟨sent, pending, timer, completed⟩ := session.onPeerDistributionComplete_frame
    exact ⟨_, _, _, _, completed⟩
  · exact ⟨_, _, _, _, rfl⟩

theorem onEncrypted_frame : ∃ sent pending timer complete, session.onEncrypted = { session with
    isEncrypted := true, phase := .complete
    ownKeysSent := sent, pending, timerRemaining := timer, complete } := by
  unfold onEncrypted distributeEagerly
  split
  · obtain ⟨sent, pending, timer, distributed⟩ :=
      { session with isEncrypted := true, phase := .complete }.distributeKeys_frame
    rw [distributed]
    obtain ⟨sent, pending, timer, complete, completed⟩ := completeIfDistributed_frame { session with
      isEncrypted := true, phase := .complete, ownKeysSent := sent, pending, timerRemaining := timer }
    exact ⟨_, _, _, _, completed⟩
  · exact completeIfDistributed_frame { session with isEncrypted := true, phase := .complete }

end Frames

section Refused
variable {session} {pdu : Bytes}

/-- `failing` is the session but for what the refused PDU has put into it. -/
structure Refusing (session failing : PairingSession curve) (sc : Bool) : Prop where
  sc : failing.sc = sc
  encrypted : failing.isEncrypted = session.isEncrypted
  complete : failing.complete = session.complete
  pending : failing.pending = session.pending
  role : failing.role = session.role
  bonds : failing.bonding = true → session.bonding = true

def FailsBy (session t : PairingSession curve) (sc : Bool) : Prop :=
  ∃ failing reason, t = failing.fail reason ∧ session.Refusing failing sc

theorem FailsBy.into {t : PairingSession curve} {sc : Bool} (fails : session.FailsBy t sc) :
    session.FailsInto t sc := by
  obtain ⟨failing, reason, rfl, same⟩ := fails
  exact ⟨reason, rfl, rfl, same.sc, ⟨rfl, rfl⟩, same.encrypted, same.complete,
    congrArg (· ++ _) same.pending, same.role⟩

theorem fail_by (reason : UInt8) : session.FailsBy (session.fail reason) session.sc :=
  ⟨session, reason, rfl, rfl, rfl, rfl, rfl, rfl, id⟩

theorem checkDistribution_refused (session : PairingSession curve) {command : Command}
    (refused : session.RefusesKey command) :
    session.checkDistribution command.opcode = session.fail ErrorCode.unspecifiedReason := by
  unfold checkDistribution
  rcases refused with plain | unexpected
  · exact if_pos (by simp [plain])
  · by_cases encrypted : session.isEncrypted = true
    · rw [if_neg (not_not.mpr encrypted), if_pos unexpected]
    · rw [if_pos encrypted]

def KeepsPeerKeys (session t : PairingSession curve) : Prop :=
  ∃ ltk ediv rand irk identity csrk, t = { session with
    peerLtk := ltk, peerEdiv := ediv, peerRand := rand, peerIrk := irk,
    peerIdentityAddress := identity, peerCsrk := csrk }

theorem onKey_refused {α : Type} {parsed : Option α} {store : α → PairingSession curve}
    {command : Command} (stores : ∀ value, session.KeepsPeerKeys (store value))
    (refused : Bad parsed fun _ => session.RefusesKey command) :
    session.FailsBy (session.onKey parsed store command.opcode) session.sc := by
  cases parsed with
  | none => exact fail_by _
  | some value =>
    obtain ⟨ltk, ediv, rand, irk, identity, csrk, stored⟩ := stores value
    show session.FailsBy ((store value).checkDistribution command.opcode) session.sc
    have refused : (store value).RefusesKey command := by
      rw [stored]
      exact refused value rfl
    rw [checkDistribution_refused _ refused, stored]
    exact ⟨_, _, rfl, rfl, rfl, rfl, rfl, rfl, id⟩

theorem onPairingResponse_refused (draws : Draws)
    (refused : session.RefusesCommand pdu .pairingResponse) :
    ∃ t, session.onPairingResponse draws pdu = .ok t ∧ session.FailsBy t
      (if session.role = .initiator then
        ((parsePairingParameters pdu).map session.agreedSc).getD session.sc else session.sc) := by
  by_cases initiator : session.role = .initiator
  · rw [if_pos initiator]
    cases parsed : parsePairingParameters pdu with
    | none =>
      refine ⟨_, ?_, fail_by ErrorCode.invalidParameters⟩
      simp only [onPairingResponse, initiator, parsed, ne_eq, not_true_eq_false, if_false]
    | some resp =>
      have grants := refused.resolve_left (not_not.mpr initiator) resp parsed
      exact ⟨_, (onPairingResponse_eq initiator draws parsed).trans
        (session.acceptResponse_refused draws grants), _, _, rfl, rfl, rfl, rfl, rfl, rfl,
        fun both => ((Bool.and_eq_true _ _).mp both).1⟩
  · rw [if_neg initiator]
    exact ⟨_, if_pos initiator, fail_by _⟩

theorem onPairingConfirm_refused (draws : Draws)
    (refused : session.RefusesCommand pdu .pairingConfirm) :
    session.FailsBy (session.onPairingConfirm draws pdu) session.sc := by
  unfold onPairingConfirm
  cases parsed : parse16 pdu pairingConfirm.opcode with
  | none => exact fail_by _
  | some value =>
    obtain ⟨secure, responder⟩ := refused value parsed
    dsimp only
    rw [if_pos secure, if_pos responder]
    exact ⟨_, _, rfl, rfl, rfl, rfl, rfl, rfl, id⟩

theorem onRandomSc_refused (revealed : PairingSession curve) {value : Octets 16}
    (refused : revealed.dhKey = none ∨ revealed.role = .initiator ∧
      revealed.peerConfirm ≠ some (f4 revealed.peerPubX revealed.localPubX value 0)) :
    ∃ reason, revealed.onRandomSc value = .ok (revealed.fail reason) := by
  unfold onRandomSc
  split
  · exact ⟨_, rfl⟩
  · rename_i derived
    obtain ⟨initiator, unmatched⟩ := refused.resolve_left derived
    rw [initiator]
    cases expected : revealed.peerConfirm with
    | none => exact ⟨_, rfl⟩
    | some expectedValue =>
      refine ⟨_, if_pos ?_⟩
      intro same
      exact unmatched (expected.trans (congrArg some same.symm))

theorem onRandomLegacy_refused (revealed : PairingSession curve) (draws : Draws) {value : Octets 16}
    (refused : revealed.peerConfirm ≠ some (revealed.legacyConfirm value)) :
    ∃ reason, revealed.onRandomLegacy draws value = revealed.fail reason := by
  unfold onRandomLegacy
  cases expected : revealed.peerConfirm with
  | none => exact ⟨_, rfl⟩
  | some expectedValue =>
    refine ⟨_, if_pos ?_⟩
    intro same
    exact refused (expected.trans (congrArg some same.symm))

theorem onPairingRandom_refused (draws : Draws)
    (refused : session.RefusesCommand pdu .pairingRandom) :
    ∃ t, session.onPairingRandom draws pdu = .ok t ∧ session.FailsBy t session.sc := by
  unfold onPairingRandom
  cases parsed : parse16 pdu pairingRandom.opcode with
  | none => exact ⟨_, rfl, fail_by _⟩
  | some value =>
    have refused := refused value parsed
    unfold RefusesRandom at refused
    by_cases secure : session.sc = true
    · rw [if_pos secure] at refused
      obtain ⟨reason, failed⟩ := onRandomSc_refused
        { session with peerRandom := some value } refused
      dsimp only
      rw [if_pos secure, failed]
      exact ⟨_, rfl, _, reason, rfl, rfl, rfl, rfl, rfl, rfl, id⟩
    · rw [if_neg secure] at refused
      obtain ⟨reason, failed⟩ := onRandomLegacy_refused
        { session with peerRandom := some value } draws refused
      dsimp only
      rw [if_neg secure, failed]
      exact ⟨_, rfl, _, reason, rfl, rfl, rfl, rfl, rfl, rfl, id⟩

theorem onPublicKey_refused (draws : Draws)
    (refused : session.RefusesCommand pdu .pairingPublicKey) :
    session.FailsBy (session.onPublicKey draws pdu) session.sc := by
  unfold onPublicKey
  cases parsed : parsePublicKey pdu with
  | none => exact fail_by _
  | some point =>
    have off := refused point parsed
    dsimp only
    rw [off]
    exact ⟨_, _, rfl, rfl, rfl, rfl, rfl, rfl, id⟩

theorem onDhkeyCheck_refused (refused : session.RefusesCommand pdu .pairingDhkeyCheck) :
    ∃ t, session.onDhkeyCheck pdu = .ok t ∧ session.FailsBy t session.sc := by
  unfold onDhkeyCheck
  cases parsed : parse16 pdu pairingDhkeyCheck.opcode with
  | none => exact ⟨_, rfl, fail_by _⟩
  | some value =>
    have unmatched := refused value parsed
    cases expected : if session.role = .initiator then session.eb else session.ea with
    | none => exact ⟨_, rfl, fail_by _⟩
    | some expectedValue =>
      refine ⟨_, if_pos ?_, fail_by _⟩
      intro same
      exact unmatched (expected.trans (congrArg some same.symm))

theorem step_refused_by (alive : session.failed = false) (draws : Draws)
    (refused : session.Refuses pdu) :
    ∃ t, session.step draws pdu = .ok t ∧ session.FailsBy t (session.scAfter pdu) := by
  have same (op : UInt8) (rest : Bytes) (other : op ≠ Command.pairingResponse.opcode) :
      session.scAfter (op :: rest) = session.sc :=
    if_neg fun both => other (Option.some.inj both.1)
  unfold step
  rw [alive]
  simp only [Bool.false_eq_true, if_false]
  cases pdu with
  | nil => exact ⟨_, rfl, fail_by _⟩
  | cons op rest =>
    obtain ⟨command, coded, refused⟩ := refused
    obtain rfl := ofOpcode_eq_some.mp coded
    dsimp only
    rw [coded]
    by_cases response : command = .pairingResponse
    · subst response
      have after : session.scAfter (Command.pairingResponse.opcode :: rest) =
          if session.role = .initiator then ((parsePairingParameters
            (Command.pairingResponse.opcode :: rest)).map session.agreedSc).getD session.sc
          else session.sc := by simp only [scAfter, List.head?_cons, true_and]
      rw [after]
      exact onPairingResponse_refused draws refused
    · rw [same _ rest fun code => response (opcode_inj.mp code)]
      cases command with
      | pairingRequest =>
        by_cases responder : session.role = .responder
        · have unread := refused.resolve_left (not_not.mpr responder)
          refine ⟨_, ?_, fail_by ErrorCode.invalidParameters⟩
          simp only [dispatch, onPairingRequest, responder, unread, ne_eq, not_true_eq_false,
            if_false]
        · exact ⟨_, if_pos responder, fail_by _⟩
      | pairingResponse => exact absurd rfl response
      | pairingConfirm => exact ⟨_, rfl, onPairingConfirm_refused draws refused⟩
      | pairingRandom => exact onPairingRandom_refused draws refused
      | pairingFailed => exact ⟨_, congrArg Except.ok (if_pos refused), fail_by _⟩
      | pairingPublicKey => exact ⟨_, rfl, onPublicKey_refused draws refused⟩
      | pairingDhkeyCheck => exact onDhkeyCheck_refused refused
      | encryptionInfo =>
        exact ⟨_, rfl, onKey_refused (fun _ => ⟨_, _, _, _, _, _, rfl⟩) refused⟩
      | masterIdentification =>
        exact ⟨_, rfl, onKey_refused (fun _ => ⟨_, _, _, _, _, _, rfl⟩) refused⟩
      | identityInfo =>
        exact ⟨_, rfl, onKey_refused (fun _ => ⟨_, _, _, _, _, _, rfl⟩) refused⟩
      | identityAddrInfo =>
        exact ⟨_, rfl, onKey_refused (fun _ => ⟨_, _, _, _, _, _, rfl⟩) refused⟩
      | signingInfo =>
        exact ⟨_, rfl, onKey_refused (fun _ => ⟨_, _, _, _, _, _, rfl⟩) refused⟩
      | securityRequest => exact ⟨_, rfl, fail_by _⟩
      | keypressNotification => exact ⟨_, rfl, fail_by _⟩

theorem step_refused (alive : session.failed = false) (draws : Draws)
    (refused : session.Refuses pdu) :
    ∃ t, session.step draws pdu = .ok t ∧ session.FailsInto t (session.scAfter pdu) :=
  (step_refused_by alive draws refused).imp fun _ => And.imp id FailsBy.into

/-- The peer's own Pairing Failed is not answered. -/
theorem step_peerFails (alive : session.failed = false) (draws : Draws)
    (fails : PeerFails pdu) :
    ∃ t, session.step draws pdu = .ok t ∧ session.FailedInto t session.sc session.pending := by
  obtain ⟨reason, rfl⟩ := fails
  exact ⟨_, step_command alive draws .pairingFailed [reason], rfl, rfl, rfl, ⟨rfl, rfl⟩, rfl, rfl, rfl, rfl⟩

end Refused

section Accepted

/-- What a PDU that is not refused makes of a session. -/
def Advances (t : PairingSession curve) : Command → Prop
  | .pairingRequest | .pairingResponse =>
    t.isEncrypted = session.isEncrypted ∧
      t.phase = if t.sc then .waitPeerPublicKey else .waitPeerConfirm
  | .pairingConfirm =>
    t.isEncrypted = session.isEncrypted ∧ t.sc = session.sc ∧ t.phase = .waitPeerRandom
  | .pairingRandom =>
    t.sc = session.sc ∧
      if session.sc then t.isEncrypted = session.isEncrypted ∧ t.phase = .waitPeerDhKeyCheck
      else t.isEncrypted = true ∧ t.phase = .complete
  | .pairingPublicKey =>
    t.isEncrypted = session.isEncrypted ∧ t.sc = session.sc ∧
      t.phase = if session.role = .initiator then .waitPeerConfirm else .waitPeerRandom
  | .pairingDhkeyCheck => t.sc = session.sc ∧ t.isEncrypted = true ∧ t.phase = .complete
  | .encryptionInfo | .masterIdentification | .identityInfo | .identityAddrInfo | .signingInfo =>
    t.isEncrypted = session.isEncrypted ∧ t.sc = session.sc ∧ t.phase = session.phase
  | .pairingFailed | .securityRequest | .keypressNotification => False

/-- `t` is alive in the role of the session and has advanced by the command. -/
structure AdvancesTo (t : PairingSession curve) (command : Command) : Prop where
  alive : t.failed = session.failed
  role : t.role = session.role
  advances : session.Advances t command

variable {session} {t : PairingSession curve} {pdu : Bytes}

theorem not_bad {α : Type} {parsed : Option α} {bad : α → Prop} (good : ¬ Bad parsed bad) :
    ∃ value, parsed = some value ∧ ¬ bad value := by
  simpa [Bad] using good

theorem onEncrypted_advances (keyed : PairingSession curve) :
    keyed.onEncrypted.failed = keyed.failed ∧ keyed.onEncrypted.role = keyed.role ∧
      keyed.onEncrypted.sc = keyed.sc ∧ keyed.onEncrypted.isEncrypted = true ∧
      keyed.onEncrypted.phase = .complete := by
  obtain ⟨sent, pending, timer, complete, encrypted⟩ := keyed.onEncrypted_frame
  rw [encrypted]
  exact ⟨rfl, rfl, rfl, rfl, rfl⟩

/-- The phase that a handler sets. -/
def nextPhase (role : Role) (sc : Bool) : Command → Phase
  | .pairingPublicKey => if role = .initiator then .waitPeerConfirm else .waitPeerRandom
  | .pairingConfirm => .waitPeerRandom
  | .pairingRandom => if sc then .waitPeerDhKeyCheck else .complete
  | .pairingDhkeyCheck => .complete
  | _ => if sc then .waitPeerPublicKey else .waitPeerConfirm

/-- The session holds what a PDU of the handshake would put into it: the same features, the same
public key or the keys that the random value gives. -/
def Holds (draws : Draws) (pdu : Bytes) : Command → Prop
  | .pairingRequest => ∃ req, parsePairingParameters pdu = some req ∧ session.preq = req.octets ∧
    session.pres = (session.response req).octets ∧ session.sc = session.agreedSc req
  | .pairingResponse => ∃ resp, parsePairingParameters pdu = some resp ∧
    session.pres = resp.octets ∧ session.sc = session.agreedSc resp
  | .pairingPublicKey => ∃ point, parsePublicKey pdu = some point ∧
    session.peerPubX = point.1 ∧ session.peerPubY = point.2 ∧
    session.dhKey = session.ecdh.sharedXLe point.1 point.2
  | .pairingRandom => ∃ value, parse16 pdu Command.pairingRandom.opcode = some value ∧
    if session.sc then
      ∃ dhKey na nb, session.dhKey = some dhKey ∧
        (na, nb) = (if session.role = .initiator then (session.rLocal, value)
          else (value, session.rLocal)) ∧
        session.ltk = some (session.scKeys dhKey na nb).2 ∧
        session.ea = some (session.checkA dhKey na nb) ∧
        session.eb = some (session.checkB dhKey na nb)
    else session.stk = (session.keyedLegacy draws value).stk ∧
      session.localBondedLtk = draws.bondedLtk
  | _ => True

/-- What a handler makes of a session with a PDU that it does not refuse. -/
inductive Heard (session : PairingSession curve) (draws : Draws) (pdu : Bytes) :
    Command → PairingSession curve → Prop
  | features {command preq pres peerIoCapability sc bonding initiatorKeyDistribution
      responderKeyDistribution peerExpected rLocal pending phase} :
    command = .pairingRequest ∨ command = .pairingResponse →
    (bonding = true → session.bonding = true) →
    phase = (if sc then .waitPeerPublicKey else .waitPeerConfirm) →
    (session.preq = preq ∧ session.pres = pres ∧ session.sc = sc ↔
      session.Holds draws pdu command) →
    Heard session draws pdu command { session with
      timerRemaining := some smpTimeoutSeconds
      preq, pres, peerIoCapability, sc, bonding, initiatorKeyDistribution
      responderKeyDistribution, peerExpected, rLocal, pending, phase }
  | confirm {peerConfirm rLocal pending} :
    Heard session draws pdu .pairingConfirm { session with
      peerConfirm, rLocal, pending
      timerRemaining := some smpTimeoutSeconds
      phase := .waitPeerRandom }
  | randomSc {dhKey na nb peerRandom pending} : session.sc = true →
    (session.ltk = some (session.scKeys dhKey na nb).2 ∧
      session.ea = some (session.checkA dhKey na nb) ∧
      session.eb = some (session.checkB dhKey na nb) ↔ session.Holds draws pdu .pairingRandom) →
    Heard session draws pdu .pairingRandom { session with
      peerRandom
      ltk := some (session.scKeys dhKey na nb).2
      ea := some (session.checkA dhKey na nb)
      eb := some (session.checkB dhKey na nb)
      pending
      timerRemaining := some smpTimeoutSeconds
      phase := .waitPeerDhKeyCheck }
  | randomLegacy {value} : session.sc = false →
    (session.stk = (session.keyedLegacy draws value).stk ∧
      session.localBondedLtk = draws.bondedLtk ↔ session.Holds draws pdu .pairingRandom) →
    Heard session draws pdu .pairingRandom (session.keyedLegacy draws value).onEncrypted
  | publicKey {peerPubX peerPubY dhKey rLocal pending timerRemaining phase} :
    timerRemaining = (if session.role = .responder then some smpTimeoutSeconds
      else session.timerRemaining) →
    phase = (if session.role = .initiator then .waitPeerConfirm else .waitPeerRandom) →
    (session.peerPubX = peerPubX ∧ session.peerPubY = peerPubY ∧ session.dhKey = dhKey ↔
      session.Holds draws pdu .pairingPublicKey) →
    Heard session draws pdu .pairingPublicKey { session with
      peerPubX, peerPubY, dhKey, rLocal, pending, timerRemaining, phase }
  | check {pending timerRemaining} :
    timerRemaining = (if session.role = .responder then some smpTimeoutSeconds
      else session.timerRemaining) →
    Heard session draws pdu .pairingDhkeyCheck
      { session with pending, timerRemaining }.onEncrypted
  | key {command peerLtk peerEdiv peerRand peerIrk peerIdentityAddress peerCsrk} :
    command.isKey = true →
    Heard session draws pdu command { session with
      peerLtk, peerEdiv, peerRand, peerIrk, peerIdentityAddress, peerCsrk
      peerExpected := session.peerExpected.erase command.opcode }.completeIfDistributed

section Hearing
variable {draws : Draws}

theorem hears_request (accepted : ¬ session.RefusesCommand pdu .pairingRequest) :
    ∃ t, session.onPairingRequest pdu = .ok t ∧ session.Heard draws pdu .pairingRequest t := by
  obtain ⟨responder, read⟩ := not_or.mp accepted
  obtain ⟨req, parsed⟩ := Option.ne_none_iff_exists'.mp read
  exact ⟨_, (onPairingRequest_eq (not_not.mp responder) parsed).trans (session.answerRequest_eq req),
    .features (.inl rfl) (fun both => ((Bool.and_eq_true _ _).mp both).1) rfl (by
      simp [Holds, parsed])⟩

theorem hears_response (accepted : ¬ session.RefusesCommand pdu .pairingResponse) :
    ∃ t, session.onPairingResponse draws pdu = .ok t ∧ session.Heard draws pdu .pairingResponse t := by
  obtain ⟨initiator, good⟩ := not_or.mp accepted
  obtain ⟨resp, parsed, grants⟩ := not_bad good
  have bonds : session.agreedBonding resp = true → session.bonding = true :=
    fun both => ((Bool.and_eq_true _ _).mp both).1
  rw [onPairingResponse_eq (not_not.mp initiator) draws parsed]
  cases agreed : session.agreedSc resp with
  | false =>
    exact ⟨_, session.acceptResponse_legacy draws (not_not.mp grants) agreed,
      .features (.inr rfl) bonds (if_neg (Bool.eq_false_iff.mp agreed)).symm (by
        simp [Holds, parsed, taking])⟩
  | true =>
    exact ⟨_, session.acceptResponse_sc draws (not_not.mp grants) agreed,
      .features (.inr rfl) bonds (if_pos agreed).symm (by simp [Holds, parsed, taking])⟩

theorem hears_confirm (accepted : ¬ session.RefusesCommand pdu .pairingConfirm) :
    session.Heard draws pdu .pairingConfirm (session.onPairingConfirm draws pdu) := by
  obtain ⟨value, parsed, allowed⟩ := not_bad accepted
  cases secure : session.sc with
  | true =>
    have initiator : session.role = .initiator := by
      by_contra other
      exact allowed ⟨secure, other⟩
    rw [onPairingConfirm_sc draws parsed secure initiator]
    exact .confirm
  | false =>
    cases role : session.role with
    | initiator =>
      rw [onPairingConfirm_initiator draws parsed secure role]
      exact .confirm
    | responder =>
      rw [onPairingConfirm_responder draws parsed secure role]
      exact .confirm

theorem hears_random (accepted : ¬ session.RefusesCommand pdu .pairingRandom) :
    ∃ t, session.onPairingRandom draws pdu = .ok t ∧ session.Heard draws pdu .pairingRandom t := by
  obtain ⟨value, parsed, allowed⟩ := not_bad accepted
  unfold RefusesRandom at allowed
  cases secure : session.sc with
  | true =>
    rw [if_pos secure] at allowed
    obtain ⟨derived, matched⟩ := not_or.mp allowed
    obtain ⟨dhKey, derived⟩ := Option.ne_none_iff_exists'.mp derived
    cases role : session.role with
    | responder =>
      exact ⟨_, onPairingRandom_responder draws parsed secure derived role,
        .randomSc secure (by simp [Holds, parsed, secure, derived, role])⟩
    | initiator =>
      have matched : session.peerConfirm = some (f4 session.peerPubX session.localPubX value 0) := by
        by_contra unmatched
        exact matched ⟨role, unmatched⟩
      exact ⟨_, onPairingRandom_initiator draws parsed secure derived role matched,
        .randomSc secure (by simp [Holds, parsed, secure, derived, role])⟩
  | false =>
    rw [if_neg (Bool.eq_false_iff.mp secure)] at allowed
    exact ⟨_, onPairingRandom_legacy draws parsed secure (not_not.mp allowed),
      .randomLegacy secure (by simp [Holds, parsed, secure])⟩

theorem hears_publicKey (accepted : ¬ session.RefusesCommand pdu .pairingPublicKey) :
    session.Heard draws pdu .pairingPublicKey (session.onPublicKey draws pdu) := by
  obtain ⟨⟨x, y⟩, parsed, onCurve⟩ := not_bad accepted
  obtain ⟨dhKey, shared⟩ := Option.ne_none_iff_exists'.mp onCurve
  cases role : session.role with
  | initiator =>
    rw [onPublicKey_initiator draws parsed shared role]
    exact .publicKey (by simp [role]) (by simp [role]) (by simp [Holds, parsed, shared])
  | responder =>
    rw [onPublicKey_responder draws parsed shared role]
    exact .publicKey (by simp [role]) (by simp [role]) (by simp [Holds, parsed, shared])

theorem hears_check (accepted : ¬ session.RefusesCommand pdu .pairingDhkeyCheck)
    (computed : session.role = .responder → session.eb ≠ none) :
    ∃ t, session.onDhkeyCheck pdu = .ok t ∧ session.Heard draws pdu .pairingDhkeyCheck t := by
  obtain ⟨value, parsed, allowed⟩ := not_bad accepted
  have matched := not_not.mp allowed
  cases role : session.role with
  | initiator =>
    rw [if_pos role] at matched
    exact ⟨_, onDhkeyCheck_initiator parsed role matched, .check (by simp [role])⟩
  | responder =>
    rw [if_neg (by simp [role])] at matched
    obtain ⟨eb, own⟩ := Option.ne_none_iff_exists'.mp (computed role)
    exact ⟨_, onDhkeyCheck_responder parsed role matched own, .check (by simp [role])⟩

theorem checkDistribution_accepted (session : PairingSession curve) {command : Command}
    (accepted : ¬ session.RefusesKey command) : session.checkDistribution command.opcode =
      { session with
        peerExpected := session.peerExpected.erase command.opcode }.completeIfDistributed := by
  obtain ⟨encrypted, expected⟩ := not_or.mp accepted
  unfold checkDistribution
  rw [if_neg (not_not.mpr (Bool.eq_true_of_not_eq_false encrypted)), if_neg expected]

theorem hears_key {α : Type} {parsed : Option α} {store : α → PairingSession curve}
    {command : Command} (isKey : command.isKey = true)
    (stores : ∀ value, session.KeepsPeerKeys (store value))
    (accepted : ¬ Bad parsed fun _ => session.RefusesKey command) :
    session.Heard draws pdu command (session.onKey parsed store command.opcode) := by
  obtain ⟨value, reads, allowed⟩ := not_bad accepted
  obtain ⟨ltk, ediv, rand, irk, identity, csrk, stored⟩ := stores value
  have kept : session.onKey parsed store command.opcode =
      { store value with
        peerExpected := (store value).peerExpected.erase command.opcode }.completeIfDistributed := by
    rw [reads]
    apply checkDistribution_accepted _
    rw [stored]
    exact allowed
  rw [kept, stored]
  exact .key isKey

section Kept
variable {command : Command} (accepted : ¬ session.RefusesCommand pdu command)
  (kept : command ≠ .pairingFailed)
include accepted kept

theorem dispatch_returns
    (computed : command = .pairingDhkeyCheck → session.role = .responder → session.eb ≠ none) :
    ∃ t, session.dispatch draws pdu (some command) = .ok t ∧ session.Heard draws pdu command t := by
  cases command with
  | pairingRequest => exact hears_request accepted
  | pairingResponse => exact hears_response accepted
  | pairingConfirm => exact ⟨_, rfl, hears_confirm accepted⟩
  | pairingRandom => exact hears_random accepted
  | pairingFailed => exact absurd rfl kept
  | pairingPublicKey => exact ⟨_, rfl, hears_publicKey accepted⟩
  | pairingDhkeyCheck => exact hears_check accepted (computed rfl)
  | encryptionInfo | masterIdentification | identityInfo | identityAddrInfo | signingInfo =>
    exact ⟨_, rfl, hears_key rfl (fun _ => ⟨_, _, _, _, _, _, rfl⟩) accepted⟩
  | securityRequest | keypressNotification => exact absurd trivial accepted

theorem dispatch_hears (dispatched : session.dispatch draws pdu (some command) = .ok t) :
    session.Heard draws pdu command t := by
  have computed : command = .pairingDhkeyCheck → session.role = .responder →
      session.eb ≠ none := by
    rintro rfl responder none
    obtain ⟨value, parsed, allowed⟩ := not_bad accepted
    have matched := not_not.mp allowed
    rw [if_neg (by simp [responder])] at matched
    simp [dispatch, onDhkeyCheck, parsed, responder, matched, none] at dispatched
  obtain ⟨other, returns, heard⟩ := dispatch_returns accepted kept computed
  obtain rfl := Except.ok.inj (returns.symm.trans dispatched)
  exact heard

end Kept

theorem Heard.advances {command : Command} (heard : session.Heard draws pdu command t) :
    session.AdvancesTo t command := by
  cases heard with
  | features feature _ phase _ =>
    rcases feature with rfl | rfl <;> exact ⟨rfl, rfl, rfl, phase⟩
  | confirm => exact ⟨rfl, rfl, rfl, rfl, rfl⟩
  | randomSc secure =>
    refine ⟨rfl, rfl, rfl, ?_⟩
    rw [if_pos secure]
    exact ⟨rfl, rfl⟩
  | randomLegacy legacy =>
    obtain ⟨alive, role, sc, ended⟩ := onEncrypted_advances (session.keyedLegacy draws _)
    refine ⟨alive, role, sc, ?_⟩
    rw [if_neg (Bool.eq_false_iff.mp legacy)]
    exact ended
  | publicKey _ phase => exact ⟨rfl, rfl, rfl, rfl, phase⟩
  | check =>
    obtain ⟨alive, role, sc, ended⟩ := onEncrypted_advances { session with
      pending := _, timerRemaining := _ }
    exact ⟨alive, role, sc, ended⟩
  | key isKey =>
    obtain ⟨sent, pending, timer, complete, completed⟩ := completeIfDistributed_frame { session with
      peerLtk := _, peerEdiv := _, peerRand := _, peerIrk := _, peerIdentityAddress := _,
      peerCsrk := _, peerExpected := session.peerExpected.erase command.opcode }
    rw [completed]
    refine ⟨rfl, rfl, ?_⟩
    cases command <;> first | exact ⟨rfl, rfl, rfl⟩ | contradiction

theorem Heard.bonds {command : Command} (heard : session.Heard draws pdu command t)
    (bonds : t.bonding = true) : session.bonding = true := by
  cases heard with
  | features _ agreed => exact agreed bonds
  | confirm | randomSc | publicKey => exact bonds
  | randomLegacy | check =>
    rw [(onEncrypted_frame _).choose_spec.choose_spec.choose_spec.choose_spec] at bonds
    exact bonds
  | key =>
    rw [(completeIfDistributed_frame _).choose_spec.choose_spec.choose_spec.choose_spec] at bonds
    exact bonds

end Hearing

/-- A PDU that neither fails the session nor announces the peer's failure is
ignored or takes the session on. -/
theorem step_accepted (alive : session.failed = false) {draws : Draws}
    (accepted : ¬ session.Refuses pdu) (kept : ¬ PeerFails pdu)
    (stepped : session.step draws pdu = .ok t) :
    t = session ∧ (∃ op rest, pdu = op :: rest ∧ ofOpcode op = none) ∨
      ∃ command rest, pdu = command.opcode :: rest ∧ ¬ session.RefusesCommand pdu command ∧
        session.AdvancesTo t command := by
  cases pdu with
  | nil => exact absurd trivial accepted
  | cons op rest =>
    cases coded : ofOpcode op with
    | none =>
      refine .inl ⟨?_, op, rest, rfl, coded⟩
      simp only [step, alive, coded, dispatch, Bool.false_eq_true, if_false] at stepped
      exact (Except.ok.inj stepped).symm
    | some command =>
      obtain rfl := ofOpcode_eq_some.mp coded
      have accepted : ¬ session.RefusesCommand (command.opcode :: rest) command :=
        fun refused => accepted ⟨command, coded, refused⟩
      rw [step_command alive] at stepped
      refine .inr ⟨command, rest, rfl, accepted, ?_⟩
      refine Heard.advances (dispatch_hears accepted ?_ stepped)
      rintro rfl
      have two := not_not.mp accepted
      obtain ⟨reason, rfl⟩ := List.length_eq_one_iff.mp (Nat.succ_injective two)
      exact kept ⟨reason, rfl⟩

end Accepted

end PairingSession
end Simble.Smp
