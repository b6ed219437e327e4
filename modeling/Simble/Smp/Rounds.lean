import Simble.Smp.Script

/-! How each word of the script is heard: one lemma for a PDU of the feature
exchange and of either authentication stage, and the key distribution for both
of them. -/
namespace Simble.Smp
open Simble.Lib Simble.Crypto PairingSession Command List

variable {curve : P256} {i r : PairingSession curve}

/-- What a session brings to `Negotiated`. -/
def PairingSession.settled (s : PairingSession curve) :=
  (s.role, s.failed, s.ia, s.iat, s.ra, s.rat, s.tk, s.deferKeyDistribution, s.ecdh, s.localPubX,
    s.localPubY, s.preq, s.pres, s.sc, s.bonding, s.initiatorKeyDistribution,
    s.responderKeyDistribution)

namespace Negotiated
variable (negotiated : Negotiated i r)
include negotiated

theorem frame {i' r' : PairingSession curve} (left : i'.settled = i.settled)
    (right : r'.settled = r.settled) : Negotiated i' r' := by
  simp only [settled, Prod.mk.injEq] at left right
  obtain ⟨⟨_, _, _, _, _, _, _, _, _⟩, _⟩ := negotiated
  constructor
  · constructor <;> simp_all
  all_goals simp_all

theorem legacyConfirm_eq (random : Octets 16) : i.legacyConfirm random = r.legacyConfirm random := by
  simp only [legacyConfirm, negotiated.tk, negotiated.preq, negotiated.pres, negotiated.iat,
    negotiated.rat, negotiated.ia, negotiated.ra]

variable (dhKey : Octets 32)

theorem scKeys_eq (na nb : Octets 16) :
    i.scKeys dhKey na nb = r.scKeys dhKey na nb := by
  simp only [scKeys, negotiated.ia, negotiated.iat, negotiated.ra, negotiated.rat]

theorem checkA_eq (na nb : Octets 16) :
    i.checkA dhKey na nb = r.checkA dhKey na nb := by
  simp only [checkA, negotiated.scKeys_eq, negotiated.preq, negotiated.ia, negotiated.iat,
    negotiated.ra, negotiated.rat]

theorem checkB_eq (na nb : Octets 16) :
    i.checkB dhKey na nb = r.checkB dhKey na nb := by
  simp only [checkB, negotiated.scKeys_eq, negotiated.pres, negotiated.ia, negotiated.iat,
    negotiated.ra, negotiated.rat]

end Negotiated

section FeatureExchange

theorem authReqByte_defined (session : PairingSession curve) :
    session.authReqByte &&& AuthReq.reserved = 0 ∧
      (session.authReqByte &&& AuthReq.sc != 0) = session.sc ∧
      (session.authReqByte &&& AuthReq.bonding != 0) = session.bonding := by
  unfold authReqByte
  cases session.bonding <;> cases session.mitm <;> cases session.sc <;> decide

theorem inRange_of_authReq {session : PairingSession curve} {packet : SmpPairingPacket}
    (io : packet.ioCapability ≤ IoCapability.keyboardDisplay) (oob : packet.oobDataFlag = 0)
    (auth : packet.authReq = session.authReqByte)
    (size : packet.maxEncryptionKeySize = maxEncryptionKeySize) : packet.InRange where
  ioCapability := io
  oobDataFlag := by
    rw [oob]
    decide
  authReq := auth ▸ (authReqByte_defined session).1
  keySize := by
    rw [size]
    decide

theorem and_and_not (a b : UInt8) : a &&& b &&& ~~~b = 0 := by
  apply UInt8.toBitVec_inj.mp
  simp [BitVec.and_assoc]

/-- The request is heard, and answered with the responder's features. -/
theorem hears_request (paired : Paired i r) (own : i.preq = i.request.octets)
    (valid : i.request.InRange) (io : r.ioCapability ≤ IoCapability.keyboardDisplay)
    (freshI : i.ownKeysSent = false ∧ i.complete = false)
    (freshR : r.ownKeysSent = false ∧ r.complete = false) (quiet : r.pending = [])
    (draws : Draws) :
    ∃ heard, r.step draws i.request.asBytes = .ok heard ∧ Continues 18 .left i heard [] := by
  have parsed := parsePairingParameters_eq_some.mpr ⟨rfl, valid⟩
  refine ⟨_, (step_command paired.alive.2 draws .pairingRequest _).trans
    ((onPairingRequest_eq paired.responder parsed).trans (r.answerRequest_eq i.request)), ?_⟩
  have auth : i.request.authReq = i.authReqByte := rfl
  have sc : r.agreedSc i.request = (i.sc && r.agreedSc i.request) := by
    simp only [agreedSc, auth, (authReqByte_defined i).2.1]
    cases i.sc <;> simp
  have bonding : r.agreedBonding i.request = (i.bonding && r.agreedBonding i.request) := by
    simp only [agreedBonding, auth, (authReqByte_defined i).2.2]
    cases i.bonding <;> simp
  have answered := authReqByte_defined { r with
    sc := r.agreedSc i.request, bonding := r.agreedBonding i.request }
  have queued : r.pending ++ [(r.response i.request).asBytes] =
      [(r.response i.request).asBytes] := by rw [quiet, nil_append]
  refine .turn queued (show 17 + 1 ≤ 18 by decide)
    (.response ?_ own rfl ?_ rfl ?_ ?_ ?_ rfl rfl freshI ?_)
  · exact ⟨paired.initiator, paired.responder, paired.alive, paired.ia, paired.iat, paired.ra,
      paired.rat, paired.tk, paired.eager, paired.keys⟩
  · exact inRange_of_authReq io rfl rfl rfl
  · exact ⟨and_and_not _ _, and_and_not _ _⟩
  · exact sc.trans (congrArg (i.sc && ·) answered.2.1.symm)
  · exact bonding.trans (congrArg (i.bonding && ·) answered.2.2.symm)
  · exact ⟨freshR.1, freshR.2, expectedKeys_eq _ _⟩

theorem hears_response {resp : SmpPairingPacket} (paired : Paired i r) (preq : i.preq = r.preq)
    (pres : r.pres = resp.octets) (valid : resp.InRange)
    (code : resp.opcode = pairingResponse.opcode) (granted : i.Grants resp)
    (sc : r.sc = i.agreedSc resp) (bonding : r.bonding = i.agreedBonding resp)
    (initiatorKeys : resp.initiatorKeyDistribution = r.initiatorKeyDistribution)
    (responderKeys : resp.responderKeyDistribution = r.responderKeyDistribution)
    (fresh : i.ownKeysSent = false ∧ i.complete = false)
    (awaiting : Awaiting r r.initiatorKeyDistribution)
    (quiet : i.pending = [])
    (draws : Draws) :
    ∃ heard, i.step draws resp.asBytes = .ok heard ∧ Continues 17 .right r heard [] := by
  have parsed := parsePairingParameters_eq_some.mpr ⟨rfl, valid⟩
  have dispatched : i.step draws resp.asBytes = i.acceptResponse draws resp := by
    refine Eq.trans ?_ (onPairingResponse_eq paired.initiator draws parsed)
    simp only [SmpPairingPacket.asBytes, code]
    exact step_command paired.alive.1 draws .pairingResponse _
  have negotiated (rLocal pending phase) :
      Negotiated { i.taking resp with rLocal, pending, phase } r :=
    ⟨⟨paired.initiator, paired.responder, paired.alive, paired.ia, paired.iat, paired.ra,
      paired.rat, paired.tk, paired.eager, paired.keys⟩, preq, pres.symm, sc.symm, bonding.symm,
      initiatorKeys, responderKeys⟩
  cases agreed : i.agreedSc resp with
  | false =>
    refine ⟨_, dispatched.trans (i.acceptResponse_legacy draws granted agreed), ?_⟩
    exact .turn (congrArg (· ++ _) quiet) (show 13 + 1 ≤ 17 by decide) (.legacyConfirmI
      (negotiated _ _ _) (sc.trans agreed) ⟨fresh.1, fresh.2, expectedKeys_eq _ _⟩ awaiting)
  | true =>
    refine ⟨_, dispatched.trans (i.acceptResponse_sc draws granted agreed), ?_⟩
    exact .turn (congrArg (· ++ _) quiet) (show 16 + 1 ≤ 17 by decide) (.publicKeyI
      (negotiated _ _ _) (sc.trans agreed) ⟨fresh.1, fresh.2, expectedKeys_eq _ _⟩ awaiting)

end FeatureExchange

section Keys

def handed (session : PairingSession curve) (complete : Bool) (timer : Option Float) :
    PairingSession curve :=
  { session with
    isEncrypted := true
    phase := .complete
    ownKeysSent := true
    pending :=
      session.pending ++ (keyCommands session.sc session.responderKeyDistribution).map session.keyPdu
    complete
    timerRemaining := timer }

theorem onEncrypted_responder (responder : r.role = .responder)
    (eager : r.deferKeyDistribution = false) (awaiting : Awaiting r r.initiatorKeyDistribution) :
    ∃ complete timer, r.onEncrypted = handed r complete timer ∧
      (complete = true ↔ keyCommands r.sc r.initiatorKeyDistribution = []) := by
  have flags : { r with isEncrypted := true, phase := .complete }.ownFlags =
      r.responderKeyDistribution := by simp [ownFlags, responder]
  have distributed := distributeKeys_eq { r with isEncrypted := true, phase := .complete }
    awaiting.unsent
  rw [flags] at distributed
  have eagerly := (if_pos ⟨responder, .inl (by simp [eager])⟩ :
    { r with isEncrypted := true, phase := .complete }.distributeEagerly = _).trans distributed
  have expected := awaiting.expected
  unfold onEncrypted
  rw [eagerly]
  by_cases none : keyCommands r.sc r.initiatorKeyDistribution = []
  · have empty : r.peerExpected = [] := by rw [expected, none]; rfl
    exact ⟨true, _, Eq.trans (completeIfDistributed_none _ empty)
      (onPeerDistributionComplete_responder _ responder), by simp [none]⟩
  · have some : r.peerExpected ≠ [] := by
      rw [expected]
      exact fun all => none (map_eq_nil_iff.mp all)
    exact ⟨r.complete, _, completeIfDistributed_some _ some, by simp [awaiting.incomplete, none]⟩

/-- With all of the responder's keys, the initiator hands out its own. -/
theorem initiator_completes (negotiated : Negotiated i r) (same : SameLtk i r)
    (unsent : i.ownKeysSent = false)
    (received : Received i r (keyCommands r.sc r.responderKeyDistribution) [])
    (handing : Handing r (keyCommands r.sc r.initiatorKeyDistribution)) (quiet : i.pending = []) :
    Continues 5 .right r i.onPeerDistributionComplete [] := by
  have selected : keyCommands i.sc i.ownFlags = keyCommands r.sc r.initiatorKeyDistribution := by
    simp [ownFlags, negotiated.initiator, negotiated.initiatorKeys, negotiated.sc]
  have few := keyCommands_length r.sc r.initiatorKeyDistribution
  rw [onPeerDistributionComplete_initiator _ negotiated.initiator unsent, selected]
  apply Continues.turn (congrArg (· ++ _) quiet) (show 0 + _ ≤ 5 by simpa using few)
  refine .keysI (negotiated.frame rfl rfl) same rfl received handing ?_ ?_
  · exact fun _ listed => isKey_of_mem_keyCommands listed
  · exact fun _ listed => .inl listed

theorem initiator_encrypts (negotiated : Negotiated i r) (same : SameLtk i r)
    (awaiting : Awaiting i i.responderKeyDistribution)
    (handing : Handing r (keyCommands r.sc r.initiatorKeyDistribution)) (quiet : i.pending = []) :
    Continues 5 .right r i.onEncrypted
      ((keyCommands r.sc r.responderKeyDistribution).map r.keyPdu) := by
  have kept : Negotiated { i with isEncrypted := true, phase := .complete } r :=
    (negotiated.frame rfl rfl)
  have waits : { i with isEncrypted := true, phase := .complete }.distributeEagerly =
      { i with isEncrypted := true, phase := .complete } := if_neg (by simp [negotiated.initiator])
  have expected := awaiting.expected
  rw [negotiated.sc, negotiated.responderKeys] at expected
  unfold onEncrypted
  rw [waits]
  cases all : keyCommands r.sc r.responderKeyDistribution with
  | nil =>
    have none : i.peerExpected = [] := expected.trans (by rw [all]; rfl)
    rw [completeIfDistributed_none { i with isEncrypted := true, phase := .complete } none]
    refine initiator_completes kept same awaiting.unsent ?_ handing quiet
    rw [all]
    exact fun _ absent => absurd absent not_mem_nil
  | cons command commands =>
    have some : i.peerExpected ≠ [] := by simp [expected, all]
    rw [completeIfDistributed_some { i with isEncrypted := true, phase := .complete } some]
    refine .silent quiet (.keysR (negotiated.frame rfl rfl) same handing rfl awaiting.unsent
      (expected.trans (by rw [all])) ?_ ?_)
    · exact fun _ listed => isKey_of_mem_keyCommands (all.symm ▸ listed)
    · exact fun _ listed => .inl (all ▸ listed)

/-- Learning a key changes no field besides the peer's keys. -/
theorem learn_frame (session peer : PairingSession curve) (command : Command) :
    ∃ ltk ediv rand irk identity csrk, session.learn peer command = { session with
      peerLtk := ltk, peerEdiv := ediv, peerRand := rand, peerIrk := irk,
      peerIdentityAddress := identity, peerCsrk := csrk } := by
  cases command <;> exact ⟨_, _, _, _, _, _, rfl⟩

theorem Received.learn {session peer : PairingSession curve} {all rest : List Command}
    {command : Command} (received : Received session peer all (command :: rest)) :
    Received (session.learn peer command) peer all rest := by
  intro other listed
  rcases received other listed with coming | knows
  · rcases mem_cons.mp coming with rfl | later
    · exact .inr (session.knows_learn peer other)
    · exact .inl later
  · exact .inr (knows.learn command)

section Same
variable {command : Command} {commands : List Command} (negotiated : Negotiated i r)
  (same : SameLtk i r)
include negotiated same

theorem initiator_checks (handing : Handing r (keyCommands r.sc r.initiatorKeyDistribution))
    (encrypted : i.isEncrypted = true) (unsent : i.ownKeysSent = false)
    (expected : i.peerExpected = (command :: commands).map opcode)
    (areKeys : ∀ coming ∈ commands, coming.isKey = true)
    (received : Received i r (keyCommands r.sc r.responderKeyDistribution) commands)
    (quiet : i.pending = []) :
    Continues 5 .right r (i.checkDistribution command.opcode) (commands.map r.keyPdu) := by
  rw [checkDistribution_next _ encrypted expected]
  cases commands with
  | nil =>
    rw [completeIfDistributed_none _ rfl]
    exact initiator_completes (negotiated.frame rfl rfl) same unsent received handing quiet
  | cons next rest =>
    rw [completeIfDistributed_some _ (by simp)]
    exact .silent quiet (.keysR (negotiated.frame rfl rfl) same handing encrypted unsent rfl
      areKeys received)

theorem hears_keyR (handing : Handing r (keyCommands r.sc r.initiatorKeyDistribution))
    (encrypted : i.isEncrypted = true) (unsent : i.ownKeysSent = false)
    (expected : i.peerExpected = (command :: commands).map opcode)
    (areKeys : ∀ coming ∈ command :: commands, coming.isKey = true)
    (received : Received i r (keyCommands r.sc r.responderKeyDistribution) (command :: commands))
    (quiet : i.pending = []) (draws : Draws) :
    ∃ heard, i.step draws (r.keyPdu command) = .ok heard ∧
      Continues 5 .right r heard (commands.map r.keyPdu) := by
  refine ⟨_, step_keyPdu negotiated.alive.1 r draws (areKeys command mem_cons_self), ?_⟩
  have learned := received.learn
  obtain ⟨ltk, ediv, rand, irk, identity, csrk, frame⟩ := learn_frame i r command
  have areKeys := fun coming listed => areKeys coming (mem_cons_of_mem _ listed)
  have encrypted : (i.learn r command).isEncrypted = true := by rw [frame]; exact encrypted
  have unsent : (i.learn r command).ownKeysSent = false := by rw [frame]; exact unsent
  have expected : (i.learn r command).peerExpected = (command :: commands).map opcode := by
    rw [frame]; exact expected
  have quiet : (i.learn r command).pending = [] := by rw [frame]; exact quiet
  have same : SameLtk (i.learn r command) r := by rw [frame]; exact same
  have negotiated : Negotiated (i.learn r command) r := by
    rw [frame]
    exact (negotiated.frame rfl rfl)
  exact initiator_checks negotiated same handing encrypted unsent expected areKeys learned quiet

section Handing
variable (complete : i.complete = true)
  (held : Received i r (keyCommands r.sc r.responderKeyDistribution) [])
  (handing : Handing r (command :: commands))
include complete held handing

theorem responder_checks (areKeys : ∀ coming ∈ commands, coming.isKey = true)
    (received : Received r i (keyCommands r.sc r.initiatorKeyDistribution) commands)
    (quiet : r.pending = []) :
    Continues 0 .left i (r.checkDistribution command.opcode) (commands.map i.keyPdu) := by
  rw [checkDistribution_next _ handing.encrypted handing.expected]
  cases commands with
  | nil =>
    have completes : { r with peerExpected := [] }.completeIfDistributed =
        { r with peerExpected := [], complete := true, timerRemaining := none } :=
      (completeIfDistributed_none _ rfl).trans (onPeerDistributionComplete_responder _ negotiated.responder)
    apply Eq.mpr (congrArg (fun heard => Continues 0 .left i heard []) completes)
    exact .silent quiet (Script.keysI
      (r := { r with peerExpected := [], complete := true, timerRemaining := none, pending := [] })
      (negotiated.frame rfl rfl) same complete held
      ⟨handing.encrypted, handing.sent, rfl, iff_of_true rfl rfl⟩ areKeys received)
  | cons next more =>
    rw [completeIfDistributed_some _ (by simp)]
    have waits : ¬ r.complete = true := mt handing.complete.mp (cons_ne_nil _ _)
    exact .silent quiet (.keysI (negotiated.frame rfl rfl) same complete held
      ⟨handing.encrypted, handing.sent, rfl, iff_of_false waits (cons_ne_nil _ _)⟩ areKeys
      received)

theorem hears_keyI (areKeys : ∀ coming ∈ command :: commands, coming.isKey = true)
    (received : Received r i (keyCommands r.sc r.initiatorKeyDistribution) (command :: commands))
    (quiet : r.pending = []) (draws : Draws) :
    ∃ heard, r.step draws (i.keyPdu command) = .ok heard ∧
      Continues 0 .left i heard (commands.map i.keyPdu) := by
  refine ⟨_, step_keyPdu negotiated.alive.2 i draws (areKeys command mem_cons_self), ?_⟩
  have learned := received.learn
  obtain ⟨ltk, ediv, rand, irk, identity, csrk, frame⟩ := learn_frame r i command
  have areKeys := fun coming listed => areKeys coming (mem_cons_of_mem _ listed)
  have handing : Handing (r.learn i command) (command :: commands) := by
    rw [frame]
    exact ⟨handing.encrypted, handing.sent, handing.expected, handing.complete⟩
  have quiet : (r.learn i command).pending = [] := by rw [frame]; exact quiet
  have same : SameLtk i (r.learn i command) := by rw [frame]; exact same
  have held : Received i (r.learn i command)
      (keyCommands (r.learn i command).sc (r.learn i command).responderKeyDistribution) [] := by
    rw [frame]; exact held
  have learned : Received (r.learn i command) i (keyCommands (r.learn i command).sc
      (r.learn i command).initiatorKeyDistribution) commands := by
    rw [frame] at learned ⊢; exact learned
  have negotiated : Negotiated i (r.learn i command) := by
    rw [frame]
    exact (negotiated.frame rfl rfl)
  exact responder_checks negotiated same complete held handing areKeys learned quiet

end Handing

end Same

end Keys

section Legacy
variable (negotiated : Negotiated i r) (legacy : r.sc = false)
  (awaitingI : Awaiting i i.responderKeyDistribution)
include negotiated legacy awaitingI

theorem hears_legacyConfirmI (awaitingR : Awaiting r r.initiatorKeyDistribution)
    (quiet : r.pending = []) (draws : Draws) :
    ∃ heard, r.step draws (build16 pairingConfirm.opcode (i.legacyConfirm i.rLocal)) =
        .ok heard ∧ Continues 13 .left i heard [] := by
  refine ⟨_, (step_command negotiated.alive.2 draws .pairingConfirm _).trans (congrArg Except.ok
    (onPairingConfirm_responder draws (parse16_build16 _ _) legacy negotiated.responder)), ?_⟩
  exact .turn (congrArg (· ++ _) quiet) (show 12 + 1 ≤ 13 by decide)
    (.legacyConfirmR (negotiated.frame rfl rfl) legacy awaitingI
      ⟨awaitingR.unsent, awaitingR.incomplete, awaitingR.expected⟩ rfl)

theorem hears_legacyConfirmR (awaitingR : Awaiting r r.initiatorKeyDistribution)
    (confirmed : r.peerConfirm = some (i.legacyConfirm i.rLocal)) (quiet : i.pending = [])
    (draws : Draws) :
    ∃ heard, i.step draws (build16 pairingConfirm.opcode (r.legacyConfirm r.rLocal)) =
        .ok heard ∧ Continues 12 .right r heard [] := by
  refine ⟨_, (step_command negotiated.alive.1 draws .pairingConfirm _).trans (congrArg Except.ok
    (onPairingConfirm_initiator draws (parse16_build16 _ _) (negotiated.sc.trans legacy)
      negotiated.initiator)), ?_⟩
  exact .turn (congrArg (· ++ _) quiet) (show 11 + 1 ≤ 12 by decide)
    (.legacyRandomI (negotiated.frame rfl rfl) legacy
      ⟨awaitingI.unsent, awaitingI.incomplete, awaitingI.expected⟩ awaitingR confirmed rfl)

theorem hears_legacyRandomI (awaitingR : Awaiting r r.initiatorKeyDistribution)
    (confirmedR : r.peerConfirm = some (i.legacyConfirm i.rLocal))
    (confirmedI : i.peerConfirm = some (r.legacyConfirm r.rLocal)) (quiet : r.pending = [])
    (draws : Draws) :
    ∃ heard, r.step draws (build16 pairingRandom.opcode i.rLocal) = .ok heard ∧
      Continues 11 .left i heard [] := by
  have matched := confirmedR.trans (congrArg some (negotiated.legacyConfirm_eq i.rLocal))
  have few := keyCommands_length r.sc r.responderKeyDistribution
  have waiting : Awaiting (r.keyedLegacy draws i.rLocal) r.initiatorKeyDistribution :=
    ⟨awaitingR.unsent, awaitingR.incomplete, awaitingR.expected⟩
  obtain ⟨complete, timer, encrypts, whether⟩ := onEncrypted_responder
    (r := r.keyedLegacy draws i.rLocal) negotiated.responder negotiated.eager waiting
  refine ⟨_, (step_command negotiated.alive.2 draws .pairingRandom _).trans
    (onPairingRandom_legacy draws (parse16_build16 _ _) legacy matched), ?_⟩
  rw [encrypts]
  have queued : (r.keyedLegacy draws i.rLocal).pending =
      [build16 pairingRandom.opcode r.rLocal] := by
    simp [keyedLegacy, quiet, negotiated.responder]
  have stk : (r.keyedLegacy draws i.rLocal).stk = some (s1 r.tk r.rLocal i.rLocal) := by
    simp [keyedLegacy, negotiated.responder]
  refine .turn (congrArg (· ++ _) queued) ?_ (.legacyRandomR
    (negotiated.frame rfl rfl) legacy awaitingI
      ⟨rfl, rfl, awaitingR.expected, whether⟩ confirmedI stk)
  have selected : (keyCommands (r.keyedLegacy draws i.rLocal).sc
    (r.keyedLegacy draws i.rLocal).responderKeyDistribution).length ≤ 5 := few
  simp only [singleton_append, length_cons, length_map]
  omega

theorem hears_legacyRandomR (handing : Handing r (keyCommands r.sc r.initiatorKeyDistribution))
    (confirmed : i.peerConfirm = some (r.legacyConfirm r.rLocal))
    (stk : r.stk = some (s1 r.tk r.rLocal i.rLocal)) (quiet : i.pending = []) (draws : Draws) :
    ∃ heard, i.step draws (build16 pairingRandom.opcode r.rLocal) = .ok heard ∧
      Continues 5 .right r heard
        ((keyCommands r.sc r.responderKeyDistribution).map r.keyPdu) := by
  have matched := confirmed.trans (congrArg some (negotiated.legacyConfirm_eq r.rLocal).symm)
  have legacyI := negotiated.sc.trans legacy
  refine ⟨_, (step_command negotiated.alive.1 draws .pairingRandom _).trans
    (onPairingRandom_legacy draws (parse16_build16 _ _) legacyI matched), ?_⟩
  have own : (i.keyedLegacy draws r.rLocal).stk = some (s1 i.tk r.rLocal i.rLocal) := by
    simp [keyedLegacy, negotiated.initiator]
  refine initiator_encrypts
    (negotiated.frame rfl rfl) ?_
    ⟨awaitingI.unsent, awaitingI.incomplete, awaitingI.expected⟩ handing ?_
  · have mine : (i.keyedLegacy draws r.rLocal).getLtk = some (s1 i.tk r.rLocal i.rLocal) := by
      rw [getLtk, if_neg (by simp [keyedLegacy, legacyI]), own]
    have theirs : r.getLtk = some (s1 r.tk r.rLocal i.rLocal) := by
      rw [getLtk, if_neg (by simp [legacy]), stk]
    exact ⟨mine.trans (by rw [theirs, negotiated.tk]), by rw [mine]; rfl⟩
  · simp [keyedLegacy, quiet, negotiated.initiator]

end Legacy

section SecureConnections
variable (negotiated : Negotiated i r) (secure : r.sc = true)
  (awaitingI : Awaiting i i.responderKeyDistribution)
include negotiated secure awaitingI

section AwaitingR
variable (awaitingR : Awaiting r r.initiatorKeyDistribution)
include awaitingR

theorem hears_publicKeyI (quiet : r.pending = []) (draws : Draws) :
    ∃ heard, r.step draws (buildPublicKey i.localPubX i.localPubY) = .ok heard ∧
      Continues 16 .left i heard [] := by
  obtain ⟨shared, forI, forR⟩ := id negotiated.keys
  refine ⟨_, (step_command negotiated.alive.2 draws .pairingPublicKey _).trans (congrArg Except.ok
    (onPublicKey_responder draws (parsePublicKey_buildPublicKey _ _) forR negotiated.responder)), ?_⟩
  exact .turn (congrArg (· ++ _) quiet) (show 14 + 2 ≤ 16 by decide)
    (.publicKeyR (negotiated.frame rfl rfl) secure awaitingI
      ⟨awaitingR.unsent, awaitingR.incomplete, awaitingR.expected⟩ forI rfl rfl)

theorem hears_publicKeyR {shared : Octets 32}
    (forI : i.ecdh.sharedXLe r.localPubX r.localPubY = some shared)
    (derived : r.dhKey = some shared) (peerPub : r.peerPubX = i.localPubX) (quiet : i.pending = [])
    (draws : Draws) :
    ∃ heard, i.step draws (buildPublicKey r.localPubX r.localPubY) = .ok heard ∧
      Continues 14 .right r heard
        [build16 pairingConfirm.opcode (f4 r.localPubX r.peerPubX r.rLocal 0)] := by
  refine ⟨_, (step_command negotiated.alive.1 draws .pairingPublicKey _).trans (congrArg Except.ok
    (onPublicKey_initiator draws (parsePublicKey_buildPublicKey _ _) forI negotiated.initiator)), ?_⟩
  exact .silent quiet (.confirmR
    (negotiated.frame rfl rfl) secure
      ⟨awaitingI.unsent, awaitingI.incomplete, awaitingI.expected⟩ awaitingR derived.symm
      (by rw [derived]; rfl) peerPub rfl)

theorem hears_confirmR (derived : i.dhKey = r.dhKey) (some : r.dhKey.isSome)
    (peerPubR : r.peerPubX = i.localPubX) (peerPubI : i.peerPubX = r.localPubX)
    (quiet : i.pending = []) (draws : Draws) :
    ∃ heard, i.step draws
        (build16 pairingConfirm.opcode (f4 r.localPubX r.peerPubX r.rLocal 0)) =
          .ok heard ∧
      Continues 14 .right r heard [] := by
  refine ⟨_, (step_command negotiated.alive.1 draws .pairingConfirm _).trans (congrArg Except.ok
    (onPairingConfirm_sc draws (parse16_build16 _ _) (negotiated.sc.trans secure)
      negotiated.initiator)), ?_⟩
  exact .turn (congrArg (· ++ _) quiet) (show 13 + 1 ≤ 14 by decide) (.randomI
    (negotiated.frame rfl rfl) secure
      ⟨awaitingI.unsent, awaitingI.incomplete, awaitingI.expected⟩ awaitingR derived some peerPubR
      peerPubI rfl)

theorem hears_randomI (derived : i.dhKey = r.dhKey) (some : r.dhKey.isSome)
    (peerPubR : r.peerPubX = i.localPubX) (peerPubI : i.peerPubX = r.localPubX)
    (confirmed : i.peerConfirm = Option.some (f4 r.localPubX r.peerPubX r.rLocal 0))
    (quiet : r.pending = []) (draws : Draws) :
    ∃ heard, r.step draws (build16 pairingRandom.opcode i.rLocal) = .ok heard ∧
      Continues 13 .left i heard [] := by
  obtain ⟨shared, held⟩ := Option.isSome_iff_exists.mp some
  refine ⟨_, (step_command negotiated.alive.2 draws .pairingRandom _).trans
    (onPairingRandom_responder draws (parse16_build16 _ _) secure held negotiated.responder), ?_⟩
  exact .turn (congrArg (· ++ _) quiet) (show 12 + 1 ≤ 13 by decide) (.randomR
    (negotiated.frame rfl rfl) secure awaitingI
      ⟨awaitingR.unsent, awaitingR.incomplete, awaitingR.expected⟩ (derived.trans held) peerPubI
      peerPubR.symm confirmed
      (congrArg (Option.some ∘ Prod.snd) (negotiated.scKeys_eq shared i.rLocal r.rLocal).symm)
      (congrArg Option.some (negotiated.checkA_eq shared _ _).symm)
      (congrArg Option.some (negotiated.checkB_eq shared _ _).symm))

theorem hears_randomR {shared : Octets 32} (derived : i.dhKey = some shared)
    (peerPubI : i.peerPubX = r.localPubX) (peerPubR : i.localPubX = r.peerPubX)
    (confirmed : i.peerConfirm = some (f4 r.localPubX r.peerPubX r.rLocal 0))
    (ltk : r.ltk = some (i.scKeys shared i.rLocal r.rLocal).2)
    (ea : r.ea = some (i.checkA shared i.rLocal r.rLocal))
    (eb : r.eb = some (i.checkB shared i.rLocal r.rLocal)) (quiet : i.pending = []) (draws :
      Draws) :
    ∃ heard, i.step draws (build16 pairingRandom.opcode r.rLocal) = .ok heard ∧
      Continues 12 .right r heard [] := by
  have matched : i.peerConfirm = some (f4 i.peerPubX i.localPubX r.rLocal 0) := by
    rw [peerPubI, peerPubR]
    exact confirmed
  refine ⟨_, (step_command negotiated.alive.1 draws .pairingRandom _).trans
    (onPairingRandom_initiator draws (parse16_build16 _ _) (negotiated.sc.trans secure) derived
      negotiated.initiator matched), ?_⟩
  exact .turn (congrArg (· ++ _) quiet) (show 11 + 1 ≤ 12 by decide) (.checkI
    (negotiated.frame rfl rfl) secure
      ⟨awaitingI.unsent, awaitingI.incomplete, awaitingI.expected⟩ awaitingR ltk.symm
      (by rw [ltk]; rfl) eb.symm (by rw [eb]; rfl) ea)

theorem hears_checkI {ea : Octets 16} (ltk : i.ltk = r.ltk) (someLtk : r.ltk.isSome)
    (eb : i.eb = r.eb) (someEb : r.eb.isSome) (matched : r.ea = some ea) (quiet : r.pending = [])
    (draws : Draws) :
    ∃ heard, r.step draws (build16 pairingDhkeyCheck.opcode ea) = .ok heard ∧
      Continues 11 .left i heard [] := by
  obtain ⟨own, held⟩ := Option.isSome_iff_exists.mp someEb
  have few := keyCommands_length r.sc r.responderKeyDistribution
  have waiting : Awaiting (r.queue (build16 pairingDhkeyCheck.opcode own))
      r.initiatorKeyDistribution :=
    ⟨awaitingR.unsent, awaitingR.incomplete, awaitingR.expected⟩
  obtain ⟨complete, timer, encrypts, whether⟩ := onEncrypted_responder
    (r := r.queue (build16 pairingDhkeyCheck.opcode own)) negotiated.responder
    negotiated.eager waiting
  refine ⟨_, (step_command negotiated.alive.2 draws .pairingDhkeyCheck _).trans
    (onDhkeyCheck_responder (parse16_build16 _ _) negotiated.responder matched held), ?_⟩
  rw [encrypts]
  have queued : (r.queue (build16 pairingDhkeyCheck.opcode own)).pending =
      [build16 pairingDhkeyCheck.opcode own] := by simp [queue, quiet]
  refine .turn (congrArg (· ++ _) queued) ?_ (.checkR
    (negotiated.frame rfl rfl) secure awaitingI
      ⟨rfl, rfl, awaitingR.expected, whether⟩ ltk someLtk (eb.trans held))
  have selected : (keyCommands (r.queue (build16 pairingDhkeyCheck.opcode own)).sc
    (r.queue (build16 pairingDhkeyCheck.opcode own)).responderKeyDistribution).length ≤ 5 :=
    few
  simp only [singleton_append, length_cons, length_map]
  omega

end AwaitingR

theorem hears_checkR {eb : Octets 16}
    (handing : Handing r (keyCommands r.sc r.initiatorKeyDistribution)) (ltk : i.ltk = r.ltk)
    (someLtk : r.ltk.isSome) (matched : i.eb = some eb) (quiet : i.pending = [])
    (draws : Draws) :
    ∃ heard, i.step draws (build16 pairingDhkeyCheck.opcode eb) = .ok heard ∧
      Continues 5 .right r heard
        ((keyCommands r.sc r.responderKeyDistribution).map r.keyPdu) := by
  have sc := negotiated.sc.trans secure
  refine ⟨_, (step_command negotiated.alive.1 draws .pairingDhkeyCheck _).trans
    (onDhkeyCheck_initiator (parse16_build16 _ _) negotiated.initiator matched), ?_⟩
  refine initiator_encrypts negotiated ?_ awaitingI handing quiet
  have mine : i.getLtk = i.ltk := if_pos sc
  have theirs : r.getLtk = r.ltk := if_pos secure
  exact ⟨mine.trans (ltk.trans theirs.symm), by rw [mine, ltk]; exact someLtk⟩

end SecureConnections
end Simble.Smp
