import Simble.Smp.Pairing

/-! What the handlers of the first two phases leave behind, as one record
update each, where they neither fail the session nor panic. -/
namespace Simble.Smp
open Simble.Crypto Command SmpPairingPacket

namespace PairingSession
variable {curve : P256} (session : PairingSession curve)

structure Fresh (session : PairingSession curve) (role : Role) (config : PairingConfig) : Prop where
  role : session.role = role
  phase : session.phase = .idle
  sc : session.sc = config.sc
  ioCapability : session.ioCapability = config.ioCapability
  deferKeyDistribution : session.deferKeyDistribution = config.deferKeyDistribution
  tk : session.tk = .zero
  localPub : session.localPubX = session.ecdh.xLe ∧ session.localPubY = session.ecdh.yLe
  secrets : session.stk = none ∧ session.dhKey = none ∧ session.ltk = none ∧ session.ea = none ∧
    session.eb = none
  confirm : session.peerConfirm = none
  unsent : session.ownKeysSent = false
  incomplete : session.complete = false
  alive : session.failed = false
  unencrypted : session.isEncrypted = false
  mute : session.pending = []

theorem new_eq_ok {role : Role} {config : PairingConfig} {localAddress peerAddress : Address}
    {localType peerType : AddressType} {generated : P256Keypair curve} {irk : Octets 16}
    {session : PairingSession curve}
    (created : PairingSession.new role config localAddress localType peerAddress peerType generated
      irk = .ok session) :
    session.Fresh role config ∧
      (session.ia, session.iat, session.ra, session.rat) =
        if role = .initiator then
          (localAddress.bytes, isRandom localType, peerAddress.bytes, isRandom peerType)
        else (peerAddress.bytes, isRandom peerType, localAddress.bytes, isRandom localType) := by
  cases role <;> cases localType <;>
  · simp only [PairingSession.new, reduceCtorEq, if_true, if_false] at created
    split at created <;>
    · obtain ⟨ecdh, -, made⟩ := Rust.bind_eq_ok.mp created
      cases made
      exact ⟨⟨rfl, rfl, rfl, rfl, rfl, rfl, ⟨rfl, rfl⟩, ⟨rfl, rfl, rfl, rfl, rfl⟩, rfl, rfl, rfl, rfl, rfl,
        rfl⟩, rfl⟩

theorem step_command {session : PairingSession curve} (alive : session.failed = false)
    (draws : Draws) (command : Command) (rest : Bytes) :
    session.step draws (command.opcode :: rest) =
      session.dispatch draws (command.opcode :: rest) (some command) := by
  simp only [step, alive, ofOpcode_opcode, Bool.false_eq_true, if_false]

/-- Whether both sides ask for LE Secure Connections. -/
def agreedSc (packet : SmpPairingPacket) : Bool := session.sc && packet.authReq &&& AuthReq.sc != 0

/-- Whether both sides ask for bonding. -/
def agreedBonding (packet : SmpPairingPacket) : Bool :=
  session.bonding && packet.authReq &&& AuthReq.bonding != 0

/-- What a responder answers: it asks for what both sides ask for. -/
def response (req : SmpPairingPacket) : SmpPairingPacket :=
  .newResponse session.ioCapability
    { session with
      sc := session.agreedSc req, bonding := session.agreedBonding req }.authReqByte
    (session.initiatorKeyDistribution &&& req.initiatorKeyDistribution)
    (session.responderKeyDistribution &&& req.responderKeyDistribution)

theorem answerRequest_eq (req : SmpPairingPacket) :
    session.answerRequest req = .ok { session with
      timerRemaining := some smpTimeoutSeconds
      preq := req.octets
      pres := (session.response req).octets
      peerIoCapability := req.ioCapability
      sc := session.agreedSc req
      bonding := session.agreedBonding req
      initiatorKeyDistribution := session.initiatorKeyDistribution &&& req.initiatorKeyDistribution
      responderKeyDistribution := session.responderKeyDistribution &&& req.responderKeyDistribution
      peerExpected := expectedKeys (session.agreedSc req)
        (session.initiatorKeyDistribution &&& req.initiatorKeyDistribution)
      pending := session.pending ++ [(session.response req).asBytes]
      phase := if session.agreedSc req then .waitPeerPublicKey else .waitPeerConfirm } := rfl

theorem onPairingRequest_eq {session : PairingSession curve} {pdu : Bytes}
    {req : SmpPairingPacket} (responder : session.role = .responder)
    (parsed : parsePairingParameters pdu = some req) :
    session.onPairingRequest pdu = session.answerRequest req := by
  simp [onPairingRequest, responder, parsed]

variable {resp : SmpPairingPacket}

theorem onPairingResponse_eq {session : PairingSession curve} {pdu : Bytes}
    (initiator : session.role = .initiator) (draws : Draws)
    (parsed : parsePairingParameters pdu = some resp) :
    session.onPairingResponse draws pdu = session.acceptResponse draws resp := by
  simp [onPairingResponse, initiator, parsed]

def legacyConfirm (random : Octets 16) : Octets 16 :=
  c1 session.tk random session.preq session.pres session.iat session.rat session.ia session.ra

def taking (resp : SmpPairingPacket) : PairingSession curve :=
  { session with
    pres := resp.octets
    peerIoCapability := resp.ioCapability
    sc := session.agreedSc resp
    bonding := session.agreedBonding resp
    initiatorKeyDistribution := resp.initiatorKeyDistribution
    responderKeyDistribution := resp.responderKeyDistribution
    peerExpected := expectedKeys (session.agreedSc resp) resp.responderKeyDistribution
    timerRemaining := some smpTimeoutSeconds }

theorem acceptResponse_legacy (draws : Draws) (granted : session.Grants resp)
    (legacy : session.agreedSc resp = false) :
    session.acceptResponse draws resp = .ok { session.taking resp with
      rLocal := draws.nonce
      pending := session.pending ++
        [build16 pairingConfirm.opcode ((session.taking resp).legacyConfirm draws.nonce)]
      phase := .waitPeerConfirm } := by
  simp only [acceptResponse, tryFrom_asBytes, unwrap_some, Rust.ok_bind]
  split
  case isTrue refused => exact absurd granted refused
  case isFalse =>
    split
    case isTrue secure => exact absurd (legacy.symm.trans secure) Bool.false_ne_true
    case isFalse => rfl

theorem acceptResponse_sc (draws : Draws) (granted : session.Grants resp)
    (secure : session.agreedSc resp = true) :
    session.acceptResponse draws resp = .ok { session.taking resp with
      pending := session.pending ++ [buildPublicKey session.localPubX session.localPubY]
      phase := .waitPeerPublicKey } := by
  simp only [acceptResponse, tryFrom_asBytes, unwrap_some, Rust.ok_bind]
  split
  case isTrue refused => exact absurd granted refused
  case isFalse =>
    split
    case isTrue => rfl
    case isFalse legacy => exact absurd secure legacy

/-- A response that grants more than was asked for fails the session, after
its other fields have been taken over. -/
theorem acceptResponse_refused (draws : Draws) (refused : ¬ session.Grants resp) :
    session.acceptResponse draws resp = .ok ({ session with
      pres := resp.octets
      peerIoCapability := resp.ioCapability
      sc := session.agreedSc resp
      bonding := session.agreedBonding resp }.fail ErrorCode.invalidParameters) := by
  simp only [acceptResponse, tryFrom_asBytes, unwrap_some, Rust.ok_bind]
  split
  case isTrue => rfl
  case isFalse granted => exact absurd refused granted

section SecureConnections
variable (dhKey : Octets 32) (na nb : Octets 16)

/-- `ioCap` where it does not panic, which is everywhere. -/
def ioCapOctets (parameters : Octets 7) : Octets 3 := ⟨(parameters.toList.drop 1).take 3, by simp⟩

theorem ioCap_eq (parameters : Octets 7) : ioCap parameters = .ok (ioCapOctets parameters) :=
  congrArg unwrap (dif_pos (by simp))

/-- The `f5` keys for the random values of the initiator and of the responder. -/
def scKeys : Octets 16 × Octets 16 :=
  f5 dhKey na nb (addressWithType session.ia session.iat) (addressWithType session.ra session.rat)

def checkA : Octets 16 :=
  f6 (session.scKeys dhKey na nb).1 na nb .zero (ioCapOctets session.preq)
    (addressWithType session.ia session.iat) (addressWithType session.ra session.rat)

def checkB : Octets 16 :=
  f6 (session.scKeys dhKey na nb).1 nb na .zero (ioCapOctets session.pres)
    (addressWithType session.ra session.rat) (addressWithType session.ia session.iat)

theorem deriveScKeys_eq : session.deriveScKeys dhKey na nb = .ok { session with
    ltk := some (session.scKeys dhKey na nb).2
    ea := some (session.checkA dhKey na nb)
    eb := some (session.checkB dhKey na nb) } := by
  unfold deriveScKeys checkA checkB scKeys
  rw [ioCap_eq, ioCap_eq]
  rfl

end SecureConnections

section Exchange
variable {session : PairingSession curve} {pdu : Bytes} (draws : Draws)

section Parsed
variable {value : Octets 16} (parsed : parse16 pdu pairingConfirm.opcode = some value)
include parsed

theorem onPairingConfirm_sc (secure : session.sc = true) (initiator : session.role = .initiator) :
    session.onPairingConfirm draws pdu = { session with
      peerConfirm := some value
      rLocal := draws.nonce
      pending := session.pending ++ [build16 pairingRandom.opcode draws.nonce]
      timerRemaining := some smpTimeoutSeconds
      phase := .waitPeerRandom } := by
  simp only [onPairingConfirm, parsed, secure, initiator, if_true, ne_eq, not_true_eq_false,
    if_false]
  rfl

theorem onPairingConfirm_initiator (legacy : session.sc = false)
    (initiator : session.role = .initiator) :
    session.onPairingConfirm draws pdu = { session with
      peerConfirm := some value
      pending := session.pending ++ [build16 pairingRandom.opcode session.rLocal]
      timerRemaining := some smpTimeoutSeconds
      phase := .waitPeerRandom } := by
  simp only [onPairingConfirm, parsed, legacy, initiator, if_true, Bool.false_eq_true, if_false]
  rfl

theorem onPairingConfirm_responder (legacy : session.sc = false)
    (responder : session.role = .responder) :
    session.onPairingConfirm draws pdu = { session with
      peerConfirm := some value
      rLocal := draws.nonce
      pending := session.pending ++
        [build16 pairingConfirm.opcode (session.legacyConfirm draws.nonce)]
      timerRemaining := some smpTimeoutSeconds
      phase := .waitPeerRandom } := by
  simp only [onPairingConfirm, parsed, legacy, responder, Bool.false_eq_true, if_false, reduceCtorEq]
  rfl

end Parsed

def keyedLegacy (session : PairingSession curve) (draws : Draws) (peerRandom : Octets 16) :
    PairingSession curve :=
  { session with
    peerRandom := some peerRandom
    stk := some (if session.role = .initiator then s1 session.tk peerRandom session.rLocal
      else s1 session.tk session.rLocal peerRandom)
    localBondedLtk := draws.bondedLtk
    localBondedEdiv := draws.bondedEdiv
    localBondedRand := draws.bondedRand
    pending := session.pending ++ (if session.role = .responder then
      [build16 Command.pairingRandom.opcode session.rLocal] else [])
    timerRemaining := if session.role = .responder then some smpTimeoutSeconds
      else session.timerRemaining }

theorem onPairingRandom_legacy {value : Octets 16}
    (parsed : parse16 pdu pairingRandom.opcode = some value) (legacy : session.sc = false)
    (confirmed : session.peerConfirm = some (session.legacyConfirm value)) :
    session.onPairingRandom draws pdu = .ok (session.keyedLegacy draws value).onEncrypted := by
  have checked : ¬ c1 session.tk value session.preq session.pres session.iat session.rat session.ia
      session.ra ≠ session.legacyConfirm value := not_not.mpr rfl
  simp only [onPairingRandom, parsed, legacy, Bool.false_eq_true, if_false, onRandomLegacy,
    confirmed, checked, keyedLegacy]
  cases role : session.role with
  | initiator => simp only [if_true, reduceCtorEq, if_false, List.append_nil]
  | responder => simp only [if_true, reduceCtorEq, if_false]; rfl

section Derived
variable {value : Octets 16} {dhKey : Octets 32}
  (parsed : parse16 pdu pairingRandom.opcode = some value) (secure : session.sc = true)
  (derived : session.dhKey = some dhKey)
include parsed secure derived

theorem onPairingRandom_responder (responder : session.role = .responder) :
    session.onPairingRandom draws pdu = .ok { session with
      peerRandom := some value
      ltk := some (session.scKeys dhKey value session.rLocal).2
      ea := some (session.checkA dhKey value session.rLocal)
      eb := some (session.checkB dhKey value session.rLocal)
      pending := session.pending ++ [build16 pairingRandom.opcode session.rLocal]
      timerRemaining := some smpTimeoutSeconds
      phase := .waitPeerDhKeyCheck } := by
  simp only [onPairingRandom, parsed, secure, if_true, onRandomSc, derived, reduceCtorEq, if_false,
    responder, queue, finishScRandomExchange, unwrap_some, Rust.ok_bind, deriveScKeys_eq]
  rfl

theorem onPairingRandom_initiator (initiator : session.role = .initiator)
    (confirmed : session.peerConfirm = some (f4 session.peerPubX session.localPubX value 0)) :
    session.onPairingRandom draws pdu = .ok { session with
      peerRandom := some value
      ltk := some (session.scKeys dhKey session.rLocal value).2
      ea := some (session.checkA dhKey session.rLocal value)
      eb := some (session.checkB dhKey session.rLocal value)
      pending := session.pending ++
        [build16 pairingDhkeyCheck.opcode (session.checkA dhKey session.rLocal value)]
      timerRemaining := some smpTimeoutSeconds
      phase := .waitPeerDhKeyCheck } := by
  simp only [onPairingRandom, parsed, secure, if_true, onRandomSc, derived, reduceCtorEq, if_false,
    initiator, confirmed, ne_eq, not_true_eq_false, finishScRandomExchange, unwrap_some,
    Rust.ok_bind, deriveScKeys_eq]
  rfl

end Derived

section Shared
variable {x y dhKey : Octets 32} (parsed : parsePublicKey pdu = some (x, y))
  (shared : session.ecdh.sharedXLe x y = some dhKey)
include parsed shared

theorem onPublicKey_initiator (initiator : session.role = .initiator) :
    session.onPublicKey draws pdu = { session with
      peerPubX := x
      peerPubY := y
      dhKey := some dhKey
      phase := .waitPeerConfirm } := by
  simp only [onPublicKey, parsed, shared, initiator]

theorem onPublicKey_responder (responder : session.role = .responder) :
    session.onPublicKey draws pdu = { session with
      peerPubX := x
      peerPubY := y
      dhKey := some dhKey
      rLocal := draws.nonce
      pending := session.pending ++ [buildPublicKey session.localPubX session.localPubY,
        build16 pairingConfirm.opcode (f4 session.localPubX x draws.nonce 0)]
      timerRemaining := some smpTimeoutSeconds
      phase := .waitPeerRandom } := by
  simp only [onPublicKey, parsed, shared, responder, queue, List.append_assoc, List.cons_append,
    List.nil_append]

end Shared

theorem onDhkeyCheck_initiator {value : Octets 16}
    (parsed : parse16 pdu pairingDhkeyCheck.opcode = some value)
    (initiator : session.role = .initiator) (matched : session.eb = some value) :
    session.onDhkeyCheck pdu = .ok session.onEncrypted := by
  simp only [onDhkeyCheck, parsed, initiator, if_true, matched, ne_eq, not_true_eq_false, if_false,
    reduceCtorEq]

theorem onDhkeyCheck_responder {value eb : Octets 16}
    (parsed : parse16 pdu pairingDhkeyCheck.opcode = some value)
    (responder : session.role = .responder) (matched : session.ea = some value)
    (own : session.eb = some eb) :
    session.onDhkeyCheck pdu =
      .ok (session.queue (build16 pairingDhkeyCheck.opcode eb)).onEncrypted := by
  simp only [onDhkeyCheck, parsed, responder, reduceCtorEq, if_false, matched, ne_eq,
    not_true_eq_false, if_true, own, unwrap_some, Rust.ok_bind]
  rfl

end Exchange

end PairingSession
end Simble.Smp
