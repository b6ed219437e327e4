import Simble.Smp.Rounds

/-! An honest run: an initiator, a responder, nobody else, and two queues between them. In
whatever order PDUs are delivered and queued answers polled, the run is short, never stuck, and
where it ends the sessions agree on all they negotiated. -/
namespace Simble.Smp
open Simble.Lib Simble.Crypto PairingSession

variable {curve : P256}

structure Ends (curve : P256) where
  config : Side → PairingConfig
  address : Side → Address
  addressType : Side → AddressType
  peerAddressType : Side → AddressType
  generated : Side → P256Keypair curve
  irk : Side → Octets 16

namespace Ends
variable (ends : Ends curve)

def session (role : Role) (i : Side) : Rust (PairingSession curve) :=
  PairingSession.new role (ends.config i) (ends.address i) (ends.addressType i) (ends.address i.peer)
    (ends.peerAddressType i) (ends.generated i) (ends.irk i)

def started : Rust (Duplex (PairingSession curve) Bytes) := do
  let initiator ← ends.session .initiator .left
  let responder ← ends.session .responder .right
  let (request, initiator) ← initiator.start
  pure
    { node := fun i => if i = .left then initiator else responder
      inbox := fun i => if i = .left then [] else [request] }

/-- Both sides have the same addresses in mind. -/
def Consistent : Prop :=
  ∀ i, isRandom (ends.addressType i) = isRandom (ends.peerAddressType i.peer)

end Ends

inductive Exchange : Duplex (PairingSession curve) Bytes → Dialogue.Move Draws →
    Duplex (PairingSession curve) Bytes → Prop where
  | handlePdu {net i draws pdu rest answer after} : net.inbox i = pdu :: rest →
      (net.node i).handlePdu draws pdu = .ok (answer, after) →
      Exchange net (.hear i draws) ((net.consume i rest).emit i after answer.toList)
  | pollPending {net i pdu after} : (net.node i).pollPending = (some pdu, after) →
      Exchange net (.send i) (net.emit i after [pdu])

/-- No PDU is in flight and none waits to be polled. -/
def Finished (net : Duplex (PairingSession curve) Bytes) : Prop :=
  net.Quiescent ∧ ∀ i, (net.node i).pending = []

/-- What an initiator and a responder agree on at the end. -/
structure Agreed (i r : PairingSession curve) : Prop where
  complete : i.complete = true ∧ r.complete = true
  alive : i.failed = false ∧ r.failed = false
  ltk : i.getLtk = r.getLtk ∧ i.getLtk.isSome
  sc : i.sc = r.sc
  bonding : i.bonding = r.bonding
  initiatorKeys : i.initiatorKeyDistribution = r.initiatorKeyDistribution
  responderKeys : i.responderKeyDistribution = r.responderKeyDistribution
  initiatorIdentity : r.initiatorKeyDistribution &&& KeyDistribution.idKey ≠ 0 →
    r.peerIrk = some i.localIrk ∧ r.peerIdentityAddress = some i.identityAddress
  responderIdentity : i.responderKeyDistribution &&& KeyDistribution.idKey ≠ 0 →
    i.peerIrk = some r.localIrk ∧ i.peerIdentityAddress = some r.identityAddress

section Dialogue

def outbox : Outbox (PairingSession curve) Bytes where
  queued := pending
  pop session := { session with pending := session.pending.tail }
  queued_pop _ := rfl

def Hears (session : PairingSession curve) (draws : Draws) (pdu : Bytes)
    (heard : PairingSession curve) : Prop := session.step draws pdu = .ok heard

theorem exchange_iff {net next : Duplex (PairingSession curve) Bytes} {move : Dialogue.Move Draws} :
    Exchange net move next ↔ Dialogue.Step outbox Hears net move next := by
  constructor
  · intro exchanged
    cases exchanged with
    | handlePdu arrived handled =>
      obtain ⟨heard, stepped, polled⟩ := Rust.bind_eq_ok.mp handled
      cases polled
      exact .hear arrived stepped
    | @pollPending _ pdu _ polled =>
      obtain ⟨front, rfl⟩ := Prod.mk.inj polled
      obtain ⟨rest, found⟩ := List.head?_eq_some_iff.mp front
      exact .send found
  · intro stepped
    cases stepped with
    | hear arrived heard =>
      refine .handlePdu arrived ?_
      exact Rust.bind_eq_ok.mpr ⟨_, heard, rfl⟩
    | send found =>
      refine .pollPending ?_
      exact Prod.ext (congrArg List.head? found) rfl

theorem Script.hears {n : Nat} {side : Side} {talker listener : PairingSession curve} {pdu : Bytes}
    {words rest : List Bytes} (script : Script n side talker listener words)
    (next : words = pdu :: rest) (quiet : listener.pending = []) (draws : Draws) :
    ∃ heard, listener.step draws pdu = .ok heard ∧ Continues n side talker heard rest := by
  cases script with
  | request paired own valid io freshI freshR =>
    cases next
    exact hears_request paired own valid io freshI freshR quiet draws
  | response paired preq pres valid code granted sc bonding initiatorKeys responderKeys fresh waiting =>
    cases next
    exact hears_response paired preq pres valid code granted sc bonding initiatorKeys responderKeys
      fresh waiting quiet draws
  | legacyConfirmI negotiated legacy awaitingI awaitingR =>
    cases next
    exact hears_legacyConfirmI negotiated legacy awaitingI awaitingR quiet draws
  | legacyConfirmR negotiated legacy awaitingI awaitingR confirmed =>
    cases next
    exact hears_legacyConfirmR negotiated legacy awaitingI awaitingR confirmed quiet draws
  | legacyRandomI negotiated legacy awaitingI awaitingR confirmedR confirmedI =>
    cases next
    exact hears_legacyRandomI negotiated legacy awaitingI awaitingR confirmedR confirmedI quiet draws
  | legacyRandomR negotiated legacy awaitingI handing confirmed stk =>
    cases next
    exact hears_legacyRandomR negotiated legacy awaitingI handing confirmed stk quiet draws
  | publicKeyI negotiated secure awaitingI awaitingR =>
    cases next
    exact hears_publicKeyI negotiated secure awaitingI awaitingR quiet draws
  | publicKeyR negotiated secure awaitingI awaitingR shared derived peerPub =>
    cases next
    exact hears_publicKeyR negotiated secure awaitingI awaitingR shared derived peerPub quiet draws
  | confirmR negotiated secure awaitingI awaitingR derived some peerPubR peerPubI =>
    cases next
    exact hears_confirmR negotiated secure awaitingI awaitingR derived some peerPubR peerPubI quiet
      draws
  | randomI negotiated secure awaitingI awaitingR derived some peerPubR peerPubI confirmed =>
    cases next
    exact hears_randomI negotiated secure awaitingI awaitingR derived some peerPubR peerPubI
      confirmed quiet draws
  | randomR negotiated secure awaitingI awaitingR derived peerPubI peerPubR confirmed ltk ea eb =>
    cases next
    exact hears_randomR negotiated secure awaitingI awaitingR derived peerPubI peerPubR confirmed
      ltk ea eb quiet draws
  | checkI negotiated secure awaitingI awaitingR ltk someLtk eb someEb matched =>
    cases next
    exact hears_checkI negotiated secure awaitingI awaitingR ltk someLtk eb someEb matched quiet
      draws
  | checkR negotiated secure awaitingI handing ltk someLtk matched =>
    cases next
    exact hears_checkR negotiated secure awaitingI handing ltk someLtk matched quiet draws
  | keysR negotiated same handing encrypted unsent expected areKeys received =>
    cases next
    exact hears_keyR negotiated same handing encrypted unsent expected areKeys received quiet draws
  | @keysI _ _ commands negotiated same complete held handing areKeys received =>
    obtain ⟨command, others, rfl, rfl, rfl⟩ := List.map_eq_cons_iff.mp next
    exact hears_keyI negotiated same complete held handing areKeys received quiet draws

/-- The script as a relation between sessions that may still have words queued. -/
def Spoken (n : Nat) (side : Side) (talker listener : PairingSession curve) (words : List Bytes) :
    Prop := Script n side talker.core listener.core words

theorem spoken_follows : Dialogue.Follows outbox Hears (@Spoken curve) where
  popTalker spoken := spoken
  popListener spoken := spoken
  understands := by
    intro n side talker listener pdu rest spoken quiet draws
    rw [Spoken, core_of_pending quiet] at spoken
    obtain ⟨heard, stepped, -⟩ := spoken.hears rfl quiet draws
    exact ⟨heard, stepped⟩
  answers := by
    intro n side talker listener pdu rest draws heard spoken quiet stepped
    rw [Spoken, core_of_pending quiet] at spoken
    obtain ⟨other, same, continues⟩ := spoken.hears rfl quiet draws
    obtain rfl := Except.ok.inj (same.symm.trans stepped)
    exact continues

end Dialogue

theorem Script.ended {n : Nat} {side : Side} {talker listener : PairingSession curve}
    {words : List Bytes} (script : Script n side talker listener words) (said : words = []) :
    side = .left ∧ Agreed talker listener := by
  cases script with
  | @keysI i r commands negotiated same complete held handing areKeys received =>
    obtain rfl := List.map_eq_nil_iff.mp said
    have holds {session peer : PairingSession curve} {commands : List Command}
        (kept : Received session peer commands []) {command : Command}
        (listed : command ∈ commands) : session.Knows peer command :=
      (kept command listed).resolve_left List.not_mem_nil
    refine ⟨rfl, ⟨complete, handing.complete.mpr rfl⟩, negotiated.alive, same, negotiated.sc,
      negotiated.bonding, negotiated.initiatorKeys, negotiated.responderKeys, ?_, ?_⟩
    · intro agreed
      obtain ⟨info, address⟩ := mem_keyCommands_identity agreed
      exact ⟨holds received info, holds received address⟩
    · intro agreed
      rw [negotiated.responderKeys] at agreed
      obtain ⟨info, address⟩ := mem_keyCommands_identity agreed
      exact ⟨holds held info, holds held address⟩
  | _ => simp at said

theorem Ends.started_turn {ends : Ends curve}
    (valid : ∀ i, (ends.config i).ioCapability ≤ IoCapability.keyboardDisplay)
    (eager : ∀ i, (ends.config i).deferKeyDistribution = false) (consistent : ends.Consistent)
    {net : Duplex (PairingSession curve) Bytes} (started : ends.started = .ok net)
    (agree : (net.node .left).ecdh.Agree (net.node .right).ecdh) :
    Dialogue.Turn outbox Spoken 37 0 net 18 .left := by
  obtain ⟨i, createdI, started⟩ := Rust.bind_eq_ok.mp started
  obtain ⟨r, createdR, started⟩ := Rust.bind_eq_ok.mp started
  cases started
  obtain ⟨freshI, addressesI⟩ := new_eq_ok createdI
  obtain ⟨freshR, addressesR⟩ := new_eq_ok createdR
  simp only [if_true, reduceCtorEq, if_false, Prod.mk.injEq] at addressesI addressesR
  obtain ⟨ia, iat, ra, rat⟩ := addressesI
  obtain ⟨ia', iat', ra', rat'⟩ := addressesR
  obtain ⟨shared, forI, forR⟩ := agree
  have keys : i.ecdh.sharedXLe r.localPubX r.localPubY = some shared ∧
      r.ecdh.sharedXLe i.localPubX i.localPubY = some shared := by
    rw [freshI.localPub.1, freshI.localPub.2, freshR.localPub.1, freshR.localPub.2]
    exact ⟨forI, forR⟩
  have paired : Paired i r := ⟨freshI.role, freshR.role, ⟨freshI.alive, freshR.alive⟩,
    ia.trans ia'.symm, (iat.trans (consistent .left)).trans iat'.symm, ra.trans ra'.symm,
    (rat.trans (consistent .right).symm).trans rat'.symm, freshI.tk.trans freshR.tk.symm,
    freshR.deferKeyDistribution.trans (eager .right), ⟨shared, keys⟩⟩
  have ioI : i.ioCapability ≤ IoCapability.keyboardDisplay := freshI.ioCapability ▸ valid .left
  have ioR : r.ioCapability ≤ IoCapability.keyboardDisplay := freshR.ioCapability ▸ valid .right
  have spoken : Script 18 .left
      { i with
        preq := i.request.octets, phase := .waitPairingResponse
        timerRemaining := some smpTimeoutSeconds, pending := [] } r.core [i.request.asBytes] :=
    .request ⟨paired.initiator, paired.responder, paired.alive, paired.ia, paired.iat, paired.ra,
      paired.rat, paired.tk, paired.eager, paired.keys⟩ rfl (inRange_of_authReq ioI rfl rfl rfl) ioR
      ⟨freshI.unsent, freshI.incomplete⟩ ⟨freshR.unsent, freshR.incomplete⟩
  refine ⟨?_, ⟨freshR.mute, rfl⟩, ?_⟩
  · show Script _ _ _ _ ([i.request.asBytes] ++ i.pending)
    rw [freshI.mute]
    exact spoken
  · show 0 + 2 * 18 + 2 * i.pending.length + 1 ≤ 37
    rw [freshI.mute]
    decide

/-- Every run is finite, no PDU is left unhandled or panics, and where a run
has finished both sessions are complete and agree. -/
theorem honest_pairing_agrees {ends : Ends curve}
    (valid : ∀ i, (ends.config i).ioCapability ≤ IoCapability.keyboardDisplay)
    (eager : ∀ i, (ends.config i).deferKeyDistribution = false) (consistent : ends.Consistent)
    {start : Duplex (PairingSession curve) Bytes} (started : ends.started = .ok start)
    (agree : (start.node .left).ecdh.Agree (start.node .right).ecdh) {moves : List (Dialogue.Move Draws)}
    {net : Duplex (PairingSession curve) Bytes} (run : Run Exchange start moves net) :
    moves.length ≤ 37 ∧
      (∀ i, net.inbox i ≠ [] → ∀ draws, ∃ next, Exchange net (.hear i draws) next) ∧
      (∀ i, (net.node i).pending ≠ [] → ∃ next, Exchange net (.send i) next) ∧
      (Finished net → Agreed (net.node .left) (net.node .right)) := by
  have first := Ends.started_turn valid eager consistent started agree
  obtain ⟨n, side, turn⟩ := Dialogue.Run.turn spoken_follows first
    (run.mono fun exchanged => exchange_iff.mp exchanged)
  refine ⟨?_, ?_, ?_, ?_⟩
  · have cost := turn.cost
    omega
  · intro i waiting draws
    obtain ⟨next, stepped⟩ := turn.progress spoken_follows waiting draws
    exact ⟨next, exchange_iff.mpr stepped⟩
  · intro i waiting
    obtain ⟨pdu, rest, found⟩ := List.exists_cons_of_ne_nil waiting
    exact ⟨_, exchange_iff.mpr (.send found)⟩
  · intro finished
    obtain ⟨rfl, agreed⟩ := (turn.silent_script finished).ended rfl
    have same (i : Side) : (net.node i).core = net.node i := core_of_pending (finished.2 i)
    have agreed : Agreed (net.node .left).core (net.node .right).core := agreed
    rwa [same, same] at agreed

/-- What the crate computes on the key pair of Debug Mode, which both sides may
use at once. -/
def debugCurve : P256 where
  SecretKey := Octets 32
  fromSlice := some
  publicKey _ := (
    ⟨[0x20, 0xB0, 0x03, 0xD2, 0xF2, 0x97, 0xBE, 0x2C, 0x5E, 0x2C, 0x83, 0xA7, 0xE9, 0xF9, 0xA5,
      0xB9, 0xEF, 0xF4, 0x91, 0x11, 0xAC, 0xF4, 0xFD, 0xDB, 0xCC, 0x03, 0x01, 0x48, 0x0E, 0x35,
      0x9D, 0xE6], rfl⟩,
    ⟨[0xDC, 0x80, 0x9C, 0x49, 0x65, 0x2A, 0xEB, 0x6D, 0x63, 0x32, 0x9A, 0xBF, 0x5A, 0x52, 0x15,
      0x5C, 0x76, 0x63, 0x45, 0xC2, 0x8F, 0xED, 0x30, 0x24, 0x74, 0x1C, 0x8E, 0xD0, 0x15, 0x89,
      0xD2, 0x8B], rfl⟩)
  diffieHellman _ _ := some
    ⟨[0x70, 0xAA, 0xD7, 0xE6, 0x49, 0xF9, 0x1C, 0x7C, 0xAE, 0x5F, 0x79, 0xFC, 0x32, 0x99, 0x27,
      0x87, 0xC3, 0x87, 0x57, 0xA8, 0x72, 0x8B, 0x7B, 0x55, 0xDA, 0x7B, 0xB3, 0xCB, 0x48, 0x00,
      0xAB, 0x2D], rfl⟩

def debugEnds : Ends debugCurve where
  config _ := { PairingConfig.default with debugMode := true }
  address _ := Address.any
  addressType _ := .randomDevice
  peerAddressType _ := .randomDevice
  generated _ := ⟨.zero, .zero, .zero⟩
  irk _ := .zero

/-- A pairing with Secure Connections, to its end. -/
theorem honest_pairing_agrees_debug : ∃ start moves net, debugEnds.started = .ok start ∧
    Run Exchange start moves net ∧ Finished net ∧ Agreed (net.node .left) (net.node .right) := by
  have valid : ∀ i, (debugEnds.config i).ioCapability ≤ IoCapability.keyboardDisplay :=
    fun _ => (by decide : IoCapability.noInputNoOutput ≤ IoCapability.keyboardDisplay)
  have eager : ∀ i, (debugEnds.config i).deferKeyDistribution = false := fun _ => rfl
  have consistent : debugEnds.Consistent := fun _ => rfl
  obtain ⟨start, started, agree⟩ : ∃ start, debugEnds.started = .ok start ∧
    (start.node .left).ecdh.Agree (start.node .right).ecdh := ⟨_, rfl, _, rfl, rfl⟩
  obtain ⟨moves, net, run, stuck⟩ := Run.exists_stuck fun run =>
    (honest_pairing_agrees valid eager consistent started agree run).1
  obtain ⟨-, heard, polled, agreed⟩ := honest_pairing_agrees valid eager consistent started agree run
  have finished : Finished net := by
    refine ⟨fun i => ?_, fun i => ?_⟩
    · by_contra waiting
      obtain ⟨next, exchanged⟩ := heard i waiting ⟨.zero, .zero, 0, .zero⟩
      exact stuck _ next exchanged
    · by_contra waiting
      obtain ⟨next, exchanged⟩ := polled i waiting
      exact stuck _ next exchanged
  exact ⟨start, moves, net, started, run, finished, agreed finished⟩

end Simble.Smp
