import Simble.Smp.Distribution
import Simble.Lib.Dialogue

/-! Two sessions that pair with each other and nobody else. Up to the last key it is always one
side's turn, so the exchange is a script: which PDUs are out, and how the fields of the sessions
agree then. -/
namespace Simble.Smp
open Simble.Lib Simble.Crypto

namespace PairingSession
variable {curve : P256}

def core (session : PairingSession curve) : PairingSession curve := { session with pending := [] }

theorem core_of_pending {session : PairingSession curve} (empty : session.pending = []) :
    session.core = session := by
  cases session
  cases empty
  rfl

end PairingSession

open PairingSession

/-- What does not change while an initiator `i` and a responder `r` pair. -/
structure Paired {curve : P256} (i r : PairingSession curve) : Prop where
  initiator : i.role = .initiator
  responder : r.role = .responder
  alive : i.failed = false ∧ r.failed = false
  ia : i.ia = r.ia
  iat : i.iat = r.iat
  ra : i.ra = r.ra
  rat : i.rat = r.rat
  tk : i.tk = r.tk
  eager : r.deferKeyDistribution = false
  keys : ∃ shared, i.ecdh.sharedXLe r.localPubX r.localPubY = some shared ∧
    r.ecdh.sharedXLe i.localPubX i.localPubY = some shared

/-- The feature exchange is over. -/
structure Negotiated {curve : P256} (i r : PairingSession curve) : Prop extends Paired i r where
  preq : i.preq = r.preq
  pres : i.pres = r.pres
  sc : i.sc = r.sc
  bonding : i.bonding = r.bonding
  initiatorKeys : i.initiatorKeyDistribution = r.initiatorKeyDistribution
  responderKeys : i.responderKeyDistribution = r.responderKeyDistribution

structure Awaiting {curve : P256} (session : PairingSession curve) (flags : UInt8) : Prop where
  unsent : session.ownKeysSent = false
  incomplete : session.complete = false
  expected : session.peerExpected = (keyCommands session.sc flags).map Command.opcode

/-- The responder has sent its keys and expects those of `commands`. -/
structure Handing {curve : P256} (r : PairingSession curve) (commands : List Command) : Prop where
  encrypted : r.isEncrypted = true
  sent : r.ownKeysSent = true
  expected : r.peerExpected = commands.map Command.opcode
  complete : r.complete = true ↔ commands = []

/-- Both sides secure the link with one key. -/
def SameLtk {curve : P256} (i r : PairingSession curve) : Prop :=
  i.getLtk = r.getLtk ∧ i.getLtk.isSome

/-- `peer` holds what `session` sends for every command but those still to come. -/
def Received {curve : P256} (session peer : PairingSession curve) (all coming : List Command) :
    Prop := ∀ command ∈ all, command ∈ coming ∨ session.Knows peer command

section
variable {curve : P256}

inductive Script : Nat → Side → PairingSession curve → PairingSession curve → List Bytes → Prop
  | request {i r} : Paired i r → i.preq = i.request.octets →
      i.request.InRange → r.ioCapability ≤ IoCapability.keyboardDisplay →
      i.ownKeysSent = false ∧ i.complete = false → r.ownKeysSent = false ∧ r.complete = false →
      Script 18 .left i r [i.request.asBytes]
  | response {i r resp} : Paired i r → i.preq = r.preq → r.pres = resp.octets → resp.InRange →
      resp.opcode = Command.pairingResponse.opcode → i.Grants resp →
      r.sc = i.agreedSc resp → r.bonding = i.agreedBonding resp →
      resp.initiatorKeyDistribution = r.initiatorKeyDistribution →
      resp.responderKeyDistribution = r.responderKeyDistribution →
      i.ownKeysSent = false ∧ i.complete = false → Awaiting r r.initiatorKeyDistribution →
      Script 17 .right r i [resp.asBytes]
  | legacyConfirmI {i r} : Negotiated i r → r.sc = false →
      Awaiting i i.responderKeyDistribution → Awaiting r r.initiatorKeyDistribution →
      Script 13 .left i r [build16 Command.pairingConfirm.opcode (i.legacyConfirm i.rLocal)]
  | legacyConfirmR {i r} : Negotiated i r → r.sc = false →
      Awaiting i i.responderKeyDistribution → Awaiting r r.initiatorKeyDistribution →
      r.peerConfirm = some (i.legacyConfirm i.rLocal) →
      Script 12 .right r i [build16 Command.pairingConfirm.opcode (r.legacyConfirm r.rLocal)]
  | legacyRandomI {i r} : Negotiated i r → r.sc = false →
      Awaiting i i.responderKeyDistribution → Awaiting r r.initiatorKeyDistribution →
      r.peerConfirm = some (i.legacyConfirm i.rLocal) →
      i.peerConfirm = some (r.legacyConfirm r.rLocal) →
      Script 11 .left i r [build16 Command.pairingRandom.opcode i.rLocal]
  | legacyRandomR {i r} : Negotiated i r → r.sc = false →
      Awaiting i i.responderKeyDistribution →
      Handing r (keyCommands r.sc r.initiatorKeyDistribution) →
      i.peerConfirm = some (r.legacyConfirm r.rLocal) →
      r.stk = some (s1 r.tk r.rLocal i.rLocal) →
      Script 5 .right r i (build16 Command.pairingRandom.opcode r.rLocal ::
        (keyCommands r.sc r.responderKeyDistribution).map r.keyPdu)
  | publicKeyI {i r} : Negotiated i r → r.sc = true →
      Awaiting i i.responderKeyDistribution → Awaiting r r.initiatorKeyDistribution →
      Script 16 .left i r [buildPublicKey i.localPubX i.localPubY]
  | publicKeyR {i r shared} : Negotiated i r → r.sc = true →
      Awaiting i i.responderKeyDistribution → Awaiting r r.initiatorKeyDistribution →
      i.ecdh.sharedXLe r.localPubX r.localPubY = some shared → r.dhKey = some shared →
      r.peerPubX = i.localPubX →
      Script 14 .right r i [buildPublicKey r.localPubX r.localPubY,
        build16 Command.pairingConfirm.opcode (f4 r.localPubX r.peerPubX r.rLocal 0)]
  | confirmR {i r} : Negotiated i r → r.sc = true →
      Awaiting i i.responderKeyDistribution → Awaiting r r.initiatorKeyDistribution →
      i.dhKey = r.dhKey → r.dhKey.isSome → r.peerPubX = i.localPubX →
      i.peerPubX = r.localPubX →
      Script 14 .right r i
        [build16 Command.pairingConfirm.opcode (f4 r.localPubX r.peerPubX r.rLocal 0)]
  | randomI {i r} : Negotiated i r → r.sc = true →
      Awaiting i i.responderKeyDistribution → Awaiting r r.initiatorKeyDistribution →
      i.dhKey = r.dhKey → r.dhKey.isSome → r.peerPubX = i.localPubX →
      i.peerPubX = r.localPubX →
      i.peerConfirm = some (f4 r.localPubX r.peerPubX r.rLocal 0) →
      Script 13 .left i r [build16 Command.pairingRandom.opcode i.rLocal]
  | randomR {i r shared} : Negotiated i r → r.sc = true →
      Awaiting i i.responderKeyDistribution → Awaiting r r.initiatorKeyDistribution →
      i.dhKey = some shared → i.peerPubX = r.localPubX → i.localPubX = r.peerPubX →
      i.peerConfirm = some (f4 r.localPubX r.peerPubX r.rLocal 0) →
      r.ltk = some (i.scKeys shared i.rLocal r.rLocal).2 →
      r.ea = some (i.checkA shared i.rLocal r.rLocal) →
      r.eb = some (i.checkB shared i.rLocal r.rLocal) →
      Script 12 .right r i [build16 Command.pairingRandom.opcode r.rLocal]
  | checkI {i r ea} : Negotiated i r → r.sc = true →
      Awaiting i i.responderKeyDistribution → Awaiting r r.initiatorKeyDistribution →
      i.ltk = r.ltk → r.ltk.isSome → i.eb = r.eb → r.eb.isSome → r.ea = some ea →
      Script 11 .left i r [build16 Command.pairingDhkeyCheck.opcode ea]
  | checkR {i r eb} : Negotiated i r → r.sc = true →
      Awaiting i i.responderKeyDistribution →
      Handing r (keyCommands r.sc r.initiatorKeyDistribution) →
      i.ltk = r.ltk → r.ltk.isSome → i.eb = some eb →
      Script 5 .right r i (build16 Command.pairingDhkeyCheck.opcode eb ::
        (keyCommands r.sc r.responderKeyDistribution).map r.keyPdu)
  | keysR {i r command commands} : Negotiated i r → SameLtk i r →
      Handing r (keyCommands r.sc r.initiatorKeyDistribution) →
      i.isEncrypted = true → i.ownKeysSent = false →
      i.peerExpected = (command :: commands).map Command.opcode →
      (∀ coming ∈ command :: commands, coming.isKey = true) →
      Received i r (keyCommands r.sc r.responderKeyDistribution) (command :: commands) →
      Script 5 .right r i ((command :: commands).map r.keyPdu)
  | keysI {i r commands} : Negotiated i r → SameLtk i r → i.complete = true →
      Received i r (keyCommands r.sc r.responderKeyDistribution) [] →
      Handing r commands → (∀ coming ∈ commands, coming.isKey = true) →
      Received r i (keyCommands r.sc r.initiatorKeyDistribution) commands →
      Script 0 .left i r (commands.map i.keyPdu)

/-- How a script goes on after the first of its words: the listener, now
`heard`, keeps silent, or it was the last word and the turn changes. -/
def Continues (n : Nat) (side : Side) (talker heard : PairingSession curve) (rest : List Bytes) :
    Prop :=
  (heard.pending = [] ∧ Script n side talker heard.core rest) ∨
    (rest = [] ∧ ∃ left, left + heard.pending.length ≤ n ∧
      Script left side.peer heard.core talker heard.pending)

theorem Continues.silent {n : Nat} {side : Side} {talker heard : PairingSession curve}
    {rest : List Bytes} (mute : heard.pending = []) (script : Script n side talker heard.core rest) :
    Continues n side talker heard rest := .inl ⟨mute, script⟩

theorem Continues.turn {n left : Nat} {side : Side} {talker heard : PairingSession curve}
    {answers : List Bytes} (queued : heard.pending = answers) (fewer : left + answers.length ≤ n)
    (script : Script left side.peer heard.core talker answers) :
    Continues n side talker heard [] := by
  subst queued
  exact .inr ⟨rfl, left, fewer, script⟩

end
end Simble.Smp
