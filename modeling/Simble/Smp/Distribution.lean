import Simble.Smp.Effects

/-! The last phase of pairing: what a session queues when it distributes its keys, and what the
peer makes of each PDU. Both select keys by one function of the negotiated flags, so the codes
expected are those sent. -/
namespace Simble.Smp
open Simble.Crypto

def Command.isKey : Command → Bool
  | .encryptionInfo | .masterIdentification | .identityInfo | .identityAddrInfo | .signingInfo =>
    true
  | _ => false

/-- The key-distribution commands that the negotiated `flags` select, in the
order they are sent. -/
def keyCommands (sc : Bool) (flags : UInt8) : List Command :=
  (if ¬ sc ∧ flags &&& KeyDistribution.encKey ≠ 0 then
    [.encryptionInfo, .masterIdentification] else []) ++
  (if flags &&& KeyDistribution.idKey ≠ 0 then [.identityInfo, .identityAddrInfo] else []) ++
  (if flags &&& KeyDistribution.signKey ≠ 0 then [.signingInfo] else [])

theorem keyCommands_length (sc : Bool) (flags : UInt8) : (keyCommands sc flags).length ≤ 5 := by
  unfold keyCommands
  split <;> split <;> split <;> decide

theorem isKey_of_mem_keyCommands {sc : Bool} {flags : UInt8} {command : Command}
    (selected : command ∈ keyCommands sc flags) : command.isKey = true := by
  have checked : ∀ listed ∈ keyCommands sc flags, listed.isKey = true := by
    unfold keyCommands
    split <;> split <;> split <;> decide
  exact checked command selected

theorem mem_keyCommands_identity {sc : Bool} {flags : UInt8}
    (selected : flags &&& KeyDistribution.idKey ≠ 0) :
    .identityInfo ∈ keyCommands sc flags ∧ .identityAddrInfo ∈ keyCommands sc flags := by
  simp [keyCommands, selected]

theorem resolveIdentityAddress_type (preference : Option IdentityAddressPreference)
    (publicAddress staticAddress : Address) :
    (resolveIdentityAddress preference publicAddress staticAddress).1 ≤ 1 := by
  have defined : (0 : UInt8) ≤ 1 ∧ (1 : UInt8) ≤ 1 := by decide
  rcases preference with _ | _ | _
  · simp only [resolveIdentityAddress]
    split
    · exact defined.1
    · exact defined.2
  · exact defined.1
  · exact defined.2

namespace PairingSession
variable {curve : P256} (session : PairingSession curve)

theorem expectedKeys_eq (sc : Bool) (flags : UInt8) :
    expectedKeys sc flags = (keyCommands sc flags).map Command.opcode := by
  unfold expectedKeys keyCommands
  split <;> split <;> split <;> rfl

def identityAddress : UInt8 × Address :=
  resolveIdentityAddress session.identityAddressPreference session.localPublicAddress
    session.localStaticAddress

def keyPdu : Command → Bytes
  | .encryptionInfo => build16 Command.encryptionInfo.opcode session.localBondedLtk
  | .masterIdentification => buildMasterId session.localBondedEdiv session.localBondedRand
  | .identityInfo => build16 Command.identityInfo.opcode session.localIrk
  | .identityAddrInfo =>
    buildIdentityAddrInfo session.identityAddress.1 session.identityAddress.2
  | .signingInfo => build16 Command.signingInfo.opcode .zero
  | _ => []

theorem distribution_eq (flags : UInt8) :
    session.distribution flags = (keyCommands session.sc flags).map session.keyPdu := by
  unfold distribution keyCommands
  split <;> split <;> split <;> rfl

theorem queueAll_eq (pdus : List Bytes) :
    session.queueAll pdus = { session with
      pending := session.pending ++ pdus
      timerRemaining :=
        if pdus = [] then session.timerRemaining else some smpTimeoutSeconds } := by
  unfold queueAll
  induction pdus generalizing session with
  | nil => simp
  | cons pdu rest ih =>
    rw [List.foldl_cons, ih]
    simp [queue]

theorem distributeKeys_sent (sent : session.ownKeysSent = true) :
    session.distributeKeys = session := if_pos sent

theorem distributeKeys_eq (unsent : session.ownKeysSent = false) :
    session.distributeKeys = { session with
      ownKeysSent := true
      pending := session.pending ++
        (keyCommands session.sc session.ownFlags).map session.keyPdu
      timerRemaining :=
        if keyCommands session.sc session.ownFlags = [] then session.timerRemaining
        else some smpTimeoutSeconds } := by
  simp only [distributeKeys, unsent, Bool.false_eq_true, if_false, queueAll_eq, distribution_eq,
    List.map_eq_nil_iff]

theorem onPeerDistributionComplete_responder (responder : session.role = .responder) :
    session.onPeerDistributionComplete =
      { session with complete := true, timerRemaining := none } := by
  simp [onPeerDistributionComplete, responder, stopTimer]

theorem onPeerDistributionComplete_initiator (initiator : session.role = .initiator)
    (unsent : session.ownKeysSent = false) :
    session.onPeerDistributionComplete = { session with
      ownKeysSent := true
      pending := session.pending ++
        (keyCommands session.sc session.ownFlags).map session.keyPdu
      complete := true
      timerRemaining := none } := by
  simp only [onPeerDistributionComplete, initiator, if_true, distributeKeys_eq _ unsent, stopTimer]

def learn (peer : PairingSession curve) : Command → PairingSession curve
  | .encryptionInfo => { session with peerLtk := some peer.localBondedLtk }
  | .masterIdentification =>
    { session with peerEdiv := some peer.localBondedEdiv, peerRand := some peer.localBondedRand }
  | .identityInfo => { session with peerIrk := some peer.localIrk }
  | .identityAddrInfo => { session with peerIdentityAddress := some peer.identityAddress }
  | .signingInfo => { session with peerCsrk := some .zero }
  | _ => session

/-- The session holds the key that `peer` sends in a command. -/
def Knows (peer : PairingSession curve) : Command → Prop
  | .encryptionInfo => session.peerLtk = some peer.localBondedLtk
  | .masterIdentification =>
    session.peerEdiv = some peer.localBondedEdiv ∧ session.peerRand = some peer.localBondedRand
  | .identityInfo => session.peerIrk = some peer.localIrk
  | .identityAddrInfo => session.peerIdentityAddress = some peer.identityAddress
  | .signingInfo => session.peerCsrk = some .zero
  | _ => True

theorem knows_learn (peer : PairingSession curve) (command : Command) :
    (session.learn peer command).Knows peer command := by
  cases command <;> first | rfl | exact ⟨rfl, rfl⟩ | trivial

theorem Knows.learn {session peer : PairingSession curve} {command : Command}
    (knows : session.Knows peer command) (other : Command) :
    (session.learn peer other).Knows peer command := by
  cases command <;> cases other <;> first | exact knows | rfl | exact ⟨rfl, rfl⟩

theorem step_keyPdu {session : PairingSession curve} (alive : session.failed = false)
    (peer : PairingSession curve) (draws : Draws) {command : Command} (isKey : command.isKey = true) :
    session.step draws (peer.keyPdu command) =
      .ok ((session.learn peer command).checkDistribution command.opcode) := by
  have kept {α : Type} {parsed : Option α} {value : α} (reads : parsed = some value)
      (store : α → PairingSession curve) (op : UInt8) :
      session.onKey parsed store op = (store value).checkDistribution op := by
    rw [reads]
    rfl
  cases command with
  | encryptionInfo =>
    exact (step_command alive draws .encryptionInfo _).trans
      (congrArg Except.ok (kept (parse16_build16 _ _) _ _))
  | masterIdentification =>
    exact (step_command alive draws .masterIdentification _).trans
      (congrArg Except.ok (kept (parseMasterId_buildMasterId _ _) _ _))
  | identityInfo =>
    exact (step_command alive draws .identityInfo _).trans
      (congrArg Except.ok (kept (parse16_build16 _ _) _ _))
  | identityAddrInfo =>
    exact (step_command alive draws .identityAddrInfo _).trans
      (congrArg Except.ok (kept (parseIdentityAddrInfo_buildIdentityAddrInfo _
        (resolveIdentityAddress_type _ _ _)) _ _))
  | signingInfo =>
    exact (step_command alive draws .signingInfo _).trans
      (congrArg Except.ok (kept (parse16_build16 _ _) _ _))
  | _ => contradiction

theorem completeIfDistributed_none (none : session.peerExpected = []) :
    session.completeIfDistributed = session.onPeerDistributionComplete := if_pos none

theorem completeIfDistributed_some (some : session.peerExpected ≠ []) : session.completeIfDistributed = session := if_neg some

theorem checkDistribution_next {op : UInt8} {rest : List UInt8}
    (encrypted : session.isEncrypted = true) (expected : session.peerExpected = op :: rest) :
    session.checkDistribution op =
      { session with peerExpected := rest }.completeIfDistributed := by
  simp [checkDistribution, encrypted, expected]

end PairingSession
end Simble.Smp
