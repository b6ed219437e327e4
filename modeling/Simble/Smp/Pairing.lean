import Simble.Smp.Packets
import Simble.Crypto.SmpCrypto
import Simble.Crypto.Ecdh

/-! The pairing session of `smp/pairing.rs`, handler by handler. The random
values a call draws are passed to it, since `random_bytes` reads a clock; the
Security Manager Timer counts in `f64`, as in the source. -/
namespace Simble.Smp
open Simble.Crypto

inductive Role where
  | initiator
  | responder
deriving DecidableEq, Repr

inductive Phase where
  | idle
  | waitPairingResponse
  | waitPeerConfirm
  | waitPeerRandom
  | waitPeerPublicKey
  | waitPeerDhKeyCheck
  | complete
  | failed
deriving DecidableEq, Repr

inductive IdentityAddressPreference where
  | publicAddress
  | randomAddress
deriving DecidableEq, Repr

structure PairingConfig where
  ioCapability : UInt8
  bonding : Bool
  mitm : Bool
  sc : Bool
  debugMode : Bool
  deferKeyDistribution : Bool
  initiatorKeyDistribution : UInt8
  responderKeyDistribution : UInt8
  identityAddressPreference : Option IdentityAddressPreference
deriving DecidableEq, Repr

def PairingConfig.default : PairingConfig where
  ioCapability := IoCapability.noInputNoOutput
  bonding := true
  mitm := false
  sc := true
  debugMode := false
  deferKeyDistribution := false
  initiatorKeyDistribution := KeyDistribution.encKey ||| KeyDistribution.idKey
  responderKeyDistribution := KeyDistribution.encKey ||| KeyDistribution.idKey
  identityAddressPreference := none

def smpTimeoutSeconds : Float := 30.0

def smpDebugKeyPrivateBe : Octets 32 :=
  ⟨[0x3F, 0x49, 0xF6, 0xD4, 0xA3, 0xC5, 0x5F, 0x38, 0x74, 0xC9, 0xB3, 0xE3, 0xD2, 0x10, 0x3F, 0x50,
    0x4A, 0xFF, 0x60, 0x7B, 0xEB, 0x40, 0xB7, 0x99, 0x58, 0x99, 0xB8, 0xA6, 0xCD, 0x3C, 0x1A, 0xBD],
    rfl⟩

def resolveIdentityAddress (preference : Option IdentityAddressPreference)
    (publicAddress staticAddress : Address) : UInt8 × Address :=
  match preference with
  | some .publicAddress => (0, publicAddress)
  | some .randomAddress => (1, staticAddress)
  | none => if publicAddress ≠ Address.any then (0, publicAddress) else (1, staticAddress)

/-- What `random_bytes` returns during one call. No call draws two nonces. -/
structure Draws where
  nonce : Octets 16
  bondedLtk : Octets 16
  bondedEdiv : UInt16
  bondedRand : Octets 8

structure PairingKey where
  value : Octets 16
  authenticated : Bool
  ediv : Option UInt16
  rand : Option (Octets 8)
deriving DecidableEq

def PairingKey.new (value : Octets 16) : PairingKey := ⟨value, false, none, none⟩

structure PairingKeys where
  addressType : Option UInt8 := none
  ltk : Option PairingKey := none
  ltkCentral : Option PairingKey := none
  ltkPeripheral : Option PairingKey := none
  irk : Option PairingKey := none
  csrk : Option PairingKey := none
  linkKey : Option PairingKey := none
deriving DecidableEq

structure PairingSession (curve : P256) where
  role : Role
  phase : Phase
  ioCapability : UInt8
  peerIoCapability : UInt8
  bonding : Bool
  mitm : Bool
  sc : Bool
  deferKeyDistribution : Bool
  linkEncrypted : Bool
  initiatorKeyDistribution : UInt8
  responderKeyDistribution : UInt8
  preq : Octets 7
  pres : Octets 7
  ia : Octets 6
  iat : UInt8
  ra : Octets 6
  rat : UInt8
  tk : Octets 16
  rLocal : Octets 16
  peerRandom : Option (Octets 16)
  peerConfirm : Option (Octets 16)
  stk : Option (Octets 16)
  localBondedLtk : Octets 16
  localBondedEdiv : UInt16
  localBondedRand : Octets 8
  peerLtk : Option (Octets 16)
  peerEdiv : Option UInt16
  peerRand : Option (Octets 8)
  ecdh : P256Keypair curve
  localPubX : Octets 32
  localPubY : Octets 32
  peerPubX : Octets 32
  peerPubY : Octets 32
  dhKey : Option (Octets 32)
  ltk : Option (Octets 16)
  ea : Option (Octets 16)
  eb : Option (Octets 16)
  localIrk : Octets 16
  peerIrk : Option (Octets 16)
  peerIdentityAddress : Option (UInt8 × Address)
  peerCsrk : Option (Octets 16)
  peerExpected : List UInt8
  ownKeysSent : Bool
  complete : Bool
  failed : Bool
  timedOut : Bool
  timerRemaining : Option Float
  lastTick : Option Float
  isEncrypted : Bool
  identityAddressPreference : Option IdentityAddressPreference
  localPublicAddress : Address
  localStaticAddress : Address
  pending : List Bytes

namespace PairingSession
variable {curve : P256}

def isRandom : AddressType → UInt8
  | .randomDevice | .randomIdentity => 1
  | .publicDevice | .publicIdentity => 0

/-- `generated` is what `P256Keypair::generate` returns, `irk` what
`random_bytes` does. -/
def new (role : Role) (config : PairingConfig) (localAddress : Address)
    (localAddressType : AddressType) (peerAddress : Address) (peerAddressType : AddressType)
    (generated : P256Keypair curve) (irk : Octets 16) : Rust (PairingSession curve) := do
  let (ia, iat, ra, rat) :=
    if role = .initiator then
      (localAddress.bytes, isRandom localAddressType, peerAddress.bytes, isRandom peerAddressType)
    else
      (peerAddress.bytes, isRandom peerAddressType, localAddress.bytes, isRandom localAddressType)
  let (localPublicAddress, localStaticAddress) := match localAddressType with
    | .publicDevice | .publicIdentity => (localAddress, Address.any)
    | .randomDevice | .randomIdentity => (Address.any, localAddress)
  let ecdh ←
    if config.debugMode then unwrap (P256Keypair.fromPrivateBe curve smpDebugKeyPrivateBe)
    else pure generated
  pure
    { role
      phase := .idle
      ioCapability := config.ioCapability
      peerIoCapability := IoCapability.noInputNoOutput
      bonding := config.bonding
      mitm := config.mitm
      sc := config.sc
      deferKeyDistribution := config.deferKeyDistribution
      linkEncrypted := false
      initiatorKeyDistribution := config.initiatorKeyDistribution
      responderKeyDistribution := config.responderKeyDistribution
      preq := .zero
      pres := .zero
      ia, iat, ra, rat
      tk := .zero
      rLocal := .zero
      peerRandom := none
      peerConfirm := none
      stk := none
      localBondedLtk := .zero
      localBondedEdiv := 0
      localBondedRand := .zero
      peerLtk := none
      peerEdiv := none
      peerRand := none
      ecdh
      localPubX := ecdh.xLe
      localPubY := ecdh.yLe
      peerPubX := .zero
      peerPubY := .zero
      dhKey := none
      ltk := none
      ea := none
      eb := none
      localIrk := irk
      peerIrk := none
      peerIdentityAddress := none
      peerCsrk := none
      peerExpected := []
      ownKeysSent := false
      complete := false
      failed := false
      timedOut := false
      timerRemaining := none
      lastTick := none
      isEncrypted := false
      identityAddressPreference := config.identityAddressPreference
      localPublicAddress, localStaticAddress
      pending := [] }

variable (session : PairingSession curve)

def authReqByte : UInt8 :=
  (if session.bonding then AuthReq.bonding else 0) |||
    (if session.mitm then AuthReq.mitm else 0) ||| (if session.sc then AuthReq.sc else 0)

def queue (pdu : Bytes) : PairingSession curve :=
  { session with pending := session.pending ++ [pdu], timerRemaining := some smpTimeoutSeconds }

def stopTimer : PairingSession curve := { session with timerRemaining := none }

/-- Drops every secret derived so far. -/
def discardKeyMaterial : PairingSession curve :=
  { session with
    tk := .zero, stk := none, dhKey := none, ltk := none, ea := none, eb := none,
    peerConfirm := none }

def fail (reason : UInt8) : PairingSession curve :=
  ({ session with phase := .failed, failed := true }.discardKeyMaterial.queue
    [Command.pairingFailed.opcode, reason]).stopTimer

/-- The timer at `t` seconds, with whether it expires here. -/
def tick (t : Float) : Bool × PairingSession curve :=
  let elapsed := match session.lastTick with
    | some previous => if t > previous then t - previous else 0.0
    | none => 0.0
  let ticked := { session with lastTick := some t }
  match session.timerRemaining with
  | none => (false, ticked)
  | some remaining =>
    if remaining - elapsed > 0.0 then
      (false, { ticked with timerRemaining := some (remaining - elapsed) })
    else
      (true, { { ticked with
        timerRemaining := none, timedOut := true, phase := .failed,
        failed := true }.discardKeyMaterial with pending := [] })

def request : SmpPairingPacket where
  opcode := Command.pairingRequest.opcode
  ioCapability := session.ioCapability
  oobDataFlag := 0
  authReq := session.authReqByte
  maxEncryptionKeySize := Smp.maxEncryptionKeySize
  initiatorKeyDistribution := session.initiatorKeyDistribution
  responderKeyDistribution := session.responderKeyDistribution

def start : Rust (Bytes × PairingSession curve) := do
  let preq ← unwrap (Octets.tryFrom 7 session.request.asBytes)
  pure (session.request.asBytes,
    { session with
      preq, phase := .waitPairingResponse, timerRemaining := some smpTimeoutSeconds })

/-- `ltk()`: the key that secures the link. -/
def getLtk : Option (Octets 16) := if session.sc then session.ltk else session.stk

def isAuthenticated : Bool :=
  session.preq.get 3 &&& AuthReq.mitm != 0 && session.pres.get 3 &&& AuthReq.mitm != 0

def encryptionKeySize : UInt8 := min (session.preq.get 4) (session.pres.get 4)

def pairingKeys : PairingKeys :=
  let localKey : PairingKey :=
    { PairingKey.new session.localBondedLtk with
      ediv := some session.localBondedEdiv, rand := some session.localBondedRand }
  let peerKey := session.peerLtk.map fun value =>
    { PairingKey.new value with ediv := session.peerEdiv, rand := session.peerRand }
  let keys : PairingKeys :=
    if session.sc then { ltk := session.ltk.map PairingKey.new }
    else if session.role = .initiator then { ltkPeripheral := some localKey, ltkCentral := peerKey }
    else { ltkCentral := some localKey, ltkPeripheral := peerKey }
  { keys with
    irk := session.peerIrk.map PairingKey.new
    addressType := session.peerIdentityAddress.map Prod.fst }

section Distribution

def queueAll (pdus : List Bytes) : PairingSession curve := pdus.foldl queue session

/-- The PDUs of the keys that `flags` select. -/
def distribution (flags : UInt8) : List Bytes :=
  let identity := resolveIdentityAddress session.identityAddressPreference
    session.localPublicAddress session.localStaticAddress
  (if ¬ session.sc ∧ flags &&& KeyDistribution.encKey ≠ 0 then
    [build16 Command.encryptionInfo.opcode session.localBondedLtk,
      buildMasterId session.localBondedEdiv session.localBondedRand] else []) ++
  (if flags &&& KeyDistribution.idKey ≠ 0 then
    [build16 Command.identityInfo.opcode session.localIrk,
      buildIdentityAddrInfo identity.1 identity.2] else []) ++
  (if flags &&& KeyDistribution.signKey ≠ 0 then
    [build16 Command.signingInfo.opcode .zero] else [])

def ownFlags : UInt8 :=
  if session.role = .initiator then session.initiatorKeyDistribution
  else session.responderKeyDistribution

def distributeKeys : PairingSession curve :=
  if session.ownKeysSent then session
  else { session with ownKeysSent := true }.queueAll (session.distribution session.ownFlags)

/-- The codes of the PDUs in which the peer sends the keys that `flags` select. -/
def expectedKeys (sc : Bool) (flags : UInt8) : List UInt8 :=
  (if ¬ sc ∧ flags &&& KeyDistribution.encKey ≠ 0 then
    [Command.encryptionInfo.opcode, Command.masterIdentification.opcode] else []) ++
  (if flags &&& KeyDistribution.idKey ≠ 0 then
    [Command.identityInfo.opcode, Command.identityAddrInfo.opcode] else []) ++
  (if flags &&& KeyDistribution.signKey ≠ 0 then [Command.signingInfo.opcode] else [])

def computePeerExpected (flags : UInt8) : PairingSession curve :=
  { session with peerExpected := expectedKeys session.sc flags }

def onPeerDistributionComplete : PairingSession curve :=
  let sent := if session.role = .initiator then session.distributeKeys else session
  { sent with complete := true }.stopTimer

/-- The check after `on_encrypted` and after each key received. -/
def completeIfDistributed : PairingSession curve :=
  if session.peerExpected = [] then session.onPeerDistributionComplete else session

/-- Phase-3 keys belong on the encrypted link. -/
def distributeEagerly : PairingSession curve :=
  if session.role = .responder ∧ (¬ session.deferKeyDistribution ∨ session.linkEncrypted) then
    session.distributeKeys
  else session

def onEncrypted : PairingSession curve :=
  { session with isEncrypted := true, phase := .complete }.distributeEagerly.completeIfDistributed

def onLinkEncrypted : PairingSession curve :=
  let linked := { session with linkEncrypted := true }
  if session.phase = .complete ∧ session.role = .responder then linked.distributeKeys else linked

def checkDistribution (op : UInt8) : PairingSession curve :=
  if ¬ session.isEncrypted then session.fail ErrorCode.unspecifiedReason
  else if op ∉ session.peerExpected then session.fail ErrorCode.unspecifiedReason
  else { session with peerExpected := session.peerExpected.erase op }.completeIfDistributed

def onKey {α : Type} (parsed : Option α) (store : α → PairingSession curve) (op : UInt8) :
    PairingSession curve :=
  match parsed with
  | none => session.fail ErrorCode.invalidParameters
  | some value => (store value).checkDistribution op

def onEncryptionInfo (pdu : Bytes) : PairingSession curve :=
  session.onKey (parse16 pdu Command.encryptionInfo.opcode)
    (fun v => { session with peerLtk := some v }) Command.encryptionInfo.opcode

def onMasterIdentification (pdu : Bytes) : PairingSession curve :=
  session.onKey (parseMasterId pdu)
    (fun id => { session with peerEdiv := some id.1, peerRand := some id.2 })
    Command.masterIdentification.opcode

def onIdentityInfo (pdu : Bytes) : PairingSession curve :=
  session.onKey (parse16 pdu Command.identityInfo.opcode)
    (fun v => { session with peerIrk := some v }) Command.identityInfo.opcode

def onIdentityAddrInfo (pdu : Bytes) : PairingSession curve :=
  session.onKey (parseIdentityAddrInfo pdu)
    (fun identity => { session with peerIdentityAddress := some identity })
    Command.identityAddrInfo.opcode

def onSigningInfo (pdu : Bytes) : PairingSession curve :=
  session.onKey (parse16 pdu Command.signingInfo.opcode)
    (fun v => { session with peerCsrk := some v }) Command.signingInfo.opcode

end Distribution

section Handlers
variable (draws : Draws) (pdu : Bytes)

def onPairingFailed : PairingSession curve :=
  if pdu.length ≠ 2 then session.fail ErrorCode.invalidParameters
  else { session with phase := .failed, failed := true }.discardKeyMaterial.stopTimer

/-- What `on_pairing_request` does with a request it accepts. -/
def answerRequest (req : SmpPairingPacket) : Rust (PairingSession curve) := do
  let preq ← unwrap (Octets.tryFrom 7 req.asBytes)
  let agreed := { session with
    timerRemaining := some smpTimeoutSeconds
    preq
    peerIoCapability := req.ioCapability
    sc := session.sc && req.authReq &&& AuthReq.sc != 0
    bonding := session.bonding && req.authReq &&& AuthReq.bonding != 0
    initiatorKeyDistribution := session.initiatorKeyDistribution &&& req.initiatorKeyDistribution
    responderKeyDistribution := session.responderKeyDistribution &&& req.responderKeyDistribution }
  let expecting := agreed.computePeerExpected agreed.initiatorKeyDistribution
  let resp := SmpPairingPacket.newResponse expecting.ioCapability expecting.authReqByte
    expecting.initiatorKeyDistribution expecting.responderKeyDistribution
  let pres ← unwrap (Octets.tryFrom 7 resp.asBytes)
  let answered := { expecting with pres }.queue resp.asBytes
  pure { answered with phase := if answered.sc then .waitPeerPublicKey else .waitPeerConfirm }

def onPairingRequest : Rust (PairingSession curve) :=
  if session.role ≠ .responder then .ok (session.fail ErrorCode.commandNotSupported)
  else match parsePairingParameters pdu with
  | none => .ok (session.fail ErrorCode.invalidParameters)
  | some req => session.answerRequest req

def sendConfirmLegacy : PairingSession curve :=
  let confirm := c1 session.tk draws.nonce session.preq session.pres session.iat session.rat
    session.ia session.ra
  { session with rLocal := draws.nonce }.queue (build16 Command.pairingConfirm.opcode confirm)

def Grants (resp : SmpPairingPacket) : Prop :=
  resp.initiatorKeyDistribution &&& ~~~session.initiatorKeyDistribution = 0 ∧
    resp.responderKeyDistribution &&& ~~~session.responderKeyDistribution = 0

instance (resp : SmpPairingPacket) : Decidable (session.Grants resp) :=
  inferInstanceAs (Decidable (_ ∧ _))

/-- What `on_pairing_response` does with a response that parses. -/
def acceptResponse (resp : SmpPairingPacket) : Rust (PairingSession curve) := do
  let pres ← unwrap (Octets.tryFrom 7 resp.asBytes)
  let agreed := { session with
    pres
    peerIoCapability := resp.ioCapability
    sc := session.sc && resp.authReq &&& AuthReq.sc != 0
    bonding := session.bonding && resp.authReq &&& AuthReq.bonding != 0 }
  if ¬ agreed.Grants resp then pure (agreed.fail ErrorCode.invalidParameters)
  else
    let distributing := { agreed with
      initiatorKeyDistribution := resp.initiatorKeyDistribution
      responderKeyDistribution := resp.responderKeyDistribution }
    let expecting := distributing.computePeerExpected distributing.responderKeyDistribution
    if expecting.sc then
      pure { expecting.queue (buildPublicKey expecting.localPubX expecting.localPubY) with
        phase := .waitPeerPublicKey }
    else pure { expecting.sendConfirmLegacy draws with phase := .waitPeerConfirm }

def onPairingResponse : Rust (PairingSession curve) :=
  if session.role ≠ .initiator then .ok (session.fail ErrorCode.commandNotSupported)
  else match parsePairingParameters pdu with
  | none => .ok (session.fail ErrorCode.invalidParameters)
  | some resp => session.acceptResponse draws resp

def onPairingConfirm : PairingSession curve :=
  match parse16 pdu Command.pairingConfirm.opcode with
  | none => session.fail ErrorCode.invalidParameters
  | some value =>
    let confirmed := { session with peerConfirm := some value }
    if session.sc then
      if session.role ≠ .initiator then confirmed.fail ErrorCode.commandNotSupported
      else
        { { confirmed with rLocal := draws.nonce }.queue
            (build16 Command.pairingRandom.opcode draws.nonce) with phase := .waitPeerRandom }
    else if session.role = .initiator then
      { confirmed.queue (build16 Command.pairingRandom.opcode session.rLocal) with
        phase := .waitPeerRandom }
    else { confirmed.sendConfirmLegacy draws with phase := .waitPeerRandom }

def onRandomLegacy (peerRandom : Octets 16) : PairingSession curve :=
  match session.peerConfirm with
  | none => session.fail ErrorCode.unspecifiedReason
  | some expected =>
    let check := c1 session.tk peerRandom session.preq session.pres session.iat session.rat
      session.ia session.ra
    if check ≠ expected then session.fail ErrorCode.confirmValueFailed
    else
      let (mrand, srand) :=
        if session.role = .initiator then (session.rLocal, peerRandom)
        else (peerRandom, session.rLocal)
      let keyed := { session with
        stk := some (s1 session.tk srand mrand)
        localBondedLtk := draws.bondedLtk
        localBondedEdiv := draws.bondedEdiv
        localBondedRand := draws.bondedRand }
      (if session.role = .responder then
        keyed.queue (build16 Command.pairingRandom.opcode session.rLocal) else keyed).onEncrypted

/-- `preq[1..4]`, and `pres[1..4]`. -/
def ioCap (parameters : Octets 7) : Rust (Octets 3) :=
  unwrap (Octets.tryFrom 3 ((parameters.toList.drop 1).take 3))

def addressWithType (address : Octets 6) (addressType : UInt8) : Octets 7 :=
  ⟨address.toList ++ [addressType], by simp⟩

/-- The second half of `finish_sc_random_exchange`, from `f5` on. -/
def deriveScKeys (dhKey : Octets 32) (na nb : Octets 16) : Rust (PairingSession curve) := do
  let a := addressWithType session.ia session.iat
  let b := addressWithType session.ra session.rat
  let keys := f5 dhKey na nb a b
  let ioCapA ← ioCap session.preq
  let ioCapB ← ioCap session.pres
  pure { session with
    ltk := some keys.2
    ea := some (f6 keys.1 na nb .zero ioCapA a b)
    eb := some (f6 keys.1 nb na .zero ioCapB b a) }

def finishScRandomExchange : Rust (PairingSession curve) := do
  let peerRandom ← unwrap session.peerRandom
  let dhKey ← unwrap session.dhKey
  if session.role = .initiator then session.deriveScKeys dhKey session.rLocal peerRandom
  else session.deriveScKeys dhKey peerRandom session.rLocal

def onRandomSc (peerRandom : Octets 16) : Rust (PairingSession curve) :=
  if session.dhKey = none then .ok (session.fail ErrorCode.unspecifiedReason)
  else match session.role with
  | .responder => do
    let sent := session.queue (build16 Command.pairingRandom.opcode session.rLocal)
    let finished ← sent.finishScRandomExchange
    pure { finished with phase := .waitPeerDhKeyCheck }
  | .initiator =>
    match session.peerConfirm with
    | none => .ok (session.fail ErrorCode.unspecifiedReason)
    | some expected =>
      if f4 session.peerPubX session.localPubX peerRandom 0 ≠ expected then
        .ok (session.fail ErrorCode.confirmValueFailed)
      else do
        let finished ← session.finishScRandomExchange
        let ea ← unwrap finished.ea
        pure { finished.queue (build16 Command.pairingDhkeyCheck.opcode ea) with
          phase := .waitPeerDhKeyCheck }

def onPairingRandom : Rust (PairingSession curve) :=
  match parse16 pdu Command.pairingRandom.opcode with
  | none => .ok (session.fail ErrorCode.invalidParameters)
  | some value =>
    let revealed := { session with peerRandom := some value }
    if session.sc then revealed.onRandomSc value else .ok (revealed.onRandomLegacy draws value)

def onPublicKey : PairingSession curve :=
  match parsePublicKey pdu with
  | none => session.fail ErrorCode.invalidParameters
  | some (x, y) =>
    let received := { session with peerPubX := x, peerPubY := y }
    match session.ecdh.sharedXLe x y with
    | none => received.fail ErrorCode.dhkeyCheckFailed
    | some dhKey =>
      let keyed := { received with dhKey := some dhKey }
      match session.role with
      | .initiator => { keyed with phase := .waitPeerConfirm }
      | .responder =>
        let confirm := f4 session.localPubX x draws.nonce 0
        { ({ keyed.queue (buildPublicKey session.localPubX session.localPubY) with
            rLocal := draws.nonce }).queue (build16 Command.pairingConfirm.opcode confirm) with
          phase := .waitPeerRandom }

def onDhkeyCheck : Rust (PairingSession curve) :=
  match parse16 pdu Command.pairingDhkeyCheck.opcode with
  | none => .ok (session.fail ErrorCode.invalidParameters)
  | some value =>
    match if session.role = .initiator then session.eb else session.ea with
    | none => .ok (session.fail ErrorCode.unspecifiedReason)
    | some expected =>
      if value ≠ expected then .ok (session.fail ErrorCode.dhkeyCheckFailed)
      else if session.role = .responder then do
        let eb ← unwrap session.eb
        pure (session.queue (build16 Command.pairingDhkeyCheck.opcode eb)).onEncrypted
      else .ok session.onEncrypted

/-- The match on a PDU's code. -/
def dispatch : Option Command → Rust (PairingSession curve)
  | some .pairingRequest => session.onPairingRequest pdu
  | some .pairingResponse => session.onPairingResponse draws pdu
  | some .pairingConfirm => .ok (session.onPairingConfirm draws pdu)
  | some .pairingRandom => session.onPairingRandom draws pdu
  | some .pairingFailed => .ok (session.onPairingFailed pdu)
  | some .pairingPublicKey => .ok (session.onPublicKey draws pdu)
  | some .pairingDhkeyCheck => session.onDhkeyCheck pdu
  | some .encryptionInfo => .ok (session.onEncryptionInfo pdu)
  | some .masterIdentification => .ok (session.onMasterIdentification pdu)
  | some .identityInfo => .ok (session.onIdentityInfo pdu)
  | some .identityAddrInfo => .ok (session.onIdentityAddrInfo pdu)
  | some .signingInfo => .ok (session.onSigningInfo pdu)
  | some .securityRequest | some .keypressNotification =>
    .ok (session.fail ErrorCode.commandNotSupported)
  -- Codes that are reserved for future use are ignored.
  | none => .ok session

def step : Rust (PairingSession curve) :=
  if session.failed then .ok session
  else match pdu with
  | [] => .ok (session.fail ErrorCode.invalidParameters)
  | op :: _ => session.dispatch draws pdu (Command.ofOpcode op)

/-- `pending.pop_front()`. -/
def pollPending : Option Bytes × PairingSession curve :=
  (session.pending.head?, { session with pending := session.pending.tail })

def handlePdu : Rust (Option Bytes × PairingSession curve) := do
  let after ← session.step draws pdu
  pure after.pollPending

end Handlers
end PairingSession
end Simble.Smp
