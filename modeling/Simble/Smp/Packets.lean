import Simble.Octets

/-! The PDUs of the Security Manager Protocol: how a session builds them and
what it takes for a well-formed one. The typed views of `packets/smp.rs` parse
a prefix, so most length checks are the session's own. -/
namespace Simble.Smp

/-- The defined codes, and Keypress Notification, which `pairing.rs` adds. -/
inductive Command where
  | pairingRequest
  | pairingResponse
  | pairingConfirm
  | pairingRandom
  | pairingFailed
  | encryptionInfo
  | masterIdentification
  | identityInfo
  | identityAddrInfo
  | signingInfo
  | securityRequest
  | pairingPublicKey
  | pairingDhkeyCheck
  | keypressNotification
deriving DecidableEq, Repr

namespace Command

def opcode : Command → UInt8
  | pairingRequest => 0x01
  | pairingResponse => 0x02
  | pairingConfirm => 0x03
  | pairingRandom => 0x04
  | pairingFailed => 0x05
  | encryptionInfo => 0x06
  | masterIdentification => 0x07
  | identityInfo => 0x08
  | identityAddrInfo => 0x09
  | signingInfo => 0x0A
  | securityRequest => 0x0B
  | pairingPublicKey => 0x0C
  | pairingDhkeyCheck => 0x0D
  | keypressNotification => 0x0E

/-- The arms of the match on a PDU's first octet. A code that is reserved for
future use has none. -/
def ofOpcode : UInt8 → Option Command
  | 0x01 => some pairingRequest
  | 0x02 => some pairingResponse
  | 0x03 => some pairingConfirm
  | 0x04 => some pairingRandom
  | 0x05 => some pairingFailed
  | 0x06 => some encryptionInfo
  | 0x07 => some masterIdentification
  | 0x08 => some identityInfo
  | 0x09 => some identityAddrInfo
  | 0x0A => some signingInfo
  | 0x0B => some securityRequest
  | 0x0C => some pairingPublicKey
  | 0x0D => some pairingDhkeyCheck
  | 0x0E => some keypressNotification
  | _ => none

@[simp] theorem ofOpcode_opcode (command : Command) : ofOpcode command.opcode = some command := by
  cases command <;> rfl

theorem ofOpcode_eq_some {code : UInt8} {command : Command} :
    ofOpcode code = some command ↔ code = command.opcode := by
  constructor
  · intro found
    unfold ofOpcode at found
    split at found <;> cases found <;> rfl
  · rintro rfl
    exact ofOpcode_opcode command

@[simp] theorem opcode_inj {a b : Command} : a.opcode = b.opcode ↔ a = b := by
  constructor
  · intro same
    exact Option.some.inj (by rw [← ofOpcode_opcode a, same, ofOpcode_opcode])
  · rintro rfl
    rfl

end Command

namespace IoCapability
def noInputNoOutput : UInt8 := 0x03
def keyboardDisplay : UInt8 := 0x04
end IoCapability

namespace ErrorCode
def confirmValueFailed : UInt8 := 0x04
def commandNotSupported : UInt8 := 0x07
def unspecifiedReason : UInt8 := 0x08
def invalidParameters : UInt8 := 0x0A
def dhkeyCheckFailed : UInt8 := 0x0B
end ErrorCode

namespace AuthReq
def bonding : UInt8 := 0x01
def mitm : UInt8 := 0x04
def sc : UInt8 := 0x08
/-- The reserved bits, which `pairing.rs` refuses. -/
def reserved : UInt8 := 0xC2
end AuthReq

namespace KeyDistribution
def encKey : UInt8 := 0x01
def idKey : UInt8 := 0x02
def signKey : UInt8 := 0x04
end KeyDistribution

def oobDataPresent : UInt8 := 0x01
def minEncryptionKeySize : UInt8 := 7
def maxEncryptionKeySize : UInt8 := 16

structure SmpPairingPacket where
  opcode : UInt8
  ioCapability : UInt8
  oobDataFlag : UInt8
  authReq : UInt8
  maxEncryptionKeySize : UInt8
  initiatorKeyDistribution : UInt8
  responderKeyDistribution : UInt8
deriving DecidableEq, Repr

namespace SmpPairingPacket

def asBytes (packet : SmpPairingPacket) : Bytes :=
  [packet.opcode, packet.ioCapability, packet.oobDataFlag, packet.authReq,
    packet.maxEncryptionKeySize, packet.initiatorKeyDistribution, packet.responderKeyDistribution]

def parse : Bytes → Option (SmpPairingPacket × Bytes)
  | b0 :: b1 :: b2 :: b3 :: b4 :: b5 :: b6 :: rest => some (⟨b0, b1, b2, b3, b4, b5, b6⟩, rest)
  | _ => none

def newResponse (ioCap authReq initKeyDist respKeyDist : UInt8) : SmpPairingPacket :=
  ⟨Command.pairingResponse.opcode, ioCap, 0x00, authReq, 16, initKeyDist, respKeyDist⟩

/-- The seven octets as an array, which the conversions with `try_into` give. -/
def octets (packet : SmpPairingPacket) : Octets 7 := ⟨packet.asBytes, rfl⟩

@[simp] theorem tryFrom_asBytes (packet : SmpPairingPacket) :
    Octets.tryFrom 7 packet.asBytes = some packet.octets :=
  Octets.tryFrom_toList packet.octets

@[simp] theorem parse_asBytes (packet : SmpPairingPacket) :
    parse packet.asBytes = some (packet, []) := rfl

theorem eq_asBytes_of_parse {pdu : Bytes} {packet : SmpPairingPacket} {rest : Bytes}
    (parsed : parse pdu = some (packet, rest)) : pdu = packet.asBytes ++ rest := by
  unfold parse at parsed
  split at parsed
  · cases parsed
    rfl
  · contradiction

structure InRange (packet : SmpPairingPacket) : Prop where
  ioCapability : packet.ioCapability ≤ IoCapability.keyboardDisplay
  oobDataFlag : packet.oobDataFlag ≤ oobDataPresent
  authReq : packet.authReq &&& AuthReq.reserved = 0
  keySize : minEncryptionKeySize ≤ packet.maxEncryptionKeySize ∧
    packet.maxEncryptionKeySize ≤ Smp.maxEncryptionKeySize

end SmpPairingPacket

def parsePairingParameters (pdu : Bytes) : Option SmpPairingPacket :=
  if pdu.length ≠ 7 then none
  else do
    let (packet, _) ← SmpPairingPacket.parse pdu
    if packet.ioCapability > IoCapability.keyboardDisplay then none
    else if packet.oobDataFlag > oobDataPresent then none
    else if packet.authReq &&& AuthReq.reserved ≠ 0 then none
    else if ¬ (minEncryptionKeySize ≤ packet.maxEncryptionKeySize ∧
        packet.maxEncryptionKeySize ≤ Smp.maxEncryptionKeySize) then none
    else some packet

theorem parsePairingParameters_eq_some {pdu : Bytes} {packet : SmpPairingPacket} :
    parsePairingParameters pdu = some packet ↔ pdu = packet.asBytes ∧ packet.InRange := by
  constructor
  · intro parsed
    simp only [parsePairingParameters, Option.bind_eq_bind] at parsed
    split at parsed
    · contradiction
    rename_i sized
    obtain ⟨⟨found, rest⟩, prefixed, checks⟩ := Option.bind_eq_some_iff.mp parsed
    have whole := SmpPairingPacket.eq_asBytes_of_parse prefixed
    have empty : rest = [] := by
      have counted := congrArg List.length whole
      simp only [List.length_append, SmpPairingPacket.asBytes, List.length_cons,
        List.length_nil] at counted
      exact List.length_eq_zero_iff.mp (by omega)
    simp only [Option.ite_none_left_eq_some, Option.some.injEq] at checks
    obtain ⟨io, oob, auth, size, rfl⟩ := checks
    subst empty
    exact ⟨by simpa using whole, UInt8.not_lt.mp io, UInt8.not_lt.mp oob, not_not.mp auth,
      not_not.mp size⟩
  · rintro ⟨rfl, range⟩
    have sized : packet.asBytes.length = 7 := rfl
    simp only [parsePairingParameters, sized, ne_eq, not_true_eq_false, if_false,
      SmpPairingPacket.parse_asBytes, Option.bind_eq_bind, Option.bind_some,
      Option.ite_none_left_eq_some, and_true]
    exact ⟨UInt8.not_lt.mpr range.ioCapability, UInt8.not_lt.mpr range.oobDataFlag,
      not_not.mpr range.authReq, not_not.mpr range.keySize⟩

section Builders

def build16 (op : UInt8) (val : Octets 16) : Bytes := op :: val.toList

def parse16 (pdu : Bytes) (op : UInt8) : Option (Octets 16) :=
  match pdu with
  | first :: rest => if pdu.length ≠ 17 ∨ first ≠ op then none else Octets.tryFrom 16 rest
  | [] => none

@[simp] theorem parse16_build16 (op : UInt8) (val : Octets 16) :
    parse16 (build16 op val) op = some val := by
  simp [parse16, build16]

def buildPublicKey (x y : Octets 32) : Bytes :=
  Command.pairingPublicKey.opcode :: (x.toList ++ y.toList)

def parsePublicKey (pdu : Bytes) : Option (Octets 32 × Octets 32) :=
  match pdu with
  | first :: rest =>
    if pdu.length ≠ 65 ∨ first ≠ Command.pairingPublicKey.opcode then none
    else do
      let x ← Octets.tryFrom 32 (rest.take 32)
      let y ← Octets.tryFrom 32 ((rest.drop 32).take 32)
      pure (x, y)
  | [] => none

@[simp] theorem parsePublicKey_buildPublicKey (x y : Octets 32) :
    parsePublicKey (buildPublicKey x y) = some (x, y) := by
  simp [parsePublicKey, buildPublicKey]

def buildMasterId (ediv : UInt16) (rand : Octets 8) : Bytes :=
  Command.masterIdentification.opcode :: (U16.toLeBytes ediv ++ rand.toList)

/-- The typed view and the check that nothing follows it. -/
def parseMasterId (pdu : Bytes) : Option (UInt16 × Octets 8) :=
  match pdu with
  | op :: low :: high :: rest => do
    let rand ← Octets.tryFrom 8 (rest.take 8)
    if op ≠ Command.masterIdentification.opcode then none
    if rest.drop 8 ≠ [] then none
    pure (U16.fromLeBytes low high, rand)
  | _ => none

@[simp] theorem parseMasterId_buildMasterId (ediv : UInt16) (rand : Octets 8) :
    parseMasterId (buildMasterId ediv rand) = some (ediv, rand) := by
  simp [parseMasterId, buildMasterId, U16.toLeBytes]

def buildIdentityAddrInfo (addrType : UInt8) (addr : Address) : Bytes :=
  Command.identityAddrInfo.opcode :: addrType :: addr.bytes.toList

def parseIdentityAddrInfo (pdu : Bytes) : Option (UInt8 × Address) :=
  match pdu with
  | op :: addrType :: rest => do
    let address ← Octets.tryFrom 6 (rest.take 6)
    if op ≠ Command.identityAddrInfo.opcode then none
    if rest.drop 6 ≠ [] then none
    if addrType > 1 then none
    pure (addrType, ⟨address⟩)
  | _ => none

@[simp] theorem parseIdentityAddrInfo_buildIdentityAddrInfo {addrType : UInt8} (addr : Address)
    (defined : addrType ≤ 1) :
    parseIdentityAddrInfo (buildIdentityAddrInfo addrType addr) = some (addrType, addr) := by
  simp [parseIdentityAddrInfo, buildIdentityAddrInfo, UInt8.not_lt.mpr defined]

end Builders
end Simble.Smp
