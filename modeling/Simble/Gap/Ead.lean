import Simble.Crypto.Ccm
import Simble.Gap.AdStructures

/-! Encrypted Advertising Data (`gap/ead.rs`): AD structures wrapped in AES-CCM under a
session key that was read from the advertiser, each under a nonce of its own. -/
namespace Simble.Gap
open Simble.Crypto

def encryptedAdvertisingDataAdType : UInt8 := 0x31
def randomizerSize : Nat := 5
def micSize : Nat := 4
def AAD : Bytes := [0xEA]

structure KeyMaterial where
  sessionKey : Octets 16
  iv : Octets 8
deriving DecidableEq

/-- `Randomizer || IV`. -/
def nonce (randomizer : Octets 5) (iv : Octets 8) : Bytes := randomizer.toList ++ iv.toList

section Cipher
variable (aes128EncryptBlock : Octets 16 → Octets 16 → Octets 16)

def encryptAd (keyMaterial : KeyMaterial) (randomizer : Octets 5) (plaintextAd : Bytes) :
    Rust Bytes := do
  let ciphertextAndMic ← ccmEncrypt aes128EncryptBlock keyMaterial.sessionKey
    (nonce randomizer keyMaterial.iv) AAD plaintextAd micSize
  let valueLen := 1 + randomizerSize + ciphertextAndMic.length
  return UInt8.ofNat valueLen :: encryptedAdvertisingDataAdType ::
    (randomizer.toList ++ ciphertextAndMic)

def decryptAd (keyMaterial : KeyMaterial) (adPayload : Bytes) : Rust (Option Bytes) :=
  if adPayload.length < randomizerSize + micSize then .ok none
  else do
    let randomizer ← unwrap (Octets.tryFrom 5 (adPayload.take randomizerSize))
    ccmDecrypt aes128EncryptBlock keyMaterial.sessionKey (nonce randomizer keyMaterial.iv) AAD
      (adPayload.drop randomizerSize) micSize

theorem ccmParameters_ead (randomizer : Octets 5) (iv : Octets 8) :
    CcmParameters (nonce randomizer iv) AAD micSize where
  nonce := by simp [nonce]
  mic := by decide
  aad := by decide

theorem encryptAd_eq (keyMaterial : KeyMaterial) (randomizer : Octets 5) (plaintextAd : Bytes) :
    ∃ sealed, ccmEncrypt aes128EncryptBlock keyMaterial.sessionKey
        (nonce randomizer keyMaterial.iv) AAD plaintextAd micSize = .ok sealed ∧
      sealed.length = plaintextAd.length + micSize ∧
      encryptAd aes128EncryptBlock keyMaterial randomizer plaintextAd =
        .ok (adStructure encryptedAdvertisingDataAdType (randomizer.toList ++ sealed)) := by
  have parameters := ccmParameters_ead randomizer keyMaterial.iv
  obtain ⟨sealed, encrypted⟩ : ∃ sealed, ccmEncrypt aes128EncryptBlock keyMaterial.sessionKey
      (nonce randomizer keyMaterial.iv) AAD plaintextAd micSize = .ok sealed := by
    obtain ⟨tag, -, encrypted⟩ := ccmEncrypt_ok aes128EncryptBlock parameters keyMaterial.sessionKey
      plaintextAd
    exact ⟨_, encrypted⟩
  refine ⟨sealed, encrypted, length_ccmEncrypt aes128EncryptBlock parameters encrypted, ?_⟩
  have five : randomizer.toList.length = randomizerSize := List.Vector.toList_length randomizer
  rw [encryptAd, encrypted, Rust.ok_bind, adStructure, List.length_append, ← add_assoc, five]
  rfl

/-- What is decrypted is exactly what encrypting it again, under the randomizer that leads
the value, gives. -/
theorem decryptAd_eq (keyMaterial : KeyMaterial) (adPayload : Bytes) :
    ∃ result, decryptAd aes128EncryptBlock keyMaterial adPayload = .ok result ∧
      ∀ plaintext, result = some plaintext ↔ randomizerSize + micSize ≤ adPayload.length ∧
        ∃ randomizer : Octets 5, randomizer.toList = adPayload.take randomizerSize ∧
          ∃ out, encryptAd aes128EncryptBlock keyMaterial randomizer plaintext = .ok out ∧
            adPayload = out.drop 2 := by
  rw [decryptAd]
  split_ifs with short
  · refine ⟨none, rfl, ?_⟩
    intro plaintext
    constructor
    · intro accepted
      cases accepted
    · rintro ⟨long, -⟩
      omega
  · have long : randomizerSize + micSize ≤ adPayload.length := not_lt.mp short
    have five : (adPayload.take randomizerSize).length = 5 :=
      List.length_take_of_le (le_trans (Nat.le_add_right _ _) long)
    obtain ⟨randomizer, lead⟩ : ∃ randomizer : Octets 5,
        randomizer.toList = adPayload.take randomizerSize := ⟨⟨_, five⟩, rfl⟩
    have joined : randomizer.toList ++ adPayload.drop randomizerSize = adPayload := by
      rw [lead, List.take_append_drop]
    rw [← lead, Octets.tryFrom_toList, unwrap_some, Rust.ok_bind]
    obtain ⟨result, decrypted, only⟩ := ccmDecrypt_eq aes128EncryptBlock
      (ccmParameters_ead randomizer keyMaterial.iv) keyMaterial.sessionKey
      (adPayload.drop randomizerSize)
    refine ⟨result, decrypted, ?_⟩
    intro plaintext
    obtain ⟨sealed, encrypted, -, whole⟩ :=
      encryptAd_eq aes128EncryptBlock keyMaterial randomizer plaintext
    rw [only]
    constructor
    · intro same
      refine ⟨long, randomizer, rfl, _, whole, ?_⟩
      rw [encrypted, Except.ok.injEq] at same
      rw [same]
      exact joined.symm
    · rintro ⟨-, other, lead', out, sent, same⟩
      have equal : other = randomizer := List.Vector.toList_injective lead'
      rw [equal, whole, Except.ok.injEq] at sent
      rw [encrypted]
      rw [← sent] at same
      have parts : randomizer.toList ++ adPayload.drop randomizerSize = randomizer.toList ++ sealed :=
        joined.trans same
      rw [List.append_cancel_left parts]

end Cipher

/-- Encrypted advertising accepts exactly what it produces, whatever the block encryption is:
a value decrypts to a plaintext just where it is that plaintext, encrypted; what is encrypted
is one structure for a scanner; and CCM keeps the same law for every nonce, MIC and
additional data that it allows. -/
theorem ead_accepts_what_it_produces (aes128EncryptBlock : Octets 16 → Octets 16 → Octets 16)
    (keyMaterial : KeyMaterial) (adPayload plaintext : Bytes) :
    (decryptAd aes128EncryptBlock keyMaterial adPayload = .ok (some plaintext) ↔
      9 ≤ adPayload.length ∧
        ∃ randomizer : Octets 5, randomizer.toList = adPayload.take 5 ∧
          ∃ out, encryptAd aes128EncryptBlock keyMaterial randomizer plaintext = .ok out ∧
            adPayload = out.drop 2) ∧
    (∃ result, decryptAd aes128EncryptBlock keyMaterial adPayload = .ok result) ∧
    (∀ randomizer, ∃ out, encryptAd aes128EncryptBlock keyMaterial randomizer plaintext = .ok out ∧
      (plaintext.length ≤ 245 → adStructures out = [(0x31, out.drop 2)])) ∧
    (∀ (key : Octets 16) (nonce aad received : Bytes) (micLen : Nat),
      CcmParameters nonce aad micLen →
        (∃ out, ccmEncrypt aes128EncryptBlock key nonce aad plaintext micLen = .ok out) ∧
        ∃ result, ccmDecrypt aes128EncryptBlock key nonce aad received micLen = .ok result ∧
          (result = some plaintext ↔ micLen ≤ received.length ∧
            ccmEncrypt aes128EncryptBlock key nonce aad plaintext micLen = .ok received)) := by
  obtain ⟨result, decrypted, only⟩ := decryptAd_eq aes128EncryptBlock keyMaterial adPayload
  refine ⟨?_, ⟨result, decrypted⟩, ?_, ?_⟩
  · rw [decrypted, Except.ok.injEq]
    exact only plaintext
  · intro randomizer
    obtain ⟨sealed, -, length, whole⟩ :=
      encryptAd_eq aes128EncryptBlock keyMaterial randomizer plaintext
    refine ⟨_, whole, ?_⟩
    intro fits
    have value : (randomizer.toList ++ sealed).length ≤ 254 := by
      rw [List.length_append, length, List.Vector.toList_length]
      simp only [micSize]
      omega
    have walked := adStructures_adStructure encryptedAdvertisingDataAdType value []
    rw [List.append_nil, adStructures_nil] at walked
    exact walked
  · intro key nonce aad received micLen parameters
    obtain ⟨tag, -, encrypted⟩ := ccmEncrypt_ok aes128EncryptBlock parameters key plaintext
    obtain ⟨result, decrypted, only⟩ := ccmDecrypt_eq aes128EncryptBlock parameters key received
    refine ⟨⟨_, encrypted⟩, result, decrypted, (only plaintext).trans ?_⟩
    constructor
    · intro sent
      have := length_ccmEncrypt aes128EncryptBlock parameters sent
      exact ⟨by omega, sent⟩
    · exact And.right

theorem ead_accepts_what_it_produces_short : ∃ out,
    encryptAd (fun _ block => block) ⟨.zero, .zero⟩ .zero [1, 2, 3] = .ok out ∧
      adStructures out = [(0x31, out.drop 2)] ∧
      decryptAd (fun _ block => block) ⟨.zero, .zero⟩ (out.drop 2) = .ok (some [1, 2, 3]) := by
  obtain ⟨out, encrypted, carried⟩ :=
    (ead_accepts_what_it_produces (fun _ block => block) ⟨.zero, .zero⟩ [] [1, 2, 3]).2.2.1 .zero
  refine ⟨out, encrypted, carried (by decide), ?_⟩
  refine (ead_accepts_what_it_produces _ _ (out.drop 2) _).1.mpr ⟨?_, .zero, ?_, out, encrypted, rfl⟩
  · cases encrypted
    decide +kernel
  · cases encrypted
    rfl

end Simble.Gap
