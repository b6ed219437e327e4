import Simble.Crypto.Aes
import Simble.Lib.BigEndian

/-! AES-128 CCM (`crypto/ccm.rs`): a CBC-MAC over lengths, additional data and message, and a
keystream of encrypted counters, whatever the block encryption computes. -/
namespace Simble.Crypto
open Simble.Lib List

def lengthOctets (nonce : Bytes) : Nat := 15 - nonce.length

/-- `B_0`: the flags, the nonce and the length of the message. -/
def firstBlock (nonce aad message : Bytes) (micLen : Nat) : Octets 16 :=
  let l := lengthOctets nonce
  let flags := (bit (¬ aad.isEmpty) <<< 6) ||| (((UInt8.ofNat micLen - 2) / 2) <<< 3) |||
    (UInt8.ofNat l - 1)
  blockAt (flags :: nonce ++ (toBe 8 message.length).drop (8 - l)) 0

/-- `A_i`: the flags, the nonce and the counter. -/
def counterBlock (nonce : Bytes) (counter : Nat) : Octets 16 :=
  let l := lengthOctets nonce
  blockAt ((UInt8.ofNat l - 1) :: nonce ++ (toBe 8 counter).drop (8 - l)) 0

def checkParameters (nonce : Bytes) (micLen : Nat) : Rust Unit :=
  if ¬ (7 ≤ nonce.length ∧ nonce.length ≤ 13) then .error .panic
  else if ¬ ((4 ≤ micLen ∧ micLen ≤ 16) ∧ micLen % 2 = 0) then .error .panic
  else .ok ()

section Cipher
variable (aes128EncryptBlock : Octets 16 → Octets 16 → Octets 16)

/-- The blocks of `data`, the last one filled up with zeros, go through the cipher one after
the other. -/
def absorb (key x : Octets 16) (data : Bytes) : Octets 16 :=
  (List.range ((data.length + 15) / 16)).foldl
    (fun x i => aes128EncryptBlock key (x.xor (blockAt data (i * 16)))) x

def cbcMac (key : Octets 16) (nonce aad message : Bytes) (micLen : Nat) : Rust (Octets 16) :=
  let x := aes128EncryptBlock key (firstBlock nonce aad message micLen)
  if aad.isEmpty then .ok (absorb aes128EncryptBlock key x message)
  else if ¬ aad.length < 0xFF00 then .error .panic
  else
    let headLen := min aad.length 14
    let block := blockAt (toBe 2 aad.length ++ aad.take headLen) 0
    let x := aes128EncryptBlock key (block.xor x)
    let x := absorb aes128EncryptBlock key x (aad.drop headLen)
    .ok (absorb aes128EncryptBlock key x message)

def keystreamBlock (key : Octets 16) (nonce : Bytes) (counter : Nat) : Octets 16 :=
  aes128EncryptBlock key (counterBlock nonce counter)

/-- Chunks of sixteen octets, each with its block of the keystream, from `counter` on. -/
def xorKeystream (key : Octets 16) (nonce : Bytes) (counter : Nat) (data : Bytes) : Bytes :=
  if data = [] then []
  else
    List.zipWith (· ^^^ ·) (data.take 16) (keystreamBlock aes128EncryptBlock key nonce counter).toList ++
      xorKeystream key nonce (counter + 1) (data.drop 16)
termination_by data.length
decreasing_by
  have := List.length_pos_iff.mpr ‹data ≠ []›
  rw [List.length_drop]
  omega

def micOctets (tag s0 : Octets 16) (micLen : Nat) : Bytes :=
  (List.range micLen).map fun i => tag.toList.getD i 0 ^^^ s0.toList.getD i 0

def ccmEncrypt (key : Octets 16) (nonce aad plaintext : Bytes) (micLen : Nat) : Rust Bytes := do
  checkParameters nonce micLen
  let tag ← cbcMac aes128EncryptBlock key nonce aad plaintext micLen
  let s0 := keystreamBlock aes128EncryptBlock key nonce 0
  return xorKeystream aes128EncryptBlock key nonce 1 plaintext ++ micOctets tag s0 micLen

def micDifference (mic : Bytes) (tag s0 : Octets 16) : UInt8 :=
  mic.zipIdx.foldl (fun diff m =>
    diff ||| (m.1 ^^^ tag.toList.getD m.2 0 ^^^ s0.toList.getD m.2 0)) 0

def ccmDecrypt (key : Octets 16) (nonce aad ciphertextAndMic : Bytes) (micLen : Nat) :
    Rust (Option Bytes) := do
  checkParameters nonce micLen
  if ciphertextAndMic.length < micLen then
    return none
  else
    let ciphertext := ciphertextAndMic.take (ciphertextAndMic.length - micLen)
    let mic := ciphertextAndMic.drop (ciphertextAndMic.length - micLen)
    let plaintext := xorKeystream aes128EncryptBlock key nonce 1 ciphertext
    let tag ← cbcMac aes128EncryptBlock key nonce aad plaintext micLen
    let s0 := keystreamBlock aes128EncryptBlock key nonce 0
    if micDifference mic tag s0 ≠ 0 then
      return none
    else
      return some plaintext

/-! ## The keystream -/

theorem length_xorKeystream (key : Octets 16) (nonce : Bytes) (counter : Nat) (data : Bytes) :
    (xorKeystream aes128EncryptBlock key nonce counter data).length = data.length := by
  fun_induction xorKeystream aes128EncryptBlock key nonce counter data with
  | case1 counter => rfl
  | case2 counter data more ih =>
    rw [length_append, ih, length_zipWith, List.Vector.toList_length, length_take,
      length_drop]
    omega

theorem zipWith_xor_self (data stream : Bytes) (covers : data.length ≤ stream.length) :
    List.zipWith (· ^^^ ·) (List.zipWith (· ^^^ ·) data stream) stream = data := by
  induction data generalizing stream with
  | nil => rfl
  | cons byte data ih =>
    cases stream with
    | nil => cases covers
    | cons s stream =>
      rw [zipWith_cons_cons, zipWith_cons_cons, ih stream (Nat.le_of_succ_le_succ covers),
        UInt8.xor_assoc, UInt8.xor_self, UInt8.xor_zero]

theorem xorKeystream_xorKeystream (key : Octets 16) (nonce : Bytes) (counter : Nat) (data : Bytes) :
    xorKeystream aes128EncryptBlock key nonce counter
      (xorKeystream aes128EncryptBlock key nonce counter data) = data := by
  fun_induction xorKeystream aes128EncryptBlock key nonce counter data with
  | case1 counter => rw [xorKeystream, if_pos rfl]
  | case2 counter data more ih =>
    set stream := (keystreamBlock aes128EncryptBlock key nonce counter).toList
    set behind := xorKeystream aes128EncryptBlock key nonce (counter + 1) (data.drop 16) with behind_eq
    have sixteen : stream.length = 16 := List.Vector.toList_length _
    have front : (List.zipWith (· ^^^ ·) (data.take 16) stream).length = min 16 data.length := by
      rw [length_zipWith, length_take, sixteen]
      omega
    have length : behind.length = data.length - 16 := by
      rw [behind_eq, length_xorKeystream, length_drop]
    have positive := List.length_pos_iff.mpr more
    set masked := List.zipWith (· ^^^ ·) (data.take 16) stream
    have cut : (masked ++ behind).take 16 = masked ∧ (masked ++ behind).drop 16 = behind := by
      by_cases whole : 16 ≤ data.length
      · have full : masked.length = 16 := by omega
        exact ⟨take_left' full, drop_left' full⟩
      · have last : behind = [] := List.length_eq_zero_iff.mp (by omega)
        rw [last, append_nil]
        exact ⟨take_of_length_le (by omega), drop_eq_nil_of_le (by omega)⟩
    have some : masked ++ behind ≠ [] := by
      intro none
      have zero := congrArg List.length none
      rw [length_append, length_nil] at zero
      omega
    rw [xorKeystream, if_neg some, cut.1, cut.2, ih,
      zipWith_xor_self _ _ (by rw [length_take, sixteen]; omega), take_append_drop]

theorem xorKeystream_eq_iff (key : Octets 16) (nonce : Bytes) (counter : Nat) (a b : Bytes) :
    xorKeystream aes128EncryptBlock key nonce counter a = b ↔
      a = xorKeystream aes128EncryptBlock key nonce counter b := by
  constructor
  · rintro rfl
    exact (xorKeystream_xorKeystream aes128EncryptBlock key nonce counter a).symm
  · rintro rfl
    exact xorKeystream_xorKeystream aes128EncryptBlock key nonce counter b

end Cipher

/-! ## The MIC -/

@[simp] theorem length_micOctets (tag s0 : Octets 16) (micLen : Nat) :
    (micOctets tag s0 micLen).length = micLen := by
  rw [micOctets, length_map, length_range]

theorem foldl_or_eq_zero {α : Type} (f : α → UInt8) (items : List α) (start : UInt8) :
    items.foldl (fun diff item => diff ||| f item) start = 0 ↔
      start = 0 ∧ ∀ item ∈ items, f item = 0 := by
  induction items generalizing start with
  | nil => simp
  | cons item items ih =>
    have both : start ||| f item = 0 ↔ start = 0 ∧ f item = 0 := by
      rw [← UInt8.toNat_inj, ← UInt8.toNat_inj, ← UInt8.toNat_inj, UInt8.toNat_or]
      exact Nat.or_eq_zero_iff
    rw [foldl_cons, ih, both, and_assoc, forall_mem_cons]

theorem micDifference_eq_zero (mic : Bytes) (tag s0 : Octets 16) :
    micDifference mic tag s0 = 0 ↔ mic = micOctets tag s0 mic.length := by
  have octet : ∀ m t s : UInt8, m ^^^ t ^^^ s = 0 ↔ m = t ^^^ s := by
    intro m t s
    rw [UInt8.xor_assoc, UInt8.xor_eq_zero_iff]
  rw [micDifference, foldl_or_eq_zero
    (fun m : UInt8 × Nat => m.1 ^^^ tag.toList.getD m.2 0 ^^^ s0.toList.getD m.2 0)]
  constructor
  · rintro ⟨-, all⟩
    apply ext_getElem (length_micOctets tag s0 mic.length).symm
    intro i inside _
    have same := all (mic[i], i) (mk_mem_zipIdx_iff_getElem?.mpr (List.getElem?_eq_getElem inside))
    simpa [micOctets] using (octet _ _ _).mp same
  · intro same
    refine ⟨rfl, ?_⟩
    rintro ⟨m, i⟩ member
    have found := mk_mem_zipIdx_iff_getElem?.mp member
    obtain ⟨inside, rfl⟩ := List.getElem?_eq_some_iff.mp found
    apply (octet _ _ _).mpr
    have at_i := congrArg (fun octets => octets.getD i 0) same
    simpa [micOctets, inside] using at_i

/-! ## What is accepted -/

section Law
variable (aes128EncryptBlock : Octets 16 → Octets 16 → Octets 16) {nonce aad : Bytes} {micLen : Nat}

/-- What the callers of the cipher keep to. -/
structure CcmParameters (nonce aad : Bytes) (micLen : Nat) : Prop where
  nonce : 7 ≤ nonce.length ∧ nonce.length ≤ 13
  mic : (4 ≤ micLen ∧ micLen ≤ 16) ∧ micLen % 2 = 0
  aad : aad.length < 0xFF00

section Parameters
variable (parameters : CcmParameters nonce aad micLen)
include parameters

theorem checkParameters_ok :
    checkParameters nonce micLen = .ok () := by
  rw [checkParameters, if_neg (not_not.mpr parameters.nonce), if_neg (not_not.mpr parameters.mic)]

theorem cbcMac_ok (key : Octets 16) (message : Bytes) :
    ∃ tag, cbcMac aes128EncryptBlock key nonce aad message micLen = .ok tag := by
  rw [cbcMac]
  split_ifs with none long
  · exact ⟨_, rfl⟩
  · exact ⟨_, rfl⟩
  · exact absurd parameters.aad long

theorem ccmEncrypt_ok (key : Octets 16) (plaintext : Bytes) :
    ∃ tag, cbcMac aes128EncryptBlock key nonce aad plaintext micLen = .ok tag ∧
      ccmEncrypt aes128EncryptBlock key nonce aad plaintext micLen =
        .ok (xorKeystream aes128EncryptBlock key nonce 1 plaintext ++
          micOctets tag (keystreamBlock aes128EncryptBlock key nonce 0) micLen) := by
  obtain ⟨tag, mac⟩ := cbcMac_ok aes128EncryptBlock parameters key plaintext
  refine ⟨tag, mac, ?_⟩
  rw [ccmEncrypt, checkParameters_ok parameters, Rust.ok_bind, mac]
  rfl

theorem length_ccmEncrypt {key : Octets 16} {plaintext out : Bytes}
    (encrypted : ccmEncrypt aes128EncryptBlock key nonce aad plaintext micLen = .ok out) :
    out.length = plaintext.length + micLen := by
  obtain ⟨tag, -, same⟩ := ccmEncrypt_ok aes128EncryptBlock parameters key plaintext
  rw [same] at encrypted
  cases encrypted
  rw [length_append, length_xorKeystream, length_micOctets]

/-- What `ccm_decrypt` comes to: the message under the keystream, where the MIC behind it is
the one that `ccm_encrypt` puts there. -/
theorem ccmDecrypt_eq (key : Octets 16) (received : Bytes) :
    ∃ result, ccmDecrypt aes128EncryptBlock key nonce aad received micLen = .ok result ∧
      ∀ plaintext, result = some plaintext ↔
        ccmEncrypt aes128EncryptBlock key nonce aad plaintext micLen = .ok received := by
  rw [ccmDecrypt, checkParameters_ok parameters, Rust.ok_bind]
  by_cases short : received.length < micLen
  · rw [if_pos short]
    refine ⟨none, rfl, ?_⟩
    intro plaintext
    constructor
    · intro accepted
      cases accepted
    · intro encrypted
      have := length_ccmEncrypt aes128EncryptBlock parameters encrypted
      omega
  · rw [if_neg short]
    set s0 := keystreamBlock aes128EncryptBlock key nonce 0 with s0_eq
    set ciphertext := received.take (received.length - micLen) with ciphertext_eq
    set mic := received.drop (received.length - micLen) with mic_eq
    have joined : ciphertext ++ mic = received := take_append_drop _ received
    have micLength : mic.length = micLen := by
      rw [mic_eq, length_drop]
      omega
    obtain ⟨tag, mac, encrypted⟩ := ccmEncrypt_ok aes128EncryptBlock parameters key
      (xorKeystream aes128EncryptBlock key nonce 1 ciphertext)
    rw [xorKeystream_xorKeystream, ← s0_eq] at encrypted
    simp only [mac, Rust.ok_bind]
    by_cases differs : micDifference mic tag s0 ≠ 0
    · rw [if_pos differs]
      refine ⟨none, rfl, ?_⟩
      intro plaintext
      constructor
      · intro accepted
        cases accepted
      · intro sent
        obtain ⟨tag', mac', sent'⟩ := ccmEncrypt_ok aes128EncryptBlock parameters key plaintext
        rw [sent', Except.ok.injEq, ← joined] at sent
        obtain ⟨masked, expected⟩ := append_inj' sent (by rw [length_micOctets, micLength])
        rw [xorKeystream_eq_iff] at masked
        rw [← masked, mac', Except.ok.injEq] at mac
        rw [mac, ← s0_eq, ← micLength] at expected
        exact absurd ((micDifference_eq_zero mic tag s0).mpr expected.symm) differs
    · rw [if_neg differs]
      refine ⟨_, rfl, ?_⟩
      have expected := (micDifference_eq_zero mic tag s0).mp (not_not.mp differs)
      rw [micLength] at expected
      rw [← expected, joined] at encrypted
      intro plaintext
      constructor
      · intro accepted
        cases accepted
        exact encrypted
      · intro sent
        obtain ⟨tag', -, sent'⟩ := ccmEncrypt_ok aes128EncryptBlock parameters key plaintext
        rw [sent', Except.ok.injEq, ← joined] at sent
        obtain ⟨masked, -⟩ := append_inj' sent (by rw [length_micOctets, micLength])
        rw [xorKeystream_eq_iff] at masked
        rw [masked]

end Parameters

end Law

end Simble.Crypto
