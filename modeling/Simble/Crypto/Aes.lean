import Simble.Octets

/-! AES-128 on one block and the message authentication code CMAC built on it,
as `crypto/aes.rs` computes them. -/
namespace Simble.Crypto

def SBOX : List UInt8 := [
  0x63, 0x7c, 0x77, 0x7b, 0xf2, 0x6b, 0x6f, 0xc5, 0x30, 0x01, 0x67, 0x2b, 0xfe, 0xd7, 0xab, 0x76,
  0xca, 0x82, 0xc9, 0x7d, 0xfa, 0x59, 0x47, 0xf0, 0xad, 0xd4, 0xa2, 0xaf, 0x9c, 0xa4, 0x72, 0xc0,
  0xb7, 0xfd, 0x93, 0x26, 0x36, 0x3f, 0xf7, 0xcc, 0x34, 0xa5, 0xe5, 0xf1, 0x71, 0xd8, 0x31, 0x15,
  0x04, 0xc7, 0x23, 0xc3, 0x18, 0x96, 0x05, 0x9a, 0x07, 0x12, 0x80, 0xe2, 0xeb, 0x27, 0xb2, 0x75,
  0x09, 0x83, 0x2c, 0x1a, 0x1b, 0x6e, 0x5a, 0xa0, 0x52, 0x3b, 0xd6, 0xb3, 0x29, 0xe3, 0x2f, 0x84,
  0x53, 0xd1, 0x00, 0xed, 0x20, 0xfc, 0xb1, 0x5b, 0x6a, 0xcb, 0xbe, 0x39, 0x4a, 0x4c, 0x58, 0xcf,
  0xd0, 0xef, 0xaa, 0xfb, 0x43, 0x4d, 0x33, 0x85, 0x45, 0xf9, 0x02, 0x7f, 0x50, 0x3c, 0x9f, 0xa8,
  0x51, 0xa3, 0x40, 0x8f, 0x92, 0x9d, 0x38, 0xf5, 0xbc, 0xb6, 0xda, 0x21, 0x10, 0xff, 0xf3, 0xd2,
  0xcd, 0x0c, 0x13, 0xec, 0x5f, 0x97, 0x44, 0x17, 0xc4, 0xa7, 0x7e, 0x3d, 0x64, 0x5d, 0x19, 0x73,
  0x60, 0x81, 0x4f, 0xdc, 0x22, 0x2a, 0x90, 0x88, 0x46, 0xee, 0xb8, 0x14, 0xde, 0x5e, 0x0b, 0xdb,
  0xe0, 0x32, 0x3a, 0x0a, 0x49, 0x06, 0x24, 0x5c, 0xc2, 0xd3, 0xac, 0x62, 0x91, 0x95, 0xe4, 0x79,
  0xe7, 0xc8, 0x37, 0x6d, 0x8d, 0xd5, 0x4e, 0xa9, 0x6c, 0x56, 0xf4, 0xea, 0x65, 0x7a, 0xae, 0x08,
  0xba, 0x78, 0x25, 0x2e, 0x1c, 0xa6, 0xb4, 0xc6, 0xe8, 0xdd, 0x74, 0x1f, 0x4b, 0xbd, 0x8b, 0x8a,
  0x70, 0x3e, 0xb5, 0x66, 0x48, 0x03, 0xf6, 0x0e, 0x61, 0x35, 0x57, 0xb9, 0x86, 0xc1, 0x1d, 0x9e,
  0xe1, 0xf8, 0x98, 0x11, 0x69, 0xd9, 0x8e, 0x94, 0x9b, 0x1e, 0x87, 0xe9, 0xce, 0x55, 0x28, 0xdf,
  0x8c, 0xa1, 0x89, 0x0d, 0xbf, 0xe6, 0x42, 0x68, 0x41, 0x99, 0x2d, 0x0f, 0xb0, 0x54, 0xbb, 0x16]

def RCON : List UInt8 := [0x00, 0x01, 0x02, 0x04, 0x08, 0x10, 0x20, 0x40, 0x80, 0x1b, 0x36]

def sbox (b : UInt8) : UInt8 := SBOX.getD b.toNat 0

def xtime (b : UInt8) : UInt8 := (b <<< 1) ^^^ (if b &&& 0x80 ≠ 0 then 0x1b else 0)

def mixCol (s0 s1 s2 s3 : UInt8) : List UInt8 :=
  [xtime s0 ^^^ xtime s1 ^^^ s1 ^^^ s2 ^^^ s3,
    s0 ^^^ xtime s1 ^^^ xtime s2 ^^^ s2 ^^^ s3,
    s0 ^^^ s1 ^^^ xtime s2 ^^^ xtime s3 ^^^ s3,
    xtime s0 ^^^ s0 ^^^ s1 ^^^ s2 ^^^ xtime s3]

/-- The next four octets of the key schedule, after the `i` words already in `w`. -/
def expandWord (w : Bytes) (i : Nat) : Bytes :=
  let temp := fun j => w.getD ((i - 1) * 4 + j) 0
  let rotated : List UInt8 :=
    if i % 4 = 0 then
      [sbox (temp 1) ^^^ RCON.getD (i / 4) 0, sbox (temp 2), sbox (temp 3), sbox (temp 0)]
    else [temp 0, temp 1, temp 2, temp 3]
  w ++ List.zipWith (· ^^^ ·) ((w.drop ((i - 4) * 4)).take 4) rotated

def expandKey (key : Octets 16) : Bytes := (List.range' 4 40).foldl expandWord key.toList

def shiftRowsSource : List (Fin 16) := [0, 5, 10, 15, 4, 9, 14, 3, 8, 13, 2, 7, 12, 1, 6, 11]

def subBytes (state : Octets 16) : Octets 16 := state.map sbox

def shiftRows (state : Octets 16) : Octets 16 := ⟨shiftRowsSource.map state.get, rfl⟩

def mixColumns (state : Octets 16) : Octets 16 :=
  let column := fun c : Fin 4 =>
    mixCol (state.get ⟨c * 4, by omega⟩) (state.get ⟨c * 4 + 1, by omega⟩)
      (state.get ⟨c * 4 + 2, by omega⟩) (state.get ⟨c * 4 + 3, by omega⟩)
  ⟨column 0 ++ column 1 ++ column 2 ++ column 3, rfl⟩

/-- AddRoundKey: the octets of the schedule from `offset` on. -/
def addRoundKey (rk : Bytes) (offset : Nat) (state : Octets 16) : Octets 16 :=
  .ofFn fun i => state.get i ^^^ rk.getD (offset + i) 0

def aes128EncryptBlock (key block : Octets 16) : Octets 16 :=
  let rk := expandKey key
  let whitened := addRoundKey rk 0 block
  let rounds := (List.range' 1 9).foldl (fun state round =>
    addRoundKey rk (round * 16) (mixColumns (shiftRows (subBytes state)))) whitened
  addRoundKey rk 160 (shiftRows (subBytes rounds))

def leftShift128 (input : Octets 16) : Octets 16 :=
  .ofFn fun i => (input.get i <<< 1) ||| ((input.toList.getD (i + 1) 0 >>> 7) &&& 1)

def generateSubkeys (key : Octets 16) : Octets 16 × Octets 16 :=
  let double := fun block : Octets 16 =>
    let shifted := leftShift128 block
    if block.head &&& 0x80 ≠ 0 then shifted.set 15 (shifted.get 15 ^^^ 0x87) else shifted
  let k1 := double (aes128EncryptBlock key .zero)
  (k1, double k1)

/-- The octets of `data` from `start` on as one block, with zeros after its end. -/
def blockAt (data : Bytes) (start : Nat) : Octets 16 := .ofFn fun i => data.getD (start + i) 0

def aesCmac (key : Octets 16) (data : Bytes) : Octets 16 :=
  let (k1, k2) := generateSubkeys key
  let n := if data.isEmpty then 1 else (data.length + 15) / 16
  let whole := ¬ data.isEmpty ∧ data.length % 16 = 0
  let mLast :=
    if whole then (blockAt data ((n - 1) * 16)).xor k1
    else (blockAt (data ++ [0x80]) ((n - 1) * 16)).xor k2
  let x := (List.range (n - 1)).foldl
    (fun x i => aes128EncryptBlock key (x.xor (blockAt data (i * 16)))) .zero
  aes128EncryptBlock key (x.xor mLast)

end Simble.Crypto
