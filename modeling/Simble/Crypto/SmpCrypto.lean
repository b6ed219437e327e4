import Simble.Crypto.Aes

/-! The cryptographic toolbox of the Security Manager Protocol. Its values are little-endian, as
on the wire; AES and CMAC are big-endian, so each function reverses what goes in and comes out. No
proof looks inside them. -/
namespace Simble.Crypto

/-- The security function `e`. -/
def e (k x : Octets 16) : Octets 16 := (aes128EncryptBlock k.rev x.rev).rev

/-- Confirm value generation for LE Legacy pairing. -/
@[irreducible] def c1 (k r : Octets 16) (preq pres : Octets 7) (iat rat : UInt8) (ia ra : Octets 6) : Octets 16 :=
  let p1 : Octets 16 := ⟨iat :: rat :: (preq.toList ++ pres.toList), by simp⟩
  let p2 : Octets 16 := ⟨ra.toList ++ ia.toList ++ [0, 0, 0, 0], by simp⟩
  e k ((e k (r.xor p1)).xor p2)

/-- Key generation for LE Legacy pairing. -/
@[irreducible] def s1 (k r1 r2 : Octets 16) : Octets 16 :=
  e k ⟨r2.toList.take 8 ++ r1.toList.take 8, by simp⟩

/-- Confirm value generation for LE Secure Connections. -/
@[irreducible] def f4 (u v : Octets 32) (x : Octets 16) (z : UInt8) : Octets 16 :=
  (aesCmac x.rev (u.rev.toList ++ v.rev.toList ++ [z])).rev

/-- Key generation for LE Secure Connections: the MacKey and the LTK. -/
@[irreducible] def f5 (w : Octets 32) (n1 n2 : Octets 16) (a1 a2 : Octets 7) : Octets 16 × Octets 16 :=
  let salt : Octets 16 := ⟨[0x6C, 0x88, 0x83, 0x91, 0xAA, 0xF5, 0xA5, 0x38, 0x60, 0x37, 0x0B,
    0xDB, 0x5A, 0x60, 0x83, 0xBE], rfl⟩
  let t := aesCmac salt w.rev.toList
  let message := fun counter : UInt8 =>
    counter :: [0x62, 0x74, 0x6C, 0x65] ++ n1.rev.toList ++ n2.rev.toList ++ a1.rev.toList ++
      a2.rev.toList ++ [1, 0]
  ((aesCmac t (message 0)).rev, (aesCmac t (message 1)).rev)

/-- Check value generation for LE Secure Connections. -/
@[irreducible] def f6 (macKey n1 n2 r : Octets 16) (ioCap : Octets 3) (a1 a2 : Octets 7) : Octets 16 :=
  (aesCmac macKey.rev (n1.rev.toList ++ n2.rev.toList ++ r.rev.toList ++ ioCap.rev.toList ++
    a1.rev.toList ++ a2.rev.toList)).rev

end Simble.Crypto
