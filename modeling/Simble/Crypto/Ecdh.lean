import Simble.Octets

/-! Key pairs of the P-256 curve. The curve is the `p256` crate, which is not part of the
repository: what is asked of it is a parameter. -/
namespace Simble.Crypto

/-- The functions of the `p256` crate behind `crypto/ecdh.rs`, on big-endian
coordinates. `diffieHellman` has no value for a peer point off the curve. -/
structure P256 where
  SecretKey : Type
  fromSlice : Octets 32 → Option SecretKey
  publicKey : SecretKey → Octets 32 × Octets 32
  diffieHellman : SecretKey → Octets 32 × Octets 32 → Option (Octets 32)

def noCurve : P256 where
  SecretKey := Unit
  fromSlice _ := some ()
  publicKey _ := (.zero, .zero)
  diffieHellman _ _ := none

/-- A key pair with its public half in wire order. -/
structure P256Keypair (curve : P256) where
  secret : curve.SecretKey
  xLe : Octets 32
  yLe : Octets 32

namespace P256Keypair
variable {curve : P256}

def fromPrivateBe (curve : P256) (privateBe : Octets 32) : Option (P256Keypair curve) := do
  let secret ← curve.fromSlice privateBe
  let (x, y) := curve.publicKey secret
  pure ⟨secret, x.rev, y.rev⟩

def sharedXLe (pair : P256Keypair curve) (peerXLe peerYLe : Octets 32) : Option (Octets 32) := do
  let shared ← curve.diffieHellman pair.secret (peerXLe.rev, peerYLe.rev)
  pure shared.rev

/-- Both key pairs derive the same secret from the public half of the other. -/
def Agree (a b : P256Keypair curve) : Prop :=
  ∃ shared, a.sharedXLe b.xLe b.yLe = some shared ∧ b.sharedXLe a.xLe a.yLe = some shared

end P256Keypair
end Simble.Crypto
