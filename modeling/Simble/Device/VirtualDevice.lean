import Simble.Gatt.Database
import Simble.Smp.Pairing

/-! The state of a virtual device that its ATT and SMP servers share. The
observer is left out, since nothing comes back from it. -/
namespace Simble.Device
open Simble.Gatt Simble.Smp Simble.Crypto

inductive ConnectionRole where
  | central
  | peripheral
deriving DecidableEq, Repr

structure PrepareWriteChunk where
  handle : UInt16
  offset : UInt16
  data : Bytes
deriving DecidableEq, Repr

structure ConnectionState (curve : P256) where
  peerAddress : Address
  role : ConnectionRole
  mtu : UInt16
  prepareWriteQueue : List PrepareWriteChunk
  pendingIndication : Bool
  pairingSession : Option (PairingSession curve)
  isEncrypted : Bool
  ltk : Option (Octets 16)
  peerAddressType : AddressType

def ConnectionState.newWithRole {curve : P256} (peerAddress : Address) (mtu : UInt16)
    (role : ConnectionRole) : ConnectionState curve where
  peerAddress
  role
  mtu
  prepareWriteQueue := []
  pendingIndication := false
  pairingSession := none
  isEncrypted := false
  ltk := none
  peerAddressType := .publicDevice

structure BondSecurity where
  keys : PairingKeys
  secureConnections : Bool
  authenticated : Bool
  keySize : UInt8
deriving DecidableEq

/-- The methods of the `BondStore` trait that the device calls. -/
structure BondStore (S : Type) where
  storeSecurity : S → Address → BondSecurity → S
  loadSecurity : S → Address → Option BondSecurity
  storeCccd : S → Address → UInt16 → UInt16 → S
  loadCccds : S → Address → List (UInt16 × UInt16)

def BondStore.isBonded {S : Type} (bonds : BondStore S) (store : S) (peer : Address) : Bool :=
  (bonds.loadSecurity store peer).isSome

/-- The code behind the device's trait objects. -/
structure Env (H S : Type) where
  onWrite : OnWrite H
  bonds : BondStore S

structure VirtualDevice (curve : P256) (H S : Type) where
  address : Address
  addressType : AddressType
  gattDb : GattDatabase H
  connections : Map UInt16 (ConnectionState curve)
  defaultMtu : UInt16
  bondStore : Option S
  deferKeyDistribution : Bool

namespace VirtualDevice
variable {curve : P256} {H S : Type} (env : Env H S) (device : VirtualDevice curve H S)

def modifyConnection (handle : UInt16) (change : ConnectionState curve → ConnectionState curve) :
    VirtualDevice curve H S :=
  match device.connections.lookup handle with
  | none => device
  | some conn => { device with connections := device.connections.insert handle (change conn) }

def cccdValue (handle : UInt16) : Option UInt16 :=
  match device.gattDb.get handle with
  | none => none
  | some attr =>
    if attr.uuid ≠ .cccd then none
    else some (U16.fromLeBytes (attr.value[0]?.getD 0) (attr.value[1]?.getD 0))

def bondKeyAddress (conn : ConnectionState curve) : Address :=
  ((conn.pairingSession.bind fun session => session.peerIdentityAddress).map Prod.snd).getD
    conn.peerAddress

def onCccdWritten (connectionHandle cccdHandle previous : UInt16) : VirtualDevice curve H S :=
  let current := (device.cccdValue cccdHandle).getD previous
  match device.connections.lookup connectionHandle with
  | none => device
  | some conn =>
    match device.bondStore with
    | none => device
    | some store =>
      if env.bonds.isBonded store (bondKeyAddress conn) then
        { device with
          bondStore := some (env.bonds.storeCccd store (bondKeyAddress conn) cccdHandle current) }
      else device

end VirtualDevice
end Simble.Device
