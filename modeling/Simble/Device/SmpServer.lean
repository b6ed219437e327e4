import Simble.Device.AttServer

/-! The SMP side of a virtual device, and what its host calls. A call gives the
bonds it has stored, in the order of its calls of `store_security`. -/
namespace Simble.Device
open Simble.Gatt Simble.Att Simble.Smp Simble.Crypto

namespace L2cap

def attCid : UInt16 := 0x0004
def smpCid : UInt16 := 0x0006

def parse : Bytes → Option (UInt16 × Bytes)
  | lengthLow :: lengthHigh :: cidLow :: cidHigh :: payload =>
    let expectedLen := (U16.fromLeBytes lengthLow lengthHigh).toNat
    if payload.length < expectedLen then none
    else some (U16.fromLeBytes cidLow cidHigh, payload.take expectedLen)
  | _ => none

def serialize (cid : UInt16) (payload : Bytes) : Bytes :=
  U16.toLeBytes (UInt16.ofNat payload.length) ++ U16.toLeBytes cid ++ payload

end L2cap

/-- One call of `store_security`, for a connection. -/
structure Stored where
  connection : UInt16
  peer : Address
  security : BondSecurity

/-- What a new session draws: the key pair and the IRK. -/
structure Made (curve : P256) where
  generated : P256Keypair curve
  irk : Octets 16

def securityOf {curve : P256} (session : PairingSession curve) : BondSecurity where
  keys := session.pairingKeys
  secureConnections := session.sc
  authenticated := session.isAuthenticated
  keySize := session.encryptionKeySize

namespace VirtualDevice
variable {curve : P256} {H S : Type} (env : Env H S) (device : VirtualDevice curve H S)

section Subscriptions

def subscribedCccds : List (UInt16 × UInt16) :=
  device.gattDb.attributes.entries.filterMap fun entry =>
    (device.cccdValue entry.1).bind fun value => if value ≠ 0 then some (entry.1, value) else none

/-- `set_value` on one CCCD after the other. Their results are dropped. -/
def setCccds (values : List (UInt16 × UInt16)) : VirtualDevice curve H S :=
  { device with
    gattDb := values.foldl (fun db cccd =>
      match db.setValue cccd.1 (U16.toLeBytes cccd.2) with
      | .ok written => written
      | .error _ => db) device.gattDb }

def restoreBondedSubscriptions (peerAddress : Address) : VirtualDevice curve H S :=
  match device.bondStore with
  | none => device
  | some store =>
    if env.bonds.isBonded store peerAddress then
      device.setCccds (env.bonds.loadCccds store peerAddress)
    else device

end Subscriptions

/-- Records a complete pairing that bonds. The session's failure is not asked for. -/
def maybeRecordBond (connectionHandle : UInt16) : VirtualDevice curve H S × List Stored :=
  match device.connections.lookup connectionHandle with
  | none => (device, [])
  | some conn =>
    match conn.pairingSession with
    | none => (device, [])
    | some session =>
      if session.complete = false ∨ session.bonding = false then (device, [])
      else
        match device.bondStore with
        | none => (device, [])
        | some store =>
          let peer := bondKeyAddress conn
          let stored := env.bonds.storeSecurity store peer (securityOf session)
          ({ device with
              bondStore := some (device.subscribedCccds.foldl
                (fun store cccd => env.bonds.storeCccd store peer cccd.1 cccd.2) stored) },
            [⟨connectionHandle, peer, securityOf session⟩])

/-- The session of a connection after a call, which also says how the link stands. -/
def putSession (handle : UInt16) (conn : ConnectionState curve) (session : PairingSession curve) :
    VirtualDevice curve H S :=
  { device with
    connections := device.connections.insert handle
      { conn with
        pairingSession := some session
        isEncrypted := session.isEncrypted
        ltk := session.getLtk } }

def notFound (connectionHandle : UInt16) : Stop :=
  .err (.deviceError s!"Connection {connectionHandle} not found")

/-- The session that a Pairing Request makes on a connection that has none. -/
def newResponder (conn : ConnectionState curve) (made : Made curve) : Rust (PairingSession curve) :=
  PairingSession.new .responder
    { PairingConfig.default with deferKeyDistribution := device.deferKeyDistribution }
    device.address device.addressType conn.peerAddress conn.peerAddressType made.generated made.irk

def handleSmp (connectionHandle : UInt16) (conn : ConnectionState curve)
    (session : PairingSession curve) (draws : Draws) (pdu : Bytes) :
    Rust (VirtualDevice curve H S × List Stored) := do
  let handled ← session.handlePdu draws pdu
  pure ((device.putSession connectionHandle conn handled.2).maybeRecordBond env connectionHandle)

def processSmpPacket (connectionHandle : UInt16) (made : Made curve) (draws : Draws) (pdu : Bytes) :
    Rust (VirtualDevice curve H S × List Stored) :=
  match device.connections.lookup connectionHandle with
  | none => .error (notFound connectionHandle)
  | some conn =>
    match conn.pairingSession with
    | some session => device.handleSmp env connectionHandle conn session draws pdu
    | none =>
      if pdu.head? ≠ some Command.pairingRequest.opcode then .ok (device, [])
      else do
        let session ← device.newResponder conn made
        device.handleSmp env connectionHandle conn session draws pdu

def processL2capPacket (connectionHandle : UInt16) (made : Made curve) (draws : Draws)
    (rawL2cap : Bytes) : Rust (VirtualDevice curve H S × List Stored) :=
  match L2cap.parse rawL2cap with
  | none => .error (.err (.packetParseError "Invalid L2CAP frame"))
  | some (cid, payload) =>
    if cid = L2cap.attCid then do
      let processed ← device.processAttPacket env connectionHandle payload
      pure (processed.2, [])
    else if cid = L2cap.smpCid then device.processSmpPacket env connectionHandle made draws payload
    else .ok (device, [])

def newInitiator (conn : ConnectionState curve) (config : PairingConfig) (made : Made curve) :
    Rust (PairingSession curve) := do
  let session ← PairingSession.new .initiator config device.address device.addressType
    conn.peerAddress conn.peerAddressType made.generated made.irk
  let started ← session.start
  pure started.2

def startPairingWithConfig (connectionHandle : UInt16) (config : PairingConfig)
    (made : Made curve) : Rust (VirtualDevice curve H S) :=
  match device.connections.lookup connectionHandle with
  | none => .error (notFound connectionHandle)
  | some conn =>
    if conn.pairingSession.any fun session => session.timedOut then
      .error (.err (.deviceError (s!"Connection {connectionHandle}: the Security Manager timed out; " ++
        "a new pairing needs a new physical link")))
    else do
      let session ← device.newInitiator conn config made
      pure { device with
        connections := device.connections.insert connectionHandle
          { conn with pairingSession := some session } }

/-- One connection's timer at `t` seconds. -/
def tickConnection (t : Float) (conn : ConnectionState curve) : ConnectionState curve :=
  match conn.pairingSession with
  | none => conn
  | some session =>
    let ticked := session.tick t
    if ticked.1 then
      { conn with pairingSession := some ticked.2, isEncrypted := false, ltk := none }
    else { conn with pairingSession := some ticked.2 }

def tickSmp (t : Float) : VirtualDevice curve H S :=
  { device with
    connections :=
      { entries := device.connections.entries.map fun entry => ⟨entry.1, tickConnection t entry.2⟩
        nodupKeys := by
          have keys : (device.connections.entries.map fun entry =>
              (⟨entry.1, tickConnection t entry.2⟩ : (_ : UInt16) × ConnectionState curve)).keys =
                device.connections.entries.keys := by
            simp [List.keys, Function.comp_def]
          rw [List.NodupKeys, keys]
          exact device.connections.nodupKeys } }

def pollSmpPdu (connectionHandle : UInt16) : VirtualDevice curve H S × List Stored :=
  match device.connections.lookup connectionHandle with
  | none => (device, [])
  | some conn =>
    match conn.pairingSession with
    | none => (device, [])
    | some session =>
      match session.pollPending with
      | (none, _) => (device, [])
      | (some _, polled) =>
        (device.putSession connectionHandle conn polled).maybeRecordBond env connectionHandle

def onEncryptionChanged (handle : UInt16) (enabled : Bool) : VirtualDevice curve H S × List Stored :=
  (device.modifyConnection handle fun conn =>
    { conn with
      isEncrypted := enabled
      pairingSession :=
        if enabled then conn.pairingSession.map PairingSession.onLinkEncrypted
        else conn.pairingSession }).maybeRecordBond env handle

def onConnectedWithRole (handle : UInt16) (peerAddress : Address) (role : ConnectionRole) :
    VirtualDevice curve H S :=
  { device with
    connections := device.connections.insert handle
      (.newWithRole peerAddress device.defaultMtu role) }.restoreBondedSubscriptions env peerAddress

/-- A disconnection ends every subscription. -/
def onDisconnected (handle : UInt16) : VirtualDevice curve H S :=
  match device.connections.lookup handle with
  | none => device
  | some _ =>
    { device with connections := device.connections.erase handle }.setCccds
      (device.subscribedCccds.map fun (cccd : UInt16 × UInt16) => (cccd.1, 0))

def setPeerAddressType (handle : UInt16) (peerAddressType : AddressType) :
    VirtualDevice curve H S :=
  device.modifyConnection handle fun conn => { conn with peerAddressType }

end VirtualDevice

inductive DeviceCall (curve : P256) where
  | l2cap (connection : UInt16) (made : Made curve) (draws : Draws) (raw : Bytes)
  | startPairing (connection : UInt16) (config : PairingConfig) (made : Made curve)
  | pollSmp (connection : UInt16)
  | tickSmp (t : Float)
  | encryptionChanged (connection : UInt16) (enabled : Bool)
  | connected (connection : UInt16) (peerAddress : Address) (role : ConnectionRole)
  | peerAddressType (connection : UInt16) (peerAddressType : AddressType)
  | disconnected (connection : UInt16)

def VirtualDevice.perform {curve : P256} {H S : Type} (env : Env H S)
    (device : VirtualDevice curve H S) : DeviceCall curve → Rust (VirtualDevice curve H S × List Stored)
  | .l2cap connection made draws raw => device.processL2capPacket env connection made draws raw
  | .startPairing connection config made => do
    let started ← device.startPairingWithConfig connection config made
    pure (started, [])
  | .pollSmp connection => .ok (device.pollSmpPdu env connection)
  | .tickSmp t => .ok (device.tickSmp t, [])
  | .encryptionChanged connection enabled => .ok (device.onEncryptionChanged env connection enabled)
  | .connected connection peerAddress role =>
    .ok (device.onConnectedWithRole env connection peerAddress role, [])
  | .peerAddressType connection peerAddressType =>
    .ok (device.setPeerAddressType connection peerAddressType, [])
  | .disconnected connection => .ok (device.onDisconnected connection, [])

end Simble.Device
