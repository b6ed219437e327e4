import Simble.Controller.Broadcast

/-! How the simulated controller answers a command (`controller/sim.rs`): what each arm of its
three dispatchers reads, sends at once and may panic on. What a command changes or leaves to later
phases is left out. -/
namespace Simble.Controller.Commands

namespace Status
def unknownHciCommand : UInt8 := 0x01
def connectionAlreadyExists : UInt8 := 0x0B
end Status

inductive Event where
  | commandComplete (opcode : UInt16) (ret : Bytes)
  | commandStatus (status : UInt8) (opcode : UInt16)
  | other (code : UInt8)
deriving DecidableEq

structure Connection where
  handle : UInt16
  peer : Nat
  authenticated : Bool

/-- What the answers of a controller depend on. -/
structure Registers where
  address : Address
  advertising : Bool
  connections : List Connection
  cisHandles : List UInt16
  scoAcls : List UInt16
  /-- Whether there is a Channel Sounding configuration. -/
  cs : Bool
  extAdvSets : List ExtAdvSet
  paSyncHandles : List UInt16
  bigHandle : Option UInt8
  sinkHandles : List UInt8
  page : Option Address
  inboundPage : Option Address
  inboundSco : Option Address
  scanEnable : UInt8
  localName : Octets 248
  classOfDevice : Octets 3
  simplePairingMode : UInt8

structure Medium where
  controllers : List Registers
  nextHandle : UInt16
  rssi : Nat → Nat → UInt8

/-! ## Devices that come, connect and go -/

namespace Medium
variable (medium : Medium)

def addDevice (address : Address) : Medium := { medium with
  controllers := medium.controllers ++ [⟨address, false, [], [], [], false, [], [], none, [], none,
    none, none, 0, .zero, .zero, 0⟩] }

def removeDevice (address : Address) : Medium := { medium with
  controllers := medium.controllers.filter fun registers => registers.address ≠ address }

def connect (peer : Nat) (handle : UInt16) (registers : Registers) : Registers :=
  { registers with connections := registers.connections ++ [⟨handle, peer, false⟩] }

def establishConnection (central peripheral : Nat) : Medium := { medium with
  controllers := ((medium.controllers.modify central (connect peripheral medium.nextHandle)).modify
    peripheral (connect central medium.nextHandle)).modify peripheral fun registers =>
      { registers with advertising := false }
  nextHandle := max (medium.nextHandle + 1) 1 }

end Medium

/-! ## Reading -/

def isConnected (registers : Registers) (handle : UInt16) : Bool :=
  registers.connections.any (·.handle = handle)

/-- `params[index]` -/
def index (params : Bytes) (index : Nat) : Rust UInt8 := unwrap params[index]?

/-- `&params[start..stop]` -/
def slice (params : Bytes) (start stop : Nat) : Rust Bytes := unwrap (getRange params start stop)

def leU16 (params : Bytes) (offset : Nat) : UInt16 :=
  match getRange params offset (offset + 2) with
  | some (low :: high :: _) => U16.fromLeBytes low high
  | _ => 0

def classicAddress (params : Bytes) : Option Address :=
  (getRange params 0 6).bind fun octets => (Octets.tryFrom 6 octets).map Address.mk

/-! ## The table -/

def commandStatusOpcodes : List UInt16 :=
  [0x0401, 0x0405, 0x0406, 0x0409, 0x040A, 0x040F, 0x0411, 0x0413, 0x0415, 0x0417, 0x0419, 0x041B,
    0x041C, 0x041D, 0x041F, 0x0428, 0x0429, 0x042A, 0x043D, 0x043E, 0x043F, 0x0443, 0x0444, 0x0801,
    0x0803, 0x0804, 0x0807, 0x080B, 0x0810, 0x0C53, 0x0C5F, 0x200D, 0x2013, 0x2016, 0x2019, 0x2025,
    0x2026, 0x2032, 0x2043, 0x2044, 0x205E, 0x2064, 0x2066, 0x2068, 0x2069, 0x206A, 0x206B, 0x206D,
    0x2077, 0x207E, 0x2085, 0x2088, 0x208A, 0x208C, 0x208E, 0x2090, 0x2091, 0x2094, 0x2096, 0x209D,
    0x20A1]

def answeredByCommandStatus (opcode : UInt16) : Bool := opcode ∈ commandStatusOpcodes

/-! ## Arms -/

/-- An arm of a dispatcher: for the medium, the controller, the opcode and the parameters. -/
abbrev Arm := Medium → Registers → UInt16 → Bytes → Rust (List Event)

/-- An arm that is answered with success whatever the parameters are. -/
def accepted : Arm := fun _ _ opcode _ => .ok [.commandComplete opcode [Controller.Status.success]]

def begun : Arm := fun _ _ opcode _ => .ok [.commandStatus Controller.Status.success opcode]

def decided (status : Registers → Bytes → UInt8) : Arm := fun _ registers opcode params =>
  .ok [.commandStatus (status registers params) opcode]

def returned (value : Registers → Bytes → Bytes) : Arm := fun _ registers opcode params =>
  .ok [.commandComplete opcode (Controller.Status.success :: value registers params)]

def onConnection : Arm := decided fun registers params =>
  if isConnected registers (leU16 params 0) then Controller.Status.success
  else Controller.Status.unknownConnection

def repliedForPeer : Arm := returned fun _ params =>
  ((classicAddress params).getD .any).bytes.toList

/-! ### Security -/

def authenticationRequested : Arm := onConnection
def setConnectionEncryption : Arm := onConnection

def changeConnectionLinkKey : Arm := decided fun registers params =>
  let handle := leU16 params 0
  let authenticated := registers.connections.any fun connection =>
    connection.handle = handle && connection.authenticated
  if !isConnected registers handle then Controller.Status.unknownConnection
  else if !authenticated then Controller.Status.commandDisallowed
  else Controller.Status.success

def linkKeySelection : Arm := begun
def leEnableEncryption : Arm := onConnection
def linkKeyRequestReply : Arm := repliedForPeer
def ioCapabilityRequestReply : Arm := repliedForPeer
def userConfirmationRequestReply : Arm := repliedForPeer
def userPasskeyRequestReply : Arm := repliedForPeer
def leLtkRequestReply : Arm := returned fun _ params => U16.toLeBytes (leU16 params 0)
def writeSimplePairingMode : Arm := accepted
def readSimplePairingMode : Arm := returned fun registers _ => [registers.simplePairingMode]

def securityArms : List (UInt16 × Arm) :=
  [(0x0411, authenticationRequested), (0x0413, setConnectionEncryption),
    (0x0415, changeConnectionLinkKey), (0x0417, linkKeySelection), (0x2019, leEnableEncryption),
    (0x040B, linkKeyRequestReply), (0x040C, linkKeyRequestReply),
    (0x042B, ioCapabilityRequestReply), (0x0434, ioCapabilityRequestReply),
    (0x042C, userConfirmationRequestReply), (0x042D, userConfirmationRequestReply),
    (0x042E, userPasskeyRequestReply), (0x042F, userPasskeyRequestReply),
    (0x201A, leLtkRequestReply), (0x201B, leLtkRequestReply), (0x0C56, writeSimplePairingMode),
    (0x0C55, readSimplePairingMode)]

/-! ### BR/EDR -/

def leadsTo (medium : Medium) (target : Address) : List Connection → Rust Bool
  | [] => .ok false
  | connection :: rest => do
    let peer ← unwrap medium.controllers[connection.peer]?
    if peer.address = target then .ok true else leadsTo medium target rest

def alreadyConnected (medium : Medium) (registers : Registers) (params : Bytes) : Rust Bool :=
  match classicAddress params with
  | none => .ok false
  | some target => leadsTo medium target registers.connections

def inquiry : Arm := begun
def inquiryCancel : Arm := accepted

def createConnection : Arm := fun medium registers opcode params => do
  let duplicate ← alreadyConnected medium registers params
  return [.commandStatus (if duplicate then Status.connectionAlreadyExists
    else if registers.page.isSome then Controller.Status.commandDisallowed
    else Controller.Status.success) opcode]

def createConnectionCancel : Arm := fun _ registers opcode params =>
  let target := (classicAddress params).getD .any
  if registers.page = some target then
    .ok [.commandComplete opcode (Controller.Status.success :: target.bytes.toList), .other 0x03]
  else .ok [.commandComplete opcode (Controller.Status.unknownConnection :: target.bytes.toList)]

/-- The answer to a request that waits for the host, if the host names the peer that made it. -/
def answersPending (pending : Registers → Option Address) : Arm := decided fun registers params =>
  if pending registers = some ((classicAddress params).getD .any) then Controller.Status.success
  else Controller.Status.unknownConnection

def answerConnectionRequest : Arm := answersPending Registers.inboundPage
def remoteNameRequest : Arm := begun
def writeScanEnable : Arm := accepted
def readScanEnable : Arm := returned fun registers _ => [registers.scanEnable]

def writeLocalName : Arm := fun _ registers opcode params => do
  let len := min params.length registers.localName.toList.length
  let _ ← slice (List.replicate 248 0) 0 len
  let _ ← slice params 0 len
  return [.commandComplete opcode [Controller.Status.success]]

def readLocalName : Arm := returned fun registers _ => registers.localName.toList
def writeClassOfDevice : Arm := accepted
def readClassOfDevice : Arm := returned fun registers _ => registers.classOfDevice.toList

/-- The ACL handle of `parse_synchronous_setup`. -/
def parseSynchronousSetup (params : Bytes) (enhanced : Bool) : Option UInt16 := do
  let handle ← getRange params 0 2
  if enhanced then
    let _ ← params[10]?
    let _ ← getRange params 56 58
    return leU16 handle 0
  else
    let _ ← getRange params 12 14
    let _ ← getRange params 15 17
    return leU16 handle 0

def setupSynchronousConnection (enhanced : Bool) : Arm := decided fun registers params =>
  match parseSynchronousSetup params enhanced with
  | none => Controller.Status.invalidParameters
  | some handle =>
    if !isConnected registers handle then Controller.Status.unknownConnection
    else if handle ∈ registers.scoAcls then Status.connectionAlreadyExists
    else Controller.Status.success

def answerSynchronousRequest : Arm := answersPending Registers.inboundSco

def classicArms : List (UInt16 × Arm) :=
  [(0x0401, inquiry), (0x0402, inquiryCancel), (0x0405, createConnection),
    (0x0408, createConnectionCancel), (0x0409, answerConnectionRequest),
    (0x040A, answerConnectionRequest), (0x0419, remoteNameRequest), (0x0C1A, writeScanEnable),
    (0x0C19, readScanEnable), (0x0C13, writeLocalName), (0x0C14, readLocalName),
    (0x0C24, writeClassOfDevice), (0x0C23, readClassOfDevice),
    (0x0428, setupSynchronousConnection false), (0x043D, setupSynchronousConnection true),
    (0x0429, answerSynchronousRequest), (0x043E, answerSynchronousRequest),
    (0x042A, answerSynchronousRequest)]

/-! ### LE -/

def reset : Arm := accepted
def readBdAddr : Arm := returned fun registers _ => registers.address.bytes.toList

def leSetAdvParams : Arm := fun _ _ opcode params => do
  if params.length ≥ 6 then
    let _ ← index params 4
    let _ ← index params 5
    return [.commandComplete opcode [Controller.Status.success]]
  return [.commandComplete opcode [Controller.Status.success]]

def leSetAdvData : Arm := fun _ _ opcode params => do
  match params with
  | [] => return [.commandComplete opcode [Controller.Status.success]]
  | len :: _ =>
    let _ ← slice params 1 (1 + min len.toNat (params.length - 1))
    return [.commandComplete opcode [Controller.Status.success]]

def leSetAdvEnable : Arm := accepted
def leSetScanEnable : Arm := accepted
def leCreateConnection : Arm := begun
def leCreateConnectionCancel : Arm := accepted

def onConnectionWith (length : Nat) (reads : Bytes → Rust Unit) : Arm :=
  fun _ registers opcode params =>
    if !isConnected registers (leU16 params 0) then
      .ok [.commandStatus Controller.Status.unknownConnection opcode]
    else if params.length < length then
      .ok [.commandStatus Controller.Status.invalidParameters opcode]
    else do
      reads params
      return [.commandStatus Controller.Status.success opcode]

def leConnectionUpdate : Arm := onConnectionWith 14 fun _ => .ok ()

def leSetPhy : Arm := onConnectionWith 7 fun params => do
  let allPhys ← index params 2
  if allPhys &&& 0x01 = 0 then
    let _ ← index params 3
  if allPhys &&& 0x02 = 0 then
    let _ ← index params 4

def leCreateCis : Arm := decided fun registers params =>
  let count := (params.headD 0).toNat
  let pairs := (List.range count).filterMap fun n =>
    if params.length ≥ 1 + n * 4 + 4 then
      some (leU16 params (1 + n * 4), leU16 params (1 + n * 4 + 2)) else none
  if pairs.length ≠ count ∨ count = 0 then Controller.Status.invalidParameters
  else if pairs.any fun pair => !isConnected registers pair.2 then
    Controller.Status.unknownConnection
  else Controller.Status.success

def leAcceptCisRequest : Arm := decided fun registers params =>
  if leU16 params 0 ∈ registers.cisHandles then Controller.Status.success
  else Controller.Status.unknownConnection

def leCsSecurityEnable : Arm := fun _ registers opcode params =>
  if !isConnected registers (leU16 params 0) then
    .ok [.commandStatus Controller.Status.unknownConnection opcode]
  else .ok [.commandStatus Controller.Status.success opcode, .other 0x3E]

def leCsCreateConfig : Arm := fun _ registers opcode params => do
  if params.length ≥ 11 then
    let _ ← index params 2
    let _ ← index params 3
    let _ ← index params 10
    if !isConnected registers (leU16 params 0) then
      return [.commandStatus Controller.Status.unknownConnection opcode]
    return [.commandStatus Controller.Status.success opcode]
  return [.commandStatus Controller.Status.invalidParameters opcode]

def leCsSetProcedureParameters : Arm := returned fun _ params => U16.toLeBytes (leU16 params 0)

def leCsProcedureEnable : Arm := fun _ _ opcode params => do
  if params.length ≥ 4 then
    let _ ← index params 2
    let _ ← index params 3
    return [.commandStatus Controller.Status.success opcode]
  return [.commandStatus Controller.Status.invalidParameters opcode]

def leCsRemoveConfig : Arm := fun _ registers opcode _ =>
  .ok (.commandStatus Controller.Status.success opcode ::
    if registers.cs then [.other 0x3E] else [])

/-- The selected transmit power is zero. -/
def leSetExtAdvParams : Arm := returned fun _ _ => [0x00]

/-- The readers of a header and its trailing bytes slice what they have counted. -/
def trailer (header : Nat) (count : UInt8 → Nat) (at_ : Nat) (params : Bytes) :
    Rust (Option Bytes) :=
  match params[at_]? with
  | none => .ok none
  | some counted =>
    if params.length < header then .ok none
    else if (params.drop header).length < count counted then .ok none
    else do
      let rest ← slice (params.drop header) 0 (count counted)
      return some rest

def leSetExtAdvData : Arm := fun _ _ opcode params => do
  let _ ← trailer 4 UInt8.toNat 3 params
  return [.commandComplete opcode [Controller.Status.success]]

def leSetExtAdvEnable : Arm := fun _ _ opcode params => do
  let _ ← trailer 2 (·.toNat * 4) 1 params
  return [.commandComplete opcode [Controller.Status.success]]

def leSetPeriodicAdvData : Arm := fun _ _ opcode params => do
  let _ ← trailer 3 UInt8.toNat 2 params
  return [.commandComplete opcode [Controller.Status.success]]

def leSetPeriodicAdvEnable : Arm := accepted
def leSetExtScanEnable : Arm := accepted

def lePeriodicAdvCreateSync : Arm := decided fun _ params =>
  if params.length = 14 then Controller.Status.success else Controller.Status.invalidParameters

def lePeriodicAdvTerminateSync : Arm := accepted

def leCreateBig : Arm := decided fun registers params =>
  if params.length ≠ 31 then Controller.Status.invalidParameters
  else if (!registers.extAdvSets.any fun set => set.advertisingHandle = params.getD 1 0 ∧
      set.enabled ∧ set.periodicEnabled) ∨ params.getD 2 0 = 0 then
    Controller.Status.commandDisallowed
  else Controller.Status.success

def leTerminateBig : Arm := decided fun registers params =>
  if params.length ≠ 2 then Controller.Status.invalidParameters
  else if registers.bigHandle ≠ params.head? then Controller.Status.unknownConnection
  else Controller.Status.success

def leBigCreateSync : Arm := fun _ registers opcode params => do
  match ← trailer 24 UInt8.toNat 23 params with
  | none => return [.commandStatus Controller.Status.invalidParameters opcode]
  | some _ =>
    if leU16 params 1 ∉ registers.paSyncHandles then
      return [.commandStatus Controller.Status.unknownAdvertisingId opcode]
    return [.commandStatus Controller.Status.success opcode]

def leBigTerminateSync : Arm := fun _ registers opcode params =>
  let bigHandle := params.headD 0
  .ok [.commandComplete opcode [if bigHandle ∈ registers.sinkHandles then Controller.Status.success
    else Controller.Status.unknownConnection, bigHandle]]

def disconnect : Arm := begun

def leArms : List (UInt16 × Arm) :=
  [(0x0C03, reset), (0x1009, readBdAddr), (0x2006, leSetAdvParams), (0x2008, leSetAdvData),
    (0x200A, leSetAdvEnable), (0x200C, leSetScanEnable), (0x200D, leCreateConnection),
    (0x200E, leCreateConnectionCancel), (0x2013, leConnectionUpdate), (0x2032, leSetPhy),
    (0x2064, leCreateCis), (0x2066, leAcceptCisRequest), (0x208C, leCsSecurityEnable),
    (0x2090, leCsCreateConfig), (0x2093, leCsSetProcedureParameters),
    (0x2094, leCsProcedureEnable), (0x2091, leCsRemoveConfig), (0x2036, leSetExtAdvParams),
    (0x2037, leSetExtAdvData), (0x2039, leSetExtAdvEnable), (0x203F, leSetPeriodicAdvData),
    (0x2040, leSetPeriodicAdvEnable), (0x2042, leSetExtScanEnable),
    (0x2044, lePeriodicAdvCreateSync), (0x2046, lePeriodicAdvTerminateSync),
    (0x2068, leCreateBig), (0x206A, leTerminateBig), (0x206B, leBigCreateSync),
    (0x206C, leBigTerminateSync), (0x0406, disconnect)]

/-! ## Dispatch -/

def peerOf (registers : Registers) (handle : UInt16) : Option Nat :=
  (registers.connections.find? (·.handle = handle)).map Connection.peer

def readRssi : UInt16 := 0x1405

def handleReadRssi (medium : Medium) (i : Nat) (registers : Registers) (handle : UInt16) :
    Rust (List Event) := do
  let rssi ← match peerOf registers handle with
    | none => .ok 127
    | some peer => do
      let _ ← unwrap medium.controllers[peer]?
      .ok (medium.rssi i peer)
  return [.commandComplete readRssi (Controller.Status.success :: (U16.toLeBytes handle ++ [rssi]))]

def armOf (arms : List (UInt16 × Arm)) (opcode : UInt16) : Option Arm :=
  (arms.find? fun arm => arm.1 = opcode).map Prod.snd

/-- What a dispatcher does not know. -/
def unmodelled : Arm := fun _ _ opcode _ =>
  if answeredByCommandStatus opcode then .ok [.commandStatus Status.unknownHciCommand opcode]
  else .ok [.commandComplete opcode [Controller.Status.success]]

def handleCommand (medium : Medium) (i : Nat) (opcode : UInt16) (params : Bytes) :
    Rust (List Event) := do
  let registers ← unwrap medium.controllers[i]?
  if opcode = readRssi then handleReadRssi medium i registers (leU16 params 0) else
  match armOf securityArms opcode with
  | some arm => arm medium registers opcode params
  | none =>
    match armOf classicArms opcode with
    | some arm => arm medium registers opcode params
    | none => (armOf leArms opcode).getD unmodelled medium registers opcode params

/-- `handle_packet` on a command: its opcode, a length, and whatever parameters follow. -/
def handlePacket (medium : Medium) (i : Nat) : Bytes → Rust (List Event)
  | 0x01 :: low :: high :: _ :: params =>
    handleCommand medium i (U16.fromLeBytes low high) params
  | _ => .ok []

end Simble.Controller.Commands
