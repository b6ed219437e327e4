import Simble.Octets

/-! Parsing of HCI events (`packets/hci_events.rs`). -/
namespace Simble.Hci

def addressAt (parameters : Bytes) (offset : Nat) : Option Address := do
  let octets ← getRange parameters offset (offset + 6)
  return ⟨← Octets.tryFrom 6 octets⟩

structure EncryptionChange where
  status : UInt8
  connectionHandle : UInt16
  encryptionEnabled : UInt8
deriving DecidableEq

structure DisconnectionComplete where
  status : UInt8
  connectionHandle : UInt16
  reason : UInt8
deriving DecidableEq

structure ConnectionRequest where
  bdAddr : Address
  classOfDevice : Bytes
  linkType : UInt8
deriving DecidableEq

structure ConnectionComplete where
  status : UInt8
  connectionHandle : UInt16
  bdAddr : Address
  linkType : UInt8
  encryptionEnabled : UInt8
deriving DecidableEq

structure SynchronousConnectionComplete where
  status : UInt8
  connectionHandle : UInt16
  bdAddr : Address
  linkType : UInt8
  transmissionInterval : UInt8
  retransmissionWindow : UInt8
  rxPacketLength : UInt16
  txPacketLength : UInt16
  airMode : UInt8
deriving DecidableEq

/-- What a Command Complete holds ahead of its return parameters. -/
structure CommandCompletePrefix where
  numHciCommandPackets : UInt8
  commandOpcode : UInt16
deriving DecidableEq

inductive HciEvent where
  | encryptionChange (change : EncryptionChange)
  | disconnectionComplete (complete : DisconnectionComplete)
  | connectionRequest (request : ConnectionRequest)
  | connectionComplete (complete : ConnectionComplete)
  | synchronousConnectionComplete (complete : SynchronousConnectionComplete)
  | commandComplete (header : CommandCompletePrefix) (returnParameters : Bytes)
  | lowEnergy (subevent : UInt8) (parameters : Bytes)
  | other (code : UInt8) (parameters : Bytes)
deriving DecidableEq

namespace EventCode
def connectionComplete : UInt8 := 0x03
def connectionRequest : UInt8 := 0x04
def disconnectionComplete : UInt8 := 0x05
def encryptionChange : UInt8 := 0x08
def commandComplete : UInt8 := 0x0E
def synchronousConnectionComplete : UInt8 := 0x2C
def leMeta : UInt8 := 0x3E
end EventCode

/-- The LE subevents that are read, and the octets each needs. -/
def leSize (subevent : UInt8) : Option Nat :=
  if subevent = 0x01 ∨ subevent = 0x0A then some 12 else
  if subevent = 0x05 then some 13 else
  if subevent = 0x1A then some 7 else
  if subevent = 0x19 then some 4 else none

namespace HciEvent

def parseEncryptionChange : Bytes → Option EncryptionChange
  | status :: low :: high :: enabled :: _ => some ⟨status, U16.fromLeBytes low high, enabled⟩
  | _ => none

def parseDisconnectionComplete : Bytes → Option DisconnectionComplete
  | status :: low :: high :: reason :: _ => some ⟨status, U16.fromLeBytes low high, reason⟩
  | _ => none

def parseConnectionRequest (parameters : Bytes) : Option ConnectionRequest := do
  let bdAddr ← addressAt parameters 0
  match parameters.drop 6 with
  | a :: b :: c :: linkType :: _ => some ⟨bdAddr, [a, b, c], linkType⟩
  | _ => none

def parseConnectionComplete (parameters : Bytes) : Option ConnectionComplete := do
  let bdAddr ← addressAt parameters 3
  match parameters.take 3, parameters.drop 9 with
  | [status, low, high], linkType :: enabled :: _ =>
    some ⟨status, U16.fromLeBytes low high, bdAddr, linkType, enabled⟩
  | _, _ => none

def parseSynchronousConnectionComplete (parameters : Bytes) :
    Option SynchronousConnectionComplete := do
  let bdAddr ← addressAt parameters 3
  match parameters.take 3, parameters.drop 9 with
  | [status, low, high], linkType :: interval :: window :: a :: b :: c :: d :: airMode :: _ =>
    some ⟨status, U16.fromLeBytes low high, bdAddr, linkType, interval, window,
      U16.fromLeBytes a b, U16.fromLeBytes c d, airMode⟩
  | _, _ => none

/-- An event that is not read is kept as it is; one that is cut off is none. -/
def fromParameters (code : UInt8) (parameters : Bytes) : Option HciEvent :=
  if code = EventCode.leMeta then
    match parameters with
    | [] => some (.other code parameters)
    | subevent :: _ => match leSize subevent with
      | none => some (.other code parameters)
      | some size =>
        if parameters.length < size then none else some (.lowEnergy subevent parameters)
  else if code = EventCode.commandComplete then
    match parameters with
    | credits :: low :: high :: rest =>
      some (.commandComplete ⟨credits, U16.fromLeBytes low high⟩ rest)
    | _ => none
  else if code = EventCode.encryptionChange then
    (parseEncryptionChange parameters).map .encryptionChange
  else if code = EventCode.disconnectionComplete then
    (parseDisconnectionComplete parameters).map .disconnectionComplete
  else if code = EventCode.connectionRequest then
    (parseConnectionRequest parameters).map .connectionRequest
  else if code = EventCode.connectionComplete then
    (parseConnectionComplete parameters).map .connectionComplete
  else if code = EventCode.synchronousConnectionComplete then
    (parseSynchronousConnectionComplete parameters).map .synchronousConnectionComplete
  else some (.other code parameters)

def parseH4 : Bytes → Option HciEvent
  | h4Type :: code :: total :: parameters =>
    if h4Type ≠ 0x04 then none
    else fromParameters code (parameters.take (min total.toNat parameters.length))
  | _ => none

end HciEvent
end Simble.Hci
