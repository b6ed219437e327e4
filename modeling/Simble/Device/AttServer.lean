import Simble.Att.Pdu
import Simble.Device.VirtualDevice

/-! The ATT server of `device/att_server.rs`: one request, one response. -/
namespace Simble.Device
open Simble.Gatt Simble.Att Simble.Crypto

def serverRxMtu : UInt16 := 512

/-- What a call of `process_att_packet` answers, and the device after it. -/
abbrev Processed (curve : P256) (H S : Type) := Option Bytes × VirtualDevice curve H S

namespace VirtualDevice
variable {curve : P256} {H S : Type} (env : Env H S) (device : VirtualDevice curve H S)

def onExchangeMtuReq (connection clientRxMtu : UInt16) : Processed curve H S :=
  (some (Opcode.exchangeMtuRsp.byte :: U16.toLeBytes serverRxMtu),
    device.modifyConnection connection fun conn =>
      { conn with mtu := max (min clientRxMtu serverRxMtu) 23 })

def informationData (format : UInt8) (info : List (UInt16 × Uuid)) : Bytes :=
  (info.filter fun entry => informationItemLen format = some (2 + entry.2.len)).flatMap
    fun entry => U16.toLeBytes entry.1 ++ entry.2.toAttBytes

def onFindInformationReq (startHandle endHandle : UInt16) : Bytes :=
  match device.gattDb.findInformation startHandle endHandle with
  | [] => errorRsp Opcode.findInformationReq.byte startHandle ErrorCode.attributeNotFound
  | first :: rest =>
    let format := if first.2.len = 2 then formatUuid16 else formatUuid128
    Opcode.findInformationRsp.byte :: format :: informationData format (first :: rest)

def onReadReq (handle : UInt16) : Bytes :=
  match device.gattDb.read handle 0 with
  | .ok value => Opcode.readRsp.byte :: value
  | .error code => errorRsp Opcode.readReq.byte handle code

def onReadBlobReq (handle offset : UInt16) : Bytes :=
  match device.gattDb.read handle offset.toNat with
  | .ok value => Opcode.readBlobRsp.byte :: value
  | .error code => errorRsp Opcode.readBlobReq.byte handle code

def writeAttribute (connection handle : UInt16) (value : Bytes) :
    Except UInt8 Unit × VirtualDevice curve H S :=
  let previous := device.cccdValue handle
  let outcome := device.gattDb.write env.onWrite handle value
  let written := { device with gattDb := outcome.2 }
  match outcome.1, previous with
  | .ok (), some previous => (.ok (), written.onCccdWritten env connection handle previous)
  | result, _ => (result, written)

def onWriteReq (connection handle : UInt16) (value : Bytes) : Processed curve H S :=
  match device.writeAttribute env connection handle value with
  | (.ok (), written) => (some [Opcode.writeRsp.byte], written)
  | (.error code, written) => (some (errorRsp Opcode.writeReq.byte handle code), written)

def onPrepareWriteReq (connection handle offset : UInt16) (partValue : Bytes) :
    Processed curve H S :=
  (some (Opcode.prepareWriteRsp.byte :: (U16.toLeBytes handle ++ U16.toLeBytes offset ++ partValue)),
    device.modifyConnection connection fun conn =>
      { conn with prepareWriteQueue := conn.prepareWriteQueue ++ [⟨handle, offset, partValue⟩] })

def commit (db : GattDatabase H) (queue : List PrepareWriteChunk) : GattDatabase H :=
  queue.foldl (fun db chunk => (db.writeOffset chunk.handle chunk.offset.toNat chunk.data).2) db

def onExecuteWriteReq (connection : UInt16) (flags : UInt8) : Processed curve H S :=
  (some [Opcode.executeWriteRsp.byte],
    match device.connections.lookup connection with
    | none => device
    | some conn =>
      let taken := device.modifyConnection connection fun conn =>
        { conn with prepareWriteQueue := [] }
      if flags = 0x01 then { taken with gattDb := commit device.gattDb conn.prepareWriteQueue }
      else taken)

def sameLength (first : UInt16 × Bytes) (rest : List (UInt16 × Bytes)) : List (UInt16 × Bytes) :=
  (first :: rest).takeWhile fun entry => entry.2.length = first.2.length

def groupData (entries : List (UInt16 × Bytes)) : Rust (List (UInt16 × UInt16 × Bytes)) :=
  entries.mapM fun entry => do
    let stop ← device.gattDb.groupEndHandle entry.1
    pure (entry.1, stop, entry.2)

def typeRange (opcode : Opcode) (startHandle endHandle : UInt16) (uuidBytes : Bytes) :
    Except Bytes Uuid :=
  if startHandle = 0 ∨ startHandle > endHandle then
    .error (errorRsp opcode.byte startHandle ErrorCode.invalidHandle)
  else match Uuid.fromBytes uuidBytes with
  | none => .error (errorRsp opcode.byte startHandle ErrorCode.invalidPdu)
  | some uuid => .ok uuid

def onReadByGroupTypeReq (startHandle endHandle : UInt16) (groupTypeBytes : Bytes) : Rust Bytes :=
  match typeRange .readByGroupTypeReq startHandle endHandle groupTypeBytes with
  | .error response => .ok response
  | .ok uuid =>
    match device.gattDb.readByType startHandle endHandle uuid with
    | [] => .ok (errorRsp Opcode.readByGroupTypeReq.byte startHandle ErrorCode.attributeNotFound)
    | first :: rest => do
      let entries ← device.groupData (sameLength first rest)
      pure (Opcode.readByGroupTypeRsp.byte :: UInt8.ofNat (4 + first.2.length) ::
        entries.flatMap fun entry =>
          (U16.toLeBytes entry.1 ++ U16.toLeBytes entry.2.1) ++ entry.2.2)

def onReadByTypeReq (startHandle endHandle : UInt16) (uuidBytes : Bytes) : Bytes :=
  match typeRange .readByTypeReq startHandle endHandle uuidBytes with
  | .error response => response
  | .ok uuid =>
    match device.gattDb.readByType startHandle endHandle uuid with
    | [] => errorRsp Opcode.readByTypeReq.byte startHandle ErrorCode.attributeNotFound
    | first :: rest =>
      Opcode.readByTypeRsp.byte :: UInt8.ofNat (2 + first.2.length) ::
        (sameLength first rest).flatMap fun entry => U16.toLeBytes entry.1 ++ entry.2

/-- The match on a parsed PDU; `op` is its first octet. -/
def dispatchAtt (connection : UInt16) (op : UInt8) : AttPdu → Rust (Processed curve H S)
  | .exchangeMtuReq clientRxMtu => .ok (device.onExchangeMtuReq connection clientRxMtu)
  | .findInformationReq startHandle endHandle =>
    .ok (some (device.onFindInformationReq startHandle endHandle), device)
  | .readReq handle => .ok (some (device.onReadReq handle), device)
  | .readBlobReq handle offset => .ok (some (device.onReadBlobReq handle offset), device)
  | .writeReq handle value => .ok (device.onWriteReq env connection handle value)
  | .writeCmd handle value => .ok (none, (device.writeAttribute env connection handle value).2)
  | .prepareWriteReq handle offset partValue =>
    .ok (device.onPrepareWriteReq connection handle offset partValue)
  | .executeWriteReq flags => .ok (device.onExecuteWriteReq connection flags)
  | .handleValueCfm =>
    .ok (none, device.modifyConnection connection fun conn =>
      { conn with pendingIndication := false })
  | .readByGroupTypeReq startHandle endHandle groupTypeBytes => do
    let response ← device.onReadByGroupTypeReq startHandle endHandle groupTypeBytes
    pure (some response, device)
  | .readByTypeReq startHandle endHandle uuidBytes =>
    .ok (some (device.onReadByTypeReq startHandle endHandle uuidBytes), device)
  | _ => .ok (some (errorRsp op 0x0000 ErrorCode.requestNotSupported), device)

def processAttPacket (connection : UInt16) (pdu : Bytes) : Rust (Processed curve H S) :=
  match AttPdu.parse pdu with
  | none => .ok (some (errorRsp (pdu.head?.getD 0) 0x0000 ErrorCode.invalidPdu), device)
  | some parsed => device.dispatchAtt env connection (pdu.head?.getD 0) parsed

end VirtualDevice
end Simble.Device
