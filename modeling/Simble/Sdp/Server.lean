import Mathlib.Data.List.Sort
import Simble.Sdp.Pdu

/-! The SDP server (`SdpServer` of `classic/sdp.rs`): it finds records, and answers
in as many pieces as the peer's MTU asks for. -/
namespace Simble.Sdp

structure ServiceAttribute where
  id : UInt16
  value : DataElement

abbrev Service := List ServiceAttribute

namespace DataElement

mutual

/-- `is_uuid_in_value` -/
def hasUuid (uuid : SdpUuid) : DataElement → Bool
  | .uuid value => value = uuid
  | sequence items => anyHasUuid uuid items
  | _ => false

def anyHasUuid (uuid : SdpUuid) : List DataElement → Bool
  | [] => false
  | item :: rest => hasUuid uuid item || anyHasUuid uuid rest

end

end DataElement

inductive PendingResponse where
  | handles (total : UInt16) (rest : List UInt32)
  | bytes (rest : Bytes)

structure SdpServer where
  /-- In the order in which they are iterated. -/
  serviceRecords : List (UInt32 × Service)
  currentResponse : Option PendingResponse

def continuationMarker : Bytes := [0x01, 0x00]

namespace SdpServer
variable (server : SdpServer)

/-- The server and whether the request goes on with an answer, unless its state is
not the one it was given. -/
def checkContinuation (state : Bytes) : Option (SdpServer × Bool) :=
  if 1 < state.length then
    if server.currentResponse.isNone ∨ state ≠ continuationMarker then none
    else some (server, true)
  else some ({ server with currentResponse := none }, false)

def matchServices (pattern : DataElement) : List UInt32 :=
  let uuids := (pattern.asSequence.getD []).filterMap DataElement.asUuid
  (server.serviceRecords.filter fun record =>
    uuids.any fun uuid => record.2.any fun entry => entry.value.hasUuid uuid).map Prod.fst

def idRange (element : DataElement) : Option (UInt16 × UInt16) :=
  element.asUnsignedInteger.map fun (value, size) =>
    if size = 4 then ((value >>> 16).toUInt16, (value &&& 0xFFFF).toUInt16)
    else (value.toUInt16, value.toUInt16)

def getServiceAttributes (service : Service) (ids : List DataElement) : DataElement :=
  let named := (ids.filterMap idRange).flatMap fun (start, stop) =>
    service.filter fun entry => start ≤ entry.id ∧ entry.id ≤ stop
  let sorted := named.insertionSort fun a b => a.id ≤ b.id
  .sequence (sorted.flatMap fun entry =>
    [.unsignedInteger entry.id.toUInt64 2, entry.value])

def isEmptySequence : DataElement → Bool
  | .sequence items => items.isEmpty
  | _ => false

/-- What `on_service_search_attribute_request` collects. -/
def searchAttributes (pattern ids : DataElement) : DataElement :=
  let lists := (server.matchServices pattern).filterMap fun handle =>
    (server.serviceRecords.lookup handle).map fun service =>
      getServiceAttributes service (ids.asSequence.getD [])
  .sequence (lists.filter fun list => ¬ isEmptySequence list)

def nextResponsePayload (maxSize : Nat) : SdpServer × Bytes × Bytes :=
  let current := match server.currentResponse with
    | some (.bytes bytes) => bytes
    | _ => []
  if maxSize < current.length then
    ({ server with currentResponse := some (.bytes (current.drop maxSize)) },
      current.take maxSize, continuationMarker)
  else ({ server with currentResponse := none }, current, [0])

def onServiceSearchRequest (transactionId : UInt16) (pattern : DataElement) (maximum : UInt16)
    (state : Bytes) (peerMtu : UInt16) : SdpServer × SdpPdu :=
  match server.checkContinuation state with
  | none => (server, .errorResponse transactionId ErrorCode.invalidContinuationState)
  | some (server, continuation) =>
    let current :=
      if continuation then server.currentResponse
      else
        let handles := (server.matchServices pattern).insertionSort (· ≤ ·)
        some (.handles (UInt16.ofNat handles.length) (handles.take maximum.toNat))
    let (total, handles) := match current with
      | some (.handles total handles) => (total, handles)
      | _ => (0, [])
    let maxHandles := (peerMtu.toNat - 11) / 4
    if maxHandles < handles.length then
      ({ server with currentResponse := some (.handles total (handles.drop maxHandles)) },
        .serviceSearchResponse transactionId total (handles.take maxHandles) continuationMarker)
    else ({ server with currentResponse := none },
      .serviceSearchResponse transactionId total handles [0])

def onServiceAttributeRequest (transactionId : UInt16) (handle : UInt32) (maximum : UInt16)
    (ids : DataElement) (state : Bytes) (peerMtu : UInt16) : Rust (SdpServer × SdpPdu) :=
  match server.checkContinuation state with
  | none => .ok (server, .errorResponse transactionId ErrorCode.invalidContinuationState)
  | some (server, continuation) =>
    let maxBytes := min maximum.toNat (peerMtu.toNat - 9)
    let answer (server : SdpServer) :=
      let (server, list, state) := server.nextResponsePayload maxBytes
      (server, SdpPdu.serviceAttributeResponse transactionId list state)
    if continuation then .ok (answer server)
    else
      match server.serviceRecords.lookup handle with
      | none => .ok (server, .errorResponse transactionId ErrorCode.invalidServiceRecordHandle)
      | some service => do
        let bytes ← (getServiceAttributes service (ids.asSequence.getD [])).toBytes
        return answer { server with currentResponse := some (.bytes bytes) }

def onServiceSearchAttributeRequest (transactionId : UInt16) (pattern : DataElement)
    (maximum : UInt16) (ids : DataElement) (state : Bytes) (peerMtu : UInt16) :
    Rust (SdpServer × SdpPdu) :=
  match server.checkContinuation state with
  | none => .ok (server, .errorResponse transactionId ErrorCode.invalidContinuationState)
  | some (server, continuation) =>
    let maxBytes := min maximum.toNat (peerMtu.toNat - 9)
    let answer (server : SdpServer) :=
      let (server, lists, state) := server.nextResponsePayload maxBytes
      (server, SdpPdu.serviceSearchAttributeResponse transactionId lists state)
    if continuation then .ok (answer server)
    else do
      let bytes ← (server.searchAttributes pattern ids).toBytes
      return answer { server with currentResponse := some (.bytes bytes) }

def handlePdu (pdu : SdpPdu) (peerMtu : UInt16) : Rust (SdpServer × SdpPdu) :=
  match pdu with
  | .serviceSearchRequest transactionId pattern maximum state =>
    .ok (server.onServiceSearchRequest transactionId pattern maximum state peerMtu)
  | .serviceAttributeRequest transactionId handle maximum ids state =>
    server.onServiceAttributeRequest transactionId handle maximum ids state peerMtu
  | .serviceSearchAttributeRequest transactionId pattern maximum ids state =>
    server.onServiceSearchAttributeRequest transactionId pattern maximum ids state peerMtu
  | other => .ok (server, .errorResponse other.transactionId ErrorCode.invalidRequestSyntax)

/-- The response of `handle_request`, before it is written. -/
def respond (request : Bytes) (peerMtu : UInt16) : Rust (SdpServer × SdpPdu) :=
  match SdpPdu.parse request with
  | none => .ok (server, .errorResponse 0 ErrorCode.invalidRequestSyntax)
  | some pdu => server.handlePdu pdu peerMtu

def handleRequest (request : Bytes) (peerMtu : UInt16) : Rust (SdpServer × Bytes) := do
  let (server, response) ← server.respond request peerMtu
  let bytes ← response.toBytes
  return (server, bytes)

end SdpServer

end Simble.Sdp
