import Simble.Sdp.Server

/-! The SDP client (`SdpClient` of `classic/sdp.rs`): it asks until an answer is
whole. -/
namespace Simble.Sdp

def sdpContinuationWatchdog : Nat := 64

inductive AttributeIdSpec where
  | single (id : UInt16)
  | range (start stop : UInt16)

def AttributeIdSpec.toDataElement : AttributeIdSpec → DataElement
  | single id => .unsignedInteger id.toUInt64 2
  | range start stop => .unsignedInteger ((start.toUInt32 <<< 16) ||| stop.toUInt32).toUInt64 4

def encodeAttributeIdList (ids : List AttributeIdSpec) : DataElement :=
  .sequence (ids.map AttributeIdSpec.toDataElement)

def encodeUuids (uuids : List SdpUuid) : DataElement := .sequence (uuids.map .uuid)

def listFromDataElements : List DataElement → List ServiceAttribute
  | id :: value :: rest =>
    match id.asUnsignedInteger with
    | some (id, _) => ⟨id.toUInt16, value⟩ :: listFromDataElements rest
    | none => listFromDataElements rest
  | _ => []

def isFinalContinuation (state : Bytes) : Bool := state = [0]

def malformedElement : SimbleError := .packetParseError "SDP: malformed response"

def unexpectedResponse : SimbleError := .packetParseError "SDP: unexpected response PDU type"

def watchdogExceeded : SimbleError := .deviceError "SDP: continuation watchdog exceeded"

def sdpError (errorCode : UInt16) : SimbleError :=
  .deviceError s!"SDP: peer returned error {hexWord errorCode}"

/-- What a client has when it stops asking: the entries or an error, its next
transaction, the server, and the responses it was given. -/
structure Pulled (α : Type) where
  result : Except SimbleError (List α)
  nextTransactionId : UInt16
  server : SdpServer
  responses : List Bytes

structure Query (α : Type) where
  request : UInt16 → Bytes → SdpPdu
  chunk : SdpPdu → Option (List α × Bytes)

/-- The loop that the three calls of a client share, with the requests that are
left. -/
def Query.pull {α : Type} (query : Query α) (peerMtu : UInt16) :
    (turns : Nat) → UInt16 → SdpServer → List α → Bytes → Rust (Pulled α)
  | 0, transactionId, server, _, _ => .ok ⟨.error watchdogExceeded, transactionId, server, []⟩
  | turns + 1, transactionId, server, entries, state => do
    let request ← (query.request transactionId state).toBytes
    let (server, response) ← server.handleRequest request peerMtu
    let transactionId := transactionId + 1
    match SdpPdu.parse response with
    | none => return ⟨.error malformedElement, transactionId, server, [response]⟩
    | some pdu =>
      match query.chunk pdu with
      | some (chunk, next) =>
        if isFinalContinuation next then
          return ⟨.ok (entries ++ chunk), transactionId, server, [response]⟩
        else
          let rest ← query.pull peerMtu turns transactionId server (entries ++ chunk) next
          return { rest with responses := response :: rest.responses }
      | none =>
        let error := match pdu with
          | .errorResponse _ errorCode => sdpError errorCode
          | _ => unexpectedResponse
        return ⟨.error error, transactionId, server, [response]⟩

def searchServicesQuery (uuids : List SdpUuid) : Query UInt32 where
  request transactionId state :=
    .serviceSearchRequest transactionId (encodeUuids uuids) 0xFFFF state
  chunk
    | .serviceSearchResponse _ _ handles state => some (handles, state)
    | _ => none

def getAttributesQuery (handle : UInt32) (ids : List AttributeIdSpec) : Query UInt8 where
  request transactionId state :=
    .serviceAttributeRequest transactionId handle 0xFFFF (encodeAttributeIdList ids) state
  chunk
    | .serviceAttributeResponse _ list state => some (list, state)
    | _ => none

def searchAttributesQuery (uuids : List SdpUuid) (ids : List AttributeIdSpec) : Query UInt8 where
  request transactionId state :=
    .serviceSearchAttributeRequest transactionId (encodeUuids uuids) 0xFFFF
      (encodeAttributeIdList ids) state
  chunk
    | .serviceSearchAttributeResponse _ lists state => some (lists, state)
    | _ => none

def sequenceItems (bytes : Bytes) : Except SimbleError (List DataElement) :=
  match DataElement.fromBytes bytes with
  | none => .error malformedElement
  | some element =>
    match element.asSequence with
    | none => .error unexpectedResponse
    | some items => .ok items

def attributesOf (bytes : Bytes) : Except SimbleError (List ServiceAttribute) :=
  (sequenceItems bytes).map listFromDataElements

def attributeListsOf (bytes : Bytes) : Except SimbleError (List (List ServiceAttribute)) :=
  (sequenceItems bytes).map fun items =>
    (items.filterMap DataElement.asSequence).map listFromDataElements

structure SdpClient where
  nextTransactionId : UInt16

structure Answered (α : Type) where
  result : Except SimbleError α
  client : SdpClient
  server : SdpServer
  responses : List Bytes

/-- The call with what it makes of the entries. -/
def Pulled.answered {α β : Type} (pulled : Pulled α) (decode : List α → Except SimbleError β) :
    Answered β :=
  ⟨pulled.result.bind decode, ⟨pulled.nextTransactionId⟩, pulled.server, pulled.responses⟩

namespace SdpClient
variable (client : SdpClient) (server : SdpServer) (peerMtu : UInt16)

def searchServices (uuids : List SdpUuid) : Rust (Answered (List UInt32)) :=
  ((searchServicesQuery uuids).pull peerMtu sdpContinuationWatchdog client.nextTransactionId server
    [] [0]).map (·.answered .ok)

def getAttributes (handle : UInt32) (ids : List AttributeIdSpec) :
    Rust (Answered (List ServiceAttribute)) :=
  ((getAttributesQuery handle ids).pull peerMtu sdpContinuationWatchdog client.nextTransactionId
    server [] [0]).map (·.answered attributesOf)

def searchAttributes (uuids : List SdpUuid) (ids : List AttributeIdSpec) :
    Rust (Answered (List (List ServiceAttribute))) :=
  ((searchAttributesQuery uuids ids).pull peerMtu sdpContinuationWatchdog client.nextTransactionId
    server [] [0]).map (·.answered attributeListsOf)

end SdpClient

end Simble.Sdp
