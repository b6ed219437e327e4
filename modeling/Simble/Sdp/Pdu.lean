import Simble.Sdp.DataElement

/-! The PDUs of SDP (`classic/sdp.rs`): requests, responses, and how they are
written and parsed. -/
namespace Simble.Sdp
open Simble.Lib

namespace PduId

def errorResponse : UInt8 := 0x01
def serviceSearchRequest : UInt8 := 0x02
def serviceSearchResponse : UInt8 := 0x03
def serviceAttributeRequest : UInt8 := 0x04
def serviceAttributeResponse : UInt8 := 0x05
def serviceSearchAttributeRequest : UInt8 := 0x06
def serviceSearchAttributeResponse : UInt8 := 0x07

end PduId

namespace ErrorCode

def invalidServiceRecordHandle : UInt16 := 0x0002
def invalidRequestSyntax : UInt16 := 0x0003
def invalidContinuationState : UInt16 := 0x0005

end ErrorCode

namespace DataElement

def asSequence : DataElement → Option (List DataElement)
  | sequence items => some items
  | _ => none

def asUuid : DataElement → Option SdpUuid
  | .uuid value => some value
  | _ => none

def asUnsignedInteger : DataElement → Option (UInt64 × UInt8)
  | unsignedInteger value size => some (value, size)
  | _ => none

end DataElement

inductive SdpPdu where
  | errorResponse (transactionId errorCode : UInt16)
  | serviceSearchRequest (transactionId : UInt16) (serviceSearchPattern : DataElement)
      (maximumServiceRecordCount : UInt16) (continuationState : Bytes)
  | serviceSearchResponse (transactionId totalServiceRecordCount : UInt16)
      (serviceRecordHandleList : List UInt32) (continuationState : Bytes)
  | serviceAttributeRequest (transactionId : UInt16) (serviceRecordHandle : UInt32)
      (maximumAttributeByteCount : UInt16) (attributeIdList : DataElement)
      (continuationState : Bytes)
  | serviceAttributeResponse (transactionId : UInt16) (attributeList continuationState : Bytes)
  | serviceSearchAttributeRequest (transactionId : UInt16) (serviceSearchPattern : DataElement)
      (maximumAttributeByteCount : UInt16) (attributeIdList : DataElement)
      (continuationState : Bytes)
  | serviceSearchAttributeResponse (transactionId : UInt16)
      (attributeLists continuationState : Bytes)

/-- `to_be_bytes` -/
def be16 (value : UInt16) : Bytes := toBe 2 value.toNat

def be32 (value : UInt32) : Bytes := toBe 4 value.toNat

/-- `params.get(offset..offset + 2)` as a number. -/
def getU16 (params : Bytes) (offset : Nat) : Option UInt16 :=
  (getRange params offset (offset + 2)).map fun bytes => UInt16.ofNat (ofBe bytes)

def getU32 (params : Bytes) (offset : Nat) : Option UInt32 :=
  (getRange params offset (offset + 4)).map fun bytes => UInt32.ofNat (ofBe bytes)

/-- `params.get(offset..)` -/
def getFrom (params : Bytes) (offset : Nat) : Option Bytes :=
  getRange params offset (max offset params.length)

def getHandles (params : Bytes) : (count offset : Nat) → Option (List UInt32)
  | 0, _ => some []
  | count + 1, offset => do
    let handle ← getU32 params offset
    let rest ← getHandles params count (offset + 4)
    return handle :: rest

namespace SdpPdu

def pduId : SdpPdu → UInt8
  | errorResponse .. => PduId.errorResponse
  | serviceSearchRequest .. => PduId.serviceSearchRequest
  | serviceSearchResponse .. => PduId.serviceSearchResponse
  | serviceAttributeRequest .. => PduId.serviceAttributeRequest
  | serviceAttributeResponse .. => PduId.serviceAttributeResponse
  | serviceSearchAttributeRequest .. => PduId.serviceSearchAttributeRequest
  | serviceSearchAttributeResponse .. => PduId.serviceSearchAttributeResponse

def transactionId : SdpPdu → UInt16
  | errorResponse transactionId _ | serviceSearchRequest transactionId ..
  | serviceSearchResponse transactionId .. | serviceAttributeRequest transactionId ..
  | serviceAttributeResponse transactionId .. | serviceSearchAttributeRequest transactionId ..
  | serviceSearchAttributeResponse transactionId .. => transactionId

/-- A list of octets behind its length, which is sixteen bits wide. -/
def counted (bytes continuationState : Bytes) : Bytes :=
  toBe 2 bytes.length ++ bytes ++ continuationState

def parameters : SdpPdu → Rust Bytes
  | errorResponse _ errorCode => .ok (be16 errorCode)
  | serviceSearchRequest _ pattern maximum state => do
    let pattern ← pattern.toBytes
    return pattern ++ be16 maximum ++ state
  | serviceSearchResponse _ total handles state =>
    .ok (be16 total ++ toBe 2 handles.length ++ handles.flatMap be32 ++ state)
  | serviceAttributeRequest _ handle maximum ids state => do
    let ids ← ids.toBytes
    return be32 handle ++ be16 maximum ++ ids ++ state
  | serviceAttributeResponse _ list state => .ok (counted list state)
  | serviceSearchAttributeRequest _ pattern maximum ids state => do
    let pattern ← pattern.toBytes
    let ids ← ids.toBytes
    return pattern ++ be16 maximum ++ ids ++ state
  | serviceSearchAttributeResponse _ lists state => .ok (counted lists state)

/-- A length of the parameters above sixteen bits loses its high part. -/
def toBytes (pdu : SdpPdu) : Rust Bytes := do
  let params ← pdu.parameters
  return pdu.pduId :: be16 pdu.transactionId ++ toBe 2 params.length ++ params

def parseCounted (params : Bytes) : Option (Bytes × Bytes) := do
  let length ← getU16 params 0
  let bytes ← getRange params 2 (2 + length.toNat)
  let state ← getFrom params (2 + length.toNat)
  return (bytes, state)

def parseParameters (id : UInt8) (transactionId : UInt16) (params : Bytes) : Option SdpPdu :=
  if id = PduId.errorResponse then
    (getU16 params 0).map (errorResponse transactionId)
  else if id = PduId.serviceSearchRequest then do
    let (pattern, offset) ← DataElement.parse params
    let maximum ← getU16 params offset
    let state ← getFrom params (offset + 2)
    return serviceSearchRequest transactionId pattern maximum state
  else if id = PduId.serviceSearchResponse then do
    let total ← getU16 params 0
    let count ← getU16 params 2
    let handles ← getHandles params count.toNat 4
    let state ← getFrom params (4 + 4 * count.toNat)
    return serviceSearchResponse transactionId total handles state
  else if id = PduId.serviceAttributeRequest then do
    let handle ← getU32 params 0
    let maximum ← getU16 params 4
    let behind ← getFrom params 6
    let (ids, length) ← DataElement.parse behind
    let state ← getFrom params (6 + length)
    return serviceAttributeRequest transactionId handle maximum ids state
  else if id = PduId.serviceAttributeResponse then do
    let (list, state) ← parseCounted params
    return serviceAttributeResponse transactionId list state
  else if id = PduId.serviceSearchAttributeRequest then do
    let (pattern, offset) ← DataElement.parse params
    let maximum ← getU16 params offset
    let behind ← getFrom params (offset + 2)
    let (ids, length) ← DataElement.parse behind
    let state ← getFrom params (offset + 2 + length)
    return serviceSearchAttributeRequest transactionId pattern maximum ids state
  else if id = PduId.serviceSearchAttributeResponse then do
    let (lists, state) ← parseCounted params
    return serviceSearchAttributeResponse transactionId lists state
  else none

def parse : Bytes → Option SdpPdu
  | id :: tid1 :: tid2 :: high :: low :: rest => do
    let params ← getRange rest 0 (ofBe [high, low])
    parseParameters id (UInt16.ofNat (ofBe [tid1, tid2])) params
  | _ => none

end SdpPdu

end Simble.Sdp
