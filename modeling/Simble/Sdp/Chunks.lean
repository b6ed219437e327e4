import Simble.Sdp.Wire

/-! How the server cuts an answer: every response carries as much of what is left
as the peer's MTU allows, and the rest waits for a continuation. -/
namespace Simble.Sdp

/-! ## Requests of the client -/

namespace DataElement

theorem deepest_uuids (uuids : List SdpUuid) : deepest (uuids.map .uuid) = 0 := by
  induction uuids with
  | nil => rfl
  | cons uuid uuids ih => rw [List.map_cons, deepest, nesting, ih, Nat.max_self]

theorem allFit_uuids (uuids : List SdpUuid) : AllFit (uuids.map .uuid) := by
  induction uuids with
  | nil => trivial
  | cons uuid uuids ih => exact ⟨trivial, ih⟩

theorem nesting_toDataElement (id : AttributeIdSpec) : id.toDataElement.nesting = 0 := by
  cases id <;> rfl

theorem deepest_ids (ids : List AttributeIdSpec) :
    deepest (ids.map AttributeIdSpec.toDataElement) = 0 := by
  induction ids with
  | nil => rfl
  | cons id ids ih => rw [List.map_cons, deepest, nesting_toDataElement, ih, Nat.max_self]

theorem fits_toDataElement : ∀ id : AttributeIdSpec, id.toDataElement.Fits
  | .single id => ⟨.inr (.inl rfl), by
      have small := id.toNat_lt
      rw [UInt16.toNat_toUInt64]
      exact small⟩
  | .range start stop => ⟨.inr (.inr (.inl rfl)), by
      have small := ((start.toUInt32 <<< 16) ||| stop.toUInt32).toNat_lt
      rw [UInt32.toNat_toUInt64]
      exact small⟩

theorem allFit_ids (ids : List AttributeIdSpec) :
    AllFit (ids.map AttributeIdSpec.toDataElement) := by
  induction ids with
  | nil => trivial
  | cons id ids ih => exact ⟨fits_toDataElement id, ih⟩

end DataElement

open DataElement

theorem carried_sequence {items : List DataElement} (fit : DataElement.AllFit items)
    (flat : deepest items = 0)
    (short : (sequence items).encodedLen < 2 ^ 16) :
    ∃ bytes, Carried (.sequence items) bytes ∧
      bytes.length = (sequence items).encodedLen := by
  have body : bodyLen items < 2 ^ 32 := by
    rw [encodedLen] at short
    omega
  have shallow : (sequence items).nesting ≤ maxDataElementNesting := by
    rw [nesting, flat]
    decide
  obtain ⟨bytes, carried⟩ := @carried_of_fits (.sequence items) ⟨fit, body⟩ shallow
  exact ⟨bytes, carried, length_toBytes _ carried.written⟩

theorem carried_encodeUuids {uuids : List SdpUuid} (short : (encodeUuids uuids).encodedLen < 2 ^ 16) :
    ∃ bytes, Carried (encodeUuids uuids) bytes ∧ bytes.length = (encodeUuids uuids).encodedLen :=
  carried_sequence (allFit_uuids uuids) (deepest_uuids uuids) short

theorem carried_encodeAttributeIdList {ids : List AttributeIdSpec}
    (short : (encodeAttributeIdList ids).encodedLen < 2 ^ 16) :
    ∃ bytes, Carried (encodeAttributeIdList ids) bytes ∧
      bytes.length = (encodeAttributeIdList ids).encodedLen :=
  carried_sequence (allFit_ids ids) (deepest_ids ids) short

/-! ## One response -/

section Cut
variable {α : Type} (room : Nat) (rest : List α)

/-- What a response carries of the answer that is left. -/
def cut : List α := rest.take room

/-- What waits for a continuation; an answer does not wait when nothing is left. -/
def left : Option (List α) := if room < rest.length then some (rest.drop room) else none

def stateOf : Option (List α) → Bytes
  | some _ => continuationMarker
  | none => [0]

variable {room rest}

theorem left_of_lt (more : room < rest.length) : left room rest = some (rest.drop room) := if_pos more

theorem left_of_le (last : rest.length ≤ room) : left room rest = none := if_neg (by omega)

theorem cut_of_le (last : rest.length ≤ room) : cut room rest = rest := List.take_of_length_le last

theorem length_cut_le : (cut room rest).length ≤ room := List.length_take_le ..

theorem length_stateOf_le : (stateOf (left room rest)).length ≤ 2 := by
  cases left room rest with
  | none => exact Nat.le_succ 1
  | some _ => exact Nat.le_refl 2

theorem length_stateOf_pos (waits : Option (List α)) : 1 ≤ (stateOf waits).length := by
  cases waits with
  | none => exact Nat.le_refl 1
  | some _ => exact Nat.le_succ 1

end Cut

/-- The handles that fit a response. -/
def handleRoom (peerMtu : UInt16) : Nat := (peerMtu.toNat - 11) / 4

/-- The octets that fit a response. -/
def octetRoom (maximum peerMtu : UInt16) : Nat := min maximum.toNat (peerMtu.toNat - 9)

namespace SdpServer
variable (server : SdpServer)

def giveHandles (transactionId total : UInt16) (rest : List UInt32) (peerMtu : UInt16) :
    SdpServer × SdpPdu :=
  ({ server with currentResponse := (left (handleRoom peerMtu) rest).map (.handles total) },
    .serviceSearchResponse transactionId total (cut (handleRoom peerMtu) rest)
      (stateOf (left (handleRoom peerMtu) rest)))

def giveBytes (response : Bytes → Bytes → SdpPdu) (rest : Bytes) (room : Nat) :
    SdpServer × SdpPdu :=
  ({ server with currentResponse := (left room rest).map .bytes },
    response (cut room rest) (stateOf (left room rest)))

def wholeSearch (pattern : DataElement) (maximum : UInt16) : List UInt32 :=
  ((server.matchServices pattern).insertionSort (· ≤ ·)).take maximum.toNat

variable {server} {transactionId maximum peerMtu : UInt16} {pattern ids : DataElement}
  {state : Bytes}

theorem checkContinuation_fresh (fresh : state.length ≤ 1) :
    server.checkContinuation state = some ({ server with currentResponse := none }, false) := by
  rw [checkContinuation, if_neg (by omega)]

theorem checkContinuation_pending {pending : PendingResponse}
    (waits : server.currentResponse = some pending) :
    server.checkContinuation continuationMarker = some (server, true) := by
  rw [checkContinuation, if_pos (by decide), if_neg]
  rw [waits]
  simp

theorem nextResponsePayload_bytes {rest : Bytes} (waits : server.currentResponse = some (.bytes rest))
    (room : Nat) (response : Bytes → Bytes → SdpPdu) :
    (match server.nextResponsePayload room with
      | (server, list, state) => (server, response list state)) =
        server.giveBytes response rest room := by
  unfold nextResponsePayload giveBytes
  rw [waits]
  rcases Nat.lt_or_ge room rest.length with more | last
  · simp only [if_pos more, left_of_lt more]
    rfl
  · simp only [if_neg (Nat.not_lt.mpr last), left_of_le last, cut_of_le last]
    rfl

theorem search_gives {server : SdpServer} (total : UInt16) (rest : List UInt32) :
    (if handleRoom peerMtu < rest.length then
      ({ server with currentResponse := some (.handles total (rest.drop (handleRoom peerMtu))) },
        SdpPdu.serviceSearchResponse transactionId total (rest.take (handleRoom peerMtu))
          continuationMarker)
    else ({ server with currentResponse := none },
      .serviceSearchResponse transactionId total rest [0])) =
      server.giveHandles transactionId total rest peerMtu := by
  unfold giveHandles
  rcases Nat.lt_or_ge (handleRoom peerMtu) rest.length with more | last
  · rw [if_pos more, left_of_lt more]
    rfl
  · rw [if_neg (Nat.not_lt.mpr last), left_of_le last, cut_of_le last]
    rfl

theorem onServiceSearchRequest_fresh (fresh : state.length ≤ 1) :
    server.onServiceSearchRequest transactionId pattern maximum state peerMtu =
      server.giveHandles transactionId (UInt16.ofNat (server.matchServices pattern).length)
        (server.wholeSearch pattern maximum) peerMtu := by
  have total : ((server.matchServices pattern).insertionSort (· ≤ ·)).length =
    (server.matchServices pattern).length := List.length_insertionSort ..
  rw [onServiceSearchRequest, checkContinuation_fresh fresh, ← total]
  exact @search_gives _ _ { server with currentResponse := none } _ _

theorem onServiceSearchRequest_pending {total : UInt16} {rest : List UInt32}
    (waits : server.currentResponse = some (.handles total rest)) :
    server.onServiceSearchRequest transactionId pattern maximum continuationMarker peerMtu =
      server.giveHandles transactionId total rest peerMtu := by
  rw [onServiceSearchRequest, checkContinuation_pending waits]
  simp only [if_true, waits]
  exact search_gives _ _

theorem onServiceAttributeRequest_fresh (fresh : state.length ≤ 1) {handle : UInt32}
    {service : Service} (found : server.serviceRecords.lookup handle = some service) {bytes : Bytes}
    (whole : (getServiceAttributes service (ids.asSequence.getD [])).toBytes = .ok bytes) :
    server.onServiceAttributeRequest transactionId handle maximum ids state peerMtu =
      .ok (server.giveBytes (.serviceAttributeResponse transactionId) bytes
        (octetRoom maximum peerMtu)) := by
  rw [onServiceAttributeRequest, checkContinuation_fresh fresh]
  simp only [Bool.false_eq_true, if_false, found, whole, Rust.ok_bind]
  exact congrArg Except.ok (@nextResponsePayload_bytes
    { server with currentResponse := some (.bytes bytes) } bytes rfl _ _)

theorem onServiceAttributeRequest_unknown (fresh : state.length ≤ 1) {handle : UInt32}
    (unknown : server.serviceRecords.lookup handle = none) :
    server.onServiceAttributeRequest transactionId handle maximum ids state peerMtu =
      .ok ({ server with currentResponse := none },
        .errorResponse transactionId ErrorCode.invalidServiceRecordHandle) := by
  rw [onServiceAttributeRequest, checkContinuation_fresh fresh]
  simp only [Bool.false_eq_true, if_false, unknown]

theorem onServiceAttributeRequest_pending {handle : UInt32} {rest : Bytes}
    (waits : server.currentResponse = some (.bytes rest)) :
    server.onServiceAttributeRequest transactionId handle maximum ids continuationMarker peerMtu =
      .ok (server.giveBytes (.serviceAttributeResponse transactionId) rest
        (octetRoom maximum peerMtu)) := by
  rw [onServiceAttributeRequest, checkContinuation_pending waits]
  exact congrArg Except.ok (nextResponsePayload_bytes waits _ _)

theorem onServiceSearchAttributeRequest_fresh (fresh : state.length ≤ 1) {bytes : Bytes}
    (whole : (server.searchAttributes pattern ids).toBytes = .ok bytes) :
    server.onServiceSearchAttributeRequest transactionId pattern maximum ids state peerMtu =
      .ok (server.giveBytes (.serviceSearchAttributeResponse transactionId) bytes
        (octetRoom maximum peerMtu)) := by
  have same : SdpServer.searchAttributes { server with currentResponse := none } pattern ids =
    server.searchAttributes pattern ids := rfl
  rw [onServiceSearchAttributeRequest, checkContinuation_fresh fresh]
  simp only [Bool.false_eq_true, if_false, same, whole, Rust.ok_bind]
  exact congrArg Except.ok (@nextResponsePayload_bytes
    { server with currentResponse := some (.bytes bytes) } bytes rfl _ _)

theorem onServiceSearchAttributeRequest_pending {rest : Bytes}
    (waits : server.currentResponse = some (.bytes rest)) :
    server.onServiceSearchAttributeRequest transactionId pattern maximum ids continuationMarker
        peerMtu =
      .ok (server.giveBytes (.serviceSearchAttributeResponse transactionId) rest
        (octetRoom maximum peerMtu)) := by
  rw [onServiceSearchAttributeRequest, checkContinuation_pending waits]
  exact congrArg Except.ok (nextResponsePayload_bytes waits _ _)

theorem handleRequest_of_written {request response : SdpPdu} {params answer : Bytes}
    {after : SdpServer} (asked : Written request params)
    (handled : server.handlePdu request peerMtu = .ok (after, response))
    (answered : Written response answer) :
    server.handleRequest (wire request params) peerMtu = .ok (after, wire response answer) := by
  rw [handleRequest, respond, asked.parse]
  simp only [handled, Rust.ok_bind, answered.toBytes]
  rfl

end SdpServer

end Simble.Sdp
