import Simble.Sdp.Chunks

/-! The calls of the client return an answer whole that fits the responses it waits
for. -/
namespace Simble.Sdp
open ErrorCode DataElement List

/-- The call returns what is expected, and no response is longer than the MTU. -/
def Lossless {α : Type} (call : Rust (Answered α)) (expected : Except SimbleError α)
    (peerMtu : UInt16) : Prop :=
  ∃ answered, call = .ok answered ∧ answered.result = expected ∧
    ∀ response ∈ answered.responses, response.length ≤ peerMtu.toNat

/-- The whole answer fits the responses that the client waits for, and the request,
with the longest state that goes back in it, fits its length. -/
structure FitsChunks {α : Type} (room : Nat) (whole : List α) (request : Nat) : Prop where
  answer : whole.length ≤ sdpContinuationWatchdog * room
  request : request + (stateOf (left room whole)).length < 2 ^ 16

/-! ## The loop of the client -/

open SdpServer

section Pull
variable {α : Type} {query : Query α} {peerMtu : UInt16} {room : Nat}

/-- What one turn comes to: the request and the response are read back, and the
response carries the next chunk of what is left. -/
structure Turn (query : Query α) (peerMtu : UInt16) (room : Nat) (server after : SdpServer)
    (transactionId : UInt16) (state : Bytes) (rest : List α) where
  params : Bytes
  response : SdpPdu
  answer : Bytes
  asked : Written (query.request transactionId state) params
  handled : server.handlePdu (query.request transactionId state) peerMtu = .ok (after, response)
  answered : Written response answer
  short : answer.length + 5 ≤ peerMtu.toNat
  chunk : query.chunk response = some (cut room rest, stateOf (left room rest))

theorem Turn.pull {server after : SdpServer} {transactionId : UInt16} {state : Bytes}
    {rest : List α} (turn : Turn query peerMtu room server after transactionId state rest)
    (turns : Nat) (entries : List α) :
    query.pull peerMtu (turns + 1) transactionId server entries state =
      if isFinalContinuation (stateOf (left room rest)) then
        .ok ⟨.ok (entries ++ cut room rest), transactionId + 1, after,
          [wire turn.response turn.answer]⟩
      else (query.pull peerMtu turns (transactionId + 1) after (entries ++ cut room rest)
        (stateOf (left room rest))).map fun pulled =>
          { pulled with responses := wire turn.response turn.answer :: pulled.responses } := by
  rw [Query.pull, turn.asked.toBytes, Rust.ok_bind,
    handleRequest_of_written turn.asked turn.handled turn.answered]
  simp only [Rust.ok_bind, turn.answered.parse, turn.chunk]
  split
  · rfl
  · cases query.pull peerMtu turns (transactionId + 1) after (entries ++ cut room rest)
      (stateOf (left room rest)) <;> rfl

theorem not_final (rest : List α) (more : room < rest.length) :
    ¬ isFinalContinuation (stateOf (left room rest)) = true := by
  rw [left_of_lt more, stateOf]
  decide

theorem final (rest : List α) (last : rest.length ≤ room) :
    isFinalContinuation (stateOf (left room rest)) = true := by
  rw [left_of_le last]
  rfl

/-- The loop returns all that a server offers, as long as its turns suffice: every turn leaves a
server that offers the rest. -/
theorem Query.pull_offered (Offers : SdpServer → Bytes → List α → Prop)
    (turn : ∀ {server state rest}, Offers server state rest → ∀ transactionId, ∃ after,
      Nonempty (Turn query peerMtu room server after transactionId state rest) ∧
        (room < rest.length → Offers after continuationMarker (rest.drop room)))
    {turns : Nat} (positive : 0 < turns) {transactionId : UInt16} {server : SdpServer}
    {entries : List α} {state : Bytes} {rest : List α} (offers : Offers server state rest)
    (enough : rest.length ≤ turns * room) :
    ∃ pulled, query.pull peerMtu turns transactionId server entries state = .ok pulled ∧
      pulled.result = .ok (entries ++ rest) ∧
      ∀ response ∈ pulled.responses, response.length ≤ peerMtu.toNat := by
  induction turns generalizing transactionId server entries state rest with
  | zero => exact absurd positive (lt_irrefl 0)
  | succ turns ih =>
    obtain ⟨after, ⟨now⟩, next⟩ := turn offers transactionId
    have short : (wire now.response now.answer).length ≤ peerMtu.toNat :=
      (length_wire _ _).trans_le now.short
    rw [now.pull]
    rcases Nat.lt_or_ge room rest.length with more | last
    · have spread : (turns + 1) * room = turns * room + room := Nat.succ_mul turns room
      have again : 0 < turns := by
        rcases Nat.eq_zero_or_pos turns with rfl | again
        · omega
        · exact again
      have shorter : (rest.drop room).length ≤ turns * room := by
        rw [length_drop]
        omega
      obtain ⟨pulled, same, whole, bounded⟩ :=
        @ih again (transactionId + 1) after (entries ++ cut room rest) _ _ (next more) shorter
      rw [if_neg (not_final rest more), left_of_lt more, stateOf, same]
      refine ⟨_, rfl, ?_, ?_⟩
      · rw [whole, append_assoc, cut, take_append_drop]
      · intro response given
        rcases mem_cons.mp given with rfl | given
        · exact short
        · exact bounded response given
    · rw [if_pos (final rest last), cut_of_le last]
      refine ⟨_, rfl, rfl, ?_⟩
      intro response given
      rcases mem_singleton.mp given with rfl
      exact short

theorem Query.lossless_of_offered {β : Type} {decode : List α → Except SimbleError β}
    (Offers : SdpServer → Bytes → List α → Prop)
    (turn : ∀ {server state rest}, Offers server state rest → ∀ transactionId, ∃ after,
      Nonempty (Turn query peerMtu room server after transactionId state rest) ∧
        (room < rest.length → Offers after continuationMarker (rest.drop room)))
    {transactionId : UInt16} {server : SdpServer} {rest : List α} (offers : Offers server [0] rest)
    (enough : rest.length ≤ sdpContinuationWatchdog * room) :
    Lossless ((query.pull peerMtu sdpContinuationWatchdog transactionId server [] [0]).map
      (·.answered decode)) (decode rest) peerMtu := by
  obtain ⟨pulled, same, whole, bounded⟩ :=
    Query.pull_offered Offers turn (by decide) offers enough
  refine ⟨pulled.answered decode, by rw [same]; rfl, ?_, bounded⟩
  rw [Pulled.answered, whole]
  rfl

end Pull

/-! ## The three calls -/

theorem first_is_fresh : ([0] : Bytes).length ≤ 1 := Nat.le_refl 1

section Search
variable {uuids : List SdpUuid} {peerMtu : UInt16}

structure OffersHandles (uuids : List SdpUuid) (peerMtu : UInt16) (server : SdpServer)
    (state : Bytes) (rest : List UInt32) : Prop where
  offered : (state = [0] ∧ server.wholeSearch (encodeUuids uuids) 0xFFFF = rest) ∨
    (state = continuationMarker ∧ ∃ total, server.currentResponse = some (.handles total rest))
  request : (encodeUuids uuids).encodedLen + 2 + state.length < 2 ^ 16
  again : handleRoom peerMtu < rest.length → (encodeUuids uuids).encodedLen + 2 + 2 < 2 ^ 16
  room : 10 ≤ peerMtu.toNat ∧ (rest = [] ∨ 0 < handleRoom peerMtu)

theorem OffersHandles.turn {server : SdpServer} {state : Bytes} {rest : List UInt32}
    (offers : OffersHandles uuids peerMtu server state rest) (transactionId : UInt16) : ∃ after,
      Nonempty (Turn (searchServicesQuery uuids) peerMtu (handleRoom peerMtu) server after
        transactionId state rest) ∧
      (handleRoom peerMtu < rest.length →
        OffersHandles uuids peerMtu after continuationMarker (rest.drop (handleRoom peerMtu))) := by
  obtain ⟨offered, request, again, roomy, room⟩ := offers
  obtain ⟨bytes, carried, length⟩ := @carried_encodeUuids uuids (by omega)
  obtain ⟨total, gives⟩ : ∃ total, server.onServiceSearchRequest transactionId (encodeUuids uuids)
      0xFFFF state peerMtu = server.giveHandles transactionId total rest peerMtu := by
    rcases offered with ⟨rfl, rfl⟩ | ⟨rfl, total, waits⟩
    · exact ⟨_, onServiceSearchRequest_fresh first_is_fresh⟩
    · exact ⟨total, onServiceSearchRequest_pending waits⟩
  have small := peerMtu.toNat_lt
  have few : (cut (handleRoom peerMtu) rest).length ≤ handleRoom peerMtu := length_cut_le
  have ends : (stateOf (left (handleRoom peerMtu) rest)).length ≤ 2 := length_stateOf_le
  have fits : 4 + 4 * (cut (handleRoom peerMtu) rest).length +
      (stateOf (left (handleRoom peerMtu) rest)).length + 5 ≤ peerMtu.toNat := by
    rcases room with rfl | room
    · rw [left_of_le (Nat.zero_le _), cut_of_le (Nat.zero_le _)]
      exact roomy
    · unfold handleRoom at *
      omega
  have within : 4 + 4 * (cut (handleRoom peerMtu) rest).length +
      (stateOf (left (handleRoom peerMtu) rest)).length < 2 ^ 16 := by omega
  have answered := written_handles transactionId total within
  refine ⟨(server.giveHandles transactionId total rest peerMtu).1, ⟨{
    params := _, response := _, answer := _
    asked := written_search transactionId carried (by omega)
    handled := congrArg Except.ok gives
    answered := answered
    short := ?_
    chunk := rfl }⟩, ?_⟩
  · rw [length_handles]
    omega
  · intro more
    refine ⟨.inr ⟨rfl, total, ?_⟩, again more, fun _ => again more, roomy, .inr ?_⟩
    · rw [giveHandles, left_of_lt more]
      rfl
    · rcases room with rfl | room
      · exact absurd more (Nat.not_lt_zero _)
      · exact room

theorem searchServices_lossless {client : SdpClient} {server : SdpServer}
    (roomy : 10 ≤ peerMtu.toNat)
    (fits : FitsChunks (handleRoom peerMtu) (server.wholeSearch (encodeUuids uuids) 0xFFFF)
      ((encodeUuids uuids).encodedLen + 2)) :
    Lossless (client.searchServices server peerMtu uuids)
      (.ok (server.wholeSearch (encodeUuids uuids) 0xFFFF)) peerMtu := by
  have request := fits.request
  refine Query.lossless_of_offered (OffersHandles uuids peerMtu) OffersHandles.turn
    ⟨.inl ⟨rfl, rfl⟩, ?_, ?_, roomy, ?_⟩ fits.answer
  · have least := length_stateOf_pos (left (handleRoom peerMtu)
      (server.wholeSearch (encodeUuids uuids) 0xFFFF))
    rw [length_singleton]
    omega
  · intro more
    rw [left_of_lt more] at request
    exact request
  · rcases Nat.eq_zero_or_pos (handleRoom peerMtu) with none | some
    · have answer := fits.answer
      rw [none, Nat.mul_zero, Nat.le_zero, length_eq_zero_iff] at answer
      exact .inl answer
    · exact .inr some

end Search

/-! The two calls for attributes differ in what is asked and in the response's kind. -/

section Attributes

structure AsksBytes (query : Query UInt8) (response : UInt16 → Bytes → Bytes → SdpPdu)
    (Whole : SdpServer → Bytes → Prop) (request : Nat) (peerMtu : UInt16) : Prop where
  asked : ∀ transactionId state, request + state.length < 2 ^ 16 →
    ∃ params, Written (query.request transactionId state) params
  fresh : ∀ (server : SdpServer) transactionId rest, Whole server rest →
    server.handlePdu (query.request transactionId [0]) peerMtu =
      .ok (server.giveBytes (response transactionId) rest (octetRoom 0xFFFF peerMtu))
  pending : ∀ (server : SdpServer) transactionId rest, server.currentResponse = some (.bytes rest) →
    server.handlePdu (query.request transactionId continuationMarker) peerMtu =
      .ok (server.giveBytes (response transactionId) rest (octetRoom 0xFFFF peerMtu))
  answered : ∀ transactionId list state, 2 + list.length + state.length < 2 ^ 16 →
    Written (response transactionId list state) (SdpPdu.counted list state)
  chunk : ∀ transactionId list state,
    query.chunk (response transactionId list state) = some (list, state)

/-- The server is about to answer with the octets, or goes on with them. -/
structure OffersBytes (Whole : SdpServer → Bytes → Prop) (request : Nat) (peerMtu : UInt16)
    (server : SdpServer) (state rest : Bytes) : Prop where
  offered : (state = [0] ∧ Whole server rest) ∨
    (state = continuationMarker ∧ server.currentResponse = some (.bytes rest))
  carries : request + state.length < 2 ^ 16
  again : octetRoom 0xFFFF peerMtu < rest.length → request + 2 < 2 ^ 16
  room : 0 < octetRoom 0xFFFF peerMtu

variable {query : Query UInt8} {response : UInt16 → Bytes → Bytes → SdpPdu}
  {Whole : SdpServer → Bytes → Prop} {request : Nat} {peerMtu : UInt16}

theorem AsksBytes.turn (asks : AsksBytes query response Whole request peerMtu)
    {server : SdpServer} {state rest : Bytes}
    (offers : OffersBytes Whole request peerMtu server state rest) (transactionId : UInt16) :
    ∃ after, Nonempty (Turn query peerMtu (octetRoom 0xFFFF peerMtu) server after transactionId
        state rest) ∧
      (octetRoom 0xFFFF peerMtu < rest.length → OffersBytes Whole request peerMtu after
        continuationMarker (rest.drop (octetRoom 0xFFFF peerMtu))) := by
  obtain ⟨offered, fits, again, room⟩ := offers
  obtain ⟨params, written⟩ := asks.asked transactionId state fits
  have gives : server.handlePdu (query.request transactionId state) peerMtu =
      .ok (server.giveBytes (response transactionId) rest (octetRoom 0xFFFF peerMtu)) := by
    rcases offered with ⟨rfl, starts⟩ | ⟨rfl, waits⟩
    · exact asks.fresh server transactionId rest starts
    · exact asks.pending server transactionId rest waits
  have small := peerMtu.toNat_lt
  have few : (cut (octetRoom 0xFFFF peerMtu) rest).length ≤ octetRoom 0xFFFF peerMtu := length_cut_le
  have ends : (stateOf (left (octetRoom 0xFFFF peerMtu) rest)).length ≤ 2 := length_stateOf_le
  have within : octetRoom 0xFFFF peerMtu + 9 ≤ peerMtu.toNat := by
    unfold octetRoom at *
    omega
  refine ⟨(server.giveBytes (response transactionId) rest (octetRoom 0xFFFF peerMtu)).1, ⟨{
    params := params, response := _, answer := _
    asked := written
    handled := gives
    answered := asks.answered transactionId _ _ (by omega)
    short := ?_
    chunk := asks.chunk _ _ _ }⟩, ?_⟩
  · rw [SdpPdu.length_counted]
    omega
  · intro more
    refine ⟨.inr ⟨rfl, ?_⟩, again more, fun _ => again more, room⟩
    rw [giveBytes, left_of_lt more]
    rfl

theorem AsksBytes.lossless (asks : AsksBytes query response Whole request peerMtu) {β : Type}
    {decode : Bytes → Except SimbleError β} {transactionId : UInt16} {server : SdpServer}
    {bytes : Bytes} (starts : Whole server bytes) (filled : bytes ≠ [])
    (fits : FitsChunks (octetRoom 0xFFFF peerMtu) bytes request) :
    Lossless ((query.pull peerMtu sdpContinuationWatchdog transactionId server [] [0]).map
      (·.answered decode)) (decode bytes) peerMtu := by
  have carries := fits.request
  have answer := fits.answer
  refine Query.lossless_of_offered (OffersBytes Whole request peerMtu) asks.turn
    ⟨.inl ⟨rfl, starts⟩, ?_, ?_, ?_⟩ answer
  · have least := length_stateOf_pos (left (octetRoom 0xFFFF peerMtu) bytes)
    rw [length_singleton]
    omega
  · intro more
    rw [left_of_lt more] at carries
    exact carries
  · rcases Nat.eq_zero_or_pos (octetRoom 0xFFFF peerMtu) with none | some
    · rw [none, Nat.mul_zero, Nat.le_zero, length_eq_zero_iff] at answer
      exact absurd answer filled
    · exact some

theorem sequence_ne_nil {items : List DataElement} {bytes : Bytes}
    (written : (sequence items).toBytes = .ok bytes) : bytes ≠ [] := by
  rintro rfl
  have length := length_toBytes _ written
  have header : 0 < variableHeaderLen (bodyLen items) := by
    unfold variableHeaderLen
    split_ifs <;> omega
  rw [encodedLen, length_nil] at length
  omega

def SdpServer.wholeAttributes (server : SdpServer) (handle : UInt32) (ids : List AttributeIdSpec) :
    Option DataElement :=
  (server.serviceRecords.lookup handle).map fun service =>
    SdpServer.getServiceAttributes service (ids.map AttributeIdSpec.toDataElement)

variable {client : SdpClient} {server : SdpServer} {handle : UInt32} {uuids : List SdpUuid}
  {ids : List AttributeIdSpec} {bytes : Bytes}

theorem getAttributes_asks :
    AsksBytes (getAttributesQuery handle ids) .serviceAttributeResponse
      (fun server bytes => ∃ element, server.wholeAttributes handle ids = some element ∧
        element.toBytes = .ok bytes)
      (6 + (encodeAttributeIdList ids).encodedLen) peerMtu where
  asked transactionId state fits := by
    obtain ⟨bytes, carried, length⟩ := @carried_encodeAttributeIdList ids (by omega)
    exact ⟨_, written_attributeRequest transactionId carried (by omega)⟩
  fresh server transactionId rest starts := by
    obtain ⟨element, whole, written⟩ := starts
    obtain ⟨service, found, rfl⟩ := Option.map_eq_some_iff.mp whole
    show server.onServiceAttributeRequest transactionId handle 0xFFFF (encodeAttributeIdList ids) [0]
      peerMtu = _
    exact onServiceAttributeRequest_fresh first_is_fresh found written
  pending server transactionId rest waits := onServiceAttributeRequest_pending waits
  answered transactionId list state fits := written_attributes transactionId fits
  chunk _ _ _ := rfl

theorem searchAttributes_asks :
    AsksBytes (searchAttributesQuery uuids ids) .serviceSearchAttributeResponse
      (fun server bytes => (server.searchAttributes (encodeUuids uuids)
        (encodeAttributeIdList ids)).toBytes = .ok bytes)
      ((encodeUuids uuids).encodedLen + 2 + (encodeAttributeIdList ids).encodedLen) peerMtu where
  asked transactionId state fits := by
    obtain ⟨pattern, carried, length⟩ := @carried_encodeUuids uuids (by omega)
    obtain ⟨names, carriedIds, length⟩ := @carried_encodeAttributeIdList ids (by omega)
    exact ⟨_, written_searchAttributeRequest transactionId carried carriedIds (by omega)⟩
  fresh server transactionId rest starts := by
    show server.onServiceSearchAttributeRequest transactionId (encodeUuids uuids) 0xFFFF
      (encodeAttributeIdList ids) [0] peerMtu = _
    exact onServiceSearchAttributeRequest_fresh first_is_fresh starts
  pending server transactionId rest waits := onServiceSearchAttributeRequest_pending waits
  answered transactionId lists state fits := written_attributeLists transactionId fits
  chunk _ _ _ := rfl

theorem getAttributes_lossless {element : DataElement}
    (found : server.wholeAttributes handle ids = some element) (written : element.toBytes = .ok bytes)
    (fits : FitsChunks (octetRoom 0xFFFF peerMtu) bytes (6 + (encodeAttributeIdList ids).encodedLen)) :
    Lossless (client.getAttributes server peerMtu handle ids) (attributesOf bytes) peerMtu := by
  have filled : bytes ≠ [] := by
    obtain ⟨service, -, rfl⟩ := Option.map_eq_some_iff.mp found
    exact sequence_ne_nil written
  exact getAttributes_asks.lossless ⟨element, found, written⟩ filled fits

theorem searchAttributes_lossless
    (written : (server.searchAttributes (encodeUuids uuids) (encodeAttributeIdList ids)).toBytes =
      .ok bytes)
    (fits : FitsChunks (octetRoom 0xFFFF peerMtu) bytes
      ((encodeUuids uuids).encodedLen + 2 + (encodeAttributeIdList ids).encodedLen)) :
    Lossless (client.searchAttributes server peerMtu uuids ids) (attributeListsOf bytes) peerMtu :=
  searchAttributes_asks.lossless written (sequence_ne_nil written) fits

theorem getAttributes_unknown (unknown : server.wholeAttributes handle ids = none)
    (roomy : 7 ≤ peerMtu.toNat) (fits : 6 + (encodeAttributeIdList ids).encodedLen + 1 < 2 ^ 16) :
    Lossless (client.getAttributes server peerMtu handle ids)
      (.error (sdpError invalidServiceRecordHandle)) peerMtu := by
  obtain ⟨names, carried, length⟩ := @carried_encodeAttributeIdList ids (by omega)
  have asked : Written ((getAttributesQuery handle ids).request client.nextTransactionId [0]) _ :=
    written_attributeRequest client.nextTransactionId carried
      (by rw [length_singleton]; omega)
  have missing : server.serviceRecords.lookup handle = none := Option.map_eq_none_iff.mp unknown
  have handled : server.handlePdu
      ((getAttributesQuery handle ids).request client.nextTransactionId [0]) peerMtu =
        .ok ({ server with currentResponse := none }, .errorResponse client.nextTransactionId
          invalidServiceRecordHandle) := by
    show server.onServiceAttributeRequest client.nextTransactionId handle 0xFFFF
      (encodeAttributeIdList ids) [0] peerMtu = _
    exact onServiceAttributeRequest_unknown first_is_fresh missing
  have answered := written_error client.nextTransactionId invalidServiceRecordHandle
  have turn := handleRequest_of_written asked handled answered
  refine ⟨⟨.error (sdpError invalidServiceRecordHandle), ⟨client.nextTransactionId + 1⟩,
    { server with currentResponse := none }, [wire (.errorResponse client.nextTransactionId
      invalidServiceRecordHandle) (be16 invalidServiceRecordHandle)]⟩, ?_, rfl, ?_⟩
  · rw [SdpClient.getAttributes, sdpContinuationWatchdog, Query.pull, asked.toBytes, Rust.ok_bind,
      turn]
    rfl
  · intro response given
    obtain rfl := mem_singleton.mp given
    exact roomy

end Attributes

end Simble.Sdp
