import Simble.Sdp.Client
import Simble.Sdp.RoundTrip

/-! SDP requests and responses whose parameters fit their length are read back as
they were written. -/
namespace Simble.Sdp
open Simble.Lib SdpPdu List

/-! ## Parts of the parameters -/

section Parts
variable (front back : Bytes)

theorem getU16_at (value : UInt16) :
    getU16 (front ++ (be16 value ++ back)) front.length = some value := by
  have small := value.toNat_lt
  have read := getRange_at front back (be16 value)
  rw [be16, length_toBe] at read
  rw [getU16, be16, read, Option.map_some, ofBe_toBe_of_lt (by omega), UInt16.ofNat_toNat]

theorem getU32_at (value : UInt32) :
    getU32 (front ++ (be32 value ++ back)) front.length = some value := by
  have small := value.toNat_lt
  have read := getRange_at front back (be32 value)
  rw [be32, length_toBe] at read
  rw [getU32, be32, read, Option.map_some, ofBe_toBe_of_lt (by omega), UInt32.ofNat_toNat]

theorem getFrom_at : getFrom (front ++ back) front.length = some back := by
  have long : max front.length (front ++ back).length = (front ++ back).length := by simp
  rw [getFrom, long, getRange, if_pos ⟨by simp, Nat.le_refl _⟩, take_length, drop_left]

theorem length_be16 (value : UInt16) : (be16 value).length = 2 := length_toBe ..

theorem length_be32 (value : UInt32) : (be32 value).length = 4 := length_toBe ..

theorem toBe_eq_be16 {length : Nat} (fits : length < 2 ^ 16) :
    toBe 2 length = be16 (UInt16.ofNat length) := by
  rw [be16, UInt16.toNat_ofNat_of_lt' fits]

theorem getHandles_at (handles : List UInt32) (front back : Bytes) :
    getHandles (front ++ (handles.flatMap be32 ++ back)) handles.length front.length =
      some handles := by
  induction handles generalizing front with
  | nil => rfl
  | cons handle handles ih =>
    have first := getU32_at front (handles.flatMap be32 ++ back) handle
    have rest := ih (front ++ be32 handle)
    rw [length_append, length_be32, append_assoc] at rest
    rw [flatMap_cons, append_assoc, length_cons, getHandles, first]
    simp only [Option.bind_eq_bind, Option.bind_some, rest]
    rfl

end Parts

theorem parseCounted_counted {bytes : Bytes} (fits : bytes.length < 2 ^ 16) (state : Bytes) :
    parseCounted (counted bytes state) = some (bytes, state) := by
  have number : (UInt16.ofNat bytes.length).toNat = bytes.length := UInt16.toNat_ofNat_of_lt' fits
  have length := getU16_at [] (bytes ++ state) (UInt16.ofNat bytes.length)
  have inner := getRange_at (be16 (UInt16.ofNat bytes.length)) state bytes
  have behind := getFrom_at (be16 (UInt16.ofNat bytes.length) ++ bytes) state
  rw [length_append, length_be16, append_assoc] at behind
  rw [length_be16] at inner
  rw [counted, toBe_eq_be16 fits, append_assoc, parseCounted]
  rw [nil_append, length_nil] at length
  simp only [length, Option.bind_eq_bind, Option.bind_some, number, inner, behind]
  rfl

theorem SdpPdu.length_counted (bytes state : Bytes) :
    (counted bytes state).length = 2 + bytes.length + state.length := by
  rw [counted, length_append, length_append, length_toBe]

/-! ## Whole PDUs -/

/-- A PDU that is read back from these parameters. -/
structure Written (pdu : SdpPdu) (params : Bytes) : Prop where
  parameters : pdu.parameters = .ok params
  fits : params.length < 2 ^ 16
  read : SdpPdu.parseParameters pdu.pduId pdu.transactionId params = some pdu

/-- The octets of a PDU with these parameters. -/
def wire (pdu : SdpPdu) (params : Bytes) : Bytes :=
  pdu.pduId :: be16 pdu.transactionId ++ toBe 2 params.length ++ params

theorem length_wire (pdu : SdpPdu) (params : Bytes) : (wire pdu params).length = params.length + 5 := by
  rw [wire, length_append, length_append, length_cons, length_be16, length_toBe,
    Nat.add_comm]

namespace Written
variable {pdu : SdpPdu} {params : Bytes}

theorem toBytes (written : Written pdu params) : pdu.toBytes = .ok (wire pdu params) := by
  rw [SdpPdu.toBytes, written.parameters]
  rfl

theorem parse (written : Written pdu params) : SdpPdu.parse (wire pdu params) = some pdu := by
  have small := pdu.transactionId.toNat_lt
  have tid : ofBe (be16 pdu.transactionId) = pdu.transactionId.toNat := ofBe_toBe_of_lt (by omega)
  have length : ofBe (toBe 2 params.length) = params.length := ofBe_toBe_of_lt written.fits
  have whole : getRange params 0 params.length = some params := by
    rw [getRange, if_pos ⟨Nat.zero_le _, Nat.le_refl _⟩, take_length, drop_zero]
  obtain ⟨tid1, tid2, first⟩ : ∃ a b, be16 pdu.transactionId = [a, b] := ⟨_, _, rfl⟩
  obtain ⟨high, low, second⟩ : ∃ a b, toBe 2 params.length = [a, b] := ⟨_, _, rfl⟩
  rw [first] at tid
  rw [second] at length
  rw [wire, first, second]
  show (do
    let params ← getRange params 0 (ofBe [high, low])
    parseParameters pdu.pduId (UInt16.ofNat (ofBe [tid1, tid2])) params) = some pdu
  rw [length, tid, whole, UInt16.ofNat_toNat]
  exact written.read

end Written

section Responses
variable (transactionId : UInt16) {state : Bytes}

theorem written_error (errorCode : UInt16) :
    Written (.errorResponse transactionId errorCode) (be16 errorCode) := by
  refine ⟨rfl, by rw [length_be16]; decide, ?_⟩
  have read := getU16_at [] [] errorCode
  rw [nil_append, append_nil, length_nil] at read
  dsimp only [pduId, SdpPdu.transactionId]
  rw [parseParameters, if_pos rfl, read]
  rfl

theorem length_be32s (handles : List UInt32) : (handles.flatMap be32).length = 4 * handles.length := by
  rw [length_flatMap, map_congr_left fun handle _ => length_be32 handle, map_const',
    sum_replicate_nat, Nat.mul_comm]

theorem length_handles (total : UInt16) (handles : List UInt32) :
    (be16 total ++ toBe 2 handles.length ++ handles.flatMap be32 ++ state).length =
      4 + 4 * handles.length + state.length := by
  simp only [length_append, length_be16, length_toBe, length_be32s]

theorem written_handles (total : UInt16) {handles : List UInt32}
    (fits : 4 + 4 * handles.length + state.length < 2 ^ 16) :
    Written (.serviceSearchResponse transactionId total handles state)
      (be16 total ++ toBe 2 handles.length ++ handles.flatMap be32 ++ state) := by
  have octets := length_be32s handles
  have short : handles.length < 2 ^ 16 := by omega
  refine ⟨rfl, ?_, ?_⟩
  · rwa [length_handles]
  · have number : (UInt16.ofNat handles.length).toNat = handles.length :=
      UInt16.toNat_ofNat_of_lt' short
    rw [toBe_eq_be16 short]
    have first := getU16_at [] (be16 (UInt16.ofNat handles.length) ++ (handles.flatMap be32 ++ state))
      total
    have second := getU16_at (be16 total) (handles.flatMap be32 ++ state)
      (UInt16.ofNat handles.length)
    have third := getHandles_at handles (be16 total ++ be16 (UInt16.ofNat handles.length)) state
    have fourth := getFrom_at (be16 total ++ be16 (UInt16.ofNat handles.length) ++
      handles.flatMap be32) state
    simp only [length_append, length_be16, octets, append_assoc, nil_append,
      length_nil] at first second third fourth ⊢
    rw [← Nat.add_assoc] at fourth
    dsimp only [pduId, SdpPdu.transactionId]
    rw [parseParameters, if_neg (by decide), if_neg (by decide), if_pos rfl]
    simp only [Option.bind_eq_bind, Option.bind_some, first, second, number, third, fourth]
    rfl

theorem written_attributes {list : Bytes} (fits : 2 + list.length + state.length < 2 ^ 16) :
    Written (.serviceAttributeResponse transactionId list state) (counted list state) := by
  refine ⟨rfl, ?_, ?_⟩
  · rwa [length_counted]
  · dsimp only [pduId, SdpPdu.transactionId]
    rw [parseParameters, if_neg (by decide), if_neg (by decide), if_neg (by decide),
      if_neg (by decide), if_pos rfl, parseCounted_counted (by omega)]
    rfl

theorem written_attributeLists {lists : Bytes} (fits : 2 + lists.length + state.length < 2 ^ 16) :
    Written (.serviceSearchAttributeResponse transactionId lists state)
      (counted lists state) := by
  refine ⟨rfl, ?_, ?_⟩
  · rwa [length_counted]
  · dsimp only [pduId, SdpPdu.transactionId]
    rw [parseParameters, if_neg (by decide), if_neg (by decide), if_neg (by decide),
      if_neg (by decide), if_neg (by decide), if_neg (by decide), if_pos rfl,
      parseCounted_counted (by omega)]
    rfl

end Responses

section Requests
variable (transactionId : UInt16)

/-- An element that is read back from these octets, whatever follows them. -/
structure Carried (element : DataElement) (bytes : Bytes) : Prop where
  written : element.toBytes = .ok bytes
  read : ∀ rest, DataElement.parse (bytes ++ rest) = some (element, bytes.length)

theorem carried_of_fits {element : DataElement} (fits : element.Fits)
    (shallow : element.nesting ≤ maxDataElementNesting) : ∃ bytes, Carried element bytes := by
  obtain ⟨bytes, written⟩ := element.toBytes_ok fits
  refine ⟨bytes, written, fun rest => ?_⟩
  have parsed := parseElement_written element fits shallow written [] rest
  rwa [nil_append, length_nil, Nat.zero_add] at parsed

variable {maximum : UInt16}

theorem written_search {pattern : DataElement} {bytes : Bytes} (carried : Carried pattern bytes)
    {state : Bytes} (fits : bytes.length + 2 + state.length < 2 ^ 16) :
    Written (.serviceSearchRequest transactionId pattern maximum state)
      (bytes ++ be16 maximum ++ state) := by
  refine ⟨?_, ?_, ?_⟩
  · rw [parameters, carried.written]
    rfl
  · simpa only [length_append, length_be16] using fits
  · have first := carried.read (be16 maximum ++ state)
    have second := getU16_at bytes state maximum
    have third := getFrom_at (bytes ++ be16 maximum) state
    rw [length_append, length_be16, append_assoc] at third
    dsimp only [pduId, SdpPdu.transactionId]
    rw [parseParameters, if_neg (by decide), if_pos rfl, append_assoc, first]
    simp only [Option.bind_eq_bind, Option.bind_some, second, third]
    rfl

theorem written_attributeRequest {ids : DataElement} {bytes : Bytes} (carried : Carried ids bytes)
    {handle : UInt32} {state : Bytes} (fits : 6 + bytes.length + state.length < 2 ^ 16) :
    Written (.serviceAttributeRequest transactionId handle maximum ids state)
      (be32 handle ++ be16 maximum ++ bytes ++ state) := by
  refine ⟨?_, ?_, ?_⟩
  · rw [parameters, carried.written]
    rfl
  · simpa only [length_append, length_be16, length_be32] using fits
  · have first := getU32_at [] (be16 maximum ++ (bytes ++ state)) handle
    have second := getU16_at (be32 handle) (bytes ++ state) maximum
    have third := getFrom_at (be32 handle ++ be16 maximum) (bytes ++ state)
    have fourth := carried.read state
    have fifth := getFrom_at (be32 handle ++ be16 maximum ++ bytes) state
    simp only [length_append, length_be16, length_be32, append_assoc, nil_append,
      length_nil] at first second third fifth ⊢
    rw [← Nat.add_assoc] at fifth
    dsimp only [pduId, SdpPdu.transactionId]
    rw [parseParameters, if_neg (by decide), if_neg (by decide), if_neg (by decide),
      if_pos rfl]
    simp only [Option.bind_eq_bind, Option.bind_some, first, second, third, fourth, fifth]
    rfl

theorem written_searchAttributeRequest {pattern ids : DataElement} {bytes names : Bytes}
    (carried : Carried pattern bytes) (carriedIds : Carried ids names) {state : Bytes}
    (fits : bytes.length + 2 + names.length + state.length < 2 ^ 16) :
    Written (.serviceSearchAttributeRequest transactionId pattern maximum ids state)
      (bytes ++ be16 maximum ++ names ++ state) := by
  refine ⟨?_, ?_, ?_⟩
  · rw [parameters, carried.written, Rust.ok_bind, carriedIds.written]
    rfl
  · simpa only [length_append, length_be16] using fits
  · have first := carried.read (be16 maximum ++ (names ++ state))
    have second := getU16_at bytes (names ++ state) maximum
    have third := getFrom_at (bytes ++ be16 maximum) (names ++ state)
    have fourth := carriedIds.read state
    have fifth := getFrom_at (bytes ++ be16 maximum ++ names) state
    simp only [length_append, length_be16, append_assoc] at first second third fifth ⊢
    rw [← Nat.add_assoc] at fifth
    dsimp only [pduId, SdpPdu.transactionId]
    rw [parseParameters, if_neg (by decide), if_neg (by decide), if_neg (by decide),
      if_neg (by decide), if_neg (by decide), if_pos rfl, first]
    simp only [Option.bind_eq_bind, Option.bind_some, second, third, fourth, fifth]
    rfl

end Requests

end Simble.Sdp
