import Mathlib.Data.FinEnum
import Simble.Obex.Wire

/-! Every header and packet that fits its lengths is read back, with whatever follows it; and what
is read of a packet lies within its declared length. -/
namespace Simble.Obex
open Simble.Lib List

/-! ## Headers -/

def HeaderId.named : List UInt8 :=
  [name, type, length, body, endOfBody, target, who, connectionId, appParameters, authChallenge,
    authResponse, singleResponseMode, count, description]

def HeaderValue.Shaped (identifier : UInt8) : HeaderValue → Prop
  | .text value => HeaderEncoding.of identifier = .unicode ∧ '\x00' ∉ value.toList ∧
      (encodeUnicode value).length + 3 < 2 ^ 16
  | .bytes value => HeaderEncoding.of identifier = .byteSequence ∧ value.length + 3 < 2 ^ 16
  | .byte _ => HeaderEncoding.of identifier = .byte
  | .fourByte _ => HeaderEncoding.of identifier = .fourByte

open HeaderId

namespace Header

/-- The headers that an encoding carries, those without a name among them. -/
def Encodable : Header → Prop
  | other identifier value => identifier ∉ HeaderId.named ∧ value.Shaped identifier
  | header => header.Carried

theorem ofLengthPrefixed_other {identifier : UInt8} (unnamed : identifier ∉ named)
    (value : Bytes) :
    ofLengthPrefixed identifier value =
      if HeaderEncoding.of identifier = .unicode then
        .other identifier (.text (decodeUnicode value))
      else .other identifier (.bytes value) := by
  simp only [named, mem_cons, not_mem_nil, or_false, not_or] at unnamed
  simp only [ofLengthPrefixed, unnamed, if_false]

theorem ofByte_other {identifier : UInt8} (unnamed : identifier ∉ named) (value : UInt8) :
    ofByte identifier value = .other identifier (.byte value) := by
  simp only [named, mem_cons, not_mem_nil, or_false, not_or] at unnamed
  simp only [ofByte, unnamed, if_false]

theorem ofFourByte_other {identifier : UInt8} (unnamed : identifier ∉ named)
    (value : UInt32) : ofFourByte identifier value = .other identifier (.fourByte value) := by
  simp only [named, mem_cons, not_mem_nil, or_false, not_or] at unnamed
  simp only [ofFourByte, unnamed, if_false]

theorem parse_encodable {header : Header} (encodable : header.Encodable) (rest : Bytes) :
    parse (header.encode ++ rest) = .ok (header, header.encodedLen) := by
  cases header with
  | other identifier value =>
    obtain ⟨unnamed, shaped⟩ := encodable
    cases value with
    | text text =>
      obtain ⟨encoding, clean, fits⟩ := shaped
      apply (parse_lengthPrefixed (.inl encoding) fits rest).trans
      rw [ofLengthPrefixed_other unnamed, if_pos encoding, decodeUnicode_encodeUnicode clean]
      rfl
    | bytes bytes =>
      obtain ⟨encoding, fits⟩ := shaped
      apply (parse_lengthPrefixed (.inr encoding) fits rest).trans
      rw [ofLengthPrefixed_other unnamed, if_neg (by rw [encoding]; decide)]
      rfl
    | byte value =>
      have encoding : HeaderEncoding.of identifier = .byte := shaped
      unfold parse
      simp only [encode, cons_append, nil_append, encoding, ofByte_other unnamed]
      rfl
    | fourByte value =>
      apply (parse_fourByte shaped value rest).trans
      rw [ofFourByte_other unnamed]
      rfl
  | _ =>
    refine parse_encode ?_ rest
    exact encodable

theorem parseAll_encodable {headers : List Header} (encodable : ∀ header ∈ headers, header.Encodable) :
    parseAll (encodeAll headers) = .ok headers := by
  induction headers with
  | nil => exact parseAll_nil
  | cons header headers ih =>
    obtain ⟨first, rest⟩ := List.forall_mem_cons.mp encodable
    have read := parse_encodable first (encodeAll headers)
    have more := ih rest
    rw [encodeAll, flatMap_cons]
    rw [encodeAll] at read more
    rw [parseAll_cons read, encodedLen, drop_left, more]
    rfl

end Header

/-! ## What a packet's declared length covers -/

def declared : Bytes → Nat
  | _ :: high :: low :: _ => ofBe [high, low]
  | _ => 0

/-- A packet that is split is as long as it declares; it is split the same with anything behind
it, and not at all once it is cut. -/
structure Bounded {ε α : Type} (parse : Bytes → Except ε α) (bytes : Bytes) (result : α) : Prop where
  least : 3 ≤ declared bytes
  most : declared bytes ≤ bytes.length
  within : ∀ other, parse (bytes.take (declared bytes) ++ other) = .ok result
  cut : ∀ k < declared bytes, ∃ error, parse (bytes.take k) = .error error

theorem bounded_splitPacket {bytes : Bytes} {parts : UInt8 × Bool × Bytes}
    (split : splitPacket bytes = .ok parts) : Bounded splitPacket bytes parts := by
  rcases bytes with _ | ⟨code, _ | ⟨high, _ | ⟨low, rest⟩⟩⟩
  · cases split
  · cases split
  · cases split
  · simp only [splitPacket] at split
    split_ifs at split with short long
    cases split
    obtain ⟨length, total⟩ : ∃ length, ofBe [high, low] = length + 3 :=
      ⟨_, (Nat.sub_add_cancel (by omega)).symm⟩
    rw [total, Nat.add_sub_cancel] at long
    have whole : declared (code :: high :: low :: rest) = length + 3 := total
    refine ⟨by omega, by rw [whole]; simp only [length_cons]; omega, ?_, ?_⟩
    · intro other
      have taken : (rest.take length).length = length := length_take_of_le (by omega)
      rw [whole]
      simp only [take_succ_cons, cons_append, splitPacket, total, Nat.add_sub_cancel]
      rw [if_neg (by omega), if_neg (by rw [length_append]; omega), take_left' taken]
    · intro k less
      rw [whole] at less
      refine ⟨.truncated, ?_⟩
      rcases k with _ | _ | _ | k
      · rfl
      · rfl
      · rfl
      · simp only [take_succ_cons, splitPacket, total, Nat.add_sub_cancel]
        rw [if_neg (by omega), if_pos (by rw [length_take]; omega)]

theorem head_take {bytes : Bytes} {k : Nat} (some : 0 < k) (other : Bytes)
    (long : 0 < bytes.length) : (bytes.take k ++ other).head? = bytes.head? := by
  cases bytes with
  | nil => cases long
  | cons first rest =>
    obtain ⟨k, rfl⟩ : ∃ before, k = before + 1 := ⟨k - 1, by omega⟩
    rfl

/-- A reader that looks at the first octet and at what a packet is split into reads nothing
beyond the declared length. -/
theorem Bounded.of_split {α : Type} {parse : Bytes → Except PacketError α}
    (next : Option UInt8 → UInt8 × Bool × Bytes → Except PacketError α)
    (reads : ∀ bytes, parse bytes = splitPacket bytes >>= next bytes.head?) {bytes : Bytes}
    {result : α} (parsed : parse bytes = .ok result) : Bounded parse bytes result := by
  rw [reads] at parsed
  cases split : splitPacket bytes with
  | error error =>
    rw [split] at parsed
    cases parsed
  | ok parts =>
    rw [split] at parsed
    obtain ⟨least, most, within, cut⟩ := bounded_splitPacket split
    refine ⟨least, most, ?_, ?_⟩
    · intro other
      rw [reads, within other, head_take (by omega) other (by omega)]
      exact parsed
    · intro k less
      obtain ⟨error, refused⟩ := cut k less
      refine ⟨error, ?_⟩
      rw [reads, refused]
      rfl

theorem ConnectFields.fromPrefix_toBytes (fields : ConnectFields) (rest : Bytes) :
    fromPrefix (fields.toBytes ++ rest) = some (fields, rest) := by
  obtain ⟨version, flags, maxPacketLength⟩ := fields
  have length := ofNat_ofBe_toBe maxPacketLength
  obtain ⟨high, low, pair⟩ : ∃ high low, toBe 2 maxPacketLength.toNat = [high, low] := ⟨_, _, rfl⟩
  rw [pair] at length
  rw [toBytes, pair, cons_append, cons_append, cons_append, cons_append,
    nil_append, fromPrefix, length]

theorem SetPathFields.fromPrefix_toBytes (fields : SetPathFields) (rest : Bytes) :
    fromPrefix (fields.toBytes ++ rest) = some (fields, rest) := rfl

theorem head_buildPacket (code : UInt8) (fixed : Bytes) (headers : List Header) :
    (buildPacket code fixed headers).head? = some code := rfl

namespace Request

/-- What `parse` does once the packet is split. -/
def dispatch (first : Option UInt8) (parts : UInt8 × Bool × Bytes) : Except PacketError Request :=
  let opcode := if first = some Opcode.abort then Opcode.abort else parts.1
  if opcode = Opcode.connect then
    match ConnectFields.fromPrefix parts.2.2 with
    | none => throw .truncated
    | some (fields, rest) => do return ⟨opcode, parts.2.1, some fields, none, ← parseHeaders rest⟩
  else if opcode = Opcode.setPath then
    match SetPathFields.fromPrefix parts.2.2 with
    | none => throw .truncated
    | some (fields, rest) => do return ⟨opcode, parts.2.1, none, some fields, ← parseHeaders rest⟩
  else do return ⟨opcode, parts.2.1, none, none, ← parseHeaders parts.2.2⟩

theorem parse_eq (bytes : Bytes) : parse bytes = splitPacket bytes >>= dispatch bytes.head? := rfl

/-- The requests that `parse` can give: ABORT is final, and 0x7F with its Final bit would be
ABORT. -/
structure WellFormed (request : Request) : Prop where
  opcode : (request.opcode = Opcode.abort ∧ request.isFinal = true) ∨
    (request.opcode < 0x80 ∧ ¬ (request.opcode = 0x7F ∧ request.isFinal = true))
  connect : request.connect.isSome ↔ request.opcode = Opcode.connect
  setPath : request.setPath.isSome ↔ request.opcode = Opcode.setPath
  headers : ∀ header ∈ request.headers, header.Encodable
  fits : request.toBytes.length < 2 ^ 16

theorem code_read {opcode : UInt8} {isFinal : Bool}
    (legal : (opcode = Opcode.abort ∧ isFinal = true) ∨
      (opcode < 0x80 ∧ ¬ (opcode = 0x7F ∧ isFinal = true))) :
    (if some (if isFinal then opcode ||| finalBit else opcode) = some Opcode.abort then Opcode.abort
      else (if isFinal then opcode ||| finalBit else opcode) &&& ~~~finalBit) = opcode ∧
    decide ((if isFinal then opcode ||| finalBit else opcode) &&& finalBit ≠ 0) = isFinal := by
  cases isFinal
  · have plain : opcode < 0x80 := by
      rcases legal with ⟨-, other⟩ | ⟨plain, -⟩
      · cases other
      · exact plain
    revert opcode
    decide +kernel
  · revert opcode
    decide +kernel

theorem parse_toBytes {request : Request} (wellFormed : request.WellFormed) :
    parse request.toBytes = .ok request := by
  obtain ⟨legal, connects, paths, encodable, fits⟩ := wellFormed
  obtain ⟨opcode, isFinal, connect, setPath, headers⟩ := request
  obtain ⟨opcode_read, final_read⟩ := code_read legal
  rw [toBytes, length_buildPacket] at fits
  have read := Header.parseAll_encodable encodable
  rw [parse_eq, toBytes, splitPacket_buildPacket _ fits, head_buildPacket]
  simp only [bind, Except.bind, dispatch]
  rw [opcode_read, final_read]
  split_ifs with connecting moving
  · have none : setPath = none := by
      rw [← Option.not_isSome_iff_eq_none, paths, connecting]
      decide
    obtain ⟨fields, rfl⟩ := Option.isSome_iff_exists.mp (connects.mpr connecting)
    subst none
    simp only [Option.map_some, Option.map_none, Option.getD_some, Option.getD_none, append_nil]
    rw [ConnectFields.fromPrefix_toBytes]
    simp only [parseHeaders, read]
    rfl
  · have none : connect = none := by
      rw [← Option.not_isSome_iff_eq_none, connects]
      exact connecting
    obtain ⟨fields, rfl⟩ := Option.isSome_iff_exists.mp (paths.mpr moving)
    subst none
    simp only [Option.map_some, Option.map_none, Option.getD_some, Option.getD_none, nil_append]
    rw [SetPathFields.fromPrefix_toBytes]
    simp only [parseHeaders, read]
    rfl
  · have noConnect : connect = none := by
      rw [← Option.not_isSome_iff_eq_none, connects]
      exact connecting
    have noSetPath : setPath = none := by
      rw [← Option.not_isSome_iff_eq_none, paths]
      exact moving
    subst noConnect noSetPath
    simp only [Option.map_none, Option.getD_none, nil_append]
    simp only [parseHeaders, read]
    rfl

theorem bounded {bytes : Bytes} {request : Request} (parsed : parse bytes = .ok request) :
    Bounded parse bytes request := .of_split dispatch parse_eq parsed

end Request

namespace Response

def dispatch (toConnect : Bool) (first : Option UInt8) (parts : UInt8 × Bool × Bytes) :
    Except PacketError Response :=
  let code := first.getD 0
  if toConnect ∧ code = ResponseCode.success then
    match ConnectFields.fromPrefix parts.2.2 with
    | none => throw .truncated
    | some (fields, rest) => do return ⟨code, parts.2.1, some fields, ← parseHeaders rest⟩
  else do return ⟨code, parts.2.1, none, ← parseHeaders parts.2.2⟩

theorem parse_eq (toConnect : Bool) (bytes : Bytes) :
    parse bytes toConnect = splitPacket bytes >>= dispatch toConnect bytes.head? := by
  rw [parse, headD_eq_head?_getD]
  rfl

/-- The responses that `parse` can give: the Final bit is the code's own, and the fields of a
CONNECT are there exactly where they are looked for. -/
structure WellFormed (toConnect : Bool) (response : Response) : Prop where
  isFinal : response.isFinal = decide (response.code &&& finalBit ≠ 0)
  connect : response.connect.isSome ↔ toConnect ∧ response.code = ResponseCode.success
  headers : ∀ header ∈ response.headers, header.Encodable
  fits : response.toBytes.length < 2 ^ 16

theorem parse_toBytes {toConnect : Bool} {response : Response}
    (wellFormed : response.WellFormed toConnect) :
    parse response.toBytes toConnect = .ok response := by
  obtain ⟨final, connects, encodable, fits⟩ := wellFormed
  obtain ⟨code, isFinal, connect, headers⟩ := response
  have final_read : decide (code &&& finalBit ≠ 0) = isFinal := final.symm
  rw [toBytes, length_buildPacket] at fits
  have read := Header.parseAll_encodable encodable
  rw [parse_eq, toBytes, splitPacket_buildPacket _ fits, head_buildPacket]
  simp only [bind, Except.bind, dispatch, Option.getD_some]
  rw [final_read]
  split_ifs with connecting
  · obtain ⟨fields, rfl⟩ := Option.isSome_iff_exists.mp (connects.mpr connecting)
    simp only [Option.map_some, Option.getD_some]
    rw [ConnectFields.fromPrefix_toBytes]
    simp only [parseHeaders, read]
    rfl
  · have none : connect = none := by
      rw [← Option.not_isSome_iff_eq_none, connects]
      exact connecting
    subst none
    simp only [Option.map_none, Option.getD_none, nil_append]
    simp only [parseHeaders, read]
    rfl

theorem bounded {toConnect : Bool} {bytes : Bytes} {response : Response}
    (parsed : parse bytes toConnect = .ok response) :
    Bounded (fun bytes => parse bytes toConnect) bytes response :=
  .of_split (dispatch toConnect) (parse_eq toConnect) parsed

end Response

/-- What was written in full is read back whatever follows it. -/
theorem Bounded.append {ε α : Type} {parse : Bytes → Except ε α} {bytes : Bytes} {result : α}
    (bounded : Bounded parse bytes result) (whole : declared bytes = bytes.length) (rest : Bytes) :
    parse (bytes ++ rest) = .ok result := by
  have read := bounded.within rest
  rwa [whole, take_length] at read

theorem declared_buildPacket (code : UInt8) {fixed : Bytes} {headers : List Header}
    (fits : (buildPacket code fixed headers).length < 2 ^ 16) :
    declared (buildPacket code fixed headers) = (buildPacket code fixed headers).length := by
  rw [length_buildPacket] at fits ⊢
  have total := ofBe_toBe_of_lt (show 3 + fixed.length + (Header.encodeAll headers).length < 256 ^ 2 by
    omega)
  obtain ⟨high, low, pair⟩ : ∃ high low,
    toBe 2 (3 + fixed.length + (Header.encodeAll headers).length) = [high, low] := ⟨_, _, rfl⟩
  rw [pair] at total
  rw [buildPacket]
  simp only [pair]
  exact total

/-- Headers, requests and responses are read back, with anything behind them; and what is read of
a packet, of any octets at all, lies within the length that it declares, short of which nothing is
read. -/
theorem obex_round_trip :
    (∀ headers : List Header, (∀ header ∈ headers, header.Encodable) →
      Header.parseAll (Header.encodeAll headers) = .ok headers) ∧
    (∀ request : Request, request.WellFormed → ∀ rest,
      Request.parse (request.toBytes ++ rest) = .ok request) ∧
    (∀ (response : Response) (toConnect : Bool), response.WellFormed toConnect → ∀ rest,
      Response.parse (response.toBytes ++ rest) toConnect = .ok response) ∧
    (∀ (bytes : Bytes) (request : Request), Request.parse bytes = .ok request →
      Bounded Request.parse bytes request) ∧
    (∀ (bytes : Bytes) (response : Response) (toConnect : Bool),
      Response.parse bytes toConnect = .ok response →
      Bounded (fun bytes => Response.parse bytes toConnect) bytes response) := by
  refine ⟨fun headers => Header.parseAll_encodable, ?_, ?_, ?_, ?_⟩
  · intro request wellFormed rest
    exact (Request.bounded (Request.parse_toBytes wellFormed)).append
      (declared_buildPacket _ wellFormed.fits) rest
  · intro response toConnect wellFormed rest
    exact (Response.bounded (Response.parse_toBytes wellFormed)).append
      (declared_buildPacket _ wellFormed.fits) rest
  · intro bytes request
    exact Request.bounded
  · intro bytes response toConnect
    exact Response.bounded

theorem obex_round_trip_put : Request.parse
    (Request.toBytes (.put true [.length 3, .endOfBody [1, 2, 3]]) ++ [9]) =
      .ok (.put true [.length 3, .endOfBody [1, 2, 3]]) := by
  refine obex_round_trip.2.1 _ ⟨.inr (by decide), by decide, by decide, ?_, by decide⟩ [9]
  simp [Request.put, Request.simple, Header.Encodable, Header.Carried]

theorem obex_abort_not_final :
    ¬ ∀ request : Request, (request.opcode = 0xFF ∨ request.opcode < 0x80) →
      (request.connect.isSome ↔ request.opcode = Opcode.connect) →
      (request.setPath.isSome ↔ request.opcode = Opcode.setPath) →
      (∀ header ∈ request.headers, header.Encodable) → request.toBytes.length < 2 ^ 16 →
      Request.parse request.toBytes = .ok request := by
  intro all
  have read := all ⟨0xFF, false, none, none, []⟩ (by decide) (by decide) (by decide) (by simp)
    (by decide)
  have final : Request.parse (Request.toBytes ⟨0xFF, false, none, none, []⟩) =
      .ok ⟨0xFF, true, none, none, []⟩ := by
    have same : Request.toBytes ⟨0xFF, false, none, none, []⟩ =
        Request.toBytes ⟨0xFF, true, none, none, []⟩ := rfl
    rw [same]
    exact Request.parse_toBytes ⟨.inl ⟨rfl, rfl⟩, by decide, by decide, by simp, by decide⟩
  rw [final] at read
  cases read

end Simble.Obex
