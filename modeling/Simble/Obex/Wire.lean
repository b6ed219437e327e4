import Simble.Obex.Server

/-! Headers and PUT packets that fit their sixteen-bit lengths are read back as
they were written. -/
namespace Simble.Obex
open Simble.Lib HeaderEncoding List Response

/-! ## Texts -/

theorem ofNat_ofBe_toBe (unit : UInt16) : UInt16.ofNat (ofBe (toBe 2 unit.toNat)) = unit := by
  have small := unit.toNat_lt
  rw [ofBe_toBe_of_lt (by omega), UInt16.ofNat_toNat]

theorem beUnits_append (units : List UInt16) (rest : Bytes) :
    beUnits (units.flatMap (fun unit => toBe 2 unit.toNat) ++ rest) = units ++ beUnits rest := by
  induction units with
  | nil => rfl
  | cons unit units ih =>
    rw [flatMap_cons, append_assoc]
    have head := ofNat_ofBe_toBe unit
    obtain ⟨high, low, pair⟩ : ∃ high low, toBe 2 unit.toNat = [high, low] := ⟨_, _, rfl⟩
    rw [pair] at head ⊢
    rw [cons_append, cons_append, nil_append, beUnits, head, ih, cons_append]

theorem decodeUnicode_encodeUnicode {text : String} (clean : '\x00' ∉ text.toList) :
    decodeUnicode (encodeUnicode text) = text := by
  unfold encodeUnicode
  split_ifs with empty
  · rw [empty]
    rfl
  · have whole : (Utf16.encode text.toList).takeWhile (· ≠ 0) = Utf16.encode text.toList := by
      rw [takeWhile_eq_self_iff]
      intro unit inside
      have nonzero : unit ≠ 0 := by
        rintro rfl
        exact Utf16.zero_not_mem_encode clean inside
      exact decide_eq_true nonzero
    have units := beUnits_append (Utf16.encode text.toList) [0x00, 0x00]
    rw [show beUnits [0x00, 0x00] = [0] from rfl] at units
    rw [decodeUnicode, units, takeWhile_append_of_pos, takeWhile_cons_of_neg (by simp),
      append_nil, Utf16.decodeLossy_encode, String.ofList_toList]
    intro unit inside
    exact List.takeWhile_eq_self_iff.mp whole unit inside

/-! ## Headers -/

namespace Header

/-- The headers that fit the length in front of them and whose text has no NUL. -/
def Carried : Header → Prop
  | name text | description text => '\x00' ∉ text.toList ∧ (encodeUnicode text).length + 3 < 2 ^ 16
  | type bytes | body bytes | endOfBody bytes | target bytes | who bytes | appParameters bytes
  | authChallenge bytes | authResponse bytes => bytes.length + 3 < 2 ^ 16
  | length _ | connectionId _ | singleResponseMode _ | count _ => True
  | other .. => False

theorem length_lengthPrefixed (identifier : UInt8) (value : Bytes) :
    (lengthPrefixed identifier value).length = value.length + 3 := by
  rw [lengthPrefixed, length_append, length_cons, length_toBe]
  omega

theorem parse_lengthPrefixed {identifier : UInt8}
    (encoding : of identifier = .unicode ∨ of identifier = .byteSequence)
    {value : Bytes} (fits : value.length + 3 < 2 ^ 16) (rest : Bytes) :
    parse (lengthPrefixed identifier value ++ rest) =
      .ok (ofLengthPrefixed identifier value, (lengthPrefixed identifier value).length) := by
  have total : ofBe (toBe 2 (value.length + 3)) = value.length + 3 := ofBe_toBe_of_lt (by omega)
  have read : parseLengthPrefixed identifier (toBe 2 (value.length + 3) ++ (value ++ rest)) =
      .ok (ofLengthPrefixed identifier value, value.length + 3) := by
    obtain ⟨high, low, pair⟩ : ∃ high low, toBe 2 (value.length + 3) = [high, low] := ⟨_, _, rfl⟩
    rw [pair] at total ⊢
    rw [cons_append, cons_append, nil_append, parseLengthPrefixed, total,
      if_neg (by omega), Nat.add_sub_cancel, if_neg (by simp), take_left]
  rw [length_lengthPrefixed, lengthPrefixed, cons_append, cons_append, append_assoc]
  unfold parse
  rcases encoding with text | octets
  · simp only [text]
    exact read
  · simp only [octets]
    exact read

theorem parse_fourByte {identifier : UInt8} (encoding : of identifier = .fourByte)
    (value : UInt32) (rest : Bytes) :
    parse (identifier :: toBe 4 value.toNat ++ rest) = .ok (ofFourByte identifier value, 5) := by
  have small := value.toNat_lt
  have octets : (toBe 4 value.toNat ++ rest).take 4 = toBe 4 value.toNat :=
    take_left' (length_toBe ..)
  rw [cons_append]
  unfold parse
  simp only [encoding, octets]
  rw [if_neg (by simp), ofBe_toBe_of_lt (by omega), UInt32.ofNat_toNat]

theorem parse_encode {header : Header} (carried : header.Carried) (rest : Bytes) :
    parse (header.encode ++ rest) = .ok (header, header.encodedLen) := by
  cases header with
  | name text | description text =>
    apply (parse_lengthPrefixed (.inl (by rw [identifier]; decide)) carried.2 rest).trans
    apply congrArg (fun header => Except.ok (header, _))
    exact congrArg _ (decodeUnicode_encodeUnicode carried.1)
  | type | body | endOfBody | target | who | appParameters | authChallenge | authResponse =>
    exact parse_lengthPrefixed (.inr (by rw [identifier]; decide)) carried rest
  | length value | connectionId value | count value => exact parse_fourByte (by rw [identifier]; decide) value rest
  | singleResponseMode value =>
    have encoding : of HeaderId.singleResponseMode = .byte := by decide
    unfold parse
    simp only [encode, identifier, cons_append, nil_append, encoding]
    rfl
  | other => exact carried.elim

theorem parseAll_encodeAll {headers : List Header} (carried : ∀ header ∈ headers, header.Carried) :
    parseAll (encodeAll headers) = .ok headers := by
  induction headers with
  | nil => exact parseAll_nil
  | cons header headers ih =>
    have first := parse_encode (carried header mem_cons_self) (encodeAll headers)
    have rest := ih fun other inside => carried other (mem_cons_of_mem _ inside)
    rw [encodeAll, flatMap_cons]
    rw [encodeAll] at first rest
    rw [parseAll_cons first, encodedLen, drop_left, rest]
    rfl

end Header

/-! ## Packets -/

open Header

theorem length_buildPacket (code : UInt8) (fixed : Bytes) (headers : List Header) :
    (buildPacket code fixed headers).length =
      3 + fixed.length + (encodeAll headers).length := by
  rw [buildPacket, length_append, length_append, length_cons, length_toBe]

theorem splitPacket_buildPacket (code : UInt8) {fixed : Bytes} {headers : List Header}
    (fits : 3 + fixed.length + (encodeAll headers).length < 2 ^ 16) :
    splitPacket (buildPacket code fixed headers) =
      .ok (code &&& ~~~finalBit, code &&& finalBit ≠ 0, fixed ++ encodeAll headers) := by
  have total := ofBe_toBe_of_lt (show 3 + fixed.length + (encodeAll headers).length < 256 ^ 2 by
    omega)
  rw [buildPacket, append_assoc, cons_append]
  obtain ⟨high, low, pair⟩ : ∃ high low,
    toBe 2 (3 + fixed.length + (encodeAll headers).length) = [high, low] := ⟨_, _, rfl⟩
  rw [pair] at total ⊢
  rw [cons_append, cons_append, nil_append, splitPacket, total, if_neg (by omega),
    if_neg (by rw [length_append]; omega), take_of_length_le]
  rw [length_append]
  omega

variable (isFinal : Bool)

open Request

theorem Request.length_put (headers : List Header) :
    (put isFinal headers).toBytes.length = 3 + (encodeAll headers).length :=
  length_buildPacket _ [] headers

def Request.code (isFinal : Bool) : UInt8 := if isFinal then Opcode.put ||| finalBit else Opcode.put

theorem Request.toBytes_put (headers : List Header) :
    (put isFinal headers).toBytes = buildPacket (code isFinal) [] headers := rfl

theorem Request.parse_put {headers : List Header} (carried : ∀ header ∈ headers, header.Carried)
    (fits : 3 + (encodeAll headers).length < 2 ^ 16) :
    parse (put isFinal headers).toBytes = .ok (put isFinal headers) := by
  have read := parseAll_encodeAll carried
  have split := @splitPacket_buildPacket (code isFinal) [] headers fits
  have opcode : code isFinal &&& ~~~finalBit = Opcode.put := by cases isFinal <;> decide
  have final : decide (code isFinal &&& finalBit ≠ 0) = isFinal := by cases isFinal <;> decide
  have head : (buildPacket (code isFinal) [] headers).head? ≠ some Opcode.abort := by
    rw [buildPacket, append_assoc, cons_append, List.head?_cons]
    cases isFinal <;> decide
  rw [nil_append, opcode, final] at split
  rw [toBytes_put, parse, split]
  simp only [bind, Except.bind, if_neg head]
  rw [if_neg (by decide), if_neg (by decide), parseHeaders, read]
  rfl

theorem Response.parse_status (code : UInt8) :
    parse (status code).toBytes false = .ok (status code) := by
  apply (congrArg (· >>= _) (@splitPacket_buildPacket code [] [] (by decide))).trans
  have unread : ¬ (false = true ∧ (status code).toBytes.headD 0 = ResponseCode.success) :=
    fun both => Bool.false_ne_true both.1
  simp only [bind, Except.bind, parseHeaders, encodeAll, flatMap_nil, nil_append,
    parseAll_nil, if_neg unread]
  rfl

end Simble.Obex
