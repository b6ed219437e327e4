import Simble.Sdp.RoundTrip

/-! The parser of data elements reads no further than its input and nests no
deeper than it is allowed to, whatever the octets are. -/
namespace Simble.Sdp
open Simble.Lib

theorem getRange_le {data : Bytes} {start stop : Nat} {bytes : Bytes}
    (read : getRange data start stop = some bytes) : stop ≤ data.length := by
  unfold getRange at read
  split_ifs at read with inside
  exact inside.2

theorem readHeader_advances {data : Bytes} {offset start length : Nat} {typeCode : UInt8}
    (read : readHeader data offset = some (typeCode, start, length)) : offset < start := by
  obtain ⟨byte0, first, read⟩ := Option.bind_eq_some_iff.mp read
  dsimp only at read
  split_ifs at read
  iterate 6
    · cases read
      exact Nat.lt_succ_self offset
  · obtain ⟨size, sized, read⟩ := Option.bind_eq_some_iff.mp read
    cases read
    omega
  · obtain ⟨size, sized, read⟩ := Option.bind_eq_some_iff.mp read
    cases read
    omega
  · obtain ⟨size, sized, read⟩ := Option.bind_eq_some_iff.mp read
    cases read
    omega

theorem parseElement_advances {data : Bytes} {levels offset next : Nat} {element : DataElement}
    (parsed : parseElement data levels offset = some (element, next)) :
    offset < next ∧ next ≤ data.length := by
  unfold parseElement at parsed
  obtain ⟨⟨typeCode, start, length⟩, header, parsed⟩ := Option.bind_eq_some_iff.mp parsed
  obtain ⟨bytes, value, parsed⟩ := Option.bind_eq_some_iff.mp parsed
  have behind := readHeader_advances header
  have inside := getRange_le value
  suffices ends : next = start + length by omega
  split at parsed
  · cases levels with
    | zero => contradiction
    | succ levels =>
      obtain ⟨⟨items, reached⟩, inner, parsed⟩ := Option.bind_eq_some_iff.mp parsed
      dsimp only at parsed
      split at parsed
      · contradiction
      · cases parsed
        rfl
  · obtain ⟨leaf, inner, parsed⟩ := Option.bind_eq_some_iff.mp parsed
    cases parsed
    rfl

/-! ## The parser with the calls it may nest -/

/-- The loop over the items, without a result when an item has none or a turn
does not get on. -/
def parseItemsWithin (parse : Nat → Option (Option (DataElement × Nat))) (stop cursor : Nat) :
    Option (Option (List DataElement × Nat)) :=
  if cursor < stop then
    match parse cursor with
    | none => none
    | some none => some none
    | some (some (item, next)) =>
      if cursor < next then
        (parseItemsWithin parse stop next).map fun read =>
          read.map fun rest => (item :: rest.1, rest.2)
      else none
  else some (some ([], cursor))
termination_by stop - cursor

/-- `parse_element` as far as so many nested calls go: no result when it calls itself once more,
or when a loop does not end. -/
def parseElementWithin (data : Bytes) :
    (calls depth offset : Nat) → Option (Option (DataElement × Nat))
  | 0, _, _ => none
  | calls + 1, depth, offset =>
    match readHeader data offset with
    | none => some none
    | some (typeCode, start, length) =>
      match getRange data start (start + length) with
      | none => some none
      | some bytes =>
        if typeCode = 6 ∨ typeCode = 7 then
          if maxDataElementNesting ≤ depth then some none
          else
            (parseItemsWithin (parseElementWithin data calls (depth + 1)) (start + length) start).map
              fun read => read.bind fun (items, reached) =>
                if reached ≠ start + length then none
                else some (if typeCode = 6 then .sequence items else .alternative items,
                  start + length)
        else some ((parseValue typeCode bytes).map fun element => (element, start + length))

theorem parseItemsWithin_eq (data : Bytes) {levels : Nat}
    {within : Nat → Option (Option (DataElement × Nat))}
    (same : ∀ offset, within offset = some (parseElement data levels offset)) (stop cursor : Nat) :
    parseItemsWithin within stop cursor = some (parseItems (parseElement data levels) stop cursor) := by
  induction cursor using parseItems.induct (parseElement data levels) stop with
  | case1 cursor below stuck =>
    rw [parseItemsWithin, parseItems, if_pos below, if_pos below, same, stuck]
  | case2 cursor below item next parsed advances ih =>
    rw [parseItemsWithin, parseItems, if_pos below, if_pos below, same, parsed]
    simp only [if_pos advances, ih, Option.map_some]
  | case3 cursor below item next parsed stays =>
    exact absurd (parseElement_advances parsed).1 stays
  | case4 cursor reached =>
    rw [parseItemsWithin, parseItems, if_neg reached, if_neg reached]

theorem parseElementWithin_eq (data : Bytes) : ∀ (levels : Nat) {calls depth : Nat},
    levels < calls → levels + depth = maxDataElementNesting → ∀ offset : Nat,
    parseElementWithin data calls depth offset = some (parseElement data levels offset)
  | levels, 0, _, enough, _, _ => absurd enough (Nat.not_lt_zero levels)
  | levels, calls + 1, depth, enough, left, offset => by
    rw [parseElementWithin, parseElement.eq_def]
    cases header : readHeader data offset with
    | none => rfl
    | some read =>
      obtain ⟨typeCode, start, length⟩ := read
      cases value : getRange data start (start + length) with
      | none => simp only [value, Option.bind_eq_bind, Option.bind_some, Option.bind_none]
      | some bytes =>
        simp only [value, Option.bind_eq_bind, Option.bind_some]
        by_cases nested : typeCode = 6 ∨ typeCode = 7
        · rw [if_pos nested, if_pos nested]
          cases levels with
          | zero => rw [if_pos (by omega)]
          | succ below =>
            have inner := @parseElementWithin_eq data below calls (depth + 1) (by omega) (by omega)
            rw [if_neg (by omega), parseItemsWithin_eq data inner]
            rfl
        · rw [if_neg nested, if_neg nested]
          cases parseValue typeCode bytes <;> rfl

/-- An element that fits its declared sizes and nests at most thirty-two deep is read back, with
any octets behind it, and is as long as it said. The parser ends on every octet string: it uses no
more than there is, and calls itself thirty-two times deep at most. -/
theorem data_element_round_trip :
    (∀ element : DataElement, element.Fits → element.nesting ≤ maxDataElementNesting →
      ∃ bytes, element.toBytes = .ok bytes ∧ bytes.length = element.encodedLen ∧
        ∀ rest, DataElement.parse (bytes ++ rest) = some (element, bytes.length)) ∧
    ∀ data : Bytes,
      parseElementWithin data (maxDataElementNesting + 1) 0 0 = some (DataElement.parse data) ∧
        ∀ element consumed, DataElement.parse data = some (element, consumed) →
          consumed ≤ data.length := by
  refine ⟨fun element fits shallow => ?_, fun data => ⟨?_, fun element consumed parsed => ?_⟩⟩
  · obtain ⟨bytes, written⟩ := element.toBytes_ok fits
    refine ⟨bytes, written, element.length_toBytes written, fun rest => ?_⟩
    have parsed := parseElement_written element fits shallow written [] rest
    rwa [List.nil_append, List.length_nil, Nat.zero_add] at parsed
  · exact parseElementWithin_eq data maxDataElementNesting (Nat.lt_succ_self _) (Nat.add_zero _) 0
  · exact (parseElement_advances parsed).2

theorem data_element_round_trip_pair :
    ∃ bytes, (DataElement.sequence [.unsignedInteger 0x0100 2, .boolean true]).toBytes = .ok bytes ∧
      bytes.length = DataElement.encodedLen (.sequence [.unsignedInteger 0x0100 2, .boolean true]) ∧
      ∀ rest, DataElement.parse (bytes ++ rest) =
        some (.sequence [.unsignedInteger 0x0100 2, .boolean true], bytes.length) :=
  data_element_round_trip.1 _
    (by simp only [DataElement.Fits, DataElement.AllFit, IntegerSize, DataElement.bodyLen,
          DataElement.encodedLen]; decide)
    (by simp only [DataElement.nesting, DataElement.deepest]; decide)

end Simble.Sdp
