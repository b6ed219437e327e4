import Simble.Device.HandledWrites
import Mathlib.Data.List.TakeWhile

/-! How long responses are. Nothing looks at the MTU, and a list response counts its entries in
one octet: a response fits where values and numbers of attributes happen to be small. -/
namespace Simble.Device
open Simble.Gatt Simble.Att Simble.Crypto List

namespace VirtualDevice
variable {curve : P256} {H S : Type} (env : Env H S) (device : VirtualDevice curve H S)

def sameWidth (first : UInt16 × Uuid) (rest : List (UInt16 × Uuid)) : List (UInt16 × Uuid) :=
  (first :: rest).filter fun entry => entry.2.len = first.2.len

/-- The sizes that decide whether the response to a request fits into `mtu`. -/
def Fits (mtu : Nat) : AttPdu → Prop
  | .findInformationReq startHandle endHandle =>
    ∀ first rest, device.gattDb.findInformation startHandle endHandle = first :: rest →
      2 + (sameWidth first rest).length * (2 + first.2.len) ≤ mtu
  | .readReq handle =>
    ∀ attr, device.gattDb.get handle = some attr → attr.permissions.read = true →
      1 + attr.value.length ≤ mtu
  | .readBlobReq handle offset =>
    ∀ attr, device.gattDb.get handle = some attr → attr.permissions.read = true →
      offset.toNat ≤ attr.value.length → 1 + (attr.value.length - offset.toNat) ≤ mtu
  | .prepareWriteReq _ _ partValue => 5 + partValue.length ≤ mtu
  | .readByGroupTypeReq startHandle endHandle groupTypeBytes =>
    ∀ uuid first rest,
      typeRange .readByGroupTypeReq startHandle endHandle groupTypeBytes = .ok uuid →
      device.gattDb.readByType startHandle endHandle uuid = first :: rest →
      (∀ entry ∈ sameLength first rest, entry.1 ≠ 0xFFFF) →
      4 + first.2.length ≤ 255 ∧
        2 + (sameLength first rest).length * (4 + first.2.length) ≤ mtu
  | .readByTypeReq startHandle endHandle uuidBytes =>
    ∀ uuid first rest, typeRange .readByTypeReq startHandle endHandle uuidBytes = .ok uuid →
      device.gattDb.readByType startHandle endHandle uuid = first :: rest →
      2 + first.2.length ≤ 255 ∧
        2 + (sameLength first rest).length * (2 + first.2.length) ≤ mtu
  | _ => True

/-- A list response says how long its entries are, and reading it entry by
entry gives what the server put in. -/
def Decodes : AttPdu → Bytes → Prop
  | .readByGroupTypeReq startHandle endHandle groupTypeBytes, response =>
    ∀ uuid first rest,
      typeRange .readByGroupTypeReq startHandle endHandle groupTypeBytes = .ok uuid →
      device.gattDb.readByType startHandle endHandle uuid = first :: rest →
      ∃ length body entries, response = Opcode.readByGroupTypeRsp.byte :: length :: body ∧
        device.groupData (sameLength first rest) = .ok entries ∧
        length.toNat = 4 + first.2.length ∧
        items 4 length body = some (entries.map fun entry =>
          (U16.toLeBytes entry.1 ++ U16.toLeBytes entry.2.1, entry.2.2))
  | .readByTypeReq startHandle endHandle uuidBytes, response =>
    ∀ uuid first rest, typeRange .readByTypeReq startHandle endHandle uuidBytes = .ok uuid →
      device.gattDb.readByType startHandle endHandle uuid = first :: rest →
      ∃ length body, response = Opcode.readByTypeRsp.byte :: length :: body ∧
        length.toNat = 2 + first.2.length ∧
        items 2 length body = some ((sameLength first rest).map fun entry =>
          (U16.toLeBytes entry.1, entry.2))
  | _, _ => True

def RespondsWithin (connection : UInt16) (pdu : Bytes) (mtu : Nat) : Prop :=
  ∀ response after, device.processAttPacket env connection pdu = .ok (some response, after) →
    response.length ≤ mtu ∧ ∀ request, AttPdu.parse pdu = some request →
      device.Decodes request response

variable {env device}

@[simp] theorem length_errorRsp (op : UInt8) (handle : UInt16) (code : UInt8) :
    (errorRsp op handle code).length = 5 := rfl

@[simp] theorem length_toLeBytes (value : UInt16) : (U16.toLeBytes value).length = 2 := rfl

theorem length_entries {α : Type} (encode : α → Bytes) (list : List α) {size : Nat}
    (lengths : ∀ entry ∈ list, (encode entry).length = size) :
    (list.flatMap encode).length = list.length * size := by
  induction list with
  | nil => simp
  | cons first rest ih =>
    rw [flatMap_cons, length_append, lengths first mem_cons_self,
      ih fun entry listed => lengths entry (mem_cons_of_mem _ listed), length_cons,
      Nat.add_mul, Nat.one_mul, Nat.add_comm]

theorem length_of_mem_sameLength {first entry : UInt16 × Bytes} {rest : List (UInt16 × Bytes)}
    (listed : entry ∈ sameLength first rest) : entry.2.length = first.2.length := by
  simpa using mem_takeWhile_imp listed

section FindInformation

theorem informationItemLen_format (uuid other : Uuid) :
    informationItemLen (if uuid.len = 2 then formatUuid16 else formatUuid128) =
      some (2 + other.len) ↔ other.len = uuid.len := by
  cases uuid <;> cases other <;> simp [informationItemLen, formatUuid16, formatUuid128, Uuid.len]

theorem onFindInformationReq_length {startHandle endHandle : UInt16} {first : UInt16 × Uuid}
    {rest : List (UInt16 × Uuid)}
    (found : device.gattDb.findInformation startHandle endHandle = first :: rest) :
    (device.onFindInformationReq startHandle endHandle).length =
      2 + (sameWidth first rest).length * (2 + first.2.len) := by
  have sized : ∀ entry ∈ sameWidth first rest,
      (U16.toLeBytes entry.1 ++ entry.2.toAttBytes).length = 2 + first.2.len := by
    intro entry listed
    have same : entry.2.len = first.2.len := by simpa using (List.mem_filter.mp listed).2
    simp [same]
  unfold onFindInformationReq informationData
  rw [found]
  simp only [informationItemLen_format, length_cons]
  have total := length_entries _ _ sized
  unfold sameWidth at total ⊢
  omega

end FindInformation

section Lists

theorem groupData_eq_ok {entries : List (UInt16 × Bytes)}
    {data : List (UInt16 × UInt16 × Bytes)} (built : device.groupData entries = .ok data) :
    data.map (fun entry => (entry.1, entry.2.2)) = entries := by
  induction entries generalizing data with
  | nil =>
    cases built
    rfl
  | cons first rest ih =>
    unfold groupData at built
    rw [mapM_cons] at built
    obtain ⟨entry, made, built⟩ := Rust.bind_eq_ok.mp built
    obtain ⟨others, madeRest, built⟩ := Rust.bind_eq_ok.mp built
    obtain ⟨stop, -, made⟩ := Rust.bind_eq_ok.mp made
    cases made
    cases built
    rw [map_cons, ih madeRest]

theorem groupData_isOk_iff {entries : List (UInt16 × Bytes)} :
    (∃ data, device.groupData entries = .ok data) ↔ ∀ entry ∈ entries, entry.1 ≠ 0xFFFF := by
  induction entries with
  | nil => exact iff_of_true ⟨[], rfl⟩ (by simp)
  | cons first rest ih =>
    have unfolded : device.groupData (first :: rest) = (do
        let stop ← device.gattDb.groupEndHandle first.1
        let others ← device.groupData rest
        pure ((first.1, stop, first.2) :: others)) := by
      unfold groupData
      rw [mapM_cons]
      cases device.gattDb.groupEndHandle first.1 <;> rfl
    rw [unfolded, forall_mem_cons, ← ih]
    by_cases last : first.1 = 0xFFFF
    · simp [GattDatabase.groupEndHandle, last]
    · simp only [GattDatabase.groupEndHandle, last, if_false, Rust.ok_bind, ne_eq,
        not_false_eq_true, true_and]
      constructor
      · rintro ⟨data, built⟩
        obtain ⟨others, made, -⟩ := Rust.bind_eq_ok.mp built
        exact ⟨others, made⟩
      · rintro ⟨others, made⟩
        exact ⟨_, by rw [made]; rfl⟩

/-- The list of a list response: the length octet is right exactly where the
entries are no longer than it can say, and then they are read back. -/
theorem length_list_iff {α : Type} (opcode : Opcode) (head value : α → Bytes) (list : List α)
    {prefixLen size : Nat} (heads : ∀ entry ∈ list, (head entry).length = prefixLen)
    (values : ∀ entry ∈ list, (value entry).length = size) (positive : 0 < prefixLen) :
    ((opcode.byte :: UInt8.ofNat (prefixLen + size) ::
        list.flatMap fun entry => head entry ++ value entry).length =
      2 + list.length * (prefixLen + size)) ∧
    ((UInt8.ofNat (prefixLen + size)).toNat = prefixLen + size ↔ prefixLen + size ≤ 255) ∧
    (prefixLen + size ≤ 255 →
      items prefixLen (UInt8.ofNat (prefixLen + size))
        (list.flatMap fun entry => head entry ++ value entry) =
          some (list.map fun entry => (head entry, value entry))) := by
  have lengths : ∀ entry ∈ list, (head entry ++ value entry).length = prefixLen + size := by
    intro entry listed
    rw [length_append, heads entry listed, values entry listed]
  have octet : (UInt8.ofNat (prefixLen + size)).toNat = (prefixLen + size) % 256 :=
    UInt8.toNat_ofNat'
  refine ⟨?_, ?_, ?_⟩
  · rw [length_cons, length_cons, length_entries _ _ lengths]
    omega
  · rw [octet]
    omega
  · intro small
    have exact' : (UInt8.ofNat (prefixLen + size)).toNat = prefixLen + size := by
      rw [octet]
      omega
    unfold items
    rw [exact', if_neg (by omega), dataList_flatMap head value list heads lengths (by omega)]

end Lists

section Requests
variable {mtu : Nat} {connection : UInt16}

theorem read_length (handle : UInt16) (offset : Nat) (opcode request : Opcode) (least : 5 ≤ mtu) :
    (match device.gattDb.read handle offset with
      | .ok value => opcode.byte :: value
      | .error code => errorRsp request.byte handle code).length ≤ mtu ↔
    ∀ attr, device.gattDb.get handle = some attr → attr.permissions.read = true →
      offset ≤ attr.value.length → 1 + (attr.value.length - offset) ≤ mtu := by
  unfold GattDatabase.read
  cases found : device.gattDb.get handle with
  | none => exact iff_of_true least nofun
  | some attr =>
    cases readable : attr.permissions.read with
    | false =>
      apply iff_of_true
      · simpa [readable] using least
      · rintro other same permitted
        obtain rfl := Option.some.inj same
        rw [readable] at permitted
        contradiction
    | true =>
      by_cases inside : offset ≤ attr.value.length
      · simp only [readable, not_true_eq_false, if_false, not_lt.mpr inside,
          length_cons, length_drop, Option.some.injEq, forall_eq', forall_const, inside]
        omega
      · apply iff_of_true
        · simpa [readable, not_le.mp inside] using least
        · rintro other same - within
          obtain rfl := Option.some.inj same
          exact absurd within inside

theorem length_of_typeRange_error {opcode : Opcode} {startHandle endHandle : UInt16}
    {uuidBytes response : Bytes}
    (refused : typeRange opcode startHandle endHandle uuidBytes = .error response) :
    response.length = 5 := by
  unfold typeRange at refused
  split at refused
  · cases refused
    rfl
  · split at refused <;> cases refused
    rfl

theorem onReadByTypeReq_within (startHandle endHandle : UInt16) (uuidBytes : Bytes)
    (least : 5 ≤ mtu) :
    ((device.onReadByTypeReq startHandle endHandle uuidBytes).length ≤ mtu ∧
      device.Decodes (.readByTypeReq startHandle endHandle uuidBytes)
        (device.onReadByTypeReq startHandle endHandle uuidBytes)) ↔
      device.Fits mtu (.readByTypeReq startHandle endHandle uuidBytes) := by
  obtain ⟨range, ranged⟩ : ∃ range,
    typeRange .readByTypeReq startHandle endHandle uuidBytes = range := ⟨_, rfl⟩
  cases range with
  | error response =>
    have answer : device.onReadByTypeReq startHandle endHandle uuidBytes = response := by
      simp only [onReadByTypeReq, ranged]
    have absent {uuid : Uuid} (other : typeRange .readByTypeReq startHandle endHandle uuidBytes =
        .ok uuid) : False := by
      rw [ranged] at other
      contradiction
    refine iff_of_true ⟨?_, fun _ _ _ other => (absent other).elim⟩ fun _ _ _ other => (absent other).elim
    rw [answer, length_of_typeRange_error ranged]
    exact least
  | ok uuid =>
    have only {other : Uuid} (same : typeRange .readByTypeReq startHandle endHandle uuidBytes =
        .ok other) : other = uuid := (Except.ok.inj (ranged.symm.trans same)).symm
    obtain ⟨entries, found⟩ : ∃ entries,
      device.gattDb.readByType startHandle endHandle uuid = entries := ⟨_, rfl⟩
    cases entries with
    | nil =>
      have answer : device.onReadByTypeReq startHandle endHandle uuidBytes =
          errorRsp Opcode.readByTypeReq.byte startHandle ErrorCode.attributeNotFound := by
        simp only [onReadByTypeReq, ranged, found]
      have absent {other : Uuid} {first : UInt16 × Bytes} {rest : List (UInt16 × Bytes)}
          (same : typeRange .readByTypeReq startHandle endHandle uuidBytes = .ok other)
          (some : device.gattDb.readByType startHandle endHandle other = first :: rest) : False := by
        rw [only same, found] at some
        contradiction
      rw [answer]
      exact iff_of_true ⟨least, fun _ _ _ same some => (absent same some).elim⟩
        fun _ _ _ same some => (absent same some).elim
    | cons first rest =>
      have answer : device.onReadByTypeReq startHandle endHandle uuidBytes =
          Opcode.readByTypeRsp.byte :: UInt8.ofNat (2 + first.2.length) ::
            (sameLength first rest).flatMap fun entry => U16.toLeBytes entry.1 ++ entry.2 := by
        simp only [onReadByTypeReq, ranged, found]
      obtain ⟨length, octet, decoded⟩ := length_list_iff .readByTypeRsp
        (fun entry : UInt16 × Bytes => U16.toLeBytes entry.1) Prod.snd (sameLength first rest)
        (fun _ _ => rfl) (fun _ listed => length_of_mem_sameLength listed) (show 0 < 2 by decide)
      rw [answer, length]
      constructor
      · rintro ⟨fits, decodes⟩ other first' rest' same some
        obtain ⟨count, body, response, right, -⟩ := decodes other first' rest' same some
        rw [only same, found] at some
        cases some
        obtain ⟨rfl, -⟩ := List.cons.inj (List.cons.inj response).2
        exact ⟨octet.mp right, fits⟩
      · intro fits
        obtain ⟨small, fits⟩ := fits uuid first rest ranged found
        refine ⟨fits, ?_⟩
        intro other first' rest' same some
        rw [only same, found] at some
        cases some
        exact ⟨_, _, rfl, octet.mpr small, decoded small⟩

theorem onReadByGroupTypeReq_within (startHandle endHandle : UInt16) (groupTypeBytes : Bytes)
    (least : 5 ≤ mtu) :
    (∀ response, device.onReadByGroupTypeReq startHandle endHandle groupTypeBytes = .ok response →
      response.length ≤ mtu ∧
        device.Decodes (.readByGroupTypeReq startHandle endHandle groupTypeBytes) response) ↔
      device.Fits mtu (.readByGroupTypeReq startHandle endHandle groupTypeBytes) := by
  obtain ⟨range, ranged⟩ : ∃ range,
    typeRange .readByGroupTypeReq startHandle endHandle groupTypeBytes = range := ⟨_, rfl⟩
  cases range with
  | error refusal =>
    have answer : device.onReadByGroupTypeReq startHandle endHandle groupTypeBytes = .ok refusal := by
      simp only [onReadByGroupTypeReq, ranged]
    have absent {uuid : Uuid} (other : typeRange .readByGroupTypeReq startHandle endHandle
        groupTypeBytes = .ok uuid) : False := by
      rw [ranged] at other
      contradiction
    refine iff_of_true ?_ fun _ _ _ other => (absent other).elim
    intro response responded
    obtain rfl := Except.ok.inj (answer.symm.trans responded)
    refine ⟨?_, fun _ _ _ other => (absent other).elim⟩
    rw [length_of_typeRange_error ranged]
    exact least
  | ok uuid =>
    have only {other : Uuid} (same : typeRange .readByGroupTypeReq startHandle endHandle
        groupTypeBytes = .ok other) : other = uuid := (Except.ok.inj (ranged.symm.trans same)).symm
    obtain ⟨matched, found⟩ : ∃ matched,
      device.gattDb.readByType startHandle endHandle uuid = matched := ⟨_, rfl⟩
    cases matched with
    | nil =>
      have answer : device.onReadByGroupTypeReq startHandle endHandle groupTypeBytes =
          .ok (errorRsp Opcode.readByGroupTypeReq.byte startHandle ErrorCode.attributeNotFound) := by
        simp only [onReadByGroupTypeReq, ranged, found]
      have absent {other : Uuid} {first : UInt16 × Bytes} {rest : List (UInt16 × Bytes)}
          (same : typeRange .readByGroupTypeReq startHandle endHandle groupTypeBytes = .ok other)
          (some : device.gattDb.readByType startHandle endHandle other = first :: rest) : False := by
        rw [only same, found] at some
        contradiction
      refine iff_of_true ?_ fun _ _ _ same some => (absent same some).elim
      intro response responded
      obtain rfl := Except.ok.inj (answer.symm.trans responded)
      exact ⟨least, fun _ _ _ same some => (absent same some).elim⟩
    | cons first rest =>
      have answer : device.onReadByGroupTypeReq startHandle endHandle groupTypeBytes = (do
          let entries ← device.groupData (sameLength first rest)
          pure (Opcode.readByGroupTypeRsp.byte :: UInt8.ofNat (4 + first.2.length) ::
            entries.flatMap fun entry =>
              (U16.toLeBytes entry.1 ++ U16.toLeBytes entry.2.1) ++ entry.2.2)) := by
        simp only [onReadByGroupTypeReq, ranged, found]
      have sized {entries : List (UInt16 × UInt16 × Bytes)}
          (built : device.groupData (sameLength first rest) = .ok entries) :=
        length_list_iff .readByGroupTypeRsp
          (fun entry : UInt16 × UInt16 × Bytes => U16.toLeBytes entry.1 ++ U16.toLeBytes entry.2.1)
          (fun entry => entry.2.2) entries (fun _ _ => rfl)
          (by
            intro entry listed
            have read : (entry.1, entry.2.2) ∈ sameLength first rest := by
              rw [← groupData_eq_ok built]
              exact mem_map_of_mem listed
            have sized : (entry.1, entry.2.2).2.length = first.2.length :=
              length_of_mem_sameLength read
            exact sized)
          (show 0 < 4 by decide)
      have count {entries : List (UInt16 × UInt16 × Bytes)}
          (built : device.groupData (sameLength first rest) = .ok entries) :
          entries.length = (sameLength first rest).length := by
        rw [← groupData_eq_ok built, length_map]
      constructor
      · intro within other first' rest' same some inside
        obtain ⟨entries, built⟩ := groupData_isOk_iff.mpr (by
          rw [only same, found] at some
          cases some
          exact inside : ∀ entry ∈ sameLength first rest, entry.1 ≠ 0xFFFF)
        rw [built] at answer
        obtain ⟨fits, decodes⟩ := within _ answer
        obtain ⟨length, octet, -⟩ := sized built
        obtain ⟨number, body, listed, response, -, right, -⟩ := decodes other first' rest' same some
        rw [only same, found] at some
        cases some
        obtain ⟨rfl, -⟩ := List.cons.inj (List.cons.inj response).2
        rw [length, count built] at fits
        exact ⟨octet.mp right, fits⟩
      · intro fits response responded
        rw [answer] at responded
        obtain ⟨entries, built, made⟩ := Rust.bind_eq_ok.mp responded
        cases made
        obtain ⟨length, octet, decoded⟩ := sized built
        obtain ⟨small, fits⟩ := fits uuid first rest ranged found
          (groupData_isOk_iff.mp ⟨entries, built⟩)
        rw [length, count built]
        refine ⟨fits, ?_⟩
        intro other first' rest' same some
        rw [only same, found] at some
        cases some
        exact ⟨_, _, entries, rfl, built, octet.mpr small, decoded small⟩

theorem onWriteReq_length {handle : UInt16} {value response : Bytes}
    {after : VirtualDevice curve H S}
    (responded : device.onWriteReq env connection handle value = (some response, after)) :
    response.length ≤ 5 := by
  unfold onWriteReq at responded
  split at responded
  · cases responded
    exact Nat.le_add_left 1 4
  · cases responded
    exact Nat.le_refl 5

/-- One request at a time. The list requests and Find Information answer with what the database
holds, a read with a value, all else with at most five octets. -/
theorem dispatchAtt_within {op : UInt8} {request : AttPdu} (least : 5 ≤ mtu) :
    (∀ response after,
      device.dispatchAtt env connection op request = .ok (some response, after) →
        response.length ≤ mtu ∧ device.Decodes request response) ↔ device.Fits mtu request := by
  have answers (answer : Bytes) (next : VirtualDevice curve H S)
      (dispatched : device.dispatchAtt env connection op request = .ok (some answer, next)) :
      (∀ response after,
        device.dispatchAtt env connection op request = .ok (some response, after) →
          response.length ≤ mtu ∧ device.Decodes request response) ↔
        answer.length ≤ mtu ∧ device.Decodes request answer := by
    rw [dispatched]
    constructor
    · intro within
      exact within answer next rfl
    · rintro within response after responded
      cases responded
      exact within
  cases request with
  | findInformationReq startHandle endHandle =>
    rw [answers _ _ rfl]
    obtain ⟨info, found⟩ : ∃ info,
      device.gattDb.findInformation startHandle endHandle = info := ⟨_, rfl⟩
    cases info with
    | nil =>
      have answer : device.onFindInformationReq startHandle endHandle =
          errorRsp Opcode.findInformationReq.byte startHandle ErrorCode.attributeNotFound := by
        simp only [onFindInformationReq, found]
      rw [answer]
      refine iff_of_true ⟨least, trivial⟩ ?_
      intro first rest listed
      rw [found] at listed
      contradiction
    | cons first rest =>
      rw [onFindInformationReq_length found]
      constructor
      · rintro ⟨fits, -⟩ first' rest' listed
        rw [found] at listed
        cases listed
        exact fits
      · intro fits
        exact ⟨fits first rest found, trivial⟩
  | readReq handle =>
    rw [answers _ _ rfl]
    have length := device.read_length handle 0 .readRsp .readReq least
    simp only [Nat.zero_le, forall_const, Nat.sub_zero] at length
    exact (and_iff_left trivial).trans length
  | readBlobReq handle offset =>
    rw [answers _ _ rfl]
    exact (and_iff_left trivial).trans
      (device.read_length handle offset.toNat .readBlobRsp .readBlobReq least)
  | readByGroupTypeReq startHandle endHandle groupTypeBytes =>
    rw [← onReadByGroupTypeReq_within startHandle endHandle groupTypeBytes least]
    have dispatched : device.dispatchAtt env connection op
        (.readByGroupTypeReq startHandle endHandle groupTypeBytes) = (do
          let response ← device.onReadByGroupTypeReq startHandle endHandle groupTypeBytes
          pure (some response, device)) := rfl
    rw [dispatched]
    constructor
    · intro within response responded
      rw [responded] at within
      exact within response device rfl
    · intro within response after responded
      obtain ⟨answer, answered, responded⟩ := Rust.bind_eq_ok.mp responded
      cases responded
      exact within response answered
  | readByTypeReq startHandle endHandle uuidBytes =>
    rw [answers _ _ rfl]
    exact onReadByTypeReq_within startHandle endHandle uuidBytes least
  | writeReq handle value =>
    refine iff_of_true ?_ trivial
    intro response after responded
    exact ⟨Nat.le_trans (onWriteReq_length (Except.ok.inj responded)) least, trivial⟩
  | writeCmd => exact iff_of_true nofun trivial
  | handleValueCfm => exact iff_of_true nofun trivial
  | prepareWriteReq handle offset partValue =>
    rw [answers _ _ rfl]
    apply (and_iff_left trivial).trans
    simp only [length_cons, length_append, length_toLeBytes, Fits]
    omega
  | exchangeMtuReq | executeWriteReq =>
    rw [answers _ _ rfl]
    refine iff_of_true ⟨?_, trivial⟩ trivial
    simp only [length_cons, length_nil, length_toLeBytes]
    omega
  | _ =>
    rw [answers _ _ rfl]
    exact iff_of_true ⟨least, trivial⟩ trivial

end Requests

/-- A response fits the MTU of its connection, and a list response can be
decoded, exactly for the requests whose values and attributes are small enough. -/
theorem response_within_iff (env : Env H S) (device : VirtualDevice curve H S)
    (connection : UInt16) (pdu : Bytes) :
    ∀ conn ∈ device.connections.lookup connection, 23 ≤ conn.mtu.toNat →
      (RespondsWithin env device connection pdu conn.mtu.toNat ↔
        ∀ request, AttPdu.parse pdu = some request → device.Fits conn.mtu.toNat request) := by
  rintro conn - least
  have room : 5 ≤ conn.mtu.toNat := by omega
  unfold RespondsWithin processAttPacket
  obtain ⟨parsed, read⟩ : ∃ parsed, AttPdu.parse pdu = parsed := ⟨_, rfl⟩
  cases parsed with
  | none =>
    rw [read]
    refine iff_of_true ?_ nofun
    rintro response after responded
    cases responded
    exact ⟨room, nofun⟩
  | some request =>
    simp only [read, Option.some.injEq, forall_eq']
    exact dispatchAtt_within room

end VirtualDevice

def valueDevice (value : Bytes) : VirtualDevice noCurve Unit Unit :=
  { controlDevice with
    gattDb := ⟨⟨[(1, ⟨.uuid16 0x2A00, value, .default, none⟩)], List.pairwise_singleton _ _⟩, 2⟩ }

theorem response_within_twenty_two_octets :
    (valueDevice (List.replicate 22 0)).RespondsWithin controlPoint 0x40 [0x0A, 0x01, 0x00] 23 := by
  apply (VirtualDevice.response_within_iff controlPoint (valueDevice (List.replicate 22 0)) 0x40
    [0x0A, 0x01, 0x00] (.newWithRole Address.any 23 .peripheral) rfl (by decide)).mpr
  rintro request parsed
  cases parsed
  rintro attr found -
  cases found
  decide

/-- A Read Request for 23 octets is answered with 24, whatever the MTU is. -/
theorem not_response_within : ∃ response,
    (valueDevice (List.replicate 23 0)).connections.lookup 0x40 =
      some (.newWithRole Address.any 23 .peripheral) ∧
    (valueDevice (List.replicate 23 0)).processAttPacket controlPoint 0x40 [0x0A, 0x01, 0x00] =
      .ok (some response, valueDevice (List.replicate 23 0)) ∧
    response.length = 24 ∧
    ¬ (valueDevice (List.replicate 23 0)).RespondsWithin controlPoint 0x40 [0x0A, 0x01, 0x00] 23 := by
  refine ⟨Opcode.readRsp.byte :: List.replicate 23 0, rfl, rfl, rfl, ?_⟩
  intro within
  obtain ⟨short, -⟩ := within _ _ rfl
  exact absurd short (by decide)

end Simble.Device
