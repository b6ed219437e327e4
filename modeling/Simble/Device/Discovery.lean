import Simble.Lib.Paging
import Simble.Device.AttBounds

/-! Discovery. A client asks from a handle on until no attribute is found. Read By Type and Read
By Group Type stop where the next value has another length; Find Information skips UUIDs of
another width. -/
namespace Simble
open Simble.Lib List

namespace Gatt.GattDatabase
variable {H : Type}

inductive Built : GattDatabase H → Prop
  | new : Built new
  | service {db uuid primary handle after} : Built db →
    db.addService uuid primary = .ok (handle, after) → Built after
  | characteristic {db uuid properties value permissions handles after} : Built db →
    db.addCharacteristic uuid properties value permissions = .ok (handles, after) → Built after
  | descriptor {db uuid value permissions handle after} : Built db →
    db.addDescriptor uuid value permissions = .ok (handle, after) → Built after
  | plain {db uuid permissions value handle after} : Built db →
    db.addAttribute uuid permissions value = .ok (handle, after) → Built after

variable (db : GattDatabase H)

def information : List (UInt16 × Uuid) :=
  db.attributes.entries.map fun entry => (entry.1, entry.2.uuid)

def primaryServices : List (UInt16 × UInt16 × Bytes) :=
  (db.attributes.entries.filter fun entry => entry.2.uuid = .primaryService).map fun entry =>
    (entry.1, groupEnd entry.1 (db.attributes.rangeFrom (entry.1 + 1)), entry.2.value)

def characteristics : List (UInt16 × Bytes) :=
  (db.attributes.entries.filter fun entry =>
    entry.2.uuid = .characteristic ∧ entry.2.permissions.read).map fun entry =>
      (entry.1, entry.2.value)

end Gatt.GattDatabase

namespace Device
open Simble.Gatt Simble.Att Simble.Crypto

section Client

def entryHandle : Bytes → UInt16
  | low :: high :: _ => U16.fromLeBytes low high
  | _ => 0

def discovered {ε : Type} (read : AttPdu → Option (List ε)) (response : Bytes) : Option (List ε) :=
  match AttPdu.parse response with
  | some (.errorRsp _ _ code) => if code = ErrorCode.attributeNotFound then some [] else none
  | some pdu => read pdu
  | none => none

def readInformation : AttPdu → Option (List (UInt16 × Uuid))
  | .findInformationRsp format data => (informationItemLen format).map fun itemLen =>
    (dataList 2 itemLen data).filterMap fun item =>
      (Uuid.fromBytes item.2).map fun uuid => (entryHandle item.1, uuid)
  | _ => none

def readGroups : AttPdu → Option (List (UInt16 × UInt16 × Bytes))
  | .readByGroupTypeRsp length data => (items 4 length data).map fun list =>
    list.map fun item => (entryHandle item.1, entryHandle (item.1.drop 2), item.2)
  | _ => none

def readValues : AttPdu → Option (List (UInt16 × Bytes))
  | .readByTypeRsp length data => (items 2 length data).map fun list =>
    list.map fun item => (entryHandle item.1, item.2)
  | _ => none

def requestFrom (opcode : Opcode) (type : Bytes) (start : UInt16) : Bytes :=
  opcode.byte :: (U16.toLeBytes start ++ (U16.toLeBytes 0xFFFF ++ type))

def nextHandle (handle : UInt16) : Option UInt16 :=
  if handle = 0xFFFF then none else some (handle + 1)

end Client

namespace VirtualDevice
variable {curve : P256} {H S : Type} (env : Env H S) (device : VirtualDevice curve H S)
  (connection : UInt16)

def Page {ε : Type} (request : UInt16 → Bytes) (read : AttPdu → Option (List ε))
    (start : UInt16) (batch : List ε) : Prop :=
  ∃ response, device.processAttPacket env connection (request start) = .ok (some response, device) ∧
    discovered read response = some batch

structure Discovers : Prop where
  information : Walk (device.Page env connection (requestFrom .findInformationReq []) readInformation)
    Prod.fst nextHandle 1 device.gattDb.information
  services : Walk (device.Page env connection
      (requestFrom .readByGroupTypeReq Uuid.primaryService.toAttBytes) readGroups)
    Prod.fst nextHandle 1 device.gattDb.primaryServices
  characteristics : Walk (device.Page env connection
      (requestFrom .readByTypeReq Uuid.characteristic.toAttBytes) readValues)
    Prod.fst nextHandle 1 device.gattDb.characteristics

end VirtualDevice

def OneWidth (list : List (UInt16 × Uuid)) : Prop :=
  ∃ width, ∀ entry ∈ list, entry.2.len = width

/-- What discovery needs: the UUIDs change their width once at most, and the
declarations are readable and fit a list entry. -/
structure Discoverable {H : Type} (db : GattDatabase H) : Prop where
  widths : ∃ front back, db.information = front ++ back ∧ OneWidth front ∧ OneWidth back
  services : ∀ entry ∈ db.attributes.entries, entry.2.uuid = .primaryService →
    entry.2.permissions.read = true ∧ 4 + entry.2.value.length ≤ 255
  characteristics : ∀ entry ∈ db.attributes.entries, entry.2.uuid = .characteristic →
    entry.2.permissions.read = true → 2 + entry.2.value.length ≤ 255

section Registration
variable {H : Type} {db : GattDatabase H}

/-- Handles start at 1, and the last one is never given out. -/
structure HandlesBelow (db : GattDatabase H) : Prop where
  first : 1 ≤ db.nextHandle
  handles : ∀ entry ∈ db.attributes.entries, 1 ≤ entry.1 ∧ entry.1 < db.nextHandle

theorem HandlesBelow.allocate (below : HandlesBelow db) {handle : UInt16} {after : GattDatabase H}
    (allocated : db.allocateHandle = .ok (handle, after)) :
    HandlesBelow after ∧ 1 ≤ handle ∧ handle = db.nextHandle ∧ handle < after.nextHandle := by
  unfold GattDatabase.allocateHandle at allocated
  split at allocated
  · contradiction
  · rename_i last
    cases allocated
    obtain ⟨first, handles⟩ := below
    have more : db.nextHandle < db.nextHandle + 1 := by
      have bound := db.nextHandle.toNat_lt
      have different : db.nextHandle.toNat ≠ 65535 := fun same => last (UInt16.toNat_inj.mp same)
      rw [UInt16.lt_iff_toNat_lt, UInt16.toNat_add]
      simp only [UInt16.reduceToNat]
      omega
    refine ⟨⟨first.trans more.le, ?_⟩, first, rfl, more⟩
    intro entry listed
    obtain ⟨least, greatest⟩ := handles entry listed
    exact ⟨least, greatest.trans more⟩

theorem HandlesBelow.insert (below : HandlesBelow db) {handle : UInt16} (least : 1 ≤ handle)
    (greatest : handle < db.nextHandle) (attr : Attribute H) :
    HandlesBelow { db with attributes := db.attributes.insert handle attr } := by
  refine ⟨below.first, ?_⟩
  intro entry listed
  rcases mem_append.mp listed with lower | other
  · exact below.handles entry (mem_of_mem_filter lower)
  · rcases mem_cons.mp other with rfl | upper
    · exact ⟨least, greatest⟩
    · exact below.handles entry (mem_of_mem_filter upper)

theorem HandlesBelow.add (below : HandlesBelow db) {uuid : Uuid} {permissions : AttributePermissions}
    {value : Bytes} {handle : UInt16} {after : GattDatabase H}
    (added : db.addAttribute uuid permissions value = .ok (handle, after)) : HandlesBelow after := by
  obtain ⟨⟨given, next⟩, allocated, added⟩ := Rust.bind_eq_ok.mp added
  cases added
  obtain ⟨kept, least, -, greatest⟩ := below.allocate allocated
  exact kept.insert least greatest _

theorem HandlesBelow.addCharacteristic (below : HandlesBelow db) {uuid : Uuid} {properties : UInt8}
    {value : Bytes} {permissions : AttributePermissions} {handles : UInt16 × UInt16}
    {after : GattDatabase H}
    (added : db.addCharacteristic uuid properties value permissions = .ok (handles, after)) :
    HandlesBelow after := by
  obtain ⟨⟨declHandle, next⟩, allocated, added⟩ := Rust.bind_eq_ok.mp added
  obtain ⟨⟨valHandle, last⟩, again, added⟩ := Rust.bind_eq_ok.mp added
  cases added
  obtain ⟨kept, declLeast, -, declBelow⟩ := below.allocate allocated
  obtain ⟨both, valLeast, rfl, valBelow⟩ := kept.allocate again
  exact (both.insert declLeast (declBelow.trans valBelow) _).insert valLeast valBelow _

theorem HandlesBelow.of_built (built : GattDatabase.Built db) : HandlesBelow db := by
  induction built with
  | new => exact ⟨UInt16.le_refl 1, List.forall_mem_nil _⟩
  | service _ added ih => exact ih.add added
  | descriptor _ added ih => exact ih.add added
  | plain _ added ih => exact ih.add added
  | characteristic _ added ih => exact ih.addCharacteristic added

end Registration

section Tables
variable {H : Type} {db : GattDatabase H} {ε : Type} {key : ε → UInt16}
  {entryOf : UInt16 × Attribute H → ε}

theorem nextHandle_follows {handle : UInt16} (last : handle ≠ 0xFFFF) (other : UInt16) :
    handle + 1 ≤ other ↔ handle < other := by
  have bound := handle.toNat_lt
  have different : handle.toNat ≠ 65535 := fun same => last (UInt16.toNat_inj.mp same)
  rw [UInt16.lt_iff_toNat_lt, UInt16.le_iff_toNat_le, UInt16.toNat_add]
  simp only [UInt16.reduceToNat]
  omega

theorem nextHandle_ne_zero {handle after : UInt16} (next : nextHandle handle = some after) :
    after ≠ 0 := by
  unfold nextHandle at next
  split at next
  · contradiction
  · rename_i last
    cases next
    intro zero
    have less := (nextHandle_follows last 0).mp (by rw [zero])
    exact absurd less (by simp [UInt16.lt_iff_toNat_lt])

theorem pageable_of_handlesBelow (key : ε → UInt16) (entryOf : UInt16 × Attribute H → ε)
    (below : HandlesBelow db) (wanted : UInt16 × Attribute H → Bool)
    (keyed : ∀ entry, key (entryOf entry) = entry.1) :
    Pageable key nextHandle ((db.attributes.entries.filter wanted).map entryOf) := by
  refine ⟨?_, ?_⟩
  · refine pairwise_map.mpr ((db.attributes.sorted.filter wanted).imp ?_)
    intro a b less
    rw [keyed, keyed]
    exact less
  · intro entry listed
    obtain ⟨attr, selected, rfl⟩ := mem_map.mp listed
    have last : attr.1 ≠ 0xFFFF := by
      rintro same
      have less := (below.handles attr (mem_of_mem_filter selected)).2
      rw [same, UInt16.lt_iff_toNat_lt] at less
      have bound := db.nextHandle.toNat_lt
      simp only [UInt16.reduceToNat] at less
      omega
    refine ⟨attr.1 + 1, by rw [nextHandle, keyed, if_neg last], ?_⟩
    intro other _
    rw [keyed]
    exact nextHandle_follows last _

theorem remaining_map (wanted : UInt16 × Attribute H → Bool)
    (keyed : ∀ entry, key (entryOf entry) = entry.1) (start : UInt16) :
    remaining key ((db.attributes.entries.filter wanted).map entryOf) start =
      ((db.attributes.rangeFrom start).filter wanted).map entryOf := by
  unfold remaining OrdMap.rangeFrom
  rw [filter_map, filter_comm]
  have same : (fun entry => decide (start ≤ key entry)) ∘ entryOf =
      fun entry => decide (start ≤ entry.1) := by
    funext entry
    simp only [Function.comp, keyed]
  rw [same]

end Tables

namespace VirtualDevice
variable {curve : P256} {H S : Type} {env : Env H S} {device : VirtualDevice curve H S}
  {connection start : UInt16}

section Responses

theorem not_last_handle_lt (start : UInt16) : ¬ start > 0xFFFF := by
  have bound := start.toNat_lt
  rw [gt_iff_lt, UInt16.lt_iff_toNat_lt]
  simp only [UInt16.reduceToNat]
  omega

theorem range_last (map : OrdMap UInt16 (Attribute H)) :
    map.range start 0xFFFF = map.rangeFrom start := by
  apply filter_congr
  intro entry _
  have within : entry.1 ≤ 0xFFFF := not_lt.mp (not_last_handle_lt entry.1)
  simp [within]

theorem discovered_notFound {ε : Type} (read : AttPdu → Option (List ε)) (op : UInt8)
    (handle : UInt16) : discovered read (errorRsp op handle ErrorCode.attributeNotFound) = some [] := by
  have parsed : AttPdu.parse (errorRsp op handle ErrorCode.attributeNotFound) =
      some (.errorRsp op handle ErrorCode.attributeNotFound) := by
    unfold errorRsp
    rw [AttPdu.parse_opcode]
    simp only [AttPdu.parseFields, takeU8, Option.bind_eq_bind, Option.bind_some,
      takeU16_toLeBytes]
    rfl
  unfold discovered
  rw [parsed]
  exact if_pos rfl

theorem parse_requestFrom (type : Bytes) :
    AttPdu.parse (requestFrom .findInformationReq type start) = some (.findInformationReq start 0xFFFF) ∧
    AttPdu.parse (requestFrom .readByTypeReq type start) = some (.readByTypeReq start 0xFFFF type) ∧
    AttPdu.parse (requestFrom .readByGroupTypeReq type start) =
      some (.readByGroupTypeReq start 0xFFFF type) := by
  refine ⟨?_, ?_, ?_⟩
  all_goals
    unfold requestFrom
    rw [AttPdu.parse_opcode]
    simp only [AttPdu.parseFields, Option.bind_eq_bind, Option.bind_some, takeU16_toLeBytes]
    rfl

theorem page_iff {ε : Type} {request : UInt16 → Bytes} {read : AttPdu → Option (List ε)}
    {response : Bytes} {batch : List ε}
    (answered : device.processAttPacket env connection (request start) =
      .ok (some response, device)) :
    device.Page env connection request read start batch ↔ discovered read response = some batch := by
  constructor
  · rintro ⟨other, same, found⟩
    rw [answered] at same
    cases same
    exact found
  · intro found
    exact ⟨response, answered, found⟩

theorem typeRange_ok (opcode : Opcode) (type : Uuid) (nonzero : start ≠ 0) :
    typeRange opcode start 0xFFFF type.toAttBytes = .ok type := by
  unfold typeRange
  rw [if_neg (not_or.mpr ⟨nonzero, not_last_handle_lt start⟩), Uuid.fromBytes_toAttBytes]

end Responses

section Information

theorem information_remaining (db : GattDatabase H) (start : UInt16) :
    db.findInformation start 0xFFFF = remaining Prod.fst db.information start := by
  unfold GattDatabase.findInformation GattDatabase.information remaining
  rw [if_neg (not_last_handle_lt start), range_last, filter_map]
  rfl

def informationPage : List (UInt16 × Uuid) → List (UInt16 × Uuid)
  | [] => []
  | first :: rest => sameWidth first rest

theorem page_information {batch : List (UInt16 × Uuid)} :
    device.Page env connection (requestFrom .findInformationReq []) readInformation start batch ↔
      batch = informationPage (remaining Prod.fst device.gattDb.information start) := by
  have answered : device.processAttPacket env connection (requestFrom .findInformationReq [] start) =
      .ok (some (device.onFindInformationReq start 0xFFFF), device) := by
    unfold processAttPacket
    rw [(parse_requestFrom []).1]
    rfl
  rw [page_iff answered, ← information_remaining]
  unfold onFindInformationReq
  cases device.gattDb.findInformation start 0xFFFF with
  | nil =>
    rw [discovered_notFound, Option.some.injEq, eq_comm]
    rfl
  | cons first rest =>
    have parsed (format : UInt8) (data : Bytes) :
        discovered readInformation (Opcode.findInformationRsp.byte :: format :: data) =
          readInformation (.findInformationRsp format data) := by
      unfold discovered
      rw [AttPdu.parse_opcode]
      rfl
    have widths : ∀ entry ∈ sameWidth first rest,
        (U16.toLeBytes entry.1 ++ entry.2.toAttBytes).length = 2 + first.2.len := by
      intro entry listed
      have same : entry.2.len = first.2.len := by simpa using (mem_filter.mp listed).2
      simp [same]
    rw [parsed]
    have listed : informationData (if first.2.len = 2 then formatUuid16 else formatUuid128)
        (first :: rest) = (sameWidth first rest).flatMap fun entry =>
          U16.toLeBytes entry.1 ++ entry.2.toAttBytes := by
      unfold informationData sameWidth
      simp only [informationItemLen_format]
    rw [listed]
    unfold readInformation
    dsimp only
    rw [(informationItemLen_format first.2 first.2).mpr rfl, Option.map_some]
    have data := dataList_flatMap (fun entry : UInt16 × Uuid => U16.toLeBytes entry.1)
      (fun entry => entry.2.toAttBytes) (sameWidth first rest)
      (fun entry _ => show (U16.toLeBytes entry.1).length = 2 from rfl) widths (by omega)
    rw [data, filterMap_map]
    have decoded : ((fun item : Bytes × Bytes =>
        (Uuid.fromBytes item.2).map fun uuid => (entryHandle item.1, uuid)) ∘
          fun entry : UInt16 × Uuid => (U16.toLeBytes entry.1, entry.2.toAttBytes)) = some := by
      funext entry
      simp only [Function.comp, Uuid.fromBytes_toAttBytes, Option.map_some]
      exact congrArg (fun handle => some (handle, entry.2)) (U16.fromLeBytes_toLeBytes entry.1)
    rw [decoded, filterMap_some, Option.some.injEq, eq_comm]
    rfl

variable {list : List (UInt16 × Uuid)}

theorem OneWidth.filter (one : OneWidth list) (kept : UInt16 × Uuid → Bool) :
    OneWidth (list.filter kept) := by
  obtain ⟨width, same⟩ := one
  exact ⟨width, fun entry listed => same entry (mem_of_mem_filter listed)⟩

theorem OneWidth.filter_prefix (one : OneWidth list) (width : Nat) :
    (list.filter fun entry => entry.2.len = width) <+: list := by
  obtain ⟨only, same⟩ := one
  by_cases equal : only = width
  · rw [filter_eq_self.mpr]
    intro entry listed
    simp [same entry listed, equal]
  · rw [filter_eq_nil_iff.mpr]
    · exact nil_prefix
    · intro entry listed
      simp [same entry listed, equal]

theorem informationPage_prefix {front back : List (UInt16 × Uuid)} (wide : OneWidth front)
    (narrow : OneWidth back) : informationPage (front ++ back) <+: front ++ back := by
  cases front with
  | nil =>
    rw [nil_append]
    cases back with
    | nil => exact nil_prefix
    | cons first rest => exact OneWidth.filter_prefix narrow first.2.len
  | cons first rest =>
    obtain ⟨width, same⟩ := wide
    have kept : ((first :: rest).filter fun entry => entry.2.len = first.2.len) = first :: rest := by
      rw [filter_eq_self]
      intro entry listed
      simp [same entry listed, same first mem_cons_self]
    have split : informationPage (first :: rest ++ back) =
        (first :: rest) ++ back.filter fun entry => entry.2.len = first.2.len := by
      change ((first :: rest) ++ back).filter (fun entry => entry.2.len = first.2.len) = _
      rw [filter_append, kept]
    rw [split]
    exact prefix_append_right_inj (first :: rest) |>.mpr
      (OneWidth.filter_prefix narrow first.2.len)

theorem oneWidth_of_ne (uuid : Uuid) (others : ∀ entry ∈ list, entry.2.len ≠ uuid.len) :
    OneWidth list := by
  refine ⟨18 - uuid.len, ?_⟩
  intro entry listed
  have differs := others entry listed
  revert differs
  cases entry.2 <;> cases uuid <;> simp [Uuid.len]

theorem remaining_one (below : HandlesBelow device.gattDb) :
    remaining Prod.fst device.gattDb.information 1 = device.gattDb.information := by
  unfold remaining
  rw [filter_eq_self]
  intro entry listed
  obtain ⟨attr, present, rfl⟩ := mem_map.mp listed
  simpa using (below.handles attr present).1

/-- Find Information finds every attribute exactly where the UUIDs change their
width once at most: a page skips what is not as wide as its first UUID. -/
theorem information_walk_iff (env : Env H S) (connection : UInt16)
    (below : HandlesBelow device.gattDb) :
    Walk (device.Page env connection (requestFrom .findInformationReq []) readInformation)
      Prod.fst nextHandle 1 device.gattDb.information ↔
    ∃ front back, device.gattDb.information = front ++ back ∧ OneWidth front ∧ OneWidth back := by
  have pageable : Pageable Prod.fst nextHandle device.gattDb.information := by
    have all := pageable_of_handlesBelow Prod.fst
      (fun entry : UInt16 × Attribute H => (entry.1, entry.2.uuid)) below (fun _ => true)
      (fun _ => rfl)
    rwa [filter_true] at all
  constructor
  · intro walk
    generalize found : device.gattDb.information = entries at walk
    cases walk with
    | finished => exact ⟨[], [], rfl, ⟨0, nofun⟩, ⟨0, nofun⟩⟩
    | @again _ batch last _ rest answered =>
      have page := page_information.mp answered
      rw [remaining_one below, found] at page
      obtain ⟨first, others, whole⟩ :
          ∃ first others, batch ++ last :: rest = first :: others := by
        cases batch with
        | nil => exact ⟨last, rest, rfl⟩
        | cons first batch => exact ⟨first, batch ++ last :: rest, rfl⟩
      rw [whole] at page
      have inside : ∀ entry ∈ batch ++ [last], entry.2.len = first.2.len := by
        intro entry listed
        rw [page] at listed
        simpa using (mem_filter.mp listed).2
      refine ⟨batch ++ [last], rest, by simp, ⟨first.2.len, inside⟩, oneWidth_of_ne first.2 ?_⟩
      have taken : (batch ++ [last]).filter (fun entry => entry.2.len = first.2.len) =
          batch ++ [last] := by
        rw [filter_eq_self]
        intro entry listed
        simpa using inside entry listed
      have split : (batch ++ [last]) ++ rest.filter (fun entry => entry.2.len = first.2.len) =
          batch ++ [last] := by
        calc (batch ++ [last]) ++ rest.filter (fun entry => entry.2.len = first.2.len)
            = ((batch ++ [last]) ++ rest).filter fun entry => entry.2.len = first.2.len := by
              rw [filter_append, taken]
          _ = (first :: others).filter fun entry => entry.2.len = first.2.len := by
              rw [← whole, append_assoc, singleton_append]
          _ = batch ++ [last] := page.symm
      intro entry listed same
      have kept : entry ∈ rest.filter fun entry => entry.2.len = first.2.len :=
        mem_filter.mpr ⟨listed, by simpa using same⟩
      rw [append_right_eq_self.mp split] at kept
      contradiction
  · rintro ⟨front, back, whole, wide, narrow⟩
    have walk := Walk.complete (device.Page env connection (requestFrom .findInformationReq [])
        readInformation) (fun start => start ≠ 0) pageable nextHandle_ne_zero
      (by
        intro start _
        refine ⟨_, page_information.mpr rfl, ?_, ?_⟩
        · unfold remaining
          rw [whole, filter_append]
          exact informationPage_prefix (OneWidth.filter wide _) (OneWidth.filter narrow _)
        · intro empty
          cases left : remaining Prod.fst device.gattDb.information start with
          | nil => rfl
          | cons first rest =>
            rw [left] at empty
            have listed : first ∈ sameWidth first rest :=
              mem_filter.mpr ⟨mem_cons_self, by simp⟩
            rw [show sameWidth first rest = [] from empty] at listed
            contradiction) (show (1 : UInt16) ≠ 0 by decide)
    rwa [remaining_one below] at walk

end Information

end VirtualDevice

section Lists
variable {H : Type} {db : GattDatabase H} {type : Uuid} {prefixLen : Nat} {ε : Type}
  {key : ε → UInt16} {valueOf : ε → Bytes} {entryOf : UInt16 × Attribute H → ε}
  {page : UInt16 → List ε → Prop}

def readableFrom (db : GattDatabase H) (type : Uuid) (start : UInt16) :
    List (UInt16 × Attribute H) :=
  (db.attributes.rangeFrom start).filter fun entry =>
    entry.2.uuid = type ∧ entry.2.permissions.read

def leading (first : UInt16 × Attribute H) (rest : List (UInt16 × Attribute H)) :
    List (UInt16 × Attribute H) :=
  (first :: rest).takeWhile fun entry => entry.2.value.length = first.2.value.length

/-- The pages of a request that reads by type. Where the first value is too long
for the length octet, a client reads the first entry with a shorter value. -/
structure ListPages (db : GattDatabase H) (type : Uuid) (prefixLen : Nat) (key : ε → UInt16)
    (valueOf : ε → Bytes) (entryOf : UInt16 × Attribute H → ε)
    (page : UInt16 → List ε → Prop) : Prop where
  keyed : ∀ entry, key (entryOf entry) = entry.1
  valued : ∀ entry, valueOf (entryOf entry) = entry.2.value
  empty : ∀ {start batch}, start ≠ 0 → readableFrom db type start = [] →
    (page start batch ↔ batch = [])
  short : ∀ {start first rest batch}, start ≠ 0 → readableFrom db type start = first :: rest →
    prefixLen + first.2.value.length ≤ 255 →
      (page start batch ↔ batch = (leading first rest).map entryOf)
  long : ∀ {start first rest batch}, start ≠ 0 → readableFrom db type start = first :: rest →
    255 < prefixLen + first.2.value.length → page start batch → ∀ item ∈ batch.head?,
      key item = first.1 ∧ (valueOf item).length ≠ first.2.value.length

theorem entry_eq {a b : UInt16 × Attribute H} (left : a ∈ db.attributes.entries)
    (right : b ∈ db.attributes.entries) (same : a.1 = b.1) : a = b :=
  inj_on_of_nodup_map db.attributes.keys_nodup left right same

theorem mem_readableFrom {start : UInt16} {entry : UInt16 × Attribute H} :
    entry ∈ readableFrom db type start ↔ entry ∈ db.attributes.entries ∧ start ≤ entry.1 ∧
      entry.2.uuid = type ∧ entry.2.permissions.read = true := by
  simp only [readableFrom, OrdMap.rangeFrom, mem_filter, decide_eq_true_eq, and_assoc]

theorem mem_leading {first entry : UInt16 × Attribute H} {rest : List (UInt16 × Attribute H)}
    (listed : entry ∈ leading first rest) :
    entry ∈ first :: rest ∧ entry.2.value.length = first.2.value.length :=
  ⟨(List.takeWhile_prefix _).subset listed, by simpa using mem_takeWhile_imp listed⟩

/-- One walk by type gets all it wants exactly where what it wants can be read
and fits a list entry. -/
theorem ListPages.walk_iff (pages : ListPages db type prefixLen key valueOf entryOf page)
    (below : HandlesBelow db) (wanted : UInt16 × Attribute H → Bool)
    (includes : ∀ entry, entry.2.uuid = type → entry.2.permissions.read = true →
      wanted entry = true) (only : ∀ entry, wanted entry = true → entry.2.uuid = type) :
    Walk page key nextHandle 1 ((db.attributes.entries.filter wanted).map entryOf) ↔
      ∀ entry ∈ db.attributes.entries, wanted entry = true →
        entry.2.permissions.read = true ∧ prefixLen + entry.2.value.length ≤ 255 := by
  have pageable := pageable_of_handlesBelow key entryOf below wanted pages.keyed
  have fromOne : remaining key ((db.attributes.entries.filter wanted).map entryOf) 1 =
      (db.attributes.entries.filter wanted).map entryOf := by
    unfold remaining
    rw [filter_eq_self]
    intro entry listed
    obtain ⟨attr, present, rfl⟩ := mem_map.mp listed
    rw [pages.keyed]
    simpa using (below.handles attr (mem_of_mem_filter present)).1
  have mem_remaining {start : UInt16} {item : ε} :
      item ∈ remaining key ((db.attributes.entries.filter wanted).map entryOf) start ↔
        ∃ entry ∈ db.attributes.entries, start ≤ entry.1 ∧ wanted entry = true ∧
          entryOf entry = item := by
    rw [remaining_map wanted pages.keyed]
    simp only [OrdMap.rangeFrom, mem_map, mem_filter, decide_eq_true_eq, and_assoc]
  constructor
  · intro walk
    have all := walk.pages pageable (motive := fun start => start ≠ 0 →
      ∀ entry ∈ db.attributes.entries, start ≤ entry.1 → wanted entry = true →
        entry.2.permissions.read = true ∧ prefixLen + entry.2.value.length ≤ 255) ?_ ?_ fromOne.symm
    · intro entry present
      exact all (by decide) entry present (below.handles entry present).1
    · intro start answered left nonzero entry present from' want
      have listed := mem_remaining.mpr ⟨entry, present, from', want, rfl⟩
      rw [left] at listed
      contradiction
    · intro start batch last after rest answered split behind left ih nonzero entry present from' want
      cases found : readableFrom db type start with
      | nil =>
        have none := (pages.empty nonzero found).mp answered
        simp at none
      | cons first others =>
        have read := mem_readableFrom.mp (found ▸ mem_cons_self :
          first ∈ readableFrom db type start)
        by_cases fits : prefixLen + first.2.value.length ≤ 255
        · have exact' := (pages.short nonzero found fits).mp answered
          have listed := mem_remaining.mpr ⟨entry, present, from', want, rfl⟩
          rw [split, append_cons, exact'] at listed
          rcases mem_append.mp listed with here | later
          · obtain ⟨lead, leads, same⟩ := mem_map.mp here
            obtain ⟨inside, length⟩ := mem_leading leads
            rw [← found] at inside
            obtain ⟨leadPresent, -, -, readable⟩ := mem_readableFrom.mp inside
            have keys : lead.1 = entry.1 := by rw [← pages.keyed, same, pages.keyed]
            obtain rfl := entry_eq leadPresent present keys
            exact ⟨readable, by omega⟩
          · rw [← left] at later
            obtain ⟨other, otherPresent, beyond, -, same⟩ := mem_remaining.mp later
            have keys : other.1 = entry.1 := by rw [← pages.keyed, same, pages.keyed]
            obtain rfl := entry_eq otherPresent present keys
            exact ih (nextHandle_ne_zero behind) other present beyond want
        · obtain ⟨item, leads⟩ : ∃ item, (batch ++ [last]).head? = some item := by
            cases batch <;> exact ⟨_, rfl⟩
          obtain ⟨handle, length⟩ := pages.long nonzero found (not_le.mp fits) answered item leads
          have listed : item ∈
              remaining key ((db.attributes.entries.filter wanted).map entryOf) start := by
            rw [split, append_cons]
            exact mem_append_left _ (mem_of_mem_head? leads)
          obtain ⟨other, otherPresent, -, -, rfl⟩ := mem_remaining.mp listed
          obtain rfl := entry_eq otherPresent read.1 (by rw [← handle, pages.keyed])
          exact absurd (by rw [pages.valued]) length
  · intro condition
    have same (start : UInt16) : remaining key ((db.attributes.entries.filter wanted).map entryOf)
        start = (readableFrom db type start).map entryOf := by
      rw [remaining_map wanted pages.keyed]
      congr 1
      apply filter_congr
      intro entry listed
      cases want : wanted entry with
      | true =>
        have readable := (condition entry (mem_of_mem_filter listed) want).1
        simp [only entry want, readable]
      | false =>
        simp only [Bool.false_eq, decide_eq_false_iff_not, not_and]
        intro typed readable
        rw [includes entry typed readable] at want
        contradiction
    have walk := Walk.complete page (fun start => start ≠ 0) pageable
      nextHandle_ne_zero (by
        intro start nonzero
        rw [same]
        cases found : readableFrom db type start with
        | nil => exact ⟨[], (pages.empty nonzero found).mpr rfl, nil_prefix, fun _ => rfl⟩
        | cons first rest =>
          have read := mem_readableFrom.mp (found ▸ mem_cons_self :
            first ∈ readableFrom db type start)
          have fits := (condition first read.1 (includes first read.2.2.1 read.2.2.2)).2
          refine ⟨_, (pages.short nonzero found fits).mpr rfl, ?_, ?_⟩
          · exact (List.takeWhile_prefix _).map entryOf
          · intro empty
            simp [leading] at empty) (show (1 : UInt16) ≠ 0 by decide)
    rwa [fromOne] at walk

/-- A length octet that wraps makes a client read a shorter first entry. -/
theorem items_head {size : Nat} {head value more : Bytes} {chunks : List (Bytes × Bytes)}
    (heads : head.length = prefixLen) (values : value.length = size) (long : 255 < prefixLen + size)
    (read : items prefixLen (UInt8.ofNat (prefixLen + size)) (head ++ value ++ more) =
      some chunks) : ∀ chunk ∈ chunks.head?, chunk.1 = head ∧ chunk.2.length ≠ size := by
  unfold items at read
  split at read
  · contradiction
  · rename_i enough
    cases read
    have octet : (UInt8.ofNat (prefixLen + size)).toNat = (prefixLen + size) % 256 :=
      UInt8.toNat_ofNat'
    rw [octet] at enough ⊢
    obtain ⟨count, wraps⟩ : ∃ count, (prefixLen + size) % 256 = count := ⟨_, rfl⟩
    rw [wraps] at enough ⊢
    unfold dataList
    split
    · nofun
    · rintro chunk found
      cases found
      rw [take_take, append_assoc, Nat.min_eq_left (not_lt.mp enough), ← heads,
        take_left]
      refine ⟨rfl, ?_⟩
      rw [length_drop, length_take, length_append, length_append]
      omega

end Lists

namespace VirtualDevice
variable {curve : P256} {H S : Type} {env : Env H S} {device : VirtualDevice curve H S}
  {connection : UInt16}

section Requests

def valueOf {H : Type} (entry : UInt16 × Attribute H) : UInt16 × Bytes := (entry.1, entry.2.value)

theorem readByType_from (db : GattDatabase H) (type : Uuid) (start : UInt16) :
    db.readByType start 0xFFFF type = (readableFrom db type start).map valueOf := by
  unfold GattDatabase.readByType
  rw [if_neg (not_last_handle_lt start), range_last]
  rfl

theorem sameLength_map (first : UInt16 × Attribute H) (rest : List (UInt16 × Attribute H)) :
    sameLength (valueOf first) (rest.map valueOf) = (leading first rest).map valueOf := by
  unfold sameLength leading
  rw [← map_cons, takeWhile_map]
  rfl

theorem leading_eq (first : UInt16 × Attribute H) (rest : List (UInt16 × Attribute H)) :
    ∃ more, leading first rest = first :: more :=
  ⟨_, takeWhile_cons_of_pos (by simp)⟩

theorem discovered_values (length : UInt8) (data : Bytes) :
    discovered readValues (Opcode.readByTypeRsp.byte :: length :: data) =
      (items 2 length data).map fun list => list.map fun item => (entryHandle item.1, item.2) := by
  unfold discovered
  rw [AttPdu.parse_opcode]
  rfl

theorem discovered_groups (length : UInt8) (data : Bytes) :
    discovered readGroups (Opcode.readByGroupTypeRsp.byte :: length :: data) =
      (items 4 length data).map fun list => list.map fun item =>
        (entryHandle item.1, entryHandle (item.1.drop 2), item.2) := by
  unfold discovered
  rw [AttPdu.parse_opcode]
  rfl

@[simp] theorem entryHandle_toLeBytes (handle : UInt16) (rest : Bytes) :
    entryHandle (U16.toLeBytes handle ++ rest) = handle :=
  U16.fromLeBytes_toLeBytes handle

theorem listPages_of {ε : Type} {type : Uuid} {prefixLen : Nat} (asked opcode : Opcode)
    {request : UInt16 → Bytes} {read : AttPdu → Option (List ε)} (itemOf : Bytes × Bytes → ε)
    (head : UInt16 × Attribute H → Bytes) {key : ε → UInt16} {value : ε → Bytes}
    (positive : 0 < prefixLen) (heads : ∀ entry, (head entry).length = prefixLen)
    (decoded : ∀ length data, discovered read (opcode.byte :: length :: data) =
      (items prefixLen length data).map fun list => list.map itemOf)
    (keyed : ∀ entry bytes, key (itemOf (head entry, bytes)) = entry.1)
    (valued : ∀ front bytes, value (itemOf (front, bytes)) = bytes)
    (refused : ∀ {start}, start ≠ 0 → readableFrom device.gattDb type start = [] →
      device.processAttPacket env connection (request start) =
        .ok (some (errorRsp asked.byte start ErrorCode.attributeNotFound), device))
    (answered : ∀ {start first rest}, start ≠ 0 →
      readableFrom device.gattDb type start = first :: rest →
      device.processAttPacket env connection (request start) =
        .ok (some (opcode.byte :: UInt8.ofNat (prefixLen + first.2.value.length) ::
          (leading first rest).flatMap fun entry => head entry ++ entry.2.value), device)) :
    ListPages device.gattDb type prefixLen key value
      (fun entry => itemOf (head entry, entry.2.value)) (device.Page env connection request read) := by
  refine ⟨fun entry => keyed entry _, fun entry => valued _ _, ?_, ?_, ?_⟩
  · intro start batch nonzero found
    rw [page_iff (refused nonzero found), discovered_notFound, Option.some.injEq, eq_comm]
  · intro start first rest batch nonzero found fits
    have listed := (length_list_iff opcode head (fun entry => entry.2.value) (leading first rest)
      (fun entry _ => heads entry) (fun _ inside => (mem_leading inside).2) positive).2.2 fits
    rw [page_iff (answered nonzero found), decoded, listed, Option.map_some, map_map,
      Option.some.injEq, eq_comm]
    rfl
  · intro start first rest batch nonzero found long answer item leads
    rw [page_iff (answered nonzero found), decoded] at answer
    obtain ⟨chunks, read, rfl⟩ := Option.map_eq_some_iff.mp answer
    obtain ⟨more, split⟩ := leading_eq first rest
    rw [split, flatMap_cons] at read
    rw [Option.mem_def, List.head?_map] at leads
    obtain ⟨⟨front, bytes⟩, leader, rfl⟩ := Option.map_eq_some_iff.mp leads
    obtain ⟨rfl, length⟩ := items_head (heads first) rfl long read _ leader
    exact ⟨keyed first bytes, (valued _ bytes).symm ▸ length⟩

theorem valuePages (env : Env H S) (connection : UInt16) (type : Uuid) :
    ListPages device.gattDb type 2 Prod.fst Prod.snd valueOf
      (device.Page env connection (requestFrom .readByTypeReq type.toAttBytes) readValues) := by
  have answered {start : UInt16} {answer : Bytes}
      (responded : device.onReadByTypeReq start 0xFFFF type.toAttBytes = answer) :
      device.processAttPacket env connection (requestFrom .readByTypeReq type.toAttBytes start) =
        .ok (some answer, device) := by
    unfold processAttPacket
    rw [(parse_requestFrom _).2.1, ← responded]
    rfl
  have handle (entry : UInt16 × Attribute H) : entryHandle (U16.toLeBytes entry.1) = entry.1 :=
    entryHandle_toLeBytes entry.1 []
  have same : (fun entry : UInt16 × Attribute H =>
      (entryHandle (U16.toLeBytes entry.1), entry.2.value)) = valueOf :=
    funext fun entry => congrArg (fun handle => (handle, entry.2.value)) (handle entry)
  rw [← same]
  refine listPages_of .readByTypeReq .readByTypeRsp (fun item => (entryHandle item.1, item.2))
    (fun entry => U16.toLeBytes entry.1) (show 0 < 2 by decide) (fun _ => rfl) discovered_values
    (fun entry _ => handle entry) (fun _ _ => rfl) (fun nonzero found => answered ?_)
    fun nonzero found => answered ?_
  · unfold onReadByTypeReq
    rw [typeRange_ok _ type nonzero]
    dsimp only
    rw [readByType_from, found]
    rfl
  · unfold onReadByTypeReq
    rw [typeRange_ok _ type nonzero]
    dsimp only
    rw [readByType_from, found, map_cons]
    dsimp only
    rw [sameLength_map, flatMap_map]
    rfl

/-- A service as a client learns of it. -/
def groupOf (db : GattDatabase H) (entry : UInt16 × Attribute H) : UInt16 × UInt16 × Bytes :=
  (entry.1, GattDatabase.groupEnd entry.1 (db.attributes.rangeFrom (entry.1 + 1)), entry.2.value)

theorem groupData_map {list : List (UInt16 × Attribute H)}
    (handles : ∀ entry ∈ list, entry.1 ≠ 0xFFFF) :
    device.groupData (list.map valueOf) = .ok (list.map (groupOf device.gattDb)) := by
  induction list with
  | nil => rfl
  | cons first rest ih =>
    have tail := ih fun entry listed => handles entry (mem_cons_of_mem _ listed)
    have ended : device.gattDb.groupEndHandle first.1 =
        .ok (GattDatabase.groupEnd first.1 (device.gattDb.attributes.rangeFrom (first.1 + 1))) :=
      if_neg (handles first mem_cons_self)
    unfold groupData at tail ⊢
    rw [map_cons, mapM_cons, tail]
    simp only [valueOf, ended, Rust.ok_bind]
    rfl

theorem groupPages (env : Env H S) (connection : UInt16) (below : HandlesBelow device.gattDb) (type : Uuid) :
    ListPages device.gattDb type 4 Prod.fst (fun group => group.2.2) (groupOf device.gattDb)
      (device.Page env connection (requestFrom .readByGroupTypeReq type.toAttBytes) readGroups) := by
  have notLast {start : UInt16} {first : UInt16 × Attribute H} {rest : List (UInt16 × Attribute H)}
      (found : readableFrom device.gattDb type start = first :: rest) :
      ∀ entry ∈ leading first rest, entry.1 ≠ 0xFFFF := by
    rintro entry listed last
    have inside := (mem_leading listed).1
    rw [← found] at inside
    have less := (below.handles entry (mem_readableFrom.mp inside).1).2
    rw [last] at less
    exact not_last_handle_lt _ less
  have answered {start : UInt16} {answer : Bytes}
      (responded : device.onReadByGroupTypeReq start 0xFFFF type.toAttBytes = .ok answer) :
      device.processAttPacket env connection
        (requestFrom .readByGroupTypeReq type.toAttBytes start) = .ok (some answer, device) := by
    unfold processAttPacket
    rw [(parse_requestFrom _).2.2]
    unfold dispatchAtt
    dsimp only
    rw [responded]
    rfl
  have stop (entry : UInt16 × Attribute H) : entryHandle ((U16.toLeBytes entry.1 ++
      U16.toLeBytes (groupOf device.gattDb entry).2.1).drop 2) = (groupOf device.gattDb entry).2.1 :=
    entryHandle_toLeBytes (groupOf device.gattDb entry).2.1 []
  have same : (fun entry : UInt16 × Attribute H =>
      let head := U16.toLeBytes entry.1 ++ U16.toLeBytes (groupOf device.gattDb entry).2.1
      (entryHandle head, entryHandle (head.drop 2), entry.2.value)) = groupOf device.gattDb := by
    funext entry
    simp only [stop, entryHandle_toLeBytes]
    rfl
  rw [← same]
  refine listPages_of .readByGroupTypeReq .readByGroupTypeRsp
    (fun item => (entryHandle item.1, entryHandle (item.1.drop 2), item.2))
    (fun entry => U16.toLeBytes entry.1 ++ U16.toLeBytes (groupOf device.gattDb entry).2.1)
    (show 0 < 4 by decide) (fun _ => rfl) discovered_groups
    (fun entry _ => entryHandle_toLeBytes entry.1 (U16.toLeBytes (groupOf device.gattDb entry).2.1))
    (fun _ _ => rfl) (fun nonzero found => answered ?_) fun nonzero found => answered ?_
  · unfold onReadByGroupTypeReq
    rw [typeRange_ok _ type nonzero]
    dsimp only
    rw [readByType_from, found]
    rfl
  · unfold onReadByGroupTypeReq
    rw [typeRange_ok _ type nonzero]
    dsimp only
    rw [readByType_from, found, map_cons]
    dsimp only
    rw [sameLength_map, groupData_map (notLast found), Rust.ok_bind, flatMap_map]
    rfl

end Requests

end VirtualDevice

/-- Discovery finds all there is exactly in the databases it can be done in. -/
theorem discovers_iff {curve : P256} {H S : Type} (env : Env H S)
    (device : VirtualDevice curve H S) (connection : UInt16)
    (built : GattDatabase.Built device.gattDb) :
    device.Discovers env connection ↔ Discoverable device.gattDb := by
  have below := HandlesBelow.of_built built
  have information := device.information_walk_iff env connection below
  have services := (device.groupPages env connection below
    .primaryService).walk_iff below (fun entry => entry.2.uuid = .primaryService)
      (fun _ typed _ => decide_eq_true typed) (fun _ => of_decide_eq_true)
  have characteristics := (device.valuePages env connection
    .characteristic).walk_iff below
      (fun entry => entry.2.uuid = .characteristic ∧ entry.2.permissions.read)
      (fun _ typed readable => decide_eq_true ⟨typed, readable⟩)
      (fun _ wanted => (of_decide_eq_true wanted).1)
  constructor
  · intro found
    refine ⟨information.mp found.information, ?_, ?_⟩
    · intro entry listed typed
      exact services.mp found.services entry listed (decide_eq_true typed)
    · intro entry listed typed readable
      exact (characteristics.mp found.characteristics entry listed
        (decide_eq_true ⟨typed, readable⟩)).2
  · intro able
    refine ⟨information.mpr able.widths, services.mpr ?_, characteristics.mpr ?_⟩
    · intro entry listed typed
      exact able.services entry listed (of_decide_eq_true typed)
    · intro entry listed wanted
      obtain ⟨typed, readable⟩ := of_decide_eq_true wanted
      exact ⟨readable, able.characteristics entry listed typed readable⟩

/-- A service with one characteristic and its CCCD. -/
def notifying (uuid : Uuid) : Rust (GattDatabase Unit) := do
  let (_, db) ← GattDatabase.new.addService (.uuid16 0x180F) true
  let (_, db) ← db.addCharacteristic uuid 0x10 [0x64] .default
  let (_, db) ← db.addDescriptor .cccd [0x00, 0x00] .default
  pure db

theorem built_notifying {uuid : Uuid} {db : GattDatabase Unit} (made : notifying uuid = .ok db) :
    GattDatabase.Built db := by
  obtain ⟨⟨_, first⟩, service, made⟩ := Rust.bind_eq_ok.mp made
  obtain ⟨⟨_, second⟩, characteristic, made⟩ := Rust.bind_eq_ok.mp made
  obtain ⟨⟨_, third⟩, descriptor, made⟩ := Rust.bind_eq_ok.mp made
  cases made
  exact .descriptor (.characteristic (.service .new service) characteristic) descriptor

theorem discovers_battery_level : ∃ db, notifying (.uuid16 0x2A19) = .ok db ∧
    ({ controlDevice with gattDb := db } : VirtualDevice noCurve Unit Unit).Discovers
      controlPoint 0x40 := by
  obtain ⟨db, made, entries⟩ : ∃ db, notifying (.uuid16 0x2A19) = .ok db ∧ db.attributes.entries =
      [(1, ⟨.primaryService, [0x0F, 0x18], .readOnly, none⟩),
        (2, ⟨.characteristic, [0x10, 0x03, 0x00, 0x19, 0x2A], .readOnly, none⟩),
        (3, ⟨.uuid16 0x2A19, [0x64], .default, none⟩),
        (4, ⟨.cccd, [0x00, 0x00], .default, none⟩)] := ⟨_, rfl, rfl⟩
  refine ⟨db, made, (discovers_iff controlPoint _ 0x40 (built_notifying made)).mpr ⟨?_, ?_, ?_⟩⟩
  · refine ⟨db.information, [], (append_nil _).symm, ⟨2, ?_⟩, ⟨2, nofun⟩⟩
    unfold GattDatabase.information
    rw [entries]
    decide
  · rw [entries]
    decide
  · rw [entries]
    decide

/-- A characteristic with a 128-bit UUID stands between 16-bit ones, and Find
Information never gives it. -/
theorem not_discovers : ∃ db, notifying (.uuid128 .zero) = .ok db ∧ GattDatabase.Built db ∧
    db.information = [(1, .primaryService), (2, .characteristic), (3, .uuid128 .zero), (4, .cccd)] ∧
    ({ controlDevice with gattDb := db } : VirtualDevice noCurve Unit Unit).Page controlPoint 0x40
      (requestFrom .findInformationReq []) readInformation 1
      [(1, .primaryService), (2, .characteristic), (4, .cccd)] ∧
    ¬ ({ controlDevice with gattDb := db } : VirtualDevice noCurve Unit Unit).Discovers
      controlPoint 0x40 := by
  obtain ⟨db, made, information⟩ : ∃ db, notifying (.uuid128 .zero) = .ok db ∧ db.information =
      [(1, .primaryService), (2, .characteristic), (3, .uuid128 .zero), (4, .cccd)] := ⟨_, rfl, rfl⟩
  have below := HandlesBelow.of_built (built_notifying made)
  refine ⟨db, made, built_notifying made, information, ?_, ?_⟩
  · rw [VirtualDevice.page_information, VirtualDevice.remaining_one below, information]
    decide
  · intro found
    obtain ⟨front, back, split, ⟨wide, fronts⟩, ⟨narrow, backs⟩⟩ :=
      (VirtualDevice.information_walk_iff _ _ below).mp found.information
    rw [information] at split
    rcases front with _ | ⟨a, _ | ⟨b, _ | ⟨c, front⟩⟩⟩
    all_goals
      simp only [nil_append, cons_append, List.cons.injEq] at split
    · subst split
      have two := backs (1, .primaryService) (by decide)
      have sixteen := backs (3, .uuid128 .zero) (by decide)
      exact absurd (two.trans sixteen.symm) (by decide)
    · obtain ⟨-, rfl⟩ := split
      have two := backs (2, .characteristic) (by decide)
      have sixteen := backs (3, .uuid128 .zero) (by decide)
      exact absurd (two.trans sixteen.symm) (by decide)
    · obtain ⟨-, -, rfl⟩ := split
      have two := backs (4, .cccd) (by decide)
      have sixteen := backs (3, .uuid128 .zero) (by decide)
      exact absurd (two.trans sixteen.symm) (by decide)
    · obtain ⟨rfl, -, rfl, -⟩ := split
      have two := fronts (1, .primaryService) mem_cons_self
      have sixteen := fronts (3, .uuid128 .zero) (by simp)
      exact absurd (two.trans sixteen.symm) (by decide)

end Device
end Simble
