import Simble.Sdp.Client

/-! What a search finds: the server answers with the records that have any of the UUIDs of
a pattern, and with an attribute for each range that covers it. -/
namespace Simble.Sdp
open List

inductive DataElement.Occurs (uuid : SdpUuid) : DataElement → Prop where
  | here : Occurs uuid (.uuid uuid)
  | inside {items : List DataElement} {item : DataElement} (among : item ∈ items)
      (deeper : Occurs uuid item) : Occurs uuid (.sequence items)

namespace DataElement

theorem anyHasUuid_iff (uuid : SdpUuid) (items : List DataElement) :
    anyHasUuid uuid items ↔ ∃ item ∈ items, hasUuid uuid item := by
  induction items with
  | nil => simp [anyHasUuid]
  | cons item rest ih => simp [anyHasUuid, ih]

theorem occurs_of_hasUuid {uuid : SdpUuid} :
    (element : DataElement) → element.hasUuid uuid → Occurs uuid element
  | .uuid value, same => by
    obtain rfl : value = uuid := by simpa [hasUuid] using same
    exact .here
  | .sequence items, within => by
    rw [hasUuid, anyHasUuid_iff] at within
    obtain ⟨item, among, deeper⟩ := within
    exact .inside among (occurs_of_hasUuid item deeper)

theorem hasUuid_iff (uuid : SdpUuid) (element : DataElement) :
    element.hasUuid uuid ↔ Occurs uuid element := by
  constructor
  · exact occurs_of_hasUuid element
  · intro occurs
    induction occurs with
    | here => simp [hasUuid]
    | inside among _ ih =>
      rw [hasUuid, anyHasUuid_iff]
      exact ⟨_, among, ih⟩

end DataElement

def HasUuid (service : Service) (uuid : SdpUuid) : Prop :=
  ∃ entry ∈ service, entry.value.Occurs uuid

def Covers (element : DataElement) (id : UInt16) : Prop :=
  ∃ range ∈ SdpServer.idRange element, range.1 ≤ id ∧ id ≤ range.2

instance (element : DataElement) (id : UInt16) : Decidable (Covers element id) :=
  decidable_of_iff ((SdpServer.idRange element).any fun range => range.1 ≤ id ∧ id ≤ range.2)
    (by simp [Covers, Option.any_eq_true])

open DataElement

namespace SdpServer
variable {server : SdpServer}

theorem mem_matchServices {uuids : List SdpUuid} {handle : UInt32} :
    handle ∈ server.matchServices (encodeUuids uuids) ↔
      ∃ service, (handle, service) ∈ server.serviceRecords ∧ ∃ uuid ∈ uuids, HasUuid service uuid := by
  have named : (uuids.map DataElement.uuid).filterMap asUuid = uuids := by
    rw [filterMap_map]
    exact filterMap_some
  rw [matchServices, encodeUuids, asSequence, Option.getD_some, named]
  simp [hasUuid_iff, HasUuid]

theorem matchServices_nodup (keys : (server.serviceRecords.map Prod.fst).Nodup)
    (pattern : DataElement) : (server.matchServices pattern).Nodup :=
  keys.sublist (List.filter_sublist.map Prod.fst)

/-- A search finds the records that have all of the UUIDs exactly if no record has some of
them and not the others. -/
theorem matchServices_exact (keys : (server.serviceRecords.map Prod.fst).Nodup)
    {uuids : List SdpUuid} (some : uuids ≠ []) :
    (∀ handle, handle ∈ server.matchServices (encodeUuids uuids) ↔
        ∃ service, (handle, service) ∈ server.serviceRecords ∧ ∀ uuid ∈ uuids, HasUuid service uuid) ↔
      ∀ record ∈ server.serviceRecords, (∃ uuid ∈ uuids, HasUuid record.2 uuid) →
        ∀ uuid ∈ uuids, HasUuid record.2 uuid := by
  constructor
  · intro exact_ record held partly
    obtain ⟨service, same, all⟩ := (exact_ record.1).mp (mem_matchServices.mpr ⟨_, held, partly⟩)
    have equal : (record.1, service) = record :=
      inj_on_of_nodup_map keys same held rfl
    rw [← equal]
    exact all
  · intro whole handle
    rw [mem_matchServices]
    constructor
    · rintro ⟨service, held, partly⟩
      exact ⟨service, held, whole _ held partly⟩
    · rintro ⟨service, held, all⟩
      obtain ⟨uuid, among⟩ := exists_mem_of_ne_nil _ some
      exact ⟨service, held, uuid, among, all uuid among⟩

/-! ## Attributes -/

def answered (entry : ServiceAttribute) : List DataElement :=
  [.unsignedInteger entry.id.toUInt64 2, entry.value]

theorem answered_injective {first second : List ServiceAttribute}
    (same : first.flatMap answered = second.flatMap answered) : first = second := by
  induction first generalizing second with
  | nil =>
    cases second with
    | nil => rfl
    | cons entry rest => cases same
  | cons entry rest ih =>
    cases second with
    | nil => cases same
    | cons other others =>
      simp only [flatMap_cons, answered, cons_append, nil_append, List.cons.injEq,
        unsignedInteger.injEq] at same
      obtain ⟨⟨ids, -⟩, values, rests⟩ := same
      have identifiers : entry.id = other.id := by
        have := congrArg UInt64.toNat ids
        exact UInt16.toNat_inj.mp (by simpa using this)
      rw [ih rests]
      cases entry
      cases other
      cases identifiers
      cases values
      rfl

def covering (ids : List DataElement) (entry : ServiceAttribute) : Nat :=
  ids.countP fun element => Covers element entry.id

variable (service : Service)

theorem named_perm (ids : List DataElement) :
    List.Perm ((ids.filterMap idRange).flatMap fun range =>
        service.filter fun entry => range.1 ≤ entry.id ∧ entry.id ≤ range.2)
      (service.flatMap fun entry => List.replicate (covering ids entry) entry) := by
  induction ids with
  | nil => simp [covering]
  | cons element ids ih =>
    cases range : idRange element with
    | none =>
      have uncovered (entry : ServiceAttribute) : covering (element :: ids) entry = covering ids entry :=
        countP_cons_of_neg (by simp [Covers, range])
      rw [filterMap_cons_none range]
      simpa only [uncovered] using ih
    | some bounds =>
      have each (entry : ServiceAttribute) : List.replicate (covering (element :: ids) entry) entry =
          (if bounds.1 ≤ entry.id ∧ entry.id ≤ bounds.2 then [entry] else []) ++
            List.replicate (covering ids entry) entry := by
        have covers : Covers element entry.id ↔ bounds.1 ≤ entry.id ∧ entry.id ≤ bounds.2 := by
          simp [Covers, range]
        by_cases inside : bounds.1 ≤ entry.id ∧ entry.id ≤ bounds.2
        · rw [if_pos inside, covering, countP_cons,
            if_pos (decide_eq_true (covers.mpr inside)), replicate_succ]
          rfl
        · rw [if_neg inside, covering, countP_cons,
            if_neg (by simpa using fun covered => inside (covers.mp covered))]
          rfl
      have chosen : (service.filter fun entry => bounds.1 ≤ entry.id ∧ entry.id ≤ bounds.2) =
          service.flatMap fun entry =>
            if bounds.1 ≤ entry.id ∧ entry.id ≤ bounds.2 then [entry] else [] := by
        clear ih
        induction service with
        | nil => rfl
        | cons entry rest ih =>
          rw [flatMap_cons, ← ih, filter_cons]
          simp only [decide_eq_true_eq]
          split_ifs <;> rfl
      rw [filterMap_cons_some range, flatMap_cons, chosen]
      simp only [each]
      exact (ih.append_left _).trans (flatMap_append_perm _ _ _)

theorem getServiceAttributes_eq (ids : List DataElement) :
    ∃ entries : List ServiceAttribute,
      getServiceAttributes service ids = .sequence (entries.flatMap answered) ∧
      entries.Pairwise (fun a b => a.id ≤ b.id) ∧
      entries.Perm (service.flatMap fun entry => List.replicate (covering ids entry) entry) := by
  refine ⟨_, rfl, ?_, (perm_insertionSort _ _).trans (named_perm service ids)⟩
  have total : Std.Total fun a b : ServiceAttribute => a.id ≤ b.id := ⟨fun a b => UInt16.le_total _ _⟩
  have transitive : IsTrans ServiceAttribute fun a b => a.id ≤ b.id :=
    ⟨fun _ _ _ => UInt16.le_trans⟩
  exact pairwise_insertionSort _ _

theorem covering_pos {ids : List DataElement} {entry : ServiceAttribute} :
    0 < covering ids entry ↔ ∃ element ∈ ids, Covers element entry.id := by
  simp [covering, countP_pos_iff]

/-- Naming every attribute as often as it is covered names no fewer, and as many only if none is
covered twice. -/
theorem named_length (ids : List DataElement) :
    let named := service.flatMap fun entry => List.replicate (covering ids entry) entry
    let covered := service.filter fun entry => 0 < covering ids entry
    covered.length ≤ named.length ∧
      (covered.length = named.length → ∀ entry ∈ service, covering ids entry ≤ 1) := by
  induction service with
  | nil => simp
  | cons entry rest ih =>
    obtain ⟨fewer, equal⟩ := ih
    simp only [flatMap_cons, length_append, length_replicate, filter_cons,
      decide_eq_true_eq, forall_mem_cons] at fewer equal ⊢
    split_ifs with covered
    · rw [length_cons]
      exact ⟨by omega, fun same => ⟨by omega, equal (by omega)⟩⟩
    · exact ⟨by omega, fun same => ⟨by omega, equal (by omega)⟩⟩

/-- The attributes that are covered are named once each exactly if none is covered twice. -/
theorem once_iff (ids : List DataElement) :
    List.Perm (service.flatMap fun entry => List.replicate (covering ids entry) entry)
        (service.filter fun entry => 0 < covering ids entry) ↔
      ∀ entry ∈ service, covering ids entry ≤ 1 := by
  constructor
  · intro same
    exact (named_length service ids).2 same.length_eq.symm
  · intro once
    apply List.Perm.of_eq
    induction service with
    | nil => rfl
    | cons entry rest ih =>
      obtain ⟨here, later⟩ := List.forall_mem_cons.mp once
      rw [flatMap_cons, ih later, filter_cons]
      simp only [decide_eq_true_eq]
      split_ifs with covered
      · rw [show covering ids entry = 1 by omega]
        rfl
      · rw [show covering ids entry = 0 by omega]
        rfl

theorem getServiceAttributes_exact (ids : List DataElement) :
    (∃ entries : List ServiceAttribute,
        getServiceAttributes service ids = .sequence (entries.flatMap answered) ∧
        entries.Pairwise (fun a b => a.id ≤ b.id) ∧
        entries.Perm (service.filter fun entry => ∃ element ∈ ids, Covers element entry.id)) ↔
      ∀ entry ∈ service, covering ids entry ≤ 1 := by
  obtain ⟨entries, answers, sorted, perm⟩ := getServiceAttributes_eq service ids
  rw [← once_iff]
  simp only [← covering_pos]
  constructor
  · rintro ⟨others, same, -, others_perm⟩
    rw [answers] at same
    obtain rfl := answered_injective (sequence.inj same)
    exact perm.symm.trans others_perm
  · intro once
    exact ⟨entries, answers, sorted, perm.trans once⟩

end SdpServer

/-- A search finds each record with all of the UUIDs once, and no other, exactly if no record has
some of them and not the others; the attributes asked for are answered once each, in order, exactly
if no two of the identifiers and ranges asked for cover one. -/
theorem search_finds_all (server : SdpServer) (uuids : List SdpUuid) (service : Service)
    (ids : List DataElement) (keys : (server.serviceRecords.map Prod.fst).Nodup)
    (some : uuids ≠ []) :
    (((server.matchServices (encodeUuids uuids)).Nodup ∧
        ∀ handle, handle ∈ server.matchServices (encodeUuids uuids) ↔
          ∃ service, (handle, service) ∈ server.serviceRecords ∧
            ∀ uuid ∈ uuids, HasUuid service uuid) ↔
      ∀ record ∈ server.serviceRecords, (∃ uuid ∈ uuids, HasUuid record.2 uuid) →
        ∀ uuid ∈ uuids, HasUuid record.2 uuid) ∧
    ((∃ entries : List ServiceAttribute,
        SdpServer.getServiceAttributes service ids =
          .sequence (entries.flatMap SdpServer.answered) ∧
        entries.Pairwise (fun a b => a.id ≤ b.id) ∧
        entries.Perm (service.filter fun entry => ∃ element ∈ ids, Covers element entry.id)) ↔
      ∀ entry ∈ service, SdpServer.covering ids entry ≤ 1) := by
  refine ⟨?_, SdpServer.getServiceAttributes_exact service ids⟩
  rw [and_iff_right (SdpServer.matchServices_nodup keys _)]
  exact SdpServer.matchServices_exact keys some

/-- A record of two UUIDs, and one of another. -/
def browsing : SdpServer :=
  ⟨[(1, [⟨1, .sequence [.uuid (.uuid16 0x1101), .uuid (.uuid16 0x1112)]⟩]),
    (2, [⟨1, .uuid (.uuid16 0x110A)⟩])], none⟩

/-- The record that has both is found; attribute 2, in two ranges, is answered twice. -/
theorem search_finds_all_two :
    (∀ handle, handle ∈ browsing.matchServices (encodeUuids [.uuid16 0x1101, .uuid16 0x1112]) ↔
      ∃ service, (handle, service) ∈ browsing.serviceRecords ∧
        ∀ uuid ∈ [.uuid16 0x1101, .uuid16 0x1112], HasUuid service uuid) ∧
    ¬ ∃ entries : List ServiceAttribute, SdpServer.getServiceAttributes [⟨2, .nil⟩, ⟨5, .nil⟩]
        [.unsignedInteger 0x00000003 4, .unsignedInteger 0x0002FFFF 4] =
          .sequence (entries.flatMap SdpServer.answered) ∧
        entries.Pairwise (fun a b => a.id ≤ b.id) ∧
        entries.Perm (([⟨2, .nil⟩, ⟨5, .nil⟩] : Service).filter fun entry =>
          ∃ element ∈ [DataElement.unsignedInteger 0x00000003 4, .unsignedInteger 0x0002FFFF 4],
            Covers element entry.id) := by
  have both := search_finds_all browsing [.uuid16 0x1101, .uuid16 0x1112] [⟨2, .nil⟩, ⟨5, .nil⟩]
    [.unsignedInteger 0x00000003 4, .unsignedInteger 0x0002FFFF 4] (by decide) (by simp)
  have has (service : Service) (uuid : SdpUuid) : HasUuid service uuid ↔
      service.any fun entry => entry.value.hasUuid uuid := by
    simp [HasUuid, DataElement.hasUuid_iff]
  refine ⟨(both.1.mpr ?_).2, fun once => absurd (both.2.mp once) (by decide)⟩
  simp only [has]
  decide

theorem search_finds_any :
    ¬ ∀ handle, handle ∈ (SdpServer.mk [(1, [⟨1, .uuid (.uuid16 0x1101)⟩])] none).matchServices
        (encodeUuids [.uuid16 0x1101, .uuid16 0x1112]) ↔
      ∃ service, (handle, service) ∈ [((1 : UInt32), [⟨1, .uuid (.uuid16 0x1101)⟩])] ∧
        ∀ uuid ∈ [.uuid16 0x1101, .uuid16 0x1112], HasUuid service uuid := by
  intro all
  obtain ⟨service, held, has⟩ := (all 1).mp (by decide)
  obtain ⟨-, rfl⟩ := Prod.mk.inj (List.mem_singleton.mp held)
  obtain ⟨entry, here, occurs⟩ := has (.uuid16 0x1112) (by simp)
  obtain rfl := List.mem_singleton.mp here
  have found := (DataElement.hasUuid_iff _ _).mpr occurs
  simp [DataElement.hasUuid] at found

end Simble.Sdp
