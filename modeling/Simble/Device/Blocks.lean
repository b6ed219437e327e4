import Simble.Device.Central

/-! How a database of primary services is laid out: a block of attributes for each service, in the
order of registration, its declaration in front. -/
namespace Simble.Device
open Simble.Lib Simble.Gatt List

/-- A UUID that declares neither a service nor a characteristic. -/
def PlainUuid (uuid : Uuid) : Prop :=
  uuid ≠ .primaryService ∧ uuid ≠ .secondaryService ∧ uuid ≠ .characteristic

/-- The databases of primary services, with the services as registered. What is not a declaration
may have changed its value, permissions and handler since. -/
inductive Registered {H : Type} : GattDatabase H → List DiscoveredService → Prop
  | new : Registered .new []
  | service {db services uuid handle after} : Registered db services →
    db.addService uuid true = .ok (handle, after) →
    Registered after (services ++ [⟨handle, handle, uuid, []⟩])
  | characteristic {db services service uuid properties value permissions declHandle valHandle after} :
    Registered db (services ++ [service]) → PlainUuid uuid →
    db.addCharacteristic uuid properties value permissions = .ok ((declHandle, valHandle), after) →
    Registered after (services ++ [{ service with
      endHandle := valHandle
      characteristics := service.characteristics ++
        [⟨declHandle, valHandle, properties, uuid, []⟩] }])
  | descriptor {db services service uuid value permissions handle after} :
    Registered db (services ++ [service]) → PlainUuid uuid →
    db.addDescriptor uuid value permissions = .ok (handle, after) →
    Registered after (services ++ [{ service with endHandle := handle }])
  | changed {db services handle change} : Registered db services →
    (∀ attr, db.get handle = some attr → PlainUuid attr.uuid ∧ (change attr).uuid = attr.uuid) →
    Registered (db.modify handle change) services

section Registration
variable {H : Type} {db : GattDatabase H} {services : List DiscoveredService}

theorem insert_last {attributes : OrdMap UInt16 (Attribute H)} {handle : UInt16}
    (last : ∀ entry ∈ attributes.entries, entry.1 < handle) (attr : Attribute H) :
    (attributes.insert handle attr).entries = attributes.entries ++ [(handle, attr)] := by
  unfold OrdMap.insert
  dsimp only
  rw [filter_eq_self.mpr, filter_eq_nil_iff.mpr]
  · intro entry listed
    simpa using (last entry listed).le
  · intro entry listed
    simpa using last entry listed

theorem attributes_of_allocate {handle : UInt16} {after : GattDatabase H}
    (allocated : db.allocateHandle = .ok (handle, after)) : after.attributes = db.attributes := by
  unfold GattDatabase.allocateHandle at allocated
  split at allocated
  · contradiction
  · cases allocated
    rfl

theorem entries_of_addAttribute (below : HandlesBelow db) {uuid : Uuid}
    {permissions : AttributePermissions} {value : Bytes} {handle : UInt16} {after : GattDatabase H}
    (added : db.addAttribute uuid permissions value = .ok (handle, after)) :
    after.attributes.entries = db.attributes.entries ++ [(handle, ⟨uuid, value, permissions, none⟩)] := by
  obtain ⟨⟨given, next⟩, allocated, added⟩ := Rust.bind_eq_ok.mp added
  cases added
  obtain ⟨-, -, rfl, -⟩ := below.allocate allocated
  rw [attributes_of_allocate allocated]
  exact insert_last (fun entry listed => (below.handles entry listed).2) _

theorem entries_of_addCharacteristic (below : HandlesBelow db) {uuid : Uuid} {properties : UInt8}
    {value : Bytes} {permissions : AttributePermissions} {declHandle valHandle : UInt16}
    {after : GattDatabase H}
    (added : db.addCharacteristic uuid properties value permissions =
      .ok ((declHandle, valHandle), after)) :
    after.attributes.entries = db.attributes.entries ++
      [(declHandle, ⟨.characteristic, GattDatabase.characteristicDecl properties valHandle uuid,
        .readOnly, none⟩), (valHandle, ⟨uuid, value, permissions, none⟩)] := by
  obtain ⟨⟨given, next⟩, allocated, added⟩ := Rust.bind_eq_ok.mp added
  obtain ⟨⟨again, last⟩, allocated', added⟩ := Rust.bind_eq_ok.mp added
  cases added
  obtain ⟨kept, -, rfl, less⟩ := below.allocate allocated
  obtain ⟨-, -, rfl, -⟩ := kept.allocate allocated'
  have first := insert_last (fun entry listed => (below.handles entry listed).2)
    (⟨.characteristic, GattDatabase.characteristicDecl properties next.nextHandle uuid, .readOnly,
      none⟩ : Attribute H)
  rw [attributes_of_allocate allocated', attributes_of_allocate allocated, insert_last, first,
    append_assoc]
  · rfl
  · intro entry listed
    rw [first] at listed
    rcases mem_append.mp listed with old | new
    · exact ((below.handles entry old).2).trans less
    · rw [mem_singleton.mp new]
      exact less

inductive Block : List (UInt16 × Attribute H) → DiscoveredService → Prop
  | opened {handle uuid} :
    Block [(handle, ⟨.primaryService, uuid.toAttBytes, .readOnly, none⟩)] ⟨handle, handle, uuid, []⟩
  | characteristic {entries service declHandle valHandle properties attr} : Block entries service →
    PlainUuid attr.uuid → Block (entries ++ [(declHandle, ⟨.characteristic,
        GattDatabase.characteristicDecl properties valHandle attr.uuid, .readOnly, none⟩),
        (valHandle, attr)])
      { service with
        endHandle := valHandle
        characteristics := service.characteristics ++
          [⟨declHandle, valHandle, properties, attr.uuid, []⟩] }
  | descriptor {entries service handle attr} : Block entries service → PlainUuid attr.uuid →
    Block (entries ++ [(handle, attr)]) { service with endHandle := handle }

section Changes
variable {handle : UInt16} {change : Attribute H → Attribute H}

def changedAt (handle : UInt16) (change : Attribute H → Attribute H) (entry : UInt16 × Attribute H) :
    UInt16 × Attribute H :=
  (entry.1, if entry.1 = handle then change entry.2 else entry.2)

def Harmless (handle : UInt16) (change : Attribute H → Attribute H) (entry : UInt16 × Attribute H) :
    Prop :=
  entry.1 = handle → PlainUuid entry.2.uuid ∧ (change entry.2).uuid = entry.2.uuid

theorem entries_modify (db : GattDatabase H) :
    (db.modify handle change).attributes.entries = db.attributes.entries.map (changedAt handle change) := by
  unfold GattDatabase.modify OrdMap.modify changedAt
  apply map_congr_left
  intro entry _
  by_cases here : entry.1 = handle
  · rw [if_pos here, if_pos here]
  · rw [if_neg here, if_neg here]

theorem Harmless.declaration {entry : UInt16 × Attribute H} (harmless : Harmless handle change entry)
    (declares : ¬ PlainUuid entry.2.uuid) : changedAt handle change entry = entry := by
  have elsewhere : entry.1 ≠ handle := fun here => declares (harmless here).1
  unfold changedAt
  rw [if_neg elsewhere]

theorem Harmless.uuid {entry : UInt16 × Attribute H} (harmless : Harmless handle change entry) :
    (changedAt handle change entry).2.uuid = entry.2.uuid := by
  unfold changedAt
  by_cases here : entry.1 = handle
  · rw [if_pos here]
    exact (harmless here).2
  · rw [if_neg here]

theorem Block.changed {block : List (UInt16 × Attribute H)} {service : DiscoveredService}
    (made : Block block service) (harmless : ∀ entry ∈ block, Harmless handle change entry) :
    Block (block.map (changedAt handle change)) service := by
  induction made with
  | opened =>
    rw [map_singleton, (harmless _ mem_cons_self).declaration fun plain => plain.1 rfl]
    exact .opened
  | @characteristic entries service declHandle valHandle properties attr _ plain ih =>
    have before := ih fun entry listed => harmless entry (mem_append_left _ listed)
    have declared := harmless (declHandle, ⟨.characteristic,
      GattDatabase.characteristicDecl properties valHandle attr.uuid, .readOnly, none⟩) (by simp)
    have same := (harmless (valHandle, attr) (by simp)).uuid
    rw [map_append, map_cons, map_singleton,
      declared.declaration fun plain => plain.2.2 rfl, ← same]
    exact .characteristic before (same ▸ plain)
  | @descriptor entries service last attr _ plain ih =>
    have before := ih fun entry listed => harmless entry (mem_append_left _ listed)
    have same := (harmless (last, attr) (by simp)).uuid
    rw [map_append, map_singleton]
    exact .descriptor before (same ▸ plain)

theorem blocks_changed {blocks : List (List (UInt16 × Attribute H))}
    (shaped : List.Forall₂ Block blocks services)
    (harmless : ∀ entry ∈ blocks.flatten, Harmless handle change entry) :
    List.Forall₂ Block (blocks.map (List.map (changedAt handle change))) services := by
  induction shaped with
  | nil => exact .nil
  | cons made _ ih =>
    rw [flatten_cons] at harmless
    exact .cons (made.changed fun entry listed => harmless entry (mem_append_left _ listed))
      (ih fun entry listed => harmless entry (mem_append_right _ listed))

end Changes

theorem split_of_forall₂ {α β : Type} {related : α → β → Prop} {list : List α} {before after : List β}
    {here : β} (all : List.Forall₂ related list (before ++ here :: after)) :
    ∃ front item back, list = front ++ item :: back ∧ List.Forall₂ related front before ∧
      related item here ∧ List.Forall₂ related back after := by
  induction before generalizing list with
  | nil =>
    cases all with
    | cons one rest => exact ⟨[], _, _, rfl, .nil, one, rest⟩
  | cons other before ih =>
    cases all with
    | cons one rest =>
      obtain ⟨front, item, back, rfl, fronts, final, backs⟩ := ih rest
      exact ⟨_ :: front, item, back, rfl, .cons one fronts, final, backs⟩

theorem concat_of_forall₂ {α β : Type} {related : α → β → Prop} {list : List α} {others : List β}
    {last : β} (all : List.Forall₂ related list (others ++ [last])) :
    ∃ front back, list = front ++ [back] ∧ List.Forall₂ related front others ∧ related back last := by
  obtain ⟨front, item, back, rfl, fronts, final, backs⟩ := split_of_forall₂ all
  cases backs
  exact ⟨front, item, rfl, fronts, final⟩

theorem Registered.blocks (registered : Registered db services) : HandlesBelow db ∧
    ∃ blocks, db.attributes.entries = blocks.flatten ∧ List.Forall₂ Block blocks services := by
  induction registered with
  | new => exact ⟨⟨UInt16.le_refl 1, nofun⟩, [], rfl, .nil⟩
  | service _ added ih =>
    obtain ⟨below, blocks, entries, shaped⟩ := ih
    refine ⟨below.add added, blocks ++ [_], ?_, rel_append shaped (.cons .opened .nil)⟩
    rw [entries_of_addAttribute below added, entries, flatten_append]
    rfl
  | @characteristic _ _ service uuid properties value permissions declHandle valHandle _ _ plain added ih =>
    obtain ⟨below, blocks, entries, shaped⟩ := ih
    obtain ⟨front, back, rfl, fronts, final⟩ := concat_of_forall₂ shaped
    have block := @Block.characteristic H back service declHandle valHandle properties
      ⟨uuid, value, permissions, none⟩ final plain
    refine ⟨below.addCharacteristic added, front ++ [_], ?_, rel_append fronts (.cons block .nil)⟩
    rw [entries_of_addCharacteristic below added, entries, flatten_append, flatten_append,
      append_assoc]
    simp only [flatten_cons, flatten_nil, append_nil]
  | @descriptor _ _ service uuid value permissions handle _ _ plain added ih =>
    obtain ⟨below, blocks, entries, shaped⟩ := ih
    obtain ⟨front, back, rfl, fronts, final⟩ := concat_of_forall₂ shaped
    have block := @Block.descriptor H back service handle ⟨uuid, value, permissions, none⟩ final plain
    refine ⟨below.add added, front ++ [_], ?_, rel_append fronts (.cons block .nil)⟩
    rw [entries_of_addAttribute below added, entries, flatten_append, flatten_append,
      append_assoc]
    simp only [flatten_cons, flatten_nil, append_nil]

  | @changed _ _ handle change _ harmless ih =>
    obtain ⟨below, blocks, entries, shaped⟩ := ih
    refine ⟨⟨below.first, fun entry listed => ?_⟩, blocks.map (List.map (changedAt handle change)), ?_,
      blocks_changed shaped fun entry listed here => ?_⟩
    · obtain ⟨old, among, rfl⟩ := mem_map.mp listed
      exact below.handles old among
    · rw [entries_modify, entries, map_flatten]
    · rw [← entries] at listed
      exact harmless entry.2 (OrdMap.get_eq_some.mpr (here ▸ listed))

section Blocks
variable {block : List (UInt16 × Attribute H)} {service : DiscoveredService}

def serviceEntry (service : DiscoveredService) : UInt16 × Attribute H :=
  (service.startHandle, ⟨.primaryService, service.uuid.toAttBytes, .readOnly, none⟩)

def characteristicEntry (characteristic : DiscoveredCharacteristic) : UInt16 × Attribute H :=
  (characteristic.declarationHandle, ⟨.characteristic,
    GattDatabase.characteristicDecl characteristic.properties characteristic.valueHandle
      characteristic.uuid, .readOnly, none⟩)

/-- A block: its service's declaration first, no other one behind it, its last handle the
service's, and the characteristics declared in it. -/
structure Shape (block : List (UInt16 × Attribute H)) (service : DiscoveredService) : Prop where
  head : ∃ rest, block = serviceEntry service :: rest ∧ ∀ entry ∈ rest,
    entry.2.uuid ≠ .primaryService ∧ entry.2.uuid ≠ .secondaryService
  last : (block.getLast?.map Prod.fst) = some service.endHandle
  declared : (block.filter fun entry => entry.2.uuid = .characteristic ∧ entry.2.permissions.read) =
    service.characteristics.map characteristicEntry
  plain : ∀ characteristic ∈ service.characteristics, characteristic.descriptors = []

theorem Block.shape (made : Block block service) : Shape block service := by
  induction made with
  | opened => exact ⟨⟨[], rfl, nofun⟩, rfl, rfl, nofun⟩
  | characteristic _ plain ih =>
    obtain ⟨⟨rest, rfl, others⟩, last, declared, bare⟩ := ih
    refine ⟨⟨rest ++ _, rfl, fun entry listed => ?_⟩, ?_, ?_, fun characteristic listed => ?_⟩
    · rcases mem_append.mp listed with old | new
      · exact others entry old
      · rcases mem_cons.mp new with rfl | new
        · exact ⟨show Uuid.characteristic ≠ .primaryService by decide,
            show Uuid.characteristic ≠ .secondaryService by decide⟩
        · rw [mem_singleton.mp new]
          exact ⟨plain.1, plain.2.1⟩
    · rw [List.getLast?_append]
      rfl
    · rw [filter_append, declared, map_append,
        filter_cons_of_pos (by simp [AttributePermissions.readOnly]),
        filter_cons_of_neg (by simp [plain.2.2])]
      rfl
    · rcases mem_append.mp listed with old | new
      · exact bare characteristic old
      · rw [mem_singleton.mp new]
  | descriptor _ plain ih =>
    obtain ⟨⟨rest, rfl, others⟩, last, declared, bare⟩ := ih
    refine ⟨⟨rest ++ _, rfl, fun entry listed => ?_⟩, ?_, ?_, bare⟩
    · rcases mem_append.mp listed with old | new
      · exact others entry old
      · rw [mem_singleton.mp new]
        exact ⟨plain.1, plain.2.1⟩
    · rw [List.getLast?_append]
      rfl
    · rw [filter_append, declared, filter_cons_of_neg (by simp [plain.2.2])]
      exact append_nil _

theorem groupEnd_block (stop : UInt16) {rest later : List (UInt16 × Attribute H)}
    (others : ∀ entry ∈ rest, entry.2.uuid ≠ .primaryService ∧ entry.2.uuid ≠ .secondaryService)
    (ends : ∀ entry ∈ later.head?, entry.2.uuid = .primaryService) :
    GattDatabase.groupEnd stop (rest ++ later) = (rest.getLast?.map Prod.fst).getD stop := by
  induction rest generalizing stop with
  | nil =>
    cases later with
    | nil => rfl
    | cons entry later =>
      have primary := ends entry rfl
      obtain ⟨handle, attr⟩ := entry
      exact if_pos (.inl primary)
  | cons entry rest ih =>
    obtain ⟨handle, attr⟩ := entry
    have plain := others (handle, attr) mem_cons_self
    unfold GattDatabase.groupEnd
    rw [cons_append]
    dsimp only
    rw [if_neg (not_or.mpr plain), ih _ fun entry listed => others entry (mem_cons_of_mem _ listed)]
    cases rest with
    | nil => rfl
    | cons next rest =>
      rw [List.getLast?_cons_cons]
      cases found : (next :: rest).getLast? with
      | none => exact absurd (List.getLast?_eq_none_iff.mp found) nofun
      | some last => rfl

end Blocks

section Places

def readableServices (entries : List (UInt16 × Attribute H)) : List (UInt16 × Attribute H) :=
  entries.filter fun entry => entry.2.uuid = .primaryService ∧ entry.2.permissions.read

theorem readableServices_flatten {blocks : List (List (UInt16 × Attribute H))}
    (shaped : List.Forall₂ Block blocks services) :
    readableServices blocks.flatten = services.map serviceEntry := by
  induction shaped with
  | nil => rfl
  | cons block _ ih =>
    obtain ⟨rest, rfl, others⟩ := block.shape.head
    unfold readableServices at ih ⊢
    rw [flatten_cons, filter_append, ih, map_cons,
      filter_cons_of_pos (by simp [serviceEntry, AttributePermissions.readOnly]),
      filter_eq_nil_iff.mpr]
    · rfl
    · intro entry listed
      simp [(others entry listed).1]

theorem le_last {entries : List (UInt16 × Attribute H)} {last : UInt16 × Attribute H}
    (sorted : entries.Pairwise fun a b => a.1 < b.1) (final : entries.getLast? = some last) :
    ∀ entry ∈ entries, entry.1 ≤ last.1 := by
  obtain ⟨front, rfl⟩ := List.getLast?_eq_some_iff.mp final
  intro entry listed
  rcases mem_append.mp listed with earlier | same
  · exact ((pairwise_append.mp sorted).2.2 entry earlier last mem_cons_self).le
  · rw [mem_singleton.mp same]

structure Placed (db : GattDatabase H) (service : DiscoveredService) (later : List DiscoveredService)
    (front rest back : List (UInt16 × Attribute H)) : Prop where
  entries : db.attributes.entries = front ++ serviceEntry service :: (rest ++ back)
  shape : Shape (serviceEntry service :: rest) service
  others : ∀ entry ∈ rest, entry.2.uuid ≠ .primaryService ∧ entry.2.uuid ≠ .secondaryService
  before : ∀ entry ∈ front, entry.1 < service.startHandle
  within : ∀ entry ∈ rest, service.startHandle < entry.1 ∧ entry.1 ≤ service.endHandle
  behind : ∀ entry ∈ back, service.startHandle < entry.1 ∧ service.endHandle < entry.1
  ordered : service.startHandle ≤ service.endHandle
  listed : ∃ entry ∈ db.attributes.entries, entry.1 = service.endHandle
  next : ∀ entry ∈ back.head?, entry.2.uuid = .primaryService
  remains : readableServices back = later.map serviceEntry

theorem Registered.placed {before after : List DiscoveredService} {service : DiscoveredService}
    (registered : Registered db (before ++ service :: after)) :
    ∃ front rest back, Placed db service after front rest back := by
  obtain ⟨-, blocks, entries, shaped⟩ := registered.blocks
  obtain ⟨fronts, block, backs, rfl, -, here, behind⟩ := split_of_forall₂ shaped
  have shape := here.shape
  obtain ⟨rest, same, others⟩ := shape.head
  subst same
  rw [flatten_append, flatten_cons] at entries
  have sorted := db.attributes.sorted
  rw [entries] at sorted
  obtain ⟨-, inner, across⟩ := pairwise_append.mp sorted
  obtain ⟨inside, -, beyond⟩ := pairwise_append.mp inner
  obtain ⟨first, -⟩ := pairwise_cons.mp inside
  obtain ⟨last, final, same⟩ := Option.map_eq_some_iff.mp shape.last
  have listed := mem_of_getLast? final
  have bound := le_last inside final
  refine ⟨fronts.flatten, rest, backs.flatten, entries, shape, others, ?_, ?_, ?_, ?_, ?_, ?_, ?_⟩
  · exact fun entry among => across entry among _ mem_cons_self
  · exact fun entry among => ⟨first entry among, same ▸ bound entry (mem_cons_of_mem _ among)⟩
  · exact fun entry among => ⟨beyond _ mem_cons_self entry among,
      same ▸ beyond last listed entry among⟩
  · exact same ▸ bound _ mem_cons_self
  · rw [entries]
    exact ⟨last, mem_append_right _ (mem_append_left _ listed), same⟩
  · cases behind with
    | nil => nofun
    | cons one _ =>
      obtain ⟨tail, rfl, -⟩ := one.shape.head
      rintro entry found
      cases found
      rfl
  · exact readableServices_flatten behind

variable {service : DiscoveredService} {later : List DiscoveredService}
  {front rest back : List (UInt16 × Attribute H)}

theorem Placed.groupOf_eq (placed : Placed db service later front rest back)
    (inner : service.startHandle ≠ 0xFFFF) :
    VirtualDevice.groupOf db (serviceEntry service) =
      (service.startHandle, service.endHandle, service.uuid.toAttBytes) := by
  have behind : db.attributes.rangeFrom (service.startHandle + 1) = rest ++ back := by
    unfold OrdMap.rangeFrom
    rw [placed.entries, filter_append, filter_eq_nil_iff.mpr, nil_append,
      filter_cons_of_neg, filter_eq_self.mpr]
    · intro entry listed
      rw [decide_eq_true_eq, nextHandle_follows inner]
      rcases mem_append.mp listed with inside | beyond
      · exact (placed.within entry inside).1
      · exact (placed.behind entry beyond).1
    · rw [decide_eq_true_eq, nextHandle_follows inner]
      exact lt_irrefl _
    · intro entry listed
      rw [decide_eq_true_eq, nextHandle_follows inner]
      exact (placed.before entry listed).not_gt
  unfold VirtualDevice.groupOf
  dsimp only [serviceEntry]
  rw [behind, groupEnd_block _ placed.others placed.next]
  have last := placed.shape.last
  cases rest with
  | nil =>
    have same : service.startHandle = service.endHandle := Option.some.inj last
    exact congrArg (fun stop => (service.startHandle, stop, service.uuid.toAttBytes)) same
  | cons entry rest =>
    rw [List.getLast?_cons_cons] at last
    rw [last]
    rfl

theorem Placed.remains_eq (placed : Placed db service later front rest back)
    (inner : service.endHandle ≠ 0xFFFF) :
    readableFrom db .primaryService (service.endHandle + 1) = later.map serviceEntry := by
  have behind : db.attributes.rangeFrom (service.endHandle + 1) = back := by
    unfold OrdMap.rangeFrom
    rw [placed.entries, filter_append, filter_eq_nil_iff.mpr, nil_append,
      filter_cons_of_neg, filter_append, filter_eq_nil_iff.mpr, nil_append,
      filter_eq_self.mpr]
    · intro entry listed
      rw [decide_eq_true_eq, nextHandle_follows inner]
      exact (placed.behind entry listed).2
    · intro entry listed
      rw [decide_eq_true_eq, nextHandle_follows inner]
      exact (placed.within entry listed).2.not_gt
    · rw [decide_eq_true_eq, nextHandle_follows inner]
      exact placed.ordered.not_gt
    · intro entry listed
      rw [decide_eq_true_eq, nextHandle_follows inner]
      exact ((placed.before entry listed).trans_le placed.ordered).not_gt
  unfold readableFrom
  rw [behind]
  exact placed.remains

def declaredIn (db : GattDatabase H) (service : DiscoveredService) : List (UInt16 × Attribute H) :=
  db.attributes.entries.filter fun entry =>
    (service.startHandle ≤ entry.1 ∧ entry.1 ≤ service.endHandle) ∧
      entry.2.uuid = .characteristic ∧ entry.2.permissions.read

theorem Placed.declaredIn_eq (placed : Placed db service later front rest back) :
    declaredIn db service = service.characteristics.map characteristicEntry := by
  unfold declaredIn
  have inside : ((serviceEntry service :: rest).filter fun entry =>
      (service.startHandle ≤ entry.1 ∧ entry.1 ≤ service.endHandle) ∧
        entry.2.uuid = .characteristic ∧ entry.2.permissions.read) =
      service.characteristics.map characteristicEntry := by
    rw [← placed.shape.declared]
    apply filter_congr
    intro entry listed
    have within : service.startHandle ≤ entry.1 ∧ entry.1 ≤ service.endHandle := by
      rcases mem_cons.mp listed with rfl | listed
      · exact ⟨le_rfl, placed.ordered⟩
      · exact (placed.within entry listed).imp_left le_of_lt
    simp [within]
  rw [placed.entries, filter_append, ← cons_append, filter_append, inside,
    filter_eq_nil_iff.mpr, nil_append, filter_eq_nil_iff.mpr, append_nil]
  · intro entry listed
    simp [(placed.behind entry listed).2]
  · intro entry listed
    simp [(placed.before entry listed)]

end Places

end Registration

end Simble.Device
