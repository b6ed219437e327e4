import Simble.Device.Discovery

/-! The characteristics of a service: registering them one after the other, and keeping
their values up to date afterwards (`gatt/database.rs`). -/
namespace Simble.Gatt

def AttributePermissions.writeOnly : AttributePermissions := ⟨false, true, false, false, false, false⟩

open GattDatabase

namespace GattDatabase
open Simble.Lib Simble.Device
variable {H : Type} (db : GattDatabase H)

/-- The value of an attribute, whatever its permissions. -/
def value (handle : UInt16) : Option Bytes := (db.get handle).map Attribute.value

/-- `let _ = db.set_value(handle, value)` -/
def put (handle : UInt16) (value : Bytes) : GattDatabase H :=
  match db.setValue handle value with
  | .ok db => db
  | .error _ => db

/-- `add_characteristic_with_cccd`: a property to notify or indicate brings the descriptor. -/
def addCharacteristicWithCccd (uuid : Uuid) (properties : UInt8) (initialValue : Bytes)
    (permissions : AttributePermissions) : Rust ((UInt16 × UInt16) × GattDatabase H) := do
  let (handles, db) ← db.addCharacteristic uuid properties initialValue permissions
  if properties &&& 0x30 ≠ 0 then
    let (_, db) ← db.addDescriptor .cccd [0x00, 0x00] .default
    return (handles, db)
  else return (handles, db)

def registerEach (properties : UInt8) (permissions : AttributePermissions) :
    List (Uuid × Bytes) → GattDatabase H → Rust (List UInt16 × GattDatabase H)
  | [], db => .ok ([], db)
  | (uuid, value) :: rest, db => do
    let ((_, handle), db) ← db.addCharacteristicWithCccd uuid properties value permissions
    let (later, db) ← registerEach properties permissions rest db
    return (handle :: later, db)

variable {db}

theorem value_put_self {handle : UInt16} (present : (db.value handle).isSome) (value : Bytes) :
    (db.put handle value).value handle = some value := by
  rw [GattDatabase.value, Option.isSome_map] at present
  obtain ⟨attr, found⟩ := Option.isSome_iff_exists.mp present
  have stored : db.setValue handle value = .ok (db.modify handle fun attr => { attr with value }) := by
    simp only [setValue, found]
  rw [put, stored, GattDatabase.value]
  simp [found]

theorem value_put_of_ne {handle other : UInt16} (differs : other ≠ handle) (value : Bytes) :
    (db.put handle value).value other = db.value other := by
  unfold put setValue
  cases db.get handle with
  | none => rfl
  | some attr => exact congrArg (Option.map _) (get_modify_of_ne differs _)

structure Registered (before after : GattDatabase H) (handle : UInt16) (initial : Bytes) :
    Prop where
  below : HandlesBelow after
  least : before.nextHandle ≤ handle
  greatest : handle < after.nextHandle
  value : after.value handle = some initial
  others : ∀ other < before.nextHandle, after.value other = before.value other

theorem allocateHandle_attributes {handle : UInt16} {after : GattDatabase H}
    (allocated : db.allocateHandle = .ok (handle, after)) : after.attributes = db.attributes := by
  unfold allocateHandle at allocated
  split at allocated
  · contradiction
  · cases allocated
    rfl

section Below
variable (below : HandlesBelow db) {uuid : Uuid} {properties : UInt8} {initial : Bytes}
  {permissions : AttributePermissions} {handles : UInt16 × UInt16} {after : GattDatabase H}
include below

theorem registered_addCharacteristic
    (added : db.addCharacteristic uuid properties initial permissions = .ok (handles, after)) :
    Registered db after handles.2 initial := by
  have kept := below.addCharacteristic added
  obtain ⟨⟨declHandle, next⟩, allocated, added⟩ := Rust.bind_eq_ok.mp added
  obtain ⟨⟨valHandle, last⟩, again, added⟩ := Rust.bind_eq_ok.mp added
  cases added
  obtain ⟨between, _, rfl, declBelow⟩ := below.allocate allocated
  obtain ⟨_, _, rfl, valBelow⟩ := between.allocate again
  refine ⟨kept, declBelow.le, valBelow, ?_, ?_⟩
  · rw [value, get, OrdMap.get_insert, if_pos rfl]
    rfl
  · intro other less
    have first : other ≠ db.nextHandle := less.ne
    have second : other ≠ next.nextHandle := (less.trans declBelow).ne
    have same : last.attributes = db.attributes := by
      rw [allocateHandle_attributes again, allocateHandle_attributes allocated]
    rw [value, get, OrdMap.get_insert, if_neg second, OrdMap.get_insert,
      if_neg first, same]
    rfl

theorem registered_addCharacteristicWithCccd
    (added : db.addCharacteristicWithCccd uuid properties initial permissions =
      .ok (handles, after)) :
    Registered db after handles.2 initial := by
  obtain ⟨⟨given, between⟩, first, added⟩ := Rust.bind_eq_ok.mp added
  have registered := registered_addCharacteristic below first
  dsimp only at added
  split at added
  · obtain ⟨⟨descriptor, last⟩, second, added⟩ := Rust.bind_eq_ok.mp added
    cases added
    have kept := registered.below.add second
    obtain ⟨⟨handle, next⟩, allocated, inserted⟩ := Rust.bind_eq_ok.mp second
    cases inserted
    obtain ⟨_, _, rfl, more⟩ := registered.below.allocate allocated
    have same := allocateHandle_attributes allocated
    have behind : ∀ other < between.nextHandle,
        (GattDatabase.mk (next.attributes.insert between.nextHandle
          ⟨.cccd, [0x00, 0x00], .default, none⟩) next.nextHandle).value other =
            between.value other := by
      intro other less
      rw [value, get, OrdMap.get_insert, if_neg less.ne, same]
      rfl
    refine ⟨kept, registered.least, registered.greatest.trans more, ?_, ?_⟩
    · rw [behind _ registered.greatest]
      exact registered.value
    · intro other less
      have least := less.trans_le (registered.least.trans registered.greatest.le)
      rw [behind other least]
      exact registered.others other less
  · cases added
    exact registered

end Below

structure RegisteredEach (before after : GattDatabase H) (handles : List UInt16)
    (initials : List Bytes) : Prop where
  below : HandlesBelow after
  more : before.nextHandle ≤ after.nextHandle
  ascending : handles.Pairwise (· < ·)
  between : ∀ handle ∈ handles, before.nextHandle ≤ handle ∧ handle < after.nextHandle
  values : List.Forall₂ (fun handle initial => after.value handle = some initial) handles initials
  others : ∀ other < before.nextHandle, after.value other = before.value other

theorem registeredEach (below : HandlesBelow db) {properties : UInt8}
    {permissions : AttributePermissions} {list : List (Uuid × Bytes)} {handles : List UInt16}
    {after : GattDatabase H}
    (added : registerEach properties permissions list db = .ok (handles, after)) :
    RegisteredEach db after handles (list.map Prod.snd) := by
  induction list generalizing db handles with
  | nil =>
    cases added
    exact ⟨below, UInt16.le_refl _, .nil, nofun, .nil, fun _ _ => rfl⟩
  | cons first rest ih =>
    obtain ⟨⟨⟨declHandle, handle⟩, next⟩, one, added⟩ := Rust.bind_eq_ok.mp added
    obtain ⟨⟨later, last⟩, others, added⟩ := Rust.bind_eq_ok.mp added
    cases added
    have registered := registered_addCharacteristicWithCccd below one
    have rest := ih registered.below others
    have more : db.nextHandle ≤ next.nextHandle := registered.least.trans registered.greatest.le
    refine ⟨rest.below, more.trans rest.more, ?_, ?_, ?_, ?_⟩
    · refine List.pairwise_cons.mpr ⟨?_, rest.ascending⟩
      intro other inside
      exact registered.greatest.trans_le (rest.between other inside).1
    · rw [List.forall_mem_cons]
      refine ⟨⟨registered.least, registered.greatest.trans_le rest.more⟩, ?_⟩
      intro other inside
      obtain ⟨least, greatest⟩ := rest.between other inside
      exact ⟨more.trans least, greatest⟩
    · refine .cons ?_ rest.values
      rw [rest.others _ registered.greatest]
      exact registered.value
    · intro other less
      rw [rest.others other (less.trans_le more)]
      exact registered.others other less

theorem value_setHandler {handle : UInt16} {handler : H} {after : GattDatabase H}
    (attached : db.setHandler handle handler = .ok after) (other : UInt16) :
    after.value other = db.value other := by
  unfold setHandler at attached
  split at attached
  · contradiction
  · cases attached
    rw [value, modify, get, OrdMap.get_modify]
    split
    · rw [Option.map_map]
      rfl
    · rfl

section Mirror
variable {α : Type} {render : α → Bytes} {handles : List UInt16} {items : List α}

structure Mirrors (render : α → Bytes) (db : GattDatabase H) (handles : List UInt16)
    (items : List α) : Prop where
  distinct : handles.Nodup
  values : List.Forall₂ (fun handle item => db.value handle = some (render item)) handles items

theorem values_put_of_not_mem {handle : UInt16} {bytes : Bytes} (elsewhere : handle ∉ handles)
    (values : List.Forall₂ (fun handle item => db.value handle = some (render item)) handles items) :
    List.Forall₂ (fun other item => (db.put handle bytes).value other = some (render item))
      handles items := by
  induction values with
  | nil => exact .nil
  | cons stands _ ih =>
    obtain ⟨differs, elsewhere⟩ := not_or.mp (mt List.mem_cons.mpr elsewhere)
    refine .cons ?_ (ih elsewhere)
    rw [value_put_of_ne (Ne.symm differs)]
    exact stands

theorem Mirrors.put (mirrors : db.Mirrors render handles items) {index : Nat} {handle : UInt16}
    (named : handles[index]? = some handle) (item : α) :
    (db.put handle (render item)).Mirrors render handles (items.set index item) := by
  obtain ⟨distinct, values⟩ := mirrors
  refine ⟨distinct, ?_⟩
  induction values generalizing index with
  | nil => exact .nil
  | @cons first old handles items stands values ih =>
    obtain ⟨fresh, distinct⟩ := List.nodup_cons.mp distinct
    cases index with
    | zero =>
      obtain rfl := Option.some.inj named
      exact .cons (value_put_self (by rw [stands]; rfl) _) (values_put_of_not_mem fresh values)
    | succ index =>
      have inside : handle ∈ handles := List.mem_of_getElem? named
      have differs : first ≠ handle := fun same => fresh (same ▸ inside)
      refine .cons ?_ (ih named distinct)
      rw [value_put_of_ne differs]
      exact stands

end Mirror
end GattDatabase
end Simble.Gatt
