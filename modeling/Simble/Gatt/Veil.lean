import Simble.Gatt.Database

/-! Databases that look the same to someone who may not see certain values.
What may not be seen is decided by an attribute's permissions. -/
namespace Simble.Gatt
open Simble.Lib

variable {H : Type} (hidden : AttributePermissions → Bool)

/-- Two attributes that differ in a hidden value at most. -/
structure Attribute.Alike (a b : Attribute H) : Prop where
  uuid : a.uuid = b.uuid
  permissions : a.permissions = b.permissions
  handler : a.handler = b.handler
  value : hidden a.permissions = false → a.value = b.value

theorem Attribute.Alike.eq {hidden} {a b : Attribute H} (alike : a.Alike hidden b)
    (seen : hidden a.permissions = false) : a = b := by
  obtain ⟨uuid, permissions, handler, value⟩ := alike
  cases a
  cases b
  cases uuid
  cases permissions
  cases handler
  cases value seen
  rfl

def AlikeEntries (a b : UInt16 × Attribute H) : Prop := a.1 = b.1 ∧ a.2.Alike hidden b.2

namespace GattDatabase

structure Resembles (db other : GattDatabase H) : Prop where
  entries : List.Forall₂ (AlikeEntries hidden) db.attributes.entries other.attributes.entries
  nextHandle : db.nextHandle = other.nextHandle

/-- A handler that neither shows nor spreads what is hidden. -/
def Blind (onWrite : OnWrite H) (handler : H) (value : Bytes) : Prop :=
  ∀ db other, Resembles hidden db other →
    (onWrite.call handler db value).1 = (onWrite.call handler other value).1 ∧
    (onWrite.call handler db value).2.1 = (onWrite.call handler other value).2.1 ∧
    (onWrite.call handler db value).2.2.Resembles hidden (onWrite.call handler other value).2.2

variable {hidden} {db other : GattDatabase H}

section Alike
variable (alike : db.Resembles hidden other)
include alike

theorem Resembles.get (handle : UInt16) :
    Option.Rel (Attribute.Alike hidden) (db.get handle) (other.get handle) := by
  unfold GattDatabase.get OrdMap.get
  obtain ⟨entries, -⟩ := alike
  generalize db.attributes.entries = left at entries ⊢
  generalize other.attributes.entries = right at entries ⊢
  induction entries with
  | nil => exact .none
  | @cons a b left right same _ ih =>
    by_cases key : a.1 = handle
    · rw [List.find?_cons_of_pos (by simpa using key),
        List.find?_cons_of_pos (by simpa [← same.1] using key)]
      exact .some same.2
    · rw [List.find?_cons_of_neg (by simpa using key),
        List.find?_cons_of_neg (by simpa [← same.1] using key)]
      exact ih

theorem Resembles.modify (handle : UInt16) {change : Attribute H → Attribute H}
    (respects : ∀ a b, a.Alike hidden b → (change a).Alike hidden (change b)) :
    (db.modify handle change).Resembles hidden (other.modify handle change) := by
  refine ⟨?_, alike.nextHandle⟩
  refine List.forall₂_map_left_iff.mpr (List.forall₂_map_right_iff.mpr (alike.entries.imp ?_))
  rintro a b ⟨key, same⟩
  refine ⟨key, ?_⟩
  rw [← key]
  split
  · exact respects a.2 b.2 same
  · exact same

theorem Resembles.filter {keep : UInt16 × Attribute H → Bool}
    (respects : ∀ a b, AlikeEntries hidden a b → (keep a = true ↔ keep b = true)) :
    List.Forall₂ (AlikeEntries hidden) (db.attributes.entries.filter keep)
      (other.attributes.entries.filter keep) :=
  List.rel_filter (fun a b same => respects a b same) alike.entries

theorem Resembles.checkWritePermitted (handle : UInt16) :
    (∃ code, db.checkWritePermitted handle = .error code ∧
      other.checkWritePermitted handle = .error code) ∨
    ∃ a b, db.checkWritePermitted handle = .ok a ∧ other.checkWritePermitted handle = .ok b ∧
      a.Alike hidden b := by
  unfold GattDatabase.checkWritePermitted
  have found := alike.get handle
  generalize db.get handle = first at found ⊢
  generalize other.get handle = second at found ⊢
  cases found with
  | none => exact .inl ⟨_, rfl, rfl⟩
  | @some a b same =>
    cases permitted : a.permissions.write with
    | false =>
      exact .inl ⟨ErrorCode.writeNotPermitted, by simp [permitted],
        by simp [← same.permissions, permitted]⟩
    | true =>
      exact .inr ⟨a, b, by simp [permitted], by simp [← same.permissions, permitted], same⟩

theorem Resembles.setValue (handle : UInt16) (value : Bytes) :
    (db.modify handle fun attr => { attr with value }).Resembles hidden
      (other.modify handle fun attr => { attr with value }) := by
  apply alike.modify
  intro a b same
  exact ⟨same.uuid, same.permissions, same.handler, fun _ => rfl⟩

theorem Resembles.setHandler (handle : UInt16) (handler : Option H) :
    (db.modify handle fun attr => { attr with handler }).Resembles hidden
      (other.modify handle fun attr => { attr with handler }) := by
  apply alike.modify
  intro a b same
  exact ⟨same.uuid, same.permissions, rfl, same.value⟩

end Alike

theorem Resembles.write {onWrite : OnWrite H} (alike : db.Resembles hidden other)
    (handle : UInt16) (value : Bytes)
    (blind : ∀ attr handler, db.checkWritePermitted handle = .ok attr →
      attr.handler = some handler → Blind hidden onWrite handler value) :
    (db.write onWrite handle value).1 = (other.write onWrite handle value).1 ∧
      (db.write onWrite handle value).2.Resembles hidden (other.write onWrite handle value).2 := by
  unfold GattDatabase.write
  rcases alike.checkWritePermitted handle with ⟨code, first, second⟩ | ⟨a, b, first, second, same⟩
  · rw [first, second]
    exact ⟨rfl, alike⟩
  · rw [first, second]
    dsimp only
    rw [← same.handler]
    cases owner : a.handler with
    | none => exact ⟨rfl, alike.setValue handle value⟩
    | some handler =>
      obtain ⟨outcome, kept, after⟩ := blind a handler first owner _ _
        (alike.setHandler handle Option.none)
      unfold handledWrite
      refine ⟨outcome, ?_⟩
      dsimp only
      rw [show (onWrite.call handler (other.detach handle) value).2.1 =
        (onWrite.call handler (db.detach handle) value).2.1 from kept.symm]
      exact after.setHandler handle _

theorem Resembles.writeOffset (alike : db.Resembles hidden other) (handle : UInt16) (offset : Nat)
    (value : Bytes) :
    (db.writeOffset handle offset value).2.Resembles hidden
      (other.writeOffset handle offset value).2 := by
  unfold GattDatabase.writeOffset
  rcases alike.checkWritePermitted handle with ⟨code, first, second⟩ | ⟨a, b, first, second, -⟩
  · rw [first, second]
    exact alike
  · rw [first, second]
    apply alike.modify
    intro a b same
    refine ⟨same.uuid, same.permissions, same.handler, ?_⟩
    intro seen
    rw [same.value seen]

end GattDatabase
end Simble.Gatt
