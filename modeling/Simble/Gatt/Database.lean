import Simble.Octets
import Simble.Lib.OrdMap

/-! The attribute database of `gatt/database.rs`. A handler is any state with an `on_write` of its
own: the trait object is a type parameter, and what it does to the database is up to it. -/
namespace Simble
open Simble.Lib

instance linearOrderUInt16 : LinearOrder UInt16 where
  le_refl := UInt16.le_refl
  le_trans _ _ _ := UInt16.le_trans
  lt_iff_le_not_ge a b := by
    simp only [UInt16.lt_iff_toNat_lt, UInt16.le_iff_toNat_le]
    omega
  le_antisymm _ _ := UInt16.le_antisymm
  le_total := UInt16.le_total
  toDecidableLE := inferInstance

/-- A Bluetooth UUID as `types/hci_types.rs` keeps it. -/
inductive Uuid where
  | uuid16 (value : UInt16)
  | uuid128 (bytes : Octets 16)
deriving DecidableEq

namespace Uuid

def primaryService : Uuid := .uuid16 0x2800
def secondaryService : Uuid := .uuid16 0x2801
def characteristic : Uuid := .uuid16 0x2803
def cccd : Uuid := .uuid16 0x2902

def len : Uuid → Nat
  | .uuid16 _ => 2
  | .uuid128 _ => 16

def toAttBytes : Uuid → Bytes
  | .uuid16 value => U16.toLeBytes value
  | .uuid128 bytes => bytes.toList

def fromBytes (slice : Bytes) : Option Uuid :=
  match slice with
  | [low, high] => some (.uuid16 (U16.fromLeBytes low high))
  | _ => (Octets.tryFrom 16 slice).map .uuid128

@[simp] theorem length_toAttBytes (uuid : Uuid) : uuid.toAttBytes.length = uuid.len := by
  cases uuid with
  | uuid16 => rfl
  | uuid128 bytes => exact bytes.2

@[simp] theorem fromBytes_toAttBytes (uuid : Uuid) : fromBytes uuid.toAttBytes = some uuid := by
  cases uuid with
  | uuid16 value => exact congrArg (some ∘ Uuid.uuid16) (U16.fromLeBytes_toLeBytes value)
  | uuid128 bytes =>
    obtain ⟨list, length⟩ := bytes
    match list, length with
    | a :: b :: c :: rest, length =>
      exact congrArg (Option.map Uuid.uuid128) (Octets.tryFrom_toList ⟨a :: b :: c :: rest, length⟩)

end Uuid

namespace Gatt

namespace ErrorCode
def invalidHandle : UInt8 := 0x01
def readNotPermitted : UInt8 := 0x02
def writeNotPermitted : UInt8 := 0x03
def invalidPdu : UInt8 := 0x04
def requestNotSupported : UInt8 := 0x06
def invalidOffset : UInt8 := 0x07
def attributeNotFound : UInt8 := 0x0A
end ErrorCode

structure AttributePermissions where
  read : Bool
  write : Bool
  readAuth : Bool
  writeAuth : Bool
  encryptRead : Bool
  encryptWrite : Bool
deriving DecidableEq, Repr

namespace AttributePermissions

def readOnly : AttributePermissions := ⟨true, false, false, false, false, false⟩

def default : AttributePermissions := ⟨true, true, false, false, false, false⟩

end AttributePermissions

structure Attribute (H : Type) where
  uuid : Uuid
  value : Bytes
  permissions : AttributePermissions
  handler : Option H

/-- The attributes by handle, which the source repeats in each of them. -/
structure GattDatabase (H : Type) where
  attributes : OrdMap UInt16 (Attribute H)
  nextHandle : UInt16

/-- `AttributeHandler::on_write`: the result, the handler and the database after
the call. -/
structure OnWrite (H : Type) where
  call : H → GattDatabase H → Bytes → Except UInt8 Unit × H × GattDatabase H

namespace GattDatabase
variable {H : Type}

def new : GattDatabase H := ⟨.empty, 0x0001⟩

variable (db : GattDatabase H)

section Registration

/-- `next_handle` has no successor past the last handle. -/
def allocateHandle : Rust (UInt16 × GattDatabase H) :=
  if db.nextHandle = 0xFFFF then .error .panic
  else .ok (db.nextHandle, { db with nextHandle := db.nextHandle + 1 })

def addAttribute (uuid : Uuid) (permissions : AttributePermissions) (value : Bytes) :
    Rust (UInt16 × GattDatabase H) := do
  let (handle, db) ← db.allocateHandle
  pure (handle, { db with
    attributes := db.attributes.insert handle ⟨uuid, value, permissions, none⟩ })

def addService (uuid : Uuid) (primary : Bool) : Rust (UInt16 × GattDatabase H) :=
  db.addAttribute (if primary then .primaryService else .secondaryService) .readOnly uuid.toAttBytes

def characteristicDecl (properties : UInt8) (valueHandle : UInt16) (uuid : Uuid) : Bytes :=
  properties :: (U16.toLeBytes valueHandle ++ uuid.toAttBytes)

def addCharacteristic (uuid : Uuid) (properties : UInt8) (initialValue : Bytes)
    (permissions : AttributePermissions) : Rust ((UInt16 × UInt16) × GattDatabase H) := do
  let (declHandle, db) ← db.allocateHandle
  let (valHandle, db) ← db.allocateHandle
  let declared := db.attributes.insert declHandle
    ⟨.characteristic, characteristicDecl properties valHandle uuid, .readOnly, none⟩
  pure ((declHandle, valHandle), { db with
    attributes := declared.insert valHandle ⟨uuid, initialValue, permissions, none⟩ })

def addDescriptor (uuid : Uuid) (value : Bytes) (permissions : AttributePermissions) :
    Rust (UInt16 × GattDatabase H) := db.addAttribute uuid permissions value

end Registration

def get (handle : UInt16) : Option (Attribute H) := db.attributes.get handle

def modify (handle : UInt16) (change : Attribute H → Attribute H) : GattDatabase H :=
  { db with attributes := db.attributes.modify handle change }

def setValue (handle : UInt16) (value : Bytes) : Except UInt8 (GattDatabase H) :=
  match db.get handle with
  | none => .error ErrorCode.invalidHandle
  | some _ => .ok (db.modify handle fun attr => { attr with value })

def setHandler (handle : UInt16) (handler : H) : Except UInt8 (GattDatabase H) :=
  match db.get handle with
  | none => .error ErrorCode.invalidHandle
  | some _ => .ok (db.modify handle fun attr => { attr with handler := some handler })

def read (handle : UInt16) (offset : Nat) : Except UInt8 Bytes :=
  match db.get handle with
  | none => .error ErrorCode.invalidHandle
  | some attr =>
    if ¬ attr.permissions.read then .error ErrorCode.readNotPermitted
    else if offset > attr.value.length then .error ErrorCode.invalidOffset
    else .ok (attr.value.drop offset)

def checkWritePermitted (handle : UInt16) : Except UInt8 (Attribute H) :=
  match db.get handle with
  | none => .error ErrorCode.invalidHandle
  | some attr =>
    if ¬ attr.permissions.write then .error ErrorCode.writeNotPermitted else .ok attr

/-- Takes the handler out of an attribute. -/
def detach (handle : UInt16) : GattDatabase H := db.modify handle fun attr => { attr with handler := none }

/-- Puts a handler back, if the attribute is still there. -/
def attach (handle : UInt16) (handler : H) : GattDatabase H :=
  db.modify handle fun attr => { attr with handler := some handler }

variable (onWrite : OnWrite H)

def handledWrite (handler : H) (handle : UInt16) (value : Bytes) :
    Except UInt8 Unit × GattDatabase H :=
  let outcome := onWrite.call handler (db.detach handle) value
  (outcome.1, outcome.2.2.attach handle outcome.2.1)

def write (handle : UInt16) (value : Bytes) : Except UInt8 Unit × GattDatabase H :=
  match db.checkWritePermitted handle with
  | .error code => (.error code, db)
  | .ok attr =>
    match attr.handler with
    | none => (.ok (), db.modify handle fun attr => { attr with value })
    | some handler => db.handledWrite onWrite handler handle value

/-- `value` with the octets from `offset` on overwritten, after growing it with
zeros as far as needed. -/
def patch (old : Bytes) (offset : Nat) (value : Bytes) : Bytes :=
  let grown := old ++ List.replicate (offset + value.length - old.length) 0
  grown.take offset ++ value ++ grown.drop (offset + value.length)

/-- `write_offset` does not look at the handler. -/
def writeOffset (handle : UInt16) (offset : Nat) (value : Bytes) :
    Except UInt8 Unit × GattDatabase H :=
  match db.checkWritePermitted handle with
  | .error code => (.error code, db)
  | .ok _ => (.ok (), db.modify handle fun attr => { attr with value := patch attr.value offset value })

def readByType (start stop : UInt16) (uuid : Uuid) : List (UInt16 × Bytes) :=
  if start > stop then []
  else ((db.attributes.range start stop).filter fun entry =>
    entry.2.uuid = uuid ∧ entry.2.permissions.read).map fun entry => (entry.1, entry.2.value)

/-- The loop of `group_end_handle` up to the next service declaration. -/
def groupEnd (stop : UInt16) : List (UInt16 × Attribute H) → UInt16
  | [] => stop
  | (handle, attr) :: rest =>
    if attr.uuid = .primaryService ∨ attr.uuid = .secondaryService then stop
    else groupEnd handle rest

/-- `service_handle + 1` overflows at the last handle. -/
def groupEndHandle (serviceHandle : UInt16) : Rust UInt16 :=
  if serviceHandle = 0xFFFF then .error .panic
  else .ok (groupEnd serviceHandle (db.attributes.rangeFrom (serviceHandle + 1)))

def findInformation (start stop : UInt16) : List (UInt16 × Uuid) :=
  if start > stop then []
  else (db.attributes.range start stop).map fun entry => (entry.1, entry.2.uuid)

section Lemmas
variable {db onWrite}

@[simp] theorem get_modify_self (handle : UInt16) (change : Attribute H → Attribute H) :
    (db.modify handle change).get handle = (db.get handle).map change :=
  OrdMap.get_modify_self change

theorem get_modify_of_ne {handle other : UInt16} (differs : other ≠ handle)
    (change : Attribute H → Attribute H) : (db.modify handle change).get other = db.get other :=
  OrdMap.get_modify_of_ne change differs

theorem checkWritePermitted_eq_ok {handle : UInt16} {attr : Attribute H} :
    db.checkWritePermitted handle = .ok attr ↔
      db.get handle = some attr ∧ attr.permissions.write = true := by
  unfold checkWritePermitted
  cases found : db.get handle with
  | none => simp
  | some other =>
    cases permitted : other.permissions.write with
    | false =>
      simp only [permitted, Bool.false_eq_true, not_false_eq_true, if_true, reduceCtorEq,
        Option.some.injEq, false_iff, not_and]
      rintro rfl
      simp [permitted]
    | true =>
      simp only [permitted, not_true_eq_false, if_false, Except.ok.injEq, Option.some.injEq]
      constructor
      · rintro rfl
        exact ⟨rfl, permitted⟩
      · exact And.left

end Lemmas
end GattDatabase
end Gatt
end Simble
