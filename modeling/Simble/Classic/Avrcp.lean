import Simble.Lib.Reading
import Simble.Text

/-! The parameters of AVRCP commands, responses and events (`classic/avrcp.rs`), as they are
written and read. -/
namespace Simble.Avrcp
open Lib Lib.Reading

/-! ## Fields -/

def u8 : Reading UInt8 := UInt8.ofNat <$> number 1
def u16 : Reading UInt16 := UInt16.ofNat <$> number 2
def u24 : Reading UInt32 := UInt32.ofNat <$> number 3
def u32 : Reading UInt32 := UInt32.ofNat <$> number 4
def u64 : Reading UInt64 := UInt64.ofNat <$> number 8

def be16 (value : UInt16) : Bytes := toBe 2 value.toNat
def be32 (value : UInt32) : Bytes := toBe 4 value.toNat
def be64 (value : UInt64) : Bytes := toBe 8 value.toNat

/-- A text behind its length, one octet or two. -/
def string8 : Reading String := do
  let length ← u8
  return fromUtf8Lossy (← take length.toNat)

def string16 : Reading String := do
  let length ← u16
  return fromUtf8Lossy (← take length.toNat)

/-- A length `as u8` and `as u16`. -/
def count8 (length : Nat) : Bytes := [UInt8.ofNat length]
def count16 (length : Nat) : Bytes := be16 (UInt16.ofNat length)

def putString8 (value : String) : Bytes := count8 (utf8 value).length ++ utf8 value
def putString16 (value : String) : Bytes := count16 (utf8 value).length ++ utf8 value

/-- `(0..count).map(..).collect()`, behind a count of one octet. -/
def counted {α : Type} (read : Reading α) : Reading (List α) := do
  let count ← u8
  times read count.toNat

def writeCounted {α : Type} (write : α → Bytes) (values : List α) : Bytes :=
  count8 values.length ++ values.flatMap write

def readU8List : Reading (List UInt8) := counted u8
def writeU8List : List UInt8 → Bytes := writeCounted fun value => [value]
def readU32List : Reading (List UInt32) := counted u32
def writeU32List : List UInt32 → Bytes := writeCounted be32

/-! ## Media metadata and settings -/

structure MediaAttribute where
  attributeId : UInt32
  characterSetId : UInt16
  value : String
deriving DecidableEq

namespace MediaAttribute

def read : Reading MediaAttribute := return ⟨← u32, ← u16, ← string16⟩

def write (media : MediaAttribute) : Bytes :=
  be32 media.attributeId ++ (be16 media.characterSetId ++ putString16 media.value)

end MediaAttribute

def readMediaAttributeList : Reading (List MediaAttribute) := counted MediaAttribute.read
def writeMediaAttributeList : List MediaAttribute → Bytes := writeCounted MediaAttribute.write

structure ApplicationSetting where
  attributeId : UInt8
  valueId : UInt8
deriving DecidableEq

def readSettingList : Reading (List ApplicationSetting) := counted (return ⟨← u8, ← u8⟩)

def writeSettingList : List ApplicationSetting → Bytes :=
  writeCounted fun setting => [setting.attributeId] ++ [setting.valueId]

structure SettingText where
  id : UInt8
  characterSetId : UInt16
  text : String
deriving DecidableEq

def readSettingTextList : Reading (List SettingText) := counted (return ⟨← u8, ← u16, ← string8⟩)

def writeSettingTextList : List SettingText → Bytes :=
  writeCounted fun entry => [entry.id] ++ (be16 entry.characterSetId ++ putString8 entry.text)

inductive CapabilityList where
  | companyIds (ids : List UInt32)
  | eventIds (ids : List UInt8)
deriving DecidableEq

namespace CapabilityId

def companyId : UInt8 := 0x02
def eventsSupported : UInt8 := 0x03

end CapabilityId

/-! ## Browseable items -/

structure MediaPlayerItem where
  playerId : UInt16
  majorPlayerType : UInt8
  playerSubType : UInt32
  playStatus : UInt8
  features : BitVec 128
  characterSetId : UInt16
  displayableName : String
deriving DecidableEq

namespace MediaPlayerItem

/-- The sub-type and the features are little-endian. -/
def read : Reading MediaPlayerItem := do
  let playerId ← u16
  let majorPlayerType ← u8
  let playerSubType ← UInt32.ofNat <$> littleNumber 4
  let playStatus ← u8
  let features ← BitVec.ofNat 128 <$> littleNumber 16
  return ⟨playerId, majorPlayerType, playerSubType, playStatus, features, ← u16, ← string16⟩

def write (item : MediaPlayerItem) : Bytes :=
  be16 item.playerId ++ ([item.majorPlayerType] ++ ((be32 item.playerSubType).reverse ++
    ([item.playStatus] ++ ((toBe 16 item.features.toNat).reverse ++
      (be16 item.characterSetId ++ putString16 item.displayableName)))))

end MediaPlayerItem

structure FolderItem where
  folderUid : UInt64
  folderType : UInt8
  isPlayable : Bool
  characterSetId : UInt16
  displayableName : String
deriving DecidableEq

namespace FolderItem

def read : Reading FolderItem := return ⟨← u64, ← u8, (← u8) ≠ 0, ← u16, ← string16⟩

def write (item : FolderItem) : Bytes :=
  be64 item.folderUid ++ ([item.folderType] ++ ([if item.isPlayable then 1 else 0] ++
    (be16 item.characterSetId ++ putString16 item.displayableName)))

end FolderItem

structure MediaElementItem where
  mediaElementUid : UInt64
  mediaType : UInt8
  characterSetId : UInt16
  displayableName : String
  attributes : List MediaAttribute
deriving DecidableEq

namespace MediaElementItem

def read : Reading MediaElementItem :=
  return ⟨← u64, ← u8, ← u16, ← string16, ← readMediaAttributeList⟩

def write (item : MediaElementItem) : Bytes :=
  be64 item.mediaElementUid ++ ([item.mediaType] ++ (be16 item.characterSetId ++
    (putString16 item.displayableName ++ writeMediaAttributeList item.attributes)))

end MediaElementItem

/-- What the items of a folder can be. -/
inductive BrowseableItem where
  | mediaPlayer (item : MediaPlayerItem)
  | folder (item : FolderItem)
  | mediaElement (item : MediaElementItem)
deriving DecidableEq

namespace ItemType

def mediaPlayer : UInt8 := 0x01
def folder : UInt8 := 0x02
def mediaElement : UInt8 := 0x03

end ItemType

namespace BrowseableItem

def readBody (itemType : UInt8) : Reading BrowseableItem :=
  if itemType = ItemType.mediaPlayer then mediaPlayer <$> MediaPlayerItem.read
  else if itemType = ItemType.folder then folder <$> FolderItem.read
  else if itemType = ItemType.mediaElement then mediaElement <$> MediaElementItem.read
  else fun _ => none

def read : Reading BrowseableItem := do
  let itemType ← u8
  let length ← u16
  let body ← take length.toNat
  StateT.lift ((readBody itemType body).map Prod.fst)

def itemType : BrowseableItem → UInt8
  | mediaPlayer _ => ItemType.mediaPlayer
  | folder _ => ItemType.folder
  | mediaElement _ => ItemType.mediaElement

def body : BrowseableItem → Bytes
  | mediaPlayer item => item.write
  | folder item => item.write
  | mediaElement item => item.write

def write (item : BrowseableItem) : Bytes :=
  [item.itemType] ++ (count16 item.body.length ++ item.body)

end BrowseableItem

end Simble.Avrcp
