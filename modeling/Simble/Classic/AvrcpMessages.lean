import Simble.Classic.Avrcp

/-! AVRCP commands, responses and events (`classic/avrcp.rs`). -/
namespace Simble.Avrcp
open Lib Lib.Reading

namespace PduId

def getCapabilities : UInt8 := 0x10
def listPlayerApplicationSettingAttributes : UInt8 := 0x11
def listPlayerApplicationSettingValues : UInt8 := 0x12
def getCurrentPlayerApplicationSettingValue : UInt8 := 0x13
def setPlayerApplicationSettingValue : UInt8 := 0x14
def getPlayerApplicationSettingAttributeText : UInt8 := 0x15
def getPlayerApplicationSettingValueText : UInt8 := 0x16
def informDisplayableCharacterSet : UInt8 := 0x17
def informBatteryStatusOfCt : UInt8 := 0x18
def getElementAttributes : UInt8 := 0x20
def getPlayStatus : UInt8 := 0x30
def registerNotification : UInt8 := 0x31
def requestContinuingResponse : UInt8 := 0x40
def abortContinuingResponse : UInt8 := 0x41
def setAbsoluteVolume : UInt8 := 0x50
def setAddressedPlayer : UInt8 := 0x60
def setBrowsedPlayer : UInt8 := 0x70
def getFolderItems : UInt8 := 0x71
def changePath : UInt8 := 0x72
def getItemAttributes : UInt8 := 0x73
def playItem : UInt8 := 0x74
def getTotalNumberOfItems : UInt8 := 0x75
def search : UInt8 := 0x80
def addToNowPlaying : UInt8 := 0x90

end PduId

/-! ## Commands -/

inductive Command where
  | getCapabilities (capabilityId : UInt8)
  | listPlayerApplicationSettingAttributes
  | listPlayerApplicationSettingValues (attributeId : UInt8)
  | getCurrentPlayerApplicationSettingValue (attributeIds : List UInt8)
  | setPlayerApplicationSettingValue (settings : List ApplicationSetting)
  | getPlayerApplicationSettingAttributeText (attributeIds : List UInt8)
  | getPlayerApplicationSettingValueText (attributeId : UInt8) (valueIds : List UInt8)
  | informDisplayableCharacterSet (characterSetIds : List UInt16)
  | informBatteryStatusOfCt (batteryStatus : UInt8)
  | getElementAttributes (identifier : UInt64) (attributeIds : List UInt32)
  | getPlayStatus
  | requestContinuingResponse (continuingPduId : UInt8)
  | abortContinuingResponse (continuingPduId : UInt8)
  | registerNotification (eventId : UInt8) (playbackInterval : UInt32)
  | setAbsoluteVolume (volume : UInt8)
  | setAddressedPlayer (playerId : UInt16)
  | setBrowsedPlayer (playerId : UInt16)
  | getFolderItems (scope : UInt8) (startItem : UInt32) (endItem : UInt32) (attributeIds : List UInt32)
  | changePath (uidCounter : UInt16) (direction : UInt8) (folderUid : UInt64)
  | getItemAttributes (scope : UInt8) (uid : UInt64) (uidCounter : UInt16) (attributeIds : List UInt32)
  | getTotalNumberOfItems (scope : UInt8)
  | search (characterSetId : UInt16) (searchString : String)
  | playItem (scope : UInt8) (uid : UInt64) (uidCounter : UInt16)
  | addToNowPlaying (scope : UInt8) (uid : UInt64) (uidCounter : UInt16)
deriving DecidableEq

namespace Command

def pduId : Command → UInt8
  | getCapabilities _ => PduId.getCapabilities
  | listPlayerApplicationSettingAttributes => PduId.listPlayerApplicationSettingAttributes
  | listPlayerApplicationSettingValues _ => PduId.listPlayerApplicationSettingValues
  | getCurrentPlayerApplicationSettingValue _ => PduId.getCurrentPlayerApplicationSettingValue
  | setPlayerApplicationSettingValue _ => PduId.setPlayerApplicationSettingValue
  | getPlayerApplicationSettingAttributeText _ => PduId.getPlayerApplicationSettingAttributeText
  | getPlayerApplicationSettingValueText _ _ => PduId.getPlayerApplicationSettingValueText
  | informDisplayableCharacterSet _ => PduId.informDisplayableCharacterSet
  | informBatteryStatusOfCt _ => PduId.informBatteryStatusOfCt
  | getElementAttributes _ _ => PduId.getElementAttributes
  | getPlayStatus => PduId.getPlayStatus
  | requestContinuingResponse _ => PduId.requestContinuingResponse
  | abortContinuingResponse _ => PduId.abortContinuingResponse
  | registerNotification _ _ => PduId.registerNotification
  | setAbsoluteVolume _ => PduId.setAbsoluteVolume
  | setAddressedPlayer _ => PduId.setAddressedPlayer
  | setBrowsedPlayer _ => PduId.setBrowsedPlayer
  | getFolderItems _ _ _ _ => PduId.getFolderItems
  | changePath _ _ _ => PduId.changePath
  | getItemAttributes _ _ _ _ => PduId.getItemAttributes
  | getTotalNumberOfItems _ => PduId.getTotalNumberOfItems
  | search _ _ => PduId.search
  | playItem _ _ _ => PduId.playItem
  | addToNowPlaying _ _ _ => PduId.addToNowPlaying

def toParameters : Command → Bytes
  | getCapabilities capabilityId => [capabilityId]
  | listPlayerApplicationSettingAttributes => []
  | listPlayerApplicationSettingValues attributeId => [attributeId]
  | getCurrentPlayerApplicationSettingValue attributeIds => writeU8List attributeIds
  | setPlayerApplicationSettingValue settings => writeSettingList settings
  | getPlayerApplicationSettingAttributeText attributeIds => writeU8List attributeIds
  | getPlayerApplicationSettingValueText attributeId valueIds =>
      [attributeId] ++ writeU8List valueIds
  | informDisplayableCharacterSet characterSetIds => writeCounted be16 characterSetIds
  | informBatteryStatusOfCt batteryStatus => [batteryStatus]
  | getElementAttributes identifier attributeIds => be64 identifier ++ writeU32List attributeIds
  | getPlayStatus => []
  | requestContinuingResponse continuingPduId => [continuingPduId]
  | abortContinuingResponse continuingPduId => [continuingPduId]
  | registerNotification eventId playbackInterval => [eventId] ++ be32 playbackInterval
  | setAbsoluteVolume volume => [volume]
  | setAddressedPlayer playerId => be16 playerId
  | setBrowsedPlayer playerId => be16 playerId
  | getFolderItems scope startItem endItem attributeIds =>
      [scope] ++ (be32 startItem ++ (be32 endItem ++ writeU32List attributeIds))
  | changePath uidCounter direction folderUid => be16 uidCounter ++ ([direction] ++ be64 folderUid)
  | getItemAttributes scope uid uidCounter attributeIds =>
      [scope] ++ (be64 uid ++ (be16 uidCounter ++ writeU32List attributeIds))
  | getTotalNumberOfItems scope => [scope]
  | search characterSetId searchString => be16 characterSetId ++ putString16 searchString
  | playItem scope uid uidCounter => [scope] ++ (be64 uid ++ be16 uidCounter)
  | addToNowPlaying scope uid uidCounter => [scope] ++ (be64 uid ++ be16 uidCounter)

def read (pduId : UInt8) : Reading Command :=
  if pduId = PduId.getCapabilities then return .getCapabilities (← u8)
  else if pduId = PduId.listPlayerApplicationSettingAttributes then
    return .listPlayerApplicationSettingAttributes
  else if pduId = PduId.listPlayerApplicationSettingValues then
    return .listPlayerApplicationSettingValues (← u8)
  else if pduId = PduId.getCurrentPlayerApplicationSettingValue then
    return .getCurrentPlayerApplicationSettingValue (← readU8List)
  else if pduId = PduId.setPlayerApplicationSettingValue then
    return .setPlayerApplicationSettingValue (← readSettingList)
  else if pduId = PduId.getPlayerApplicationSettingAttributeText then
    return .getPlayerApplicationSettingAttributeText (← readU8List)
  else if pduId = PduId.getPlayerApplicationSettingValueText then
    return .getPlayerApplicationSettingValueText (← u8) (← readU8List)
  else if pduId = PduId.informDisplayableCharacterSet then
    return .informDisplayableCharacterSet (← counted u16)
  else if pduId = PduId.informBatteryStatusOfCt then return .informBatteryStatusOfCt (← u8)
  else if pduId = PduId.getElementAttributes then
    return .getElementAttributes (← u64) (← readU32List)
  else if pduId = PduId.getPlayStatus then return .getPlayStatus
  else if pduId = PduId.requestContinuingResponse then return .requestContinuingResponse (← u8)
  else if pduId = PduId.abortContinuingResponse then return .abortContinuingResponse (← u8)
  else if pduId = PduId.registerNotification then return .registerNotification (← u8) (← u32)
  else if pduId = PduId.setAbsoluteVolume then return .setAbsoluteVolume (← u8)
  else if pduId = PduId.setAddressedPlayer then return .setAddressedPlayer (← u16)
  else if pduId = PduId.setBrowsedPlayer then return .setBrowsedPlayer (← u16)
  else if pduId = PduId.getFolderItems then
    return .getFolderItems (← u8) (← u32) (← u32) (← readU32List)
  else if pduId = PduId.changePath then return .changePath (← u16) (← u8) (← u64)
  else if pduId = PduId.getItemAttributes then
    return .getItemAttributes (← u8) (← u64) (← u16) (← readU32List)
  else if pduId = PduId.getTotalNumberOfItems then return .getTotalNumberOfItems (← u8)
  else if pduId = PduId.search then return .search (← u16) (← string16)
  else if pduId = PduId.playItem then return .playItem (← u8) (← u64) (← u16)
  else if pduId = PduId.addToNowPlaying then return .addToNowPlaying (← u8) (← u64) (← u16)
  else fun _ => none

def parse (pduId : UInt8) (parameters : Bytes) : Option Command :=
  (read pduId parameters).map Prod.fst

end Command

/-! ## Events -/

namespace EventId

def playbackStatusChanged : UInt8 := 0x01
def trackChanged : UInt8 := 0x02
def playbackPosChanged : UInt8 := 0x05
def playerApplicationSettingChanged : UInt8 := 0x08
def nowPlayingContentChanged : UInt8 := 0x09
def availablePlayersChanged : UInt8 := 0x0A
def addressedPlayerChanged : UInt8 := 0x0B
def uidsChanged : UInt8 := 0x0C
def volumeChanged : UInt8 := 0x0D

end EventId

inductive Event where
  | playbackStatusChanged (playStatus : UInt8)
  | trackChanged (uid : UInt64)
  | playbackPosChanged (playbackPosition : UInt32)
  | playerApplicationSettingChanged (settings : List ApplicationSetting)
  | nowPlayingContentChanged
  | availablePlayersChanged
  | addressedPlayerChanged (playerId : UInt16) (uidCounter : UInt16)
  | uidsChanged (uidCounter : UInt16)
  | volumeChanged (volume : UInt8)
  | generic (eventId : UInt8) (data : Bytes)
deriving DecidableEq

namespace Event

def eventId : Event → UInt8
  | playbackStatusChanged _ => EventId.playbackStatusChanged
  | trackChanged _ => EventId.trackChanged
  | playbackPosChanged _ => EventId.playbackPosChanged
  | playerApplicationSettingChanged _ => EventId.playerApplicationSettingChanged
  | nowPlayingContentChanged => EventId.nowPlayingContentChanged
  | availablePlayersChanged => EventId.availablePlayersChanged
  | addressedPlayerChanged _ _ => EventId.addressedPlayerChanged
  | uidsChanged _ => EventId.uidsChanged
  | volumeChanged _ => EventId.volumeChanged
  | generic eventId _ => eventId

def payload : Event → Bytes
  | playbackStatusChanged playStatus => [playStatus]
  | trackChanged uid => be64 uid
  | playbackPosChanged playbackPosition => be32 playbackPosition
  | playerApplicationSettingChanged settings => writeSettingList settings
  | nowPlayingContentChanged => []
  | availablePlayersChanged => []
  | addressedPlayerChanged playerId uidCounter => be16 playerId ++ be16 uidCounter
  | uidsChanged uidCounter => be16 uidCounter
  | volumeChanged volume => [volume]
  | generic _ data => data

def toBytes (event : Event) : Bytes := [event.eventId] ++ event.payload

def readPayload (eventId : UInt8) : Reading Event :=
  if eventId = EventId.playbackStatusChanged then return .playbackStatusChanged (← u8)
  else if eventId = EventId.trackChanged then return .trackChanged (← u64)
  else if eventId = EventId.playbackPosChanged then return .playbackPosChanged (← u32)
  else if eventId = EventId.playerApplicationSettingChanged then
    return .playerApplicationSettingChanged (← readSettingList)
  else if eventId = EventId.nowPlayingContentChanged then return .nowPlayingContentChanged
  else if eventId = EventId.availablePlayersChanged then return .availablePlayersChanged
  else if eventId = EventId.addressedPlayerChanged then
    return .addressedPlayerChanged (← u16) (← u16)
  else if eventId = EventId.uidsChanged then return .uidsChanged (← u16)
  else if eventId = EventId.volumeChanged then return .volumeChanged (← u8)
  else return .generic eventId (← rest)

def parse (data : Bytes) : Option Event := ((u8 >>= readPayload) data).map Prod.fst

end Event

/-! ## Responses -/

inductive Response where
  | getCapabilities (capabilities : CapabilityList)
  | listPlayerApplicationSettingAttributes (attributeIds : List UInt8)
  | listPlayerApplicationSettingValues (valueIds : List UInt8)
  | getCurrentPlayerApplicationSettingValue (settings : List ApplicationSetting)
  | setPlayerApplicationSettingValue
  | getPlayerApplicationSettingAttributeText (entries : List SettingText)
  | getPlayerApplicationSettingValueText (entries : List SettingText)
  | informDisplayableCharacterSet
  | informBatteryStatusOfCt
  | abortContinuingResponse
  | getElementAttributes (attributes : List MediaAttribute)
  | getPlayStatus (songLength : UInt32) (songPosition : UInt32) (playStatus : UInt8)
  | registerNotification (event : Event)
  | setAbsoluteVolume (volume : UInt8)
  | setAddressedPlayer (status : UInt8)
  | setBrowsedPlayer (status : UInt8) (uidCounter : UInt16) (numberOfItems : UInt32)
      (characterSetId : UInt16) (folderNames : List String)
  | getFolderItems (status : UInt8) (uidCounter : UInt16) (items : List BrowseableItem)
  | changePath (status : UInt8) (numberOfItems : UInt32)
  | getItemAttributes (status : UInt8) (attributes : List MediaAttribute)
  | getTotalNumberOfItems (status : UInt8) (uidCounter : UInt16) (numberOfItems : UInt32)
  | search (status : UInt8) (uidCounter : UInt16) (numberOfItems : UInt32)
  | playItem (status : UInt8)
  | addToNowPlaying (status : UInt8)
deriving DecidableEq

namespace Response

def pduId : Response → UInt8
  | getCapabilities _ => PduId.getCapabilities
  | listPlayerApplicationSettingAttributes _ => PduId.listPlayerApplicationSettingAttributes
  | listPlayerApplicationSettingValues _ => PduId.listPlayerApplicationSettingValues
  | getCurrentPlayerApplicationSettingValue _ => PduId.getCurrentPlayerApplicationSettingValue
  | setPlayerApplicationSettingValue => PduId.setPlayerApplicationSettingValue
  | getPlayerApplicationSettingAttributeText _ => PduId.getPlayerApplicationSettingAttributeText
  | getPlayerApplicationSettingValueText _ => PduId.getPlayerApplicationSettingValueText
  | informDisplayableCharacterSet => PduId.informDisplayableCharacterSet
  | informBatteryStatusOfCt => PduId.informBatteryStatusOfCt
  | abortContinuingResponse => PduId.abortContinuingResponse
  | getElementAttributes _ => PduId.getElementAttributes
  | getPlayStatus _ _ _ => PduId.getPlayStatus
  | registerNotification _ => PduId.registerNotification
  | setAbsoluteVolume _ => PduId.setAbsoluteVolume
  | setAddressedPlayer _ => PduId.setAddressedPlayer
  | setBrowsedPlayer _ _ _ _ _ => PduId.setBrowsedPlayer
  | getFolderItems _ _ _ => PduId.getFolderItems
  | changePath _ _ => PduId.changePath
  | getItemAttributes _ _ => PduId.getItemAttributes
  | getTotalNumberOfItems _ _ _ => PduId.getTotalNumberOfItems
  | search _ _ _ => PduId.search
  | playItem _ => PduId.playItem
  | addToNowPlaying _ => PduId.addToNowPlaying

/-- `to_be_bytes()[1..]` -/
def be24 (id : UInt32) : Bytes := (be32 id).drop 1

def toParameters : Response → Bytes
  | getCapabilities (.companyIds ids) => [CapabilityId.companyId] ++ writeCounted be24 ids
  | getCapabilities (.eventIds ids) => [CapabilityId.eventsSupported] ++ writeU8List ids
  | registerNotification event => event.toBytes
  | setBrowsedPlayer status uidCounter numberOfItems characterSetId folderNames =>
      [status] ++ (be16 uidCounter ++ (be32 numberOfItems ++ (be16 characterSetId ++
        writeCounted putString16 folderNames)))
  | getFolderItems status uidCounter items =>
      [status] ++ (be16 uidCounter ++ (count16 items.length ++ items.flatMap BrowseableItem.write))
  | listPlayerApplicationSettingAttributes attributeIds => writeU8List attributeIds
  | listPlayerApplicationSettingValues valueIds => writeU8List valueIds
  | getCurrentPlayerApplicationSettingValue settings => writeSettingList settings
  | setPlayerApplicationSettingValue => []
  | getPlayerApplicationSettingAttributeText entries => writeSettingTextList entries
  | getPlayerApplicationSettingValueText entries => writeSettingTextList entries
  | informDisplayableCharacterSet => []
  | informBatteryStatusOfCt => []
  | abortContinuingResponse => []
  | getElementAttributes attributes => writeMediaAttributeList attributes
  | getPlayStatus songLength songPosition playStatus =>
      be32 songLength ++ (be32 songPosition ++ [playStatus])
  | setAbsoluteVolume volume => [volume]
  | setAddressedPlayer status => [status]
  | changePath status numberOfItems => [status] ++ be32 numberOfItems
  | getItemAttributes status attributes => [status] ++ writeMediaAttributeList attributes
  | getTotalNumberOfItems status uidCounter numberOfItems =>
      [status] ++ (be16 uidCounter ++ be32 numberOfItems)
  | search status uidCounter numberOfItems => [status] ++ (be16 uidCounter ++ be32 numberOfItems)
  | playItem status => [status]
  | addToNowPlaying status => [status]

def readCapabilities (capabilityId : UInt8) (count : Nat) : Reading CapabilityList :=
  if capabilityId = CapabilityId.companyId then .companyIds <$> times u24 count
  else if capabilityId = CapabilityId.eventsSupported then .eventIds <$> times u8 count
  else fun _ => none

def read (pduId : UInt8) : Reading Response :=
  if pduId = PduId.getCapabilities then do
    let capabilityId ← u8
    let count ← u8
    return .getCapabilities (← readCapabilities capabilityId count.toNat)
  else if pduId = PduId.listPlayerApplicationSettingAttributes then
    return .listPlayerApplicationSettingAttributes (← readU8List)
  else if pduId = PduId.listPlayerApplicationSettingValues then
    return .listPlayerApplicationSettingValues (← readU8List)
  else if pduId = PduId.getCurrentPlayerApplicationSettingValue then
    return .getCurrentPlayerApplicationSettingValue (← readSettingList)
  else if pduId = PduId.setPlayerApplicationSettingValue then
    return .setPlayerApplicationSettingValue
  else if pduId = PduId.getPlayerApplicationSettingAttributeText then
    return .getPlayerApplicationSettingAttributeText (← readSettingTextList)
  else if pduId = PduId.getPlayerApplicationSettingValueText then
    return .getPlayerApplicationSettingValueText (← readSettingTextList)
  else if pduId = PduId.informDisplayableCharacterSet then return .informDisplayableCharacterSet
  else if pduId = PduId.informBatteryStatusOfCt then return .informBatteryStatusOfCt
  else if pduId = PduId.abortContinuingResponse then return .abortContinuingResponse
  else if pduId = PduId.getElementAttributes then
    return .getElementAttributes (← readMediaAttributeList)
  else if pduId = PduId.getPlayStatus then return .getPlayStatus (← u32) (← u32) (← u8)
  else if pduId = PduId.registerNotification then do
    let data ← rest
    return .registerNotification (← StateT.lift (Event.parse data))
  else if pduId = PduId.setAbsoluteVolume then return .setAbsoluteVolume (← u8)
  else if pduId = PduId.setAddressedPlayer then return .setAddressedPlayer (← u8)
  else if pduId = PduId.setBrowsedPlayer then
    return .setBrowsedPlayer (← u8) (← u16) (← u32) (← u16) (← counted string16)
  else if pduId = PduId.getFolderItems then do
    let status ← u8
    let uidCounter ← u16
    let count ← u16
    return .getFolderItems status uidCounter (← times BrowseableItem.read count.toNat)
  else if pduId = PduId.changePath then return .changePath (← u8) (← u32)
  else if pduId = PduId.getItemAttributes then
    return .getItemAttributes (← u8) (← readMediaAttributeList)
  else if pduId = PduId.getTotalNumberOfItems then
    return .getTotalNumberOfItems (← u8) (← u16) (← u32)
  else if pduId = PduId.search then return .search (← u8) (← u16) (← u32)
  else if pduId = PduId.playItem then return .playItem (← u8)
  else if pduId = PduId.addToNowPlaying then return .addToNowPlaying (← u8)
  else fun _ => none

def parse (pduId : UInt8) (parameters : Bytes) : Option Response :=
  (read pduId parameters).map Prod.fst

end Response

end Simble.Avrcp
