import Simble.Classic.AvrcpMessages

/-! What is written of AVRCP parameters is read again. -/
namespace Simble.Avrcp
open Lib Lib.Reading

/-! ## Fields -/

theorem recovers_last {α β : Type} {read : Reading α} {bytes : Bytes} {value : α} {f : α → β}
    (recovers : Recovers read bytes value) :
    Recovers (read >>= fun v => pure (f v)) bytes (f value) := by
  intro rest
  rw [bind_apply, recovers]
  rfl

/-- A value that is made of the last field, and may be none. -/
theorem recovers_lift {α β : Type} {read : Reading α} {bytes : Bytes} {value : α} {f : α → Option β}
    {result : β} (recovers : Recovers read bytes value) (made : f value = some result) :
    Recovers (read >>= fun v => StateT.lift (f v)) bytes result := by
  intro rest
  rw [bind_apply, recovers]
  show (StateT.lift (f value) : Reading β) rest = _
  rw [made]
  rfl

/-- A reader that is run on what was written and nothing else. -/
theorem map_fst_of_recovers {α : Type} {read : Reading α} {bytes : Bytes} {value : α}
    (recovers : Recovers read bytes value) : (read bytes).map Prod.fst = some value := by
  have whole := recovers []
  rw [List.append_nil] at whole
  rw [whole]
  rfl

theorem recovers_u8 (value : UInt8) : Recovers u8 [value] value := by
  have bytes : [value] = toBe 1 value.toNat := by simp [toBe]
  have read := (@recovers_number 1 value.toNat value.toNat_lt).map UInt8.ofNat
  rw [UInt8.ofNat_toNat] at read
  rw [bytes]
  exact read

theorem recovers_u16 (value : UInt16) : Recovers u16 (be16 value) value := by
  have read := (@recovers_number 2 value.toNat value.toNat_lt).map UInt16.ofNat
  rw [UInt16.ofNat_toNat] at read
  exact read

theorem recovers_u24 {value : UInt32} (narrow : value.toNat < 2 ^ 24) :
    Recovers u24 (Response.be24 value) value := by
  have read := (@recovers_number 3 value.toNat narrow).map UInt32.ofNat
  rw [UInt32.ofNat_toNat] at read
  have bytes : Response.be24 value = toBe 3 value.toNat := drop_toBe 1 3 value.toNat
  rw [bytes]
  exact read

theorem recovers_u32 (value : UInt32) : Recovers u32 (be32 value) value := by
  have read := (@recovers_number 4 value.toNat value.toNat_lt).map UInt32.ofNat
  rw [UInt32.ofNat_toNat] at read
  exact read

theorem recovers_u64 (value : UInt64) : Recovers u64 (be64 value) value := by
  have read := (@recovers_number 8 value.toNat value.toNat_lt).map UInt64.ofNat
  rw [UInt64.ofNat_toNat] at read
  exact read

def Fits8 (text : String) : Prop := (utf8 text).length < 2 ^ 8
def Fits16 (text : String) : Prop := (utf8 text).length < 2 ^ 16

theorem recovers_text {text : String} {n : Nat} (size : (utf8 text).length = n) :
    Recovers (take n >>= fun bytes => pure (fromUtf8Lossy bytes)) (utf8 text) text := by
  have read := @recovers_last _ _ _ _ _ fromUtf8Lossy (recovers_take size)
  rw [fromUtf8Lossy_utf8] at read
  exact read

theorem recovers_string8 {text : String} (fits : Fits8 text) :
    Recovers string8 (putString8 text) text :=
  (recovers_u8 _).bind (recovers_text (UInt8.toNat_ofNat_of_lt fits).symm)

theorem recovers_string16 {text : String} (fits : Fits16 text) :
    Recovers string16 (putString16 text) text :=
  (recovers_u16 _).bind (recovers_text (UInt16.toNat_ofNat_of_lt fits).symm)

/-! ## Lists -/

/-- No more than a count of one octet can say. -/
def Few {α : Type} (values : List α) : Prop := values.length ≤ 255

theorem recovers_counted {α : Type} {read : Reading α} {write : α → Bytes} {values : List α}
    (few : Few values) (each : ∀ value ∈ values, Recovers read (write value) value) :
    Recovers (counted read) (writeCounted write values) values := by
  have size : (UInt8.ofNat values.length).toNat = values.length :=
    UInt8.toNat_ofNat_of_lt (Nat.lt_succ_of_le few)
  apply (recovers_u8 _).bind
  rw [size]
  exact recovers_times each

theorem recovers_u8List {values : List UInt8} (few : Few values) :
    Recovers readU8List (writeU8List values) values :=
  recovers_counted few fun value _ => recovers_u8 value

theorem recovers_u32List {values : List UInt32} (few : Few values) :
    Recovers readU32List (writeU32List values) values :=
  recovers_counted few fun value _ => recovers_u32 value

theorem recovers_mediaAttribute {media : MediaAttribute} (fits : Fits16 media.value) :
    Recovers MediaAttribute.read media.write media :=
  (recovers_u32 _).bind ((recovers_u16 _).bind (recovers_last (recovers_string16 fits)))

theorem recovers_mediaAttributeList {attributes : List MediaAttribute}
    (fits : Few attributes ∧ ∀ media ∈ attributes, Fits16 media.value) :
    Recovers readMediaAttributeList (writeMediaAttributeList attributes) attributes :=
  recovers_counted fits.1 fun media listed => recovers_mediaAttribute (fits.2 media listed)

theorem recovers_settingList {settings : List ApplicationSetting} (few : Few settings) :
    Recovers readSettingList (writeSettingList settings) settings :=
  recovers_counted few fun _ _ => (recovers_u8 _).bind (recovers_last (recovers_u8 _))

theorem recovers_settingTextList {entries : List SettingText}
    (fits : Few entries ∧ ∀ entry ∈ entries, Fits8 entry.text) :
    Recovers readSettingTextList (writeSettingTextList entries) entries :=
  recovers_counted fits.1 fun entry listed => (recovers_u8 _).bind
    ((recovers_u16 _).bind (recovers_last (recovers_string8 (fits.2 entry listed))))

/-! ## Items -/

theorem recovers_little32 (value : UInt32) :
    Recovers (UInt32.ofNat <$> littleNumber 4) (be32 value).reverse value := by
  have read := (@recovers_littleNumber 4 value.toNat value.toNat_lt).map UInt32.ofNat
  rw [UInt32.ofNat_toNat] at read
  exact read

theorem recovers_little128 (value : BitVec 128) :
    Recovers (BitVec.ofNat 128 <$> littleNumber 16) (toBe 16 value.toNat).reverse value := by
  have read := (@recovers_littleNumber 16 value.toNat value.isLt).map (BitVec.ofNat 128)
  rw [BitVec.ofNat_toNat, BitVec.setWidth_eq] at read
  exact read

namespace BrowseableItem

def name : BrowseableItem → String
  | mediaPlayer item => item.displayableName
  | folder item => item.displayableName
  | mediaElement item => item.displayableName

def attributes : BrowseableItem → List MediaAttribute
  | mediaElement item => item.attributes
  | _ => []

/-- The strings, the attributes and the whole body are no longer than their counts can say. -/
structure Fits (item : BrowseableItem) : Prop where
  name : Fits16 item.name
  attributes : Few item.attributes ∧ ∀ media ∈ item.attributes, Fits16 media.value
  body : item.body.length < 2 ^ 16

theorem recovers_body {item : BrowseableItem} (fits : Fits item) :
    Recovers (readBody item.itemType) item.body item := by
  have name := fits.name
  cases item with
  | mediaPlayer item =>
    refine (?_ : Recovers MediaPlayerItem.read _ _).map mediaPlayer
    exact (recovers_u16 _).bind ((recovers_u8 _).bind ((recovers_little32 _).bind
      ((recovers_u8 _).bind ((recovers_little128 _).bind ((recovers_u16 _).bind
        (recovers_last (recovers_string16 name)))))))
  | folder item =>
    obtain ⟨folderUid, folderType, isPlayable, characterSetId, displayableName⟩ := item
    refine (?_ : Recovers FolderItem.read _ _).map folder
    cases isPlayable <;>
      exact (recovers_u64 _).bind ((recovers_u8 _).bind ((recovers_u8 _).bind ((recovers_u16 _).bind
        (recovers_last (recovers_string16 name)))))
  | mediaElement item =>
    refine (?_ : Recovers MediaElementItem.read _ _).map mediaElement
    exact (recovers_u64 _).bind ((recovers_u8 _).bind ((recovers_u16 _).bind
      ((recovers_string16 name).bind (recovers_last (recovers_mediaAttributeList fits.attributes)))))

theorem recovers_item {item : BrowseableItem} (fits : Fits item) :
    Recovers read item.write item := by
  have size : item.body.length = (UInt16.ofNat item.body.length).toNat :=
    (UInt16.toNat_ofNat_of_lt fits.body).symm
  refine (recovers_u8 _).bind ((recovers_u16 _).bind (recovers_lift (recovers_take size) ?_))
  exact map_fst_of_recovers (recovers_body fits)

end BrowseableItem

/-! ## Commands -/

namespace Command

/-- Lists and strings are no longer than their counts can say. -/
def Fits : Command → Prop
  | getCurrentPlayerApplicationSettingValue values => Few values
  | setPlayerApplicationSettingValue settings => Few settings
  | getPlayerApplicationSettingAttributeText values => Few values
  | getPlayerApplicationSettingValueText _ values => Few values
  | informDisplayableCharacterSet values => Few values
  | getElementAttributes _ values => Few values
  | getFolderItems _ _ _ values => Few values
  | getItemAttributes _ _ _ values => Few values
  | search _ text => Fits16 text
  | _ => True

theorem recovers {command : Command} (fits : command.Fits) :
    Recovers (read command.pduId) command.toParameters command := by
  cases command with
  | getCapabilities => exact recovers_last (recovers_u8 _)
  | listPlayerApplicationSettingAttributes => exact recovers_pure _
  | listPlayerApplicationSettingValues => exact recovers_last (recovers_u8 _)
  | getCurrentPlayerApplicationSettingValue => exact recovers_last (recovers_u8List fits)
  | setPlayerApplicationSettingValue => exact recovers_last (recovers_settingList fits)
  | getPlayerApplicationSettingAttributeText => exact recovers_last (recovers_u8List fits)
  | getPlayerApplicationSettingValueText =>
    exact (recovers_u8 _).bind (recovers_last (recovers_u8List fits))
  | informDisplayableCharacterSet =>
    exact recovers_last (recovers_counted fits fun v _ => recovers_u16 v)
  | informBatteryStatusOfCt => exact recovers_last (recovers_u8 _)
  | getElementAttributes => exact (recovers_u64 _).bind (recovers_last (recovers_u32List fits))
  | getPlayStatus => exact recovers_pure _
  | requestContinuingResponse => exact recovers_last (recovers_u8 _)
  | abortContinuingResponse => exact recovers_last (recovers_u8 _)
  | registerNotification => exact (recovers_u8 _).bind (recovers_last (recovers_u32 _))
  | setAbsoluteVolume => exact recovers_last (recovers_u8 _)
  | setAddressedPlayer => exact recovers_last (recovers_u16 _)
  | setBrowsedPlayer => exact recovers_last (recovers_u16 _)
  | getFolderItems =>
    exact (recovers_u8 _).bind ((recovers_u32 _).bind ((recovers_u32 _).bind
      (recovers_last (recovers_u32List fits))))
  | changePath =>
    exact (recovers_u16 _).bind ((recovers_u8 _).bind (recovers_last (recovers_u64 _)))
  | getItemAttributes =>
    exact (recovers_u8 _).bind ((recovers_u64 _).bind ((recovers_u16 _).bind
      (recovers_last (recovers_u32List fits))))
  | getTotalNumberOfItems => exact recovers_last (recovers_u8 _)
  | search => exact (recovers_u16 _).bind (recovers_last (recovers_string16 fits))
  | playItem => exact (recovers_u8 _).bind ((recovers_u64 _).bind (recovers_last (recovers_u16 _)))
  | addToNowPlaying =>
    exact (recovers_u8 _).bind ((recovers_u64 _).bind (recovers_last (recovers_u16 _)))

end Command

/-! ## Events -/

namespace Event

/-- The settings fit their count, and what has no structure of its own has another id. -/
def Fits : Event → Prop
  | playerApplicationSettingChanged settings => Few settings
  | generic eventId _ => eventId ∉ [EventId.playbackStatusChanged, EventId.trackChanged,
      EventId.playbackPosChanged, EventId.playerApplicationSettingChanged,
      EventId.nowPlayingContentChanged, EventId.availablePlayersChanged,
      EventId.addressedPlayerChanged, EventId.uidsChanged, EventId.volumeChanged]
  | _ => True

theorem readPayload_generic {eventId : UInt8} {data : Bytes} (fits : (generic eventId data).Fits) :
    readPayload eventId data = some (generic eventId data, []) := by
  simp only [Fits, List.mem_cons, List.not_mem_nil, or_false, not_or] at fits
  obtain ⟨status, track, position, setting, content, players, addressed, uids, volume⟩ := fits
  unfold readPayload
  rw [if_neg status, if_neg track, if_neg position, if_neg setting, if_neg content, if_neg players,
    if_neg addressed, if_neg uids, if_neg volume]
  rfl

theorem parse_toBytes {event : Event} (fits : event.Fits) : parse event.toBytes = some event := by
  suffices payload : (readPayload event.eventId event.payload).map Prod.fst = some event by
    unfold parse toBytes
    rw [bind_apply, recovers_u8]
    exact payload
  cases event with
  | playbackStatusChanged => exact map_fst_of_recovers (recovers_last (recovers_u8 _))
  | trackChanged => exact map_fst_of_recovers (recovers_last (recovers_u64 _))
  | playbackPosChanged => exact map_fst_of_recovers (recovers_last (recovers_u32 _))
  | playerApplicationSettingChanged =>
    exact map_fst_of_recovers (recovers_last (recovers_settingList fits))
  | nowPlayingContentChanged => exact map_fst_of_recovers (recovers_pure _)
  | availablePlayersChanged => exact map_fst_of_recovers (recovers_pure _)
  | addressedPlayerChanged =>
    exact map_fst_of_recovers ((recovers_u16 _).bind (recovers_last (recovers_u16 _)))
  | uidsChanged => exact map_fst_of_recovers (recovers_last (recovers_u16 _))
  | volumeChanged => exact map_fst_of_recovers (recovers_last (recovers_u8 _))
  | generic eventId data =>
    exact congrArg (Option.map Prod.fst) (readPayload_generic fits)

end Event

/-! ## Responses -/

namespace Response

/-- Lists and strings are no longer than their counts can say. -/
def Fits : Response → Prop
  | listPlayerApplicationSettingAttributes values => Few values
  | listPlayerApplicationSettingValues values => Few values
  | getCurrentPlayerApplicationSettingValue settings => Few settings
  | getPlayerApplicationSettingAttributeText entries =>
    Few entries ∧ ∀ entry ∈ entries, Fits8 entry.text
  | getPlayerApplicationSettingValueText entries =>
    Few entries ∧ ∀ entry ∈ entries, Fits8 entry.text
  | getElementAttributes attributes => Few attributes ∧ ∀ media ∈ attributes, Fits16 media.value
  | getItemAttributes _ attributes => Few attributes ∧ ∀ media ∈ attributes, Fits16 media.value
  | getCapabilities (.companyIds ids) => Few ids
  | getCapabilities (.eventIds ids) => Few ids
  | registerNotification event => event.Fits
  | setBrowsedPlayer _ _ _ _ folderNames => Few folderNames ∧ ∀ name ∈ folderNames, Fits16 name
  | getFolderItems _ _ items => items.length ≤ 65535 ∧ ∀ item ∈ items, item.Fits
  | _ => True

def Narrow : Response → Prop
  | getCapabilities (.companyIds ids) => ∀ id ∈ ids, id.toNat < 2 ^ 24
  | _ => True

theorem parse_toParameters {response : Response} (fits : response.Fits) (narrow : response.Narrow) :
    parse response.pduId response.toParameters = some response := by
  cases response with
  | getCapabilities capabilities =>
    apply map_fst_of_recovers
    cases capabilities with
    | companyIds ids =>
      have size : (UInt8.ofNat ids.length).toNat = ids.length :=
        UInt8.toNat_ofNat_of_lt (Nat.lt_succ_of_le fits)
      refine (recovers_u8 _).bind ((recovers_u8 _).bind (recovers_last ?_))
      rw [size]
      exact (recovers_times fun id listed => recovers_u24 (narrow id listed)).map _
    | eventIds ids =>
      have size : (UInt8.ofNat ids.length).toNat = ids.length :=
        UInt8.toNat_ofNat_of_lt (Nat.lt_succ_of_le fits)
      refine (recovers_u8 _).bind ((recovers_u8 _).bind (recovers_last ?_))
      rw [size]
      exact (recovers_times fun id _ => recovers_u8 id).map _
  | listPlayerApplicationSettingAttributes =>
    exact map_fst_of_recovers (recovers_last (recovers_u8List fits))
  | listPlayerApplicationSettingValues =>
    exact map_fst_of_recovers (recovers_last (recovers_u8List fits))
  | getCurrentPlayerApplicationSettingValue =>
    exact map_fst_of_recovers (recovers_last (recovers_settingList fits))
  | setPlayerApplicationSettingValue => exact map_fst_of_recovers (recovers_pure _)
  | getPlayerApplicationSettingAttributeText =>
    exact map_fst_of_recovers (recovers_last (recovers_settingTextList fits))
  | getPlayerApplicationSettingValueText =>
    exact map_fst_of_recovers (recovers_last (recovers_settingTextList fits))
  | informDisplayableCharacterSet => exact map_fst_of_recovers (recovers_pure _)
  | informBatteryStatusOfCt => exact map_fst_of_recovers (recovers_pure _)
  | abortContinuingResponse => exact map_fst_of_recovers (recovers_pure _)
  | getElementAttributes =>
    exact map_fst_of_recovers (recovers_last (recovers_mediaAttributeList fits))
  | getPlayStatus =>
    exact map_fst_of_recovers ((recovers_u32 _).bind ((recovers_u32 _).bind
      (recovers_last (recovers_u8 _))))
  | registerNotification event =>
    have parsed := Event.parse_toBytes fits
    show ((StateT.lift (Event.parse event.toBytes) >>= fun event =>
      pure (.registerNotification event) : Reading Response) []).map Prod.fst = _
    rw [parsed]
    rfl
  | setAbsoluteVolume => exact map_fst_of_recovers (recovers_last (recovers_u8 _))
  | setAddressedPlayer => exact map_fst_of_recovers (recovers_last (recovers_u8 _))
  | setBrowsedPlayer =>
    exact map_fst_of_recovers ((recovers_u8 _).bind ((recovers_u16 _).bind ((recovers_u32 _).bind
      ((recovers_u16 _).bind (recovers_last (recovers_counted fits.1 fun name listed =>
        recovers_string16 (fits.2 name listed)))))))
  | getFolderItems status uidCounter items =>
    have size : (UInt16.ofNat items.length).toNat = items.length :=
      UInt16.toNat_ofNat_of_lt (Nat.lt_succ_of_le fits.1)
    apply map_fst_of_recovers
    refine (recovers_u8 _).bind ((recovers_u16 _).bind ((recovers_u16 _).bind (recovers_last ?_)))
    rw [size]
    exact recovers_times fun item listed => BrowseableItem.recovers_item (fits.2 item listed)
  | changePath => exact map_fst_of_recovers ((recovers_u8 _).bind (recovers_last (recovers_u32 _)))
  | getItemAttributes =>
    exact map_fst_of_recovers ((recovers_u8 _).bind
      (recovers_last (recovers_mediaAttributeList fits)))
  | getTotalNumberOfItems =>
    exact map_fst_of_recovers ((recovers_u8 _).bind ((recovers_u16 _).bind
      (recovers_last (recovers_u32 _))))
  | search =>
    exact map_fst_of_recovers ((recovers_u8 _).bind ((recovers_u16 _).bind
      (recovers_last (recovers_u32 _))))
  | playItem => exact map_fst_of_recovers (recovers_last (recovers_u8 _))
  | addToNowPlaying => exact map_fst_of_recovers (recovers_last (recovers_u8 _))

end Response

end Simble.Avrcp
