import Simble.Profiles.Bap

/-! The announcement of a broadcast source (`profiles/bap.rs`): subgroups and BISes, each
configured in entries, and what is read of any octets in its place. -/
namespace Simble.Bap
open Simble.Lib Simble.Lib.Reading CodecSpecificConfiguration List

structure Bis where
  index : UInt8
  codecSpecificConfiguration : CodecSpecificConfiguration
deriving DecidableEq

/-- Octets behind one that counts them. -/
def sized (bytes : Bytes) : Bytes := UInt8.ofNat bytes.length :: bytes

def Bis.toBytes (bis : Bis) : Bytes := bis.index :: sized bis.codecSpecificConfiguration.toBytes

structure Subgroup where
  codecId : Octets 5
  codecSpecificConfiguration : CodecSpecificConfiguration
  metadata : Bytes
  bis : List Bis
deriving DecidableEq

def Subgroup.toBytes (subgroup : Subgroup) : Bytes :=
  UInt8.ofNat subgroup.bis.length :: (subgroup.codecId.toList ++
    (sized subgroup.codecSpecificConfiguration.toBytes ++
      (sized subgroup.metadata ++ subgroup.bis.flatMap Bis.toBytes)))

structure BasicAudioAnnouncement where
  presentationDelay : UInt32
  subgroups : List Subgroup
deriving DecidableEq

def BasicAudioAnnouncement.toBytes (announcement : BasicAudioAnnouncement) : Bytes :=
  le 3 announcement.presentationDelay.toNat ++
    UInt8.ofNat announcement.subgroups.length :: announcement.subgroups.flatMap Subgroup.toBytes

/-- `*data.get(offset)?` -/
def octet : Reading UInt8
  | first :: rest => some (first, rest)
  | [] => none

def sizedOctets : Reading Bytes := do take (← octet).toNat

def bisFields : Reading (UInt8 × Bytes) := do return (← octet, ← sizedOctets)

def subgroupFields : Reading (UInt8 × Octets 5 × Bytes × Bytes) := do
  let numBis ← octet
  let codecId ← given (Octets.tryFrom 5 (← take 5))
  return (numBis, codecId, ← sizedOctets, ← sizedOctets)

def parseBis : Nat → Bytes → Rust (Option (List Bis × Bytes))
  | 0, data => .ok (some ([], data))
  | count + 1, data =>
    match bisFields data with
    | none => .ok none
    | some ((index, configBytes), rest) => do
      let config ← CodecSpecificConfiguration.parse configBytes
      match ← parseBis count rest with
      | none => return none
      | some (later, rest) => return some (⟨index, config⟩ :: later, rest)

def parseSubgroups : Nat → Bytes → Rust (Option (List Subgroup × Bytes))
  | 0, data => .ok (some ([], data))
  | count + 1, data =>
    match subgroupFields data with
    | none => .ok none
    | some ((numBis, codecId, configBytes, metadata), rest) => do
      match ← parseBis numBis.toNat rest with
      | none => return none
      | some (bis, rest) =>
        let config ← CodecSpecificConfiguration.parse configBytes
        match ← parseSubgroups count rest with
        | none => return none
        | some (later, rest) => return some (⟨codecId, config, metadata, bis⟩ :: later, rest)

/-- What stands before the subgroups: the presentation delay and how many they are. -/
def announcementFields : Reading (UInt32 × UInt8) := do
  return (UInt32.ofNat (← littleNumber 3), ← octet)

def BasicAudioAnnouncement.parse (data : Bytes) : Rust (Option BasicAudioAnnouncement) :=
  match announcementFields data with
  | none => .ok none
  | some ((presentationDelay, numSubgroups), rest) => do
    match ← parseSubgroups numSubgroups.toNat rest with
    | none => return none
    | some (subgroups, _) => return some ⟨presentationDelay, subgroups⟩

/-! ## Which octets are taken for a configuration -/

/-- The configurations of so many BISes in the order in which they are read, as far as the
octets go, and what is left where they go to the end. -/
def reachedBis : Nat → Bytes → List Bytes × Option Bytes
  | 0, data => ([], some data)
  | count + 1, data =>
    match bisFields data with
    | none => ([], none)
    | some ((_, configBytes), rest) =>
      let (later, left) := reachedBis count rest
      (configBytes :: later, left)

def reachedSubgroups : Nat → Bytes → List Bytes
  | 0, _ => []
  | count + 1, data =>
    match subgroupFields data with
    | none => []
    | some ((numBis, _, configBytes, _), rest) =>
      match reachedBis numBis.toNat rest with
      | (bis, none) => bis
      | (bis, some rest) => bis ++ configBytes :: reachedSubgroups count rest

/-- Every configuration that the octets of an announcement are read for. -/
def reached (data : Bytes) : List Bytes :=
  match announcementFields data with
  | none => []
  | some ((_, numSubgroups), rest) => reachedSubgroups numSubgroups.toNat rest

/-- A configuration is read, or the first octets of it that make no entry panic. -/
theorem CodecSpecificConfiguration.parse_cases (data : Bytes) :
    (HasEmpty data ∧ parse data = .error .panic) ∨
      (¬ HasEmpty data ∧ ∃ config, parse data = .ok config) := by
  rcases ltvEntries_iff data with ⟨empty, failed⟩ | ⟨none, entries, walked⟩
  · exact .inl ⟨empty, by rw [parse, failed]; rfl⟩
  · exact .inr ⟨none, _, by rw [parse, walked]; rfl⟩

/-- Reading BISes panics exactly if one of their configurations has an empty entry, and
otherwise goes as far as the octets go. -/
theorem parseBis_cases (count : Nat) (data : Bytes) :
    ((∃ blob ∈ (reachedBis count data).1, HasEmpty blob) ∧
        parseBis count data = .error .panic) ∨
      ((∀ blob ∈ (reachedBis count data).1, ¬ HasEmpty blob) ∧
        ∃ found, parseBis count data = .ok found ∧
          found.map Prod.snd = (reachedBis count data).2) := by
  induction count generalizing data with
  | zero => exact .inr ⟨nofun, _, rfl, rfl⟩
  | succ count ih =>
    rw [parseBis, reachedBis]
    rcases bisFields data with _ | ⟨⟨index, configBytes⟩, rest⟩
    · exact .inr ⟨nofun, none, rfl, rfl⟩
    · rcases parse_cases configBytes with
        ⟨empty, failed⟩ | ⟨whole, config, parsed⟩
      · exact .inl ⟨⟨configBytes, mem_cons_self, empty⟩, by simp only [failed]; rfl⟩
      · rcases ih rest with ⟨⟨blob, inside, empty⟩, failed⟩ | ⟨wholes, found, read, left⟩
        · refine .inl ⟨⟨blob, mem_cons_of_mem _ inside, empty⟩, ?_⟩
          simp only [parsed, failed]
          rfl
        · refine .inr ⟨forall_mem_cons.mpr ⟨whole, wholes⟩, ?_⟩
          simp only [parsed, read]
          rcases found with _ | ⟨later, rest'⟩
          · exact ⟨none, rfl, left⟩
          · exact ⟨some (⟨index, config⟩ :: later, rest'), rfl, left⟩

theorem parseSubgroups_cases (count : Nat) (data : Bytes) :
    ((∃ blob ∈ reachedSubgroups count data, HasEmpty blob) ∧
        parseSubgroups count data = .error .panic) ∨
      ((∀ blob ∈ reachedSubgroups count data, ¬ HasEmpty blob) ∧
        ∃ found, parseSubgroups count data = .ok found) := by
  induction count generalizing data with
  | zero => exact .inr ⟨nofun, _, rfl⟩
  | succ count ih =>
    rw [parseSubgroups, reachedSubgroups]
    rcases subgroupFields data with _ | ⟨⟨numBis, codecId, configBytes, metadata⟩, rest⟩
    · exact .inr ⟨nofun, none, rfl⟩
    · have bises := parseBis_cases numBis.toNat rest
      revert bises
      dsimp only
      rcases reachedBis numBis.toNat rest with ⟨blobs, left⟩
      rintro (⟨⟨blob, inside, empty⟩, failed⟩ | ⟨wholes, found, read, same⟩)
      · refine .inl ⟨⟨blob, ?_, empty⟩, by rw [failed]; rfl⟩
        cases left
        · exact inside
        · exact mem_append_left _ inside
      · rw [read]
        rcases found with _ | ⟨bis, rest'⟩
        · cases same
          exact .inr ⟨wholes, none, rfl⟩
        · cases same
          rcases parse_cases configBytes with
            ⟨empty, failed⟩ | ⟨whole, config, parsed⟩
          · refine .inl ⟨⟨configBytes, ?_, empty⟩, by simp only [Rust.ok_bind, failed]; rfl⟩
            exact mem_append_right _ mem_cons_self
          · simp only [Rust.ok_bind, parsed]
            rcases ih rest' with ⟨⟨blob, inside, empty⟩, failed⟩ | ⟨others, found, read⟩
            · refine .inl ⟨⟨blob, ?_, empty⟩, by rw [failed]; rfl⟩
              exact mem_append_right _ (mem_cons_of_mem _ inside)
            · refine .inr ⟨?_, ?_⟩
              · rw [forall_mem_append, forall_mem_cons]
                exact ⟨wholes, whole, others⟩
              · rw [read]
                rcases found with _ | ⟨later, rest⟩
                · exact ⟨none, rfl⟩
                · exact ⟨some (⟨codecId, config, metadata, bis⟩ :: later, rest), rfl⟩

theorem BasicAudioAnnouncement.parse_cases (data : Bytes) :
    ((∃ blob ∈ reached data, HasEmpty blob) ∧ parse data = .error .panic) ∨
      ((∀ blob ∈ reached data, ¬ HasEmpty blob) ∧ ∃ found, parse data = .ok found) := by
  rw [parse, reached]
  rcases announcementFields data with _ | ⟨⟨delay, numSubgroups⟩, rest⟩
  · exact .inr ⟨nofun, none, rfl⟩
  · rcases parseSubgroups_cases numSubgroups.toNat rest with
      ⟨empty, failed⟩ | ⟨wholes, found, read⟩
    · exact .inl ⟨empty, by simp only [failed]; rfl⟩
    · refine .inr ⟨wholes, ?_⟩
      simp only [read]
      rcases found with _ | ⟨subgroups, _⟩
      · exact ⟨none, rfl⟩
      · exact ⟨some ⟨delay, subgroups⟩, rfl⟩

/-! ## What is written and read back -/

theorem recovers_octet (value : UInt8) : Recovers octet [value] value := fun _ => rfl

theorem recovers_sizedOctets {bytes : Bytes} (short : bytes.length ≤ 255) :
    Recovers sizedOctets (sized bytes) bytes := by
  have size : (UInt8.ofNat bytes.length).toNat = bytes.length := by
    rw [UInt8.toNat_ofNat', Nat.mod_eq_of_lt (by omega)]
  apply (recovers_octet _).bind
  rw [size]
  exact recovers_take rfl

theorem recovers_bisFields (bis : Bis) : Recovers bisFields bis.toBytes
    (bis.index, bis.codecSpecificConfiguration.toBytes) := by
  have short := bis.codecSpecificConfiguration.length_toBytes
  apply (recovers_octet bis.index).bind
  exact (recovers_sizedOctets (by omega)).map (bis.index, ·)

theorem recovers_subgroupFields {subgroup : Subgroup} (short : subgroup.metadata.length ≤ 255) :
    Recovers subgroupFields
      (UInt8.ofNat subgroup.bis.length :: (subgroup.codecId.toList ++
        (sized subgroup.codecSpecificConfiguration.toBytes ++ sized subgroup.metadata)))
      (UInt8.ofNat subgroup.bis.length, subgroup.codecId,
        subgroup.codecSpecificConfiguration.toBytes, subgroup.metadata) := by
  have fits := subgroup.codecSpecificConfiguration.length_toBytes
  apply (recovers_octet _).bind
  apply (recovers_take subgroup.codecId.toList_length).bind
  rw [Octets.tryFrom_toList]
  apply (recovers_given subgroup.codecId).bind
  apply (recovers_sizedOctets (by omega)).bind
  exact (recovers_sizedOctets short).map
    (UInt8.ofNat subgroup.bis.length, subgroup.codecId,
      subgroup.codecSpecificConfiguration.toBytes, ·)

theorem parseBis_toBytes (bises : List Bis) (rest : Bytes) :
    parseBis bises.length (bises.flatMap Bis.toBytes ++ rest) = .ok (some (bises, rest)) := by
  induction bises with
  | nil => rfl
  | cons bis bises ih =>
    rw [length_cons, flatMap_cons, append_assoc, parseBis, recovers_bisFields]
    simp only [parse_toBytes, Rust.ok_bind, ih]
    rfl

/-- What an octet can count: the BISes of a subgroup, and the octets of its metadata. -/
def Subgroup.Countable (subgroup : Subgroup) : Prop :=
  subgroup.bis.length ≤ 255 ∧ subgroup.metadata.length ≤ 255

theorem parseSubgroups_toBytes {subgroups : List Subgroup}
    (countable : ∀ subgroup ∈ subgroups, subgroup.Countable) (rest : Bytes) :
    parseSubgroups subgroups.length (subgroups.flatMap Subgroup.toBytes ++ rest) =
      .ok (some (subgroups, rest)) := by
  induction subgroups with
  | nil => rfl
  | cons subgroup subgroups ih =>
    obtain ⟨⟨bises, metadata⟩, others⟩ := forall_mem_cons.mp countable
    have size : (UInt8.ofNat subgroup.bis.length).toNat = subgroup.bis.length := by
      rw [UInt8.toNat_ofNat', Nat.mod_eq_of_lt (by omega)]
    have split : subgroup.toBytes ++ (subgroups.flatMap Subgroup.toBytes ++ rest) =
        (UInt8.ofNat subgroup.bis.length :: (subgroup.codecId.toList ++
          (sized subgroup.codecSpecificConfiguration.toBytes ++ sized subgroup.metadata))) ++
        (subgroup.bis.flatMap Bis.toBytes ++ (subgroups.flatMap Subgroup.toBytes ++ rest)) := by
      simp only [Subgroup.toBytes, cons_append, append_assoc]
    rw [length_cons, flatMap_cons, append_assoc, split, parseSubgroups,
      recovers_subgroupFields metadata]
    simp only [size, parseBis_toBytes, Rust.ok_bind, parse_toBytes,
      ih others]
    rfl

structure BasicAudioAnnouncement.Fits (announcement : BasicAudioAnnouncement) : Prop where
  delay : announcement.presentationDelay.toNat < 2 ^ 24
  subgroups : announcement.subgroups.length ≤ 255
  countable : ∀ subgroup ∈ announcement.subgroups, subgroup.Countable

theorem recovers_announcementFields {announcement : BasicAudioAnnouncement}
    (delay : announcement.presentationDelay.toNat < 2 ^ 24) :
    Recovers announcementFields
      (le 3 announcement.presentationDelay.toNat ++ [UInt8.ofNat announcement.subgroups.length])
      (announcement.presentationDelay, UInt8.ofNat announcement.subgroups.length) := by
  have number : Recovers (littleNumber 3) (le 3 announcement.presentationDelay.toNat) _ :=
    recovers_littleNumber delay
  apply number.bind
  have count := (recovers_octet (UInt8.ofNat announcement.subgroups.length)).map
    (announcement.presentationDelay, ·)
  rw [UInt32.ofNat_toNat]
  exact count

theorem BasicAudioAnnouncement.parse_toBytes {announcement : BasicAudioAnnouncement}
    (fits : announcement.Fits) (rest : Bytes) :
    parse (announcement.toBytes ++ rest) = .ok (some announcement) := by
  have size : (UInt8.ofNat announcement.subgroups.length).toNat =
      announcement.subgroups.length := by
    rw [UInt8.toNat_ofNat', Nat.mod_eq_of_lt (by have := fits.subgroups; omega)]
  have split : announcement.toBytes ++ rest = (le 3 announcement.presentationDelay.toNat ++
      [UInt8.ofNat announcement.subgroups.length]) ++
        (announcement.subgroups.flatMap Subgroup.toBytes ++ rest) := by
    simp [toBytes]
  rw [split, parse, recovers_announcementFields fits.delay]
  simp only [size, parseSubgroups_toBytes fits.countable, Rust.ok_bind]
  rfl

/-! ## Every octet string, and every announcement -/

/-- Parsing comes to its end exactly if no entry that it reaches is empty, and then takes the
entries whole; and what is written is read back, whatever follows it. -/
theorem announcements_parse (data : Bytes) (announcement : BasicAudioAnnouncement) (rest : Bytes)
    (capabilities : CodecSpecificCapabilities) :
    ((∃ found, BasicAudioAnnouncement.parse data = .ok found) ↔
      ∀ blob ∈ reached data, ¬ HasEmpty blob) ∧
    ((∃ config, CodecSpecificConfiguration.parse data = .ok config) ↔ ¬ HasEmpty data) ∧
    ((∃ found, CodecSpecificCapabilities.parse data = .ok found) ↔ ¬ HasEmpty data) ∧
    ((∃ texts, describeMetadata data = .ok texts) ↔ ¬ HasEmpty data) ∧
    (∀ entries, ltvEntries data = .ok entries → Entries data entries) ∧
    (announcement.Fits →
      BasicAudioAnnouncement.parse (announcement.toBytes ++ rest) = .ok (some announcement)) ∧
    (capabilities.supportedAudioChannelCounts.Pairwise (· < ·) →
      (∀ count ∈ capabilities.supportedAudioChannelCounts, 1 ≤ count ∧ count ≤ 8) →
      ∃ bytes, capabilities.toBytes = .ok bytes ∧
        CodecSpecificCapabilities.parse bytes = .ok (some capabilities)) := by
  refine ⟨?_, returns_iff _ data, returns_iff _ data, returns_iff _ data,
    fun _ => entries_of_ltvEntries, fun fits => BasicAudioAnnouncement.parse_toBytes fits rest,
    CodecSpecificCapabilities.parse_toBytes⟩
  rcases BasicAudioAnnouncement.parse_cases data with
    ⟨⟨blob, inside, empty⟩, failed⟩ | ⟨whole, read⟩
  · rw [failed]
    exact ⟨nofun, fun wholes => absurd empty (wholes blob inside)⟩
  · exact ⟨fun _ => whole, fun _ => read⟩

theorem two_channel_counts :
    ∃ bytes, CodecSpecificCapabilities.toBytes ⟨0x0010, 0x03, [1, 2], 40, 120, 1⟩ = .ok bytes ∧
      CodecSpecificCapabilities.parse bytes = .ok (some ⟨0x0010, 0x03, [1, 2], 40, 120, 1⟩) :=
  (announcements_parse [] ⟨0, []⟩ [] ⟨0x0010, 0x03, [1, 2], 40, 120, 1⟩).2.2.2.2.2.2 (by simp)
    (by simp)

theorem empty_entry_panics :
    BasicAudioAnnouncement.parse
      [0x40, 0x9C, 0x00, 1, 1, 6, 0, 0, 0, 0, 0, 0, 1, 2, 0, 0] = .error .panic ∧
    CodecSpecificConfiguration.parse [0, 0] = .error .panic ∧
    CodecSpecificCapabilities.parse [0, 0] = .error .panic ∧
    describeMetadata [0, 0] = .error .panic := by
  have walked : ltvEntries [0, 0] = .error .panic := ltvEntries_zero 0 []
  have config : CodecSpecificConfiguration.parse [0, 0] = .error .panic := by
    rw [CodecSpecificConfiguration.parse, walked]
    rfl
  refine ⟨?_, config, ?_, ?_⟩
  · have bis : parseBis 1 [1, 2, 0, 0] = .error .panic := by
      show (CodecSpecificConfiguration.parse [0, 0] >>= _) = _
      rw [config]
      rfl
    show ((parseBis 1 [1, 2, 0, 0] >>= _) >>= _) = _
    rw [bis]
    rfl
  · rw [CodecSpecificCapabilities.parse, walked]
    rfl
  · rw [describeMetadata, walked]
    rfl

end Simble.Bap
