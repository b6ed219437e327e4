import Simble.Gap.AdStructures
import Simble.Octets
import Simble.Text
import Mathlib.Data.List.Perm.Subperm

/-! Advertising payloads (`gap/advertising.rs`): their structures, and the fitting of a payload
into the legacy limit, which gives up the caller's UUIDs first and then the name, character by
character. -/
namespace Simble.Gap
open List

namespace AdType
def flags : UInt8 := 0x01
def complete16BitUuids : UInt8 := 0x03
def complete128BitUuids : UInt8 := 0x07
def shortenedLocalName : UInt8 := 0x08
def completeLocalName : UInt8 := 0x09
def serviceData16Bit : UInt8 := 0x16
def resolvableSetIdentifier : UInt8 := 0x2E
def manufacturerSpecificData : UInt8 := 0xFF
end AdType

def maxAdvLen : Nat := 31

/-- LE General Discoverable Mode and BR/EDR Not Supported. -/
def discoverableFlags : UInt8 := 0x02 ||| 0x04

structure AdvertisingData where
  flags : Option UInt8
  completeName : Option String
  serviceUuids16 : List UInt16
  serviceUuids128 : List (Octets 16)
  serviceData16 : List (UInt16 × Bytes)
  manufacturerData : Option Bytes
  resolvableSetIdentifier : Option Bytes
  nameIsShortened : Bool
deriving DecidableEq

namespace AdvertisingData

def new : AdvertisingData := ⟨none, none, [], [], [], none, none, false⟩

def withFlags (ad : AdvertisingData) (flags : UInt8) : AdvertisingData :=
  { ad with flags := some flags }

def withName (ad : AdvertisingData) (name : String) : AdvertisingData :=
  { ad with completeName := some name, nameIsShortened := false }

def withNameOnAir (ad : AdvertisingData) (name : String) (complete : Bool) : AdvertisingData :=
  { ad with completeName := some name, nameIsShortened := !complete }

def withServiceUuid16 (ad : AdvertisingData) (uuid : UInt16) : AdvertisingData :=
  { ad with serviceUuids16 := ad.serviceUuids16 ++ [uuid] }

variable (ad : AdvertisingData)

def nameStructure : List (UInt8 × Bytes) :=
  match ad.completeName with
  | none => []
  | some name =>
    if name = "" then []
    else [(if ad.nameIsShortened then AdType.shortenedLocalName else AdType.completeLocalName,
      utf8 name)]

def uuids16Structure : List (UInt8 × Bytes) :=
  if ad.serviceUuids16 = [] then []
  else [(AdType.complete16BitUuids, ad.serviceUuids16.flatMap U16.toLeBytes)]

/-- What is behind the 16-bit UUIDs: the parts that only a script stages. -/
def extraStructures : List (UInt8 × Bytes) :=
  (if ad.serviceUuids128 = [] then []
    else [(AdType.complete128BitUuids, ad.serviceUuids128.flatMap (·.toList))]) ++
  ad.serviceData16.map (fun entry => (AdType.serviceData16Bit, U16.toLeBytes entry.1 ++ entry.2)) ++
  (ad.resolvableSetIdentifier.map fun rsi => (AdType.resolvableSetIdentifier, rsi)).toList ++
  (ad.manufacturerData.map fun mfg => (AdType.manufacturerSpecificData, mfg)).toList

def structures : List (UInt8 × Bytes) :=
  (ad.flags.map fun flags => (AdType.flags, [flags])).toList ++ ad.nameStructure ++
    ad.uuids16Structure ++ ad.extraStructures

def toBytes : Bytes := ad.structures.flatMap fun s => adStructure s.1 s.2

end AdvertisingData

/-- `SimbleError::InvalidParameter` -/
structure InvalidParameter where
  message : String
deriving DecidableEq

/-- The loop of `fit_within_legacy_limit`: `pop` until the bytes fit or nothing is left. -/
def trimName (build : String → Bool → Bool → Bytes) (bytes : Bytes) (trimmed : List Char) : Bytes :=
  if maxAdvLen < bytes.length ∧ trimmed ≠ [] then
    trimName build (build (String.ofList trimmed.dropLast) false false) trimmed.dropLast
  else bytes
termination_by trimmed.length
decreasing_by
  have some := List.length_pos_iff.mpr (‹maxAdvLen < bytes.length ∧ trimmed ≠ []›).2
  rw [List.length_dropLast]
  omega

def fitWithinLegacyLimit (name : String) (build : String → Bool → Bool → Bytes) :
    Except InvalidParameter Bytes :=
  let bytes := build name true true
  let bytes := if maxAdvLen < bytes.length then build name true false else bytes
  let bytes := trimName build bytes name.toList
  if maxAdvLen < bytes.length then
    .error ⟨"advertising data exceeds the " ++ toString maxAdvLen ++ "-byte legacy limit (" ++
      toString bytes.length ++ " bytes) with nothing left to trim"⟩
  else .ok bytes

def buildAdvPayload (name : String) (serviceUuids : List UInt16) : Except InvalidParameter Bytes :=
  fitWithinLegacyLimit name fun name complete keepUuids =>
    let ad := (AdvertisingData.new.withFlags discoverableFlags).withNameOnAir name complete
    let ad := if keepUuids then serviceUuids.foldl .withServiceUuid16 ad else ad
    ad.toBytes

def payloadData (serviceUuids : List UInt16) (extras : AdvertisingData) (name : String)
    (complete keepUuids : Bool) : AdvertisingData :=
  let ad := (AdvertisingData.new.withFlags discoverableFlags).withNameOnAir name complete
  let ad := if keepUuids then serviceUuids.foldl .withServiceUuid16 ad else ad
  let ad := extras.serviceUuids16.foldl
    (fun ad uuid => if uuid ∈ ad.serviceUuids16 then ad else ad.withServiceUuid16 uuid) ad
  { ad with
    serviceUuids128 := extras.serviceUuids128
    serviceData16 := extras.serviceData16
    manufacturerData := extras.manufacturerData
    resolvableSetIdentifier := extras.resolvableSetIdentifier }

def buildAdvPayloadWithExtras (name : String) (serviceUuids : List UInt16)
    (extras : Option AdvertisingData) : Except InvalidParameter Bytes :=
  match extras with
  | none => buildAdvPayload name serviceUuids
  | some extras => fitWithinLegacyLimit name fun name complete keepUuids =>
    (payloadData serviceUuids extras name complete keepUuids).toBytes

/-! ## Walking what was built -/

/-- `ad_structures` walks `data` to its end: what it yields is all there is. -/
def Walked (data : Bytes) : Prop := (adStructures data).flatMap (fun s => adStructure s.1 s.2) = data

instance (data : Bytes) : Decidable (Walked data) := inferInstanceAs (Decidable (_ = _))

theorem adStructures_zeros (count : Nat) : adStructures (List.replicate count 0) = [] := by
  match count with
  | 0 => exact adStructures_nil
  | 1 =>
    rw [adStructures]
    rintro _ _ _ ⟨⟩
  | count + 2 => rw [replicate_succ, replicate_succ, adStructures, if_pos rfl]

theorem adStructures_flatMap {structures : List (UInt8 × Bytes)}
    (fits : ∀ s ∈ structures, s.2.length ≤ 254) (behind : Bytes) :
    adStructures (structures.flatMap (fun s => adStructure s.1 s.2) ++ behind) =
      structures ++ adStructures behind := by
  induction structures with
  | nil => rfl
  | cons first rest ih =>
    obtain ⟨here, later⟩ := List.forall_mem_cons.mp fits
    rw [flatMap_cons, append_assoc, adStructures_adStructure _ here, ih later,
      cons_append]

theorem adStructures_toBytes {ad : AdvertisingData} (fits : ∀ s ∈ ad.structures, s.2.length ≤ 254) :
    adStructures ad.toBytes = ad.structures := by
  have walked := adStructures_flatMap fits []
  rwa [adStructures_nil, append_nil, append_nil] at walked

/-- No structure is longer than the payload. -/
theorem length_le_of_mem {structures : List (UInt8 × Bytes)} {s : UInt8 × Bytes}
    (among : s ∈ structures) :
    2 + s.2.length ≤ (structures.flatMap fun s => adStructure s.1 s.2).length := by
  obtain ⟨front, back, rfl⟩ := append_of_mem among
  rw [flatMap_append, flatMap_cons, length_append, length_append,
    length_adStructure]
  omega

open AdvertisingData

theorem walked_toBytes (ad : AdvertisingData) (short : ad.toBytes.length ≤ 256) :
    adStructures ad.toBytes = ad.structures ∧ Walked ad.toBytes := by
  have walked : adStructures ad.toBytes = ad.structures := by
    apply adStructures_toBytes
    intro s among
    have := length_le_of_mem among
    rw [toBytes] at short
    omega
  exact ⟨walked, by rw [Walked, walked, toBytes]⟩

/-! ## Fitting -/

theorem trimName_spec (build : String → Bool → Bool → Bytes) (bytes : Bytes) (trimmed : List Char) :
    (trimName build bytes trimmed = bytes ∧ (bytes.length ≤ maxAdvLen ∨ trimmed = [])) ∨
    (maxAdvLen < bytes.length ∧ ∃ kept dropped, trimmed = kept ++ dropped ∧ dropped ≠ [] ∧
      trimName build bytes trimmed = build (String.ofList kept) false false ∧
      ((build (String.ofList kept) false false).length ≤ maxAdvLen ∨ kept = []) ∧
      ∀ longer, longer <+: trimmed → kept.length < longer.length → longer ≠ trimmed →
        maxAdvLen < (build (String.ofList longer) false false).length) := by
  fun_induction trimName build bytes trimmed with
  | case1 bytes trimmed again ih =>
    obtain ⟨beyond, some⟩ := again
    obtain ⟨front, last, rfl⟩ := eq_nil_or_concat' trimmed |>.resolve_left some
    rw [dropLast_concat] at ih
    rw [dropLast_concat]
    have shorter : ∀ longer, longer <+: front ++ [last] → longer ≠ front ++ [last] →
        longer <+: front := by
      intro longer before other
      rcases List.prefix_concat_iff.mp before with same | inside
      · exact absurd same other
      · exact inside
    refine .inr ⟨beyond, ?_⟩
    rcases ih with ⟨same, fits⟩ | ⟨still, kept, dropped, rfl, more, same, fits, all⟩
    · refine ⟨front, [last], rfl, by simp, same, fits, ?_⟩
      intro longer before less other
      have := (shorter longer before other).length_le
      omega
    · refine ⟨kept, dropped ++ [last], append_assoc .., by simp, same, fits, ?_⟩
      intro longer before less other
      by_cases whole : longer = kept ++ dropped
      · rw [whole]
        exact still
      · exact all longer (shorter longer before other) less whole
  | case2 bytes trimmed stop =>
    refine .inl ⟨rfl, ?_⟩
    rcases not_and_or.mp stop with short | none
    · exact .inl (not_lt.mp short)
    · exact .inr (not_not.mp none)

theorem fit_ok {name : String} {build : String → Bool → Bool → Bytes} {bytes : Bytes}
    (fitted : fitWithinLegacyLimit name build = .ok bytes) :
    bytes.length ≤ maxAdvLen ∧
      ((∃ keep, bytes = build name true keep) ∨
        (maxAdvLen < (build name true false).length ∧ ∃ kept dropped, name.toList = kept ++ dropped ∧
          dropped ≠ [] ∧ bytes = build (String.ofList kept) false false ∧
          ∀ longer, longer <+: name.toList → kept.length < longer.length → longer ≠ name.toList →
            maxAdvLen < (build (String.ofList longer) false false).length)) := by
  rw [fitWithinLegacyLimit] at fitted
  split_ifs at fitted with beyond still short
  · cases fitted
    refine ⟨not_lt.mp still, ?_⟩
    rcases trimName_spec build (build name true false) name.toList with
      ⟨same, -⟩ | ⟨long, kept, dropped, cut, some, same, -, all⟩
    · rw [same]
      exact .inl ⟨false, rfl⟩
    · rw [same]
      exact .inr ⟨long, kept, dropped, cut, some, rfl, all⟩
  · cases fitted
    refine ⟨not_lt.mp short, .inl ⟨true, ?_⟩⟩
    rw [trimName, if_neg fun both => beyond both.1]

/-- Nothing fits exactly if nothing fits without the UUIDs and without a name. -/
theorem fit_error {name : String} {build : String → Bool → Bool → Bytes} {base : Nat}
    (floor : ∀ text complete keep, base ≤ (build text complete keep).length)
    (reached : ∀ complete, (build "" complete false).length = base) :
    (∃ error, fitWithinLegacyLimit name build = .error error) ↔ maxAdvLen < base := by
  constructor
  · rintro ⟨error, refused⟩
    rw [fitWithinLegacyLimit] at refused
    split_ifs at refused with beyond long long
    · rcases trimName_spec build (build name true false) name.toList with
        ⟨same, fits⟩ | ⟨-, kept, dropped, -, -, same, fits, -⟩
      · rw [same] at long
        have empty : name = "" := String.toList_eq_nil_iff.mp (fits.resolve_left (not_le.mpr long))
        rw [empty, reached] at long
        exact long
      · rw [same] at long
        have empty := fits.resolve_left (not_le.mpr long)
        rw [empty] at long
        exact reached false ▸ long
    · rw [trimName, if_neg fun both => beyond both.1] at long
      exact absurd long beyond
  · intro beyond
    have every : ∀ text complete keep, maxAdvLen < (build text complete keep).length :=
      fun text complete keep => beyond.trans_le (floor text complete keep)
    rw [fitWithinLegacyLimit]
    simp only [if_pos (every name true true)]
    have long : maxAdvLen < (trimName build (build name true false) name.toList).length := by
      rcases trimName_spec build (build name true false) name.toList with
        ⟨same, -⟩ | ⟨-, kept, -, -, -, same, -⟩
      · rw [same]
        exact every _ _ _
      · rw [same]
        exact every _ _ _
    rw [if_pos long]
    exact ⟨_, rfl⟩

/-! ## A payload with staged extras -/

/-- The UUIDs of a payload: those it starts with, and the staged ones that are not among them. -/
def stageUuids (start staged : List UInt16) : List UInt16 :=
  staged.foldl (fun uuids uuid => if uuid ∈ uuids then uuids else uuids ++ [uuid]) start

theorem mem_stageUuids {start staged : List UInt16} {uuid : UInt16} :
    uuid ∈ stageUuids start staged ↔ uuid ∈ start ∨ uuid ∈ staged := by
  induction staged generalizing start with
  | nil => simp [stageUuids]
  | cons first rest ih =>
    rw [stageUuids, foldl_cons, ← stageUuids, ih, mem_cons]
    split_ifs with known
    · constructor
      · rintro (old | new)
        · exact .inl old
        · exact .inr (.inr new)
      · rintro (old | rfl | new)
        · exact .inl old
        · exact .inl known
        · exact .inr new
    · rw [mem_append, mem_singleton, or_assoc]

theorem nodup_stageUuids {start : List UInt16} (staged : List UInt16) (once : start.Nodup) :
    (stageUuids start staged).Nodup := by
  induction staged generalizing start with
  | nil => exact once
  | cons first rest ih =>
    rw [stageUuids, foldl_cons, ← stageUuids]
    split_ifs with known
    · exact ih once
    · apply ih
      rw [← concat_eq_append]
      exact once.concat known

theorem length_stageUuids (start staged : List UInt16) :
    (stageUuids [] staged).length ≤ (stageUuids start staged).length := by
  refine (List.Nodup.subperm (nodup_stageUuids staged nodup_nil) ?_).length_le
  intro uuid among
  rw [mem_stageUuids] at among ⊢
  exact .inr (among.resolve_left not_mem_nil)

theorem foldl_withServiceUuid16 (uuids : List UInt16) (ad : AdvertisingData) :
    uuids.foldl .withServiceUuid16 ad = { ad with serviceUuids16 := ad.serviceUuids16 ++ uuids } := by
  induction uuids generalizing ad with
  | nil => simp
  | cons uuid uuids ih => simp [ih, withServiceUuid16]

variable (serviceUuids : List UInt16)

theorem payloadData_eq (extras : AdvertisingData) (name : String) (complete keepUuids : Bool) :
    payloadData serviceUuids extras name complete keepUuids =
      { flags := some discoverableFlags
        completeName := some name
        serviceUuids16 := stageUuids (if keepUuids then serviceUuids else []) extras.serviceUuids16
        serviceUuids128 := extras.serviceUuids128
        serviceData16 := extras.serviceData16
        manufacturerData := extras.manufacturerData
        resolvableSetIdentifier := extras.resolvableSetIdentifier
        nameIsShortened := !complete } := by
  have staged : ∀ (uuids : List UInt16) (ad : AdvertisingData),
      uuids.foldl (fun ad uuid =>
          if uuid ∈ ad.serviceUuids16 then ad else ad.withServiceUuid16 uuid) ad =
        { ad with serviceUuids16 := stageUuids ad.serviceUuids16 uuids } := by
    intro uuids
    induction uuids with
    | nil => simp [stageUuids]
    | cons uuid uuids ih =>
      intro ad
      rw [foldl_cons, ih, stageUuids, stageUuids, foldl_cons]
      split_ifs <;> rfl
  rw [payloadData, staged]
  cases keepUuids
  · rfl
  · simp only [if_true, foldl_withServiceUuid16]
    rfl

/-- Without extras, a payload is one whose extras are empty. -/
theorem buildAdvPayload_eq (name : String) (serviceUuids : List UInt16) :
    buildAdvPayload name serviceUuids = fitWithinLegacyLimit name
      fun name complete keepUuids =>
        (payloadData serviceUuids .new name complete keepUuids).toBytes := by
  rw [buildAdvPayload]
  congr 1
  funext name complete keepUuids
  rw [payloadData_eq]
  cases keepUuids
  · rfl
  · simp only [if_true, foldl_withServiceUuid16]
    rfl

theorem buildAdvPayloadWithExtras_eq (name : String) (serviceUuids : List UInt16)
    (extras : Option AdvertisingData) :
    buildAdvPayloadWithExtras name serviceUuids extras = fitWithinLegacyLimit name
      fun name complete keepUuids =>
        (payloadData serviceUuids (extras.getD .new) name complete keepUuids).toBytes := by
  cases extras with
  | none => exact buildAdvPayload_eq name serviceUuids
  | some extras => rfl

theorem length_structures (ad : AdvertisingData) :
    ad.toBytes.length =
      ((ad.flags.map fun flags => (AdType.flags, [flags])).toList.flatMap
        fun s => adStructure s.1 s.2).length +
      (ad.nameStructure.flatMap fun s => adStructure s.1 s.2).length +
      (ad.uuids16Structure.flatMap fun s => adStructure s.1 s.2).length +
      (ad.extraStructures.flatMap fun s => adStructure s.1 s.2).length := by
  rw [toBytes, structures, flatMap_append, flatMap_append,
    flatMap_append, length_append, length_append, length_append]

theorem length_uuids16 (ad : AdvertisingData) :
    (ad.uuids16Structure.flatMap fun s => adStructure s.1 s.2).length =
      if ad.serviceUuids16 = [] then 0 else 2 + 2 * ad.serviceUuids16.length := by
  rw [uuids16Structure]
  split_ifs
  · rfl
  · simp [length_flatMap, U16.toLeBytes, mul_comm]

theorem lengthUuids_mono {few many : List UInt16} (fewer : few.length ≤ many.length) :
    (if few = [] then 0 else 2 + 2 * few.length) ≤ if many = [] then 0 else 2 + 2 * many.length := by
  split_ifs with none some some
  · rfl
  · exact Nat.zero_le _
  · rw [some, length_nil] at fewer
    exact absurd (List.length_eq_zero_iff.mp (Nat.le_zero.mp fewer)) none
  · omega

theorem payload_floor (extras : AdvertisingData) (name : String) (complete keepUuids : Bool) :
    (payloadData serviceUuids extras "" true false).toBytes.length ≤
      (payloadData serviceUuids extras name complete keepUuids).toBytes.length := by
  have fewer := length_stageUuids (if keepUuids then serviceUuids else []) extras.serviceUuids16
  rw [payloadData_eq, payloadData_eq, length_structures, length_structures, length_uuids16,
    length_uuids16]
  have noName : (nameStructure
      { flags := some discoverableFlags
        completeName := some ""
        serviceUuids16 := stageUuids [] extras.serviceUuids16
        serviceUuids128 := extras.serviceUuids128
        serviceData16 := extras.serviceData16
        manufacturerData := extras.manufacturerData
        resolvableSetIdentifier := extras.resolvableSetIdentifier
        nameIsShortened := !true }) = [] := rfl
  exact Nat.add_le_add (Nat.add_le_add (Nat.add_le_add le_rfl (Nat.zero_le _))
    (lengthUuids_mono fewer)) le_rfl

open AdType

theorem name_of_complete {ad : AdvertisingData} {name : String} (named : ad.completeName = some name)
    {value : Bytes} (among : (completeLocalName, value) ∈ ad.structures) :
    value = utf8 name ∧ ad.nameIsShortened = false := by
  have labels : completeLocalName ≠ shortenedLocalName := by decide
  have others : completeLocalName ∉ [AdType.flags, complete16BitUuids,
      complete128BitUuids, serviceData16Bit, resolvableSetIdentifier,
      manufacturerSpecificData] := by decide
  simp only [mem_cons, not_mem_nil, or_false, not_or] at others
  obtain ⟨flags, uuids, wide, data, rsi, mfg⟩ := others
  rw [structures, extraStructures] at among
  simp only [mem_append, Option.mem_toList, Option.map_eq_some_iff,
    Prod.mk.injEq, mem_map] at among
  rcases among with ((⟨_, -, other, -⟩ | name) | uuid16) |
    ((wide128 | ⟨_, -, other, -⟩) | ⟨_, -, other, -⟩) | ⟨_, -, other, -⟩
  · exact absurd other.symm flags
  · rw [nameStructure, named] at name
    simp only [] at name
    split_ifs at name with empty short
    · cases name
    · exact absurd (Prod.mk.inj (List.mem_singleton.mp name)).1 labels
    · exact ⟨(Prod.mk.inj (List.mem_singleton.mp name)).2, Bool.eq_false_iff.mpr short⟩
  · rw [uuids16Structure] at uuid16
    split_ifs at uuid16
    · cases uuid16
    · exact absurd (Prod.mk.inj (List.mem_singleton.mp uuid16)).1 uuids
  · split_ifs at wide128
    · cases wide128
    · exact absurd (Prod.mk.inj (List.mem_singleton.mp wide128)).1 wide
  · exact absurd other.symm data
  · exact absurd other.symm rsi
  · exact absurd other.symm mfg

/-- What a payload that was built says: every staged extra, and the name or the longest part of
it that fits. -/
structure Advertised (name : String) (serviceUuids : List UInt16) (extras : AdvertisingData)
    (bytes : Bytes) : Prop where
  short : bytes.length ≤ maxAdvLen
  walked : Walked bytes
  staged : ∀ s ∈ extras.extraStructures, s ∈ adStructures bytes
  stagedUuids : ∀ uuid ∈ extras.serviceUuids16, ∃ uuids : List UInt16, uuid ∈ uuids ∧
    (AdType.complete16BitUuids, uuids.flatMap U16.toLeBytes) ∈ adStructures bytes
  complete : ∀ value, (AdType.completeLocalName, value) ∈ adStructures bytes → value = utf8 name
  longest : ∃ kept dropped, name.toList = kept ++ dropped ∧
    (∃ complete keep, bytes =
      (payloadData serviceUuids extras (String.ofList kept) complete keep).toBytes) ∧
    ∀ longer, longer <+: name.toList → kept.length < longer.length →
      maxAdvLen < (payloadData serviceUuids extras (String.ofList longer) false false).toBytes.length

theorem length_payload_label (extras : AdvertisingData) (name : String) (keep : Bool) :
    (payloadData serviceUuids extras name true keep).toBytes.length =
      (payloadData serviceUuids extras name false keep).toBytes.length := by
  have label : ∀ ad : AdvertisingData,
      (nameStructure { ad with nameIsShortened := true }).map
          (fun s => 2 + s.2.length) =
        (nameStructure { ad with nameIsShortened := false }).map
          (fun s => 2 + s.2.length) := by
    intro ad
    rw [nameStructure, nameStructure]
    cases ad.completeName with
    | none => rfl
    | some name =>
      simp only []
      split_ifs <;> rfl
  have same := congrArg List.sum (label (payloadData serviceUuids extras name true keep))
  simp only [payloadData_eq] at same ⊢
  simp only [length_structures, length_flatMap, length_adStructure]
  exact congrArg₂ (· + ·) (congrArg₂ (· + ·) (congrArg₂ (· + ·) rfl same.symm) rfl) rfl

theorem advertised_of_built {name : String} {serviceUuids : List UInt16}
    {extras : Option AdvertisingData} {bytes : Bytes}
    (built : buildAdvPayloadWithExtras name serviceUuids extras = .ok bytes) :
    Advertised name serviceUuids (extras.getD .new) bytes := by
  rw [buildAdvPayloadWithExtras_eq] at built
  set staged := extras.getD .new
  obtain ⟨short, cases⟩ := fit_ok built
  -- Whichever branch it is, the bytes are those of some part of the name.
  obtain ⟨kept, dropped, complete, keep, cut, same, whole, all⟩ : ∃ kept dropped complete keep,
      name.toList = kept ++ dropped ∧
      bytes = (payloadData serviceUuids staged (String.ofList kept) complete keep).toBytes ∧
      (complete = true → dropped = []) ∧
      ∀ longer, longer <+: name.toList → kept.length < longer.length →
        maxAdvLen <
          (payloadData serviceUuids staged (String.ofList longer) false false).toBytes.length := by
    rcases cases with ⟨keep, same⟩ | ⟨beyond, kept, dropped, cut, -, same, all⟩
    · refine ⟨name.toList, [], true, keep, (append_nil _).symm, ?_, fun _ => rfl, ?_⟩
      · rw [String.ofList_toList]
        exact same
      · intro longer before less
        exact absurd before.length_le (not_le.mpr less)
    · refine ⟨kept, dropped, false, false, cut, same, Bool.noConfusion, ?_⟩
      intro longer before less
      by_cases entire : longer = name.toList
      · rw [entire, String.ofList_toList, ← length_payload_label]
        exact beyond
      · exact all longer before less entire
  obtain ⟨walk, walked⟩ := walked_toBytes
    (payloadData serviceUuids staged (String.ofList kept) complete keep)
    (by rw [← same]; exact short.trans (by decide))
  rw [← same] at walk walked
  refine ⟨short, walked, ?_, ?_, ?_, kept, dropped, cut, ⟨complete, keep, same⟩, all⟩
  · intro s among
    rw [walk, structures]
    apply mem_append_right _
    rw [payloadData_eq]
    exact among
  · intro uuid among
    refine ⟨stageUuids (if keep then serviceUuids else []) staged.serviceUuids16,
      mem_stageUuids.mpr (.inr among), ?_⟩
    rw [walk, structures]
    refine mem_append_left _ (mem_append_right _ ?_)
    rw [payloadData_eq, uuids16Structure, if_neg]
    · exact mem_singleton_self _
    · exact ne_nil_of_mem (mem_stageUuids.mpr (.inr among))
  · intro value among
    rw [walk] at among
    obtain ⟨part, label⟩ := name_of_complete (by rw [payloadData_eq]) among
    rw [payloadData_eq] at label
    have finished := whole (by simpa using label)
    rw [part, ← String.ofList_toList (s := name), cut, finished, append_nil]

/-- A payload is refused exactly if the flags and the extras alone are too long. -/
theorem refused_iff (name : String) (serviceUuids : List UInt16) (extras : Option AdvertisingData) :
    (∃ error, buildAdvPayloadWithExtras name serviceUuids extras = .error error) ↔
      maxAdvLen <
        (payloadData serviceUuids (extras.getD .new) "" true false).toBytes.length := by
  rw [buildAdvPayloadWithExtras_eq]
  apply fit_error
  · intro text complete keep
    exact payload_floor serviceUuids _ text complete keep
  · intro complete
    cases complete
    · exact (length_payload_label serviceUuids _ "" false).symm
    · rfl

end Simble.Gap
