import Simble.Gap.Advertising

/-! The parameter blocks that the hosts send: LE Set Advertising Data and LE Set Scan Response
Data (`device/host.rs`) and Write Extended Inquiry Response (`device/classic_host.rs`). -/
namespace Simble.Gap
open AdType AdvertisingData List

/-- `Vec::resize` with zeros. -/
def resize (size : Nat) (bytes : Bytes) : Bytes :=
  bytes.take size ++ List.replicate (size - bytes.length) 0

def advDataParam (payload : Bytes) : Bytes := resize 32 (UInt8.ofNat payload.length :: payload)

/-- The scan response of `start_advertising`: the whole name. -/
def scanResponse (name : String) : Bytes := (AdvertisingData.new.withName name).toBytes

/-- The blocks of `start_advertising`; only a connectable device has a scan response. -/
def startAdvertising (name : String) (connectable : Bool) (serviceUuids : List UInt16)
    (extras : Option AdvertisingData) : Except InvalidParameter (Bytes × Option Bytes) := do
  let payload ← buildAdvPayloadWithExtras name serviceUuids extras
  return (advDataParam payload, if connectable then some (advDataParam (scanResponse name)) else none)

def eirDataLen : Nat := 240

/-- The parameters of `set_extended_inquiry_response`: FEC, and a payload of a fixed size. -/
def setExtendedInquiryResponse (name : String) (uuids : List UInt16) : Bytes :=
  let data := uuids.foldl .withServiceUuid16 (AdvertisingData.new.withName name)
  0x01 :: resize eirDataLen (data.toBytes.take eirDataLen)

theorem walked_nil : Walked [] := by
  rw [Walked, adStructures_nil]
  rfl

variable (adType : UInt8)

theorem walked_adStructure {value : Bytes} (fits : value.length ≤ 254) :
    Walked (adStructure adType value) := by
  have walked := adStructures_adStructure adType fits []
  rw [append_nil, adStructures_nil] at walked
  rw [Walked, walked, flatMap_singleton]

structure LeBlock (param : Bytes) : Prop where
  size : param.length = 32
  length : (param.headD 0).toNat ≤ 31
  walked : Walked ((param.drop 1).take (param.headD 0).toNat)

/-- A payload of structures, with zeros behind them. -/
def Padded (block : Bytes) : Prop :=
  ∃ count, (adStructures block).flatMap (fun s => adStructure s.1 s.2) ++ List.replicate count 0 = block

structure EirBlock (parameters : Bytes) : Prop where
  size : parameters.length = 241
  walked : Padded (parameters.drop 1)

theorem length_resize (size : Nat) (bytes : Bytes) : (resize size bytes).length = size := by
  rw [resize, length_append, length_take, length_replicate]
  omega

theorem leBlock_of_short {payload : Bytes} (short : payload.length ≤ 31) (walked : Walked payload) :
    LeBlock (advDataParam payload) := by
  have octet : (UInt8.ofNat payload.length).toNat = payload.length := by
    rw [UInt8.toNat_ofNat']
    omega
  have block : advDataParam payload =
      UInt8.ofNat payload.length :: (payload ++ List.replicate (31 - payload.length) 0) := by
    rw [advDataParam, resize, take_of_length_le (by rw [length_cons]; omega),
      length_cons, cons_append]
    congr 3
    omega
  refine ⟨length_resize .., ?_, ?_⟩
  · rw [block, headD_cons, octet]
    exact short
  · rw [block, headD_cons, octet, drop_one, tail_cons, take_left]
    exact walked

/-! ## The scan response -/

/-- The lengths of a name, in octets, whose scan response is well formed: those that fit, and
those for which the length octets of block and structure wrap together. -/
def NameFits (length : Nat) : Prop :=
  length = 0 ∨ ((length + 2) % 256 ≤ 31 ∧ (length + 2) % 256 ≠ 1)

theorem scanResponse_eq (name : String) :
    scanResponse name = if name = "" then [] else adStructure completeLocalName (utf8 name) := by
  rw [scanResponse, toBytes, structures]
  simp only [withName, new, nameStructure,
    uuids16Structure, extraStructures, Option.map_none,
    Option.toList_none, nil_append, if_true, map_nil, append_nil, Bool.false_eq_true,
    if_false]
  split_ifs
  · rfl
  · rw [flatMap_singleton]

theorem utf8_eq_nil {name : String} : utf8 name = [] ↔ name = "" := by
  constructor
  · intro empty
    have back := fromUtf8_utf8 name
    rw [empty] at back
    have none : fromUtf8 (utf8 "") = some "" := fromUtf8_utf8 ""
    exact Option.some.inj (back.symm.trans none)
  · rintro rfl
    rfl

theorem advDataParam_adStructure (value : Bytes) :
    advDataParam (adStructure adType value) =
      UInt8.ofNat (2 + value.length) :: UInt8.ofNat (1 + value.length) :: adType ::
        (value.take 29 ++ List.replicate (29 - value.length) 0) := by
  rw [advDataParam, length_adStructure, adStructure, resize]
  simp only [take_succ_cons, cons_append, length_cons]
  congr 5
  omega

/-- What the length octet counts is walked exactly unless it is the structure's own length
octet, wrapped to zero. -/
theorem walked_taken {value : Bytes} {count : Nat} (counted : count = (2 + value.length) % 256)
    (short : count ≤ 31) :
    Walked ((UInt8.ofNat (1 + value.length) :: adType ::
      (value.take 29 ++ List.replicate (29 - value.length) 0)).take count) ↔ count ≠ 1 := by
  match count with
  | 0 => exact iff_of_true walked_nil (by decide)
  | 1 =>
    have zero : UInt8.ofNat (1 + value.length) = 0 := by
      apply UInt8.toNat_inj.mp
      rw [UInt8.toNat_ofNat', UInt8.toNat_zero]
      omega
    refine iff_of_false ?_ (by decide)
    have nothing : adStructures [(0 : UInt8)] = [] := adStructures_zeros 1
    rw [take_succ_cons, take_zero, zero, Walked, nothing]
    exact cons_ne_nil _ _ ∘ Eq.symm
  | count + 2 =>
    have same : UInt8.ofNat (1 + value.length) = UInt8.ofNat (1 + (value.take count).length) := by
      apply UInt8.toNat_inj.mp
      rw [UInt8.toNat_ofNat', UInt8.toNat_ofNat', length_take]
      omega
    have part : (value.take 29 ++ List.replicate (29 - value.length) 0).take count =
        value.take count := by
      rw [take_append_of_le_length (by rw [length_take]; omega), take_take]
      congr 1
      omega
    refine iff_of_true ?_ (by omega)
    rw [take_succ_cons, take_succ_cons, part, same]
    exact walked_adStructure adType (by rw [length_take]; omega)

theorem leBlock_scanResponse (name : String) :
    LeBlock (advDataParam (scanResponse name)) ↔ NameFits (utf8 name).length := by
  by_cases empty : name = ""
  · have fits : NameFits (utf8 name).length := .inl (by rw [utf8_eq_nil.mpr empty]; rfl)
    rw [scanResponse_eq, if_pos empty]
    exact iff_of_true (leBlock_of_short (Nat.zero_le _) walked_nil) fits
  · rw [scanResponse_eq, if_neg empty]
    have some := List.length_pos_iff.mpr (mt utf8_eq_nil.mp empty)
    have block := advDataParam_adStructure completeLocalName (utf8 name)
    have octet : (UInt8.ofNat (2 + (utf8 name).length)).toNat = (2 + (utf8 name).length) % 256 :=
      UInt8.toNat_ofNat' ..
    constructor
    · rintro ⟨-, short, walked⟩
      rw [block, headD_cons, octet] at short walked
      have one := (walked_taken completeLocalName rfl short).mp walked
      refine .inr ⟨?_, ?_⟩
      · rwa [add_comm]
      · rwa [add_comm]
    · rintro (none | ⟨short, one⟩)
      · omega
      · rw [add_comm] at short one
        refine ⟨length_resize .., ?_, ?_⟩
        · rw [block, headD_cons, octet]
          exact short
        · rw [block, headD_cons, octet]
          exact (walked_taken completeLocalName rfl short).mpr one

/-! ## The extended inquiry response -/

theorem padded_structures {structures : List (UInt8 × Bytes)}
    (fits : ∀ s ∈ structures, s.2.length ≤ 254) (count : Nat) :
    Padded (structures.flatMap (fun s => adStructure s.1 s.2) ++ List.replicate count 0) := by
  refine ⟨count, ?_⟩
  rw [adStructures_flatMap fits, adStructures_zeros, append_nil]

theorem adStructures_cut {value : Bytes} (fits : value.length ≤ 254) {k : Nat}
    (less : k < 2 + value.length) : adStructures ((adStructure adType value).take k) = [] := by
  have octet : (UInt8.ofNat (1 + value.length)).toNat = 1 + value.length := by
    rw [UInt8.toNat_ofNat']
    omega
  match k with
  | 0 => exact adStructures_nil
  | 1 =>
    rw [adStructure, take_succ_cons, take_zero, adStructures]
    rintro _ _ _ ⟨⟩
  | k + 2 =>
    rw [adStructure, take_succ_cons, take_succ_cons, adStructures, octet]
    split_ifs with zero short
    · rfl
    · rfl
    · rw [length_take] at short
      omega

theorem not_padded_cut (structures : List (UInt8 × Bytes)) (fits : ∀ s ∈ structures, s.2.length ≤ 254)
    (adType : UInt8) (value : Bytes) (short : value.length ≤ 254) {k : Nat} (some : 0 < k)
    (less : k < 2 + value.length) :
    ¬ Padded (structures.flatMap (fun s => adStructure s.1 s.2) ++
      (adStructure adType value).take k) := by
  rintro ⟨count, same⟩
  rw [adStructures_flatMap fits, adStructures_cut adType short less, append_nil] at same
  have zeros := append_cancel_left same
  obtain ⟨k, rfl⟩ : ∃ before, k = before + 1 := ⟨k - 1, by omega⟩
  rw [adStructure, take_succ_cons] at zeros
  have zero : UInt8.ofNat (1 + value.length) = 0 := by
    have inside : UInt8.ofNat (1 + value.length) ∈ List.replicate count (0 : UInt8) := by
      rw [zeros]
      exact mem_cons_self
    exact eq_of_mem_replicate inside
  have octet := congrArg UInt8.toNat zero
  rw [UInt8.toNat_ofNat', UInt8.toNat_zero] at octet
  omega

def eirStructures (name : String) (uuids : List UInt16) : List (UInt8 × Bytes) :=
  (if name = "" then [] else [(AdType.completeLocalName, utf8 name)]) ++
    if uuids = [] then [] else [(AdType.complete16BitUuids, uuids.flatMap U16.toLeBytes)]

/-- The octets of an inquiry response before it is cut to size. -/
def eirLength (name : String) (uuids : List UInt16) : Nat :=
  (if name = "" then 0 else 2 + (utf8 name).length) + if uuids = [] then 0 else 2 + 2 * uuids.length

theorem length_uuidOctets (uuids : List UInt16) :
    (uuids.flatMap U16.toLeBytes).length = 2 * uuids.length := by
  simp [length_flatMap, U16.toLeBytes, mul_comm]

theorem length_eirStructures (name : String) (uuids : List UInt16) :
    ((eirStructures name uuids).flatMap fun s => adStructure s.1 s.2).length =
      eirLength name uuids := by
  rw [eirStructures, eirLength, flatMap_append, length_append]
  congr 1
  · split_ifs
    · rfl
    · rw [flatMap_singleton, length_adStructure]
  · split_ifs
    · rfl
    · rw [flatMap_singleton, length_adStructure, length_uuidOctets]

theorem setExtendedInquiryResponse_eq (name : String) (uuids : List UInt16) :
    setExtendedInquiryResponse name uuids =
      0x01 :: resize eirDataLen (((eirStructures name uuids).flatMap fun s => adStructure s.1 s.2).take
        eirDataLen) := by
  rw [setExtendedInquiryResponse, foldl_withServiceUuid16, toBytes]
  congr 4
  rw [structures, eirStructures]
  simp only [withName, new, nameStructure,
    uuids16Structure, extraStructures, Option.map_none,
    Option.toList_none, nil_append, if_true, map_nil, append_nil, Bool.false_eq_true,
    if_false]
  rfl

/-- The block is well formed where the structures fit, and where the name's alone fills it. -/
theorem eirBlock_of_fits {name : String} {uuids : List UInt16}
    (fits : eirLength name uuids ≤ eirDataLen ∨ (utf8 name).length = 238) :
    EirBlock (setExtendedInquiryResponse name uuids) := by
  obtain ⟨left, cut, short⟩ : ∃ left : List (UInt8 × Bytes),
      ((eirStructures name uuids).flatMap fun s => adStructure s.1 s.2).take eirDataLen =
        left.flatMap (fun s => adStructure s.1 s.2) ∧
      (left.flatMap fun s => adStructure s.1 s.2).length ≤ eirDataLen := by
    have length := length_eirStructures name uuids
    rcases fits with fits | filled
    · exact ⟨_, take_of_length_le (by omega), by omega⟩
    · have some : name ≠ "" := by
        rintro rfl
        cases filled
      have whole : (adStructure completeLocalName (utf8 name)).length = eirDataLen := by
        rw [length_adStructure, filled]
        rfl
      refine ⟨[(completeLocalName, utf8 name)], ?_, by rw [flatMap_singleton]; exact whole.le⟩
      rw [eirStructures, if_neg some, flatMap_append, flatMap_singleton]
      exact take_left' whole
  rw [setExtendedInquiryResponse_eq, cut]
  refine ⟨by rw [length_cons, length_resize]; rfl, ?_⟩
  rw [drop_one, tail_cons, resize, take_of_length_le short]
  apply padded_structures
  intro s among
  have part := length_le_of_mem among
  have limit : eirDataLen = 240 := rfl
  omega

/-- Where no length octet wraps, a response that is too long is cut inside a structure, unless
its name fills the block. -/
theorem fits_of_eirBlock {name : String} {uuids : List UInt16} (named : (utf8 name).length ≤ 254)
    (listed : uuids.length ≤ 127) (block : EirBlock (setExtendedInquiryResponse name uuids)) :
    eirLength name uuids ≤ eirDataLen ∨ (utf8 name).length = 238 := by
  by_contra neither
  obtain ⟨long, other⟩ := not_or.mp neither
  have length := length_eirStructures name uuids
  have limit : eirDataLen = 240 := rfl
  have walked := block.walked
  have full :
      (((eirStructures name uuids).flatMap fun s => adStructure s.1 s.2).take eirDataLen).length =
      eirDataLen := length_take_of_le (by omega)
  rw [setExtendedInquiryResponse_eq, drop_one, tail_cons, resize, full, Nat.sub_self,
    replicate_zero, append_nil, take_of_length_le full.le] at walked
  by_cases wide : eirDataLen < (if name = "" then 0 else 2 + (utf8 name).length)
  · -- The name alone is cut.
    have some : name ≠ "" := by
      rintro rfl
      simp [eirDataLen] at wide
    rw [if_neg some] at wide
    have reached : eirDataLen ≤ (adStructure completeLocalName (utf8 name)).length := by
      rw [length_adStructure]
      omega
    have cut := not_padded_cut [] (fun _ among => (not_mem_nil among).elim)
      completeLocalName (utf8 name) named (show 0 < eirDataLen by decide) wide
    rw [flatMap_nil, nil_append] at cut
    rw [eirStructures, if_neg some, flatMap_append, flatMap_singleton,
      take_append_of_le_length reached] at walked
    exact cut walked
  · -- The name is whole, and the service classes are cut.
    have classes : uuids ≠ [] := by
      rintro rfl
      rw [eirLength] at long
      simp only [if_true] at long
      omega
    set front := if name = "" then [] else [(completeLocalName, utf8 name)] with front_eq
    have frontLength : (front.flatMap fun s => adStructure s.1 s.2).length =
        if name = "" then 0 else 2 + (utf8 name).length := by
      rw [front_eq]
      split_ifs
      · rfl
      · rw [flatMap_singleton, length_adStructure]
    have fits : ∀ s ∈ front, s.2.length ≤ 254 := by
      intro s among
      rw [front_eq] at among
      split_ifs at among
      · exact (not_mem_nil among).elim
      · rw [List.mem_singleton.mp among]
        exact named
    have room : (front.flatMap fun s => adStructure s.1 s.2).length < eirDataLen := by
      rw [frontLength]
      split_ifs at wide ⊢
      · decide
      · omega
    have octets := length_uuidOctets uuids
    rw [eirLength, if_neg classes, ← frontLength] at long
    refine not_padded_cut front fits complete16BitUuids (uuids.flatMap U16.toLeBytes)
      (by omega) (k := eirDataLen - (front.flatMap fun s => adStructure s.1 s.2).length) (by omega)
      (by omega) ?_
    rw [eirStructures, if_neg classes, flatMap_append, flatMap_singleton, take_append,
      take_of_length_le room.le] at walked
    exact walked

end Simble.Gap
