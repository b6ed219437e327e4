import Simble.Classic.AvdtpChannel

/-! The message codec of AVDTP: what `Message::parse` makes of what `Message::to_payload` wrote,
and which octets are a list of capabilities. -/
namespace Simble.Avdtp
open List

/-! ## Lists of capabilities -/

namespace ServiceCapability

/-- The loop of `parse_list`: none outside when the turns run out, none inside for
octets that are refused. -/
def parseLoop (payload : Bytes) :
    Nat → Nat → List ServiceCapability → Option (Option (List ServiceCapability))
  | 0, offset, capabilities => if offset < payload.length then none else some (some capabilities)
  | turns + 1, offset, capabilities =>
    if offset < payload.length then
      match payload[offset]?, payload[offset + 1]? with
      | some category, some length =>
        if offset + 2 + length.toNat ≤ payload.length then
          let data := (payload.drop (offset + 2)).take length.toNat
          parseLoop payload turns (offset + 2 + length.toNat) (capabilities ++ [⟨category, data⟩])
        else some none
      | _, _ => some none
    else some (some capabilities)

/-- Octets that a turn cannot take a category and a length from. -/
theorem parseList_short {payload : Bytes} {offset : Nat} (inside : offset < payload.length)
    (short : payload.length ≤ offset + 1) : parseList (payload.drop offset) = none := by
  rw [drop_eq_getElem_cons inside, drop_eq_nil_of_le short, parseList]

theorem parseLoop_eq {payload : Bytes} {turns offset : Nat} {capabilities : List ServiceCapability}
    (enough : payload.length ≤ offset + 2 * turns + 1) :
    parseLoop payload (turns + 1) offset capabilities =
      some ((parseList (payload.drop offset)).map (capabilities ++ ·)) := by
  induction turns generalizing offset capabilities with
  | zero =>
    rw [parseLoop]
    split
    · rename_i inside
      rw [parseList_short inside enough, List.getElem?_eq_none (i := offset + 1) (by omega)]
      cases payload[offset]? <;> rfl
    · rw [drop_eq_nil_of_le (by omega), parseList]
      simp
  | succ turns ih =>
    rw [parseLoop]
    split
    · rename_i inside
      by_cases more : offset + 1 < payload.length
      · rw [drop_eq_getElem_cons inside, List.getElem?_eq_getElem inside,
          drop_eq_getElem_cons more, List.getElem?_eq_getElem more, parseList]
        simp only [length_drop]
        split
        · rename_i fits
          rw [if_neg (by omega), ih (by omega), drop_drop]
          simp [Function.comp_def]
        · rw [if_pos (by omega)]
          rfl
      · rw [parseList_short inside (by omega), List.getElem?_eq_none (i := offset + 1) (by omega)]
        cases payload[offset]? <;> rfl
    · rw [drop_eq_nil_of_le (by omega), parseList]
      simp

theorem serializeList_of_parseList {payload : Bytes} {capabilities : List ServiceCapability}
    (parsed : parseList payload = some capabilities) :
    serializeList capabilities = payload ∧
      ∀ capability ∈ capabilities, capability.data.length ≤ 255 := by
  induction payload using parseList.induct generalizing capabilities with
  | case1 =>
    rw [parseList] at parsed
    cases parsed
    exact ⟨rfl, by simp⟩
  | case2 =>
    rw [parseList] at parsed
    cases parsed
  | case3 category length rest short =>
    rw [parseList, if_pos short] at parsed
    cases parsed
  | case4 category length rest long ih =>
    rw [parseList, if_neg long] at parsed
    obtain ⟨others, read, rfl⟩ := Option.map_eq_some_iff.mp parsed
    obtain ⟨same, small⟩ := ih read
    have taken : (rest.take length.toNat).length = length.toNat := by
      rw [length_take]
      omega
    constructor
    · rw [serializeList] at same ⊢
      rw [flatMap_cons, same, cons_append, cons_append, taken,
        take_append_drop, UInt8.ofNat_toNat]
    · intro capability inside
      rcases List.mem_cons.mp inside with rfl | inside
      · have := length.toNat_lt
        rw [taken]
        omega
      · exact small capability inside

theorem parseList_eq_some_iff {payload : Bytes} {capabilities : List ServiceCapability} :
    parseList payload = some capabilities ↔ serializeList capabilities = payload ∧
      ∀ capability ∈ capabilities, capability.data.length ≤ 255 := by
  constructor
  · exact serializeList_of_parseList
  · rintro ⟨rfl, small⟩
    exact parseList_serializeList fun capability inside => Nat.lt_succ_of_le (small capability inside)

end ServiceCapability

/-! ## Messages -/

theorem seidFromByte_seidToByte {seid : UInt8} (small : seid < 64) :
    seidFromByte (seidToByte seid) = seid := by
  have bounded : seid.toNat < 64 := small
  apply UInt8.toNat_inj.mp
  simp [seidFromByte, seidToByte, Nat.shiftLeft_eq, Nat.shiftRight_eq_div_pow]
  omega

theorem seids_fromBytes {seids : List UInt8} (small : ∀ seid ∈ seids, seid < 64) :
    (seids.map seidToByte).map seidFromByte = seids := by
  induction seids with
  | nil => rfl
  | cons seid seids ih =>
    rw [map_cons, map_cons, seidFromByte_seidToByte (small seid mem_cons_self),
      ih fun other inside => small other (mem_cons_of_mem _ inside)]

theorem sepInfo_first {seid : UInt8} (small : seid < 64) (inUse : Bool) :
    ((seid <<< 2) ||| (bit inUse <<< 1)) >>> 2 = seid ∧
      decide ((((seid <<< 2) ||| (bit inUse <<< 1)) >>> 1) &&& 1 ≠ 0) = inUse := by
  have bounded : seid.toNat < 64 := small
  have same : seid = UInt8.ofNat seid.toNat := by simp
  generalize seid.toNat = value at bounded same
  subst same
  interval_cases value <;> cases inUse <;> decide

theorem sepInfo_parse_toBytes {info : SepInfo} (small : info.seid < 64) :
    SepInfo.parse ((info.seid <<< 2) ||| (bit info.inUse <<< 1))
      ((info.mediaType.asU8 <<< 4) ||| (info.tsep.asU8 <<< 3)) = some info := by
  obtain ⟨seid, inUse, mediaType, tsep⟩ := info
  obtain ⟨first, second⟩ := sepInfo_first small inUse
  have media : MediaType.fromU8 (((mediaType.asU8 <<< 4) ||| (tsep.asU8 <<< 3)) >>> 4) =
      some mediaType := by cases mediaType <;> cases tsep <;> rfl
  have role : StreamEndPointType.fromU8
      ((((mediaType.asU8 <<< 4) ||| (tsep.asU8 <<< 3)) >>> 3) &&& 1) = some tsep := by
    cases mediaType <;> cases tsep <;> rfl
  simp only [SepInfo.parse, media, role, first, second]
  rfl

theorem sepInfos_parse_toBytes {endpoints : List SepInfo}
    (small : ∀ info ∈ endpoints, info.seid < 64) :
    SepInfo.parseList (endpoints.flatMap SepInfo.toBytes) = some endpoints := by
  induction endpoints with
  | nil => rfl
  | cons info endpoints ih =>
    rw [flatMap_cons, SepInfo.toBytes, cons_append, cons_append, nil_append,
      SepInfo.parseList, sepInfo_parse_toBytes (small info mem_cons_self),
      ih fun other inside => small other (mem_cons_of_mem _ inside)]
    rfl

open ServiceCapability

namespace Message

def seids : Message → List UInt8
  | discoverResponse endpoints => endpoints.map SepInfo.seid
  | getCapabilitiesCommand acpSeid | getAllCapabilitiesCommand acpSeid
  | getConfigurationCommand acpSeid | reconfigureCommand acpSeid _ | openCommand acpSeid
  | startReject acpSeid _ | suspendReject acpSeid _ | closeCommand acpSeid | abortCommand acpSeid
  | securityControlCommand acpSeid _ | delayReportCommand acpSeid _ => [acpSeid]
  | setConfigurationCommand acpSeid intSeid _ => [acpSeid, intSeid]
  | startCommand acpSeids | suspendCommand acpSeids => acpSeids
  | _ => []

def capabilities : Message → List ServiceCapability
  | getCapabilitiesResponse capabilities | getAllCapabilitiesResponse capabilities
  | getConfigurationResponse capabilities | setConfigurationCommand _ _ capabilities
  | reconfigureCommand _ capabilities => capabilities
  | _ => []

def dedicatedReject (signal : UInt8) : Prop :=
  signal = SignalIdentifier.setConfiguration ∨ signal = SignalIdentifier.reconfigure ∨
    signal = SignalIdentifier.start ∨ signal = SignalIdentifier.suspend

/-- A message whose parts fit the fields they are written in. -/
structure Encodable (message : Message) : Prop where
  seids : ∀ seid ∈ message.seids, seid < 64
  capabilities : ∀ capability ∈ message.capabilities, capability.data.length ≤ 255
  reject : ∀ signal errorCode, message = .reject signal errorCode → ¬ dedicatedReject signal

variable {message : Message}

/-- The arms of `parse` read only what stands behind the SEIDs, which are what they were. -/
theorem parseCommand_toPayload (encodable : message.Encodable)
    (command : message.messageType = .command) :
    parseCommand message.signalIdentifier message.toPayload = some message := by
  obtain ⟨small, short, -⟩ := encodable
  have read := @ServiceCapability.parseList_eq_some_iff
  cases message <;> cases command
  case discoverCommand => rfl
  case getCapabilitiesCommand acp | getAllCapabilitiesCommand acp | getConfigurationCommand acp
      | openCommand acp | closeCommand acp | abortCommand acp =>
    have same := seidFromByte_seidToByte (small acp List.mem_cons_self)
    conv => rhs; rw [← same]
    rfl
  case setConfigurationCommand acp int capabilities =>
    have same := seidFromByte_seidToByte (small acp List.mem_cons_self)
    have same' := seidFromByte_seidToByte (small int (List.mem_cons_of_mem _ List.mem_cons_self))
    have list : parseList (serializeList capabilities) =
        some capabilities := read.mpr ⟨rfl, short⟩
    change (parseList (serializeList capabilities)).map _ = _
    rw [list, same, same']
    rfl
  case reconfigureCommand acp capabilities =>
    have same := seidFromByte_seidToByte (small acp List.mem_cons_self)
    have list : parseList (serializeList capabilities) =
        some capabilities := read.mpr ⟨rfl, short⟩
    change (parseList (serializeList capabilities)).map _ = _
    rw [list, same]
    rfl
  case startCommand acps | suspendCommand acps =>
    have same : (acps.map seidToByte).map seidFromByte = acps := seids_fromBytes small
    conv => rhs; rw [← same]
    rfl
  case securityControlCommand acp data =>
    have same := seidFromByte_seidToByte (small acp List.mem_cons_self)
    conv => rhs; rw [← same]
    rfl
  case delayReportCommand acp delay =>
    have same := seidFromByte_seidToByte (small acp List.mem_cons_self)
    have delayed := U16.fromBeBytes_toBeBytes delay
    rw [U16.fromBeBytes, U16.fromLeBytes, UInt16.or_comm] at delayed
    change some (delayReportCommand (seidFromByte (seidToByte acp)) _) = _
    rw [same, delayed]

theorem parseAccept_toPayload (encodable : message.Encodable)
    (accept : message.messageType = .responseAccept) :
    parseAccept message.signalIdentifier message.toPayload = some message := by
  obtain ⟨small, short, -⟩ := encodable
  have read := @ServiceCapability.parseList_eq_some_iff
  cases message <;> cases accept
  case discoverResponse endpoints =>
    have list := @sepInfos_parse_toBytes endpoints
      fun info inside => small info.seid (mem_map_of_mem inside)
    exact congrArg (Option.map discoverResponse) list
  case getCapabilitiesResponse capabilities =>
    exact congrArg (Option.map getCapabilitiesResponse) (read.mpr ⟨rfl, short⟩)
  case getAllCapabilitiesResponse capabilities =>
    exact congrArg (Option.map getAllCapabilitiesResponse) (read.mpr ⟨rfl, short⟩)
  case getConfigurationResponse capabilities =>
    exact congrArg (Option.map getConfigurationResponse) (read.mpr ⟨rfl, short⟩)
  all_goals rfl

theorem parseReject_toPayload (encodable : message.Encodable)
    (rejected : message.messageType = .responseReject) :
    parseReject message.signalIdentifier message.toPayload = some message := by
  obtain ⟨small, -, generic⟩ := encodable
  cases message <;> cases rejected
  case setConfigurationReject | reconfigureReject => rfl
  case startReject acp errorCode | suspendReject acp errorCode =>
    have same := seidFromByte_seidToByte (small acp mem_cons_self)
    conv => rhs; rw [← same]
    rfl
  case reject signal errorCode =>
    have other := generic signal errorCode rfl
    change parseReject signal [errorCode] = _
    unfold parseReject
    rw [if_neg (by rintro (named | named) <;> simp [dedicatedReject, named] at other),
      if_neg (by rintro (named | named) <;> simp [dedicatedReject, named] at other)]
    rfl

/-- `Message::parse` gives back every message that fits, from what it is written as. -/
theorem parse_toPayload (encodable : message.Encodable) :
    Message.parse message.signalIdentifier message.messageType message.toPayload = some message := by
  cases kind : message.messageType with
  | command => exact parseCommand_toPayload encodable kind
  | responseAccept => exact parseAccept_toPayload encodable kind
  | responseReject => exact parseReject_toPayload encodable kind
  | generalReject =>
    cases message <;> cases kind
    rfl

end Message

/-- Messages that fit are read back, and the octets accepted as a list of capabilities are those
of a list that fits, read in a loop of bounded length. -/
theorem message_codec :
    (∀ message : Message, message.Encodable →
      Message.parse message.signalIdentifier message.messageType message.toPayload =
        some message) ∧
    (∀ payload, (ServiceCapability.parseList payload).isSome ↔
      ∃ capabilities, ServiceCapability.serializeList capabilities = payload ∧
        ∀ capability ∈ capabilities, capability.data.length ≤ 255) ∧
    (∀ payload capabilities, ServiceCapability.parseList payload = some capabilities →
      ServiceCapability.serializeList capabilities = payload) ∧
    ∀ payload, ServiceCapability.parseLoop payload (payload.length / 2 + 1) 0 [] =
      some (ServiceCapability.parseList payload) := by
  refine ⟨fun message encodable => message.parse_toPayload encodable, ?_, ?_, ?_⟩
  · intro payload
    rw [Option.isSome_iff_exists]
    simp only [ServiceCapability.parseList_eq_some_iff]
  · intro payload capabilities parsed
    exact (ServiceCapability.serializeList_of_parseList parsed).1
  · intro payload
    rw [ServiceCapability.parseLoop_eq (by omega), List.drop_zero]
    simp

theorem setConfiguration_codec :
    Message.parse SignalIdentifier.setConfiguration .command [0x04, 0x08, 0x01, 0x00] =
      some (.setConfigurationCommand 1 2 [⟨ServiceCategory.mediaTransport, []⟩]) :=
  message_codec.1 (.setConfigurationCommand 1 2 [⟨ServiceCategory.mediaTransport, []⟩])
    ⟨by simp [Message.seids], by decide, by simp⟩

end Simble.Avdtp
