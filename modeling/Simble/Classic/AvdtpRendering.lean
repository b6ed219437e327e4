import Mathlib.Data.Nat.Bitwise
import Simble.Classic.AvdtpMessages
import Simble.Lib.Run

/-! The configurations that endpoints hold because a peer set or changed them. The check reads the
first Media Codec entry that decodes: what it lets through can be rendered when the others can be.
-/
namespace Simble.Avdtp
open Simble.Lib MediaCodecCapabilities ServiceCategory Message SignalIdentifier List

/-! ## What an endpoint can render -/

def SelectsOne (field offered : UInt8) : Prop :=
  ∃ bit, offered.toNat.testBit bit = true ∧ field.toNat = 2 ^ bit

theorem countP_bits_eq_one (field : Fin 256) :
    (List.range 8).countP (fun bit => field.val.testBit bit) = 1 ↔
      ∃ bit : Fin 8, field.val = 2 ^ bit.val := by
  revert field
  decide +kernel

/-- The closure `selects_one` of the check says this. -/
theorem selectsOne_iff (field offered : UInt8) :
    selectsOne field offered = true ↔ SelectsOne field offered := by
  rw [selectsOne, Bool.and_eq_true, decide_eq_true_iff, decide_eq_true_iff,
    countP_bits_eq_one ⟨field.toNat, field.toNat_lt⟩, ← UInt8.toNat_inj, UInt8.toNat_and]
  constructor
  · rintro ⟨⟨bit, power⟩, among⟩
    refine ⟨bit, ?_, power⟩
    rw [show field.toNat = 2 ^ bit.val from power, Nat.two_pow_and] at among
    by_contra absent
    rw [Bool.not_eq_true] at absent
    rw [absent, Bool.toNat_false, Nat.mul_zero] at among
    exact absurd among.symm (Nat.two_pow_pos _).ne'
  · rintro ⟨bit, offers, power⟩
    have small : bit < 8 := by
      by_contra large
      have := Nat.pow_le_pow_right Nat.two_pos (Nat.le_of_not_lt large)
      have := field.toNat_lt
      omega
    refine ⟨⟨⟨bit, small⟩, power⟩, ?_⟩
    rw [power, Nat.two_pow_and, offers, Bool.toNat_true, Nat.mul_one]

structure SbcWithin (want can : SbcMediaCodecInformation) : Prop where
  samplingFrequency : SelectsOne want.samplingFrequency can.samplingFrequency
  channelMode : SelectsOne want.channelMode can.channelMode
  blockLength : SelectsOne want.blockLength can.blockLength
  subbands : SelectsOne want.subbands can.subbands
  allocationMethod : SelectsOne want.allocationMethod can.allocationMethod
  range : want.minimumBitpoolValue ≤ want.maximumBitpoolValue
  minimum : can.minimumBitpoolValue ≤ want.minimumBitpoolValue
  maximum : want.maximumBitpoolValue ≤ can.maximumBitpoolValue

structure Plays (supported proposed : MediaCodecCapabilities) : Prop where
  mediaType : proposed.mediaType = supported.mediaType
  codecType : proposed.mediaCodecType = supported.mediaCodecType
  sbc : proposed.mediaCodecType = codecTypeSbc → ∃ want can,
    SbcMediaCodecInformation.parse proposed.mediaCodecInformation = some want ∧
    SbcMediaCodecInformation.parse supported.mediaCodecInformation = some can ∧
    SbcWithin want can

def advertisedCodec (advertised : List ServiceCapability) : Option MediaCodecCapabilities :=
  advertised.findSome? MediaCodecCapabilities.fromCapability

def Renders (advertised : List ServiceCapability) (entry : ServiceCapability) : Prop :=
  ∃ supported proposed, advertisedCodec advertised = some supported ∧
    MediaCodecCapabilities.fromCapability entry = some proposed ∧ Plays supported proposed

structure Renderable (advertised configuration : List ServiceCapability) : Prop where
  transport : ∃ entry ∈ configuration, entry.serviceCategory = ServiceCategory.mediaTransport
  categories : ∀ entry ∈ configuration, ∃ capability ∈ advertised,
    capability.serviceCategory = entry.serviceCategory
  codec : ∃ entry ∈ configuration, entry.serviceCategory = ServiceCategory.mediaCodec
  renders : ∀ entry ∈ configuration, entry.serviceCategory = ServiceCategory.mediaCodec →
    Renders advertised entry

/-- The Media Codec entries that the check does not read: all but the first that decodes. -/
def uncheckedCodecs (configuration : List ServiceCapability) : List ServiceCapability :=
  (configuration.filter fun entry => entry.serviceCategory = ServiceCategory.mediaCodec).eraseP
    fun entry => (MediaCodecCapabilities.fromCapability entry).isSome

section
variable {endpoint : LocalStreamEndPoint} {configuration : List ServiceCapability}

theorem category_of_fromCapability {entry : ServiceCapability} {proposed : MediaCodecCapabilities}
    (decoded : fromCapability entry = some proposed) :
    entry.serviceCategory = mediaCodec := by
  rw [fromCapability] at decoded
  by_contra other
  rw [if_pos other] at decoded
  cases decoded

structure Checked (advertised configuration : List ServiceCapability) : Prop where
  transport : ∃ entry ∈ configuration, entry.serviceCategory = ServiceCategory.mediaTransport
  categories : ∀ entry ∈ configuration, ∃ capability ∈ advertised,
    capability.serviceCategory = entry.serviceCategory
  first : ∃ supported proposed, advertisedCodec advertised = some supported ∧
    configuration.findSome? MediaCodecCapabilities.fromCapability = some proposed ∧
    Plays supported proposed

theorem checked_of_none (passed : configurationError endpoint configuration = none) :
    Checked endpoint.capabilities configuration := by
  unfold configurationError at passed
  simp only at passed
  split at passed
  · cases passed
  rename_i transport
  split at passed
  · cases passed
  rename_i known
  split at passed
  · cases passed
  rename_i proposed first
  split at passed
  · cases passed
  rename_i supported advertises
  have carries : ∃ entry ∈ configuration, entry.serviceCategory = mediaTransport := by
    simpa using transport
  have within : ∀ entry ∈ configuration, ∃ capability ∈ endpoint.capabilities,
      capability.serviceCategory = entry.serviceCategory := by
    simpa using known
  refine ⟨carries, within, supported, proposed, advertises, first, ?_⟩
  split_ifs at passed with differs other
  · obtain ⟨media, codec⟩ := not_or.mp differs
    exact ⟨not_not.mp media, not_not.mp codec, fun sbc => absurd sbc other⟩
  · obtain ⟨media, codec⟩ := not_or.mp differs
    refine ⟨not_not.mp media, not_not.mp codec, fun _ => ?_⟩
    split at passed
    · rename_i want can wanted capable
      split_ifs at passed with fits
      simp only [Bool.and_eq_true, decide_eq_true_eq, selectsOne_iff] at fits
      obtain ⟨⟨⟨⟨⟨⟨⟨frequency, mode⟩, block⟩, subbands⟩, allocation⟩, range⟩, minimum⟩, maximum⟩ := fits
      exact ⟨want, can, wanted, capable,
        frequency, mode, block, subbands, allocation, range, minimum, maximum⟩
    · cases passed

theorem findSome_codec (configuration : List ServiceCapability) :
    configuration.findSome? fromCapability =
      (configuration.filter fun entry =>
        entry.serviceCategory = mediaCodec).findSome?
          fromCapability := by
  induction configuration with
  | nil => rfl
  | cons entry rest ih =>
    by_cases codec : entry.serviceCategory = mediaCodec
    · rw [filter_cons_of_pos (by simpa using codec), List.findSome?_cons, List.findSome?_cons,
        ih]
    · have undecoded : fromCapability entry = none := by
        rw [fromCapability, if_pos codec]
      rw [filter_cons_of_neg (by simpa using codec),
        List.findSome?_cons_of_isNone (by simp [undecoded]), ih]

theorem forall_iff_eraseP {entries : List ServiceCapability} {proposed : MediaCodecCapabilities}
    {holds : ServiceCapability → Prop}
    (first : entries.findSome? fromCapability = some proposed)
    (good : ∀ entry, fromCapability entry = some proposed → holds entry) :
    (∀ entry ∈ entries, holds entry) ↔ ∀ entry ∈ entries.eraseP fun entry =>
      (fromCapability entry).isSome, holds entry := by
  constructor
  · intro all entry inside
    exact all entry (mem_of_mem_eraseP inside)
  · intro others
    induction entries with
    | nil => cases first
    | cons entry rest ih =>
      rw [List.findSome?_cons] at first
      cases decoded : fromCapability entry with
      | some codec =>
        rw [decoded] at first
        rw [eraseP_cons_of_pos (by simp [decoded])] at others
        cases first
        exact forall_mem_cons.mpr ⟨good entry decoded, others⟩
      | none =>
        rw [decoded] at first
        rw [eraseP_cons_of_neg (by simp [decoded])] at others
        obtain ⟨here, others⟩ := forall_mem_cons.mp others
        exact forall_mem_cons.mpr ⟨here, ih first others⟩

theorem renderable_iff (passed : configurationError endpoint configuration = none) :
    Renderable endpoint.capabilities configuration ↔
      ∀ entry ∈ uncheckedCodecs configuration, Renders endpoint.capabilities entry := by
  obtain ⟨transport, categories, supported, proposed, codec, first, plays⟩ := checked_of_none passed
  have inList := findSome_codec configuration ▸ first
  have split := @forall_iff_eraseP _ _ (Renders endpoint.capabilities) inList
    fun entry decoded => ⟨supported, proposed, codec, decoded, plays⟩
  rw [uncheckedCodecs, ← split]
  simp only [mem_filter, decide_eq_true_eq, and_imp]
  constructor
  · exact fun renderable => renderable.renders
  · intro renders
    obtain ⟨entry, inside, decoded⟩ := exists_of_findSome?_eq_some first
    exact ⟨transport, categories, ⟨entry, inside, category_of_fromCapability decoded⟩, renders⟩

end

/-! ## What a message does to the configurations -/

def AvdtpEvent.configured : AvdtpEvent → Option UInt8
  | .streamConfigured seid | .streamReconfigured seid => some seid
  | _ => none

def EndPoints.view (endpoints : EndPoints) (seid : UInt8) :
    Option (List ServiceCapability × List ServiceCapability) :=
  (endpoints.get seid).map fun endpoint => (endpoint.capabilities, endpoint.configuration)

def Protocol.proposal (protocol : Protocol) :
    Message → Option (UInt8 × LocalStreamEndPoint × List ServiceCapability)
  | .setConfigurationCommand acpSeid _ capabilities =>
    match protocol.localEndpoints.get acpSeid with
    | some endpoint => if endpoint.inUse then none else some (acpSeid, endpoint, capabilities)
    | none => none
  | .reconfigureCommand acpSeid capabilities =>
    match protocol.localEndpoints.get acpSeid with
    | some endpoint =>
      if endpoint.state ≠ .open then none
      else some (acpSeid, endpoint, applyReconfiguration endpoint.configuration capabilities)
    | none => none
  | _ => none

open EndPoints Protocol

section
variable {protocol after : Protocol} {message response : Message} {events : List AvdtpEvent}

theorem view_update {endpoints : EndPoints} {seid : UInt8}
    {change : LocalStreamEndPoint → LocalStreamEndPoint}
    (capabilities : ∀ endpoint, (change endpoint).capabilities = endpoint.capabilities)
    (configuration : ∀ endpoint, (change endpoint).configuration = endpoint.configuration)
    (other : UInt8) : (endpoints.update seid change).view other = endpoints.view other := by
  rw [view, view, get_update]
  split
  · rw [Option.map_map]
    congr 1
    funext endpoint
    rw [Function.comp_apply, capabilities, configuration]
  · rfl

theorem view_enterAll (protocol : Protocol) (seids : List UInt8) (state : StreamState)
    (other : UInt8) : (seids.foldl (fun protocol seid => protocol.update seid
      (enter state)) protocol).localEndpoints.view other =
      protocol.localEndpoints.view other := by
  induction seids generalizing protocol with
  | nil => rfl
  | cons seid seids ih =>
    rw [foldl_cons, ih]
    exact @view_update _ _ (enter state) (fun _ => rfl) (fun _ => rfl) other

/-- What a message does to configurations: one that an event names is the proposal, which
passes the check, and all others are what they were. -/
structure Wrote (protocol after : Protocol) (message : Message) (events : List AvdtpEvent) :
    Prop where
  unnamed : ∀ other, (∀ event ∈ events, event.configured ≠ some other) →
    after.localEndpoints.view other = protocol.localEndpoints.view other
  named : ∀ event ∈ events, ∀ seid, event.configured = some seid → ∃ endpoint list,
    protocol.proposal message = some (seid, endpoint, list) ∧
    configurationError endpoint list = none ∧
    after.localEndpoints.view seid = some (endpoint.capabilities, list)
  accepted : ∀ seid endpoint list, protocol.proposal message = some (seid, endpoint, list) →
    configurationError endpoint list = none → ∃ event ∈ events, event.configured = some seid

theorem wrote_nothing
    (same : ∀ other, after.localEndpoints.view other = protocol.localEndpoints.view other)
    (silent : ∀ event ∈ events, event.configured = none)
    (refused : ∀ seid endpoint list, protocol.proposal message = some (seid, endpoint, list) →
      configurationError endpoint list ≠ none) : Wrote protocol after message events := by
  refine ⟨fun other _ => same other, ?_, ?_⟩
  · intro event inside seid named
    rw [silent event inside] at named
    cases named
  · intro seid endpoint list proposed passed
    exact absurd passed (refused seid endpoint list proposed)

theorem wrote_list {seid : UInt8} {endpoint : LocalStreamEndPoint} {list : List ServiceCapability}
    {change : LocalStreamEndPoint → LocalStreamEndPoint} {event : AvdtpEvent}
    (found : protocol.localEndpoints.get seid = some endpoint)
    (proposed : protocol.proposal message = some (seid, endpoint, list))
    (passed : configurationError endpoint list = none) (named : event.configured = some seid)
    (capabilities : (change endpoint).capabilities = endpoint.capabilities)
    (configuration : (change endpoint).configuration = list) :
    Wrote protocol (protocol.update seid change) message [event] := by
  refine ⟨?_, ?_, ?_⟩
  · intro other unnamed
    have apart : seid ≠ other := by
      rintro rfl
      exact unnamed event mem_cons_self named
    have kept := get_update protocol.localEndpoints seid other change
    rw [if_neg apart] at kept
    exact congrArg (Option.map _) kept
  · intro event' inside seid' named'
    obtain rfl := mem_singleton.mp inside
    obtain rfl := Option.some.inj (named.symm.trans named')
    have changed := get_update protocol.localEndpoints seid seid change
    rw [if_pos rfl, found] at changed
    refine ⟨endpoint, list, proposed, passed, ?_⟩
    have viewed := congrArg (Option.map fun endpoint : LocalStreamEndPoint =>
      (endpoint.capabilities, endpoint.configuration)) changed
    rw [Option.map_some, Option.map_some, capabilities, configuration] at viewed
    exact viewed
  · intro seid' endpoint' list' proposed' _
    cases proposed.symm.trans proposed'
    exact ⟨event, mem_cons_self, named⟩

/-- Nothing is done when the response is a reject, and no event says that it is. -/
def Harmless (protocol : Protocol) (outcome : Protocol × List AvdtpEvent × Message) : Prop :=
  (outcome.2.2.rejectErrorCode.isSome → outcome.1 = protocol) ∧
    ∀ signal errorCode, .commandRefused signal errorCode ∉ outcome.2.1

theorem harmless_refused (response : Message) : Harmless protocol (protocol, [], response) :=
  ⟨fun _ => rfl, by simp⟩

theorem harmless_accepted {response : Message} {events : List AvdtpEvent}
    (accepts : response.rejectErrorCode = none)
    (silent : ∀ signal errorCode, .commandRefused signal errorCode ∉ events) :
    Harmless protocol (after, events, response) := by
  refine ⟨fun rejected => ?_, silent⟩
  rw [show (after, events, response).2.2.rejectErrorCode = none from accepts] at rejected
  cases rejected

/-- What a command comes to. -/
structure Does (protocol : Protocol) (message : Message)
    (outcome : Protocol × List AvdtpEvent × Message) : Prop where
  wrote : Wrote protocol outcome.1 message outcome.2.1
  harmless : Harmless protocol outcome

theorem wrote_same (silent : ∀ event ∈ events, event.configured = none)
    (other : protocol.proposal message = none) : Wrote protocol protocol message events := by
  apply wrote_nothing (fun _ => rfl) silent
  intro seid endpoint list proposed
  cases other.symm.trans proposed

theorem does_refused (response : Message) (other : protocol.proposal message = none) :
    Does protocol message (protocol, [], response) :=
  ⟨wrote_same (by simp) other, harmless_refused response⟩

theorem does_proposal {acpSeid : UInt8} {absent busy accepted : Message}
    {rejected : UInt8 → UInt8 → Message} {used : LocalStreamEndPoint → Prop} [DecidablePred used]
    {list : LocalStreamEndPoint → List ServiceCapability}
    {change : LocalStreamEndPoint → LocalStreamEndPoint → LocalStreamEndPoint} {event : AvdtpEvent}
    (proposal : protocol.proposal message = match protocol.localEndpoints.get acpSeid with
      | some endpoint => if used endpoint then none else some (acpSeid, endpoint, list endpoint)
      | none => none)
    (named : event.configured = some acpSeid)
    (capabilities : ∀ endpoint, (change endpoint endpoint).capabilities = endpoint.capabilities)
    (configuration : ∀ endpoint, (change endpoint endpoint).configuration = list endpoint)
    (accepts : accepted.rejectErrorCode = none) :
    Does protocol message (match protocol.localEndpoints.get acpSeid with
      | none => (protocol, [], absent)
      | some endpoint =>
        if used endpoint then (protocol, [], busy)
        else
          match configurationError endpoint (list endpoint) with
          | some (category, errorCode) => (protocol, [], rejected category errorCode)
          | none => (protocol.update acpSeid (change endpoint), [event], accepted)) := by
  cases found : protocol.localEndpoints.get acpSeid with
  | none =>
    rw [found] at proposal
    exact does_refused absent proposal
  | some endpoint =>
    rw [found] at proposal
    simp only at proposal ⊢
    split
    · rename_i busy
      exact does_refused _ (by rw [proposal, if_pos busy])
    · rename_i idle
      rw [if_neg idle] at proposal
      cases checked : configurationError endpoint (list endpoint) with
      | some error =>
        refine ⟨wrote_nothing (fun _ => rfl) (by simp) ?_, harmless_refused _⟩
        intro seid' endpoint' list' proposed passed
        cases proposal.symm.trans proposed
        cases checked.symm.trans passed
      | none =>
        refine ⟨wrote_list found proposal checked named (capabilities _) (configuration _),
          harmless_accepted accepts ?_⟩
        intro signal errorCode inside
        cases mem_singleton.mp inside
        cases named

theorem does_state {acpSeid : UInt8} {absent refused accepted : Message}
    {ready : LocalStreamEndPoint → Prop} [DecidablePred ready]
    {change : LocalStreamEndPoint → LocalStreamEndPoint} {event : AvdtpEvent}
    (other : protocol.proposal message = none)
    (capabilities : ∀ endpoint, (change endpoint).capabilities = endpoint.capabilities)
    (configuration : ∀ endpoint, (change endpoint).configuration = endpoint.configuration)
    (silent : event.configured = none)
    (unsaid : ∀ signal errorCode, .commandRefused signal errorCode ≠ event)
    (accepts : accepted.rejectErrorCode = none) :
    Does protocol message (match protocol.localEndpoints.get acpSeid with
      | none => (protocol, [], absent)
      | some endpoint =>
        if ready endpoint then (protocol.update acpSeid change, [event], accepted)
        else (protocol, [], refused)) := by
  cases protocol.localEndpoints.get acpSeid with
  | none => exact does_refused absent other
  | some endpoint =>
    simp only
    split
    · refine ⟨wrote_nothing (view_update capabilities configuration) (by simpa using silent) ?_,
        harmless_accepted accepts (by simpa using unsaid)⟩
      intro seid endpoint list proposed
      cases other.symm.trans proposed
    · exact does_refused refused other

theorem startOrSuspend_does (acpSeids : List UInt8) (expected next : StreamState)
    (other : protocol.proposal message = none) :
    Does protocol message (protocol.onStartOrSuspendCommand acpSeids expected next) := by
  rw [onStartOrSuspendCommand]
  cases protocol.firstUnready expected acpSeids with
  | some unready => exact does_refused _ other
  | none =>
    refine ⟨wrote_nothing (view_enterAll protocol acpSeids next) ?_ ?_, harmless_accepted ?_ ?_⟩
    · intro event inside
      obtain ⟨seid, -, rfl⟩ := mem_map.mp inside
      split <;> rfl
    · intro seid endpoint list proposed
      cases other.symm.trans proposed
    · split <;> rfl
    · intro signal errorCode inside
      obtain ⟨seid, -, same⟩ := mem_map.mp inside
      split at same <;> cases same

theorem noticed_does {acpSeid signal : UInt8} {event : AvdtpEvent} {response : Message}
    (silent : event.configured = none)
    (unsaid : ∀ signal errorCode, .commandRefused signal errorCode ≠ event)
    (other : protocol.proposal message = none) :
    Does protocol message (protocol, protocol.noticed acpSeid signal event response) := by
  rw [noticed]
  cases protocol.localEndpoints.get acpSeid with
  | none => exact does_refused _ other
  | some =>
    exact ⟨wrote_same (by simpa using silent) other, fun _ => rfl, by simpa using unsaid⟩

theorem handleCommand_does {outcome : Protocol × List AvdtpEvent × Message}
    (handled : protocol.handleCommand message = some outcome) : Does protocol message outcome := by
  cases message <;> cases handled
  case setConfigurationCommand acpSeid intSeid capabilities =>
    exact does_proposal rfl rfl (fun _ => rfl) (fun _ => rfl) rfl
  case reconfigureCommand acpSeid capabilities =>
    exact does_proposal rfl rfl (fun _ => rfl) (fun _ => rfl) rfl
  case startCommand acpSeids => exact startOrSuspend_does _ _ _ rfl
  case suspendCommand acpSeids => exact startOrSuspend_does _ _ _ rfl
  case openCommand acpSeid =>
    exact does_state rfl (fun _ => rfl) (fun _ => rfl) rfl (by simp) rfl
  case closeCommand acpSeid =>
    exact does_state rfl (fun _ => rfl) (fun _ => rfl) rfl (by simp) rfl
  case abortCommand acpSeid =>
    exact does_state rfl (fun _ => rfl) (fun _ => rfl) rfl (by simp) rfl
  case securityControlCommand acpSeid data => exact noticed_does rfl (by simp) rfl
  case delayReportCommand acpSeid delay => exact noticed_does rfl (by simp) rfl
  all_goals exact does_refused _ rfl

/-! ## Rejected commands -/

theorem onCommand_refused {assembled : AssembledMessage} {pdus : List Bytes} {signal errorCode : UInt8}
    (heard : protocol.onCommand assembled = (after, pdus, events))
    (refused : .commandRefused signal errorCode ∈ events) : after = protocol := by
  rw [onCommand] at heard
  split_ifs at heard with null unknown
  · cases heard
    rfl
  · cases heard
    rfl
  · cases parsed : parse assembled.signalIdentifier .command assembled.payload with
    | none =>
      rw [parsed] at heard
      cases heard
      rfl
    | some message =>
      cases handled : protocol.handleCommand message with
      | none =>
        rw [parsed] at heard
        simp only [handled] at heard
        cases heard
        rfl
      | some outcome =>
        obtain ⟨unmoved, silent⟩ := (handleCommand_does handled).harmless
        rw [parsed] at heard
        simp only [handled] at heard
        cases heard
        rcases mem_append.mp refused with said | said
        · exact absurd said (silent signal errorCode)
        · apply unmoved
          rw [refusal] at said
          cases code : outcome.2.2.rejectErrorCode with
          | none =>
            rw [code] at said
            cases said
          | some => rfl

end

/-! ## Responses -/

section
variable {protocol after : Protocol} {events : List AvdtpEvent}

/-- What a response leaves alone. -/
def Spares (protocol : Protocol) (outcome : Protocol × List AvdtpEvent) : Prop :=
  ∀ other, (∀ event ∈ outcome.2, event.configured ≠ some other) →
    outcome.1.localEndpoints.view other = protocol.localEndpoints.view other

theorem spares_update (seid : UInt8) (change : LocalStreamEndPoint → LocalStreamEndPoint)
    {event : AvdtpEvent} (named : event.configured = some seid) :
    Spares protocol (protocol.update seid change, [event]) := by
  intro other unnamed
  have apart : seid ≠ other := by
    rintro rfl
    exact unnamed event mem_cons_self named
  have kept := get_update protocol.localEndpoints seid other change
  rw [if_neg apart] at kept
  exact congrArg (Option.map _) kept

theorem onAccepted_spares (pending : Pending) (message : Message) :
    Spares protocol (protocol.onAccepted pending message) := by
  unfold onAccepted
  split
  · exact spares_update _ _ rfl
  · exact spares_update _ _ rfl
  · exact fun other _ => @view_update _ _ (enter .open) (fun _ => rfl) (fun _ => rfl) other
  · exact fun other _ => view_enterAll _ _ _ other
  · exact fun other _ => view_enterAll _ _ _ other
  · exact fun other _ => @view_update _ _ finish (fun _ => rfl) (fun _ => rfl) other
  · exact fun other _ => @view_update _ _ finish (fun _ => rfl) (fun _ => rfl) other
  · exact fun _ _ => rfl

theorem onResponse_spares (assembled : AssembledMessage) :
    Spares protocol (protocol.onResponse assembled) := by
  unfold onResponse
  cases protocol.pending.lookup assembled.transactionLabel with
  | none => exact fun _ _ => rfl
  | some pending =>
    simp only
    split_ifs
    · exact fun _ _ => rfl
    · exact fun _ _ => rfl
    · cases parse assembled.signalIdentifier .responseAccept assembled.payload with
      | none => exact fun _ _ => rfl
      | some message => exact onAccepted_spares pending message

/-! ## Runs of received PDUs -/

structure Tracked where
  protocol : Protocol
  byPeer : UInt8 → Bool

def Protocol.hears (protocol : Protocol) (pdu : Bytes) : Option Message :=
  match protocol.assembler.onPdu pdu with
  | .ok (_, some assembled) =>
    if assembled.messageType = .command then
      Message.parse assembled.signalIdentifier .command assembled.payload
    else none
  | _ => none

/-- A received PDU. What it configures is configured by the peer if it completes a command,
and by this end if it completes a response to one. -/
inductive Heard : Tracked → Bytes → Tracked → Prop where
  | pdu {tracked : Tracked} {pdu : Bytes} {after : Protocol} {pdus : List Bytes}
      {events : List AvdtpEvent} : tracked.protocol.receive pdu = .ok (after, pdus, events) →
      Heard tracked pdu ⟨after, fun seid =>
        if events.any fun event => event.configured = some seid then
          (tracked.protocol.hears pdu).isSome
        else tracked.byPeer seid⟩

/-- Every configuration that a peer set or changed can be rendered. -/
def Sound (tracked : Tracked) : Prop :=
  ∀ seid, tracked.byPeer seid = true → ∀ endpoint,
    tracked.protocol.localEndpoints.get seid = some endpoint →
      Renderable endpoint.capabilities endpoint.configuration

/-- Where the check passes, the entries that it does not read can be rendered, too. -/
def Checks (tracked : Tracked) (pdu : Bytes) : Prop :=
  ∀ message seid endpoint list, tracked.protocol.hears pdu = some message →
    tracked.protocol.proposal message = some (seid, endpoint, list) →
    configurationError endpoint list = none →
    ∀ entry ∈ uncheckedCodecs list, Renders endpoint.capabilities entry

theorem parseCommand_unknown {signal : UInt8}
    (unknown : signal = 0 ∨ delayReport < signal) (payload : Bytes) :
    parseCommand signal payload = none := by
  have other (known : UInt8) (named : known ≠ 0 ∧ ¬ delayReport < known) :
      signal ≠ known := by
    rintro rfl
    exact unknown.elim named.1 named.2
  unfold parseCommand
  iterate 13 rw [if_neg (other _ (by decide))]

theorem refusal_configured (response : Message) :
    ∀ event ∈ refusal response, event.configured = none := by
  rw [refusal]
  cases response.rejectErrorCode with
  | none => simp
  | some => simp [AvdtpEvent.configured]

variable {pdus : List Bytes}

theorem onCommand_heard {assembled : AssembledMessage} {message : Message}
    (heard : protocol.onCommand assembled = (after, pdus, events))
    (parsed : parse assembled.signalIdentifier .command assembled.payload = some message) :
    ∃ said, Wrote protocol after message said ∧
      ∀ seid, (events.any fun event => event.configured = some seid) =
        said.any fun event => event.configured = some seid := by
  have known : assembled.signalIdentifier ≠ 0 ∧
      ¬ delayReport < assembled.signalIdentifier := by
    refine not_or.mp fun unknown => ?_
    have unread : parse assembled.signalIdentifier .command assembled.payload = none :=
      parseCommand_unknown unknown _
    rw [unread] at parsed
    cases parsed
  rw [onCommand, if_neg known.1, if_neg known.2, parsed] at heard
  simp only at heard
  cases handled : protocol.handleCommand message with
  | none =>
    rw [handled] at heard
    cases heard
    refine ⟨[], wrote_same (by simp) ?_, fun _ => rfl⟩
    cases message <;> first | rfl | cases handled
  | some outcome =>
    obtain ⟨next, said, response⟩ := outcome
    rw [handled] at heard
    cases heard
    refine ⟨said, (handleCommand_does handled).wrote, fun seid => ?_⟩
    rw [any_append]
    have silent : ((refusal response).any fun event => event.configured = some seid) =
        false := by
      rw [any_eq_false]
      intro event inside
      simp [refusal_configured response event inside]
    rw [silent, Bool.or_false]

/-- A command that is not understood configures nothing. -/
theorem onCommand_unheard {assembled : AssembledMessage}
    (heard : protocol.onCommand assembled = (after, pdus, events))
    (parsed : parse assembled.signalIdentifier .command assembled.payload = none) :
    after = protocol ∧ ∀ event ∈ events, event.configured = none := by
  rw [onCommand, parsed] at heard
  split_ifs at heard <;> cases heard
  · exact ⟨rfl, by simp⟩
  · exact ⟨rfl, by simp [AvdtpEvent.configured]⟩
  · exact ⟨rfl, by simp⟩

/-- What a PDU comes to: nothing yet, a command or a response. -/
theorem receive_cases {pdu : Bytes} (received : protocol.receive pdu = .ok (after, pdus, events)) :
    ∃ assembler assembled, protocol.assembler.onPdu pdu = .ok (assembler, assembled) ∧
      match assembled with
      | none => after = { protocol with assembler } ∧ events = []
      | some assembled =>
        if assembled.messageType = .command then
          onCommand { protocol with assembler } assembled = (after, pdus, events)
        else onResponse { protocol with assembler } assembled = (after, events) := by
  rw [receive] at received
  obtain ⟨⟨assembler, assembled⟩, fed, received⟩ := Rust.bind_eq_ok.mp received
  refine ⟨assembler, assembled, fed, ?_⟩
  cases assembled with
  | none =>
    cases received
    exact ⟨rfl, rfl⟩
  | some assembled =>
    simp only at received ⊢
    by_cases command : assembled.messageType = .command
    · rw [if_pos command] at received ⊢
      exact Except.ok.inj received
    · rw [if_neg command] at received ⊢
      cases received
      rfl

variable {tracked next : Tracked} {pdu : Bytes}

theorem Heard.command {message : Message} (heard : Heard tracked pdu next)
    (hears : tracked.protocol.hears pdu = some message) :
    ∃ said, Wrote tracked.protocol next.protocol message said ∧
      ∀ seid, next.byPeer seid =
        ((said.any fun event => event.configured = some seid) || tracked.byPeer seid) := by
  cases heard with
  | pdu received =>
    rw [hears]
    obtain ⟨assembler, assembled, fed, came⟩ := receive_cases received
    rw [Protocol.hears, fed] at hears
    cases assembled with
    | none => cases hears
    | some assembled =>
      simp only [Option.ite_none_right_eq_some] at hears
      simp only [if_pos hears.1] at came
      obtain ⟨said, wrote, same⟩ := onCommand_heard came hears.2
      refine ⟨said, ⟨wrote.unnamed, wrote.named, wrote.accepted⟩, fun seid => ?_⟩
      simp only [same seid]
      cases said.any fun event => event.configured = some seid <;> rfl

theorem Heard.other (heard : Heard tracked pdu next) (hears : tracked.protocol.hears pdu = none)
    (seid : UInt8) (kept : next.byPeer seid = true) :
    tracked.byPeer seid = true ∧
      next.protocol.localEndpoints.view seid = tracked.protocol.localEndpoints.view seid := by
  cases heard with
  | @pdu after pdus events received =>
    rw [hears] at kept
    simp only at kept
    have unnamed : ∀ event ∈ events, event.configured ≠ some seid := by
      intro event inside named
      have any : (events.any fun event => event.configured = some seid) = true :=
        any_eq_true.mpr ⟨event, inside, by simpa using named⟩
      rw [if_pos any] at kept
      cases kept
    have none : ¬ (events.any fun event => event.configured = some seid) = true := by
      rw [any_eq_true]
      rintro ⟨event, inside, named⟩
      exact unnamed event inside (by simpa using named)
    rw [if_neg none] at kept
    refine ⟨kept, ?_⟩
    obtain ⟨assembler, assembled, fed, came⟩ := receive_cases received
    rw [Protocol.hears, fed] at hears
    cases assembled with
    | none =>
      obtain ⟨rfl, -⟩ := came
      rfl
    | some assembled =>
      simp only at hears came
      by_cases command : assembled.messageType = .command
      · rw [if_pos command] at hears came
        obtain ⟨rfl, -⟩ := onCommand_unheard came hears
        rfl
      · rw [if_neg command] at came
        have spares := @onResponse_spares { tracked.protocol with assembler } assembled
        rw [came] at spares
        exact spares seid unnamed

theorem get_of_view {endpoints : EndPoints} {seid : UInt8} {endpoint : LocalStreamEndPoint}
    (found : endpoints.get seid = some endpoint) :
    endpoints.view seid = some (endpoint.capabilities, endpoint.configuration) := by
  rw [view, found, Option.map_some]

theorem sound_of_view {other : EndPoints} {seid : UInt8}
    (sound : ∀ endpoint, other.get seid = some endpoint →
      Renderable endpoint.capabilities endpoint.configuration) {endpoints : EndPoints}
    (same : endpoints.view seid = other.view seid) {endpoint : LocalStreamEndPoint}
    (found : endpoints.get seid = some endpoint) :
    Renderable endpoint.capabilities endpoint.configuration := by
  have viewed := get_of_view found
  rw [same] at viewed
  obtain ⟨before, was, pair⟩ := Option.map_eq_some_iff.mp viewed
  obtain ⟨capabilities, configuration⟩ := Prod.mk.inj pair
  rw [← capabilities, ← configuration]
  exact sound before was

theorem Sound.heard (sound : Sound tracked) (checks : Checks tracked pdu)
    (heard : Heard tracked pdu next) : Sound next := by
  intro seid kept endpoint found
  cases hears : tracked.protocol.hears pdu with
  | none =>
    obtain ⟨before, same⟩ := heard.other hears seid kept
    exact sound_of_view (sound seid before) same found
  | some message =>
    obtain ⟨said, wrote, byPeer⟩ := heard.command hears
    by_cases named : ∃ event ∈ said, event.configured = some seid
    · obtain ⟨event, inside, named⟩ := named
      obtain ⟨endpoint', list, proposed, passed, viewed⟩ := wrote.named event inside seid named
      rw [get_of_view found] at viewed
      obtain ⟨capabilities, configuration⟩ := Prod.mk.inj (Option.some.inj viewed)
      rw [capabilities, configuration]
      exact (renderable_iff passed).mpr (checks message seid endpoint' list hears proposed passed)
    · have silent : (said.any fun event => event.configured = some seid) = false := by
        rw [any_eq_false]
        intro event inside hit
        exact named ⟨event, inside, by simpa using hit⟩
      rw [byPeer seid, silent, Bool.false_or] at kept
      refine sound_of_view (sound seid kept) (wrote.unnamed seid ?_) found
      exact fun event inside hit => named ⟨event, inside, hit⟩

/-- A list that passes the check with an entry that cannot be rendered is kept as it is. -/
theorem Heard.unsound (heard : Heard tracked pdu next) (unchecked : ¬ Checks tracked pdu) :
    ¬ Sound next := by
  intro sound
  refine unchecked fun message seid endpoint list hears proposed passed => ?_
  obtain ⟨said, wrote, byPeer⟩ := heard.command hears
  obtain ⟨event, inside, named⟩ := wrote.accepted seid endpoint list proposed passed
  obtain ⟨endpoint', list', proposed', -, viewed⟩ := wrote.named event inside seid named
  cases proposed.symm.trans proposed'
  obtain ⟨after, found, pair⟩ := Option.map_eq_some_iff.mp viewed
  obtain ⟨capabilities, configuration⟩ := Prod.mk.inj pair
  have kept : next.byPeer seid = true := by
    rw [byPeer seid, any_eq_true.mpr ⟨event, inside, by simpa using named⟩, Bool.true_or]
  have rendered := sound seid kept after found
  rw [capabilities, configuration] at rendered
  exact (renderable_iff passed).mp rendered

theorem Heard.deterministic {next' : Tracked} (heard : Heard tracked pdu next)
    (heard' : Heard tracked pdu next') : next = next' := by
  cases heard with
  | pdu received =>
    cases heard' with
    | pdu received' =>
      cases received.symm.trans received'
      rfl

end

/-- In a run of received PDUs every configuration that the peer sets or changes can be rendered
exactly when each list that passes the check could be in the entries that it does not read; and no
rejected command changes an endpoint. -/
theorem configurations (protocol : Protocol) :
    (∀ pdus tracked, Lib.Run Heard ⟨protocol, fun _ => false⟩ pdus tracked →
      ((∀ before reached, before <+: pdus → Lib.Run Heard ⟨protocol, fun _ => false⟩ before reached →
        Sound reached) ↔ Lib.Run (Guarded Checks Heard) ⟨protocol, fun _ => false⟩ pdus tracked)) ∧
    ∀ assembled after pdus events signal errorCode,
      protocol.onCommand assembled = (after, pdus, events) →
      .commandRefused signal errorCode ∈ events → after.localEndpoints = protocol.localEndpoints := by
  constructor
  · intro pdus tracked run
    refine run.always_iff_guarded (P := fun _ => Sound) ?_ ?_ ?_
    · exact fun _ _ _ _ heard heard' => heard.deterministic heard'
    · intro pdus tracked run
      refine run.invariant (P := fun _ => Sound) ?_ ?_
      · intro seid byPeer
        cases byPeer
      · exact fun sound step => sound.heard step.1 step.2
    · exact fun _ heard unchecked => heard.unsound unchecked
  · intro assembled after pdus events signal errorCode heard refused
    rw [onCommand_refused heard refused]

/-! ### A second codec -/

def sbcSink : LocalStreamEndPoint where
  seid := 1
  mediaType := .audio
  tsep := .sink
  capabilities := [⟨ServiceCategory.mediaTransport, []⟩,
    ⟨ServiceCategory.mediaCodec, [0x00, 0x00, 0xFF, 0xFF, 2, 53]⟩]
  configuration := []
  state := .idle
  remoteSeid := none

def sinkProtocol : Protocol := ⟨[sbcSink], 672, .new, ∅, 0⟩

/-- A configuration of the sink, and one with an entry behind the one that is checked. -/
def oneCodec : List ServiceCapability :=
  [⟨ServiceCategory.mediaTransport, []⟩,
    ⟨ServiceCategory.mediaCodec, [0x00, 0x00, 0x21, 0x15, 2, 53]⟩]

def twoCodecs : List ServiceCapability := oneCodec ++ [⟨ServiceCategory.mediaCodec, [0xFF]⟩]

def configurePdu (capabilities : List ServiceCapability) : Bytes :=
  0x00 :: SignalIdentifier.setConfiguration ::
    (Message.setConfigurationCommand 1 1 capabilities).toPayload

theorem sinkProtocol_hears {capabilities : List ServiceCapability}
    (short : ∀ capability ∈ capabilities, capability.data.length ≤ 255) :
    sinkProtocol.hears (configurePdu capabilities) =
      some (.setConfigurationCommand 1 1 capabilities) := by
  have parsed := @Message.parse_toPayload (.setConfigurationCommand 1 1 capabilities)
    ⟨by simp [seids], short, by simp⟩
  have fed : sinkProtocol.assembler.onPdu (configurePdu capabilities) = .ok (.new, some
    ⟨0, setConfiguration, .command,
      (setConfigurationCommand 1 1 capabilities).toPayload⟩) := rfl
  rw [hears, fed]
  exact parsed

theorem sinkProtocol_receives (capabilities : List ServiceCapability) :
    ∃ tracked, Heard ⟨sinkProtocol, fun _ => false⟩ (configurePdu capabilities) tracked := by
  obtain ⟨outcome, received⟩ : ∃ outcome,
      sinkProtocol.receive (configurePdu capabilities) = .ok outcome := ⟨_, rfl⟩
  exact ⟨_, .pdu received⟩

theorem configurations_one_codec :
    ∃ tracked, Lib.Run Heard ⟨sinkProtocol, fun _ => false⟩ [configurePdu oneCodec] tracked ∧
      Sound tracked := by
  obtain ⟨tracked, heard⟩ := sinkProtocol_receives oneCodec
  have run := Lib.Run.nil.snoc heard
  have checks : Checks ⟨sinkProtocol, fun _ => false⟩ (configurePdu oneCodec) := by
    intro message seid endpoint list hears proposed _
    cases hears.symm.trans (sinkProtocol_hears (by decide))
    have proposal : sinkProtocol.proposal (.setConfigurationCommand 1 1 oneCodec) =
        some (1, sbcSink, oneCodec) := rfl
    cases proposal.symm.trans proposed
    rw [show uncheckedCodecs oneCodec = [] by decide]
    simp
  exact ⟨tracked, run, ((configurations sinkProtocol).1 _ tracked run).mpr
    (Lib.Run.nil.snoc ⟨checks, heard⟩) _ tracked (prefix_refl _) run⟩

theorem two_codecs_unsound : ¬ ∀ protocol pdus tracked,
    Lib.Run Heard ⟨protocol, fun _ => false⟩ pdus tracked → Sound tracked := by
  intro sound
  obtain ⟨tracked, heard⟩ := sinkProtocol_receives twoCodecs
  refine heard.unsound ?_ (sound sinkProtocol _ _ (Lib.Run.nil.snoc heard))
  intro checks
  have renders := checks _ 1 sbcSink twoCodecs (sinkProtocol_hears (by decide)) rfl (by decide)
    ⟨ServiceCategory.mediaCodec, [0xFF]⟩ (by decide)
  obtain ⟨_, _, -, decoded, -⟩ := renders
  cases decoded

end Simble.Avdtp
