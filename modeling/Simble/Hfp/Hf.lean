import Mathlib.Data.List.Sort
import Simble.Hfp.Ag

/-! The hands-free side (`HfProtocol` of `classic/hfp.rs`). -/
namespace Simble.Hfp

inductive HfEvent where
  | slcComplete
  | commandCompleted (command : String) (ok : Bool) (responses : List AtResponse)
  | codecNegotiated (codec : AudioCodec)
  | audioConnectionState (state : AudioConnectionState)
  | agIndicatorUpdated (state : AgIndicatorState)
  | speakerVolume (level : UInt8)
  | microphoneVolume (level : UInt8)
  | ring
  | cliNotification (cli : CallLineIdentification)
  | voiceRecognition (state : VoiceRecognitionState)

structure HfConfiguration where
  supportedHfFeatures : UInt32
  supportedHfIndicators : List HfIndicator
  supportedAudioCodecs : List AudioCodec

inductive SlcStep where
  | brsf
  | bac
  | cindTest
  | cindRead
  | cmer
  | chldTest
  | bind
  | bindTest
  | bindRead
deriving DecidableEq

structure HfProtocol where
  supportedHfFeatures : UInt32
  supportedAudioCodecs : List AudioCodec
  hfIndicators : List (HfIndicator × HfIndicatorState)
  supportedAgFeatures : UInt32
  supportedAgCallHoldOperations : List CallHoldOperation
  agIndicators : List AgIndicatorState
  activeCodec : AudioCodec
  audioState : AudioConnectionState
  slcInitialized : Bool
  slcStep : Option SlcStep
  pendingCommand : Option String
  pendingResponses : List AtResponse
  readBuffer : Bytes

/-- The hands-free side after a call, what it sends and what it tells its caller. -/
structure HfReply where
  hf : HfProtocol
  outgoing : List Bytes
  events : List HfEvent

def statusCodes : List String :=
  ["+CME ERROR", "BLACKLISTED", "BUSY", "DELAYED", "ERROR", "NO ANSWER", "NO CARRIER", "OK"]

/-- `str::contains` -/
def containsText (text part : String) : Bool :=
  (utf8 text).tails.any fun rest => (utf8 part).isPrefixOf rest

def commandBytes (command : String) : Bytes := utf8 command ++ [0x0D]

def findCrlf : Bytes → Option (Bytes × Bytes)
  | [] => none
  | first :: rest =>
    if first = 0x0D ∧ rest.head? = some 0x0A then some ([], rest.tail)
    else (findCrlf rest).map fun found => (first :: found.1, found.2)

theorem length_findCrlf {buffer before behind : Bytes}
    (found : findCrlf buffer = some (before, behind)) : behind.length < buffer.length := by
  induction buffer generalizing before behind with
  | nil => cases found
  | cons first rest ih =>
    rw [findCrlf] at found
    split at found
    · cases found
      rw [List.length_tail, List.length_cons]
      exact Nat.lt_succ_of_le (Nat.sub_le _ _)
    · obtain ⟨⟨inner, later⟩, there, same⟩ := Option.map_eq_some_iff.mp found
      cases same
      exact Nat.lt_succ_of_lt (ih there)

/-- `extract_response_lines`: the lines, and what is left without a delimiter. -/
def extractResponseLines (buffer : Bytes) : List Bytes × Bytes :=
  match _header : findCrlf buffer with
  | none => ([], buffer)
  | some (_, rest) =>
    match _trailer : findCrlf rest with
    | none => ([], buffer)
    | some (line, behind) =>
      let (lines, left) := extractResponseLines behind
      (line :: lines, left)
termination_by buffer.length
decreasing_by exact Nat.lt_trans (length_findCrlf _trailer) (length_findCrlf _header)

/-- `supported_values.extend(lo..=hi)` for each of the ranges, in ascending order. -/
def rangeValues (ranges : List (UInt32 × UInt32)) : List UInt32 :=
  let values := ranges.flatMap fun range =>
    (List.range' range.1.toNat (range.2.toNat + 1 - range.1.toNat)).map UInt32.ofNat
  (values.mergeSort fun a b => a ≤ b).dedup

def parseRange (parameter : AtParameter) : Option (UInt32 × UInt32) := do
  let text ← parameter.asStr
  let bounds := (text.toList.splitOn '-').map String.ofList
  let lo ← bounds[0]?.bind parseU32
  let hi ← match bounds[1]? with
    | some bound => parseU32 bound
    | none => some lo
  return (lo, hi)

def parseOneCindIndicator : AtParameter → Option AgIndicatorState
  | .list (name :: .list ranges :: _) => do
    let indicator ← AgIndicator.fromWireName (← name.asStr)
    let ranges ← ranges.mapM parseRange
    return ⟨indicator, rangeValues ranges, 0, true⟩
  | _ => none

namespace HfProtocol

def new (configuration : HfConfiguration) : HfProtocol where
  supportedHfFeatures := configuration.supportedHfFeatures
  supportedAudioCodecs := configuration.supportedAudioCodecs
  hfIndicators := (HfIndicator.ordered configuration.supportedHfIndicators).map fun indicator =>
    (indicator, ⟨indicator, false, false, 0⟩)
  supportedAgFeatures := 0
  supportedAgCallHoldOperations := []
  agIndicators := []
  activeCodec := .cvsd
  audioState := .disconnected
  slcInitialized := false
  slcStep := none
  pendingCommand := none
  pendingResponses := []
  readBuffer := []

variable (hf : HfProtocol)

def supportsHfFeature (feature : UInt32) : Bool := hf.supportedHfFeatures &&& feature ≠ 0

def supportsAgFeature (feature : UInt32) : Bool := hf.supportedAgFeatures &&& feature ≠ 0

def hasPendingCommand : Bool := hf.pendingCommand.isSome

/-- `begin_step` and `send_command`, which differ in the step they are for. -/
def sendFor (step : Option SlcStep) (command : String) : HfProtocol × Bytes :=
  ({ hf with pendingCommand := some command, pendingResponses := [], slcStep := step },
    commandBytes command)

def beginStep (command : String) (step : SlcStep) : HfProtocol × Bytes :=
  hf.sendFor (some step) command

def sendCommand (command : String) : HfProtocol × Bytes := hf.sendFor none command

def startSlc : HfProtocol × Bytes := hf.beginStep s!"AT+BRSF={hf.supportedHfFeatures}" .brsf

def setAudioState (state : AudioConnectionState) : HfProtocol × List HfEvent :=
  if hf.audioState = state then (hf, [])
  else ({ hf with audioState := state }, [.audioConnectionState state])

def onlyBegin (command : String) (step : SlcStep) : HfReply :=
  let (hf, bytes) := hf.beginStep command step
  ⟨hf, [bytes], []⟩

def finishSlc : HfReply := ⟨{ hf with slcInitialized := true }, [], [.slcComplete]⟩

def startHfIndicatorsOrFinish : HfReply :=
  if hf.supportsHfFeature HfFeature.hfIndicators ∧ hf.supportsAgFeature AgFeature.hfIndicators then
    let indicators := joinComma (hf.hfIndicators.map fun entry => toString entry.1.toValue)
    hf.onlyBegin s!"AT+BIND={indicators}" .bind
  else hf.finishSlc

def withStatuses : List AtParameter → List AgIndicatorState → List AgIndicatorState
  | param :: params, state :: states =>
    (match param.asU32 with
      | some v => { state with currentStatus := v }
      | none => state) :: withStatuses params states
  | _, states => states

def enableIndicator (indicators : List (HfIndicator × HfIndicatorState)) (response : AtResponse) :
    List (HfIndicator × HfIndicatorState) :=
  match (AgProtocol.numberAt response.parameters 0).bind fun v => HfIndicator.fromValue v.toUInt8 with
  | none => indicators
  | some indicator =>
    let enabled := (AgProtocol.numberAt response.parameters 1).getD 0 ≠ 0
    indicators.map fun entry =>
      if entry.1 = indicator then (entry.1, { entry.2 with enabled }) else entry

def advanceSlc (step : SlcStep) (responses : List AtResponse) : HfReply :=
  let parameters := responses.head?.map AtResponse.parameters
  match step with
  | .brsf =>
    let hf := { hf with supportedAgFeatures :=
      (parameters.bind fun parameters => AgProtocol.numberAt parameters 0).getD 0 }
    if hf.supportsHfFeature HfFeature.codecNegotiation ∧
        hf.supportsAgFeature AgFeature.codecNegotiation then
      let codecs := joinComma (hf.supportedAudioCodecs.map fun codec => toString codec.toValue)
      hf.onlyBegin s!"AT+BAC={codecs}" .bac
    else hf.onlyBegin "AT+CIND=?" .cindTest
  | .bac => hf.onlyBegin "AT+CIND=?" .cindTest
  | .cindTest =>
    let hf := { hf with agIndicators := (parameters.getD []).filterMap parseOneCindIndicator }
    hf.onlyBegin "AT+CIND?" .cindRead
  | .cindRead =>
    let hf := { hf with agIndicators := withStatuses (parameters.getD []) hf.agIndicators }
    hf.onlyBegin "AT+CMER=3,,,1" .cmer
  | .cmer =>
    if hf.supportsHfFeature HfFeature.threeWayCalling ∧
        hf.supportsAgFeature AgFeature.threeWayCalling then hf.onlyBegin "AT+CHLD=?" .chldTest
    else hf.startHfIndicatorsOrFinish
  | .chldTest =>
    let hf := match parameters.bind (·[0]?) with
      | some (.list operations) => { hf with supportedAgCallHoldOperations :=
          (operations.filterMap AtParameter.asStr).filterMap CallHoldOperation.fromCode }
      | _ => hf
    hf.startHfIndicatorsOrFinish
  | .bind => hf.onlyBegin "AT+BIND=?" .bindTest
  | .bindTest =>
    let hf := match parameters.bind (·[0]?) with
      | some (.list items) =>
        let supported := items.filterMap AtParameter.asU32
        { hf with hfIndicators := hf.hfIndicators.map fun (entry : HfIndicator × HfIndicatorState) =>
            if entry.1.toValue.toUInt32 ∈ supported then (entry.1, { entry.2 with supported := true })
            else entry }
      | _ => hf
    hf.onlyBegin "AT+BIND?" .bindRead
  | .bindRead =>
    let hf := { hf with hfIndicators := responses.foldl enableIndicator hf.hfIndicators }
    hf.finishSlc

def onBcs (response : AtResponse) : HfReply :=
  match (AgProtocol.numberAt response.parameters 0).bind fun v => AudioCodec.fromValue v.toUInt8 with
  | none => ⟨hf, [], []⟩
  | some codec =>
    let (hf, changed) := { hf with activeCodec := codec }.setAudioState .connecting
    ⟨hf, [commandBytes s!"AT+BCS={codec.toValue}"], .codecNegotiated codec :: changed⟩

def onCiev (response : AtResponse) : HfReply :=
  match AgProtocol.numberAt response.parameters 0, AgProtocol.numberAt response.parameters 1 with
  | some index, some value =>
    if index = 0 then ⟨hf, [], []⟩
    else
      match hf.agIndicators[index.toNat - 1]? with
      | none => ⟨hf, [], []⟩
      | some state =>
        let state := { state with currentStatus := value }
        ⟨{ hf with agIndicators := hf.agIndicators.set (index.toNat - 1) state }, [],
          [.agIndicatorUpdated state]⟩
  | _, _ => ⟨hf, [], []⟩

def eventOf (response : AtResponse) : Option HfEvent :=
  if response.code = "+VGS" then
    (AgProtocol.numberAt response.parameters 0).map fun v => .speakerVolume v.toUInt8
  else if response.code = "+VGM" then
    (AgProtocol.numberAt response.parameters 0).map fun v => .microphoneVolume v.toUInt8
  else if response.code = "RING" then some .ring
  else if response.code = "+CLIP" then
    (CallLineIdentification.parseFrom response.parameters).map .cliNotification
  else if response.code = "+BVRA" then
    ((AgProtocol.numberAt response.parameters 0).bind VoiceRecognitionState.fromValue).map
      .voiceRecognition
  else none

def handleUnsolicited (response : AtResponse) : HfReply :=
  if response.code = "+BCS" then hf.onBcs response
  else if response.code = "+CIEV" then hf.onCiev response
  else ⟨hf, [], (eventOf response).toList⟩

/-- A line is taken for one that answers the pending command. -/
def takes (response : AtResponse) : Bool :=
  hf.pendingCommand.any fun command =>
    statusCodes.contains response.code || containsText command response.code

def handleResponse (response : AtResponse) : HfReply :=
  if ¬ hf.takes response then hf.handleUnsolicited response
  else
    let command := hf.pendingCommand.getD ""
    let responses := hf.pendingResponses
    let taken := { hf with pendingCommand := none, pendingResponses := [], slcStep := none }
    if response.code = "OK" then
      match hf.slcStep with
      | some step => taken.advanceSlc step responses
      | none => ⟨taken, [], [.commandCompleted command true responses]⟩
    else if statusCodes.contains response.code then
      ⟨taken, [], [.commandCompleted command false responses]⟩
    else ⟨{ hf with pendingResponses := hf.pendingResponses ++ [response] }, [], []⟩

/-- One line; one that is empty or cannot be read is passed over. -/
def handleLine (line : Bytes) : HfReply :=
  if line = [] then ⟨hf, [], []⟩
  else
    match AtResponse.parseFrom line with
    | .ok response => hf.handleResponse response
    | .error _ => ⟨hf, [], []⟩

def receive (data : Bytes) : HfReply :=
  let (lines, left) := extractResponseLines (hf.readBuffer ++ data)
  lines.foldl (fun reply line =>
      let next := reply.hf.handleLine line
      ⟨next.hf, reply.outgoing ++ next.outgoing, reply.events ++ next.events⟩)
    ⟨{ hf with readBuffer := left }, [], []⟩

end HfProtocol

end Simble.Hfp
