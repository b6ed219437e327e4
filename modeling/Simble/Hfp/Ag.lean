import Mathlib.Data.Finset.Erase
import Simble.Hfp.Values

/-! The audio gateway (`AgProtocol` of `classic/hfp.rs`). -/
namespace Simble.Hfp

structure AgConfiguration where
  supportedAgFeatures : UInt32
  supportedAgIndicators : List AgIndicatorState
  supportedHfIndicators : List HfIndicator
  supportedAgCallHoldOperations : List CallHoldOperation
  supportedAudioCodecs : List AudioCodec

structure AgProtocol where
  supportedAgFeatures : UInt32
  supportedAgCallHoldOperations : List CallHoldOperation
  agIndicators : List AgIndicatorState
  supportedHfIndicators : List HfIndicator
  hfIndicators : List (HfIndicator × HfIndicatorState)
  supportedHfFeatures : UInt32
  supportedAudioCodecs : List AudioCodec
  hfAudioCodecs : List AudioCodec
  activeCodec : AudioCodec
  audioState : AudioConnectionState
  calls : List CallInfo
  indicatorReportEnabled : Bool
  cmeErrorEnabled : Bool
  cliNotificationEnabled : Bool
  callWaitingEnabled : Bool
  networkOperator : String
  copsFormatSelected : Bool
  remainingSlcSetupFeatures : Finset UInt32
  readBuffer : Bytes

/-- A gateway after a call, what it sends and what it tells its caller. -/
structure Reply where
  ag : AgProtocol
  outgoing : List Bytes
  events : List HfpEvent

namespace AgProtocol

def new (configuration : AgConfiguration) : AgProtocol where
  supportedAgFeatures := configuration.supportedAgFeatures
  supportedAgCallHoldOperations := configuration.supportedAgCallHoldOperations
  agIndicators := configuration.supportedAgIndicators
  supportedHfIndicators := HfIndicator.ordered configuration.supportedHfIndicators
  hfIndicators := []
  supportedHfFeatures := 0
  supportedAudioCodecs := configuration.supportedAudioCodecs
  hfAudioCodecs := []
  activeCodec := .cvsd
  audioState := .disconnected
  calls := []
  indicatorReportEnabled := false
  cmeErrorEnabled := false
  cliNotificationEnabled := false
  callWaitingEnabled := false
  networkOperator := ""
  copsFormatSelected := false
  remainingSlcSetupFeatures := ∅
  readBuffer := []

variable (ag : AgProtocol) (params : List AtParameter)

def supportsHfFeature (feature : UInt32) : Bool := ag.supportedHfFeatures &&& feature ≠ 0

def supportsAgFeature (feature : UInt32) : Bool := ag.supportedAgFeatures &&& feature ≠ 0

def ok : Bytes := responseBytes "OK"

def error : Bytes := responseBytes "ERROR"

def cmeErrorResponse (code : Nat) : Bytes :=
  if ag.cmeErrorEnabled then responseBytes s!"+CME ERROR: {code}" else error

/-- `params.get(n).and_then(AtParameter::as_u32)` -/
def numberAt (n : Nat) : Option UInt32 := params[n]?.bind AtParameter.asU32

def checkRemainingSlcCommands : List HfpEvent :=
  if ag.remainingSlcSetupFeatures = ∅ then [.slcComplete] else []

def onBrsf : Reply :=
  let ag := { ag with supportedHfFeatures := (numberAt params 0).getD 0 }
  let remaining := ag.remainingSlcSetupFeatures
  let remaining :=
    if ag.supportsHfFeature HfFeature.hfIndicators ∧ ag.supportsAgFeature AgFeature.hfIndicators then
      insert HfFeature.hfIndicators remaining
    else remaining
  let remaining :=
    if ag.supportsHfFeature HfFeature.threeWayCalling ∧
        ag.supportsAgFeature AgFeature.threeWayCalling then
      insert HfFeature.threeWayCalling remaining
    else remaining
  ⟨{ ag with remainingSlcSetupFeatures := remaining },
    [responseBytes s!"+BRSF: {ag.supportedAgFeatures}", ok], []⟩

def onBac : Reply :=
  let codecs := (params.filterMap AtParameter.asU32).filterMap fun v => AudioCodec.fromValue v.toUInt8
  ⟨{ ag with hfAudioCodecs := codecs }, [ok], [.supportedAudioCodecs codecs]⟩

def setAudioState (state : AudioConnectionState) : AgProtocol × List HfpEvent :=
  if ag.audioState = state then (ag, [])
  else ({ ag with audioState := state }, [.audioConnectionState state])

/-- The number of an `AT+BCS` as a codec; the cast cuts it to one octet. -/
def namedCodec : Option AudioCodec := (numberAt params 0).bind fun v => AudioCodec.fromValue v.toUInt8

def onBcs : Reply :=
  match namedCodec params with
  | none => ⟨ag, [error], []⟩
  | some codec =>
    let ag := { ag with activeCodec := codec }
    if ag.audioState = .negotiating then
      let (ag, changed) := ag.setAudioState .connecting
      ⟨ag, [ok], .codecNegotiated codec :: changed ++ [.audioConnectionRequested codec]⟩
    else ⟨ag, [ok], [.codecNegotiated codec]⟩

def onBvra : Reply :=
  ⟨ag, [ok], (((numberAt params 0).bind VoiceRecognitionState.fromValue).map
    HfpEvent.voiceRecognition).toList⟩

/-- The operation that an `AT+CHLD` names and the call it is about. The first
octet is cut off by its index, which panics inside a character. -/
def callHoldParts (raw : String) : Rust (Option (String × Option UInt32)) :=
  if raw.utf8ByteSize > 1 then
    match raw.toList with
    | first :: rest =>
      if first.utf8Size = 1 then
        .ok ((parseU32 (String.ofList rest)).map fun index => (String.ofList [first, 'x'], some index))
      else .error .panic
    | [] => .ok none
  else .ok (some (raw, none))

def onChld : Rust Reply :=
  let refused := Reply.mk ag [ag.cmeErrorResponse CmeError.operationNotSupported] []
  match params[0]?.bind AtParameter.asStr with
  | none => .ok refused
  | some raw => do
    match ← callHoldParts raw with
    | none => return refused
    | some (code, callIndex) =>
      match CallHoldOperation.fromCode code with
      | none => return refused
      | some operation =>
        if operation ∉ ag.supportedAgCallHoldOperations then return refused
        else if callIndex.any fun index => ag.calls.all fun call => call.index ≠ index then
          return ⟨ag, [ag.cmeErrorResponse CmeError.invalidIndex], []⟩
        else return ⟨ag, [ok], [.callHold operation callIndex]⟩

def onChldTest : Reply :=
  if ¬ ag.supportsAgFeature AgFeature.threeWayCalling then ⟨ag, [error], []⟩
  else
    let operations := joinComma (ag.supportedAgCallHoldOperations.map CallHoldOperation.code)
    let ag := { ag with
      remainingSlcSetupFeatures := ag.remainingSlcSetupFeatures.erase HfFeature.threeWayCalling }
    ⟨ag, [responseBytes s!"+CHLD: ({operations})", ok], ag.checkRemainingSlcCommands⟩

def onCindTest : Rust Reply :=
  if ag.agIndicators.isEmpty then .ok ⟨ag, [ag.cmeErrorResponse CmeError.notFound], []⟩
  else do
    let texts ← ag.agIndicators.mapM AgIndicatorState.onTestText
    return ⟨ag, [responseBytes s!"+CIND: {joinComma texts}", ok], []⟩

def onCindRead : Reply :=
  if ag.agIndicators.isEmpty then ⟨ag, [ag.cmeErrorResponse CmeError.notFound], []⟩
  else
    let texts := ag.agIndicators.map fun state => toString state.currentStatus
    ⟨ag, [responseBytes s!"+CIND: {joinComma texts}", ok], ag.checkRemainingSlcCommands⟩

/-- The error of wrong parameters does not end the command: OK follows. -/
def onCmer : Reply :=
  let mode := numberAt params 0
  let keypad := (numberAt params 1).getD 0
  let display := (numberAt params 2).getD 0
  let indicator := (numberAt params 3).getD 0
  let refused :=
    if mode ≠ some 3 ∨ keypad ≠ 0 ∨ display ≠ 0 ∨ (indicator ≠ 0 ∧ indicator ≠ 1) then
      [ag.cmeErrorResponse CmeError.invalidIndex]
    else []
  ⟨{ ag with indicatorReportEnabled := indicator ≠ 0 }, refused ++ [ok], []⟩

def onCmee : Reply := ⟨{ ag with cmeErrorEnabled := (numberAt params 0).getD 0 ≠ 0 }, [ok], []⟩

def onCcwa : Reply := ⟨{ ag with callWaitingEnabled := (numberAt params 0).getD 0 ≠ 0 }, [ok], []⟩

def onBind : Reply :=
  if ¬ ag.supportsAgFeature AgFeature.hfIndicators then ⟨ag, [error], []⟩
  else
    let peer := (params.filterMap AtParameter.asU32).filterMap fun v => HfIndicator.fromValue v.toUInt8
    let indicators := (ag.supportedHfIndicators.filter (· ∈ peer)).map fun indicator =>
      (indicator, HfIndicatorState.mk indicator false false 0)
    ⟨{ ag with hfIndicators := indicators }, [ok], []⟩

def onBindTest : Reply :=
  if ¬ ag.supportsAgFeature AgFeature.hfIndicators then ⟨ag, [error], []⟩
  else
    let values := ag.supportedHfIndicators.map fun indicator => toString indicator.toValue
    ⟨ag, [responseBytes s!"+BIND: ({joinComma values})", ok], []⟩

def onBindRead : Reply :=
  if ¬ ag.supportsAgFeature AgFeature.hfIndicators then ⟨ag, [error], []⟩
  else
    let lines := ag.hfIndicators.map fun entry => responseBytes s!"+BIND: {entry.1.toValue},1"
    let ag := { ag with
      remainingSlcSetupFeatures := ag.remainingSlcSetupFeatures.erase HfFeature.hfIndicators }
    ⟨ag, lines ++ [ok], ag.checkRemainingSlcCommands⟩

def onBiev : Reply :=
  let indicator := (numberAt params 0).bind fun v => HfIndicator.fromValue v.toUInt8
  match ag.supportsAgFeature AgFeature.hfIndicators, indicator, numberAt params 1 with
  | true, some indicator, some value =>
    match ag.hfIndicators.find? (·.1 = indicator) with
    | none => ⟨ag, [error], []⟩
    | some entry =>
      let state := { entry.2 with currentStatus := value }
      let indicators := ag.hfIndicators.replaceF fun other =>
        if other.1 = indicator then some (other.1, state) else none
      ⟨{ ag with hfIndicators := indicators }, [ok], [.hfIndicatorUpdated state]⟩
  | _, _, _ => ⟨ag, [error], []⟩

def withFlags : List AtParameter → List AgIndicatorState → List AgIndicatorState
  | param :: params, state :: states =>
    (match param.asU32 with
      | some v => { state with enabled := v ≠ 0 }
      | none => state) :: withFlags params states
  | _, states => states

def onBia : Reply := ⟨{ ag with agIndicators := withFlags params ag.agIndicators }, [ok], []⟩

def negotiateCodec (codec : AudioCodec) : Bytes := responseBytes s!"+BCS: {codec.toValue}"

def codecToNegotiate : Option AudioCodec :=
  if ¬ ag.supportsAgFeature AgFeature.codecNegotiation ∨
      ¬ ag.supportsHfFeature HfFeature.codecNegotiation then none
  else [AudioCodec.lc3Swb, .msbc, .cvsd].find? fun codec =>
    codec ∈ ag.supportedAudioCodecs ∧ codec ∈ ag.hfAudioCodecs

def startAudioConnection : Reply :=
  if ag.audioState ≠ .disconnected then ⟨ag, [], []⟩
  else
    match ag.codecToNegotiate with
    | some codec =>
      let (ag, changed) := { ag with activeCodec := codec }.setAudioState .negotiating
      ⟨ag, [negotiateCodec codec], changed⟩
    | none =>
      let (ag, changed) := { ag with activeCodec := .cvsd }.setAudioState .connecting
      ⟨ag, [], changed ++ [.audioConnectionRequested .cvsd]⟩

def onAudioConnected : Reply :=
  let (ag, changed) := ag.setAudioState .connected
  ⟨ag, [], changed⟩

def onAudioDisconnected : Reply :=
  let (ag, changed) := ag.setAudioState .disconnected
  ⟨ag, [], changed⟩

def onBcc : Reply :=
  let started := ag.startAudioConnection
  ⟨started.ag, ok :: started.outgoing, .codecConnectionRequested :: started.events⟩

def onAnswer : Reply := ⟨ag, [ok], [.answer]⟩

def onDial : Reply :=
  let text := (params[0]?.bind AtParameter.asStr).getD ""
  ⟨ag, [ok], [.dial (String.ofList (text.toList.rdropWhile (· = ';')))]⟩

def onChup : Reply := ⟨ag, [ok], [.hangUp]⟩

def callLine (call : CallInfo) : Bytes :=
  let number := (call.number.map fun number => s!",\"{number}\"").getD ""
  let kind := (call.kind.map fun kind => s!",{kind}").getD ""
  responseBytes (s!"+CLCC: {call.index},{call.direction},{call.status},{call.mode}," ++
    s!"{call.multiParty}{number}{kind}")

def onClcc : Reply := ⟨ag, ag.calls.map callLine ++ [ok], []⟩

def onClip : Reply :=
  ⟨{ ag with cliNotificationEnabled := params[0]?.bind AtParameter.asStr = some "1" }, [ok], []⟩

def onCopsSet : Reply :=
  if numberAt params 0 = some 3 ∧ numberAt params 1 = some 0 then
    ⟨{ ag with copsFormatSelected := true }, [ok], []⟩
  else ⟨ag, [ag.cmeErrorResponse CmeError.operationNotSupported], []⟩

def onCopsRead : Reply :=
  if ¬ ag.copsFormatSelected then ⟨ag, [ag.cmeErrorResponse CmeError.operationNotAllowed], []⟩
  else ⟨ag, [responseBytes s!"+COPS: 0,0,\"{ag.networkOperator}\"", ok], []⟩

/-- `on_vgs` and `on_vgm`, which tell of different volumes. -/
def onVolume (event : UInt8 → HfpEvent) : Reply :=
  ⟨ag, [ok], ((numberAt params 0).map fun v => event v.toUInt8).toList⟩

def onVgs : Reply := ag.onVolume params .speakerVolume

def onVgm : Reply := ag.onVolume params .microphoneVolume

def sendRing : Bytes := responseBytes "RING"

def setSpeakerVolume (level : UInt8) : Bytes := responseBytes s!"+VGS: {level}"

def setMicrophoneVolume (level : UInt8) : Bytes := responseBytes s!"+VGM: {level}"

def indicatorNotSupported (indicator : AgIndicator) : Stop :=
  .err (.deviceError s!"HFP: AG indicator {indicator.debugName} not supported")

def updateAgIndicator (indicator : AgIndicator) (value : UInt32) : Rust (AgProtocol × Bytes) :=
  match ag.agIndicators.findIdx? (·.indicator = indicator) with
  | none => .error (indicatorNotSupported indicator)
  | some index => .ok
    ({ ag with agIndicators := ag.agIndicators.modify index fun state =>
        { state with currentStatus := value } },
      responseBytes s!"+CIEV: {index + 1},{value}")

def sendCliNotification (cli : CallLineIdentification) : Bytes :=
  responseBytes s!"+CLIP: {cli.toClipString}"

/-- The commands of `dispatch`. -/
inductive Command where
  | brsf | bac | bcs | bvra | chld | chldTest | cindTest | cindRead | cmer | cmee | ccwa | bind
  | bindTest | bindRead | biev | bia | bcc | answer | dial | chup | clcc | clip | copsSet | copsRead
  | vgs | vgm
deriving DecidableEq

def commandOf (code : String) (subCode : AtSubCode) : Option Command :=
  match subCode with
  | .set =>
    if code = "BRSF" then some .brsf
    else if code = "BAC" then some .bac
    else if code = "BCS" then some .bcs
    else if code = "BVRA" then some .bvra
    else if code = "CHLD" then some .chld
    else if code = "CMER" then some .cmer
    else if code = "CMEE" then some .cmee
    else if code = "CCWA" then some .ccwa
    else if code = "BIND" then some .bind
    else if code = "BIEV" then some .biev
    else if code = "BIA" then some .bia
    else if code = "CLIP" then some .clip
    else if code = "COPS" then some .copsSet
    else if code = "VGS" then some .vgs
    else if code = "VGM" then some .vgm
    else none
  | .test =>
    if code = "CHLD" then some .chldTest
    else if code = "CIND" then some .cindTest
    else if code = "BIND" then some .bindTest
    else none
  | .read =>
    if code = "CIND" then some .cindRead
    else if code = "BIND" then some .bindRead
    else if code = "COPS" then some .copsRead
    else none
  | .none =>
    if code = "BCC" then some .bcc
    else if code = "A" then some .answer
    else if code = "D" then some .dial
    else if code = "CHUP" then some .chup
    else if code = "CLCC" then some .clcc
    else none

def handle : Command → Rust Reply
  | .brsf => .ok (ag.onBrsf params)
  | .bac => .ok (ag.onBac params)
  | .bcs => .ok (ag.onBcs params)
  | .bvra => .ok (ag.onBvra params)
  | .chld => ag.onChld params
  | .chldTest => .ok ag.onChldTest
  | .cindTest => ag.onCindTest
  | .cindRead => .ok ag.onCindRead
  | .cmer => .ok (ag.onCmer params)
  | .cmee => .ok (ag.onCmee params)
  | .ccwa => .ok (ag.onCcwa params)
  | .bind => .ok (ag.onBind params)
  | .bindTest => .ok ag.onBindTest
  | .bindRead => .ok ag.onBindRead
  | .biev => .ok (ag.onBiev params)
  | .bia => .ok (ag.onBia params)
  | .bcc => .ok ag.onBcc
  | .answer => .ok ag.onAnswer
  | .dial => .ok (ag.onDial params)
  | .chup => .ok ag.onChup
  | .clcc => .ok ag.onClcc
  | .clip => .ok (ag.onClip params)
  | .copsSet => .ok (ag.onCopsSet params)
  | .copsRead => .ok ag.onCopsRead
  | .vgs => .ok (ag.onVgs params)
  | .vgm => .ok (ag.onVgm params)

def dispatch (cmd : AtCommand) : Rust Reply :=
  match commandOf cmd.code cmd.subCode with
  | some command => ag.handle cmd.parameters command
  | none => .ok ⟨ag, [error], []⟩

def receiveLine (line : Bytes) : Rust Reply :=
  match AtCommand.parseFrom line with
  | .ok cmd => ag.dispatch cmd
  | .error _ => .ok ⟨ag, [error], []⟩

end AgProtocol

/-- `extract_command_lines`: the lines, and what is left without a delimiter. -/
def extractCommandLines : Bytes → List Bytes × Bytes
  | [] => ([], [])
  | byte :: rest =>
    let (lines, left) := extractCommandLines rest
    if byte = 0x0D then ([] :: lines, left)
    else
      match lines with
      | [] => ([], byte :: left)
      | line :: lines => ((byte :: line) :: lines, left)

namespace AgProtocol

def receive (ag : AgProtocol) (data : Bytes) : Rust Reply :=
  let (lines, left) := extractCommandLines (ag.readBuffer ++ data)
  (lines.filter (· ≠ [])).foldlM
    (fun reply line => do
      let next ← reply.ag.receiveLine line
      return ⟨next.ag, reply.outgoing ++ next.outgoing, reply.events ++ next.events⟩)
    ⟨{ ag with readBuffer := left }, [], []⟩

end AgProtocol

end Simble.Hfp
