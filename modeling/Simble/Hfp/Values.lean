import Mathlib.Data.Finset.Insert
import Mathlib.Data.List.DropRight
import Simble.Hfp.At

/-! The values that the hands-free profile speaks of (`classic/hfp.rs`): codecs,
indicators, calls, and what it tells its caller. -/
namespace Simble.Hfp

namespace HfFeature

def threeWayCalling : UInt32 := 0x002
def codecNegotiation : UInt32 := 0x080
def hfIndicators : UInt32 := 0x100

end HfFeature

namespace AgFeature

def threeWayCalling : UInt32 := 0x001
def codecNegotiation : UInt32 := 0x200
def hfIndicators : UInt32 := 0x400

end AgFeature

inductive AudioCodec where
  | cvsd
  | msbc
  | lc3Swb
deriving DecidableEq

namespace AudioCodec

def toValue : AudioCodec → UInt8
  | cvsd => 0x01
  | msbc => 0x02
  | lc3Swb => 0x03

def fromValue (value : UInt8) : Option AudioCodec :=
  if value = 0x01 then some cvsd
  else if value = 0x02 then some msbc
  else if value = 0x03 then some lc3Swb
  else none

theorem fromValue_toValue (codec : AudioCodec) : fromValue codec.toValue = some codec := by
  cases codec <;> decide

end AudioCodec

inductive AudioConnectionState where
  | disconnected
  | negotiating
  | connecting
  | connected
deriving DecidableEq

inductive HfIndicator where
  | enhancedSafety
  | batteryLevel
deriving DecidableEq

namespace HfIndicator

def toValue : HfIndicator → UInt8
  | enhancedSafety => 1
  | batteryLevel => 2

def fromValue (value : UInt8) : Option HfIndicator :=
  if value = 1 then some enhancedSafety else if value = 2 then some batteryLevel else none

/-- A list as a `BTreeSet`, in order and without repetition. -/
def ordered (indicators : List HfIndicator) : List HfIndicator :=
  [enhancedSafety, batteryLevel].filter (· ∈ indicators)

end HfIndicator

inductive CallHoldOperation where
  | releaseAllHeldCalls
  | releaseAllActiveCalls
  | releaseSpecificCall
  | holdAllActiveCalls
  | holdAllCallsExcept
  | addHeldCall
  | connectTwoCalls
deriving DecidableEq

namespace CallHoldOperation

def code : CallHoldOperation → String
  | releaseAllHeldCalls => "0"
  | releaseAllActiveCalls => "1"
  | releaseSpecificCall => "1x"
  | holdAllActiveCalls => "2"
  | holdAllCallsExcept => "2x"
  | addHeldCall => "3"
  | connectTwoCalls => "4"

def fromCode (code : String) : Option CallHoldOperation :=
  [releaseAllHeldCalls, releaseAllActiveCalls, releaseSpecificCall, holdAllActiveCalls,
    holdAllCallsExcept, addHeldCall, connectTwoCalls].find? (·.code = code)

end CallHoldOperation

inductive AgIndicator where
  | service
  | call
  | callSetup
  | callHeld
  | signal
  | roam
  | batteryCharge
deriving DecidableEq

def AgIndicator.wireName : AgIndicator → String
  | service => "service"
  | call => "call"
  | callSetup => "callsetup"
  | callHeld => "callheld"
  | signal => "signal"
  | roam => "roam"
  | batteryCharge => "battchg"

/-- The name of the variant, as `{:?}` has it. -/
def AgIndicator.debugName : AgIndicator → String
  | service => "Service"
  | call => "Call"
  | callSetup => "CallSetup"
  | callHeld => "CallHeld"
  | signal => "Signal"
  | roam => "Roam"
  | batteryCharge => "BatteryCharge"

def AgIndicator.fromWireName (name : String) : Option AgIndicator :=
  [service, call, callSetup, callHeld, signal, roam, batteryCharge].find? (·.wireName = name)

structure AgIndicatorState where
  indicator : AgIndicator
  /-- In ascending order. -/
  supportedValues : List UInt32
  currentStatus : UInt32
  enabled : Bool

/-- `Vec::join(",")` -/
def joinComma (texts : List String) : String := ",".intercalate texts

/-- `saturating_sub` may be followed by an overflow of `+ 1`, as `as u32` may cut. -/
def AgIndicatorState.onTestText (state : AgIndicatorState) : Rust String :=
  let least := (state.supportedValues.head?.getD 0).toNat
  let greatest := (state.supportedValues.getLast?.getD 0).toNat
  if greatest - least + 1 < 2 ^ 32 then
    let contiguous := state.supportedValues.length % 2 ^ 32 = greatest - least + 1
    let values :=
      if contiguous then s!"({least}-{greatest})"
      else s!"({joinComma (state.supportedValues.map fun value => toString value)})"
    .ok s!"(\"{state.indicator.wireName}\",{values})"
  else .error .panic

structure CallLineIdentification where
  number : String
  kind : UInt32
  subaddr : Option String
  satype : Option UInt32
  alpha : Option String
  cliValidity : Option UInt32

def nonemptyParamStr : Option AtParameter → Option String
  | some (.value bytes) => if bytes ≠ [] then fromUtf8 bytes else none
  | _ => none

/-- `CallLineIdentification::parse_from`, none where it fails. -/
def CallLineIdentification.parseFrom (parameters : List AtParameter) :
    Option CallLineIdentification := do
  let number ← nonemptyParamStr parameters[0]?
  let kind ← (nonemptyParamStr parameters[1]?).bind parseU32
  return {
    number, kind
    subaddr := parameters[2]?.bind AtParameter.asStr
    satype := (nonemptyParamStr parameters[3]?).bind parseU32
    alpha := parameters[4]?.bind AtParameter.asStr
    cliValidity := (nonemptyParamStr parameters[5]?).bind parseU32 }

def CallLineIdentification.toClipString (cli : CallLineIdentification) : String :=
  let quoted (value : String) := s!"\"{value}\""
  let optional := [cli.subaddr.map quoted, cli.satype.map toString, cli.alpha.map quoted,
    cli.cliValidity.map toString]
  joinComma ([quoted cli.number, toString cli.kind] ++
    (optional.rdropWhile (· = none)).map (·.getD ""))

structure HfIndicatorState where
  indicator : HfIndicator
  supported : Bool
  enabled : Bool
  currentStatus : UInt32

structure CallInfo where
  index : UInt32
  direction : UInt8
  status : UInt8
  mode : UInt8
  multiParty : UInt8
  number : Option String
  kind : Option UInt8

inductive VoiceRecognitionState where
  | disable
  | enable
  | enhancedReady
deriving DecidableEq

def VoiceRecognitionState.fromValue (value : UInt32) : Option VoiceRecognitionState :=
  if value = 0 then some disable
  else if value = 1 then some enable
  else if value = 2 then some enhancedReady
  else none

namespace CmeError

def operationNotAllowed : Nat := 3
def operationNotSupported : Nat := 4
def invalidIndex : Nat := 21
def notFound : Nat := 22

end CmeError

inductive HfpEvent where
  | slcComplete
  | hfIndicatorUpdated (state : HfIndicatorState)
  | codecNegotiated (codec : AudioCodec)
  | supportedAudioCodecs (codecs : List AudioCodec)
  | codecConnectionRequested
  | audioConnectionRequested (codec : AudioCodec)
  | audioConnectionState (state : AudioConnectionState)
  | speakerVolume (level : UInt8)
  | microphoneVolume (level : UInt8)
  | voiceRecognition (state : VoiceRecognitionState)
  | answer
  | hangUp
  | dial (number : String)
  | callHold (operation : CallHoldOperation) (callIndex : Option UInt32)

/-- A line from the gateway, between its delimiters. -/
def responseBytes (text : String) : Bytes := [0x0D, 0x0A] ++ utf8 text ++ [0x0D, 0x0A]

end Simble.Hfp
