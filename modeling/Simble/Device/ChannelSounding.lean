import Simble.Device.ClassicHost
import Simble.Lib.Along
import Simble.Profiles.Ranging

/-! The two ends of a Channel Sounding procedure (`device/channel_sounding.rs`,
`cs/tones.rs`), and which halves a measurement is made of. -/
namespace Simble.Cs
open Simble.Lib Simble.Ras
open Simble.Device (command)

namespace Opcode
def leCsSecurityEnable : Bytes := [0x8C, 0x20]
def leCsCreateConfig : Bytes := [0x90, 0x20]
def leCsSetProcedureParameters : Bytes := [0x93, 0x20]
def leCsProcedureEnable : Bytes := [0x94, 0x20]
end Opcode

namespace Subevent
def securityEnableComplete : UInt8 := 0x2E
def configComplete : UInt8 := 0x2F
def procedureEnableComplete : UInt8 := 0x30
def subeventResult : UInt8 := 0x31
end Subevent

structure SubeventResult where
  connectionHandle : UInt16
  configId : UInt8
  procedureCounter : UInt16
  referencePowerLevel : Int8
  numAntennaPaths : UInt8
  tones : List Tone

def readStep : Reading (Option Tone) := do
  let head ← Reading.take 3
  let data ← Reading.take (head.getD 2 0).toNat
  if head.getD 0 0 ≠ 2 then return none
  else
    match getRange data 1 5 with
    | none => fun _ => none
    | some pct =>
      let (i, q) := decodePct (pct.take 3)
      return some ⟨head.getD 1 0, i, q, pct.getD 3 0⟩

def parseSubeventResult : Bytes → Option SubeventResult
  | code :: low :: high :: config :: _ :: _ :: counterLow :: counterHigh :: _ :: _ :: power :: _ ::
      _ :: _ :: _ :: paths :: count :: steps => do
    guard (code = Subevent.subeventResult)
    let (tones, _) ← Reading.times readStep count.toNat steps
    return {
      connectionHandle := U16.fromLeBytes low high &&& 0x0FFF
      configId := config
      procedureCounter := U16.fromLeBytes counterLow counterHigh
      referencePowerLevel := power.toInt8
      numAntennaPaths := paths
      tones := tones.filterMap id }
  | _ => none

inductive CsState where
  | idle
  | securing
  | configuring
  | settingParameters
  | enabling
  | measuring
  | failed (status : UInt8)
deriving DecidableEq

def CsState.awaited : CsState → Option Bytes
  | .securing => some Opcode.leCsSecurityEnable
  | .configuring => some Opcode.leCsCreateConfig
  | .enabling => some Opcode.leCsProcedureEnable
  | _ => none

/-- One procedure, complete: both halves, their sums `C` and the distance `E`. -/
structure Measurement (C E : Type) where
  counter : UInt16
  localTones : List Tone
  remoteTones : List Tone
  combined : List C
  estimate : E

structure CsInitiator (C E : Type) where
  configId : UInt8
  state : CsState := .idle
  connectionHandle : UInt16 := 0
  localHalf : Option SubeventResult := none
  remoteHalf : Option RangingData := none
  measurement : Option (Measurement C E) := none
  completed : UInt32 := 0
  mismatched : UInt32 := 0

/-- `u32::saturating_add` of one. -/
def saturatingSucc (count : UInt32) : UInt32 := if count = 0xFFFFFFFF then count else count + 1

/-- The floating-point estimator. -/
structure Estimator (C E : Type) where
  combine : List Tone → List Tone → List C
  estimate : List C → Option E

namespace CsInitiator
variable {C E : Type} (estimator : Estimator C E) (initiator : CsInitiator C E)

def start (connectionHandle : UInt16) : List Bytes × CsInitiator C E :=
  ([command Opcode.leCsSecurityEnable (U16.toLeBytes connectionHandle)],
    { initiator with connectionHandle, state := .securing })

def localTones : List Tone := initiator.measurement.elim [] (·.localTones)

def remoteTones : List Tone := initiator.measurement.elim [] (·.remoteTones)

def combinedTones : List C := initiator.measurement.elim [] (·.combined)

def reset : CsInitiator C E :=
  { initiator with state := .idle, localHalf := none, remoteHalf := none, measurement := none }

def createConfigParams : Bytes :=
  U16.toLeBytes initiator.connectionHandle ++ [initiator.configId] ++
    [0x01, 0x02, 0xFF, 0x02, 0x14, 0x00, 0x03, 0x00, 0x00, 0x01] ++ List.replicate 10 0xFF ++
    [0x01, 0x00, 0x00, 0x00, 0x00]

def procedureParameters : Bytes :=
  U16.toLeBytes initiator.connectionHandle ++ [initiator.configId] ++
    [0x28, 0x00, 0x01, 0x00, 0x02, 0x00, 0x00, 0x00, 0x40, 0x0D, 0x00, 0x40, 0x0D, 0x00] ++
    [0x01, 0x00, 0x00, 0x00, 0x00, 0x00]

def procedureEnableParams (enable : Bool) : Bytes :=
  U16.toLeBytes initiator.connectionHandle ++ [initiator.configId, if enable then 1 else 0]

def stop : List Bytes × CsInitiator C E :=
  if initiator.state ≠ .measuring then ([], initiator) else
  ([command Opcode.leCsProcedureEnable (initiator.procedureEnableParams false)],
    { initiator with state := .idle })

def onCommandStatus : Bytes → CsInitiator C E
  | [status, _, low, high] =>
    if status ≠ 0x00 ∧ initiator.state.awaited = some [low, high] then
      { initiator with state := .failed status }
    else initiator
  | _ => initiator

def goOn (status : Option UInt8) (next : CsState) (commands : List Bytes) :
    List Bytes × CsInitiator C E :=
  match status with
  | none => ([], initiator)
  | some status =>
    if status = 0x00 then (commands, { initiator with state := next })
    else ([], { initiator with state := .failed status })

/-- The measurement that the two halves give, if they fit and have not given it already. -/
def combination : Option (Measurement C E) := do
  let own ← initiator.localHalf
  let remote ← initiator.remoteHalf
  let counter := own.procedureCounter &&& 0x0FFF
  guard (counter = remote.rangingCounter ∧ ¬ initiator.measurement.any (·.counter = counter))
  let combined := estimator.combine own.tones remote.tones
  let estimate ← estimator.estimate combined
  return ⟨counter, own.tones, remote.tones, combined, estimate⟩

/-- The two halves have different counters. -/
def apart : Bool := match initiator.localHalf, initiator.remoteHalf with
  | some own, some remote => own.procedureCounter &&& 0x0FFF ≠ remote.rangingCounter
  | _, _ => false

def combineHalves (countMismatch : Bool) : CsInitiator C E :=
  if initiator.apart then
    if countMismatch then { initiator with mismatched := saturatingSucc initiator.mismatched }
    else initiator
  else match initiator.combination estimator with
    | none => initiator
    | some measurement => { initiator with
        measurement := some measurement, completed := saturatingSucc initiator.completed }

def onLeMeta (parameters : Bytes) : List Bytes × CsInitiator C E :=
  let subevent := parameters.head?
  let status := parameters[1]?
  if subevent = some Subevent.securityEnableComplete ∧ initiator.state = .securing then
    initiator.goOn status .configuring
      [command Opcode.leCsCreateConfig initiator.createConfigParams]
  else if subevent = some Subevent.configComplete ∧ initiator.state = .configuring then
    initiator.goOn status .settingParameters
      [command Opcode.leCsSetProcedureParameters initiator.procedureParameters]
  else if subevent = some Subevent.procedureEnableComplete ∧ initiator.state = .enabling then
    initiator.goOn status .measuring []
  else match parseSubeventResult parameters with
    | none => ([], initiator)
    | some result =>
      if result.connectionHandle = initiator.connectionHandle then
        ([], { initiator with localHalf := some result }.combineHalves estimator false)
      else ([], initiator)

def onPacket (packet : Bytes) : List Bytes × CsInitiator C E :=
  match Hci.HciEvent.parseH4 packet with
  | some (.commandComplete header returnParameters) =>
    if U16.toLeBytes header.commandOpcode = Opcode.leCsSetProcedureParameters ∧
        initiator.state = .settingParameters then
      initiator.goOn returnParameters.head? .enabling
        [command Opcode.leCsProcedureEnable (initiator.procedureEnableParams true)]
    else ([], initiator)
  | some (.other code parameters) =>
    if code = 0x0F then ([], initiator.onCommandStatus parameters)
    else if code = 0x3E then initiator.onLeMeta estimator parameters
    else ([], initiator)
  | _ => ([], initiator)

def onRangingData (body : Bytes) : Bool × CsInitiator C E :=
  match RangingData.parse body with
  | none => (false, initiator)
  | some data => (true, { initiator with remoteHalf := some data }.combineHalves estimator true)

end CsInitiator
/-! ## The reflector -/

structure CsReflector where
  connectionHandle : UInt16 := 0
  configId : Option UInt8 := none
  pending : List Bytes := []
  subevents : UInt32 := 0

/-- `RangingData::from_subevent`. -/
def fromSubevent (result : SubeventResult) (selectedTxPower : Int8) : RangingData where
  rangingCounter := result.procedureCounter &&& 0x0FFF
  configId := result.configId
  selectedTxPower := selectedTxPower
  antennaPathsMask := 0x01
  referencePowerLevel := result.referencePowerLevel
  tones := result.tones

/-- The parameters of an LE Meta event without a typed view. -/
def leMeta (packet : Bytes) : Option Bytes := match Hci.HciEvent.parseH4 packet with
  | some (.other code parameters) => if code = 0x3E then some parameters else none
  | _ => none

namespace CsReflector
variable (reflector : CsReflector)

def reset : CsReflector := { reflector with configId := none, pending := [], subevents := 0 }

def onPacket (packet : Bytes) : CsReflector := match leMeta packet with
  | none => reflector
  | some parameters =>
    if parameters.head? = some Subevent.configComplete ∧ parameters[1]? = some 0x00 then
      if parameters[12]? = some 0x01 then { reflector with
        connectionHandle :=
          U16.fromLeBytes (parameters.getD 2 0) (parameters.getD 3 0) &&& 0x0FFF
        configId := some (parameters.getD 4 0) }
      else reflector
    else match parseSubeventResult parameters with
      | none => reflector
      | some result =>
        if reflector.configId ≠ some result.configId then reflector else { reflector with
          subevents := saturatingSucc reflector.subevents
          pending := [(fromSubevent result 0).toBytes] }

def takeRangingData : Option Bytes × CsReflector :=
  (reflector.pending.head?, { reflector with pending := reflector.pending.tail })

inductive Call where
  | packet (octets : Bytes)
  | takeRangingData
  | reset

def next : Call → CsReflector
  | .packet octets => reflector.onPacket octets
  | .takeRangingData => reflector.takeRangingData.2
  | .reset => reflector.reset

/-- What is queued is the Ranging Data of a subevent of the connection and the
configuration that the reflector has been configured for. -/
def QueuesOwn (call : Call) : Prop := ∀ body ∈ (reflector.next call).pending,
  body ∈ reflector.pending ∨ ∃ octets parameters result, call = .packet octets ∧
    leMeta octets = some parameters ∧ parseSubeventResult parameters = some result ∧
    body = (fromSubevent result 0).toBytes ∧ reflector.configId = some result.configId ∧
    result.connectionHandle = reflector.connectionHandle

def OneLink : Call → Prop
  | .packet octets => ∀ parameters result, leMeta octets = some parameters →
    parseSubeventResult parameters = some result → reflector.configId = some result.configId →
    result.connectionHandle = reflector.connectionHandle
  | _ => True

theorem queuesOwn {call : Call} (oneLink : reflector.OneLink call) : reflector.QueuesOwn call := by
  intro body inside
  cases call with
  | packet octets =>
    simp only [next, onPacket] at inside
    cases parsed : leMeta octets with
    | none => exact .inl (by simpa only [parsed] using inside)
    | some parameters =>
      simp only [parsed] at inside
      split at inside
      · split at inside <;> exact .inl inside
      · cases read : parseSubeventResult parameters with
        | none => exact .inl (by simpa only [read] using inside)
        | some result =>
          simp only [read] at inside
          split at inside
          · exact .inl inside
          · rename_i same
            have config := not_not.mp same
            exact .inr ⟨octets, parameters, result, rfl, parsed, read, List.mem_singleton.mp inside,
              config, oneLink _ _ parsed read config⟩
  | takeRangingData => exact .inl (List.mem_of_mem_tail inside)
  | reset => cases inside

end CsReflector

/-! ## The halves of a measurement -/

structure Procedure where
  connection : UInt16
  number : Nat
deriving DecidableEq

def Procedure.counter (procedure : Procedure) : UInt16 := UInt16.ofNat procedure.number

def CsInitiator.heard {C E : Type} (initiator : CsInitiator C E) (octets : Bytes) :
    Option SubeventResult :=
  ((leMeta octets).bind parseSubeventResult).filter
    (·.connectionHandle = initiator.connectionHandle)

inductive Call where
  | start (connectionHandle : UInt16)
  | stop
  | reset
  | packet (octets : Bytes) (source : Procedure)
  | rangingData (body : Bytes) (source : Procedure)

def Call.Sourced : Call → Prop
  | .packet octets source => ∀ parameters result, leMeta octets = some parameters →
    parseSubeventResult parameters = some result →
    result.connectionHandle = source.connection ∧ result.procedureCounter = source.counter
  | .rangingData body source => ∀ data, RangingData.parse body = some data →
    data.rangingCounter = source.counter &&& 0x0FFF
  | _ => True

structure Half where
  source : Procedure
  tones : List Tone

/-- An initiator, the halves it holds, those of its measurement, and the procedures that
it has counted. -/
structure CsRun (C E : Type) where
  initiator : CsInitiator C E
  own : Option Half := none
  remote : Option Half := none
  measured : Option (Half × Half) := none
  counted : List Procedure := []

namespace CsRun
variable {C E : Type} (estimator : Estimator C E) (run : CsRun C E)

def counting (halves : CsInitiator C E) : CsRun C E :=
  match halves.combination estimator, run.own, run.remote with
  | some _, some own, some remote =>
    { run with measured := some (own, remote), counted := own.source :: run.counted }
  | _, _, _ => run

def next : Call → CsRun C E
  | .start handle => { run with initiator := (run.initiator.start handle).2 }
  | .stop => { run with initiator := run.initiator.stop.2 }
  | .reset => { initiator := run.initiator.reset, counted := run.counted }
  | .packet octets source =>
    let after := { run with initiator := (run.initiator.onPacket estimator octets).2 }
    match run.initiator.heard octets with
    | none => after
    | some result => { after with own := some ⟨source, result.tones⟩ }.counting estimator
        { run.initiator with localHalf := some result }
  | .rangingData body source =>
    let after := { run with initiator := (run.initiator.onRangingData estimator body).2 }
    match RangingData.parse body with
    | none => after
    | some data => { after with remote := some ⟨source, data.tones⟩ }.counting estimator
        { run.initiator with remoteHalf := some data }

/-- What is read of an initiator is of one procedure of its connection, and no procedure
has been counted twice. -/
structure Paired : Prop where
  measurement : run.initiator.measurement.isSome → ∃ source : Procedure,
    run.measured = some (⟨source, run.initiator.localTones⟩, ⟨source, run.initiator.remoteTones⟩) ∧
    source.connection = run.initiator.connectionHandle ∧
    run.initiator.combinedTones =
      estimator.combine run.initiator.localTones run.initiator.remoteTones
  once : run.counted.Nodup
  completed : run.initiator.completed.toNat ≤ run.counted.length

/-- Two halves that meet are of one procedure of the connection if their numbers agree
modulo 4096, and it has not been counted, unless it is the one just measured. -/
def Fits (arriving held : Procedure) : Prop :=
  arriving.number % 4096 = held.number % 4096 →
    arriving = held ∧ held.connection = run.initiator.connectionHandle ∧
    (held ∈ run.counted → ∃ measurement, run.initiator.measurement = some measurement ∧
      measurement.counter = held.counter &&& 0x0FFF)

/-- No other connection is started while a measurement is stored, and the half that
arrives fits the one that is held. -/
def Meets : Call → Prop
  | .start handle => run.initiator.measurement.isSome → handle = run.initiator.connectionHandle
  | .packet octets source => ∀ result held, run.initiator.heard octets = some result →
    run.remote = some held → run.Fits source held.source
  | .rangingData body source => ∀ data held, RangingData.parse body = some data →
    run.own = some held → run.Fits source held.source
  | _ => True

structure Holds (halves : CsInitiator C E) : Prop where
  own : ∀ result, halves.localHalf = some result → ∃ half, run.own = some half ∧
    half.tones = result.tones ∧ result.procedureCounter = half.source.counter
  remote : ∀ data, halves.remoteHalf = some data → ∃ half, run.remote = some half ∧
    half.tones = data.tones ∧ data.rangingCounter = half.source.counter &&& 0x0FFF

structure Sound : Prop where
  holds : run.Holds run.initiator
  paired : run.Paired estimator

end CsRun

/-! ## One step -/

theorem congruent_of_counter {p q : Procedure}
    (same : p.counter &&& 0x0FFF = q.counter &&& 0x0FFF) : p.number % 4096 = q.number % 4096 := by
  have counters := congrArg UInt16.toNat same
  simp only [UInt16.toNat_and, Procedure.counter, UInt16.toNat_ofNat'] at counters
  have low (n : Nat) : n &&& (0x0FFF : UInt16).toNat = n % 4096 := low_bits n
  rw [low, low] at counters
  omega

theorem saturatingSucc_le (count : UInt32) : (saturatingSucc count).toNat ≤ count.toNat + 1 := by
  unfold saturatingSucc
  split
  · omega
  · rw [UInt32.toNat_add]
    exact Nat.mod_le _ _

namespace CsInitiator
variable {C E : Type} {estimator : Estimator C E} {initiator : CsInitiator C E}

theorem combination_eq_some {measurement : Measurement C E}
    (combines : initiator.combination estimator = some measurement) : ∃ own remote,
      initiator.localHalf = some own ∧ initiator.remoteHalf = some remote ∧
      own.procedureCounter &&& 0x0FFF = remote.rangingCounter ∧
      initiator.measurement.any (·.counter = own.procedureCounter &&& 0x0FFF) = false ∧
      measurement.counter = own.procedureCounter &&& 0x0FFF ∧
      measurement.localTones = own.tones ∧ measurement.remoteTones = remote.tones ∧
      measurement.combined = estimator.combine own.tones remote.tones := by
  obtain ⟨own, here, combines⟩ := Option.bind_eq_some_iff.mp combines
  obtain ⟨remote, there, combines⟩ := Option.bind_eq_some_iff.mp combines
  obtain ⟨_, fits, combines⟩ := Option.bind_eq_some_iff.mp combines
  obtain ⟨estimate, -, combines⟩ := Option.bind_eq_some_iff.mp combines
  cases combines
  rw [Option.guard_eq_some'] at fits
  exact ⟨own, remote, here, there, fits.1, Bool.not_eq_true _ ▸ fits.2, rfl, rfl, rfl, rfl⟩

theorem combineHalves_of_some {measurement : Measurement C E} {countMismatch : Bool}
    (combines : initiator.combination estimator = some measurement) :
    initiator.combineHalves estimator countMismatch = { initiator with
      measurement := some measurement, completed := saturatingSucc initiator.completed } := by
  obtain ⟨own, remote, here, there, same, -⟩ := combination_eq_some combines
  have together : initiator.apart = false := by simp [apart, here, there, same]
  rw [combineHalves, together, if_neg (by decide), combines]

theorem combineHalves_of_none {countMismatch : Bool}
    (combines : initiator.combination estimator = none) : ∃ mismatched,
    initiator.combineHalves estimator countMismatch = { initiator with mismatched } := by
  unfold combineHalves
  rw [combines]
  split
  · split <;> exact ⟨_, rfl⟩
  · exact ⟨_, rfl⟩

theorem head_of_parse {parameters : Bytes} {result : SubeventResult}
    (read : parseSubeventResult parameters = some result) :
    parameters.head? = some Subevent.subeventResult := by
  unfold parseSubeventResult at read
  split at read
  · obtain ⟨_, code, -⟩ := Option.bind_eq_some_iff.mp read
    rw [Option.guard_eq_some'] at code
    rw [List.head?_cons, code]
  · cases read

variable (initiator)

theorem goOn_state (status : Option UInt8) (next : CsState) (commands : List Bytes) :
    ∃ state, (initiator.goOn status next commands).2 = { initiator with state } := by
  unfold goOn
  split
  · exact ⟨_, rfl⟩
  · split <;> exact ⟨_, rfl⟩

theorem stop_state : ∃ state, initiator.stop.2 = { initiator with state } := by
  unfold stop
  split <;> exact ⟨_, rfl⟩

theorem onCommandStatus_state (parameters : Bytes) :
    ∃ state, initiator.onCommandStatus parameters = { initiator with state } := by
  unfold onCommandStatus
  split
  · split <;> exact ⟨_, rfl⟩
  · exact ⟨_, rfl⟩

theorem onPacket_cases (estimator : Estimator C E) (octets : Bytes) :
    (∃ result, initiator.heard octets = some result ∧ (initiator.onPacket estimator octets).2 =
      { initiator with localHalf := some result }.combineHalves estimator false) ∨
    initiator.heard octets = none ∧
      ∃ state, (initiator.onPacket estimator octets).2 = { initiator with state } := by
  unfold onPacket heard leMeta
  cases Hci.HciEvent.parseH4 octets with
  | none => exact .inr ⟨rfl, _, rfl⟩
  | some event =>
    cases event with
    | commandComplete header params =>
      refine .inr ⟨rfl, ?_⟩
      dsimp only
      split
      · exact goOn_state _ _ _ _
      · exact ⟨_, rfl⟩
    | other code parameters =>
      dsimp only
      by_cases status : code = 0x0F
      · rw [if_pos status, if_neg (status ▸ by decide)]
        exact .inr ⟨rfl, initiator.onCommandStatus_state parameters⟩
      · rw [if_neg status]
        by_cases lowEnergy : code = 0x3E
        · rw [if_pos lowEnergy, if_pos lowEnergy, Option.bind_some]
          unfold onLeMeta
          cases read : parseSubeventResult parameters with
          | none =>
            refine .inr ⟨rfl, ?_⟩
            dsimp only
            split
            · exact goOn_state _ _ _ _
            · split
              · exact goOn_state _ _ _ _
              · split
                · exact goOn_state _ _ _ _
                · exact ⟨_, rfl⟩
          | some result =>
            have other (code : UInt8) (state : CsState) (differs : Subevent.subeventResult ≠ code) :
                ¬ (parameters.head? = some code ∧ initiator.state = state) := by
              rw [head_of_parse read]
              exact fun both => differs (Option.some.inj both.1)
            dsimp only
            rw [if_neg (other _ .securing (by decide)), if_neg (other _ .configuring (by decide)),
              if_neg (other _ .enabling (by decide)), Option.filter_some]
            by_cases same : result.connectionHandle = initiator.connectionHandle
            · rw [if_pos same, decide_eq_true same]
              exact .inl ⟨result, rfl, rfl⟩
            · rw [if_neg same, decide_eq_false same]
              exact .inr ⟨rfl, _, rfl⟩
        · rw [if_neg lowEnergy, if_neg lowEnergy]
          exact .inr ⟨rfl, _, rfl⟩
    | _ => exact .inr ⟨rfl, _, rfl⟩

end CsInitiator

namespace CsRun
variable {C E : Type} {estimator : Estimator C E} {run : CsRun C E}

theorem settled (run : CsRun C E) (countMismatch : Bool) (holds : run.Holds run.initiator)
    (paired : run.Paired estimator) (fits : ∀ own remote, run.own = some own →
      run.remote = some remote → run.Fits own.source remote.source) :
    ({ run with initiator := run.initiator.combineHalves estimator countMismatch }.counting
      estimator run.initiator).Sound estimator := by
  cases combines : run.initiator.combination estimator with
  | none =>
    obtain ⟨mismatched, kept⟩ := CsInitiator.combineHalves_of_none combines
    rw [counting, combines, kept]
    exact ⟨⟨holds.own, holds.remote⟩, ⟨paired.measurement, paired.once, paired.completed⟩⟩
  | some measurement =>
    obtain ⟨own, remote, here, there, same, fresh, counter, tones, peers, sums⟩ :=
      CsInitiator.combination_eq_some combines
    obtain ⟨half, mine, ownTones, ownCounter⟩ := holds.own own here
    obtain ⟨other, theirs, remoteTones, remoteCounter⟩ := holds.remote remote there
    rw [ownCounter, remoteCounter] at same
    obtain ⟨one, link, once⟩ := fits half other mine theirs (congruent_of_counter same)
    have uncounted : other.source ∉ run.counted := by
      intro counted
      obtain ⟨stored, found, equal⟩ := once counted
      rw [found, Option.any_some, equal, ownCounter, one, decide_eq_true rfl] at fresh
      cases fresh
    have halves : half = ⟨other.source, measurement.localTones⟩ ∧
        other = ⟨other.source, measurement.remoteTones⟩ := by
      rw [tones, peers, ← ownTones, ← remoteTones, ← one]
      exact ⟨rfl, by rw [one]⟩
    rw [counting, combines, CsInitiator.combineHalves_of_some combines]
    simp only [mine, theirs]
    refine ⟨⟨mine ▸ holds.own, theirs ▸ holds.remote⟩,
      ⟨fun _ => ⟨other.source, ?_, link, ?_⟩, ?_, ?_⟩⟩
    · exact congrArg some (Prod.ext halves.1 halves.2)
    · show measurement.combined = estimator.combine measurement.localTones measurement.remoteTones
      rw [sums, tones, peers]
    · rw [one]
      exact List.nodup_cons.mpr ⟨uncounted, paired.once⟩
    · exact (saturatingSucc_le _).trans (Nat.succ_le_succ paired.completed)

theorem Sound.of_state (sound : run.Sound estimator) {after : CsInitiator C E} {state : CsState}
    (same : after = { run.initiator with state }) :
    { run with initiator := after }.Sound estimator := by
  subst same
  have ⟨holds, paired⟩ := sound
  exact ⟨⟨holds.own, holds.remote⟩, ⟨paired.measurement, paired.once, paired.completed⟩⟩

theorem next_sound (sound : run.Sound estimator) {call : Call} (sourced : call.Sourced)
    (meets : run.Meets call) : (run.next estimator call).Sound estimator := by
  have ⟨⟨own, remote⟩, paired⟩ := sound
  cases call with
  | start handle =>
    refine ⟨⟨own, remote⟩, ⟨?_, paired.once, paired.completed⟩⟩
    intro stored
    obtain ⟨source, measured, link, sums⟩ := paired.measurement stored
    exact ⟨source, measured, link.trans (meets stored).symm, sums⟩
  | stop =>
    obtain ⟨state, stops⟩ := run.initiator.stop_state
    exact sound.of_state stops
  | reset => exact ⟨⟨nofun, nofun⟩, ⟨nofun, paired.once, paired.completed⟩⟩
  | packet octets source =>
    rcases run.initiator.onPacket_cases estimator octets with
      ⟨result, found, after⟩ | ⟨unheard, state, after⟩
    · simp only [next, found, after]
      let before : CsRun C E := { run with
        initiator := { run.initiator with localHalf := some result }
        own := some ⟨source, result.tones⟩ }
      obtain ⟨half, link⟩ := Option.filter_eq_some_iff.mp found
      obtain ⟨parameters, heard, read⟩ := Option.bind_eq_some_iff.mp half
      have counter := (sourced parameters result heard read).2
      refine settled before false ⟨?_, remote⟩
        ⟨paired.measurement, paired.once, paired.completed⟩ ?_
      · rintro _ ⟨⟩
        exact ⟨_, rfl, rfl, counter⟩
      · rintro _ held ⟨⟩ theirs
        exact meets result held found theirs
    · simp only [next, unheard]
      exact sound.of_state after
  | rangingData body source =>
    simp only [next, CsInitiator.onRangingData]
    cases parsed : RangingData.parse body with
    | none => exact sound
    | some data =>
      let before : CsRun C E := { run with
        initiator := { run.initiator with remoteHalf := some data }
        remote := some ⟨source, data.tones⟩ }
      refine settled before true ⟨own, ?_⟩
        ⟨paired.measurement, paired.once, paired.completed⟩ ?_
      · rintro _ ⟨⟩
        exact ⟨_, rfl, rfl, sourced data parsed⟩
      · rintro mine _ held ⟨⟩ same
        obtain ⟨one, link, once⟩ := meets data mine parsed held same.symm
        exact ⟨one.symm, one ▸ link, one ▸ once⟩

/-- Along every run in which halves that meet fit, and every run of a reflector of one link,
measurements are paired and a reflector queues what is its own. -/
theorem paired_along (configId : UInt8) {calls : List Call} {reflected : List CsReflector.Call}
    (sourced : ∀ call ∈ calls, call.Sourced)
    (meets : Along (next estimator) Meets { initiator := { configId } } calls)
    (oneLink : Along CsReflector.next CsReflector.OneLink {} reflected) :
    Along (next estimator) (fun run call => (run.next estimator call).Paired estimator)
      { initiator := { configId } } calls ∧
    Along CsReflector.next CsReflector.QueuesOwn {} reflected := by
  constructor
  · have fresh : ({ initiator := { configId } } : CsRun C E).Sound estimator :=
      ⟨⟨nofun, nofun⟩, ⟨nofun, List.nodup_nil, Nat.le_refl _⟩⟩
    generalize ({ initiator := { configId } } : CsRun C E) = run at meets fresh
    induction calls generalizing run with
    | nil => trivial
    | cons call calls ih =>
      obtain ⟨head, tail⟩ := List.forall_mem_cons.mp sourced
      have sound := next_sound fresh head meets.1
      exact ⟨sound.paired, ih tail _ meets.2 sound⟩
  · exact @Along.mono _ _ _ _ _ (fun _ => True) _ _ (fun reflector _ _ => reflector.queuesOwn)
      (fun _ _ _ _ => trivial) trivial oneLink

/-- Three tones, as both ends report them. -/
def steps : Bytes := [2, 2, 5, 0, 1, 0, 0, 0, 2, 4, 5, 0, 1, 0, 0, 0, 2, 6, 5, 0, 1, 0, 0, 0]

def subevent : Bytes :=
  [0x04, 0x3E, 41, 0x31, 0x40, 0, 1, 0, 0, 0, 0, 0, 0, 0, 0, 0, 0, 0, 1, 3] ++ steps

/-- The first procedure of a link at the initiator's side, and Ranging Data of any other. -/
def meeting (number : Nat) : List Call := [.start 0x0040, .packet subevent ⟨0x0040, 0⟩,
  .rangingData ([0, 0x10, 0, 1, 0, 0, 0xFF, 0xFF, 0, 0, 0, 3] ++ steps) ⟨0x0040, number⟩]

def reflected : List CsReflector.Call :=
  [.packet [0x04, 0x3E, 13, 0x2F, 0, 0x40, 0, 1, 1, 2, 0xFF, 2, 20, 0, 3, 1], .packet subevent]

def threeChannels : Estimator UInt8 Unit where
  combine own remote := (own.map (·.channel)).filter (· ∈ remote.map (·.channel))
  estimate channels := if channels.length < 3 then none else some ()

theorem meeting_sourced {number : Nat} (wraps : UInt16.ofNat number &&& 0x0FFF = 0) :
    ∀ call ∈ meeting number, call.Sourced := by
  simp only [meeting, List.forall_mem_cons]
  refine ⟨trivial, ?_, ?_, nofun⟩
  · rintro parameters result ⟨⟩ ⟨⟩
    decide
  · rintro data ⟨⟩
    exact wraps.symm

theorem meeting_paired : Along (next threeChannels)
    (fun run call => (run.next threeChannels call).Paired threeChannels)
      { initiator := { configId := 1 } } (meeting 0) ∧
    Along CsReflector.next CsReflector.QueuesOwn {} reflected := by
  refine paired_along 1 (meeting_sourced rfl) ⟨nofun, nofun, ?_, trivial⟩ ⟨?_, ?_, trivial⟩
  · rintro data held ⟨⟩ ⟨⟩ -
    exact ⟨rfl, rfl, nofun⟩
  · rintro parameters result ⟨⟩ ⟨⟩
  · rintro parameters result ⟨⟩ ⟨⟩ -
    rfl

/-- 4096 procedures later the counters agree again. -/
theorem meeting_of_two_procedures : ¬ ∀ (C E : Type) (estimator : Estimator C E) configId calls,
    (∀ call ∈ calls, call.Sourced) → Along (next estimator)
      (fun run call => (run.next estimator call).Paired estimator)
      { initiator := { configId } } calls := by
  intro always
  obtain ⟨-, -, paired, -⟩ := always _ _ threeChannels 1 (meeting 4096) (meeting_sourced rfl)
  obtain ⟨source, measured, -⟩ := paired.measurement rfl
  obtain ⟨own, remote⟩ := Prod.mk.inj (Option.some.inj measured)
  cases own
  cases remote

end CsRun
end Simble.Cs
