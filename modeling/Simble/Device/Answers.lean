import Simble.Device.Central

/-! Which answer completes what: a central has one request outstanding, and
discovery and the operation in flight should go on with the answer to it alone. -/
namespace Simble.Device
open Simble.Lib Simble.Gatt Simble.Att List

def Outgoing.request : Outgoing → Option UInt8
  | .att _ (op :: _) => if isPeerRequest op then some op else none
  | .att _ [] | .command _ _ => none

def requests (sent : List Outgoing) : List UInt8 := sent.filterMap Outgoing.request

def Replies (request : UInt8) (att : Bytes) : Prop :=
  att.head? = some (request + 1) ∨ att.head? = some Opcode.errorRsp.byte ∧ att[1]? = some request

def CentralEvent.isResult : CentralEvent → Bool
  | .characteristicRead .. | .characteristicWrite .. | .subscriptionChanged ..
  | .operationFailed .. => true
  | .connectionStateChange .. | .mtuChanged _ | .servicesDiscovered _
  | .characteristicChanged .. => false

inductive Reports : Op → CentralEvent → Prop
  | read {target uuid handle value status} :
    Reports (.read target) (.characteristicRead uuid handle value status)
  | write {target value withResponse uuid handle status} :
    Reports (.write target value withResponse) (.characteristicWrite uuid handle status)
  | subscribe {target enable uuid handle enabled status} :
    Reports (.discoverDescriptors target enable) (.subscriptionChanged uuid handle enabled status)
  | failed {op uuid operation reason} : Reports op (.operationFailed uuid operation reason)

namespace Op

def queued : Op → Op
  | subscribe target enable => discoverDescriptors target enable
  | op => op

def request : Op → UInt8
  | read _ => Opcode.readReq.byte
  | write _ _ _ | subscribe _ _ => Opcode.writeReq.byte
  | discoverDescriptors _ _ => Opcode.findInformationReq.byte

end Op

inductive CentralCall where
  | queueRead (target : Target)
  | queueWrite (target : Target) (value : Bytes) (withResponse : Bool)
  | queueSubscribe (target : Target) (enable : Bool)
  | packet (h4Type : UInt8) (rest : Bytes)
  | pump
  | takeEvents

def CentralCall.op : CentralCall → Option Op
  | queueRead target => some (.read target)
  | queueWrite target value withResponse => some (.write target value withResponse)
  | queueSubscribe target enable => some (.discoverDescriptors target enable)
  | packet _ _ | pump | takeEvents => none

namespace LeCentral

def queue (central : LeCentral) (op : Op) : LeCentral :=
  { central with pending := central.pending ++ [op] }

def perform (central : LeCentral) : CentralCall → Rust (LeCentral × List Outgoing)
  | .queueRead target => .ok (central.queue (.read target), [])
  | .queueWrite target value withResponse =>
    .ok (central.queue (.write target value withResponse), [])
  | .queueSubscribe target enable => .ok (central.queue (.discoverDescriptors target enable), [])
  | .packet h4Type rest => central.onPacket (h4Type :: rest)
  | .pump => .ok central.pump
  | .takeEvents => .ok ({ central with events := [] }, [])

def awaited (central : LeCentral) : Option UInt8 :=
  match central.phase with
  | .exchangingMtu => some Opcode.exchangeMtuReq.byte
  | .discoveringServices => some Opcode.readByGroupTypeReq.byte
  | .discoveringCharacteristics _ => some Opcode.readByTypeReq.byte
  | .ready => central.inFlight.map fun sent => sent.1.request
  | _ => none

def flight (central : LeCentral) : List Op := (central.inFlight.map fun sent => sent.1.queued).toList

end LeCentral

structure Watched where
  central : LeCentral
  queued : List Op
  taken : List CentralEvent
  outstanding : Option UInt8

def Watched.results (watched : Watched) : List CentralEvent :=
  (watched.taken ++ watched.central.events).filter CentralEvent.isResult

structure CentralStep where
  call : CentralCall
  sent : List Outgoing

section Claims
variable (watched : Watched)

def Answered : CentralCall → Prop
  | .packet h4Type rest => h4Type = 0x02 ∧ ∃ att request,
    (watched.central.heard rest).1 =
      some (watched.central.client.connectionHandle, L2cap.attCid, att) ∧
    watched.outstanding = some request ∧ Replies request att
  | _ => False

def Lost : CentralCall → Prop
  | .packet h4Type rest => h4Type = 0x04 ∧
    ∃ status handle reason, HciEvent.parse rest = some (.disconnectionComplete status handle reason)
  | _ => False

def Joins : CentralCall → Prop
  | .packet h4Type rest => h4Type = 0x04 ∧
    ∃ status handle, HciEvent.parse rest = some (.leConnectionComplete status handle)
  | _ => False

def CentralPhase.Discovers : CentralPhase → Prop
  | .exchangingMtu | .discoveringServices | .discoveringCharacteristics _ => True
  | _ => False

structure Watches (before : Watched) (step : CentralStep) (after : Watched) : Prop where
  performed : before.central.perform step.call = .ok (after.central, step.sent)
  queued : after.queued = before.queued ++ step.call.op.toList
  taken : after.taken = match step.call with
    | .takeEvents => before.taken ++ before.central.events
    | _ => before.taken
  sent : ∀ request, (requests step.sent).getLast? = some request → after.outstanding = some request
  settled : requests step.sent = [] → Answered before step.call ∨ Lost step.call →
    after.outstanding = none
  kept : requests step.sent = [] → ¬ (Answered before step.call ∨ Lost step.call) →
    after.outstanding = before.outstanding

/-- The operation in flight is over, or goes on with its next request. -/
def Finishes (before after : Watched) : Prop :=
  before.central.inFlight.isSome ∧
    (after.central.inFlight ≠ before.central.inFlight ∨ after.results ≠ before.results)

/-- A discovery phase goes on. -/
def Advances (before : Watched) (step : CentralStep) (after : Watched) : Prop :=
  before.central.phase.Discovers ∧ after.central.phase ≠ .disconnected ∧
    (after.central.phase ≠ before.central.phase ∨ after.central.client ≠ before.central.client ∨
      requests step.sent ≠ [])

structure Completes (before : Watched) (step : CentralStep) (after : Watched) : Prop where
  one : (requests step.sent).length ≤ 1 ∧ (requests step.sent ≠ [] →
    before.outstanding = none ∨ Answered before step.call)
  finishes : Finishes before after → Answered before step.call ∨ Lost step.call
  advances : Advances before step after → Answered before step.call
  reported : ∃ done, List.Forall₂ Reports done after.results ∧
    after.queued = done ++ after.central.flight ++ after.central.pending
  lost : Lost step.call → after.central.inFlight = none

def CentralPhase.Expects : CentralPhase → UInt8 → Prop
  | .exchangingMtu, _ => True
  | .discoveringServices, op => op = Opcode.errorRsp.byte ∨ op = Opcode.readByGroupTypeRsp.byte
  | .discoveringCharacteristics _, op => op = Opcode.errorRsp.byte ∨ op = Opcode.readByTypeRsp.byte
  | _, _ => False

def Acts (central : LeCentral) : Bytes → Prop
  | [] => False
  | op :: rest => ¬ LeCentral.isValue op (op :: rest) ∧ isPeerRequest op = false ∧
    ¬ (op = Opcode.writeCmd.byte ∨ op = signedWriteCmd) ∧
    (central.phase.Expects op ∨ central.phase = .ready ∧ central.inFlight.isSome)

/-- What the central takes for an answer is one, and a link comes and goes with
nothing under way. -/
structure Attends (before : Watched) (step : CentralStep) : Prop where
  answers : ∀ rest handle cid att, step.call = .packet 0x02 rest →
    (before.central.heard rest).1 = some (handle, cid, att) → Acts before.central att →
    Answered before step.call
  lost : Lost step.call → before.central.inFlight = none
  joins : Joins step.call → before.outstanding = none

end Claims

/-- The phase and the operation in flight tell which request is outstanding, and
every operation is done, in flight or pending. -/
structure Coupled (watched : Watched) : Prop where
  flying : watched.central.inFlight.isSome → watched.central.phase = .ready
  awaits : watched.outstanding = watched.central.awaited
  plain : ∀ op ∈ watched.central.pending, op.queued = op
  reported : ∃ done, List.Forall₂ Reports done watched.results ∧
    watched.queued = done ++ watched.central.flight ++ watched.central.pending


open LeCentral CentralEvent

namespace LeCentral

/-- What serving the queue does: operations are done one after the other, each
with its result, and the others stay in order. -/
structure Serves (before after : LeCentral) (sent : List Outgoing) : Prop where
  phase : after.phase = before.phase
  results : ∃ done new, after.events = before.events ++ new ∧ (∀ event ∈ new, event.isResult = true) ∧
    List.Forall₂ Reports done new ∧
    before.flight ++ before.pending = done ++ after.flight ++ after.pending
  asked : requests sent = (after.inFlight.map fun flying => flying.1.request).toList

inductive Takes (op : Op) (before after : LeCentral) (sent : List Outgoing) : Prop
  | flies {next handle} : after.inFlight = some (next, handle) → next.queued = op.queued →
    requests sent = [next.request] → after.events = before.events → Takes op before after sent
  | ends {event} : after.inFlight = none → requests sent = [] →
    after.events = before.events ++ [event] → event.isResult = true → Reports op.queued event →
    Takes op before after sent

/-- Starting an operation touches nothing else. -/
structure Keeps (before after : LeCentral) : Prop where
  phase : after.phase = before.phase
  client : after.client = before.client
  pending : after.pending = before.pending

variable {central : LeCentral}

theorem fail_spec (idle : central.inFlight = none) (op : Op) (target : Target)
    (operation reason : String) :
    Takes op central (central.fail target operation reason) [] ∧
      Keeps central (central.fail target operation reason) := by
  refine ⟨?_, rfl, rfl, rfl⟩
  unfold fail
  split
  · exact .ends idle rfl rfl rfl .failed
  · exact .ends idle rfl rfl rfl .failed
  · exact .ends idle rfl rfl rfl .failed

theorem startSubscribe_spec (idle : central.inFlight = none) (target : Target) (enable : Bool) :
    Takes (.subscribe target enable) central (central.startSubscribe target enable).1
      (central.startSubscribe target enable).2 ∧
    Keeps central (central.startSubscribe target enable).1 := by
  unfold startSubscribe
  split
  · exact fail_spec idle _ _ _ _
  · split
    · exact fail_spec idle _ _ _ _
    · exact ⟨.flies rfl rfl rfl rfl, rfl, rfl, rfl⟩

theorem start_spec (idle : central.inFlight = none) (op : Op) :
    Takes op central (central.start op).1 (central.start op).2 ∧
    Keeps central (central.start op).1 := by
  unfold start
  split
  · split
    · exact fail_spec idle _ _ _ _
    · exact ⟨.flies rfl rfl rfl rfl, rfl, rfl, rfl⟩
  · split
    · exact fail_spec idle _ _ _ _
    · split
      · exact ⟨.flies rfl rfl rfl rfl, rfl, rfl, rfl⟩
      · exact ⟨.ends idle rfl rfl rfl .write, rfl, rfl, rfl⟩
  · exact startSubscribe_spec idle _ _
  · rename_i target enable
    have subscribes := startSubscribe_spec idle target enable
    split
    · exact fail_spec idle _ _ _ _
    · split
      · refine ⟨?_, subscribes.2⟩
        cases subscribes.1 with
        | flies flies same asked kept => exact .flies flies same asked kept
        | ends idle quiet raised result reports => exact .ends idle quiet raised result reports
      · split
        · exact fail_spec idle _ _ _ _
        · exact ⟨.flies rfl rfl rfl rfl, rfl, rfl, rfl⟩

theorem requests_append (first second : List Outgoing) :
    requests (first ++ second) = requests first ++ requests second := filterMap_append

theorem pumpFrom_flying (flying : central.inFlight.isSome) (ops : List Op) :
    pumpFrom ops central = ({ central with pending := ops }, []) := by
  cases ops with
  | nil => rfl
  | cons op rest =>
    unfold pumpFrom
    rw [if_pos flying]

theorem flight_of_some {next : Op} {handle : UInt16} (flies : central.inFlight = some (next, handle)) :
    central.flight = [next.queued] := by
  unfold flight
  rw [flies]
  rfl

theorem flight_of_none (idle : central.inFlight = none) : central.flight = [] := by
  unfold flight
  rw [idle]
  rfl

/-- The operations that are pumped have their results, up to the one that is
left in flight. The induction is on the queue. -/
theorem pumpFrom_spec (ops : List Op) (idle : central.inFlight = none)
    (plain : ∀ op ∈ ops, op.queued = op) :
    Serves { central with pending := ops } (pumpFrom ops central).1 (pumpFrom ops central).2 ∧
    (pumpFrom ops central).1.client = central.client := by
  induction ops generalizing central with
  | nil =>
    unfold pumpFrom
    refine ⟨⟨rfl, ⟨[], [], (append_nil _).symm, nofun, .nil, rfl⟩, ?_⟩, rfl⟩
    rw [idle]
    rfl
  | cons op rest ih =>
    obtain ⟨takes, keeps⟩ := start_spec idle op
    have same := plain op mem_cons_self
    have others : ∀ op ∈ rest, op.queued = op :=
      fun op listed => plain op (mem_cons_of_mem _ listed)
    have before : LeCentral.flight { central with pending := op :: rest } = [] := flight_of_none idle
    unfold pumpFrom
    rw [if_neg (by simp [idle])]
    dsimp only
    cases takes with
    | @flies next handle flies queued asked kept =>
      rw [pumpFrom_flying (by simp [flies])]
      refine ⟨⟨keeps.phase, ⟨[], [], ?_, nofun, .nil, ?_⟩, ?_⟩, ?_⟩
      · rw [append_nil]
        exact kept
      · have after : LeCentral.flight { (central.start op).1 with pending := rest } =
            [next.queued] := flight_of_some flies
        rw [before, after, queued, same]
        rfl
      · rw [append_nil, asked]
        rw [flies]
        rfl
      · exact keeps.client
    | @ends event idle quiet raised result reports =>
      obtain ⟨⟨phase, ⟨done, new, events, results, reported, whole⟩, asked⟩, client⟩ := ih idle others
      refine ⟨⟨phase.trans keeps.phase, ⟨op :: done, event :: new, ?_, ?_, .cons ?_ reported, ?_⟩, ?_⟩, ?_⟩
      · rw [events]
        rw [raised, append_assoc]
        rfl
      · intro event listed
        rcases List.mem_cons.mp listed with rfl | listed
        · exact result
        · exact results event listed
      · rwa [same] at reports
      · have none : LeCentral.flight { (central.start op).1 with pending := rest } = [] :=
          flight_of_none idle
        rw [none, nil_append] at whole
        rw [before]
        exact congrArg (op :: ·) whole
      · rw [requests_append, quiet, nil_append]
        exact asked
      · exact client.trans keeps.client

theorem Takes.pump {op : Op} {taken : LeCentral} {sent : List Outgoing}
    (takes : Takes op central taken sent) (flight : central.flight = [op.queued])
    (phase : taken.phase = central.phase) (ready : central.phase = .ready)
    (pending : taken.pending = central.pending)
    (plain : ∀ op ∈ central.pending, op.queued = op) :
    Serves central taken.pump.1 (sent ++ taken.pump.2) := by
  unfold LeCentral.pump
  rw [if_neg (not_not.mpr (phase.trans ready))]
  cases takes with
  | @flies next handle flies queued asked kept =>
    rw [pumpFrom_flying (by simp [flies])]
    refine ⟨phase, ⟨[], [], ?_, nofun, .nil, ?_⟩, ?_⟩
    · rw [append_nil]
      exact kept
    · have after : LeCentral.flight { taken with pending := taken.pending } = [next.queued] :=
        flight_of_some flies
      rw [after, flight, queued, pending]
      rfl
    · rw [append_nil, asked]
      rw [flies]
      rfl
  | ends idle quiet raised result reports =>
    rw [← pending] at plain
    obtain ⟨⟨still, ⟨done, new, events, results, reported, whole⟩, asked⟩, -⟩ :=
      pumpFrom_spec taken.pending idle plain
    refine ⟨still.trans phase, ⟨op.queued :: done, _ :: new, ?_, ?_, .cons reports reported, ?_⟩, ?_⟩
    · rw [events]
      rw [raised, append_assoc]
      rfl
    · intro event listed
      rcases List.mem_cons.mp listed with rfl | listed
      · exact result
      · exact results event listed
    · have none : LeCentral.flight { taken with pending := taken.pending } = [] :=
        flight_of_none idle
      rw [none, nil_append] at whole
      rw [flight, ← pending]
      exact congrArg (op.queued :: ·) whole
    · rw [requests_append, quiet, nil_append]
      exact asked

theorem pump_spec (plain : ∀ op ∈ central.pending, op.queued = op) :
    central.phase = .ready ∧ central.inFlight = none ∧ Serves central central.pump.1 central.pump.2 ∨
    central.pump = (central, []) := by
  by_cases ready : central.phase = .ready
  · cases flying : central.inFlight with
    | none =>
      refine .inl ⟨ready, rfl, ?_⟩
      unfold pump
      rw [if_neg (not_not.mpr ready)]
      exact (pumpFrom_spec central.pending flying plain).1
    | some sent =>
      refine .inr ?_
      unfold pump
      rw [if_neg (not_not.mpr ready), pumpFrom_flying (by simp [flying])]
  · refine .inr ?_
    unfold pump
    rw [if_pos ready]

theorem recordDescriptors_client (target : Target) (att : Bytes) :
    ∃ client, central.recordDescriptors target att = { central with client } := by
  unfold recordDescriptors
  split
  · split <;> exact ⟨_, rfl⟩
  · exact ⟨_, rfl⟩

theorem completeOperation_spec {op : Op} {handle : UInt16} (flies : central.inFlight = some (op, handle))
    (att : Bytes) (isError : Bool) :
    Takes op central (central.completeOperation att isError).1
      (central.completeOperation att isError).2 ∧
    (central.completeOperation att isError).1.phase = central.phase ∧
    (central.completeOperation att isError).1.pending = central.pending := by
  unfold completeOperation
  rw [flies]
  cases op with
  | read target =>
    dsimp only
    repeat' split
    all_goals exact ⟨.ends rfl rfl rfl rfl .read, rfl, rfl⟩
  | write target value withResponse => exact ⟨.ends rfl rfl rfl rfl .write, rfl, rfl⟩
  | subscribe target enable =>
    dsimp only
    repeat' split
    all_goals exact ⟨.ends rfl rfl rfl rfl .subscribe, rfl, rfl⟩
  | discoverDescriptors target enable =>
    dsimp only
    obtain ⟨client, recorded⟩ : ∃ client, (if isError = false ∧
        att.head?.getD 0 = Opcode.findInformationRsp.byte then
          recordDescriptors { central with inFlight := none } target att
        else { central with inFlight := none }) = { central with inFlight := none, client } := by
      split
      · exact recordDescriptors_client _ _
      · exact ⟨_, rfl⟩
    rw [recorded]
    have spec := startSubscribe_spec (show inFlight { central with
      inFlight := none, client } = none from rfl) target enable
    refine ⟨?_, spec.2.phase, spec.2.pending⟩
    cases spec.1 with
    | flies flies same asked kept => exact .flies flies same asked kept
    | ends idle quiet raised result reports => exact .ends idle quiet raised result reports

/-- Discovery that goes on with a request, or is over. -/
structure Moves (before after : LeCentral) (sent : List Outgoing) : Prop where
  inFlight : after.inFlight = before.inFlight
  pending : after.pending = before.pending
  events : after.events.filter CentralEvent.isResult = before.events.filter CentralEvent.isResult
  asked : after.phase ≠ .ready → requests sent = after.awaited.toList
  quiet : after.phase = .ready → requests sent = []

theorem finishDiscovery_moves : Moves central central.finishDiscovery [] := by
  refine ⟨rfl, rfl, ?_, fun differs => absurd rfl differs, fun _ => rfl⟩
  exact (filter_append _ _).trans (append_nil _)

theorem startCharacteristicDiscovery_moves (central : LeCentral) :
    Moves central central.startCharacteristicDiscovery.1 central.startCharacteristicDiscovery.2 := by
  unfold startCharacteristicDiscovery
  split
  · exact finishDiscovery_moves
  · exact ⟨rfl, rfl, rfl, fun _ => rfl, nofun⟩

theorem nextCharacteristicService_moves (central : LeCentral) (index : Nat) :
    Moves central (central.nextCharacteristicService index).1
      (central.nextCharacteristicService index).2 := by
  unfold nextCharacteristicService
  split
  · exact ⟨rfl, rfl, rfl, fun _ => rfl, nofun⟩
  · exact finishDiscovery_moves

theorem onServices_moves (still : central.phase = .discoveringServices) (att : Bytes) :
    Moves central (central.onServices att).1 (central.onServices att).2 := by
  unfold onServices
  dsimp only
  split
  · refine ⟨rfl, rfl, rfl, fun _ => ?_, fun ready => ?_⟩
    · rw [still]
      rfl
    · exact absurd (still.symm.trans ready) nofun
  · have moves := startCharacteristicDiscovery_moves
      { central with client := central.client.onDiscoverServicesResponse att }
    exact ⟨moves.inFlight, moves.pending, moves.events, moves.asked, moves.quiet⟩

theorem onCharacteristics_moves {index : Nat} {att : Bytes} {after : LeCentral} {sent : List Outgoing}
    (still : central.phase = .discoveringCharacteristics index)
    (heard : central.onCharacteristics index att = .ok (after, sent)) : Moves central after sent := by
  obtain ⟨service, -, heard⟩ := Rust.bind_eq_ok.mp heard
  obtain ⟨found, -, heard⟩ := Rust.bind_eq_ok.mp heard
  dsimp only at heard
  split at heard
  · cases heard
    refine ⟨rfl, rfl, rfl, fun _ => ?_, fun ready => ?_⟩
    · unfold awaited
      rw [still]
      rfl
    · exact absurd (still.symm.trans ready) nofun
  · obtain ⟨rfl, rfl⟩ := Prod.mk.inj (Except.ok.inj heard)
    have moves := nextCharacteristicService_moves { central with
      client := central.client.onDiscoverCharacteristicsResponse service.uuid att } index
    exact ⟨moves.inFlight, moves.pending, moves.events, moves.asked, moves.quiet⟩

/-- In a discovery phase the central moves on with what it takes for an answer,
and does nothing with anything else. -/
theorem advance_discovers {op : UInt8} {att : Bytes} {after : LeCentral} {sent : List Outgoing}
    (discovers : central.phase.Discovers) (advanced : central.advance op att = .ok (after, sent)) :
    central.phase.Expects op ∧ Moves central after sent ∨
    ¬ central.phase.Expects op ∧ after = central ∧ sent = [] := by
  unfold advance at advanced
  cases phase : central.phase with
  | exchangingMtu =>
    rw [phase] at advanced
    obtain ⟨rfl, rfl⟩ := Prod.mk.inj (Except.ok.inj advanced)
    refine .inl ⟨trivial, rfl, rfl, ?_, fun _ => rfl, nofun⟩
    exact (filter_append _ _).trans (append_nil _)
  | discoveringServices =>
    rw [phase] at advanced
    dsimp only at advanced
    split at advanced
    · rename_i isError
      obtain ⟨rfl, rfl⟩ := Prod.mk.inj (Except.ok.inj advanced)
      exact .inl ⟨.inl (of_decide_eq_true isError), startCharacteristicDiscovery_moves _⟩
    · rename_i noError
      split at advanced
      · rename_i response
        obtain ⟨rfl, rfl⟩ := Prod.mk.inj (Except.ok.inj advanced)
        exact .inl ⟨.inr response, onServices_moves phase att⟩
      · rename_i noResponse
        obtain ⟨rfl, rfl⟩ := Prod.mk.inj (Except.ok.inj advanced)
        refine .inr ⟨?_, rfl, rfl⟩
        rintro (isError | response)
        · exact noError (decide_eq_true isError)
        · exact noResponse response
  | discoveringCharacteristics index =>
    rw [phase] at advanced
    dsimp only at advanced
    split at advanced
    · rename_i isError
      obtain ⟨rfl, rfl⟩ := Prod.mk.inj (Except.ok.inj advanced)
      exact .inl ⟨.inl (of_decide_eq_true isError), nextCharacteristicService_moves _ index⟩
    · rename_i noError
      split at advanced
      · rename_i response
        exact .inl ⟨.inr response, onCharacteristics_moves phase advanced⟩
      · rename_i noResponse
        obtain ⟨rfl, rfl⟩ := Prod.mk.inj (Except.ok.inj advanced)
        refine .inr ⟨?_, rfl, rfl⟩
        rintro (isError | response)
        · exact noError (decide_eq_true isError)
        · exact noResponse response
  | idle | initializing | scanning | connecting | ready | disconnected =>
    rw [phase] at discovers
    exact discovers.elim

def Delivers (before after : LeCentral) : Prop :=
  ∃ done new, after.events.filter CentralEvent.isResult =
      before.events.filter CentralEvent.isResult ++ new ∧ List.Forall₂ Reports done new ∧
    before.flight ++ before.pending = done ++ after.flight ++ after.pending

theorem Delivers.of_same {before after : LeCentral} (inFlight : after.inFlight = before.inFlight)
    (pending : after.pending = before.pending) (events : after.events.filter isResult =
      before.events.filter isResult) : Delivers before after := by
  refine ⟨[], [], ?_, .nil, ?_⟩
  · rw [events, append_nil]
  · unfold flight
    rw [inFlight, pending]
    rfl

theorem Serves.delivers {before after : LeCentral} {sent : List Outgoing}
    (serves : Serves before after sent) : Delivers before after := by
  obtain ⟨done, new, events, results, reported, whole⟩ := serves.results
  refine ⟨done, new, ?_, reported, whole⟩
  rw [events, filter_append, List.filter_eq_self.mpr results]

theorem Delivers.after {before middle after : LeCentral} (delivers : Delivers middle after)
    (inFlight : middle.inFlight = before.inFlight) (pending : middle.pending = before.pending)
    (events : middle.events.filter isResult =
      before.events.filter isResult) : Delivers before after := by
  obtain ⟨done, new, results, reported, whole⟩ := delivers
  refine ⟨done, new, results.trans (by rw [events]), reported, ?_⟩
  unfold flight at whole ⊢
  rw [← inFlight, ← pending]
  exact whole

theorem Serves.asks {before after : LeCentral} {sent : List Outgoing}
    (serves : Serves before after sent) (ready : before.phase = .ready) :
    requests sent = after.awaited.toList := by
  rw [serves.asked]
  unfold awaited
  rw [serves.phase, ready]

end LeCentral

/-- What a call that is not one of the host's makes of the central. -/
structure Outcome (before : Watched) (step : CentralStep) (after : LeCentral) : Prop where
  delivers : LeCentral.Delivers before.central after
  flying : after.inFlight.isSome → after.phase = .ready
  asked : requests step.sent = after.awaited.toList ∧
      (before.outstanding = none ∨ Answered before step.call ∨
        Lost step.call ∧ requests step.sent = []) ∨
    requests step.sent = [] ∧ after.awaited = before.central.awaited ∧
      ¬ Answered before step.call ∧ ¬ Lost step.call
  finishes : before.central.inFlight.isSome → after.inFlight ≠ before.central.inFlight ∨
    after.events.filter CentralEvent.isResult ≠ before.central.events.filter CentralEvent.isResult →
    Answered before step.call ∨ Lost step.call
  advances : before.central.phase.Discovers → after.phase ≠ .disconnected →
    after.phase ≠ before.central.phase ∨ after.client ≠ before.central.client ∨
      requests step.sent ≠ [] → Answered before step.call
  lost : Lost step.call → after.inFlight = none

theorem Op.queued_queued (op : Op) : op.queued.queued = op.queued := by
  cases op <;> rfl

namespace LeCentral
variable {central after : LeCentral} {sent : List Outgoing}

/-- Nothing that matters here is touched. -/
structure Same (before after : LeCentral) : Prop where
  phase : after.phase = before.phase
  client : after.client = before.client
  inFlight : after.inFlight = before.inFlight
  pending : after.pending = before.pending
  events : after.events.filter CentralEvent.isResult = before.events.filter CentralEvent.isResult

inductive Dispatched (before : LeCentral) (att : Bytes) (after : LeCentral) (sent : List Outgoing) :
    Prop
  | quiet : Same before after → requests sent = [] → ¬ Acts before att →
    Dispatched before att after sent
  | takes {op handle} : Acts before att → before.phase = .ready →
    before.inFlight = some (op, handle) → Takes op before after sent → after.phase = before.phase →
    after.pending = before.pending → Dispatched before att after sent
  | moves : Acts before att → before.phase.Discovers → Moves before after sent →
    Dispatched before att after sent

theorem onValue_quiet (central : LeCentral) (op : UInt8) (rest : Bytes) :
    Same central (central.onValue op rest).1 ∧ requests (central.onValue op rest).2 = [] := by
  unfold onValue
  refine ⟨⟨rfl, rfl, rfl, rfl, (filter_append _ _).trans (append_nil _)⟩, ?_⟩
  split <;> rfl

theorem advance_dispatched {op : UInt8} {rest : Bytes}
    (plain : ¬ isValue op (op :: rest) ∧ isPeerRequest op = false ∧
      ¬ (op = Opcode.writeCmd.byte ∨ op = signedWriteCmd))
    (advanced : central.advance op (op :: rest) = .ok (after, sent)) :
    Dispatched central (op :: rest) after sent := by
  by_cases discovers : central.phase.Discovers
  · rcases advance_discovers discovers advanced with ⟨expects, moves⟩ | ⟨unexpected, rfl, rfl⟩
    · exact .moves ⟨plain.1, plain.2.1, plain.2.2, .inl expects⟩ discovers moves
    · refine .quiet ⟨rfl, rfl, rfl, rfl, rfl⟩ rfl ?_
      rintro ⟨-, -, -, expects | ⟨ready, -⟩⟩
      · exact unexpected expects
      · rw [ready] at discovers
        exact discovers
  · have out : central.phase = .ready → central.completeOperation (op :: rest)
        (op = Opcode.errorRsp.byte) = (after, sent) := by
      intro ready
      unfold advance at advanced
      rw [ready] at advanced
      exact Except.ok.inj advanced
    have nothing (elsewhere : central.phase ≠ .ready) : after = central ∧ sent = [] := by
      unfold advance at advanced
      cases phase : central.phase <;> rw [phase] at advanced discovers elsewhere
      case ready => exact absurd rfl elsewhere
      case exchangingMtu | discoveringServices | discoveringCharacteristics =>
        exact absurd trivial discovers
      all_goals
        obtain ⟨rfl, rfl⟩ := Prod.mk.inj (Except.ok.inj advanced)
        exact ⟨rfl, rfl⟩
    have unexpected : ¬ central.phase.Expects op := by
      cases phase : central.phase <;> rw [phase] at discovers <;> first | exact id | exact absurd trivial discovers
    by_cases ready : central.phase = .ready
    · have done := out ready
      cases flying : central.inFlight with
      | none =>
        unfold completeOperation at done
        rw [flying] at done
        obtain ⟨rfl, rfl⟩ := Prod.mk.inj done
        refine .quiet ⟨rfl, rfl, rfl, rfl, rfl⟩ rfl ?_
        rintro ⟨-, -, -, expects | ⟨-, some⟩⟩
        · exact unexpected expects
        · rw [flying] at some
          contradiction
      | some flying' =>
        have spec := completeOperation_spec (show central.inFlight = some (flying'.1, flying'.2) from
          flying) (op :: rest) (op = Opcode.errorRsp.byte)
        rw [done] at spec
        obtain ⟨takes, still, waiting⟩ := spec
        refine .takes ⟨plain.1, plain.2.1, plain.2.2, .inr ⟨ready, ?_⟩⟩ ready flying takes still waiting
        rw [flying]
        rfl
    · obtain ⟨rfl, rfl⟩ := nothing ready
      refine .quiet ⟨rfl, rfl, rfl, rfl, rfl⟩ rfl ?_
      rintro ⟨-, -, -, expects | ⟨now, -⟩⟩
      · exact unexpected expects
      · exact ready now

theorem dispatchAtt_dispatched {att : Bytes} (dispatched : central.dispatchAtt att = .ok (after, sent)) :
    Dispatched central att after sent := by
  cases att with
  | nil =>
    obtain ⟨rfl, rfl⟩ := Prod.mk.inj (Except.ok.inj dispatched)
    exact .quiet ⟨rfl, rfl, rfl, rfl, rfl⟩ rfl id
  | cons op rest =>
    unfold dispatchAtt at dispatched
    dsimp only at dispatched
    split at dispatched
    · rename_i value
      obtain ⟨rfl, rfl⟩ := Prod.mk.inj (Except.ok.inj dispatched)
      obtain ⟨same, silent⟩ := onValue_quiet central op rest
      exact .quiet same silent fun acts => acts.1 value
    · rename_i noValue
      split at dispatched
      · rename_i request
        obtain ⟨rfl, rfl⟩ := Prod.mk.inj (Except.ok.inj dispatched)
        refine .quiet ⟨rfl, rfl, rfl, rfl, rfl⟩ rfl fun acts => ?_
        exact absurd (acts.2.1.symm.trans request) Bool.false_ne_true
      · rename_i noRequest
        split at dispatched
        · rename_i command
          obtain ⟨rfl, rfl⟩ := Prod.mk.inj (Except.ok.inj dispatched)
          exact .quiet ⟨rfl, rfl, rfl, rfl, rfl⟩ rfl fun acts => acts.2.2.1 command
        · rename_i noCommand
          exact advance_dispatched ⟨noValue, Bool.eq_false_iff.mpr noRequest, noCommand⟩ dispatched

end LeCentral

section Outcomes
variable {before after : Watched} {step : CentralStep}

section Coupled
variable (coupled : Coupled before)
include coupled

theorem plain_flight :
    ∀ op ∈ before.central.flight ++ before.central.pending, op.queued = op := by
  intro op listed
  rcases List.mem_append.mp listed with flying | waiting
  · obtain ⟨sent, -, rfl⟩ := Option.map_eq_some_iff.mp (Option.mem_toList.mp flying)
    exact sent.1.queued_queued
  · exact coupled.plain op waiting

theorem Outcome.settles (watches : Watches before step after)
    (outcome : Outcome before step after.central) (quiet : step.call.op = none)
    (taken : after.taken = before.taken) : Coupled after ∧ Completes before step after := by
  obtain ⟨done, new, events, reported, whole⟩ := outcome.delivers
  have results : after.results = before.results ++ new := by
    unfold Watched.results
    rw [taken, filter_append, events, filter_append, append_assoc]
  have queued : after.queued = before.queued := by
    rw [watches.queued, quiet]
    exact append_nil _
  have all : ∃ done, List.Forall₂ Reports done after.results ∧
      after.queued = done ++ after.central.flight ++ after.central.pending := by
    obtain ⟨earlier, matched, split⟩ := coupled.reported
    refine ⟨earlier ++ done, ?_, ?_⟩
    · rw [results]
      exact rel_append matched reported
    · rw [queued, split, append_assoc, whole]
      simp only [append_assoc]
  have awaits : after.outstanding = after.central.awaited := by
    rcases outcome.asked with ⟨asked, free⟩ | ⟨none, same, unanswered, kept⟩
    · cases next : after.central.awaited with
      | none =>
        have silent : requests step.sent = [] := by rw [asked, next]; rfl
        by_cases settled : Answered before step.call ∨ Lost step.call
        · exact watches.settled silent settled
        · rw [watches.kept silent settled]
          rcases free with free | answered | lost
          · exact free
          · exact absurd (.inl answered) settled
          · exact absurd (.inr lost.1) settled
      | some request =>
        apply watches.sent request
        rw [asked, next]
        rfl
    · rw [watches.kept none (not_or.mpr ⟨unanswered, kept⟩), same]
      exact coupled.awaits
  have plain : ∀ op ∈ after.central.pending, op.queued = op := by
    intro op waiting
    apply plain_flight coupled
    rw [whole]
    exact mem_append_right _ waiting
  refine ⟨⟨outcome.flying, awaits, plain, all⟩, ?_⟩
  refine ⟨⟨?_, ?_⟩, ?_, ?_, all, outcome.lost⟩
  · rcases outcome.asked with ⟨asked, -⟩ | ⟨none, -⟩
    · rw [asked]
      cases after.central.awaited <;> simp
    · rw [none]
      exact Nat.zero_le _
  · intro some
    rcases outcome.asked with ⟨-, free | answered | lost⟩ | ⟨none, -⟩
    · exact .inl free
    · exact .inr answered
    · exact absurd lost.2 some
    · exact absurd none some
  · rintro ⟨flying, changed⟩
    refine outcome.finishes flying (changed.imp id ?_)
    intro differs same
    apply differs
    rw [results]
    have empty : new = [] := by
      rw [events] at same
      exact List.append_right_eq_self.mp same
    rw [empty, append_nil]
  · rintro ⟨discovers, stays, moved⟩
    exact outcome.advances discovers stays moved

/-- After nothing that matters, only the queue is served. -/
theorem outcome_of_same {middle after : LeCentral} {sent : List Outgoing}
    (same : LeCentral.Same before.central middle) (silent : requests sent = [])
    (pumped : middle.pump.1 = after) (joined : step.sent = sent ++ middle.pump.2)
    (unanswered : ¬ Answered before step.call) (kept : ¬ Lost step.call) :
    Outcome before step after := by
  have plain : ∀ op ∈ middle.pending, op.queued = op := same.pending ▸ coupled.plain
  have asked : requests step.sent = requests middle.pump.2 := by
    rw [joined, requests_append, silent, nil_append]
  rcases pump_spec plain with ⟨ready, idle, serves⟩ | nothing
  · rw [pumped] at serves
    have readyBefore := same.phase.symm.trans ready
    have idleBefore := same.inFlight.symm.trans idle
    refine ⟨serves.delivers.after same.inFlight same.pending same.events, ?_, .inl ⟨?_, .inl ?_⟩, ?_,
      ?_, fun lost => absurd lost kept⟩
    · intro _
      exact serves.phase.trans ready
    · exact asked.trans (serves.asks ready)
    · rw [coupled.awaits]
      unfold awaited
      rw [readyBefore, idleBefore]
      rfl
    · intro flying
      rw [idleBefore] at flying
      contradiction
    · intro discovers
      rw [readyBefore] at discovers
      exact discovers.elim
  · rw [nothing] at pumped asked
    obtain rfl : middle = after := pumped
    refine ⟨.of_same same.inFlight same.pending same.events, ?_, .inr ⟨asked, ?_, unanswered, kept⟩, ?_,
      ?_, fun lost => absurd lost kept⟩
    · intro flying
      rw [same.inFlight] at flying
      exact same.phase.trans (coupled.flying flying)
    · unfold awaited
      rw [same.phase, same.inFlight]
    · rintro _ (differs | differs)
      · exact absurd same.inFlight differs
      · exact absurd same.events differs
    · rintro _ _ (differs | differs | some)
      · exact absurd same.phase differs
      · exact absurd same.client differs
      · exact absurd asked some

theorem outcome_of_moves {middle after : LeCentral} {sent : List Outgoing}
    (idle : before.central.inFlight = none) (moves : LeCentral.Moves before.central middle sent)
    (pumped : middle.pump.1 = after) (joined : step.sent = sent ++ middle.pump.2)
    (free : before.outstanding = none ∨ Answered before step.call ∨ Lost step.call)
    (lost : Lost step.call → middle.phase = .disconnected)
    (answered : before.central.phase.Discovers → middle.phase ≠ .disconnected →
      Answered before step.call) :
    Outcome before step after := by
  have plain : ∀ op ∈ middle.pending, op.queued = op := moves.pending ▸ coupled.plain
  have idleMiddle := moves.inFlight.trans idle
  have finishes : before.central.inFlight.isSome → after.inFlight ≠ before.central.inFlight ∨
      after.events.filter isResult ≠
        before.central.events.filter isResult →
      Answered before step.call ∨ Lost step.call := by
    intro flying
    rw [idle] at flying
    contradiction
  rcases pump_spec plain with ⟨ready, -, serves⟩ | nothing
  · rw [pumped] at serves
    have kept : ¬ Lost step.call := fun gone => by
      have phase := lost gone
      rw [ready] at phase
      contradiction
    refine ⟨serves.delivers.after moves.inFlight moves.pending moves.events, ?_, .inl ⟨?_, ?_⟩,
      finishes, ?_, fun gone => absurd gone kept⟩
    · intro _
      exact serves.phase.trans ready
    · rw [joined, requests_append, moves.quiet ready, nil_append]
      exact serves.asks ready
    · exact free.imp id fun free => free.imp id fun gone => absurd gone kept
    · intro discovers _ _
      apply answered discovers
      rw [ready]
      nofun
  · rw [nothing] at pumped joined
    obtain rfl : middle = after := pumped
    have asked : requests step.sent = middle.awaited.toList := by
      rw [joined, append_nil]
      by_cases ready : middle.phase = .ready
      · rw [moves.quiet ready]
        unfold awaited
        rw [ready, idleMiddle]
        rfl
      · exact moves.asked ready
    refine ⟨.of_same moves.inFlight moves.pending moves.events, ?_, .inl ⟨asked, ?_⟩, finishes, ?_, ?_⟩
    · intro flying
      rw [idleMiddle] at flying
      contradiction
    · refine free.imp id fun free => free.imp id fun gone => ⟨gone, ?_⟩
      rw [asked]
      unfold awaited
      rw [lost gone]
      rfl
    · intro discovers stays _
      exact answered discovers stays
    · exact fun _ => idleMiddle

theorem outcome_of_takes {middle after : LeCentral} {sent : List Outgoing} {op : Op}
    {handle : UInt16} (ready : before.central.phase = .ready)
    (flying : before.central.inFlight = some (op, handle))
    (takes : LeCentral.Takes op before.central middle sent)
    (still : middle.phase = before.central.phase)
    (waiting : middle.pending = before.central.pending) (pumped : middle.pump.1 = after)
    (joined : step.sent = sent ++ middle.pump.2) (answered : Answered before step.call)
    (kept : ¬ Lost step.call) :
    Outcome before step after := by
  have serves := takes.pump (flight_of_some flying) still ready waiting coupled.plain
  rw [pumped, ← joined] at serves
  refine ⟨serves.delivers, ?_, .inl ⟨serves.asks ready, .inr (.inl answered)⟩, fun _ _ => .inl answered,
    fun _ _ _ => answered, fun lost => absurd lost kept⟩
  intro _
  exact serves.phase.trans ready

end Coupled

theorem plain_of_replies {request op : UInt8} (rest : Bytes)
    (known : request = 0x02 ∨ request = 0x10 ∨ request = 0x08 ∨ request = 0x0A ∨ request = 0x12 ∨
      request = 0x04) (replies : op = request + 1 ∨ op = Opcode.errorRsp.byte) :
    ¬ isValue op (op :: rest) ∧ isPeerRequest op = false ∧
      ¬ (op = Opcode.writeCmd.byte ∨ op = signedWriteCmd) := by
  rcases known with rfl | rfl | rfl | rfl | rfl | rfl <;> rcases replies with rfl | rfl <;>
    exact ⟨fun value => absurd value.1 (by decide), by decide, by decide⟩

theorem acts_of_replies {central : LeCentral} {request : UInt8} {att : Bytes}
    (awaits : central.awaited = some request) (replies : Replies request att) : Acts central att := by
  cases att with
  | nil =>
    rcases replies with response | ⟨failure, -⟩
    · contradiction
    · contradiction
  | cons op rest =>
    have which : op = request + 1 ∨ op = Opcode.errorRsp.byte :=
      replies.imp Option.some.inj fun failure => Option.some.inj failure.1
    unfold awaited at awaits
    cases phase : central.phase <;> rw [phase] at awaits
    case exchangingMtu =>
      obtain rfl := Option.some.inj awaits
      obtain ⟨value, peer, command⟩ := plain_of_replies rest (.inl rfl) which
      refine ⟨value, peer, command, .inl ?_⟩
      rw [phase]
      trivial
    case discoveringServices =>
      obtain rfl := Option.some.inj awaits
      obtain ⟨value, peer, command⟩ := plain_of_replies rest (.inr (.inl rfl)) which
      refine ⟨value, peer, command, .inl ?_⟩
      rw [phase]
      exact which.symm
    case discoveringCharacteristics =>
      obtain rfl := Option.some.inj awaits
      obtain ⟨value, peer, command⟩ := plain_of_replies rest (.inr (.inr (.inl rfl))) which
      refine ⟨value, peer, command, .inl ?_⟩
      rw [phase]
      exact which.symm
    case ready =>
      obtain ⟨sent, flying, asked⟩ := Option.map_eq_some_iff.mp awaits
      have known : request = 0x02 ∨ request = 0x10 ∨ request = 0x08 ∨ request = 0x0A ∨
          request = 0x12 ∨ request = 0x04 := by
        rw [← asked]
        cases sent.1 <;> simp [Op.request, Opcode.byte]
      obtain ⟨value, peer, command⟩ := plain_of_replies rest known which
      refine ⟨value, peer, command, .inr ⟨phase, ?_⟩⟩
      rw [flying]
      rfl
    all_goals contradiction

inductive Evented (before : LeCentral) (rest : Bytes) (after : LeCentral) (sent : List Outgoing) : Prop
  | quiet : LeCentral.Same before after → requests sent = [] →
    ¬ Lost (.packet 0x04 rest) → Evented before rest after sent
  | lost : Lost (.packet 0x04 rest) → after.phase = .disconnected →
    (before.inFlight = none → LeCentral.Moves before after sent) → Evented before rest after sent
  | moves : Joins (.packet 0x04 rest) ∨ before.awaited = none ∧ before.phase ≠ .ready →
    LeCentral.Moves before after sent → ¬ Lost (.packet 0x04 rest) → Evented before rest after sent

theorem finishInitializing_moves {central : LeCentral} :
    LeCentral.Moves central central.finishInitializing.1 central.finishInitializing.2 := by
  unfold finishInitializing
  split
  · exact ⟨rfl, rfl, rfl, fun _ => rfl, nofun⟩
  · exact ⟨rfl, rfl, rfl, fun _ => rfl, nofun⟩

theorem onEvent_evented (central : LeCentral) (rest : Bytes) :
    Evented central rest (central.onEvent rest).1 (central.onEvent rest).2 := by
  have starting {phase : CentralPhase} (same : central.phase = phase)
      (early : phase = .initializing ∨ phase = .scanning) :
      central.awaited = none ∧ central.phase ≠ .ready := by
    unfold awaited
    rcases early with rfl | rfl <;> rw [same] <;> exact ⟨rfl, nofun⟩
  unfold onEvent
  cases parsed : HciEvent.parse rest with
  | none =>
    refine .quiet ⟨rfl, rfl, rfl, rfl, rfl⟩ rfl ?_
    rintro ⟨-, status, handle, reason, gone⟩
    rw [parsed] at gone
    contradiction
  | some event =>
    have kept (other : ∀ status handle reason, event ≠ .disconnectionComplete status handle reason) :
        ¬ Lost (.packet 0x04 rest) := by
      rintro ⟨-, status, handle, reason, gone⟩
      exact other _ _ _ (Option.some.inj (parsed.symm.trans gone))
    cases event with
    | ignored => exact .quiet ⟨rfl, rfl, rfl, rfl, rfl⟩ rfl (kept nofun)
    | commandComplete opcode =>
      dsimp only
      split
      · rename_i last
        exact .moves (.inr (starting last.1 (.inl rfl))) finishInitializing_moves (kept nofun)
      · exact .quiet ⟨rfl, rfl, rfl, rfl, rfl⟩ rfl (kept nofun)
    | other code parameters =>
      dsimp only
      unfold onOther
      split
      · rename_i last
        exact .moves (.inr (starting last.1 (.inl rfl))) finishInitializing_moves (kept nofun)
      · split
        · rename_i report
          unfold onReport
          split
          · exact .quiet ⟨rfl, rfl, rfl, rfl, rfl⟩ rfl (kept nofun)
          · exact .moves (.inr (starting report.1 (.inr rfl)))
              ⟨rfl, rfl, rfl, fun _ => rfl, nofun⟩ (kept nofun)
        · exact .quiet ⟨rfl, rfl, rfl, rfl, rfl⟩ rfl (kept nofun)
    | leConnectionComplete status handle =>
      have joins : Joins (.packet 0x04 rest) := ⟨rfl, status, handle, parsed⟩
      have events (event : CentralEvent) (plain : event.isResult = false) :
          (central.events ++ [event]).filter isResult =
            central.events.filter isResult := by
        rw [filter_append, filter_cons_of_neg (by simp [plain]), filter_nil,
          append_nil]
      dsimp only
      split
      · exact .moves (.inl joins) ⟨rfl, rfl, events _ rfl, fun _ => rfl, nofun⟩ (kept nofun)
      · exact .moves (.inl joins) ⟨rfl, rfl, events _ rfl, fun _ => rfl, nofun⟩ (kept nofun)
    | disconnectionComplete status handle reason =>
      refine .lost ⟨rfl, status, handle, reason, parsed⟩ rfl fun idle => ?_
      refine ⟨idle.symm, rfl, ?_, fun _ => rfl, nofun⟩
      exact (filter_append _ _).trans (append_nil _)

theorem outcome_of_packet (coupled : Coupled before) (attends : Attends before step)
    {h4Type : UInt8} {rest : Bytes} (packet : step.call = .packet h4Type rest) {after : LeCentral}
    (performed : before.central.onPacket (h4Type :: rest) = .ok (after, step.sent)) :
    Outcome before step after := by
  obtain ⟨⟨middle, sent⟩, handled, out⟩ := Rust.bind_eq_ok.mp performed
  obtain ⟨pumped, joined⟩ := Prod.mk.inj (Except.ok.inj out)
  have joined : step.sent = sent ++ middle.pump.2 := joined.symm
  unfold LeCentral.handle at handled
  dsimp only at handled
  split at handled
  · rename_i event
    subst event
    obtain ⟨rfl, rfl⟩ := Prod.mk.inj (Except.ok.inj handled)
    have unanswered : ¬ Answered before step.call := by
      rw [packet]
      rintro ⟨data, -⟩
      exact absurd data (by decide)
    cases onEvent_evented before.central rest with
    | quiet same silent kept =>
      rw [← packet] at kept
      exact outcome_of_same coupled same silent pumped joined unanswered kept
    | lost gone phase moves =>
      rw [← packet] at gone
      have idle := attends.lost gone
      exact outcome_of_moves coupled idle (moves idle) pumped joined (.inr (.inr gone))
        (fun _ => phase) fun _ stays => absurd phase stays
    | moves early moves kept =>
      rw [← packet] at early kept
      have none : before.central.awaited = none := by
        rcases early with joins | ⟨none, -⟩
        · rw [← coupled.awaits]
          exact attends.joins joins
        · exact none
      have idle : before.central.inFlight = .none := by
        cases flying : before.central.inFlight with
        | none => rfl
        | some sent =>
          have ready := coupled.flying (by rw [flying]; rfl)
          unfold awaited at none
          rw [ready, flying] at none
          contradiction
      refine outcome_of_moves coupled idle moves pumped joined
        (.inl (coupled.awaits.trans none)) (fun gone => absurd gone kept) ?_
      intro discovers
      unfold awaited at none
      cases phase : before.central.phase <;> rw [phase] at none discovers <;>
        first | exact discovers.elim | contradiction
  · split at handled
    · rename_i data
      subst data
      have kept : ¬ Lost step.call := by
        rw [packet]
        rintro ⟨event, -⟩
        exact absurd event (by decide)
      unfold onAcl at handled
      dsimp only at handled
      cases frame : (before.central.heard rest).1 with
      | none =>
        rw [frame] at handled
        obtain ⟨rfl, rfl⟩ := Prod.mk.inj (Except.ok.inj handled)
        have same : LeCentral.Same before.central
            { before.central with reassembler := (before.central.heard rest).2 } :=
          ⟨rfl, rfl, rfl, rfl, rfl⟩
        refine outcome_of_same coupled same rfl pumped joined ?_ kept
        rw [packet]
        rintro ⟨-, att, request, brings, -⟩
        rw [frame] at brings
        contradiction
      | some frame' =>
        obtain ⟨handle, cid, att⟩ := frame'
        rw [frame] at handled
        have acting (acts : Acts before.central att) : Answered before step.call :=
          attends.answers rest handle cid att packet frame acts
        cases dispatchAtt_dispatched handled with
        | quiet same silent ignored =>
          refine outcome_of_same coupled
            ⟨same.phase, same.client, same.inFlight, same.pending, same.events⟩ silent pumped joined
            ?_ kept
          rw [packet]
          rintro ⟨-, att', request, brings, outstanding, replies⟩
          rw [frame] at brings
          obtain rfl : att = att' := congrArg (fun frame => frame.2.2) (Option.some.inj brings)
          exact ignored (acts_of_replies (coupled.awaits.symm.trans outstanding) replies)
        | takes acts ready flying takes still waiting =>
          refine outcome_of_takes coupled ready flying ?_ still waiting pumped joined (acting acts) kept
          cases takes with
          | flies flies same asked kept => exact .flies flies same asked kept
          | ends idle quiet raised result reports => exact .ends idle quiet raised result reports
        | moves acts discovers moves =>
          have idle : before.central.inFlight = none := by
            cases flying : before.central.inFlight with
            | none => rfl
            | some sent =>
              have ready := coupled.flying (by rw [flying]; rfl)
              have discovers : before.central.phase.Discovers := discovers
              rw [ready] at discovers
              exact discovers.elim
          exact outcome_of_moves coupled idle
            ⟨moves.inFlight, moves.pending, moves.events, moves.asked, moves.quiet⟩ pumped joined
            (.inr (.inl (acting acts))) (fun gone => absurd gone kept) fun _ _ => acting acts
    · rename_i noEvent noData
      obtain ⟨rfl, rfl⟩ := Prod.mk.inj (Except.ok.inj handled)
      refine outcome_of_same coupled ⟨rfl, rfl, rfl, rfl, rfl⟩ rfl pumped joined ?_ ?_ <;> rw [packet]
      · exact fun answered => noData answered.1
      · exact fun gone => noEvent gone.1

theorem settles_idle (coupled : Coupled before) (watches : Watches before step after)
    (sent : step.sent = []) (unsettled : ¬ (Answered before step.call ∨ Lost step.call))
    (phase : after.central.phase = before.central.phase)
    (client : after.central.client = before.central.client)
    (inFlight : after.central.inFlight = before.central.inFlight)
    (results : after.results = before.results)
    (pending : after.central.pending = before.central.pending ++ step.call.op.toList)
    (plain : ∀ op ∈ step.call.op, op.queued = op) : Coupled after ∧ Completes before step after := by
  have silent : requests step.sent = [] := by
    rw [sent]
    rfl
  have all : ∃ done, List.Forall₂ Reports done after.results ∧
      after.queued = done ++ after.central.flight ++ after.central.pending := by
    obtain ⟨done, reported, split⟩ := coupled.reported
    refine ⟨done, results ▸ reported, ?_⟩
    unfold flight at split ⊢
    rw [watches.queued, split, pending, inFlight, append_assoc (done ++ _)]
  refine ⟨⟨?_, ?_, ?_, all⟩, ⟨?_, ?_⟩, ?_, ?_, all, fun lost => absurd (.inr lost) unsettled⟩
  · rw [phase, inFlight]
    exact coupled.flying
  · rw [watches.kept silent unsettled, coupled.awaits]
    unfold awaited
    rw [phase, inFlight]
  · intro op listed
    rw [pending] at listed
    rcases List.mem_append.mp listed with waiting | added
    · exact coupled.plain op waiting
    · exact plain op (Option.mem_toList.mp added)
  · rw [silent]
    exact Nat.zero_le _
  · exact fun some => absurd silent some
  · rintro ⟨-, differs | differs⟩
    · exact absurd inFlight differs
    · exact absurd results differs
  · rintro ⟨-, -, differs | differs | some⟩
    · exact absurd phase differs
    · exact absurd client differs
    · exact absurd silent some

theorem settles_queue (coupled : Coupled before) (watches : Watches before step after) {op : Op}
    (queues : step.call.op = some op) (plain : op.queued = op)
    (out : before.central.queue op = after.central ∧ [] = step.sent) (taken : after.taken = before.taken)
    (unsettled : ¬ (Answered before step.call ∨ Lost step.call)) :
    Coupled after ∧ Completes before step after := by
  obtain ⟨central, sent⟩ := out
  apply settles_idle coupled watches sent.symm unsettled
  · rw [← central]
    rfl
  · rw [← central]
    rfl
  · rw [← central]
    rfl
  · unfold Watched.results
    rw [taken, ← central]
    rfl
  · rw [queues, ← central]
    rfl
  · intro added listed
    rw [queues] at listed
    obtain rfl := Option.some.inj listed
    exact plain

theorem settles_step (coupled : Coupled before) (attends : Attends before step)
    (watches : Watches before step after) : Coupled after ∧ Completes before step after := by
  have performed := watches.performed
  have taken := watches.taken
  cases call : step.call with
  | queueRead target =>
    rw [call] at performed taken
    exact settles_queue coupled watches (by rw [call]; rfl) rfl
      (Prod.mk.inj (Except.ok.inj performed)) taken (by rw [call]; exact not_or.mpr ⟨id, id⟩)
  | queueWrite target value withResponse =>
    rw [call] at performed taken
    exact settles_queue coupled watches (by rw [call]; rfl) rfl
      (Prod.mk.inj (Except.ok.inj performed)) taken (by rw [call]; exact not_or.mpr ⟨id, id⟩)
  | queueSubscribe target enable =>
    rw [call] at performed taken
    exact settles_queue coupled watches (by rw [call]; rfl) rfl
      (Prod.mk.inj (Except.ok.inj performed)) taken (by rw [call]; exact not_or.mpr ⟨id, id⟩)
  | packet h4Type rest =>
    rw [call] at performed taken
    refine (outcome_of_packet coupled attends call performed).settles coupled watches ?_ taken
    rw [call]
    rfl
  | pump =>
    rw [call] at performed taken
    obtain ⟨pumped, sent⟩ := Prod.mk.inj (Except.ok.inj performed)
    refine Outcome.settles coupled watches ?_ (by rw [call]; rfl) taken
    refine outcome_of_same coupled ⟨rfl, rfl, rfl, rfl, rfl⟩
      (show requests [] = [] from rfl) pumped sent.symm ?_ ?_ <;>
      rw [call] <;> exact id
  | takeEvents =>
    rw [call] at performed taken
    obtain ⟨central, sent⟩ := Prod.mk.inj (Except.ok.inj performed)
    apply settles_idle coupled watches sent.symm
    · rw [call]
      exact not_or.mpr ⟨id, id⟩
    · rw [← central]
    · rw [← central]
    · rw [← central]
    · -- what the host has taken is no longer with the central
      unfold Watched.results
      rw [taken, ← central]
      rw [append_nil]
    · rw [call, ← central]
      exact (append_nil _).symm
    · rw [call]
      nofun

end Outcomes

/-- A central that has been told whom to connect to, and has not heard from its
controller. -/
def LeCentral.begun (aclDataLen : Nat) (target : Address) (peerAddressType : Option UInt8) :
    LeCentral :=
  ⟨aclDataLen, target, .new 0, ∅, .initializing, [], none, ∅, [], [], peerAddressType⟩

def watched (central : LeCentral) : Watched := ⟨central, [], [], none⟩

/-- Along calls that attend to the answers, every call owes what it should. -/
theorem operations_complete {aclDataLen : Nat} {target : Address} {peerAddressType : Option UInt8}
    {steps : List CentralStep} {state : Watched}
    (run : Run (Guarded Attends Watches) (watched (.begun aclDataLen target peerAddressType)) steps
      state) :
    Run (fun before step after => Watches before step after ∧ Completes before step after)
      (watched (.begun aclDataLen target peerAddressType)) steps state := by
  have coupled : Coupled state ∧
      Run (fun before step after => Watches before step after ∧ Completes before step after)
        (watched (.begun aclDataLen target peerAddressType)) steps state := by
    induction run with
    | nil => exact ⟨⟨nofun, rfl, nofun, [], .nil, rfl⟩, .nil⟩
    | snoc _ stepped ih =>
      obtain ⟨coupled, completed⟩ := ih
      obtain ⟨next, completes⟩ := settles_step coupled stepped.1 stepped.2
      exact ⟨next, completed.snoc ⟨stepped.2, completes⟩⟩
  exact coupled.2

def connectionComplete : CentralCall :=
  .packet 0x04 [0x3E, 0x13, 0x01, 0x00, 0x40, 0x00, 0x00, 0x01, 0x00, 0x00, 0x00, 0x00, 0x00, 0x00,
    0x18, 0x00, 0x00, 0x00, 0x48, 0x00, 0x00]

def mtuRequest : Outgoing := .att 0x40 [0x02, 0x05, 0x02]

/-- The peer's PDU in one ACL packet. -/
def fromPeer (att : Bytes) : Bytes :=
  [0x40, 0x20] ++ U16.toLeBytes (UInt16.ofNat (att.length + 4)) ++ L2cap.serialize L2cap.attCid att

/-- A battery service with its level, which is read while the services are discovered; the answer to
the MTU exchange comes in two fragments. -/
def reading : List CentralStep :=
  [⟨connectionComplete, [mtuRequest]⟩,
    ⟨.queueRead (.uuid (.uuid16 0x2A19)), []⟩,
    ⟨.packet 0x02 [0x40, 0x20, 0x04, 0x00, 0x03, 0x00, 0x04, 0x00], []⟩,
    ⟨.packet 0x02 [0x40, 0x10, 0x03, 0x00, 0x03, 0x17, 0x00],
      [.att 0x40 [0x10, 0x01, 0x00, 0xFF, 0xFF, 0x00, 0x28]]⟩,
    ⟨.packet 0x02 (fromPeer [0x11, 0x06, 0x01, 0x00, 0xFF, 0xFF, 0x0F, 0x18]),
      [.att 0x40 [0x08, 0x01, 0x00, 0xFF, 0xFF, 0x03, 0x28]]⟩,
    ⟨.packet 0x02 (fromPeer [0x09, 0x07, 0xFE, 0xFF, 0x02, 0xFF, 0xFF, 0x19, 0x2A]),
      [.att 0x40 [0x0A, 0xFF, 0xFF]]⟩,
    ⟨.packet 0x02 (fromPeer [0x0B, 0x2A]), []⟩,
    ⟨.takeEvents, []⟩]

theorem attends_answer {before : Watched} {rest att : Bytes} {request : UInt8} {sent : List Outgoing}
    (frame : (before.central.heard rest).1 =
      some (before.central.client.connectionHandle, L2cap.attCid, att))
    (outstanding : before.outstanding = some request) (replies : Replies request att) :
    Attends before ⟨.packet 0x02 rest, sent⟩ where
  answers other _ _ _ same _ _ := by
    cases same
    exact ⟨rfl, att, request, frame, outstanding, replies⟩
  lost lost := absurd lost.1 (by decide)
  joins joins := absurd joins.1 (by decide)

theorem operations_complete_reading : ∃ state : Watched,
    Run (fun before step after => Watches before step after ∧ Completes before step after)
      (watched (.begun 27 .any (some 1))) reading state ∧
    state.results = [.characteristicRead (.uuid16 0x2A19) 0xFFFF [0x2A] 0] ∧
    state.queued = [.read (.uuid (.uuid16 0x2A19))] ∧ state.outstanding = none := by
  let op : Op := .read (.uuid (.uuid16 0x2A19))
  let level : DiscoveredCharacteristic := ⟨0xFFFE, 0xFFFF, 0x02, .uuid16 0x2A19, []⟩
  let joined : LeCentral := { LeCentral.begun 27 .any (some 1) with
    client := .new 0x40, phase := .exchangingMtu, events := [.connectionStateChange .any true 0] }
  let queued := joined.queue op
  let started := { queued with reassembler := (queued.heard [0x40, 0x20, 0x04, 0x00, 0x03, 0x00, 0x04,
    0x00]).2 }
  let exchanged : LeCentral := { queued with
    phase := .discoveringServices, events := queued.events ++ [.mtuChanged 23] }
  let discovered : LeCentral := { exchanged with
    phase := .discoveringCharacteristics 0
    client := { exchanged.client with services := [⟨0x0001, 0xFFFF, .uuid16 0x180F, []⟩] } }
  let flying : LeCentral := { discovered with
    phase := .ready
    client := { discovered.client with services := [⟨0x0001, 0xFFFF, .uuid16 0x180F, [level]⟩] }
    events := discovered.events ++ [.servicesDiscovered 1]
    pending := [], inFlight := some (op, 0xFFFF) }
  let read : LeCentral := { flying with
    inFlight := none, values := flying.values.insert 0xFFFF [0x2A]
    events := flying.events ++ [.characteristicRead (.uuid16 0x2A19) 0xFFFF [0x2A] 0] }
  have joins : Guarded Attends Watches (watched (.begun 27 .any (some 1))) reading[0]
      ⟨joined, [], [], some 0x02⟩ :=
    ⟨⟨fun _ _ _ _ same => absurd (CentralCall.packet.inj same).1 (by decide), fun _ => rfl,
      fun _ => rfl⟩, rfl, rfl, rfl, fun _ last => last, nofun, nofun⟩
  have queues : Guarded Attends Watches ⟨joined, [], [], some 0x02⟩ reading[1]
      ⟨queued, [op], [], some 0x02⟩ :=
    ⟨⟨nofun, False.elim, False.elim⟩, rfl, rfl, rfl, nofun, nofun, fun _ _ => rfl⟩
  have starts : Guarded Attends Watches ⟨queued, [op], [], some 0x02⟩ reading[2]
      ⟨started, [op], [], some 0x02⟩ := by
    refine ⟨⟨fun _ _ _ _ same whole => ?_, fun lost => absurd lost.1 (by decide),
      fun joins => absurd joins.1 (by decide)⟩, rfl, rfl, rfl, nofun, ?_, fun _ _ => rfl⟩
    · cases same
      cases whole
    · rintro - (⟨-, _, _, whole, -⟩ | lost)
      · cases whole
      · exact absurd lost.1 (by decide)
  have exchanges : Guarded Attends Watches ⟨started, [op], [], some 0x02⟩ reading[3]
      ⟨exchanged, [op], [], some 0x10⟩ :=
    ⟨attends_answer rfl rfl (.inl rfl), rfl, rfl, rfl, fun _ last => last, nofun, nofun⟩
  have discovers : Guarded Attends Watches ⟨exchanged, [op], [], some 0x10⟩ reading[4]
      ⟨discovered, [op], [], some 0x08⟩ :=
    ⟨attends_answer rfl rfl (.inl rfl), by with_unfolding_all rfl, rfl, rfl, fun _ last => last, nofun,
      nofun⟩
  have asks : Guarded Attends Watches ⟨discovered, [op], [], some 0x08⟩ reading[5]
      ⟨flying, [op], [], some 0x0A⟩ :=
    ⟨attends_answer rfl rfl (.inl rfl), by with_unfolding_all rfl, rfl, rfl, fun _ last => last, nofun,
      nofun⟩
  have reads : Guarded Attends Watches ⟨flying, [op], [], some 0x0A⟩ reading[6] ⟨read, [op], [], none⟩ :=
    ⟨attends_answer rfl rfl (.inl rfl), rfl, rfl, rfl, nofun, fun _ _ => rfl,
      fun _ waits => absurd (.inl ⟨rfl, _, _, rfl, rfl, .inl rfl⟩) waits⟩
  have takes : Guarded Attends Watches ⟨read, [op], [], none⟩ reading[7]
      ⟨{ read with events := [] }, [op], read.events, none⟩ :=
    ⟨⟨nofun, False.elim, False.elim⟩, rfl, rfl, rfl, nofun, nofun, fun _ _ => rfl⟩
  have run : Run (Guarded Attends Watches) (watched (.begun 27 .any (some 1))) reading _ :=
    .snoc (.snoc (.snoc (.snoc (.snoc (.snoc (.snoc (.snoc .nil joins) queues) starts) exchanges)
      discovers) asks) reads) takes
  exact ⟨_, operations_complete run, rfl, rfl, rfl⟩

def securityRequest : CentralCall :=
  .packet 0x02 [0x40, 0x20, 0x06, 0x00, 0x02, 0x00, 0x06, 0x00, 0x0B, 0x05]

/-- While the MTU is asked for, a Security Request of the peer's ends that phase
and sends the next request. -/
theorem not_operations_complete : ∃ connected advanced : Watched,
    Watches (watched (.begun 27 .any (some 1))) ⟨connectionComplete, [mtuRequest]⟩ connected ∧
    Watches connected ⟨securityRequest, [.att 0x40 [0x10, 0x01, 0x00, 0xFF, 0xFF, 0x00, 0x28]]⟩
      advanced ∧
    ¬ Completes connected ⟨securityRequest, [.att 0x40 [0x10, 0x01, 0x00, 0xFF, 0xFF, 0x00, 0x28]]⟩
      advanced := by
  refine ⟨⟨_, [], [], some 0x02⟩, ⟨_, [], [], some 0x10⟩, ⟨rfl, rfl, rfl, ?_, nofun, nofun⟩,
    ⟨rfl, rfl, rfl, ?_, nofun, nofun⟩, ?_⟩
  · intro request last
    exact last
  · intro request last
    exact last
  · intro completes
    obtain ⟨-, att, request, brings, -⟩ := completes.advances ⟨trivial, nofun, .inl nofun⟩
    have channel : U16.fromLeBytes 0x06 0x00 = L2cap.attCid :=
      congrArg (fun frame => frame.2.1) (Option.some.inj brings)
    exact absurd channel (by decide)

end Simble.Device
