import Simble.Classic.AvdtpChannel

/-! What a command of a stream does at the peer that accepts it, and what its answer
does at the side that sent it. -/
namespace Simble.Avdtp
open EndPoints List

/-! ## What was asked -/

namespace Pending

/-- The local endpoints that an accepting response changes. -/
def names : Pending → List UInt8
  | setConfiguration _ intSeid _ | reconfigure intSeid _ | .open intSeid | close intSeid
  | abort intSeid => [intSeid]
  | start intSeids | suspend intSeids => intSeids

def change : Pending → StreamChange
  | setConfiguration _ _ capabilities => .configure capabilities
  | reconfigure _ capabilities => .reconfigure capabilities
  | .open _ | suspend _ => .enter .open
  | start _ => .enter .streaming
  | close _ | abort _ => .finish

def peer : Pending → UInt8
  | setConfiguration acpSeid .. => acpSeid
  | _ => 0

def response : Pending → Message
  | setConfiguration .. => .setConfigurationResponse
  | reconfigure .. => .reconfigureResponse
  | .open _ => .openResponse
  | start _ => .startResponse
  | suspend _ => .suspendResponse
  | close _ => .closeResponse
  | abort _ => .abortResponse

/-- The table once the request is accepted. -/
def settle (pending : Pending) (endpoints : EndPoints) : EndPoints :=
  endpoints.updateAll pending.names (pending.change.apply pending.peer)

end Pending

def Message.names : Message → List UInt8
  | setConfigurationCommand acpSeid .. | reconfigureCommand acpSeid _ | openCommand acpSeid
  | closeCommand acpSeid | abortCommand acpSeid => [acpSeid]
  | startCommand acpSeids | suspendCommand acpSeids => acpSeids
  | _ => []

def Message.accepting : Message → List StreamState
  | openCommand _ => [.configured]
  | reconfigureCommand .. | startCommand _ => [.open]
  | suspendCommand _ => [.streaming]
  | closeCommand _ => [.open, .streaming]
  | abortCommand _ => [.configured, .open, .streaming, .closing, .aborting]
  | _ => []

inductive Asks : Pending → Message → Prop
  | setConfiguration (acpSeid intSeid capabilities) :
    Asks (.setConfiguration acpSeid intSeid capabilities)
      (.setConfigurationCommand acpSeid intSeid capabilities)
  | reconfigure (acpSeid intSeid capabilities) :
    Asks (.reconfigure intSeid capabilities) (.reconfigureCommand acpSeid capabilities)
  | open (acpSeid intSeid) : Asks (.open intSeid) (.openCommand acpSeid)
  | start {acpSeids intSeids : List UInt8} : acpSeids.length = intSeids.length →
    Asks (.start intSeids) (.startCommand acpSeids)
  | suspend {acpSeids intSeids : List UInt8} : acpSeids.length = intSeids.length →
    Asks (.suspend intSeids) (.suspendCommand acpSeids)
  | close (acpSeid intSeid) : Asks (.close intSeid) (.closeCommand acpSeid)
  | abort (acpSeid intSeid) : Asks (.abort intSeid) (.abortCommand acpSeid)

/-! ## The answer -/

theorem EndPoints.get_update_mem (endpoints : EndPoints) (seid other : UInt8)
    (change : LocalStreamEndPoint → LocalStreamEndPoint) :
    (endpoints.update seid change).get other =
      if other ∈ [seid] then (endpoints.get other).map change else endpoints.get other := by
  rw [get_update]
  by_cases same : seid = other
  · rw [if_pos same, if_pos (same ▸ mem_singleton_self _)]
  · rw [if_neg same, if_neg]
    intro inside
    exact same (mem_singleton.mp inside).symm

open Protocol

theorem enter_once (state : StreamState) (endpoint : LocalStreamEndPoint) :
    enter state (enter state endpoint) = enter state endpoint := rfl

theorem Pending.get_settle (pending : Pending) (endpoints : EndPoints) (seid : UInt8) :
    (pending.settle endpoints).get seid =
      if seid ∈ pending.names then (endpoints.get seid).map (pending.change.apply pending.peer)
      else endpoints.get seid := by
  cases pending with
  | start intSeids | suspend intSeids =>
    exact endpoints.get_updateAll intSeids (enter_once _) seid
  | setConfiguration _ intSeid _ | reconfigure intSeid _ | «open» intSeid | close intSeid
  | abort intSeid => exact endpoints.get_update_mem intSeid seid _

def Pending.Ready (pending : Pending) (endpoints : EndPoints) : Prop :=
  ∀ seid ∈ pending.names, ∀ endpoint, endpoints.get seid = some endpoint →
    pending.change.Ready endpoint

theorem forall_enterAll {endpoints : EndPoints} {state : StreamState} (seids : List UInt8)
    (sane : ∀ endpoint ∈ endpoints, Sane endpoint)
    (ready : ∀ seid ∈ seids, ∀ endpoint, endpoints.get seid = some endpoint →
      (StreamChange.enter state).Ready endpoint) :
    ∀ endpoint ∈ endpoints.updateAll seids (enter state), Sane endpoint := by
  induction seids generalizing endpoints with
  | nil => exact sane
  | cons first rest ih =>
    refine ih (endpoints.forall_update sane ?_) ?_
    · intro endpoint found
      exact StreamChange.sane (sane _ (endpoints.get_mem found))
        (ready first mem_cons_self endpoint found) 0
    · intro seid inside endpoint found
      rw [get_update] at found
      by_cases same : first = seid
      · rw [if_pos same] at found
        obtain ⟨before, was, rfl⟩ := Option.map_eq_some_iff.mp found
        have nonidle := (ready seid (mem_cons_of_mem _ inside) before was).1
        exact ⟨nonidle, nonidle⟩
      · rw [if_neg same] at found
        exact ready seid (mem_cons_of_mem _ inside) endpoint found

theorem Pending.forall_settle {pending : Pending} {endpoints : EndPoints}
    (sane : ∀ endpoint ∈ endpoints, Sane endpoint) (ready : pending.Ready endpoints) :
    ∀ endpoint ∈ pending.settle endpoints, Sane endpoint := by
  have single {seid : UInt8} (named : pending.names = [seid]) :
      ∀ endpoint ∈ endpoints.update seid (pending.change.apply pending.peer), Sane endpoint :=
    endpoints.forall_update sane fun endpoint found =>
      StreamChange.sane (sane _ (endpoints.get_mem found))
        (ready seid (named ▸ mem_singleton_self _) endpoint found) _
  cases pending with
  | start intSeids | suspend intSeids => exact forall_enterAll intSeids sane ready
  | setConfiguration _ intSeid _ | reconfigure intSeid _ | «open» intSeid | close intSeid
  | abort intSeid => exact single rfl

namespace Protocol
variable (protocol : Protocol)

theorem foldl_update (seids : List UInt8) (change : LocalStreamEndPoint → LocalStreamEndPoint) :
    seids.foldl (fun protocol seid => protocol.update seid change) protocol =
      protocol.setEndpoints (protocol.localEndpoints.updateAll seids change) := by
  induction seids generalizing protocol with
  | nil => rfl
  | cons first rest ih => rw [foldl_cons, ih]; rfl

theorem onAccepted_response (pending : Pending) :
    (protocol.onAccepted pending pending.response).1 =
      protocol.setEndpoints (pending.settle protocol.localEndpoints) := by
  cases pending with
  | start intSeids | suspend intSeids => exact protocol.foldl_update intSeids _
  | setConfiguration | reconfigure | «open» | close | abort => rfl

end Protocol

open Message

theorem Pending.parse_response (pending : Pending) (payload : Bytes) :
    parse pending.signalIdentifier .responseAccept payload = some pending.response := by
  cases pending <;> rfl

structure IsAnswer (label : UInt8) (pending : Pending) (accepted : Bool)
    (message : AssembledMessage) : Prop where
  label : message.transactionLabel = label
  signal : message.signalIdentifier = pending.signalIdentifier
  type : message.messageType = if accepted then .responseAccept else .responseReject

theorem onResponse_answer {protocol : Protocol} {label : UInt8} {pending : Pending} {accepted : Bool}
    {message : AssembledMessage} (answer : IsAnswer label pending accepted message)
    (waits : protocol.pending.lookup label = some pending) :
    (protocol.onResponse message).1 =
      { protocol with
        pending := protocol.pending.erase label
        localEndpoints := if accepted then pending.settle protocol.localEndpoints
          else protocol.localEndpoints } := by
  obtain ⟨rfl, signal, type⟩ := answer
  rw [onResponse, waits]
  simp only [signal, ne_eq, not_true, false_and, if_false]
  cases accepted with
  | false =>
    simp only [type, Bool.false_eq_true, if_false, reduceCtorEq, not_false_eq_true, if_true]
  | true =>
    simp only [type, if_true, not_true, if_false, pending.parse_response]
    exact onAccepted_response _ pending

/-! ## The command -/

inductive Accepts (endpoints : EndPoints) : Pending → Message → EndPoints → Prop
  | configured {acpSeid intSeid capabilities endpoint} : endpoints.get acpSeid = some endpoint →
    endpoint.state = .idle →
    Accepts endpoints (.setConfiguration acpSeid intSeid capabilities)
      (.setConfigurationCommand acpSeid intSeid capabilities)
      (endpoints.update acpSeid (Protocol.configure capabilities intSeid))
  | moved {pending message changed} : Asks pending message →
    (∀ capabilities, pending.change ≠ .configure capabilities) →
    (∀ seid, changed.get seid =
      if seid ∈ message.names then (endpoints.get seid).map (pending.change.apply 0)
      else endpoints.get seid) →
    (∀ seid ∈ message.names, ∃ endpoint, endpoints.get seid = some endpoint ∧
      endpoint.state ∈ message.accepting) →
    ((∀ endpoint ∈ endpoints, Sane endpoint) → ∀ endpoint ∈ changed, Sane endpoint) →
    Accepts endpoints pending message changed
  | ignored {acpSeid intSeid} : (∀ endpoint, endpoints.get acpSeid = some endpoint →
      endpoint.state = .idle) →
    Accepts endpoints (.abort intSeid) (.abortCommand acpSeid) endpoints

structure Handled (protocol : Protocol) (pending : Pending) (message : Message) (after : Protocol)
    (response : Message) : Prop where
  signal : response.signalIdentifier = pending.signalIdentifier
  short : response.toPayload.length ≤ 2
  outcome : (response.messageType = .responseReject ∧ after = protocol) ∨
    (response.messageType = .responseAccept ∧ ∃ changed, after = protocol.setEndpoints changed ∧
      Accepts protocol.localEndpoints pending message changed)

section Commands
variable {protocol : Protocol}

theorem Accepts.single {endpoints : EndPoints} {pending : Pending} {message : Message}
    {acpSeid : UInt8} {endpoint : LocalStreamEndPoint} (asks : Asks pending message)
    (named : message.names = [acpSeid])
    (keeps : ∀ capabilities, pending.change ≠ .configure capabilities)
    (found : endpoints.get acpSeid = some endpoint) (inUse : endpoint.state ∈ message.accepting)
    (ready : pending.change.Ready endpoint) :
    Accepts endpoints pending message (endpoints.update acpSeid (pending.change.apply 0)) := by
  refine .moved asks keeps (fun seid => named ▸ endpoints.get_update_mem acpSeid seid _) ?_ ?_
  · intro seid inside
    rw [named] at inside
    obtain rfl := mem_singleton.mp inside
    exact ⟨endpoint, found, inUse⟩
  · intro sane
    refine endpoints.forall_update sane fun other found' => ?_
    obtain rfl := Option.some.inj (found.symm.trans found')
    exact StreamChange.sane (sane _ (endpoints.get_mem found)) ready 0

variable (acpSeid intSeid : UInt8)

theorem handled_setConfiguration (capabilities : List ServiceCapability) :
    ∃ after events response,
      protocol.onSetConfigurationCommand acpSeid intSeid capabilities = (after, events, response) ∧
      Handled protocol (.setConfiguration acpSeid intSeid capabilities)
        (.setConfigurationCommand acpSeid intSeid capabilities) after response := by
  unfold onSetConfigurationCommand
  cases found : protocol.localEndpoints.get acpSeid with
  | none => exact ⟨_, _, _, rfl, rfl, Nat.le_refl 2, .inl ⟨rfl, rfl⟩⟩
  | some endpoint =>
    simp only
    by_cases inUse : endpoint.inUse
    · rw [if_pos inUse]
      exact ⟨_, _, _, rfl, rfl, Nat.le_refl 2, .inl ⟨rfl, rfl⟩⟩
    · rw [if_neg inUse]
      cases configurationError endpoint capabilities with
      | some error => exact ⟨_, _, _, rfl, rfl, Nat.le_refl 2, .inl ⟨rfl, rfl⟩⟩
      | none =>
        refine ⟨_, _, _, rfl, rfl, Nat.zero_le 2, .inr ⟨rfl, _, rfl, .configured found ?_⟩⟩
        simpa [LocalStreamEndPoint.inUse] using inUse

theorem handled_reconfigure (capabilities : List ServiceCapability) :
    ∃ after events response,
      protocol.onReconfigureCommand acpSeid capabilities = (after, events, response) ∧
      Handled protocol (.reconfigure intSeid capabilities) (.reconfigureCommand acpSeid capabilities)
        after response := by
  unfold onReconfigureCommand
  cases found : protocol.localEndpoints.get acpSeid with
  | none => exact ⟨_, _, _, rfl, rfl, Nat.le_refl 2, .inl ⟨rfl, rfl⟩⟩
  | some endpoint =>
    simp only
    by_cases opened : endpoint.state = .open
    · rw [if_neg (not_not.mpr opened)]
      cases configurationError endpoint
          (applyReconfiguration endpoint.configuration capabilities) with
      | some error => exact ⟨_, _, _, rfl, rfl, Nat.le_refl 2, .inl ⟨rfl, rfl⟩⟩
      | none =>
        refine ⟨_, _, _, rfl, rfl, Nat.zero_le 2, .inr ⟨rfl, _, rfl, ?_⟩⟩
        refine .moved (.reconfigure acpSeid intSeid capabilities) (fun _ same => by cases same) ?_ ?_ ?_
        · intro seid
          rw [get_update_mem]
          by_cases named : seid ∈ [acpSeid]
          · obtain rfl := mem_singleton.mp named
            rw [if_pos named, if_pos (by exact named), found]
            rfl
          · rw [if_neg named, if_neg (by exact named)]
        · intro seid inside
          obtain rfl := mem_singleton.mp inside
          exact ⟨endpoint, found, opened ▸ mem_singleton_self _⟩
        · intro sane
          exact protocol.localEndpoints.forall_update sane fun other found' =>
            sane other (protocol.localEndpoints.get_mem found')
    · rw [if_pos opened]
      exact ⟨_, _, _, rfl, rfl, Nat.le_refl 2, .inl ⟨rfl, rfl⟩⟩

theorem handled_open : ∃ after events response,
    protocol.onOpenCommand acpSeid = (after, events, response) ∧
      Handled protocol (.open intSeid) (.openCommand acpSeid) after response := by
  unfold onOpenCommand
  cases found : protocol.localEndpoints.get acpSeid with
  | none => exact ⟨_, _, _, rfl, rfl, Nat.le_succ 1, .inl ⟨rfl, rfl⟩⟩
  | some endpoint =>
    simp only
    by_cases configured : endpoint.state = .configured
    · rw [if_pos configured]
      have inUse : endpoint.state ≠ .idle := by rw [configured]; decide
      have accepting : endpoint.state ∈ (openCommand acpSeid).accepting :=
        configured ▸ mem_singleton_self _
      exact ⟨_, _, _, rfl, rfl, Nat.zero_le 2, .inr ⟨rfl, _, rfl,
        Accepts.single (.open acpSeid intSeid) rfl (fun _ same => by cases same) found accepting
          ⟨by decide, inUse⟩⟩⟩
    · rw [if_neg configured]
      exact ⟨_, _, _, rfl, rfl, Nat.le_succ 1, .inl ⟨rfl, rfl⟩⟩

theorem handled_close : ∃ after events response,
    protocol.onCloseCommand acpSeid = (after, events, response) ∧
      Handled protocol (.close intSeid) (.closeCommand acpSeid) after response := by
  unfold onCloseCommand
  cases found : protocol.localEndpoints.get acpSeid with
  | none => exact ⟨_, _, _, rfl, rfl, Nat.le_succ 1, .inl ⟨rfl, rfl⟩⟩
  | some endpoint =>
    simp only
    by_cases running : endpoint.state = .open ∨ endpoint.state = .streaming
    · rw [if_pos running]
      have accepting : endpoint.state ∈ (closeCommand acpSeid).accepting := by
        rcases running with same | same <;> rw [same]
        · exact mem_cons_self
        · exact mem_cons_of_mem _ mem_cons_self
      exact ⟨_, _, _, rfl, rfl, Nat.zero_le 2, .inr ⟨rfl, _, rfl,
        Accepts.single (.close acpSeid intSeid) rfl (fun _ same => by cases same) found accepting trivial⟩⟩
    · rw [if_neg running]
      exact ⟨_, _, _, rfl, rfl, Nat.le_succ 1, .inl ⟨rfl, rfl⟩⟩

theorem handled_abort : ∃ after events response,
    protocol.onAbortCommand acpSeid = (after, events, response) ∧
      Handled protocol (.abort intSeid) (.abortCommand acpSeid) after response := by
  unfold onAbortCommand
  cases found : protocol.localEndpoints.get acpSeid with
  | none =>
    refine ⟨_, _, _, rfl, rfl, Nat.zero_le 2, .inr ⟨rfl, protocol.localEndpoints, rfl, .ignored ?_⟩⟩
    intro endpoint found'
    cases found.symm.trans found'
  | some endpoint =>
    simp only
    by_cases inUse : endpoint.inUse
    · rw [if_pos inUse]
      have accepting : endpoint.state ∈ (abortCommand acpSeid).accepting := by
        have busy : endpoint.state ≠ .idle := by simpa [LocalStreamEndPoint.inUse] using inUse
        cases state : endpoint.state <;> simp_all [Message.accepting]
      exact ⟨_, _, _, rfl, rfl, Nat.zero_le 2, .inr ⟨rfl, _, rfl,
        Accepts.single (.abort acpSeid intSeid) rfl (fun _ same => by cases same) found accepting
          trivial⟩⟩
    · rw [if_neg inUse]
      refine ⟨_, _, _, rfl, rfl, Nat.zero_le 2, .inr ⟨rfl, protocol.localEndpoints, rfl, .ignored ?_⟩⟩
      intro other found'
      obtain rfl := Option.some.inj (found.symm.trans found')
      simpa [LocalStreamEndPoint.inUse] using inUse

theorem firstUnready_none {expected : StreamState} {acpSeids : List UInt8}
    (ready : protocol.firstUnready expected acpSeids = none) : ∀ seid ∈ acpSeids, ∃ endpoint,
      protocol.localEndpoints.get seid = some endpoint ∧ endpoint.state = expected := by
  intro seid inside
  have here := List.findSome?_eq_none_iff.mp ready seid inside
  cases found : protocol.localEndpoints.get seid with
  | none =>
    rw [found] at here
    contradiction
  | some endpoint =>
    rw [found] at here
    refine ⟨endpoint, rfl, ?_⟩
    by_contra other
    simp only [if_pos other] at here
    contradiction

theorem handled_startOrSuspend {acpSeids : List UInt8} {pending : Pending} {message : Message}
    {expected next : StreamState} (asks : Asks pending message) (named : message.names = acpSeids)
    (change : pending.change = .enter next) (accepting : expected ∈ message.accepting)
    (inUse : expected ≠ .idle) (inUse' : next ≠ .idle)
    (accept : (if expected = .open then startResponse else .suspendResponse) =
      pending.response)
    (signal : pending.response.signalIdentifier = pending.signalIdentifier)
    (accepts : pending.response.messageType = .responseAccept)
    (empty : pending.response.toPayload = [])
    (rejects : ∀ seid errorCode, (if expected = .open then startReject seid errorCode
      else .suspendReject seid errorCode).signalIdentifier = pending.signalIdentifier) :
    ∃ after events response,
      protocol.onStartOrSuspendCommand acpSeids expected next = (after, events, response) ∧
      Handled protocol pending message after response := by
  unfold onStartOrSuspendCommand
  cases ready : protocol.firstUnready expected acpSeids with
  | some unready =>
    obtain ⟨seid, errorCode⟩ := unready
    refine ⟨_, _, _, rfl, rejects seid errorCode, ?_, .inl ⟨?_, rfl⟩⟩
    · split <;> exact Nat.le_refl 2
    · split <;> rfl
  | none =>
    have running := firstUnready_none ready
    refine ⟨_, _, _, rfl, by rw [accept]; exact signal, by rw [accept, empty]; exact Nat.zero_le 2,
      .inr ⟨by rw [accept]; exact accepts, _, protocol.foldl_update acpSeids _, ?_⟩⟩
    refine .moved asks (fun _ same => by rw [change] at same; cases same) ?_ ?_ ?_
    · intro seid
      rw [named, change]
      exact protocol.localEndpoints.get_updateAll acpSeids (enter_once _) seid
    · intro seid inside
      obtain ⟨endpoint, found, same⟩ := running seid (named ▸ inside)
      exact ⟨endpoint, found, same ▸ accepting⟩
    · intro sane
      refine forall_enterAll acpSeids sane fun seid inside endpoint found => ⟨inUse', ?_⟩
      obtain ⟨other, found', same⟩ := running seid inside
      obtain rfl := Option.some.inj (found.symm.trans found')
      exact same ▸ inUse

theorem handled_command {pending : Pending} {message : Message} (asks : Asks pending message) :
    ∃ after events response, protocol.handleCommand message = some (after, events, response) ∧
      Handled protocol pending message after response := by
  have lift {call : Protocol × List AvdtpEvent × Message}
      (handled : ∃ after events response, call = (after, events, response) ∧
        Handled protocol pending message after response) :
      ∃ after events response, some call = some (after, events, response) ∧
        Handled protocol pending message after response := by
    obtain ⟨after, events, response, rfl, handled⟩ := handled
    exact ⟨after, events, response, rfl, handled⟩
  cases asks with
  | setConfiguration acpSeid intSeid capabilities =>
    exact lift (handled_setConfiguration acpSeid intSeid capabilities)
  | reconfigure acpSeid intSeid capabilities =>
    exact lift (handled_reconfigure acpSeid intSeid capabilities)
  | «open» acpSeid intSeid => exact lift (handled_open acpSeid intSeid)
  | close acpSeid intSeid => exact lift (handled_close acpSeid intSeid)
  | abort acpSeid intSeid => exact lift (handled_abort acpSeid intSeid)
  | start same => exact lift (handled_startOrSuspend (.start same) rfl rfl mem_cons_self
      (by decide) (by decide) rfl rfl rfl rfl fun _ _ => rfl)
  | suspend same => exact lift (handled_startOrSuspend (.suspend same) rfl rfl mem_cons_self
      (by decide) (by decide) rfl rfl rfl rfl fun _ _ => rfl)

end Commands

end Simble.Avdtp
