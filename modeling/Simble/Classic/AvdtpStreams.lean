import Simble.Classic.AvdtpProtocol

/-! The streams that two tables of endpoints agree on, and the changes that both make. -/
namespace Simble.Avdtp
open Protocol

/-! ## Endpoints of a table -/

namespace EndPoints
variable (endpoints : EndPoints)

theorem get_update (seid other : UInt8) (change : LocalStreamEndPoint → LocalStreamEndPoint) :
    (endpoints.update seid change).get other =
      if seid = other then (endpoints.get other).map change else endpoints.get other := by
  unfold update get
  by_cases named : 0 < seid
  · by_cases positive : 0 < other
    · rw [if_pos named, if_pos positive, List.getElem?_modify]
      have first : 0 < seid.toNat := named
      have second : 0 < other.toNat := positive
      by_cases same : seid = other
      · subst same
        simp only [if_true, if_pos positive]
        rfl
      · have apart : seid.toNat - 1 ≠ other.toNat - 1 := by
          intro equal
          exact same (UInt8.toNat_inj.mp (by omega))
        simp only [if_neg apart, if_neg same, if_pos positive]
        exact Option.map_id'
    · rw [if_neg positive, if_neg positive]
      split <;> rfl
  · rw [if_neg named]
    by_cases same : seid = other
    · rw [if_pos same, if_neg (same ▸ named)]
      rfl
    · rw [if_neg same]

theorem forall_update {holds : LocalStreamEndPoint → Prop} {seid : UInt8}
    {change : LocalStreamEndPoint → LocalStreamEndPoint} (each : ∀ endpoint ∈ endpoints, holds endpoint)
    (kept : ∀ endpoint, endpoints.get seid = some endpoint → holds (change endpoint)) :
    ∀ endpoint ∈ endpoints.update seid change, holds endpoint := by
  unfold update
  by_cases named : 0 < seid
  · rw [if_pos named]
    intro endpoint inside
    obtain ⟨index, found⟩ := List.mem_iff_getElem?.mp inside
    rw [List.getElem?_modify] at found
    obtain ⟨before, was, rfl⟩ := Option.map_eq_some_iff.mp found
    by_cases here : seid.toNat - 1 = index
    · rw [if_pos here]
      exact kept before (by rw [get, if_pos named, here, was])
    · rw [if_neg here]
      exact each before (List.mem_of_getElem? was)
  · rw [if_neg named]
    exact each

theorem get_mem {seid : UInt8} {endpoint : LocalStreamEndPoint}
    (found : endpoints.get seid = some endpoint) : endpoint ∈ endpoints := by
  unfold get at found
  split at found
  · exact List.mem_of_getElem? found
  · contradiction

end EndPoints

/-! ## Changes of a stream -/

inductive StreamChange where
  | configure (capabilities : List ServiceCapability)
  | reconfigure (capabilities : List ServiceCapability)
  | enter (state : StreamState)
  | finish

def StreamChange.apply (peer : UInt8) : StreamChange → LocalStreamEndPoint → LocalStreamEndPoint
  | configure capabilities => Protocol.configure capabilities peer
  | reconfigure capabilities => fun endpoint =>
    { endpoint with configuration := applyReconfiguration endpoint.configuration capabilities }
  | enter state => Protocol.enter state
  | finish => Protocol.finish

def StreamChange.target : StreamChange → Option StreamState
  | enter state => some state
  | finish => some .idle
  | configure _ | reconfigure _ => none

/-- An endpoint has a peer unless it is idle. -/
def Sane (endpoint : LocalStreamEndPoint) : Prop :=
  endpoint.remoteSeid = none ↔ endpoint.state = .idle

def StreamChange.Ready (endpoint : LocalStreamEndPoint) : StreamChange → Prop
  | configure _ => endpoint.state = .idle
  | reconfigure _ => True
  | enter state => state ≠ .idle ∧ endpoint.state ≠ .idle
  | finish => True

theorem StreamChange.sane {change : StreamChange} {endpoint : LocalStreamEndPoint}
    (sane : Sane endpoint) (ready : change.Ready endpoint) (peer : UInt8) :
    Sane (change.apply peer endpoint) := by
  cases change with
  | configure capabilities =>
    exact iff_of_false (fun same => by cases same) (fun same => by cases same)
  | reconfigure capabilities => exact sane
  | enter state => exact iff_of_false (fun none => ready.2 (sane.mp none)) ready.1
  | finish => exact iff_of_true rfl rfl

section Target
variable {change : StreamChange} {target : StreamState} (leads : change.target = some target)

include leads

theorem StreamChange.apply_apply (peer peer' : UInt8) (endpoint : LocalStreamEndPoint) :
    change.apply peer (change.apply peer' endpoint) = change.apply 0 endpoint := by
  cases change with
  | configure | reconfigure => cases leads
  | enter | finish => rfl

theorem StreamChange.apply_eq (peer : UInt8) (endpoint : LocalStreamEndPoint) :
    change.apply peer endpoint = change.apply 0 endpoint := by
  cases change with
  | configure | reconfigure => cases leads
  | enter | finish => rfl

theorem StreamChange.apply_target {endpoint : LocalStreamEndPoint} (sane : Sane endpoint)
    (there : endpoint.state = target) : change.apply 0 endpoint = endpoint := by
  obtain ⟨seid, mediaType, tsep, capabilities, configuration, state, remoteSeid⟩ := endpoint
  cases change with
  | configure | reconfigure => cases leads
  | enter other =>
    obtain rfl := Option.some.inj leads
    cases there
    rfl
  | finish =>
    obtain rfl := Option.some.inj leads
    cases there
    cases sane.mpr rfl
    rfl

theorem StreamChange.ready_apply {endpoint : LocalStreamEndPoint} (ready : change.Ready endpoint) :
    change.Ready (change.apply 0 endpoint) := by
  cases change with
  | configure | reconfigure => cases leads
  | enter => exact ⟨ready.1, ready.1⟩
  | finish => trivial

end Target

/-! ## Agreement -/

structure SameStream (endpoint other : LocalStreamEndPoint) : Prop where
  state : endpoint.state = other.state
  configuration : endpoint.configuration = other.configuration

def Follows (endpoints others : EndPoints) : Prop :=
  ∀ seid peer endpoint, endpoints.get seid = some endpoint → endpoint.remoteSeid = some peer →
    ∃ other, others.get peer = some other ∧ other.remoteSeid = some seid ∧
      SameStream endpoint other

structure Agree (endpoints others : EndPoints) : Prop where
  forth : Follows endpoints others
  back : Follows others endpoints

theorem Agree.symm {endpoints others : EndPoints} (agree : Agree endpoints others) :
    Agree others endpoints := ⟨agree.back, agree.forth⟩

open EndPoints

section Agreement
variable {endpoints others : EndPoints} {seid peer : UInt8} {endpoint other : LocalStreamEndPoint}

theorem Agree.congr {endpoints' others' : EndPoints} (agree : Agree endpoints others)
    (same : ∀ seid, endpoints'.get seid = endpoints.get seid)
    (same' : ∀ seid, others'.get seid = others.get seid) : Agree endpoints' others' := by
  constructor
  · intro seid peer endpoint found linked
    rw [same']
    exact agree.forth seid peer endpoint (same seid ▸ found) linked
  · intro seid peer endpoint found linked
    rw [same]
    exact agree.back seid peer endpoint (same' seid ▸ found) linked

theorem Follows.configured (capabilities : List ServiceCapability) (follows : Follows endpoints others)
    (there : others.get peer = some other) (alone : other.remoteSeid = none) :
    Follows (endpoints.update seid (configure capabilities peer))
      (others.update peer (configure capabilities seid)) := by
  intro name mate found at' linked
  rw [get_update] at at'
  rw [get_update]
  by_cases same : seid = name
  · subst same
    rw [if_pos rfl] at at'
    obtain ⟨before, -, rfl⟩ := Option.map_eq_some_iff.mp at'
    obtain rfl := Option.some.inj linked
    rw [if_pos rfl, there]
    exact ⟨_, rfl, rfl, rfl, rfl⟩
  · -- Another endpoint is not with one that has no peer.
    rw [if_neg same] at at'
    obtain ⟨mate', found', back, agrees⟩ := follows _ _ _ at' linked
    have apart : peer ≠ mate := by
      rintro rfl
      obtain rfl := Option.some.inj (there.symm.trans found')
      exact Option.some_ne_none _ (back.symm.trans alone)
    rw [if_neg apart]
    exact ⟨mate', found', back, agrees⟩

/-- Two endpoints without peers become a stream. -/
theorem Agree.configured (agree : Agree endpoints others) (capabilities : List ServiceCapability)
    (here : endpoints.get seid = some endpoint) (alone : endpoint.remoteSeid = none)
    (there : others.get peer = some other) (alone' : other.remoteSeid = none) :
    Agree (endpoints.update seid (configure capabilities peer))
      (others.update peer (configure capabilities seid)) :=
  ⟨agree.forth.configured capabilities there alone', agree.back.configured capabilities here alone⟩

def EndPoints.updateAll (endpoints : EndPoints) (seids : List UInt8)
    (change : LocalStreamEndPoint → LocalStreamEndPoint) : EndPoints :=
  seids.foldl (fun endpoints seid => endpoints.update seid change) endpoints

theorem EndPoints.get_updateAll (endpoints : EndPoints) (seids : List UInt8)
    {change : LocalStreamEndPoint → LocalStreamEndPoint}
    (once : ∀ endpoint, change (change endpoint) = change endpoint) (seid : UInt8) :
    (endpoints.updateAll seids change).get seid =
      if seid ∈ seids then (endpoints.get seid).map change else endpoints.get seid := by
  unfold updateAll
  induction seids generalizing endpoints with
  | nil => rw [if_neg List.not_mem_nil, List.foldl_nil]
  | cons first rest ih =>
    rw [List.foldl_cons, ih, get_update]
    have twice : ((endpoints.get seid).map change).map change = (endpoints.get seid).map change := by
      rw [Option.map_map]
      exact congrArg (Option.map · _) (funext once)
    by_cases same : first = seid
    · rw [if_pos same, twice, ite_self, if_pos (same ▸ List.mem_cons_self)]
    · rw [if_neg same]
      by_cases later : seid ∈ rest
      · rw [if_pos later, if_pos (List.mem_cons_of_mem _ later)]
      · rw [if_neg later, if_neg]
        rintro (_ | _)
        · exact same rfl
        · contradiction

/-- One end makes a change to the streams of `Here`, whose peers are those of `There`. -/
structure Changes (before after : EndPoints) (change : StreamChange) (Here There : UInt8 → Prop) :
    Prop where
  here : ∀ seid, Here seid → after.get seid = (before.get seid).map (change.apply 0)
  away : ∀ seid, ¬ Here seid → after.get seid = before.get seid
  paired : ∀ seid, Here seid → ∀ endpoint, before.get seid = some endpoint →
    ∃ peer, There peer ∧ endpoint.remoteSeid = some peer

section Moved
variable {endpoints' others' : EndPoints} {change : StreamChange} {Here There : UInt8 → Prop}

theorem Follows.moved (follows : Follows endpoints others)
    (keeps : ∀ capabilities, change ≠ .configure capabilities)
    (here : Changes endpoints endpoints' change Here There)
    (there : Changes others others' change There Here) : Follows endpoints' others' := by
  intro seid peer found at' linked
  by_cases inside : Here seid
  · rw [here.here seid inside] at at'
    obtain ⟨endpoint, before, rfl⟩ := Option.map_eq_some_iff.mp at'
    obtain ⟨mate, among, with'⟩ := here.paired seid inside endpoint before
    obtain ⟨other, found, back, agrees⟩ := follows _ _ _ before with'
    cases change with
    | configure capabilities => exact absurd rfl (keeps capabilities)
    | finish => cases linked
    | reconfigure capabilities =>
      obtain rfl := Option.some.inj (with'.symm.trans linked)
      rw [there.here _ among, found]
      exact ⟨_, rfl, back, agrees.state,
        congrArg (applyReconfiguration · capabilities) agrees.configuration⟩
    | enter state =>
      obtain rfl := Option.some.inj (with'.symm.trans linked)
      rw [there.here _ among, found]
      exact ⟨_, rfl, back, rfl, agrees.configuration⟩
  · rw [here.away seid inside] at at'
    obtain ⟨other, found, back, agrees⟩ := follows _ _ _ at' linked
    have apart : ¬ There peer := by
      intro among
      obtain ⟨mate, inside', with'⟩ := there.paired peer among other found
      exact inside (Option.some.inj (with'.symm.trans back) ▸ inside')
    rw [there.away peer apart]
    exact ⟨other, found, back, agrees⟩

theorem Agree.moved (agree : Agree endpoints others)
    (keeps : ∀ capabilities, change ≠ .configure capabilities)
    (here : Changes endpoints endpoints' change Here There)
    (there : Changes others others' change There Here) : Agree endpoints' others' :=
  ⟨agree.forth.moved keeps here there, agree.back.moved keeps there here⟩

end Moved

/-- An endpoint without a peer can be ended once more. -/
theorem Agree.finish_idle (agree : Agree endpoints others)
    (alone : ∀ endpoint, endpoints.get seid = some endpoint → endpoint.remoteSeid = none) :
    Agree (endpoints.update seid finish) others := by
  constructor
  · intro name mate found at' linked
    rw [get_update] at at'
    by_cases same : seid = name
    · rw [if_pos same] at at'
      obtain ⟨before, -, rfl⟩ := Option.map_eq_some_iff.mp at'
      cases linked
    · rw [if_neg same] at at'
      exact agree.forth _ _ _ at' linked
  · intro name mate found at' linked
    obtain ⟨endpoint, here, back, agrees⟩ := agree.back _ _ _ at' linked
    have apart : seid ≠ mate := by
      rintro rfl
      exact Option.some_ne_none _ (back.symm.trans (alone endpoint here))
    refine ⟨endpoint, ?_, back, agrees⟩
    rw [get_update, if_neg apart]
    exact here

end Agreement

end Simble.Avdtp
