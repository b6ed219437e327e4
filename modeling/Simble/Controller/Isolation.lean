import Simble.Controller.Broadcast
import Simble.Lib.Run

/-! Who hears a broadcast. Beside the medium stands a register of the groups on air, each with a
number of its own and as its LE Create BIG made it, and of who has joined which. The sinks name a
source only, and follow the register as long as no joined group is replaced or reset. -/
namespace Simble.Controller

/-- A group as it was created, with the handles that were allocated for it. -/
structure Incarnation where
  number : Nat
  group : BigSource
deriving DecidableEq

structure Member where
  receiver : Nat
  incarnation : Incarnation
  sink : BigSink
  encryption : UInt8
  broadcastCode : Bytes

structure Air where
  created : Nat
  /-- Each source's group. -/
  current : Nat → Option Incarnation
  members : List Member

namespace Air
variable (air : Air)

def silent : Air := ⟨0, fun _ => none, []⟩

def ends (source : Nat) : Air := { air with
  current := Function.update air.current source none
  members := air.members.filter fun member => member.sink.source ≠ source }

theorem ends_self (source : Nat) : (air.ends source).current source = none :=
  Function.update_self ..

theorem ends_other {source i : Nat} (other : i ≠ source) :
    (air.ends source).current i = air.current i := Function.update_of_ne other ..

def begins (source : Nat) (group : BigSource) : Air := { air.ends source with
  created := air.created + 1
  current := Function.update air.current source (some ⟨air.created, group⟩) }

def leaves (receiver : Nat) (left : BigSink → Bool) : Air := { air with
  members := air.members.filter fun member => !(member.receiver = receiver && left member.sink) }

def after (medium : Medium) : Step → Air
  | .command i .reset =>
    if (medium.link.controller i).isSome then (air.leaves i fun _ => true).ends i else air
  | .command i (.bigTerminateSync bigHandle) =>
    if (medium.link.controller i).isSome then air.leaves i fun sink => sink.bigHandle = bigHandle
    else air
  | .act =>
    match medium.actions with
    | .createBig from_ source numBis :: _ =>
      if (medium.link.controller from_).isSome then air.begins from_
        { source with bisHandles := (medium.link.allocHandles numBis.toNat).1 } else air
    | .terminateBig from_ _ :: _ => air.ends from_
    | .bigCreateSync from_ bigHandle syncHandle encryption broadcastCode indices :: _ =>
      match medium.link.admits from_ syncHandle encryption broadcastCode indices with
      | .error _ => air
      | .ok (source, _) => { air with members := air.members ++
          ((air.current source).map fun incarnation => (⟨from_, incarnation,
            ⟨bigHandle, source, indices, (medium.link.allocHandles indices.length).1⟩,
            encryption, broadcastCode⟩ : Member)).toList }
    | _ => air
  | _ => air

def heardBy (source receiver : Nat) : List BigSink :=
  (air.members.filter fun member => member.receiver = receiver ∧ member.sink.source = source ∧
    air.current source = some member.incarnation).map Member.sink

/-- Which stream of a source's group a handle was allocated for. -/
def bisIndex (source : Nat) (handle : UInt16) : Option UInt8 := do
  let incarnation ← air.current source
  let slot ← incarnation.group.bisHandles.findIdx? (· = handle)
  some (UInt8.ofNat (slot + 1))

def onHandle (handle : UInt16) : Bytes → Bytes
  | low :: high :: rest => U16.toLeBytes (handle ||| (U16.fromLeBytes low high &&& 0xF000)) ++ rest
  | body => body

def heard (medium : Medium) (step : Step) (receiver : Nat) : List Packet :=
  let lost source := (air.heardBy source receiver).map fun sink =>
    .bigSyncLost sink.bigHandle reasonRemoteUser
  match step with
  | .command i .reset => if receiver = i then [] else lost i
  | .act =>
    match medium.actions with
    | .createBig from_ _ _ :: _ => lost from_
    | .terminateBig from_ _ :: _ => lost from_
    | .iso from_ data :: _ =>
      match air.bisIndex from_ (Link.isoHandle data) with
      | none => []
      | some index => ((air.heardBy from_ receiver).filterMap (Link.BigSink.handleFor · index)).map
          fun handle => .iso (onHandle handle data)
    | _ => []
  | _ => []

end Air

def Packet.isBroadcast : Packet → Bool
  | .bigSyncLost .. | .iso _ => true
  | _ => false

def Isolated (medium : Medium) (air : Air) (step : Step) : Prop :=
  ∀ i before, medium.link.controller i = some before → ∃ after sent,
    (medium.step step).link.controller i = some after ∧ after.outbox = before.outbox ++ sent ∧
      sent.filter Packet.isBroadcast = air.heard medium step i

/-- Who has joined a group that is on air has its keys. -/
def Keyed (air : Air) : Prop :=
  ∀ member ∈ air.members, air.current member.sink.source = some member.incarnation ∧
    member.encryption = member.incarnation.group.encryption ∧
    (member.encryption = 0 ∨ member.broadcastCode = member.incarnation.group.broadcastCode)

structure Tracks (medium : Medium) (air : Air) : Prop where
  sinks : ∀ i controller, medium.link.controller i = some controller →
    controller.bigSinks = (air.members.filter fun member => member.receiver = i).map Member.sink
  keyed : Keyed air
  groups : ∀ i, (medium.link.controller i).bind SimController.big =
    (air.current i).map Incarnation.group
  small : ∀ member ∈ air.members, ∀ handle ∈ member.sink.bisHandles, handle &&& 0x0FFF = handle
  known : ∀ member ∈ air.members, (medium.link.controller member.receiver).isSome

/-- Nobody has joined the group of a source, except perhaps one receiver. -/
def Unheard (link : Link) (source : Nat) (except : Nat → Prop) : Prop :=
  ∀ i controller, link.controller i = some controller → ¬ except i →
    ∀ sink ∈ controller.bigSinks, sink.source ≠ source

/-- A group that somebody has joined is neither replaced nor reset, and handles
that receivers are given fit an ISO packet. -/
def Undisturbed (medium : Medium) : Step → Prop
  | .command i .reset => Unheard medium.link i (· = i)
  | .act =>
    match medium.actions with
    | .createBig from_ _ _ :: _ => Unheard medium.link from_ fun _ => False
    | .bigCreateSync _ _ _ _ _ indices :: _ =>
      ∀ handle ∈ (medium.link.allocHandles indices.length).1, handle &&& 0x0FFF = handle
    | _ => True
  | _ => True

/-! ## Effects -/

namespace Link
variable (link : Link)

theorem controller_change (i j : Nat) (change : SimController → SimController) :
    (link.change i change).controller j =
      (link.controller j).map fun controller => if i = j then change controller else controller :=
  List.getElem?_modify ..

theorem controllers_allocHandles (count : Nat) (link : Link) :
    (link.allocHandles count).2.controllers = link.controllers := by
  induction count generalizing link with
  | zero => rfl
  | succ count ih => exact ih _

theorem controller_allocHandles (count i : Nat) :
    (link.allocHandles count).2.controller i = link.controller i :=
  congrArg (·[i]?) (controllers_allocHandles count link)

end Link

open Air Link

section Preservation
variable {medium : Medium} {air : Air}

/-- A step that does `change` to each controller. -/
def Does (medium next : Medium) (change : Nat → SimController → SimController) : Prop :=
  ∀ i, next.link.controller i = (medium.link.controller i).map (change i)

/-- A controller that keeps its groups, and hears nothing of any. -/
def Quiet (before after : SimController) : Prop :=
  after.big = before.big ∧ after.bigSinks = before.bigSinks ∧
    ∃ sent, after.outbox = before.outbox ++ sent ∧ sent.filter Packet.isBroadcast = []

theorem Quiet.refl (controller : SimController) : Quiet controller controller :=
  ⟨rfl, rfl, [], (List.append_nil _).symm, rfl⟩

theorem tracks_of {next : Medium} {air' : Air} {change : Nat → SimController → SimController}
    (does : Does medium next change)
    (sinks : ∀ i controller, medium.link.controller i = some controller →
      (change i controller).bigSinks =
        (air'.members.filter fun member => member.receiver = i).map Member.sink)
    (keyed : Keyed air')
    (groups : ∀ i, ((medium.link.controller i).map (change i)).bind SimController.big =
      (air'.current i).map Incarnation.group)
    (small : ∀ member ∈ air'.members, ∀ handle ∈ member.sink.bisHandles,
      handle &&& 0x0FFF = handle)
    (known : ∀ member ∈ air'.members, (medium.link.controller member.receiver).isSome) :
    Tracks next air' := by
  refine ⟨fun i after found => ?_, keyed, fun i => ?_, small, fun member joined => ?_⟩
  · rw [does] at found
    obtain ⟨before, was, rfl⟩ := Option.map_eq_some_iff.mp found
    exact sinks i before was
  · rw [does]
    exact groups i
  · rw [does, Option.isSome_map]
    exact known member joined

theorem Tracks.groups_kept (tracks : Tracks medium air) {i : Nat}
    {change : SimController → SimController}
    (kept : ∀ controller, medium.link.controller i = some controller →
      (change controller).big = controller.big) :
    ((medium.link.controller i).map change).bind SimController.big =
      (air.current i).map Incarnation.group := by
  rw [← tracks.groups i]
  cases found : medium.link.controller i with
  | none => rfl
  | some controller => exact kept controller found

def Hears (medium next : Medium) (heard : Nat → List Packet) : Prop :=
  ∀ i before, medium.link.controller i = some before → ∃ after sent,
    next.link.controller i = some after ∧ after.outbox = before.outbox ++ sent ∧
      sent.filter Packet.isBroadcast = heard i

theorem hears_of {next : Medium} {heard : Nat → List Packet}
    {change : Nat → SimController → SimController} (does : Does medium next change)
    (grown : ∀ i controller, medium.link.controller i = some controller → ∃ sent,
      (change i controller).outbox = controller.outbox ++ sent ∧
        sent.filter Packet.isBroadcast = heard i) : Hears medium next heard := by
  intro i before found
  obtain ⟨sent, same, kept⟩ := grown i before found
  exact ⟨change i before, sent, by rw [does, found, Option.map_some], same, kept⟩

theorem Tracks.quiet (tracks : Tracks medium air) {next : Medium}
    {change : Nat → SimController → SimController} (does : Does medium next change)
    (quiet : ∀ i controller, medium.link.controller i = some controller →
      Quiet controller (change i controller)) :
    Tracks next air ∧ Hears medium next fun _ => [] := by
  refine ⟨tracks_of does (fun i controller found => ?_) tracks.keyed
    (fun i => tracks.groups_kept fun controller found => (quiet i controller found).1)
    tracks.small tracks.known, hears_of does fun i controller found => (quiet i controller found).2.2⟩
  rw [(quiet i controller found).2.1, tracks.sinks i controller found]

variable {i : Nat}

section Found
variable (tracks : Tracks medium air) {controller : SimController}
  (found : medium.link.controller i = some controller)
include tracks found

theorem Tracks.heardBy (source : Nat) :
    air.heardBy source i = controller.bigSinks.filter fun sink => sink.source = source := by
  rw [tracks.sinks i controller found, Air.heardBy, List.filter_map, List.filter_filter]
  refine congrArg (List.map Member.sink) (List.filter_congr fun member joined => ?_)
  obtain ⟨on, -⟩ := tracks.keyed member joined
  by_cases same : member.sink.source = source
  · subst same
    simp [on]
  · simp [same]

theorem Tracks.sink_mem {member : Member} (joined : member ∈ air.members)
    (receives : member.receiver = i) :
    member.sink ∈ controller.bigSinks := by
  rw [tracks.sinks i controller found]
  exact List.mem_map_of_mem (List.mem_filter.mpr ⟨joined, decide_eq_true receives⟩)

end Found

variable {source : Nat}

section Other
variable (tracks : Tracks medium air) {except : Nat → Prop}
  (unheard : Unheard medium.link source except) {controller : SimController}
  (found : medium.link.controller i = some controller) (other : ¬ except i)
include tracks unheard found other

/-- Nobody hears the end of a group that nobody has joined. -/
theorem Tracks.heardBy_unheard :
    air.heardBy source i = [] := by
  rw [tracks.heardBy found source]
  refine List.filter_eq_nil_iff.mpr fun sink member same => ?_
  exact unheard i controller found other sink member (of_decide_eq_true same)

/-- A group that nobody has joined ends without a change of the register. -/
theorem Tracks.receivers_ends :
    (air.ends source).members.filter (fun member => member.receiver = i) =
      air.members.filter fun member => member.receiver = i := by
  rw [Air.ends, List.filter_filter]
  refine List.filter_congr fun member joined => ?_
  by_cases receives : member.receiver = i
  · have apart := unheard i controller found other _ (tracks.sink_mem found joined receives)
    simp [apart]
  · simp [receives]

end Other

/-- Who stays when a group ends is in a group of another source. -/
theorem Tracks.keyed_ends (tracks : Tracks medium air) {source : Nat} {member : Member}
    (joined : member ∈ (air.ends source).members) : member.sink.source ≠ source ∧
      ∀ number, Function.update air.current source number member.sink.source =
        some member.incarnation := by
  obtain ⟨was, other⟩ := List.mem_filter.mp joined
  have differs := of_decide_eq_true other
  exact ⟨differs, fun number => by rw [Function.update_of_ne differs]; exact (tracks.keyed _ was).1⟩

/-! ## Commands -/

theorem changeSet_quiet (controller : SimController) (handle : UInt8)
    (change : ExtAdvSet → ExtAdvSet) : (controller.changeSet handle change).big = controller.big ∧
      (controller.changeSet handle change).bigSinks = controller.bigSinks ∧
      (controller.changeSet handle change).outbox = controller.outbox := by
  unfold SimController.changeSet
  split_ifs <;> exact ⟨rfl, rfl, rfl⟩

theorem changeSets_quiet (handles : List UInt8) (change : ExtAdvSet → ExtAdvSet)
    (controller : SimController) :
    (handles.foldl (fun controller handle => controller.changeSet handle change) controller).big =
        controller.big ∧
      (handles.foldl (fun controller handle => controller.changeSet handle change)
        controller).bigSinks = controller.bigSinks ∧
      (handles.foldl (fun controller handle => controller.changeSet handle change)
        controller).outbox = controller.outbox := by
  induction handles generalizing controller with
  | nil => exact ⟨rfl, rfl, rfl⟩
  | cons handle rest ih =>
    obtain ⟨big, sinks, outbox⟩ := changeSet_quiet controller handle change
    obtain ⟨big', sinks', outbox'⟩ := ih (controller.changeSet handle change)
    exact ⟨big'.trans big, sinks'.trans sinks, outbox'.trans outbox⟩

theorem handleCommand_quiet (i : Nat) (controller : SimController) {command : Command}
    (stays : command ≠ .reset) (remains : ∀ bigHandle, command ≠ .bigTerminateSync bigHandle) :
    Quiet controller (handleCommand i controller command).1 := by
  cases command with
  | reset => exact absurd rfl stays
  | bigTerminateSync bigHandle => exact absurd rfl (remains bigHandle)
  | setExtAdvParams handle sid =>
    obtain ⟨big, sinks, outbox⟩ := changeSet_quiet controller handle
      fun set => { set with advertisingSid := sid }
    exact ⟨big, sinks, _, congrArg (· ++ _) outbox, rfl⟩
  | setExtAdvEnable enable handles =>
    obtain ⟨big, sinks, outbox⟩ := changeSets_quiet handles
      (fun set => { set with enabled := enable }) controller
    exact ⟨big, sinks, _, congrArg (· ++ _) outbox, rfl⟩
  | setPeriodicAdvEnable enable handle =>
    obtain ⟨big, sinks, outbox⟩ := changeSet_quiet controller handle
      fun set => { set with periodicEnabled := enable }
    exact ⟨big, sinks, _, congrArg (· ++ _) outbox, rfl⟩
  | periodicAdvCreateSync address sid => exact ⟨rfl, rfl, _, rfl, rfl⟩
  | periodicAdvTerminateSync handle => exact ⟨rfl, rfl, _, rfl, rfl⟩
  | createBig bigHandle advertisingHandle numBis encryption broadcastCode =>
    unfold handleCommand
    simp only
    split_ifs <;> exact ⟨rfl, rfl, _, rfl, rfl⟩
  | terminateBig bigHandle =>
    unfold handleCommand
    simp only
    split_ifs <;> exact ⟨rfl, rfl, _, rfl, rfl⟩
  | bigCreateSync bigHandle syncHandle encryption broadcastCode indices =>
    unfold handleCommand
    simp only
    split_ifs <;> exact ⟨rfl, rfl, _, rfl, rfl⟩

/-! ## Steps -/

theorem does_command {controller : SimController}
    (found : medium.link.controller i = some controller) (command : Command) :
    Does medium (medium.step (.command i command)) fun j other =>
      if i = j then (handleCommand i controller command).1 else other := by
  intro j
  unfold Medium.step
  simp only [found]
  exact controller_change ..

theorem command_step (tracks : Tracks medium air) {command : Command}
    (undisturbed : Undisturbed medium (.command i command)) :
    Tracks (medium.step (.command i command)) (air.after medium (.command i command)) ∧
      Isolated medium air (.command i command) := by
  cases found : medium.link.controller i with
  | none =>
    have same : medium.step (.command i command) = medium := by
      unfold Medium.step
      simp only [found]
    have silent : air.after medium (.command i command) = air := by
      unfold Air.after
      cases command <;> simp [found]
    rw [same, silent]
    refine ⟨tracks, fun j other known => ⟨other, [], by rw [same]; exact known,
      (List.append_nil _).symm, ?_⟩⟩
    unfold heard
    cases command <;> simp only [List.filter_nil]
    split_ifs with receives
    · rfl
    · rw [tracks.heardBy_unheard undisturbed known receives]
      rfl
  | some controller =>
    have does := does_command found command
    by_cases resets : command = .reset
    · subst resets
      have after : air.after medium (.command i .reset) = (air.leaves i fun _ => true).ends i := by
        simp [Air.after, found]
      have left : ∀ member ∈ ((air.leaves i fun _ => true).ends i).members,
          member ∈ (air.ends i).members ∧ member.receiver ≠ i := by
        intro member joined
        obtain ⟨stays, other⟩ := List.mem_filter.mp joined
        obtain ⟨was, away⟩ := List.mem_filter.mp stays
        exact ⟨List.mem_filter.mpr ⟨was, other⟩, by simpa using away⟩
      rw [after]
      refine ⟨tracks_of does (fun j other known => ?_) (fun member joined => ?_)
        (fun j => ?_) (fun member joined => ?_) fun member joined =>
          tracks.known member (List.mem_filter.mp (left member joined).1).1,
        hears_of does fun j other known => ?_⟩
      · by_cases same : i = j
        · subst same
          rw [if_pos rfl, List.filter_eq_nil_iff.mpr fun member joined receives =>
            (left member joined).2 (of_decide_eq_true receives)]
          rfl
        · rw [if_neg same, tracks.sinks j other known,
            ← tracks.receivers_ends undisturbed known (Ne.symm same)]
          apply congrArg (List.map Member.sink)
          unfold ends Air.leaves
          rw [List.filter_filter, List.filter_filter, List.filter_filter]
          refine List.filter_congr fun member _ => ?_
          by_cases receives : member.receiver = j
          · simp [receives, Ne.symm same]
          · simp [receives]
      · have stays := (left member joined).1
        exact ⟨(tracks.keyed_ends stays).2 none,
          (tracks.keyed member (List.mem_filter.mp stays).1).2⟩
      · by_cases same : i = j
        · subst same
          rw [found, Option.map_some, if_pos rfl, ends_self]
          rfl
        · rw [ends_other _ (Ne.symm same)]
          exact tracks.groups_kept fun _ _ => by rw [if_neg same]
      · exact tracks.small member (List.mem_filter.mp (left member joined).1).1
      · by_cases same : i = j
        · subst same
          rw [found] at known
          cases known
          refine ⟨[.commandComplete Status.success], ?_, ?_⟩
          · rw [if_pos rfl]
            rfl
          · simp [heard, Packet.isBroadcast]
        · refine ⟨[], by rw [if_neg same, List.append_nil], ?_⟩
          unfold heard
          simp only [if_neg (Ne.symm same)]
          rw [tracks.heardBy_unheard undisturbed known (Ne.symm same)]
          rfl
    by_cases leaves : ∃ bigHandle, command = .bigTerminateSync bigHandle
    · obtain ⟨bigHandle, rfl⟩ := leaves
      have after : air.after medium (.command i (.bigTerminateSync bigHandle)) =
          air.leaves i fun sink => sink.bigHandle = bigHandle := by
        simp [Air.after, found]
      rw [after]
      refine ⟨tracks_of does (fun j other known => ?_)
        (fun member joined => tracks.keyed member (List.mem_filter.mp joined).1)
        (fun j => tracks.groups_kept fun other known => ?_)
        (fun member joined => tracks.small member (List.mem_filter.mp joined).1)
        fun member joined => tracks.known member (List.mem_filter.mp joined).1,
        hears_of does fun j other known => ?_⟩
      · unfold Air.leaves
        rw [List.filter_filter]
        by_cases same : i = j
        · subst same
          rw [if_pos rfl]
          rw [found] at known
          cases known
          have sinks := tracks.sinks i controller found
          change controller.bigSinks.filter _ = _
          rw [sinks, List.filter_map, List.filter_filter]
          refine congrArg (List.map Member.sink) (List.filter_congr fun member _ => ?_)
          by_cases receives : member.receiver = i <;> simp [receives]
        · rw [if_neg same, tracks.sinks j other known]
          refine congrArg (List.map Member.sink) (List.filter_congr fun member _ => ?_)
          by_cases receives : member.receiver = j
          · simp [receives, Ne.symm same]
          · simp [receives]
      · split_ifs with same
        · subst same
          rw [found] at known
          cases known
          rfl
        · rfl
      · by_cases same : i = j
        · subst same
          rw [found] at known
          cases known
          exact ⟨_, by rw [if_pos rfl]; rfl, rfl⟩
        · exact ⟨[], by rw [if_neg same, List.append_nil], rfl⟩
    · have quiet := handleCommand_quiet i controller resets fun bigHandle same =>
        leaves ⟨bigHandle, same⟩
      have unheard : ∀ j, air.heard medium (.command i command) j = [] := by
        intro j
        cases command <;> first | rfl | exact absurd rfl resets
      have after : air.after medium (.command i command) = air := by
        cases command <;> first | rfl | exact absurd rfl resets | exact absurd ⟨_, rfl⟩ leaves
      rw [after]
      obtain ⟨kept, hears⟩ := tracks.quiet does fun j other known => by
        split_ifs with same
        · subst same
          rw [found] at known
          cases known
          exact quiet
        · exact .refl other
      refine ⟨kept, fun j other known => ?_⟩
      rw [unheard]
      exact hears j other known

/-- A link on which nothing changes for the hosts' groups. -/
theorem quiet_same (tracks : Tracks medium air) {next : Medium}
    (same : ∀ i, next.link.controller i = medium.link.controller i) :
    Tracks next air ∧ Hears medium next fun _ => [] :=
  @Tracks.quiet _ _ tracks _ (fun _ controller => controller)
    (fun i => by rw [same, Option.map_id']) fun _ controller _ => .refl controller

theorem synchronize_cases (link : Link) (i : Nat) : link.synchronize i = link ∨
    ∃ (sync : PaSync) (sid : UInt8) (address : Address), ∀ j,
      (link.synchronize i).controller j = (link.controller j).map fun other => if i = j then
        ({ other with pendingPaSync := none, paSyncs := other.paSyncs ++ [sync] }).push
          (.periodicSyncEstablished sync.syncHandle sid address) else other := by
  unfold synchronize
  cases (link.controller i).bind SimController.pendingPaSync with
  | none => exact .inl rfl
  | some pending =>
    simp only
    cases link.findTrain pending with
    | none => exact .inl rfl
    | some train =>
      refine .inr ⟨⟨(link.allocHandles 1).1.headD 0, train.1, train.2⟩, pending.advertisingSid,
        pending.address, fun j => (controller_change ..).trans ?_⟩
      rw [controller_allocHandles]

theorem synchronize_step (tracks : Tracks medium air) (i : Nat) :
    Tracks (medium.step (.synchronize i)) air ∧
      Hears medium (medium.step (.synchronize i)) fun _ => [] := by
  rcases synchronize_cases medium.link i with same | ⟨sync, sid, address, does⟩
  · exact quiet_same tracks fun j => congrArg (controller · j) same
  · refine tracks.quiet does fun j other known => ?_
    split_ifs
    · exact ⟨rfl, rfl, _, rfl, rfl⟩
    · exact .refl other

theorem act_eq {action : Action} {rest : List Action} (next : medium.actions = action :: rest) :
    medium.step .act = ⟨medium.link.perform action, rest⟩ := by
  unfold Medium.step
  simp only [next]

theorem createBig_step (tracks : Tracks medium air) {from_ : Nat} {source : BigSource}
    {numBis : UInt8} {rest : List Action}
    (unheard : Unheard medium.link from_ fun _ => False) :
    Tracks ⟨medium.link.routeCreateBig from_ source numBis, rest⟩
        (if (medium.link.controller from_).isSome then air.begins from_
          { source with bisHandles := (medium.link.allocHandles numBis.toNat).1 } else air) ∧
      Hears medium ⟨medium.link.routeCreateBig from_ source numBis, rest⟩ fun _ => [] := by
  have does : Does medium ⟨medium.link.routeCreateBig from_ source numBis, rest⟩
      fun j other => if from_ = j then
        ({ other with big := some { source with
          bisHandles := (medium.link.allocHandles numBis.toNat).1 } }).push
            (.createBigComplete Status.success source.bigHandle
              (medium.link.allocHandles numBis.toNat).1) else other := by
    intro j
    apply (controller_change ..).trans
    rw [controller_allocHandles]
  have hears : Hears medium ⟨medium.link.routeCreateBig from_ source numBis, rest⟩
      fun _ => [] := by
    refine hears_of does fun j other known => ?_
    split_ifs
    · exact ⟨_, rfl, rfl⟩
    · exact ⟨[], (List.append_nil _).symm, rfl⟩
  refine ⟨?_, hears⟩
  cases found : medium.link.controller from_ with
  | none =>
    refine (tracks.quiet does fun j other known => ?_).1
    rw [if_neg fun same => by subst same; rw [found] at known; contradiction]
    exact .refl other
  | some controller =>
    refine tracks_of does (fun j other known => ?_) (fun member joined => ?_) (fun j => ?_)
      (fun member joined => tracks.small member (List.mem_filter.mp joined).1)
      fun member joined => tracks.known member (List.mem_filter.mp joined).1
    · have kept := tracks.receivers_ends unheard known not_false
      change _ = ((air.ends from_).members.filter _).map _
      rw [kept, ← tracks.sinks j other known]
      split_ifs <;> rfl
    · exact ⟨(@Tracks.keyed_ends _ _ tracks from_ _ joined).2 _,
        (tracks.keyed member (List.mem_filter.mp joined).1).2⟩
    · by_cases same : from_ = j
      · subst same
        rw [found, Option.map_some, if_pos rfl]
        exact (congrArg (Option.map Incarnation.group)
          (Function.update_self from_ (some ⟨air.created, _⟩) air.current)).symm
      · refine (tracks.groups_kept fun _ _ => by rw [if_neg same]).trans ?_
        exact congrArg (Option.map _) (Function.update_of_ne (Ne.symm same) _ air.current).symm

variable {from_ : Nat}

theorem terminateBig_step (tracks : Tracks medium air) {bigHandle : UInt8} {rest : List Action} :
    Tracks ⟨medium.link.routeTerminateBig from_ bigHandle, rest⟩ (air.ends from_) ∧
      Hears medium ⟨medium.link.routeTerminateBig from_ bigHandle, rest⟩ fun receiver =>
        (air.heardBy from_ receiver).map fun sink =>
          .bigSyncLost sink.bigHandle reasonRemoteUser := by
  have does : Does medium ⟨medium.link.routeTerminateBig from_ bigHandle, rest⟩
      fun j other => loseSource from_ (if from_ = j then
        ({ other with big := none }).push (.terminateBigComplete bigHandle reasonLocalHost)
          else other) := by
    intro j
    refine List.getElem?_map.trans ?_
    apply (congrArg (Option.map _) (controller_change ..)).trans
    rw [Option.map_map]
    rfl
  have sinks : ∀ (j : Nat) (other : SimController), (if from_ = j then
      ({ other with big := none }).push (.terminateBigComplete bigHandle reasonLocalHost)
        else other).bigSinks = other.bigSinks := by
    intro j other
    split_ifs <;> rfl
  refine ⟨tracks_of does (fun j other known => ?_) (fun member joined => ?_) (fun j => ?_)
    (fun member joined => tracks.small member (List.mem_filter.mp joined).1)
    fun member joined => tracks.known member (List.mem_filter.mp joined).1,
    hears_of does fun j other known => ?_⟩
  · unfold loseSource
    simp only [sinks]
    rw [tracks.sinks j other known, List.filter_map, ends, List.filter_filter,
      List.filter_filter]
    refine congrArg (List.map Member.sink) (List.filter_congr fun member _ => ?_)
    rw [Bool.and_comm]
    rfl
  · exact ⟨(tracks.keyed_ends joined).2 none, (tracks.keyed member (List.mem_filter.mp joined).1).2⟩
  · by_cases same : from_ = j
    · subst same
      rw [ends_self]
      cases medium.link.controller from_ with
      | none => rfl
      | some => simp [loseSource, SimController.push]
    · rw [ends_other _ (Ne.symm same)]
      exact tracks.groups_kept fun _ _ => by rw [if_neg same]; rfl
  · rw [tracks.heardBy known]
    unfold loseSource
    have silent : ∀ sinks : List BigSink, (sinks.map fun sink =>
        Packet.bigSyncLost sink.bigHandle reasonRemoteUser).filter Packet.isBroadcast =
          sinks.map fun sink => Packet.bigSyncLost sink.bigHandle reasonRemoteUser := by
      intro sinks
      refine List.filter_eq_self.mpr fun packet member => ?_
      obtain ⟨sink, -, rfl⟩ := List.mem_map.mp member
      rfl
    by_cases same : from_ = j
    · refine ⟨.terminateBigComplete bigHandle reasonLocalHost :: _, ?_, silent _⟩
      rw [if_pos same]
      exact List.append_assoc ..
    · exact ⟨_, by rw [if_neg same], silent _⟩

theorem admits_ok {link : Link} {syncHandle : UInt16} {encryption : UInt8} {broadcastCode : Bytes}
    {indices : List UInt8} {big : BigSource}
    (admitted : link.admits from_ syncHandle encryption broadcastCode indices = .ok (source, big)) :
    (link.controller from_).isSome ∧
      (∃ controller, link.controller source = some controller ∧ controller.big = some big) ∧
      encryption = big.encryption ∧ (encryption = 0 ∨ broadcastCode = big.broadcastCode) := by
  unfold admits at admitted
  simp only at admitted
  split at admitted
  · contradiction
  · rename_i source' big' found
    split_ifs at admitted with valid coded
    cases admitted
    obtain ⟨receiver, received, found⟩ := Option.bind_eq_some_iff.mp found
    obtain ⟨sync, -, found⟩ := Option.bind_eq_some_iff.mp found
    obtain ⟨controller, known, found⟩ := Option.bind_eq_some_iff.mp found
    obtain ⟨held, owns, found⟩ := Option.bind_eq_some_iff.mp found
    split_ifs at found
    cases found
    exact ⟨by rw [received]; rfl, ⟨controller, known, owns⟩, coded⟩

theorem bigCreateSync_step (tracks : Tracks medium air) {bigHandle : UInt8} {syncHandle : UInt16}
    {encryption : UInt8} {broadcastCode : Bytes} {indices : List UInt8} {rest : List Action}
    (next : medium.actions =
      .bigCreateSync from_ bigHandle syncHandle encryption broadcastCode indices :: rest)
    (fit : ∀ handle ∈ (medium.link.allocHandles indices.length).1, handle &&& 0x0FFF = handle) :
    Tracks ⟨medium.link.routeBigCreateSync from_ bigHandle syncHandle encryption broadcastCode
        indices, rest⟩ (air.after medium .act) ∧
      Hears medium ⟨medium.link.routeBigCreateSync from_ bigHandle syncHandle encryption
        broadcastCode indices, rest⟩ fun _ => [] := by
  unfold after routeBigCreateSync
  simp only [next]
  cases admitted : medium.link.admits from_ syncHandle encryption broadcastCode indices with
  | error status =>
    refine tracks.quiet (fun j => controller_change ..) fun j other known => ?_
    split_ifs
    · exact ⟨rfl, rfl, _, rfl, rfl⟩
    · exact .refl other
  | ok found =>
    obtain ⟨source, big⟩ := found
    obtain ⟨receives, ⟨controller, held, owns⟩, key⟩ := admits_ok admitted
    obtain ⟨incarnation, on, rfl⟩ : ∃ incarnation, air.current source = some incarnation ∧
        incarnation.group = big :=
      Option.map_eq_some_iff.mp ((tracks.groups source).symm.trans (by rw [held]; exact owns))
    simp only [on, Option.map_some, Option.toList_some]
    have does : Does medium ⟨(medium.link.allocHandles indices.length).2.change from_
        fun controller => ({ controller with bigSinks := controller.bigSinks ++
          [(⟨bigHandle, source, indices, (medium.link.allocHandles indices.length).1⟩ : BigSink)] }).push
            (.bigSyncEstablished Status.success bigHandle
              (medium.link.allocHandles indices.length).1), rest⟩
        fun j other => if from_ = j then ({ other with bigSinks := other.bigSinks ++
          [(⟨bigHandle, source, indices, (medium.link.allocHandles indices.length).1⟩ : BigSink)] }).push
            (.bigSyncEstablished Status.success bigHandle
              (medium.link.allocHandles indices.length).1) else other := by
      intro j
      apply (controller_change ..).trans
      rw [controller_allocHandles]
    refine ⟨tracks_of does (fun j other known => ?_) (fun member joined => ?_)
      (fun j => tracks.groups_kept fun other _ => ?_) (fun member joined => ?_)
      fun member joined => ?_, hears_of does fun j other known => ?_⟩
    · by_cases same : from_ = j
      · subst same
        rw [if_pos rfl, List.filter_append, List.map_append, ← tracks.sinks from_ other known]
        simp [SimController.push]
      · rw [if_neg same, List.filter_append, List.map_append, ← tracks.sinks j other known]
        simp [same]
    · rcases List.mem_append.mp joined with earlier | new
      · exact tracks.keyed member earlier
      · cases List.mem_singleton.mp new
        exact ⟨on, key⟩
    · split_ifs <;> rfl
    · rcases List.mem_append.mp joined with earlier | new
      · exact tracks.small member earlier
      · cases List.mem_singleton.mp new
        exact fit
    · rcases List.mem_append.mp joined with earlier | new
      · exact tracks.known member earlier
      · cases List.mem_singleton.mp new
        exact receives
    · split_ifs
      · exact ⟨_, rfl, rfl⟩
      · exact ⟨[], (List.append_nil _).symm, rfl⟩

theorem rewriteIsoHandle_small {handle : UInt16} (small : handle &&& 0x0FFF = handle)
    (data : Bytes) : rewriteIsoHandle handle data = onHandle handle data := by
  unfold rewriteIsoHandle onHandle
  match data with
  | [] | [_] => rfl
  | _ :: _ :: _ => simp only [small]

theorem Tracks.bisIndex (tracks : Tracks medium air) (source : Nat) (handle : UInt16) :
    medium.link.bisIndex source handle = air.bisIndex source handle := by
  have same := tracks.groups source
  have found := congrArg (Option.bind · fun (big : BigSource) =>
    (big.bisHandles.findIdx? (· = handle)).bind fun slot => some (UInt8.ofNat (slot + 1))) same
  simp only [Option.bind_assoc, Option.bind_map] at found
  exact found

theorem iso_step (tracks : Tracks medium air) {data : Bytes} {rest : List Action}
    (next : medium.actions = .iso from_ data :: rest) :
    Tracks ⟨medium.link.routeBisIso from_ data, rest⟩ air ∧
      Hears medium ⟨medium.link.routeBisIso from_ data, rest⟩ (air.heard medium .act) := by
  unfold routeBisIso heard
  simp only [next, tracks.bisIndex]
  cases air.bisIndex from_ (isoHandle data) with
  | none => exact quiet_same tracks fun _ => rfl
  | some index =>
    have does : Does medium ⟨{ medium.link with
        controllers := medium.link.controllers.map (deliverSdu from_ index data) }, rest⟩
        fun _ => deliverSdu from_ index data := fun _ => List.getElem?_map
    refine ⟨tracks_of does tracks.sinks tracks.keyed
      (fun _ => tracks.groups_kept fun _ _ => rfl) tracks.small tracks.known,
      hears_of does fun j other known => ⟨_, rfl, ?_⟩⟩
    rw [tracks.heardBy known, List.filter_eq_self.mpr]
    · refine List.map_congr_left fun handle member => ?_
      obtain ⟨sink, among, given⟩ := List.mem_filterMap.mp member
      have owned := (List.mem_filter.mp among).1
      rw [tracks.sinks j other known] at owned
      obtain ⟨place, joined, rfl⟩ := List.mem_map.mp owned
      obtain ⟨position, -, found⟩ := Option.bind_eq_some_iff.mp given
      rw [rewriteIsoHandle_small (tracks.small place (List.mem_filter.mp joined).1 handle
        (List.mem_of_getElem? found))]
    · intro packet member
      obtain ⟨handle, -, rfl⟩ := List.mem_map.mp member
      rfl

theorem act_step (tracks : Tracks medium air) (undisturbed : Undisturbed medium .act) :
    Tracks (medium.step .act) (air.after medium .act) ∧ Isolated medium air .act := by
  cases next : medium.actions with
  | nil =>
    have same : medium.step .act = medium := by
      unfold Medium.step
      simp only [next]
    have silent : air.after medium .act = air := by
      unfold after
      simp only [next]
    have unheard : air.heard medium .act = fun _ => [] := by
      unfold heard
      simp only [next]
    unfold Isolated
    rw [same, silent, unheard]
    exact quiet_same tracks fun _ => rfl
  | cons action rest =>
    unfold Isolated
    rw [act_eq next]
    cases action with
    | createBig from_ source numBis =>
      unfold Undisturbed at undisturbed
      simp only [next] at undisturbed
      obtain ⟨kept, hears⟩ := @createBig_step _ _ tracks _ source numBis rest undisturbed
      refine ⟨?_, fun j other known => ?_⟩
      · unfold after
        simp only [next]
        exact kept
      · unfold heard
        simp only [next]
        rw [tracks.heardBy_unheard undisturbed known not_false]
        exact hears j other known
    | terminateBig from_ bigHandle =>
      unfold after heard
      simp only [next]
      exact terminateBig_step tracks
    | bigCreateSync from_ bigHandle syncHandle encryption broadcastCode indices =>
      unfold Undisturbed at undisturbed
      simp only [next] at undisturbed
      obtain ⟨kept, hears⟩ := bigCreateSync_step tracks next undisturbed
      refine ⟨kept, ?_⟩
      unfold heard
      simp only [next]
      exact hears
    | iso from_ data =>
      obtain ⟨kept, hears⟩ := iso_step tracks next
      refine ⟨?_, hears⟩
      unfold after
      simp only [next]
      exact kept

theorem addDevice_step (tracks : Tracks medium air) (address : Address) :
    Tracks (medium.step (.addDevice address)) air ∧
      Hears medium (medium.step (.addDevice address)) fun _ => [] := by
  have kept : ∀ i controller, medium.link.controller i = some controller →
      (medium.step (.addDevice address)).link.controller i = some controller := by
    intro i controller found
    have bound := (List.getElem?_eq_some_iff.mp found).1
    exact (List.getElem?_append_left bound).trans found
  have added : ∀ i controller,
      (medium.step (.addDevice address)).link.controller i = some controller →
        medium.link.controller i = some controller ∨
          controller = .new address ∧ medium.link.controller i = none := by
    intro i controller found
    change (medium.link.controllers ++ [SimController.new address])[i]? = _ at found
    rcases Nat.lt_or_ge i medium.link.controllers.length with old | beyond
    · rw [List.getElem?_append_left old] at found
      exact .inl found
    · rw [List.getElem?_append_right beyond] at found
      exact .inr ⟨List.mem_singleton.mp (List.mem_of_getElem? found),
        List.getElem?_eq_none_iff.mpr beyond⟩
  refine ⟨⟨fun i controller found => ?_, tracks.keyed, fun i => ?_, tracks.small,
    fun member joined => ?_⟩, fun i before found => ⟨before, [], kept i before found,
      (List.append_nil _).symm, rfl⟩⟩
  · rcases added i controller found with old | ⟨rfl, absent⟩
    · exact tracks.sinks i controller old
    · rw [List.filter_eq_nil_iff.mpr fun member joined receives => ?_]
      · rfl
      · have known := tracks.known member joined
        rw [of_decide_eq_true receives, absent] at known
        contradiction
  · rw [← tracks.groups i]
    cases found : (medium.step (.addDevice address)).link.controller i with
    | none =>
      cases was : medium.link.controller i with
      | none => rfl
      | some controller =>
        rw [kept i controller was] at found
        cases found
    | some controller =>
      rcases added i controller found with old | ⟨rfl, absent⟩
      · rw [old]
      · rw [absent]
        rfl
  · obtain ⟨controller, found⟩ := Option.isSome_iff_exists.mp (tracks.known member joined)
    rw [kept _ _ found]
    rfl

theorem step_tracks (tracks : Tracks medium air) {step : Step}
    (undisturbed : Undisturbed medium step) :
    Tracks (medium.step step) (air.after medium step) ∧ Isolated medium air step := by
  cases step with
  | command i command => exact command_step tracks undisturbed
  | act => exact act_step tracks undisturbed
  | synchronize i => exact synchronize_step tracks i
  | addDevice address => exact addDevice_step tracks address
  | connect count => exact quiet_same tracks fun i => controller_allocHandles ..
  | write i data =>
    refine quiet_same tracks fun j => ?_
    simp only [Medium.step]
    split_ifs <;> rfl

end Preservation

/-! ## Runs -/

structure Station where
  medium : Medium
  air : Air

def Station.next (station : Station) (step : Step) : Station :=
  ⟨station.medium.step step, station.air.after station.medium step⟩

def Passes (station : Station) (step : Step) (after : Station) : Prop := after = station.next step

/-- A medium on which no group has been created or joined. -/
structure Unused (medium : Medium) : Prop where
  big : ∀ i controller, medium.link.controller i = some controller → controller.big = none
  sinks : ∀ i controller, medium.link.controller i = some controller → controller.bigSinks = []

theorem Unused.tracks {medium : Medium} (unused : Unused medium) : Tracks medium .silent where
  sinks i controller found := unused.sinks i controller found
  keyed := nofun
  groups i := by
    cases found : medium.link.controller i with
    | none => rfl
    | some controller => exact unused.big i controller found
  small := nofun
  known := nofun

def sourceAddress : Address := ⟨⟨[1, 2, 3, 4, 5, 6], rfl⟩⟩
def receiverAddress : Address := ⟨⟨[6, 5, 4, 3, 2, 1], rfl⟩⟩

def twoDevices : Medium :=
  ⟨⟨[.new sourceAddress, .new receiverAddress], 0x0001⟩, []⟩

theorem twoDevices_unused : Unused twoDevices := by
  constructor <;> intro i controller found
  all_goals
    match i with
    | 0 | 1 => cases found; rfl
    | _ + 2 => contradiction

/-- The source starts a train and a group of one stream, and the receiver synchronizes and joins. -/
def joining : List Step :=
  [.command 0 (.setExtAdvParams 0 5), .command 0 (.setExtAdvEnable true [0]),
    .command 0 (.setPeriodicAdvEnable true 0), .command 0 (.createBig 7 0 1 0 []), .act,
    .command 1 (.periodicAdvCreateSync sourceAddress 5), .synchronize 1,
    .command 1 (.bigCreateSync 9 0x0002 0 [] [1]), .act]

def AllUndisturbed (station : Station) : List Step → Prop
  | [] => True
  | step :: rest => Undisturbed station.medium step ∧ AllUndisturbed (station.next step) rest

theorem undisturbed_run {start : Station} (steps : List Step) {earlier : List Step}
    {station : Station} (undisturbed : AllUndisturbed station steps)
    (run : Lib.Run (Lib.Guarded (fun station step => Undisturbed station.medium step) Passes)
      start earlier station) :
    Lib.Run (Lib.Guarded (fun station step => Undisturbed station.medium step) Passes) start
      (earlier ++ steps) (steps.foldl Station.next station) := by
  induction steps generalizing earlier station with
  | nil => rwa [List.append_nil]
  | cons step rest ih =>
    have later := ih undisturbed.2 (run.snoc ⟨undisturbed.1, rfl⟩)
    rwa [List.append_assoc] at later

theorem unheard_of_all {link : Link} {source : Nat} {except : Nat → Prop}
    (apart : ∀ controller ∈ link.controllers, ∀ sink ∈ controller.bigSinks, sink.source ≠ source) :
    Unheard link source except :=
  fun _ controller found _ => apart controller (List.mem_of_getElem? found)

def speaking : List Step := joining ++ [.write 0 [1, 0, 1, 0, 42]]

end Simble.Controller
