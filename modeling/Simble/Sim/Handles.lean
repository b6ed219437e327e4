import Simble.Lib.Along
import Simble.Sim.Edits

/-! The counter that all handles on the simulated medium come from. Connections, synchronous
links, broadcast streams and periodic trains take theirs and none gives one back: what a handle is
worth depends on how many were taken before. -/
namespace Simble.Sim
open Simble.Lib Controller.Link List

/-- The medium with all that takes handles from its counter, which the two have in common. -/
structure Air where
  link : Link
  medium : Controller.Medium

def handOut (counter : UInt16) : Nat → List UInt16 × UInt16
  | 0 => ([], counter)
  | count + 1 =>
    let (handles, last) := handOut (max (counter + 1) 1) count
    (counter :: handles, last)

def SimController.handles (controller : SimController) : List UInt16 :=
  controller.connections.map Connection.handle ++ controller.scoLinks.map ScoLink.scoHandle

def broadcastHandles (controller : Controller.SimController) : List UInt16 :=
  (controller.big.map Controller.BigSource.bisHandles).getD [] ++
    (controller.paSyncs.map Controller.PaSync.syncHandle ++
      controller.bigSinks.flatMap Controller.BigSink.bisHandles)

def Link.takes (link : Link) : Step → Nat
  | .connect .. => 1
  | .act =>
    match link.actions.head? with
    | some (.scoAnswer sender peer reject) => if link.joinsSco sender peer reject then 1 else 0
    | _ => 0
  | _ => 0

def mediumTakes (medium : Controller.Medium) : Controller.Step → Nat
  | .synchronize i =>
    match (medium.link.controller i).bind Controller.SimController.pendingPaSync with
    | none => 0
    | some pending => if (medium.link.findTrain pending).isSome then 1 else 0
  | .act =>
    match medium.actions.head? with
    | some (.createBig _ _ numBis) => numBis.toNat
    | some (.bigCreateSync sender _ syncHandle encryption broadcastCode indices) =>
      match medium.link.admits sender syncHandle encryption broadcastCode indices with
      | .error _ => 0
      | .ok _ => indices.length
    | _ => 0
  | _ => 0

namespace Air

inductive Label where
  | link (step : Step)
  | broadcast (step : Controller.Step)

variable (air : Air)

def next : Label → Air
  | .link step =>
    let link := air.link.step step
    ⟨link, { air.medium with
      link := { air.medium.link with nextHandle := link.nextHandle } }⟩
  -- The connection procedures are those of the link.
  | .broadcast (.connect _) => air
  | .broadcast step =>
    let medium := air.medium.step step
    ⟨{ air.link with nextHandle := medium.link.nextHandle }, medium⟩

def takes : Label → Nat
  | .link step => air.link.takes step
  | .broadcast step => mediumTakes air.medium step

def given (label : Label) : List UInt16 := (handOut air.link.nextHandle (air.takes label)).1

def Live (handle : UInt16) : Prop :=
  (∃ i, handle ∈ (air.link.controllers i).handles) ∨
    ∃ controller ∈ air.medium.link.controllers, handle ∈ broadcastHandles controller

def new (addresses : Nat → Address) (devices : Nat) : Air :=
  ⟨.new addresses, ⟨⟨(List.range devices).map fun i => .new (addresses i), 1⟩, []⟩⟩

def taken : Air → List Label → Nat
  | _, [] => 0
  | air, label :: labels => air.takes label + taken (air.next label) labels

/-- What handles have to be: connection handles that a packet can carry, and no others' at
that moment. -/
structure Sound (label : Label) : Prop where
  valid : ∀ handle ∈ air.given label, 0x0001 ≤ handle ∧ handle ≤ 0x0EFF ∧
    handle &&& 0x0FFF = handle
  distinct : (air.given label).Nodup
  fresh : ∀ handle ∈ air.given label, ¬ air.Live handle

end Air

/-! ## The counter -/

theorem succ_toNat {counter : UInt16} (bounded : counter.toNat + 1 < 2 ^ 16) :
    (max (counter + 1) 1).toNat = counter.toNat + 1 := by
  have sum : (counter + 1).toNat = counter.toNat + 1 := by
    rw [UInt16.toNat_add]
    exact Nat.mod_eq_of_lt bounded
  change (if counter + 1 ≤ 1 then 1 else counter + 1).toNat = _
  split_ifs with least
  · rw [UInt16.le_iff_toNat_le, sum] at least
    change 1 = counter.toNat + 1
    change counter.toNat + 1 ≤ 1 at least
    omega
  · exact sum

theorem handOut_toNat {counter : UInt16} {count : Nat} (bounded : counter.toNat + count < 2 ^ 16) :
    (handOut counter count).1.map UInt16.toNat = List.range' counter.toNat count ∧
      (handOut counter count).2.toNat = counter.toNat + count := by
  induction count generalizing counter with
  | zero => exact ⟨rfl, rfl⟩
  | succ count ih =>
    have later := @succ_toNat counter (by omega)
    obtain ⟨numbers, last⟩ := @ih (max (counter + 1) 1) (by omega)
    constructor
    · rw [handOut, map_cons, numbers, later]
      rfl
    · rw [handOut, last, later]
      omega

theorem mem_handOut {counter : UInt16} {count before : Nat} (within : before < count)
    (bounded : counter.toNat + before < 2 ^ 16) :
    ∃ handle ∈ (handOut counter count).1, handle.toNat = counter.toNat + before := by
  induction before generalizing counter count with
  | zero =>
    obtain ⟨count, rfl⟩ := Nat.exists_eq_succ_of_ne_zero (Nat.ne_of_gt within)
    exact ⟨counter, mem_cons_self, rfl⟩
  | succ before ih =>
    obtain ⟨count, rfl⟩ := Nat.exists_eq_succ_of_ne_zero (Nat.ne_of_gt (Nat.zero_lt_of_lt within))
    have later := @succ_toNat counter (by omega)
    obtain ⟨handle, inside, same⟩ := @ih (max (counter + 1) 1) count (by omega) (by omega)
    exact ⟨handle, mem_cons_of_mem _ inside, by omega⟩

theorem allocHandles_handOut (link : Controller.Link) (count : Nat) :
    link.allocHandles count = ((handOut link.nextHandle count).1,
      { link with nextHandle := (handOut link.nextHandle count).2 }) := by
  induction count generalizing link with
  | zero => rfl
  | succ count ih =>
    rw [allocHandles, ih]
    rfl

/-! ## What steps take -/

section Steps
variable (link : Link)

def Given (given : List UInt16) (before after : SimController) : Prop :=
  ∀ handle ∈ after.handles, handle ∈ before.handles ∨ handle ∈ given

namespace Given
variable {given : List UInt16} {before after : SimController}

theorem steady (given : List UInt16) : Steady (Given given) where
  refl _ := fun _ => .inl
  trans first second := fun handle inside =>
    (second handle inside).elim (first handle) .inr

theorem of_subset (connections : ∀ connection ∈ after.connections,
      ∃ earlier ∈ before.connections, earlier.handle = connection.handle)
    (scoLinks : after.scoLinks ⊆ before.scoLinks) : Given given before after := by
  intro handle inside
  refine .inl (mem_append.mpr ((mem_append.mp inside).imp (fun own => ?_) fun own => ?_))
  · obtain ⟨connection, held, rfl⟩ := mem_map.mp own
    obtain ⟨earlier, held, same⟩ := connections connection held
    exact mem_map.mpr ⟨earlier, held, same⟩
  · exact map_subset _ scoLinks own

theorem of_same (connections : after.connections = before.connections)
    (scoLinks : after.scoLinks = before.scoLinks) : Given given before after :=
  of_subset (fun connection held => ⟨connection, connections ▸ held, rfl⟩)
    (scoLinks ▸ List.Subset.refl _)

theorem changeConnection (controller : SimController) (handle : UInt16)
    {change : Connection → Connection}
    (keeps : ∀ connection, (change connection).handle = connection.handle) :
    Given given controller (controller.changeConnection handle change) := by
  refine of_subset (fun connection held => ?_) (List.Subset.refl _)
  obtain ⟨earlier, before, rfl | ⟨-, rfl⟩⟩ := controller.mem_changeConnection held
  · exact ⟨_, before, rfl⟩
  · exact ⟨earlier, before, (keeps earlier).symm⟩

theorem joined (controller : SimController) (peer : Nat) {handle : UInt16}
    (own : handle ∈ given) : Given given controller { controller with connections :=
      controller.connections ++ [({ handle, peer } : Connection)] } := by
  intro other inside
  rcases mem_append.mp inside with inside | inside
  · rw [map_append, mem_append] at inside
    rcases inside with inside | fresh
    · exact .inl (mem_append_left _ inside)
    · exact .inr (mem_singleton.mp fresh ▸ own)
  · exact .inl (mem_append_right _ inside)

theorem joinedSco (controller : SimController) (sco : ScoLink) (own : sco.scoHandle ∈ given) :
    Given given controller { controller with scoLinks := controller.scoLinks ++ [sco] } := by
  intro other inside
  rcases mem_append.mp inside with inside | inside
  · exact .inl (mem_append_left _ inside)
  · rw [map_append, mem_append] at inside
    rcases inside with inside | fresh
    · exact .inl (mem_append_right _ inside)
    · exact .inr (mem_singleton.mp fresh ▸ own)

end Given

open Link

theorem handleCommand_given {given : List UInt16} (i : Nat) (controller : SimController)
    (command : Command) : Given given controller (controller.handleCommand i command).1 := by
  cases command with
  | reset => exact .of_subset nofun (nil_subset _)
  | leCsRemoveConfig handle configId =>
    rw [SimController.handleCommand]
    cases controller.cs <;> exact .of_same rfl rfl
  | _ =>
    rw [SimController.handleCommand]
    try split_ifs
    all_goals exact .of_same rfl rfl

theorem perform_given {given : List UInt16} (action : Action)
    (own : ∀ sender peer reject, action = .scoAnswer sender peer reject →
      link.joinsSco sender peer reject → link.nextHandle ∈ given) :
    Each (Given given) link (link.perform action) := by
  refine perform_each (Given.steady given) action fun controller after edits => ?_
  cases edits with
  | closesSco =>
    exact .of_subset (fun connection held => ⟨connection, held, rfl⟩) (filter_subset_self _)
  | drops =>
    exact .of_subset (fun connection held => ⟨connection, (mem_filter.mp held).1, rfl⟩)
      (List.Subset.refl _)
  | joinsSco joins => exact .joinedSco controller _ (own _ _ _ rfl joins)
  | tells | configures | enables | asksSco | takesSco | asksCis | acceptsCis =>
    exact .of_same rfl rfl
  | encrypts | parksKey | takesKey | setsKey => exact .changeConnection controller _ fun _ => rfl

theorem routeScoAnswer_nextHandle (sender : Nat) (peer : Address) (reject : Option UInt8) :
    (link.routeScoAnswer sender peer reject).nextHandle =
      (handOut link.nextHandle (if link.joinsSco sender peer reject then 1 else 0)).2 := by
  rcases routeScoAnswer_cases link sender peer reject with
    ⟨other, same⟩ | ⟨request, held, named, outcome⟩
  · have off : ¬ link.joinsSco sender peer reject := by
      intro joins
      obtain ⟨-, request, held, named, -⟩ := joinsSco_iff.mp joins
      exact other request held named
    rw [same, if_neg off]
    rfl
  · rcases outcome with ⟨status, -, off, refused⟩ | ⟨joins, accepted⟩
    · rw [refused, if_neg (Bool.eq_false_iff.mp off)]
      rfl
    · rw [accepted, if_pos joins]
      rfl

theorem step_given (step : Step) :
    Each (Given (handOut link.nextHandle (link.takes step)).1) link (link.step step) := by
  cases step with
  | command i command =>
    exact command_each link (Given.steady _) i command (handleCommand_given i _ command)
  | connect central peripheral =>
    exact establishConnection_each (Given.steady _) central peripheral
      fun controller peer _ => .joined controller peer mem_cons_self
  | authenticate ends handle =>
    exact finishPairing_each (Given.steady _) ends handle
      fun controller => .changeConnection controller handle fun _ => rfl
  | sound i => exact sound_each (Given.steady _) i fun _ _ => .of_same rfl rfl
  | act =>
    cases queued : link.actions with
    | nil =>
      rw [Link.step, queued]
      exact .rfl (Given.steady _)
    | cons action rest =>
      rw [Link.step, queued]
      refine perform_given { link with actions := rest } action fun sender peer reject same joins => ?_
      subst same
      have joined : link.joinsSco sender peer reject := joins
      rw [takes, queued, List.head?_cons]
      simp only
      rw [if_pos joined]
      exact mem_cons_self

theorem step_counter (step : Step) :
    (link.step step).nextHandle = (handOut link.nextHandle (link.takes step)).2 := by
  cases step with
  | command i command => rfl
  | connect central peripheral => rfl
  | authenticate ends handle => rfl
  | sound i => exact (link.sound_rests i).2
  | act =>
    cases queued : link.actions with
    | nil =>
      rw [Link.step, takes, queued]
      rfl
    | cons action rest =>
      rw [Link.step, takes, queued, List.head?_cons]
      by_cases answers : ∃ sender peer reject, action = .scoAnswer sender peer reject
      · obtain ⟨sender, peer, reject, rfl⟩ := answers
        exact routeScoAnswer_nextHandle { link with actions := rest } sender peer reject
      · push Not at answers
        apply (perform_rests { link with actions := rest } action answers).2.trans
        cases action with
        | scoAnswer sender peer reject => exact absurd rfl (answers sender peer reject)
        | _ => rfl

end Steps

/-! ## What broadcasts take -/

section Broadcast
open Controller (Medium)
variable {given : List UInt16} {before link after : Controller.Link}

def BroadcastGiven (given : List UInt16) (before after : Controller.SimController) : Prop :=
  ∀ handle ∈ broadcastHandles after, handle ∈ broadcastHandles before ∨ handle ∈ given

def MediumGiven (given : List UInt16) (before after : Controller.Link) : Prop :=
  ∀ controller ∈ after.controllers, ∀ handle ∈ broadcastHandles controller,
    (∃ earlier ∈ before.controllers, handle ∈ broadcastHandles earlier) ∨ handle ∈ given

theorem mem_broadcastHandles {controller : Controller.SimController} {handle : UInt16} :
    handle ∈ broadcastHandles controller ↔
      (∃ big, controller.big = some big ∧ handle ∈ big.bisHandles) ∨
        (∃ sync ∈ controller.paSyncs, sync.syncHandle = handle) ∨
          ∃ sink ∈ controller.bigSinks, handle ∈ sink.bisHandles := by
  rw [broadcastHandles, mem_append, mem_append, mem_map, mem_flatMap]
  cases controller.big with
  | none => simp
  | some big => simp

theorem BroadcastGiven.of_subset {before after : Controller.SimController}
    (big : ∀ big, after.big = some big → before.big = some big)
    (paSyncs : after.paSyncs ⊆ before.paSyncs) (bigSinks : after.bigSinks ⊆ before.bigSinks) :
    BroadcastGiven given before after := by
  intro handle inside
  refine .inl (mem_broadcastHandles.mpr ?_)
  rcases mem_broadcastHandles.mp inside with
    ⟨own, held, named⟩ | ⟨sync, held, named⟩ | ⟨sink, held, named⟩
  · exact .inl ⟨own, big own held, named⟩
  · exact .inr (.inl ⟨sync, paSyncs held, named⟩)
  · exact .inr (.inr ⟨sink, bigSinks held, named⟩)

theorem BroadcastGiven.of_same {before after : Controller.SimController}
    (big : after.big = before.big) (paSyncs : after.paSyncs = before.paSyncs)
    (bigSinks : after.bigSinks = before.bigSinks) : BroadcastGiven given before after :=
  of_subset (fun _ held => big ▸ held) (paSyncs ▸ List.Subset.refl _)
    (bigSinks ▸ List.Subset.refl _)

namespace MediumGiven

theorem of_same (same : after.controllers = before.controllers) : MediumGiven given before after :=
  fun controller held _ inside => .inl ⟨controller, same ▸ held, inside⟩

theorem trans (first : MediumGiven given before link) (second : MediumGiven given link after) :
    MediumGiven given before after := by
  intro controller held handle inside
  rcases second controller held handle inside with ⟨earlier, held, inside⟩ | fresh
  · exact first earlier held handle inside
  · exact .inr fresh

theorem change (i : Nat) {edit : Controller.SimController → Controller.SimController}
    (kept : ∀ controller, BroadcastGiven given controller (edit controller)) :
    MediumGiven given link (link.change i edit) := by
  intro controller held handle inside
  obtain ⟨j, found⟩ := mem_iff_getElem?.mp held
  rw [Controller.Link.change, List.getElem?_modify] at found
  obtain ⟨earlier, before, same⟩ := Option.map_eq_some_iff.mp found
  have own : earlier ∈ link.controllers := mem_of_getElem? before
  split_ifs at same
  · subst same
    exact (kept earlier handle inside).imp (fun inside => ⟨earlier, own, inside⟩) id
  · subst same
    exact .inl ⟨earlier, own, inside⟩

theorem map {edit : Controller.SimController → Controller.SimController}
    (kept : ∀ controller, BroadcastGiven given controller (edit controller)) :
    MediumGiven given link { link with controllers := link.controllers.map edit } := by
  intro controller held handle inside
  obtain ⟨earlier, own, rfl⟩ := mem_map.mp held
  exact (kept earlier handle inside).imp (fun inside => ⟨earlier, own, inside⟩) id

end MediumGiven

theorem changeSet_given (controller : Controller.SimController) (handle : UInt8)
    (change : Controller.ExtAdvSet → Controller.ExtAdvSet) :
    BroadcastGiven given controller (controller.changeSet handle change) := by
  rw [Controller.SimController.changeSet]
  split_ifs <;> exact .of_same rfl rfl rfl

theorem foldl_changeSet_given (controller : Controller.SimController) (handles : List UInt8)
    (change : Controller.ExtAdvSet → Controller.ExtAdvSet) :
    BroadcastGiven given controller
      (handles.foldl (fun controller handle => controller.changeSet handle change) controller) := by
  induction handles generalizing controller with
  | nil => exact .of_same rfl rfl rfl
  | cons handle handles ih =>
    intro other inside
    exact (ih _ other inside).elim (changeSet_given controller handle change other) .inr

theorem broadcastCommand_given (i : Nat) (controller : Controller.SimController)
    (command : Controller.Command) :
    BroadcastGiven given controller (handleCommand i controller command).1 := by
  cases command with
  | reset => exact .of_subset nofun (nil_subset _) (nil_subset _)
  | setExtAdvParams handle sid => exact changeSet_given controller handle _
  | setPeriodicAdvEnable enable handle => exact changeSet_given controller handle _
  | setExtAdvEnable enable handles => exact foldl_changeSet_given controller handles _
  | periodicAdvTerminateSync handle =>
    exact .of_subset (fun _ => id) (filter_subset_self _) (List.Subset.refl _)
  | bigTerminateSync bigHandle =>
    exact .of_subset (fun _ => id) (List.Subset.refl _) (filter_subset_self _)
  | _ =>
    rw [handleCommand]
    try split_ifs
    all_goals exact .of_same rfl rfl rfl

variable (medium : Medium)

theorem broadcastAct_given :
    MediumGiven (handOut medium.link.nextHandle (mediumTakes medium .act)).1 medium.link
        (medium.step .act).link ∧
      (medium.step .act).link.nextHandle =
        (handOut medium.link.nextHandle (mediumTakes medium .act)).2 := by
  rw [Medium.step, mediumTakes]
  cases medium.actions with
  | nil => exact ⟨.of_same rfl, rfl⟩
  | cons action rest =>
    rw [List.head?_cons]
    cases action with
    | createBig sender source numBis =>
      simp only [perform, routeCreateBig, allocHandles_handOut]
      refine ⟨.trans (.of_same rfl) (.change sender fun controller handle inside => ?_), rfl⟩
      rcases mem_broadcastHandles.mp inside with ⟨big, held, named⟩ | inside
      · cases held
        exact .inr named
      · exact .inl (mem_broadcastHandles.mpr (.inr inside))
    | terminateBig sender bigHandle =>
      refine ⟨.trans (.change sender fun controller => ?_) (.map fun controller => ?_), rfl⟩
      · exact .of_subset nofun (List.Subset.refl _) (List.Subset.refl _)
      · exact .of_subset (fun _ => id) (List.Subset.refl _) (filter_subset_self _)
    | bigCreateSync sender bigHandle syncHandle encryption broadcastCode indices =>
      simp only [perform, routeBigCreateSync]
      cases medium.link.admits sender syncHandle encryption broadcastCode indices with
      | error status => exact ⟨.change sender fun _ => .of_same rfl rfl rfl, rfl⟩
      | ok found =>
        simp only [allocHandles_handOut]
        refine ⟨.trans (.of_same rfl) (.change sender fun controller handle inside => ?_), rfl⟩
        rcases mem_broadcastHandles.mp inside with big | sync | ⟨sink, held, named⟩
        · exact .inl (mem_broadcastHandles.mpr (.inl big))
        · exact .inl (mem_broadcastHandles.mpr (.inr (.inl sync)))
        · rcases mem_append.mp held with held | fresh
          · exact .inl (mem_broadcastHandles.mpr (.inr (.inr ⟨sink, held, named⟩)))
          · rw [mem_singleton.mp fresh] at named
            exact .inr named
    | iso sender data =>
      simp only [perform, routeBisIso]
      split
      · exact ⟨.of_same rfl, rfl⟩
      · exact ⟨.map fun _ => .of_same rfl rfl rfl, rfl⟩

theorem synchronize_given (i : Nat) :
    MediumGiven (handOut medium.link.nextHandle (mediumTakes medium (.synchronize i))).1 medium.link
        (medium.step (.synchronize i)).link ∧
      (medium.step (.synchronize i)).link.nextHandle =
        (handOut medium.link.nextHandle (mediumTakes medium (.synchronize i))).2 := by
  rw [Medium.step, mediumTakes, synchronize]
  cases (medium.link.controller i).bind Controller.SimController.pendingPaSync with
  | none => exact ⟨.of_same rfl, rfl⟩
  | some pending =>
    simp only
    cases medium.link.findTrain pending with
    | none => exact ⟨.of_same rfl, rfl⟩
    | some found =>
      refine ⟨.trans (.of_same rfl) (.change i fun controller handle inside => ?_), rfl⟩
      rcases mem_broadcastHandles.mp inside with big | ⟨sync, held, named⟩ | sink
      · exact .inl (mem_broadcastHandles.mpr (.inl big))
      · rcases mem_append.mp held with held | fresh
        · exact .inl (mem_broadcastHandles.mpr (.inr (.inl ⟨sync, held, named⟩)))
        · rw [mem_singleton.mp fresh] at named
          exact .inr (named ▸ mem_cons_self)
      · exact .inl (mem_broadcastHandles.mpr (.inr (.inr sink)))

/-- The controllers of the medium keep their handles but for those that a step takes, which
is no connection procedure. -/
theorem broadcast_given (step : Controller.Step) (other : ∀ count, step ≠ .connect count) :
    MediumGiven (handOut medium.link.nextHandle (mediumTakes medium step)).1 medium.link
        (medium.step step).link ∧
      (medium.step step).link.nextHandle =
        (handOut medium.link.nextHandle (mediumTakes medium step)).2 := by
  cases step with
  | connect count => exact absurd rfl (other count)
  | act => exact broadcastAct_given medium
  | synchronize i => exact synchronize_given medium i
  | write i data =>
    rw [Medium.step]
    split_ifs <;> exact ⟨.of_same rfl, rfl⟩
  | command i command =>
    rw [Medium.step]
    cases found : medium.link.controller i with
    | none => exact ⟨.of_same rfl, rfl⟩
    | some controller =>
      refine ⟨fun after held handle inside => ?_, rfl⟩
      obtain ⟨j, place⟩ := mem_iff_getElem?.mp held
      change (medium.link.controllers.modify i _)[j]? = _ at place
      rw [List.getElem?_modify] at place
      obtain ⟨earlier, before, same⟩ := Option.map_eq_some_iff.mp place
      split_ifs at same
      · subst same
        exact (broadcastCommand_given i controller command handle inside).imp
          (fun inside => ⟨controller, mem_of_getElem? found, inside⟩) id
      · subst same
        exact .inl ⟨earlier, mem_of_getElem? before, inside⟩
  | addDevice address =>
    refine ⟨fun controller held handle inside => ?_, rfl⟩
    rcases mem_append.mp held with held | fresh
    · exact .inl ⟨controller, held, inside⟩
    · rw [mem_singleton.mp fresh] at inside
      cases inside

end Broadcast

/-! ## Runs -/

namespace Air
variable {air : Air} {label : Label} {n : Nat}

/-- A medium on which `n` handles were taken. -/
structure Counted (air : Air) (n : Nat) : Prop where
  counter : air.link.nextHandle.toNat = n + 1
  same : air.medium.link.nextHandle = air.link.nextHandle
  live : ∀ handle, air.Live handle → handle.toNat ≤ n

/-- A step takes its handles from the counter, and no controller has others. -/
theorem next_given (same : air.medium.link.nextHandle = air.link.nextHandle) (label : Label) :
    (∀ handle, (air.next label).Live handle → air.Live handle ∨ handle ∈ air.given label) ∧
      (air.next label).link.nextHandle = (handOut air.link.nextHandle (air.takes label)).2 ∧
      (air.next label).medium.link.nextHandle = (air.next label).link.nextHandle := by
  cases label with
  | link step =>
    refine ⟨fun handle live => ?_, step_counter air.link step, rfl⟩
    rcases live with ⟨i, inside⟩ | others
    · exact (step_given air.link step i handle inside).imp (fun inside => .inl ⟨i, inside⟩) id
    · exact .inl (.inr others)
  | broadcast step =>
    by_cases connects : ∃ count, step = .connect count
    · obtain ⟨count, rfl⟩ := connects
      exact ⟨fun _ => .inl, rfl, same⟩
    · push Not at connects
      obtain ⟨given, counter⟩ := broadcast_given air.medium step connects
      rw [same] at given counter
      have stepped : air.next (.broadcast step) =
          ⟨{ air.link with nextHandle := (air.medium.step step).link.nextHandle },
            air.medium.step step⟩ := by
        cases step <;> first | rfl | exact absurd rfl (connects _)
      rw [stepped]
      refine ⟨fun handle live => ?_, counter, rfl⟩
      rcases live with own | ⟨controller, held, inside⟩
      · exact .inl (.inl own)
      · exact (given controller held handle inside).imp .inr id

theorem mem_given (counted : air.Counted n) (bounded : n + 1 + air.takes label < 2 ^ 16)
    {handle : UInt16} (inside : handle ∈ air.given label) :
    n + 1 ≤ handle.toNat ∧ handle.toNat < n + 1 + air.takes label := by
  have numbers := (@handOut_toNat air.link.nextHandle (air.takes label)
    (counted.counter ▸ bounded)).1
  have number : handle.toNat ∈ List.range' (n + 1) (air.takes label) := by
    rw [← counted.counter, ← numbers]
    exact mem_map_of_mem inside
  rw [mem_range'_1] at number
  exact number

theorem Counted.next (counted : air.Counted n) (bounded : n + 1 + air.takes label < 2 ^ 16) :
    (air.next label).Counted (n + air.takes label) := by
  obtain ⟨live, counter, same⟩ := next_given counted.same label
  refine ⟨?_, same, fun handle lives => ?_⟩
  · have last := (@handOut_toNat air.link.nextHandle (air.takes label)
      (counted.counter ▸ bounded)).2
    rw [counter, last, counted.counter]
    omega
  · rcases live handle lives with before | given
    · exact (counted.live handle before).trans (Nat.le_add_right ..)
    · have number := mem_given counted bounded given
      omega

theorem mask_of_le {handle : UInt16} (valid : handle.toNat ≤ 0x0EFF) :
    handle &&& 0x0FFF = handle := by
  apply UInt16.toNat_inj.mp
  rw [UInt16.toNat_and]
  change handle.toNat &&& 2 ^ 12 - 1 = handle.toNat
  rw [Nat.and_two_pow_sub_one_eq_mod]
  exact Nat.mod_eq_of_lt (by omega)

/-- The handles of a step are sound exactly when it takes none beyond the last valid one. -/
theorem sound_iff (counted : air.Counted n) (label : Label) (small : n ≤ 0x0EFF) :
    air.Sound label ↔ n + air.takes label ≤ 0x0EFF := by
  constructor
  · intro sound
    by_contra beyond
    obtain ⟨handle, inside, number⟩ := @mem_handOut air.link.nextHandle (air.takes label)
      (0x0EFF - n) (by omega) (by rw [counted.counter]; omega)
    have valid := (sound.valid handle inside).2.1
    rw [UInt16.le_iff_toNat_le, number, counted.counter] at valid
    change n + 1 + (0x0EFF - n) ≤ 0x0EFF at valid
    omega
  · intro within
    have bounded : n + 1 + air.takes label < 2 ^ 16 := by omega
    refine ⟨fun handle inside => ?_, ?_, fun handle inside live => ?_⟩
    · have number := mem_given counted bounded inside
      refine ⟨?_, ?_, mask_of_le (by omega)⟩
      · rw [UInt16.le_iff_toNat_le]
        change 1 ≤ handle.toNat
        omega
      · rw [UInt16.le_iff_toNat_le]
        change handle.toNat ≤ 0x0EFF
        omega
    · apply List.Nodup.of_map UInt16.toNat
      rw [given, (handOut_toNat (counted.counter ▸ bounded)).1]
      exact nodup_range'
    · have number := mem_given counted bounded inside
      have old := counted.live handle live
      omega

theorem run_iff (counted : air.Counted n) (small : n ≤ 0x0EFF) (labels : List Label) :
    Along next Sound air labels ↔ n + air.taken labels ≤ 0x0EFF := by
  induction labels generalizing air n with
  | nil => exact iff_of_true trivial small
  | cons label labels ih =>
    have here := sound_iff counted label small
    rw [taken, ← Nat.add_assoc]
    constructor
    · rintro ⟨sound, later⟩
      have within := here.mp sound
      exact (ih (counted.next (by omega)) within).mp later
    · intro within
      have first : n + air.takes label ≤ 0x0EFF := (Nat.le_add_right ..).trans within
      exact ⟨here.mpr first, (ih (counted.next (by omega)) first).mpr within⟩

theorem counted_new (addresses : Nat → Address) (devices : Nat) :
    (new addresses devices).Counted 0 where
  counter := rfl
  same := rfl
  live handle live := by
    rcases live with ⟨i, inside⟩ | ⟨controller, held, inside⟩
    · cases inside
    · obtain ⟨_, -, rfl⟩ := mem_map.mp held
      cases inside

end Air

/-- Along every run, the handles that are taken are valid and fresh exactly when no more are
taken than there are valid ones. -/
theorem handles_are_fresh (addresses : Nat → Address) (devices : Nat)
    (labels : List Air.Label) : Along Air.next Air.Sound (.new addresses devices) labels ↔
      (Air.new addresses devices).taken labels ≤ 0x0EFF := by
  have counted := Air.run_iff (Air.counted_new addresses devices) (Nat.zero_le _) labels
  rwa [Nat.zero_add] at counted

def joinAndReset : List Air.Label :=
  [.link (.connect 0 1), .link (.command 0 .reset), .link (.command 1 .reset)]

theorem taken_joinAndReset (air : Air) (count : Nat) :
    air.taken (List.replicate count joinAndReset).flatten = count := by
  induction count generalizing air with
  | zero => rfl
  | succ count ih =>
    rw [replicate_succ, flatten_cons]
    change 1 + (0 + (0 + Air.taken _ (List.replicate count joinAndReset).flatten)) = _
    rw [ih]
    omega

/-- The handle of the 3840th connection is no connection handle. -/
theorem handles_run_out : ¬ Along Air.next Air.Sound (.new Link.numbered 2)
    (List.replicate 3840 joinAndReset).flatten := by
  rw [Air.run_iff (Air.counted_new ..) (Nat.zero_le _), taken_joinAndReset]
  decide

end Simble.Sim
