import Mathlib.Data.Set.Card
import Mathlib.Tactic.Ring
import Simble.Sim.Handles

/-! Synchronous links on the simulated medium: the events that a host was promised, and what is
left of a link when its connection goes. A Command Status with success promises one Synchronous
Connection Complete, owed while the request waits for the medium or the other end's host. -/
namespace Simble.Sim
open Simble.Lib List

def Event.completes : Event → Bool
  | .synchronousConnectionComplete .. => true
  | _ => false

def SimController.completions (controller : SimController) : List Event :=
  controller.outbox.filter Event.completes

def Action.synchronous : Action → Option Nat
  | .scoSetup sender _ _ _ | .scoAnswer sender _ _ => some sender
  | _ => none

def Command.synchronous : Command → Bool
  | .setupSynchronous .. | .answerSynchronous .. => true
  | _ => false

namespace Link
variable (link : Link)

def promises : Step → Nat → Nat
  | .command i command, j =>
    if j = i ∧ command.synchronous ∧
        ((link.controllers i).handleCommand i command).1.outbox.getLast? =
          some (.commandStatus success) then 1
    else 0
  | _, _ => 0

/-- The requests and answers of a host that wait for the medium. -/
def queued (i : Nat) : List Action :=
  link.actions.filter fun action => action.synchronous = some i

/-- The controllers at which a request of a host waits for an answer. -/
def pendingAt (i : Nat) : Set Nat :=
  {j | ∃ request, (link.controllers j).inboundSco = some request ∧ request.initiator = i}

def BothHold (i : Nat) (scoHandle : UInt16) : Prop :=
  ∃ sco ∈ (link.controllers i).scoLinks, sco.scoHandle = scoHandle ∧
    ∃ far ∈ (link.controllers sco.peer).scoLinks, far.scoHandle = scoHandle ∧ far.peer = i

def Tells (i : Nat) : Event → Prop
  | .synchronousConnectionComplete status scoHandle _ _ _ =>
    status = success ↔ link.BothHold i scoHandle
  | _ => True

def ends : Step → List (Nat × UInt16)
  | .act =>
    match link.actions.head? with
    | some (.disconnect sender handle) =>
      if (link.scoPeerOf sender handle).isSome then []
      else match link.peerOf sender handle with
      | none => []
      | some peer => [(sender, handle), (peer, handle)]
    | _ => []
  | _ => []

end Link

structure Ledger where
  link : Link
  promised : Nat → Nat := fun _ => 0
  ended : List (Nat × UInt16) := []
  taken : List UInt16 := []

namespace Ledger
variable (ledger : Ledger)

def given (step : Step) : List UInt16 :=
  (handOut ledger.link.nextHandle (ledger.link.takes step)).1

def next (step : Step) : Ledger where
  link := ledger.link.step step
  promised i := ledger.promised i + ledger.link.promises step i
  ended := ledger.ended ++ ledger.link.ends step
  taken := ledger.taken ++ ledger.given step

def new (addresses : Nat → Address) : Ledger := { link := .new addresses }

/-- The condition on a step: it takes a fresh handle, no connection goes and no host resets while
a request waits on it, and a host answers a request that waits, and rejects none with the status
of success. -/
structure Waits (step : Step) : Prop where
  fresh : ∀ handle ∈ ledger.given step, handle ∉ ledger.taken
  reset : ∀ i, step = .command i .reset → (ledger.link.controllers i).inboundSco = none
  disconnect : ∀ i handle, (i, handle) ∈ ledger.link.ends step → ∀ request,
    (ledger.link.controllers i).inboundSco = some request → request.aclHandle ≠ handle
  answer : step = .act → ∀ sender peer reject,
    ledger.link.actions.head? = some (.scoAnswer sender peer reject) → reject ≠ some success ∧
      ∃ request, (ledger.link.controllers sender).inboundSco = some request ∧
        request.initiatorAddress = peer

/-- Every promise was kept once, or waits. -/
def Owes : Prop := ∀ i, (ledger.promised i : ℕ∞) =
  (ledger.link.controllers i).completions.length + (ledger.link.queued i).length +
    (ledger.link.pendingAt i).encard

structure Keeps (step : Step) : Prop where
  told : ∀ i, ∃ fresh, ((ledger.next step).link.controllers i).completions =
    (ledger.link.controllers i).completions ++ fresh ∧
      ∀ event ∈ fresh, (ledger.next step).link.Tells i event
  owed : (ledger.next step).Owes
  ended : ∀ i handle, (i, handle) ∈ (ledger.next step).ended →
    (∀ sco ∈ ((ledger.next step).link.controllers i).scoLinks, sco.aclHandle ≠ handle) ∧
      ∀ request, ((ledger.next step).link.controllers i).inboundSco = some request →
        request.aclHandle ≠ handle

end Ledger

/-- Whoever holds a connection is one of two ends and holds it to the other. -/
def Link.Between (link : Link) (handle : UInt16) (first second : Nat) : Prop :=
  ∀ i peer, link.peerOf i handle = some peer →
    (i = first ∧ peer = second) ∨ (i = second ∧ peer = first)

/-- What holds of the controllers, given the handles that were taken and the connections that
have gone. -/
structure Link.Coherent (link : Link) (taken : List UInt16) (ended : List (Nat × UInt16)) :
    Prop where
  counter : link.nextHandle ≠ 0
  handles : ∀ i, ∀ handle ∈ (link.controllers i).handles, handle ∈ taken
  between : ∀ i handle peer, link.peerOf i handle = some peer → link.Between handle i peer
  links : ∀ i, ∀ sco ∈ (link.controllers i).scoLinks, sco.scoHandle ≠ 0 ∧ sco.aclHandle ∈ taken ∧
    link.Between sco.aclHandle i sco.peer
  halves : ∀ i, ∀ sco ∈ (link.controllers i).scoLinks,
    (link.peerOf sco.peer sco.aclHandle).isSome →
      ∃ far ∈ (link.controllers sco.peer).scoLinks, far.scoHandle = sco.scoHandle ∧
        far.aclHandle = sco.aclHandle
  named : ∀ i j, ∀ sco ∈ (link.controllers i).scoLinks, ∀ other ∈ (link.controllers j).scoLinks,
    sco.scoHandle = other.scoHandle → i = j ∨ i = other.peer
  requests : ∀ i request, (link.controllers i).inboundSco = some request →
    request.aclHandle ∈ taken ∧ link.Between request.aclHandle request.initiator i
  gone : ∀ i handle, (i, handle) ∈ ended → handle ∈ taken ∧ ∀ j, link.peerOf j handle = none
  clean : ∀ i handle, (i, handle) ∈ ended →
    (∀ sco ∈ (link.controllers i).scoLinks, sco.aclHandle ≠ handle) ∧
      ∀ request, (link.controllers i).inboundSco = some request → request.aclHandle ≠ handle

/-! ## Steps that are about nothing synchronous -/

namespace SimController
variable (controller : SimController)

theorem completions_push (event : Event) : (controller.push event).completions =
    controller.completions ++ if event.completes then [event] else [] := by
  rw [completions, push, filter_append]
  cases completes : event.completes with
  | true => rw [filter_cons_of_pos completes]; rfl
  | false => rw [filter_cons_of_neg (by rw [completes]; exact nofun)]; rfl

theorem completions_silent {event : Event} (silent : event.completes = false) :
    (controller.push event).completions = controller.completions := by
  rw [completions_push, silent]
  exact append_nil _

end SimController

/-- Connections may go, and nothing synchronous changes. -/
structure Lull (before after : SimController) : Prop where
  peers : ∀ handle peer, after.peerOf handle = some peer → before.peerOf handle = some peer
  scoLinks : after.scoLinks = before.scoLinks
  inboundSco : after.inboundSco = before.inboundSco
  completions : after.completions = before.completions

namespace Lull
variable {before after : SimController}

theorem steady : Steady Lull where
  refl _ := ⟨fun _ _ => id, rfl, rfl, rfl⟩
  trans first second := ⟨fun handle peer found =>
      first.peers handle peer (second.peers handle peer found),
    second.scoLinks.trans first.scoLinks, second.inboundSco.trans first.inboundSco,
    second.completions.trans first.completions⟩

theorem of_same (connections : after.connections = before.connections)
    (scoLinks : after.scoLinks = before.scoLinks) (inboundSco : after.inboundSco = before.inboundSco)
    (outbox : after.outbox = before.outbox) : Lull before after where
  peers handle peer found := by
    rw [SimController.peerOf, ← connections]
    exact found
  scoLinks := scoLinks
  inboundSco := inboundSco
  completions := congrArg (List.filter _) outbox

theorem push {event : Event} (lull : Lull before after) (silent : event.completes = false) :
    Lull before (after.push event) where
  peers := lull.peers
  scoLinks := lull.scoLinks
  inboundSco := lull.inboundSco
  completions := (after.completions_silent silent).trans lull.completions

theorem told (controller : SimController) {event : Event} (silent : event.completes = false) :
    Lull controller (controller.push event) := (steady.refl controller).push silent

theorem changeConnection (controller : SimController) (handle : UInt16)
    {change : Connection → Connection}
    (keeps : ∀ connection, (change connection).handle = connection.handle ∧
      (change connection).peer = connection.peer) :
    Lull controller (controller.changeConnection handle change) where
  peers _ _ found := (controller.peerOf_changeConnection keeps handle).symm.trans found
  scoLinks := rfl
  inboundSco := rfl
  completions := rfl

end Lull

open Link

theorem handleCommand_lull (i : Nat) (controller : SimController) (command : Command)
    (reset : command ≠ .reset) : Lull controller (controller.handleCommand i command).1 := by
  cases command with
  | reset => exact absurd rfl reset
  | leCsRemoveConfig handle configId =>
    rw [SimController.handleCommand]
    have removed : Lull controller (SimController.push { controller with cs := none }
        (.commandStatus success)) := .push (.of_same rfl rfl rfl rfl) rfl
    cases controller.cs with
    | none => exact removed
    | some session => exact removed.push rfl
  | leCreateCis streams =>
    rw [SimController.handleCommand]
    split_ifs
    · exact .told controller rfl
    · exact .told controller rfl
    · exact Lull.steady.trans (.told controller (rfl : (Event.commandStatus success).completes = false))
        (.of_same rfl rfl rfl rfl)
  | _ =>
    rw [SimController.handleCommand]
    try split_ifs
    all_goals exact .told controller rfl

/-- An action that ends nothing, and neither asks for a synchronous link nor answers. -/
def Action.apart : Action → Bool
  | .disconnect .. | .scoSetup .. | .scoAnswer .. => false
  | _ => true

theorem perform_lull (link : Link) (action : Action) (other : action.apart) :
    Each Lull link (link.perform action) := by
  refine perform_each Lull.steady action fun controller after edits => ?_
  cases edits with
  | tells told =>
    refine .told controller ?_
    cases told <;> first | rfl | cases other
  | closesSco | drops | asksSco | takesSco | joinsSco => cases other
  | configures | enables | asksCis | acceptsCis => exact .of_same rfl rfl rfl rfl
  | encrypts | parksKey | takesKey | setsKey =>
    exact .changeConnection controller _ fun _ => ⟨rfl, rfl⟩

/-! ## Links that go -/

structure Pruned (removed : List UInt16) (before after : Link) : Prop where
  connections : ∀ i, (after.controllers i).connections = (before.controllers i).connections
  inboundSco : ∀ i, (after.controllers i).inboundSco = (before.controllers i).inboundSco
  completions : ∀ i, (after.controllers i).completions = (before.controllers i).completions
  scoLinks : ∀ i sco, sco ∈ (after.controllers i).scoLinks ↔
    sco ∈ (before.controllers i).scoLinks ∧ sco.scoHandle ∉ removed

/-- No handle names two links. -/
def Link.Named (link : Link) : Prop :=
  ∀ i j, ∀ sco ∈ (link.controllers i).scoLinks, ∀ other ∈ (link.controllers j).scoLinks,
    sco.scoHandle = other.scoHandle → i = j ∨ i = other.peer

namespace Pruned
variable {removed more : List UInt16} {before link after : Link}

theorem refl (link : Link) : Pruned [] link link :=
  ⟨fun _ => rfl, fun _ => rfl, fun _ => rfl, fun _ _ => by simp⟩

theorem trans (first : Pruned removed before link) (second : Pruned more link after) :
    Pruned (removed ++ more) before after where
  connections i := (second.connections i).trans (first.connections i)
  inboundSco i := (second.inboundSco i).trans (first.inboundSco i)
  completions i := (second.completions i).trans (first.completions i)
  scoLinks i sco := by
    rw [second.scoLinks, first.scoLinks, mem_append, not_or, and_assoc]

theorem named (pruned : Pruned removed before after) (named : before.Named) : after.Named :=
  fun i j sco held other there => named i j sco ((pruned.scoLinks i sco).mp held).1 other
    ((pruned.scoLinks j other).mp there).1

end Pruned

theorem routeScoDisconnect_pruned {link : Link} (named : link.Named) (sender : Nat)
    (handle : UInt16) :
    Pruned (if (link.scoPeerOf sender handle).isSome then [handle] else []) link
      (link.routeScoDisconnect sender handle).2 := by
  cases found : link.scoPeerOf sender handle with
  | none =>
    rw [routeScoDisconnect, found]
    exact .refl link
  | some peer =>
    obtain ⟨own, first, rfl⟩ := Option.map_eq_some_iff.mp found
    have here : own ∈ (link.controllers sender).scoLinks := mem_of_find?_eq_some first
    have same : own.scoHandle = handle := by simpa using List.find?_some first
    have steady : Steady fun before after : SimController =>
        after.connections = before.connections ∧ after.inboundSco = before.inboundSco ∧
          after.completions = before.completions :=
      ⟨fun _ => ⟨rfl, rfl, rfl⟩, fun first second => ⟨second.1.trans first.1,
        second.2.1.trans first.2.1, second.2.2.trans first.2.2⟩⟩
    have each := @routeScoDisconnect_each _ link steady sender handle
      fun controller reason => ⟨rfl, rfl, SimController.completions_silent _ rfl⟩
    refine ⟨fun i => (each i).1, fun i => (each i).2.1, fun i => (each i).2.2, fun i sco => ?_⟩
    have edited : sco ∈ (((link.routeScoDisconnect sender handle).2).controllers i).scoLinks ↔
        sco ∈ (link.controllers i).scoLinks ∧
          ((i = sender ∨ i = own.peer) → sco.scoHandle ≠ handle) := by
      rw [routeScoDisconnect, found]
      by_cases near : i = sender
      · by_cases far : i = own.peer
        · have both : own.peer = sender := far.symm.trans near
          simp [SimController.push, near, both]
        · simp [SimController.push, near, near ▸ far]
      · by_cases far : i = own.peer
        · have apart : own.peer ≠ sender := far ▸ near
          simp [SimController.push, far, apart]
        · simp [near, far]
    refine edited.trans (and_congr_right fun held => ?_)
    simp only [Option.isSome_some, if_true, mem_singleton]
    refine ⟨fun apart taken => ?_, fun apart _ => apart⟩
    exact apart (named i sender sco held own here (taken.trans same.symm)) taken

theorem foldl_pruned {link : Link} (named : link.Named) (sender : Nat) (handles : List UInt16) :
    ∃ removed, Pruned removed link (handles.foldl (fun link scoHandle =>
        (link.routeScoDisconnect sender scoHandle).2) link) ∧
      ∀ sco ∈ (link.controllers sender).scoLinks, sco.scoHandle ∈ handles →
        sco.scoHandle ∈ removed := by
  induction handles generalizing link with
  | nil => exact ⟨[], .refl link, fun _ _ => nofun⟩
  | cons handle handles ih =>
    have first := routeScoDisconnect_pruned named sender handle
    obtain ⟨removed, pruned, covers⟩ := ih (first.named named)
    refine ⟨_, first.trans pruned, fun sco held listed => ?_⟩
    rw [mem_append]
    by_cases gone : sco.scoHandle ∈ if (link.scoPeerOf sender handle).isSome then [handle] else []
    · exact .inl gone
    refine .inr (covers sco ((first.scoLinks sender sco).mpr ⟨held, gone⟩) ?_)
    rcases mem_cons.mp listed with same | later
    · refine absurd ?_ gone
      have found : (link.scoPeerOf sender handle).isSome := by
        rw [scoPeerOf, Option.isSome_map, List.find?_isSome]
        exact ⟨sco, held, decide_eq_true same⟩
      rw [if_pos found]
      exact mem_singleton.mpr same
    · exact later

/-- A host is told of what is no completion. -/
structure Told (before after : SimController) : Prop where
  connections : after.connections = before.connections
  inboundSco : after.inboundSco = before.inboundSco
  scoLinks : after.scoLinks = before.scoLinks
  completions : after.completions = before.completions

theorem Told.steady : Steady Told where
  refl _ := ⟨rfl, rfl, rfl, rfl⟩
  trans first second := ⟨second.connections.trans first.connections,
    second.inboundSco.trans first.inboundSco, second.scoLinks.trans first.scoLinks,
    second.completions.trans first.completions⟩

theorem Told.silent (controller : SimController) {event : Event}
    (silent : event.completes = false) : Told controller (controller.push event) :=
  ⟨rfl, rfl, rfl, controller.completions_silent silent⟩

/-- What an ACL connection takes with it. -/
structure Dropped (sender peer : Nat) (handle : UInt16) (removed : List UInt16)
    (before after : Link) : Prop where
  peers : ∀ i other far, after.peerOf i other = some far → before.peerOf i other = some far ∧
    ((i = sender ∨ i = peer) → other ≠ handle)
  inboundSco : ∀ i, (after.controllers i).inboundSco =
    if i = sender ∨ i = peer then
      (before.controllers i).inboundSco.filter fun request => request.aclHandle ≠ handle
    else (before.controllers i).inboundSco
  completions : ∀ i, (after.controllers i).completions = (before.controllers i).completions
  scoLinks : ∀ i sco, sco ∈ (after.controllers i).scoLinks ↔
    sco ∈ (before.controllers i).scoLinks ∧ sco.scoHandle ∉ removed
  covers : ∀ sco ∈ (before.controllers sender).scoLinks, sco.aclHandle = handle →
    sco.scoHandle ∈ removed

theorem routeDisconnect_dropped {link : Link} (named : link.Named) {sender peer : Nat}
    {handle : UInt16} (synchronous : link.scoPeerOf sender handle = none)
    (found : link.peerOf sender handle = some peer) :
    ∃ removed, Dropped sender peer handle removed link (link.routeDisconnect sender handle) := by
  let handlesOf := ((link.controllers sender).scoLinks.filter fun sco =>
    sco.aclHandle = handle).map ScoLink.scoHandle
  obtain ⟨removed, pruned, covers⟩ := foldl_pruned named sender handlesOf
  refine ⟨removed, ?_⟩
  -- The connection goes after its links, and the hosts are told last.
  have off : link.routeScoDisconnect sender handle = (false, link) := by
    rw [routeScoDisconnect, synchronous]
  let gone := handlesOf.foldl (fun link scoHandle => (link.routeScoDisconnect sender scoHandle).2) link
  let middle := (gone.change sender (dropConnection handle)).change peer (dropConnection handle)
  have stepped : link.routeDisconnect sender handle =
      (middle.push sender (.disconnectionComplete handle reasonLocalHost)).push peer
        (.disconnectionComplete handle reasonRemoteUser) := by
    rw [routeDisconnect, off]
    simp only [Bool.false_eq_true, if_false]
    rw [found]
  have told (i : Nat) : Told (middle.controllers i)
      ((link.routeDisconnect sender handle).controllers i) := by
    rw [stepped]
    exact (((Each.rfl Told.steady).push Told.steady fun controller => .silent controller rfl).push
      Told.steady fun controller => .silent controller rfl) i
  have dropped (i : Nat) : middle.controllers i = if i = sender ∨ i = peer then
      dropConnection handle (gone.controllers i) else gone.controllers i :=
    dropped_controllers ..
  have kept (i : Nat) (other : UInt16) : gone.peerOf i other = link.peerOf i other := by
    rw [peerOf, peerOf, SimController.peerOf, SimController.peerOf, pruned.connections]
  constructor
  · intro i other far reached
    rw [peerOf, SimController.peerOf, (told i).connections] at reached
    change (middle.controllers i).peerOf other = some far at reached
    rw [dropped] at reached
    split_ifs at reached with own
    · by_cases same : other = handle
      · change ((dropConnection handle (gone.controllers i)).held other).map Connection.peer =
          some far at reached
        rw [SimController.held_dropConnection, if_pos same] at reached
        cases reached
      · rw [SimController.peerOf_dropConnection _ same] at reached
        exact ⟨(kept i other).symm.trans reached, fun _ => same⟩
    · exact ⟨(kept i other).symm.trans reached, fun both => absurd both own⟩
  · intro i
    rw [(told i).inboundSco, dropped]
    split_ifs
    · exact congrArg (Option.filter _) (pruned.inboundSco i)
    · exact pruned.inboundSco i
  · intro i
    rw [(told i).completions, dropped]
    split_ifs <;> exact pruned.completions i
  · intro i sco
    rw [(told i).scoLinks, dropped]
    refine Iff.trans ?_ (pruned.scoLinks i sco)
    split_ifs <;> exact Iff.rfl
  · intro sco held own
    refine covers sco held (mem_map.mpr ⟨sco, mem_filter.mpr ⟨held, ?_⟩, rfl⟩)
    exact decide_eq_true own

/-! ## Coherence -/

namespace Link

theorem Between.symm {link : Link} {handle : UInt16} {first second : Nat}
    (between : link.Between handle first second) : link.Between handle second first :=
  fun i peer found => (between i peer found).symm

/-- Connections, requests and links go: links by their handles, or all that an end has with
its connections. -/
structure Shrinks (removed : List UInt16) (before after : Link) : Prop where
  peers : ∀ i handle peer, after.peerOf i handle = some peer → before.peerOf i handle = some peer
  fewer : ∀ i, ∀ sco ∈ (after.controllers i).scoLinks,
    sco ∈ (before.controllers i).scoLinks ∧ sco.scoHandle ∉ removed
  kept : ∀ i, ∀ sco ∈ (before.controllers i).scoLinks, sco.scoHandle ∉ removed →
    sco ∈ (after.controllers i).scoLinks ∨ ∀ handle, after.peerOf i handle = none
  requests : ∀ i request, (after.controllers i).inboundSco = some request →
    (before.controllers i).inboundSco = some request

theorem Shrinks.of_lull {before after : Link} (each : Each Lull before after) :
    Shrinks [] before after where
  peers i := (each i).peers
  fewer i _ held := ⟨(each i).scoLinks ▸ held, nofun⟩
  kept i _ held _ := .inl ((each i).scoLinks ▸ held)
  requests i _ held := (each i).inboundSco ▸ held

/-- The links stay as they are, and no request is made. -/
theorem Shrinks.of_fields {before after : Link}
    (connections : ∀ i, (after.controllers i).connections = (before.controllers i).connections)
    (scoLinks : ∀ i, (after.controllers i).scoLinks = (before.controllers i).scoLinks)
    (requests : ∀ i request, (after.controllers i).inboundSco = some request →
      (before.controllers i).inboundSco = some request) : Shrinks [] before after where
  peers i handle peer found := by
    rw [Link.peerOf, SimController.peerOf, ← connections i]
    exact found
  fewer i _ held := ⟨scoLinks i ▸ held, nofun⟩
  kept i _ held _ := .inl (scoLinks i ▸ held)
  requests := requests

theorem Shrinks.of_pruned {removed : List UInt16} {before after : Link}
    (pruned : Pruned removed before after) : Shrinks removed before after where
  peers i handle peer found := by
    rw [peerOf, SimController.peerOf, ← pruned.connections]
    exact found
  fewer i sco held := (pruned.scoLinks i sco).mp held
  kept i sco held apart := .inl ((pruned.scoLinks i sco).mpr ⟨held, apart⟩)
  requests i _ held := pruned.inboundSco i ▸ held

section Coherence
variable {before after : Link} {taken given : List UInt16} {ended : List (Nat × UInt16)}
  (coherent : before.Coherent taken ended) (counter : after.nextHandle ≠ 0)
  (handles : ∀ i, ∀ handle ∈ (after.controllers i).handles, handle ∈ taken ++ given)

include coherent in
theorem Coherent.held {i peer : Nat} {handle : UInt16} (found : before.peerOf i handle = some peer) :
    handle ∈ taken := by
  obtain ⟨connection, first, -⟩ := Option.map_eq_some_iff.mp found
  refine coherent.handles i handle (mem_append_left _ (mem_map.mpr ⟨connection, ?_, ?_⟩))
  · exact mem_of_find?_eq_some first
  · simpa using List.find?_some first

include coherent counter handles

theorem Coherent.shrink {removed : List UInt16} (shrinks : Shrinks removed before after) :
    after.Coherent (taken ++ given) ended where
  counter := counter
  handles := handles
  between i handle peer found j far reached :=
    coherent.between i handle peer (shrinks.peers i handle peer found) j far
      (shrinks.peers j handle far reached)
  links i sco held := by
    obtain ⟨nonzero, known, between⟩ := coherent.links i sco (shrinks.fewer i sco held).1
    exact ⟨nonzero, mem_append_left _ known,
      fun j far reached => between j far (shrinks.peers j _ far reached)⟩
  halves i sco held stands := by
    obtain ⟨own, apart⟩ := shrinks.fewer i sco held
    obtain ⟨peer, found⟩ := Option.isSome_iff_exists.mp stands
    obtain ⟨far, there, same, acl⟩ := coherent.halves i sco own
      (Option.isSome_iff_exists.mpr ⟨peer, shrinks.peers _ _ peer found⟩)
    refine ⟨far, ?_, same, acl⟩
    refine (shrinks.kept sco.peer far there (same ▸ apart)).resolve_right fun lost => ?_
    rw [lost] at found
    cases found
  named i j sco held other there :=
    coherent.named i j sco (shrinks.fewer i sco held).1 other (shrinks.fewer j other there).1
  requests i request held := by
    obtain ⟨known, between⟩ := coherent.requests i request (shrinks.requests i request held)
    exact ⟨mem_append_left _ known,
      fun j far reached => between j far (shrinks.peers j _ far reached)⟩
  gone i handle lapsed := by
    obtain ⟨known, none⟩ := coherent.gone i handle lapsed
    refine ⟨mem_append_left _ known, fun j => ?_⟩
    by_contra found
    obtain ⟨peer, found⟩ := Option.ne_none_iff_exists'.mp found
    have earlier := shrinks.peers j handle peer found
    rw [none] at earlier
    cases earlier
  clean i handle lapsed := by
    obtain ⟨links, requests⟩ := coherent.clean i handle lapsed
    exact ⟨fun sco held => links sco (shrinks.fewer i sco held).1,
      fun request held => requests request (shrinks.requests i request held)⟩

theorem Coherent.joined {handle : UInt16} {central peripheral : Nat} (fresh : handle ∉ taken)
    (peers : ∀ i other peer, after.peerOf i other = some peer → before.peerOf i other = some peer ∨
      (other = handle ∧ ((i = central ∧ peer = peripheral) ∨ (i = peripheral ∧ peer = central))))
    (scoLinks : ∀ i, (after.controllers i).scoLinks = (before.controllers i).scoLinks)
    (inboundSco : ∀ i, (after.controllers i).inboundSco = (before.controllers i).inboundSco) :
    after.Coherent (taken ++ given) ended := by
  have old (other : UInt16) (known : other ∈ taken) (i peer : Nat)
      (found : after.peerOf i other = some peer) : before.peerOf i other = some peer := by
    refine (peers i other peer found).resolve_right fun new => fresh ?_
    exact new.1 ▸ known
  have between {other : UInt16} {first second : Nat} (known : other ∈ taken)
      (between : before.Between other first second) : after.Between other first second :=
    fun i peer found => between i peer (old other known i peer found)
  constructor
  · exact counter
  · exact handles
  · intro i other peer found j far reached
    rcases peers i other peer found with earlier | ⟨rfl, new⟩
    · have known := coherent.held earlier
      exact coherent.between i other peer earlier j far (old other known j far reached)
    · have also := (peers j other far reached).resolve_left fun earlier =>
        fresh (coherent.held earlier)
      rcases new with ⟨rfl, rfl⟩ | ⟨rfl, rfl⟩
      · exact also.2
      · exact also.2.symm
  · intro i sco held
    rw [scoLinks] at held
    obtain ⟨nonzero, known, ends⟩ := coherent.links i sco held
    exact ⟨nonzero, mem_append_left _ known, between known ends⟩
  · intro i sco held stands
    rw [scoLinks] at held
    obtain ⟨-, known, -⟩ := coherent.links i sco held
    obtain ⟨peer, found⟩ := Option.isSome_iff_exists.mp stands
    obtain ⟨far, there, same⟩ := coherent.halves i sco held
      (Option.isSome_iff_exists.mpr ⟨peer, old _ known _ _ found⟩)
    exact ⟨far, (scoLinks _).symm ▸ there, same⟩
  · intro i j sco held other there
    rw [scoLinks] at held there
    exact coherent.named i j sco held other there
  · intro i request held
    rw [inboundSco] at held
    obtain ⟨known, ends⟩ := coherent.requests i request held
    exact ⟨mem_append_left _ known, between known ends⟩
  · intro i other lapsed
    obtain ⟨known, none⟩ := coherent.gone i other lapsed
    refine ⟨mem_append_left _ known, fun j => ?_⟩
    by_contra found
    obtain ⟨peer, found⟩ := Option.ne_none_iff_exists'.mp found
    have earlier := old other known j peer found
    rw [none] at earlier
    cases earlier
  · intro i other lapsed
    rw [scoLinks, inboundSco]
    exact coherent.clean i other lapsed

theorem Coherent.asked {sender peer : Nat} {request : InboundSco}
    (found : before.peerOf sender request.aclHandle = some peer)
    (initiator : request.initiator = sender)
    (peers : ∀ i handle, after.peerOf i handle = before.peerOf i handle)
    (scoLinks : ∀ i, (after.controllers i).scoLinks = (before.controllers i).scoLinks)
    (inboundSco : ∀ i, (after.controllers i).inboundSco =
      if i = peer then some request else (before.controllers i).inboundSco) :
    after.Coherent (taken ++ given) ended := by
  have between {handle : UInt16} {first second : Nat}
      (between : before.Between handle first second) : after.Between handle first second :=
    fun i far reached => between i far ((peers i handle).symm.trans reached)
  constructor
  · exact counter
  · exact handles
  · intro i handle far reached
    exact between (coherent.between i handle far ((peers i handle).symm.trans reached))
  · intro i sco held
    rw [scoLinks] at held
    obtain ⟨nonzero, known, ends⟩ := coherent.links i sco held
    exact ⟨nonzero, mem_append_left _ known, between ends⟩
  · intro i sco held stands
    rw [scoLinks] at held
    rw [peers] at stands
    obtain ⟨far, there, same⟩ := coherent.halves i sco held stands
    exact ⟨far, (scoLinks _).symm ▸ there, same⟩
  · intro i j sco held other there
    rw [scoLinks] at held there
    exact coherent.named i j sco held other there
  · intro i other held
    rw [inboundSco] at held
    split_ifs at held with here
    · cases held
      subst here initiator
      exact ⟨mem_append_left _ (coherent.held found),
        between (coherent.between _ _ _ found)⟩
    · obtain ⟨known, ends⟩ := coherent.requests i other held
      exact ⟨mem_append_left _ known, between ends⟩
  · intro i handle lapsed
    obtain ⟨known, none⟩ := coherent.gone i handle lapsed
    exact ⟨mem_append_left _ known, fun j => (peers j handle).trans (none j)⟩
  · intro i handle lapsed
    rw [scoLinks]
    refine ⟨(coherent.clean i handle lapsed).1, fun other held same => ?_⟩
    rw [inboundSco] at held
    split_ifs at held
    · cases held
      rw [same, (coherent.gone i handle lapsed).2] at found
      cases found
    · exact (coherent.clean i handle lapsed).2 other held same

theorem Coherent.linked {sender : Nat} {scoHandle : UInt16} {request : InboundSco}
    (fresh : scoHandle ∉ taken) (nonzero : scoHandle ≠ 0)
    (waits : (before.controllers sender).inboundSco = some request)
    (found : before.peerOf request.initiator request.aclHandle = some sender)
    (peers : ∀ i handle, after.peerOf i handle = before.peerOf i handle)
    (scoLinks : ∀ i sco, sco ∈ (after.controllers i).scoLinks ↔
      sco ∈ (before.controllers i).scoLinks ∨
        (i = request.initiator ∧ sco = ⟨scoHandle, request.aclHandle, sender⟩) ∨
        (i = sender ∧ sco = ⟨scoHandle, request.aclHandle, request.initiator⟩))
    (inboundSco : ∀ i other, (after.controllers i).inboundSco = some other →
      (before.controllers i).inboundSco = some other) :
    after.Coherent (taken ++ given) ended := by
  have between {handle : UInt16} {first second : Nat}
      (between : before.Between handle first second) : after.Between handle first second :=
    fun i far reached => between i far ((peers i handle).symm.trans reached)
  have ends := (coherent.requests sender request waits).2
  have known := (coherent.requests sender request waits).1
  have old {i : Nat} {sco : ScoLink} (held : sco ∈ (before.controllers i).scoLinks) :
      sco.scoHandle ≠ scoHandle := by
    rintro same
    refine fresh (same ▸ coherent.handles i sco.scoHandle (mem_append_right _ ?_))
    exact mem_map_of_mem held
  constructor
  · exact counter
  · exact handles
  · intro i handle far reached
    exact between (coherent.between i handle far ((peers i handle).symm.trans reached))
  · intro i sco held
    rcases (scoLinks i sco).mp held with held | ⟨rfl, rfl⟩ | ⟨rfl, rfl⟩
    · obtain ⟨nonzero, known, ends⟩ := coherent.links i sco held
      exact ⟨nonzero, mem_append_left _ known, between ends⟩
    · exact ⟨nonzero, mem_append_left _ known, between ends⟩
    · exact ⟨nonzero, mem_append_left _ known, (between ends).symm⟩
  · intro i sco held stands
    rcases (scoLinks i sco).mp held with held | ⟨rfl, rfl⟩ | ⟨rfl, rfl⟩
    · rw [peers] at stands
      obtain ⟨far, there, same⟩ := coherent.halves i sco held stands
      exact ⟨far, (scoLinks _ far).mpr (.inl there), same⟩
    · exact ⟨_, (scoLinks _ _).mpr (.inr (.inr ⟨rfl, rfl⟩)), rfl, rfl⟩
    · exact ⟨_, (scoLinks _ _).mpr (.inr (.inl ⟨rfl, rfl⟩)), rfl, rfl⟩
  · intro i j sco held other there same
    rcases (scoLinks i sco).mp held with held | ⟨rfl, rfl⟩ | ⟨rfl, rfl⟩
    · rcases (scoLinks j other).mp there with there | ⟨rfl, rfl⟩ | ⟨rfl, rfl⟩
      · exact coherent.named i j sco held other there same
      · exact absurd same (old held)
      · exact absurd same (old held)
    · rcases (scoLinks j other).mp there with there | ⟨rfl, rfl⟩ | ⟨rfl, rfl⟩
      · exact absurd same.symm (old there)
      · exact .inl rfl
      · exact .inr rfl
    · rcases (scoLinks j other).mp there with there | ⟨rfl, rfl⟩ | ⟨rfl, rfl⟩
      · exact absurd same.symm (old there)
      · exact .inr rfl
      · exact .inl rfl
  · intro i other held
    obtain ⟨known, ends⟩ := coherent.requests i other (inboundSco i other held)
    exact ⟨mem_append_left _ known, between ends⟩
  · intro i handle lapsed
    obtain ⟨known, none⟩ := coherent.gone i handle lapsed
    exact ⟨mem_append_left _ known, fun j => (peers j handle).trans (none j)⟩
  · intro i handle lapsed
    obtain ⟨links, requests⟩ := coherent.clean i handle lapsed
    have lost : request.aclHandle ≠ handle := by
      rintro rfl
      rw [(coherent.gone i _ lapsed).2] at found
      cases found
    refine ⟨fun sco held => ?_, fun other held => requests other (inboundSco i other held)⟩
    rcases (scoLinks i sco).mp held with held | ⟨-, rfl⟩ | ⟨-, rfl⟩
    · exact links sco held
    · exact lost
    · exact lost

theorem Coherent.drop {sender peer : Nat} {handle : UInt16} {removed : List UInt16}
    (found : before.peerOf sender handle = some peer)
    (dropped : Dropped sender peer handle removed before after) :
    after.Coherent (taken ++ given) (ended ++ [(sender, handle), (peer, handle)]) := by
  have shrunk : Shrinks removed before after := by
    refine ⟨fun i other far reached => (dropped.peers i other far reached).1,
      fun i sco => (dropped.scoLinks i sco).mp,
      fun i sco held apart => .inl ((dropped.scoLinks i sco).mpr ⟨held, apart⟩),
      fun i request held => ?_⟩
    rw [dropped.inboundSco] at held
    split_ifs at held
    · exact (Option.filter_eq_some_iff.mp held).1
    · exact held
  have kept := coherent.shrink counter handles shrunk
  have ends := coherent.between sender handle peer found
  have none (j : Nat) : after.peerOf j handle = none := by
    by_contra reached
    obtain ⟨far, reached⟩ := Option.ne_none_iff_exists'.mp reached
    obtain ⟨earlier, apart⟩ := dropped.peers j handle far reached
    exact apart ((ends j far earlier).imp And.left And.left) rfl
  have own (i : Nat) (this : i = sender ∨ i = peer) :
      (∀ sco ∈ (after.controllers i).scoLinks, sco.aclHandle ≠ handle) ∧
        ∀ request, (after.controllers i).inboundSco = some request →
          request.aclHandle ≠ handle := by
    constructor
    · intro sco held same
      obtain ⟨earlier, apart⟩ := (dropped.scoLinks i sco).mp held
      rcases this with rfl | rfl
      · exact apart (dropped.covers sco earlier same)
      -- The other end has the other half, which is among those that go.
      · have toSender : sco.peer = sender := by
          have between := (coherent.links i sco earlier).2.2
          rw [same] at between
          rcases between sender i found with ⟨near, far⟩ | ⟨near, -⟩
          · exact far.symm.trans near.symm
          · exact near.symm
        obtain ⟨far, there, named, acl⟩ := coherent.halves i sco earlier (by
          rw [toSender, same, found]
          rfl)
        rw [toSender] at there
        exact apart (named ▸ dropped.covers far there (acl.trans same))
    · intro request held same
      rw [dropped.inboundSco, if_pos this] at held
      exact absurd same (of_decide_eq_true (Option.filter_eq_some_iff.mp held).2)
  refine { kept with gone := fun i other lapsed => ?_, clean := fun i other lapsed => ?_ }
  · rcases mem_append.mp lapsed with earlier | lapsed
    · exact kept.gone i other earlier
    · have same : other = handle := by
        rcases mem_cons.mp lapsed with lapsed | lapsed
        · exact (Prod.mk.inj lapsed).2
        · exact (Prod.mk.inj (mem_singleton.mp lapsed)).2
      exact same ▸ ⟨mem_append_left _ (coherent.held found), none⟩
  · rcases mem_append.mp lapsed with earlier | lapsed
    · exact kept.clean i other earlier
    · rcases mem_cons.mp lapsed with lapsed | lapsed
      · obtain ⟨here, rfl⟩ := Prod.mk.inj lapsed
        exact own i (.inl here)
      · obtain ⟨here, rfl⟩ := Prod.mk.inj (mem_singleton.mp lapsed)
        exact own i (.inr here)

end Coherence
end Link

/-! ## Steps -/

theorem handOut_ne_zero {counter : UInt16} (nonzero : counter ≠ 0) (count : Nat) :
    (handOut counter count).2 ≠ 0 := by
  induction count generalizing counter with
  | zero => exact nonzero
  | succ count ih =>
    apply ih
    change (if counter + 1 ≤ 1 then 1 else counter + 1) ≠ 0
    split_ifs with small
    · decide
    · exact fun zero => small (zero ▸ by decide)

namespace Ledger
variable {ledger : Ledger} {step : Step}

/-- What holds after every step of a run. -/
structure Sane (ledger : Ledger) : Prop where
  coherent : ledger.link.Coherent ledger.taken ledger.ended
  owes : ledger.Owes

structure Does (ledger : Ledger) (step : Step) : Prop where
  sane : (ledger.next step).Sane
  told : ∀ i, ∃ fresh, ((ledger.next step).link.controllers i).completions =
    (ledger.link.controllers i).completions ++ fresh ∧
      ∀ event ∈ fresh, (ledger.next step).link.Tells i event

theorem Does.keeps (does : ledger.Does step) : ledger.Keeps step :=
  ⟨does.told, does.sane.owes, does.sane.coherent.clean⟩

theorem handles_next (sane : ledger.Sane) (step : Step) (i : Nat) (handle : UInt16)
    (inside : handle ∈ ((ledger.link.step step).controllers i).handles) :
    handle ∈ ledger.taken ++ ledger.given step :=
  mem_append.mpr ((step_given ledger.link step i handle inside).imp
    (sane.coherent.handles i handle) id)

theorem counter_next (sane : ledger.Sane) (step : Step) :
    (ledger.link.step step).nextHandle ≠ 0 := by
  rw [step_counter]
  exact handOut_ne_zero sane.coherent.counter _

theorem Does.of_balance (sane : ledger.Sane)
    (coherent : (ledger.link.step step).Coherent (ledger.taken ++ ledger.given step)
      (ledger.ended ++ ledger.link.ends step)) (events : Nat → List Event)
    (completions : ∀ i, ((ledger.link.step step).controllers i).completions =
      (ledger.link.controllers i).completions ++ events i)
    (tells : ∀ i, ∀ event ∈ events i, (ledger.link.step step).Tells i event)
    (balance : ∀ i, (ledger.link.promises step i : ℕ∞) + (ledger.link.queued i).length +
      (ledger.link.pendingAt i).encard = (events i).length +
        ((ledger.link.step step).queued i).length +
          ((ledger.link.step step).pendingAt i).encard) : ledger.Does step where
  sane := by
    refine ⟨coherent, fun i => ?_⟩
    have owed := sane.owes i
    change ((ledger.promised i + ledger.link.promises step i : ℕ) : ℕ∞) = _
    rw [next, completions, length_append, Nat.cast_add, owed]
    calc _ = ((ledger.link.controllers i).completions.length : ℕ∞) +
          (ledger.link.promises step i + (ledger.link.queued i).length +
            (ledger.link.pendingAt i).encard) := by ring
      _ = _ := by
        rw [balance, Nat.cast_add]
        ring
  told i := ⟨events i, completions i, tells i⟩

theorem Does.of_silent (sane : ledger.Sane)
    (coherent : (ledger.link.step step).Coherent (ledger.taken ++ ledger.given step)
      (ledger.ended ++ ledger.link.ends step))
    (completions : ∀ i, ((ledger.link.step step).controllers i).completions =
      (ledger.link.controllers i).completions)
    (inboundSco : ∀ i, ((ledger.link.step step).controllers i).inboundSco =
      (ledger.link.controllers i).inboundSco)
    (queued : ∀ i, ledger.link.promises step i + (ledger.link.queued i).length =
      ((ledger.link.step step).queued i).length) : ledger.Does step := by
  refine .of_balance sane coherent (fun _ => [])
    (fun i => (completions i).trans (append_nil _).symm) (fun _ => nofun) fun i => ?_
  have pending : (ledger.link.step step).pendingAt i = ledger.link.pendingAt i := by
    simp only [pendingAt, inboundSco]
  rw [pending, ← queued, length_nil]
  push_cast
  ring

def Promises (link : Link) (i j : Nat) (command : Command) : Prop :=
  link.promises (.command i command) j = (((link.controllers i).handleCommand i command).2.filter
    fun action => action.synchronous = some j).length

theorem promises_command (link : Link) (i j : Nat) (command : Command) :
    Promises link i j command := by
  have refused {status : UInt8} (bad : status ≠ success)
      (same : (link.controllers i).handleCommand i command =
        ((link.controllers i).push (.commandStatus status), [])) :
      Promises link i j command := by
    rw [Promises, promises, same, if_neg]
    · rfl
    · rintro ⟨-, -, last⟩
      rw [SimController.push, List.getLast?_concat] at last
      exact bad (Event.commandStatus.inj (Option.some.inj last))
  have accepted {action : Action} (asks : command.synchronous) (own : action.synchronous = some i)
      (same : (link.controllers i).handleCommand i command =
        ((link.controllers i).push (.commandStatus success), [action])) :
      Promises link i j command := by
    rw [Promises, promises, same]
    by_cases here : j = i
    · rw [if_pos ⟨here, asks, List.getLast?_concat⟩, filter_cons_of_pos]
      · rfl
      · exact decide_eq_true (here ▸ own)
    · rw [if_neg fun both => here both.1, filter_cons_of_neg]
      · rfl
      · rw [own]
        simpa using Ne.symm here
  have silent (other : command.synchronous = false)
      (none : ((link.controllers i).handleCommand i command).2.filter
        (fun action => action.synchronous = some j) = []) :
      Promises link i j command := by
    rw [Promises, promises, none, if_neg]
    · rfl
    · rw [other]
      rintro ⟨-, asks, -⟩
      exact Bool.false_ne_true asks
  cases command with
  | setupSynchronous aclHandle linkType airMode =>
    by_cases off : !(link.controllers i).isConnected aclHandle
    · exact refused (show unknownConnection ≠ success by decide) (if_pos off)
    by_cases twice : (link.controllers i).scoLinks.any fun link => link.aclHandle = aclHandle
    · exact refused (show connectionAlreadyExists ≠ success by decide)
        ((if_neg off).trans (if_pos twice))
    · exact @accepted (.scoSetup i aclHandle linkType airMode) rfl rfl
        ((if_neg off).trans (if_neg twice))
  | answerSynchronous peer reject =>
    by_cases other : (link.controllers i).inboundSco.map InboundSco.initiatorAddress ≠ some peer
    · exact refused (show unknownConnection ≠ success by decide) (if_pos other)
    · exact @accepted (.scoAnswer i peer reject) rfl rfl (if_neg other)
  | leCsRemoveConfig handle configId =>
    apply silent rfl
    rw [SimController.handleCommand]
    cases (link.controllers i).cs <;> rfl
  | leCreateCis streams =>
    apply silent rfl
    rw [SimController.handleCommand]
    split_ifs
    · rfl
    · rfl
    · refine filter_eq_nil_iff.mpr fun action asked => ?_
      obtain ⟨stream, -, rfl⟩ := mem_map.mp asked
      simp [Action.synchronous]
  | _ =>
    apply silent rfl
    rw [SimController.handleCommand]
    try split_ifs
    all_goals rfl

theorem queued_command (i j : Nat) (command : Command) :
    ledger.link.promises (.command i command) j + (ledger.link.queued j).length =
      ((ledger.link.step (.command i command)).queued j).length := by
  have after : (ledger.link.step (.command i command)).queued j = ledger.link.queued j ++
      ((ledger.link.controllers i).handleCommand i command).2.filter fun action =>
        action.synchronous = some j := filter_append ..
  rw [after, length_append, add_comm, show _ = _ from promises_command ..]

theorem queued_act {action : Action} {rest : List Action}
    (waiting : ledger.link.actions = action :: rest) (i : Nat) :
    (ledger.link.queued i).length = (if action.synchronous = some i then 1 else 0) +
      ((ledger.link.step .act).queued i).length := by
  have after : (ledger.link.step .act).actions = rest := by
    rw [Link.step, waiting]
    exact perform_actions ..
  rw [queued, queued, waiting, after, filter_cons]
  by_cases own : action.synchronous = some i
  · rw [if_pos (decide_eq_true own), if_pos own, length_cons, add_comm]
  · rw [if_neg (by simpa using own), if_neg own, Nat.zero_add]

theorem queued_other {action : Action} {rest : List Action}
    (waiting : ledger.link.actions = action :: rest) (other : action.synchronous = none) (i : Nat) :
    (ledger.link.queued i).length = ((ledger.link.step .act).queued i).length := by
  rw [queued_act waiting, other, if_neg (Option.some_ne_none i).symm, Nat.zero_add]

/-- A step that is about nothing synchronous. -/
theorem Does.of_lull (sane : ledger.Sane) (each : Each Lull ledger.link (ledger.link.step step))
    (ends : ledger.link.ends step = [])
    (queued : ∀ i, ledger.link.promises step i + (ledger.link.queued i).length =
      ((ledger.link.step step).queued i).length) : ledger.Does step := by
  refine .of_silent sane ?_ (fun i => (each i).completions) (fun i => (each i).inboundSco) queued
  rw [ends, append_nil]
  exact sane.coherent.shrink (counter_next sane step) (handles_next sane step) (.of_lull each)

theorem does_command (sane : ledger.Sane) (i : Nat) (command : Command)
    (waits : ledger.Waits (.command i command)) : ledger.Does (.command i command) := by
  by_cases resets : command = .reset
  swap
  · exact .of_lull sane (command_each _ Lull.steady i command (handleCommand_lull i _ command resets))
      rfl fun j => queued_command i j command
  subst resets
  have none := waits.reset i rfl
  have here (j : Nat) : (ledger.link.step (.command i .reset)).controllers j =
      if j = i then (ledger.link.controllers i).reset.push .commandComplete
      else ledger.link.controllers j := Function.update_apply ..
  refine .of_silent sane ?_ (fun j => ?_) (fun j => ?_) fun j => queued_command i j .reset
  · refine (append_nil ledger.ended).symm ▸ sane.coherent.shrink
      (counter_next sane _) (handles_next sane _) (⟨fun j handle peer found => ?_, fun j sco held => ?_,
        fun j sco held _ => ?_, fun j request held => ?_⟩ : Shrinks [] _ _)
    · rw [peerOf, here] at found
      split_ifs at found with same
      · cases found
      · exact found
    · rw [here] at held
      split_ifs at held with same
      · cases held
      · exact ⟨held, not_mem_nil⟩
    · by_cases same : j = i
      · refine .inr fun handle => ?_
        rw [peerOf, here, if_pos same]
        rfl
      · rw [here, if_neg same]
        exact .inl held
    · rw [here] at held
      split_ifs at held with same
      · cases held
      · exact held
  · rw [here]
    split_ifs with same
    · rw [same, SimController.completions_silent _ rfl]
      rfl
    · rfl
  · rw [here]
    split_ifs with same
    · rw [same, none]
      rfl
    · rfl

theorem does_connect (sane : ledger.Sane) (central peripheral : Nat)
    (waits : ledger.Waits (.connect central peripheral)) :
    ledger.Does (.connect central peripheral) := by
  have fresh : ledger.link.nextHandle ∉ ledger.taken := waits.fresh _ mem_cons_self
  have same : Each (fun before after => after.scoLinks = before.scoLinks ∧
      after.inboundSco = before.inboundSco ∧ after.completions = before.completions) ledger.link
        (ledger.link.step (.connect central peripheral)) :=
    establishConnection_each ⟨fun _ => ⟨rfl, rfl, rfl⟩, fun first second =>
      ⟨second.1.trans first.1, second.2.1.trans first.2.1, second.2.2.trans first.2.2⟩⟩ central
        peripheral fun _ _ _ => ⟨rfl, rfl, SimController.completions_silent _ rfl⟩
  have joined {link : Link} {i j own far : Nat} {other : UInt16} {event : Event}
      (found : (link.change i fun controller => SimController.push
        { controller with connections := controller.connections ++
            [({ handle := ledger.link.nextHandle, peer := own } : Connection)] } event).peerOf j other =
        some far) :
      link.peerOf j other = some far ∨ (other = ledger.link.nextHandle ∧ j = i ∧ far = own) := by
    rw [peerOf, change_controllers] at found
    split_ifs at found with here
    · subst here
      change ((((link.controllers j).connections ++ [_]).find? _).map Connection.peer) = _ at found
      rw [List.find?_append] at found
      cases earlier : (link.controllers j).connections.find? fun connection =>
          connection.handle = other with
      | some connection =>
        rw [earlier, Option.some_or] at found
        refine .inl ?_
        rw [peerOf, SimController.peerOf, earlier]
        exact found
      | none =>
        rw [earlier, Option.none_or, List.find?_singleton] at found
        split_ifs at found with named
        · exact .inr ⟨(of_decide_eq_true named).symm, rfl, (Option.some.inj found).symm⟩
        · cases found
    · exact .inl found
  refine .of_silent sane ?_ (fun i => (same i).2.2) (fun i => (same i).2.1) fun i => Nat.zero_add _
  have peers (i : Nat) (other : UInt16) (far : Nat)
      (found : (ledger.link.step (.connect central peripheral)).peerOf i other = some far) :
      ledger.link.peerOf i other = some far ∨ (other = ledger.link.nextHandle ∧
        ((i = central ∧ far = peripheral) ∨ (i = peripheral ∧ far = central))) := by
    rcases joined found with earlier | ⟨named, here, own⟩
    · rcases joined earlier with first | ⟨named, here, own⟩
      · exact .inl first
      · exact .inr ⟨named, .inl ⟨here, own⟩⟩
    · exact .inr ⟨named, .inr ⟨here, own⟩⟩
  exact (append_nil ledger.ended).symm ▸ sane.coherent.joined (counter_next sane _)
    (handles_next sane _) fresh peers (fun i => (same i).1) fun i => (same i).2.1

section Act
variable {sender : Nat} {rest : List Action}

theorem Coherent.of_actions {link : Link} {taken : List UInt16} {ended : List (Nat × UInt16)}
    (coherent : link.Coherent taken ended) :
    ({ link with actions := rest } : Link).Coherent taken ended :=
  ⟨coherent.counter, coherent.handles, coherent.between, coherent.links, coherent.halves,
    coherent.named, coherent.requests, coherent.gone, coherent.clean⟩

theorem step_act {action : Action} (waiting : ledger.link.actions = action :: rest) :
    ledger.link.step .act = ({ ledger.link with actions := rest } : Link).perform action := by
  rw [Link.step, waiting]

theorem does_disconnect {handle : UInt16} (sane : ledger.Sane) (waits : ledger.Waits .act)
    (waiting : ledger.link.actions = .disconnect sender handle :: rest) : ledger.Does .act := by
  have coherent : ({ ledger.link with actions := rest } : Link).Coherent ledger.taken ledger.ended :=
    Coherent.of_actions sane.coherent
  have stepped : ledger.link.step .act =
      ({ ledger.link with actions := rest } : Link).routeDisconnect sender handle :=
    step_act waiting
  have queued (i : Nat) : ledger.link.promises .act i + (ledger.link.queued i).length =
      ((ledger.link.step .act).queued i).length :=
    (Nat.zero_add _).trans (queued_other waiting rfl i)
  have ends : ledger.link.ends .act = if (ledger.link.scoPeerOf sender handle).isSome then [] else
      (ledger.link.peerOf sender handle).elim [] fun peer => [(sender, handle), (peer, handle)] := by
    rw [Link.ends, waiting, List.head?_cons]
    cases found : ledger.link.peerOf sender handle with
    | none => simp [found]
    | some peer => simp [found]
  cases synchronous : ledger.link.scoPeerOf sender handle with
  | some peer =>
    have pruned := routeScoDisconnect_pruned coherent.named sender handle
    have same : ledger.link.step .act =
        (({ ledger.link with actions := rest } : Link).routeScoDisconnect sender handle).2 := by
      rw [stepped]
      have found : ({ ledger.link with actions := rest } : Link).scoPeerOf sender handle =
        some peer := synchronous
      simp only [routeDisconnect, routeScoDisconnect, found, if_true]
    rw [← same] at pruned
    refine .of_silent sane ?_ pruned.completions pruned.inboundSco queued
    rw [ends, synchronous, Option.isSome_some, if_pos rfl, append_nil]
    exact coherent.shrink (counter_next sane _) (handles_next sane _) (.of_pruned pruned)
  | none =>
    rw [synchronous, Option.isSome_none, if_neg Bool.false_ne_true] at ends
    cases found : ledger.link.peerOf sender handle with
    | none =>
      have lost : ({ ledger.link with actions := rest } : Link).peerOf sender handle = none := found
      have free : ({ ledger.link with actions := rest } : Link).scoPeerOf sender handle = none :=
        synchronous
      refine .of_lull sane ?_ (by rw [ends, found, Option.elim_none]) queued
      rw [stepped, routeDisconnect, routeScoDisconnect, free]
      simp only [Bool.false_eq_true, if_false]
      rw [lost]
      exact .rfl Lull.steady
    | some peer =>
      rw [found, Option.elim_some] at ends
      obtain ⟨removed, dropped⟩ := routeDisconnect_dropped coherent.named synchronous found
      rw [← stepped] at dropped
      refine .of_silent sane ?_ dropped.completions (fun i => ?_) queued
      · rw [ends]
        exact coherent.drop (counter_next sane _) (handles_next sane _) found dropped
      · rw [dropped.inboundSco]
        split_ifs with own
        · change (ledger.link.controllers i).inboundSco.filter _ = _
          cases held : (ledger.link.controllers i).inboundSco with
          | none => rfl
          | some request =>
            have known : (i, handle) ∈ ledger.link.ends .act := by
              rw [ends]
              rcases own with rfl | rfl
              · exact mem_cons_self
              · exact mem_cons_of_mem _ mem_cons_self
            refine Option.filter_eq_some_iff.mpr ⟨rfl, ?_⟩
            exact decide_eq_true (waits.disconnect i handle known request held)
        · rfl

theorem queued_own {action : Action} (waiting : ledger.link.actions = action :: rest)
    (own : action.synchronous = some sender) (i : Nat) :
    ledger.link.promises .act i + (ledger.link.queued i).length =
      (if i = sender then 1 else 0) + ((ledger.link.step .act).queued i).length := by
  rw [queued_act waiting, own]
  apply (Nat.zero_add _).trans
  by_cases here : i = sender
  · rw [if_pos here, if_pos (congrArg some here.symm)]
  · rw [if_neg here, if_neg fun same => here (Option.some.inj same).symm]

/-- A request is told of at once if it cannot be put to the other end. -/
theorem does_refuse {aclHandle : UInt16} {linkType airMode status : UInt8} {peer : Address}
    (sane : ledger.Sane)
    (waiting : ledger.link.actions = .scoSetup sender aclHandle linkType airMode :: rest)
    (bad : status ≠ success)
    (stepped : ledger.link.step .act = ({ ledger.link with actions := rest } : Link).push sender
      (.synchronousConnectionComplete status 0 peer linkType airMode)) : ledger.Does .act := by
  have here (i : Nat) : (ledger.link.step .act).controllers i =
      if i = sender then (ledger.link.controllers sender).push
        (.synchronousConnectionComplete status 0 peer linkType airMode)
      else ledger.link.controllers i := by
    rw [stepped]
    exact push_controllers ..
  have fields (i : Nat) :
      ((ledger.link.step .act).controllers i).connections = (ledger.link.controllers i).connections ∧
      ((ledger.link.step .act).controllers i).scoLinks = (ledger.link.controllers i).scoLinks ∧
      ((ledger.link.step .act).controllers i).inboundSco = (ledger.link.controllers i).inboundSco := by
    rw [here]
    split_ifs with same
    · rw [same]
      exact ⟨rfl, rfl, rfl⟩
    · exact ⟨rfl, rfl, rfl⟩
  refine .of_balance sane ?_ (fun i => if i = sender then
    [.synchronousConnectionComplete status 0 peer linkType airMode] else []) (fun i => ?_)
      (fun i event inside => ?_) fun i => ?_
  · have ends : ledger.link.ends .act = [] := by
      rw [Link.ends, waiting]
      rfl
    rw [ends, append_nil]
    have shrinks : Shrinks [] ledger.link (ledger.link.step .act) :=
      Shrinks.of_fields (fun i => (fields i).1) (fun i => (fields i).2.1)
        fun i request held => (fields i).2.2 ▸ held
    exact sane.coherent.shrink (counter_next sane _) (handles_next sane _) shrinks
  · rw [here]
    split_ifs with same
    · rw [same, SimController.completions_push]
      rfl
    · exact (append_nil _).symm
  · split_ifs at inside
    · rw [mem_singleton.mp inside]
      refine iff_of_false bad fun holds => ?_
      obtain ⟨sco, held, zero, -⟩ := holds
      exact (sane.coherent.links i sco ((fields i).2.1 ▸ held)).1 zero
    · cases inside
  · have pending : (ledger.link.step .act).pendingAt i = ledger.link.pendingAt i := by
      simp only [pendingAt, fields]
    rw [pending, ← Nat.cast_add, queued_own waiting rfl, Nat.cast_add]
    split_ifs <;> rfl

theorem does_setup {aclHandle : UInt16} {linkType airMode : UInt8} (sane : ledger.Sane)
    (waiting : ledger.link.actions = .scoSetup sender aclHandle linkType airMode :: rest) :
    ledger.Does .act := by
  have stepped : ledger.link.step .act = ({ ledger.link with actions := rest } : Link).routeScoSetup
      sender aclHandle linkType airMode := step_act waiting
  rw [routeScoSetup] at stepped
  cases found : ledger.link.peerOf sender aclHandle with
  | none =>
    have lost : ({ ledger.link with actions := rest } : Link).peerOf sender aclHandle = none := found
    rw [lost] at stepped
    exact does_refuse sane waiting (by decide) stepped
  | some peer =>
    have reached : ({ ledger.link with actions := rest } : Link).peerOf sender aclHandle =
      some peer := found
    rw [reached] at stepped
    simp only at stepped
    split_ifs at stepped with busy
    · exact does_refuse sane waiting (by decide) stepped
    have free : (ledger.link.controllers peer).inboundSco = none := by
      refine Option.not_isSome_iff_eq_none.mp fun some => busy (.inl some)
    have here (i : Nat) : (ledger.link.step .act).controllers i =
        if i = peer then SimController.push { ledger.link.controllers peer with
            inboundSco := some ⟨sender, (ledger.link.controllers sender).address, aclHandle, linkType,
              airMode⟩ }
          (.connectionRequest (ledger.link.controllers sender).address linkType)
        else ledger.link.controllers i := by
      rw [stepped]
      exact change_controllers ..
    have inboundSco (i : Nat) : ((ledger.link.step .act).controllers i).inboundSco =
        if i = peer then some ⟨sender, (ledger.link.controllers sender).address, aclHandle, linkType,
          airMode⟩
        else (ledger.link.controllers i).inboundSco := by
      rw [here]
      split_ifs <;> rfl
    refine .of_balance sane ?_ (fun _ => []) (fun i => ?_) (fun _ => nofun) fun i => ?_
    · have ends : ledger.link.ends .act = [] := by
        rw [Link.ends, waiting]
        rfl
      rw [ends, append_nil]
      have asked : ledger.link.peerOf sender (InboundSco.aclHandle ⟨sender,
        (ledger.link.controllers sender).address, aclHandle, linkType, airMode⟩) = some peer := found
      refine sane.coherent.asked (counter_next sane _) (handles_next sane _) asked rfl
        (fun i handle => ?_) (fun i => ?_) inboundSco
      · rw [peerOf, here]
        split_ifs with same
        · rw [same]
          rfl
        · rfl
      · rw [here]
        split_ifs with same
        · rw [same]
          rfl
        · rfl
    · rw [here, append_nil]
      split_ifs with same
      · rw [same]
        exact SimController.completions_silent _ rfl
      · rfl
    · have none : peer ∉ ledger.link.pendingAt i := by
        rintro ⟨request, held, -⟩
        rw [free] at held
        cases held
      have pending : (ledger.link.step .act).pendingAt i =
          if i = sender then insert peer (ledger.link.pendingAt i) else ledger.link.pendingAt i := by
        ext j
        simp only [pendingAt, Set.mem_ofPred_eq, inboundSco]
        by_cases own : i = sender
        · by_cases far : j = peer
          · simp [own, far]
          · simp [own, far]
        · by_cases far : j = peer
          · simp [own, far, free, Ne.symm own]
          · simp [own, far]
      rw [pending, ← Nat.cast_add, queued_own waiting rfl, Nat.cast_add]
      split_ifs
      · rw [Set.encard_insert_of_notMem none, length_nil, Nat.cast_zero, Nat.cast_one]
        ring
      · rfl

theorem completeSco_fields (link : Link) (request : InboundSco) (acceptor : Nat) (status : UInt8)
    (scoHandle : UInt16) (i : Nat) :
    let after := (link.completeSco request acceptor status scoHandle).controllers i
    after.connections = (link.controllers i).connections ∧
      after.scoLinks = (link.controllers i).scoLinks ∧
      after.inboundSco = (link.controllers i).inboundSco ∧
      after.completions = (link.controllers i).completions ++
        ((if i = request.initiator then [.synchronousConnectionComplete status scoHandle
            (link.controllers acceptor).address request.linkType request.airMode] else []) ++
          if i = acceptor then [.synchronousConnectionComplete status scoHandle
            request.initiatorAddress request.linkType request.airMode] else []) := by
  have told (link : Link) (j : Nat) (event : Event) :
      ((link.push j event).controllers i).connections = (link.controllers i).connections ∧
      ((link.push j event).controllers i).scoLinks = (link.controllers i).scoLinks ∧
      ((link.push j event).controllers i).inboundSco = (link.controllers i).inboundSco ∧
      (event.completes → ((link.push j event).controllers i).completions =
        (link.controllers i).completions ++ if i = j then [event] else []) := by
    rw [push_controllers]
    split_ifs with here
    · subst here
      refine ⟨rfl, rfl, rfl, fun completes => ?_⟩
      rw [SimController.completions_push, if_pos completes]
    · exact ⟨rfl, rfl, rfl, fun _ => (append_nil _).symm⟩
  have first := told link request.initiator (.synchronousConnectionComplete status scoHandle
    (link.controllers acceptor).address request.linkType request.airMode)
  have second := told (link.push request.initiator (.synchronousConnectionComplete status scoHandle
    (link.controllers acceptor).address request.linkType request.airMode)) acceptor
      (.synchronousConnectionComplete status scoHandle request.initiatorAddress request.linkType
        request.airMode)
  refine ⟨second.1.trans first.1, second.2.1.trans first.2.1, second.2.2.1.trans first.2.2.1, ?_⟩
  apply (second.2.2.2 rfl).trans
  rw [first.2.2.2 rfl, append_assoc]

theorem joinSco_fields (link : Link) (request : InboundSco) (sender i : Nat) :
    let after := (link.joinSco request sender).controllers i
    after.connections = (link.controllers i).connections ∧
      after.inboundSco = (link.controllers i).inboundSco ∧
      after.completions = (link.controllers i).completions ∧
      ∀ sco, sco ∈ after.scoLinks ↔ sco ∈ (link.controllers i).scoLinks ∨
        (i = request.initiator ∧ sco = ⟨link.nextHandle, request.aclHandle, sender⟩) ∨
        (i = sender ∧ sco = ⟨link.nextHandle, request.aclHandle, request.initiator⟩) := by
  have each (link : Link) (j : Nat) (own : ScoLink) :
      let after := (link.change j fun controller =>
        { controller with scoLinks := controller.scoLinks ++ [own] }).controllers i
      after.connections = (link.controllers i).connections ∧
        after.inboundSco = (link.controllers i).inboundSco ∧
        after.completions = (link.controllers i).completions ∧
        ∀ sco, sco ∈ after.scoLinks ↔
          sco ∈ (link.controllers i).scoLinks ∨ (i = j ∧ sco = own) := by
    simp only [change_controllers]
    split_ifs with here
    · subst here
      exact ⟨rfl, rfl, rfl, fun sco => by simp⟩
    · exact ⟨rfl, rfl, rfl, fun sco => by simp [here]⟩
  have first := each link.takeHandle request.initiator
    ⟨link.nextHandle, request.aclHandle, sender⟩
  have second := each (link.takeHandle.change request.initiator fun controller =>
    { controller with scoLinks := controller.scoLinks ++
        [(⟨link.nextHandle, request.aclHandle, sender⟩ : ScoLink)] }) sender
      ⟨link.nextHandle, request.aclHandle, request.initiator⟩
  refine ⟨second.1.trans first.1, second.2.1.trans first.2.1, second.2.2.1.trans first.2.2.1,
    fun sco => ?_⟩
  exact (second.2.2.2 sco).trans ((or_congr_left (first.2.2.2 sco)).trans or_assoc)

theorem does_answer {peer : Address} {reject : Option UInt8} (sane : ledger.Sane)
    (waits : ledger.Waits .act)
    (waiting : ledger.link.actions = .scoAnswer sender peer reject :: rest) :
    ledger.Does .act := by
  have asked : ledger.link.actions.head? = some (.scoAnswer sender peer reject) := by
    rw [waiting]
    rfl
  obtain ⟨honest, request, held, named⟩ := waits.answer rfl sender peer reject asked
  have ends : ledger.link.ends .act = [] := by
    rw [Link.ends, waiting]
    rfl
  have stepped : ledger.link.step .act = ({ ledger.link with actions := rest } : Link).routeScoAnswer
      sender peer reject := step_act waiting
  let cleared := ({ ledger.link with actions := rest } : Link).change sender fun controller =>
    { controller with inboundSco := none }
  have clear (i : Nat) : cleared.controllers i = if i = sender then
      { ledger.link.controllers sender with inboundSco := none } else ledger.link.controllers i :=
    change_controllers ..
  have kept (i : Nat) :
      (cleared.controllers i).connections = (ledger.link.controllers i).connections ∧
      (cleared.controllers i).scoLinks = (ledger.link.controllers i).scoLinks ∧
      (cleared.controllers i).inboundSco =
        (if i = sender then none else (ledger.link.controllers i).inboundSco) ∧
      (cleared.controllers i).completions = (ledger.link.controllers i).completions := by
    rw [clear]
    split_ifs with here
    · subst here
      exact ⟨rfl, rfl, rfl, rfl⟩
    · exact ⟨rfl, rfl, rfl, rfl⟩
  -- The request goes from its answerer, and its host is told once, as is the answerer's.
  have balance (events : Nat → List Event) (counts : ∀ i, (events i).length =
      (if i = request.initiator then 1 else 0) + if i = sender then 1 else 0)
      (inboundSco : ∀ i, ((ledger.link.step .act).controllers i).inboundSco =
        if i = sender then none else (ledger.link.controllers i).inboundSco) (i : Nat) :
      (ledger.link.promises .act i : ℕ∞) + (ledger.link.queued i).length +
        (ledger.link.pendingAt i).encard = (events i).length +
          ((ledger.link.step .act).queued i).length +
            ((ledger.link.step .act).pendingAt i).encard := by
    have gone : sender ∉ (ledger.link.step .act).pendingAt i := by
      rintro ⟨other, there, -⟩
      rw [inboundSco, if_pos rfl] at there
      cases there
    have pending : ledger.link.pendingAt i = if i = request.initiator then
        insert sender ((ledger.link.step .act).pendingAt i)
          else (ledger.link.step .act).pendingAt i := by
      ext j
      simp only [pendingAt, inboundSco]
      by_cases own : i = request.initiator
      · by_cases here : j = sender
        · simp [own, here, held]
        · simp [own, here]
      · by_cases here : j = sender
        · simp [own, here, held, Ne.symm own]
        · simp [own, here]
    rw [← Nat.cast_add, queued_own waiting rfl, counts, pending]
    by_cases own : i = request.initiator
    · rw [if_pos own, if_pos own, Set.encard_insert_of_notMem gone]
      push_cast
      ring
    · rw [if_neg own, if_neg own]
      push_cast
      ring
  rcases routeScoAnswer_cases { ledger.link with actions := rest } sender peer reject with
    ⟨other, -⟩ | ⟨own, same, -, outcome⟩
  · exact absurd named (other request held)
  obtain rfl := Option.some.inj (held.symm.trans same)
  rcases outcome with ⟨status, refuses, -, refused⟩ | ⟨joins, accepted⟩
  · have bad : status ≠ success := by
      rcases refuses with rfl | refuses
      · decide
      · rintro rfl
        exact honest refuses
    rw [refused] at stepped
    have fields (i : Nat) := completeSco_fields cleared request sender status 0 i
    rw [← stepped] at fields
    have scoLinks (i : Nat) : ((ledger.link.step .act).controllers i).scoLinks =
        (ledger.link.controllers i).scoLinks := (fields i).2.1.trans (kept i).2.1
    have inboundSco (i : Nat) : ((ledger.link.step .act).controllers i).inboundSco =
        if i = sender then none else (ledger.link.controllers i).inboundSco :=
      (fields i).2.2.1.trans (kept i).2.2.1
    refine .of_balance sane ?_ _ (fun i => (fields i).2.2.2.trans (congrArg (· ++ _) (kept i).2.2.2))
      (fun i event inside => ?_) (balance _ (fun i => ?_) inboundSco)
    · rw [ends, append_nil]
      have shrinks : Shrinks [] ledger.link (ledger.link.step .act) := by
        apply Shrinks.of_fields (fun i => (fields i).1.trans (kept i).1) scoLinks
        intro i other there
        rw [inboundSco] at there
        split_ifs at there
        exact there
      exact sane.coherent.shrink (counter_next sane _) (handles_next sane _) shrinks
    · have untrue (scoHandle : UInt16) (zero : scoHandle = 0) :
          ¬ (ledger.link.step .act).BothHold i scoHandle := by
        rintro ⟨sco, there, named, -⟩
        exact (sane.coherent.links i sco (scoLinks i ▸ there)).1 (named.trans zero)
      rcases mem_append.mp inside with inside | inside
      all_goals
        split_ifs at inside
        · rw [mem_singleton.mp inside]
          exact iff_of_false bad (untrue 0 rfl)
        · cases inside
    · rw [length_append]
      split_ifs <;> rfl
  · have linked : ledger.link.step .act = (cleared.joinSco request sender).completeSco request sender
        success ledger.link.nextHandle := stepped.trans accepted
    have fields (i : Nat) := completeSco_fields (cleared.joinSco request sender) request sender success
      ledger.link.nextHandle i
    rw [← linked] at fields
    have joined (i : Nat) := joinSco_fields cleared request sender i
    have fresh : ledger.link.nextHandle ∉ ledger.taken := by
      apply waits.fresh _
      have joins : ledger.link.joinsSco sender peer reject := joins
      rw [given, takes, waiting, List.head?_cons]
      simp only
      rw [if_pos joins]
      exact mem_cons_self
    have reached : ledger.link.peerOf request.initiator request.aclHandle = some sender := by
      obtain ⟨-, other, there, -, reached⟩ := joinsSco_iff.mp joins
      obtain rfl := Option.some.inj (held.symm.trans there)
      exact reached
    have connections (i : Nat) : ((ledger.link.step .act).controllers i).connections =
        (ledger.link.controllers i).connections :=
      (fields i).1.trans ((joined i).1.trans (kept i).1)
    have inboundSco (i : Nat) : ((ledger.link.step .act).controllers i).inboundSco =
        if i = sender then none else (ledger.link.controllers i).inboundSco :=
      (fields i).2.2.1.trans ((joined i).2.1.trans (kept i).2.2.1)
    have scoLinks (i : Nat) (sco : ScoLink) :
        sco ∈ ((ledger.link.step .act).controllers i).scoLinks ↔
          sco ∈ (ledger.link.controllers i).scoLinks ∨
            (i = request.initiator ∧ sco = ⟨ledger.link.nextHandle, request.aclHandle, sender⟩) ∨
            (i = sender ∧
              sco = ⟨ledger.link.nextHandle, request.aclHandle, request.initiator⟩) := by
      rw [← (kept i).2.1, (fields i).2.1]
      exact (joined i).2.2.2 sco
    refine .of_balance sane ?_ _ (fun i => (fields i).2.2.2.trans (congrArg (· ++ _)
      ((joined i).2.2.1.trans (kept i).2.2.2))) (fun i event inside => ?_)
        (balance _ (fun i => ?_) inboundSco)
    · rw [ends, append_nil]
      refine sane.coherent.linked (counter_next sane _) (handles_next sane _) fresh
        sane.coherent.counter held reached (fun i handle => ?_) scoLinks fun i other there => ?_
      · rw [peerOf, peerOf, SimController.peerOf, SimController.peerOf, connections]
      · rw [inboundSco] at there
        split_ifs at there
        exact there
    · have near := (scoLinks request.initiator _).mpr (.inr (.inl ⟨rfl, rfl⟩))
      have far := (scoLinks sender _).mpr (.inr (.inr ⟨rfl, rfl⟩))
      rcases mem_append.mp inside with inside | inside
      · split_ifs at inside with own
        · rw [mem_singleton.mp inside, own]
          exact iff_of_true rfl ⟨_, near, rfl, _, far, rfl, rfl⟩
        · cases inside
      · split_ifs at inside with own
        · rw [mem_singleton.mp inside, own]
          exact iff_of_true rfl ⟨_, far, rfl, _, near, rfl, rfl⟩
        · cases inside
    · rw [length_append]
      split_ifs <;> rfl

end Act

theorem does_act (sane : ledger.Sane) (waits : ledger.Waits .act) : ledger.Does .act := by
  cases waiting : ledger.link.actions with
  | nil =>
    have still : ledger.link.step .act = ledger.link := by rw [Link.step, waiting]
    refine .of_lull sane (still.symm ▸ Each.rfl Lull.steady) ?_ fun i => ?_
    · rw [Link.ends, waiting]
      rfl
    · rw [still]
      exact Nat.zero_add _
  | cons action rest =>
    cases apart : action.apart with
    | false =>
      cases action with
      | disconnect sender handle => exact does_disconnect sane waits waiting
      | scoSetup sender aclHandle linkType airMode => exact does_setup sane waiting
      | scoAnswer sender peer reject => exact does_answer sane waits waiting
      | _ => cases apart
    | true =>
      refine .of_lull sane ?_ ?_ fun i => ?_
      · rw [step_act waiting]
        exact perform_lull { ledger.link with actions := rest } action apart
      · rw [Link.ends, waiting]
        cases action <;> first | rfl | cases apart
      · have none : action.synchronous = Option.none := by
          cases action <;> first | rfl | cases apart
        exact (Nat.zero_add _).trans (queued_other waiting none i)

theorem does_step (sane : ledger.Sane) (waits : ledger.Waits step) : ledger.Does step := by
  cases step with
  | command i command => exact does_command sane i command waits
  | connect central peripheral => exact does_connect sane central peripheral waits
  | act => exact does_act sane waits
  | authenticate ends handle =>
    exact .of_lull sane (finishPairing_each Lull.steady ends handle
      fun controller => .changeConnection controller handle fun _ => ⟨rfl, rfl⟩) rfl
        fun i => Nat.zero_add _
  | sound i =>
    refine .of_lull sane (sound_each Lull.steady i fun _ _ => .push (.of_same rfl rfl rfl rfl) rfl) rfl
      fun j => (Nat.zero_add _).trans ?_
    rw [queued, queued]
    exact congrArg (fun actions => (List.filter _ actions).length) (ledger.link.sound_rests i).1.symm

theorem sane_new (addresses : Nat → Address) : (new addresses).Sane where
  coherent := {
    counter := show (1 : UInt16) ≠ 0 by decide
    handles := fun _ _ => nofun
    between := fun _ _ _ => nofun
    links := fun _ _ => nofun
    halves := fun _ _ => nofun
    named := fun _ _ _ => nofun
    requests := fun _ _ => nofun
    gone := fun _ _ => nofun
    clean := fun _ _ => nofun }
  owes i := by
    have none : (new addresses).link.pendingAt i = ∅ :=
      Set.eq_empty_of_forall_notMem fun _ held => nomatch held.choose_spec.1
    rw [none, Set.encard_empty]
    rfl

end Ledger

/-- Along every run in which handles are fresh, requests are answered while they wait and
none is rejected with success, and neither a connection nor a host goes under one, every
promise is kept once and truly, and nothing is left of a connection that has gone. -/
theorem promises_are_kept (addresses : Nat → Address) (steps : List Step)
    (waits : Along Ledger.next Ledger.Waits (.new addresses) steps) :
    Along Ledger.next Ledger.Keeps (.new addresses) steps :=
  Along.mono (fun _ _ sane waits => (Ledger.does_step sane waits).keeps)
    (fun _ _ sane waits => (Ledger.does_step sane waits).sane) (Ledger.sane_new addresses) waits

/-- A synchronous link that is asked for and accepted. -/
def answered : List Step :=
  [.connect 0 1, .command 0 (.setupSynchronous 1 2 0), .act,
    .command 1 (.answerSynchronous (Link.numbered 0) none), .act]

theorem promises_are_kept_answered :
    Along Ledger.next Ledger.Keeps (.new Link.numbered) answered := by
  refine promises_are_kept Link.numbered answered ⟨?_, ?_, ?_, ?_, ?_, trivial⟩
  · exact ⟨fun _ _ => nofun, fun _ => nofun, fun _ _ => nofun, nofun⟩
  · exact ⟨fun _ => nofun, fun _ => nofun, fun _ _ => nofun, nofun⟩
  · exact ⟨fun _ => nofun, fun _ => nofun, fun _ _ => nofun, fun _ _ _ _ => nofun⟩
  · exact ⟨fun _ => nofun, fun _ => nofun, fun _ _ => nofun, nofun⟩
  · refine ⟨fun handle inside => ?_, fun _ => nofun, fun _ _ => nofun,
      fun _ sender peer reject asked => ?_⟩
    · obtain rfl : handle = 2 := mem_singleton.mp inside
      exact show (2 : UInt16) ∉ [1] by decide
    cases asked
    exact ⟨nofun, _, rfl, rfl⟩

def rejected : List Step :=
  [.connect 0 1, .command 0 (.setupSynchronous 1 2 0), .act,
    .command 1 (.answerSynchronous (Link.numbered 0) (some 0)), .act]

/-- A request whose connection goes before it is answered. -/
def forgotten : List Step :=
  [.connect 0 1, .command 0 (.setupSynchronous 1 2 0), .act, .command 1 (.disconnect 1), .act]

/-- A rejection is told as a success, with no link; and a host that asked for a link on a
connection that goes is told nothing of it. -/
theorem promises_broken :
    (¬ Along Ledger.next Ledger.Keeps (.new Link.numbered) rejected ∧
      ((rejected.foldl Ledger.next (.new Link.numbered)).link.controllers 0).completions =
        [.synchronousConnectionComplete success 0 (Link.numbered 1) 2 0] ∧
      ((rejected.foldl Ledger.next (.new Link.numbered)).link.controllers 0).scoLinks = []) ∧
    ¬ Along Ledger.next Ledger.Keeps (.new Link.numbered) forgotten ∧
      ((forgotten.foldl Ledger.next (.new Link.numbered)).link.controllers 0).outbox =
        [.connectionComplete 1 (Link.numbered 1), .commandStatus success,
          .disconnectionComplete 1 reasonRemoteUser] := by
  refine ⟨⟨?_, by decide, by decide⟩, ?_, by decide⟩
  · rintro ⟨-, -, -, -, last, -⟩
    obtain ⟨fresh, told, tells⟩ := last.told 0
    obtain rfl : [.synchronousConnectionComplete success 0 (Link.numbered 1) 2 0] = fresh := told
    obtain ⟨sco, held, -⟩ := (tells _ mem_cons_self).mp rfl
    cases held
  · rintro ⟨-, -, -, -, last, -⟩
    have owed : (forgotten.foldl Ledger.next (.new Link.numbered)).Owes := last.owed
    have idle (j : Nat) : ((forgotten.foldl Ledger.next (.new Link.numbered)).link.controllers
        j).inboundSco = none := by
      match j with
      | 0 | 1 | _ + 2 => rfl
    have pending : (forgotten.foldl Ledger.next (.new Link.numbered)).link.pendingAt 0 = ∅ := by
      refine Set.eq_empty_of_forall_notMem fun j held => ?_
      obtain ⟨request, held, -⟩ := held
      rw [idle] at held
      cases held
    have counted := owed 0
    rw [pending, Set.encard_empty, add_zero] at counted
    change ((1 : ℕ) : ℕ∞) = ((0 : ℕ) : ℕ∞) + ((0 : ℕ) : ℕ∞) at counted
    rw [← Nat.cast_add, Nat.cast_inj] at counted
    cases counted

end Simble.Sim
