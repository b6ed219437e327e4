import Simble.Lib.Along
import Simble.Sim.Edits

/-! Channel Sounding on the simulated medium: when a procedure reports one measurement to both
ends of a connection, and when the sessions of other connections are left alone. A controller has
one session for all its connections. -/
namespace Simble.Sim
open Simble.Lib List

def Event.result : Event → Option (UInt16 × UInt8 × UInt16)
  | .csSubeventResult handle configId procedureCounter => some (handle, configId, procedureCounter)
  | _ => none

/-- The procedure numbers of the results since a configuration was last created or removed. -/
def Event.count (numbers : List UInt16) : Event → List UInt16
  | .csConfigComplete .. => []
  | .csSubeventResult _ _ procedureCounter => numbers ++ [procedureCounter]
  | _ => numbers

def Event.onSession : Event → Bool
  | .csConfigComplete .. | .csSubeventResult .. => true
  | _ => false

def SimController.results (controller : SimController) : List (UInt16 × UInt8 × UInt16) :=
  controller.outbox.filterMap Event.result

def SimController.numbers (controller : SimController) : List UInt16 :=
  controller.outbox.foldl Event.count []

/-- From zero, one by one, modulo 2^16. -/
def Consecutive (numbers : List UInt16) : Prop :=
  numbers = (List.range numbers.length).map UInt16.ofNat

/-- The connection that a removal, a configuration, an enable or a disconnection is on. -/
def Link.concerns (link : Link) : Step → Option UInt16
  | .command _ (.leCsRemoveConfig handle _) => some handle
  | .act =>
    match link.actions.head? with
    | some (.csConfigure _ handle _ _ _) => some handle
    | some (.csEnable _ handle _ _) => some handle
    | some (.disconnect _ handle) => some handle
    | _ => none
  | _ => none

/-- One measurement of an enabled initiator session whose peer's session is for the same
connection and configuration, reported to both ends alike. -/
def Link.Reports (before after : Link) (i : Nat) : Prop :=
  ∃ session peer other, (before.controllers i).cs = some session ∧ session.enabled ∧
    session.role = 0x00 ∧ before.peerOf i session.handle = some peer ∧
    (before.controllers peer).cs = some other ∧ other.enabled ∧
    other.Names session.handle session.configId ∧
    ∀ j, (after.controllers j).results = (before.controllers j).results ++
      if j = i ∨ j = peer then [(session.handle, session.configId, session.procedureCounter)] else []

structure Link.PairsUp (link : Link) (step : Step) : Prop where
  reports : (∀ j, ((link.step step).controllers j).results = (link.controllers j).results) ∨
    ∃ i, step = .sound i ∧ link.Reports (link.step step) i
  counts : ∀ j, Consecutive ((link.step step).controllers j).numbers
  spares : ∀ handle, link.concerns step = some handle → ∀ j session,
    (link.controllers j).cs = some session → session.handle ≠ handle →
      ((link.step step).controllers j).cs = some session

/-- The condition on a step: a configuration is created, and removed, where the controller has no
session of another connection, and a procedure runs only with another controller whose session is
for the same connection, configuration and procedure. -/
def Link.Sounds (link : Link) : Step → Prop
  | .command i (.leCsRemoveConfig handle _) =>
    ∀ session, (link.controllers i).cs = some session → session.handle = handle
  | .act =>
    match link.actions.head? with
    | some (.csConfigure sender handle _ _ propagateToPeer) =>
      ∀ i session, i = sender ∨ (propagateToPeer ∧ link.peerOf sender handle = some i) →
        (link.controllers i).cs = some session → session.handle = handle
    | _ => True
  | .sound i => ∀ session peer, link.procedure i = some (session, peer) → peer ≠ i ∧
      ∃ other, (link.controllers peer).cs = some other ∧
        other.Names session.handle session.configId ∧
        other.procedureCounter = session.procedureCounter
  | _ => True

/-! ## Sessions and their numbers -/

section Numbers
variable {numbers : List UInt16}

theorem consecutive_nil : Consecutive [] := rfl

theorem consecutive_concat (before : Consecutive numbers) (next : UInt16) :
    Consecutive (numbers ++ [next]) ↔ next = UInt16.ofNat numbers.length := by
  unfold Consecutive
  rw [length_append, length_singleton, range_succ, map_append, ← before]
  simp

end Numbers

theorem SimController.results_push (controller : SimController) (event : Event) :
    (controller.push event).results = controller.results ++ event.result.toList := by
  rw [results, push, filterMap_append]
  cases result : event.result with
  | none => simp [result, results]
  | some => simp [result, results]

theorem SimController.numbers_push (controller : SimController) (event : Event) :
    (controller.push event).numbers = event.count controller.numbers := by
  rw [numbers, push, foldl_append]
  rfl

structure SimController.Counted (controller : SimController) : Prop where
  consecutive : Consecutive controller.numbers
  session : ∀ session, controller.cs = some session →
    session.procedureCounter = UInt16.ofNat controller.numbers.length

def Link.Counted (link : Link) : Prop := ∀ i, (link.controllers i).Counted

/-- Nothing is said about a procedure or a configuration, and a session that there is
was there before, at the same procedure. -/
structure Quiet (before after : SimController) : Prop where
  results : after.results = before.results
  numbers : after.numbers = before.numbers
  session : ∀ session, after.cs = some session → ∃ earlier, before.cs = some earlier ∧
    earlier.procedureCounter = session.procedureCounter

namespace Quiet

theorem steady : Steady Quiet where
  refl _ := ⟨rfl, rfl, fun session same => ⟨session, same, rfl⟩⟩
  trans first second :=
    { results := second.results.trans first.results
      numbers := second.numbers.trans first.numbers
      session := fun session held => by
        obtain ⟨middle, between, same⟩ := second.session session held
        obtain ⟨earlier, began, sooner⟩ := first.session middle between
        exact ⟨earlier, began, sooner.trans same⟩ }

variable {before after : SimController}

theorem of_same (outbox : after.outbox = before.outbox)
    (session : ∀ session, after.cs = some session → before.cs = some session) :
    Quiet before after :=
  ⟨congrArg (List.filterMap Event.result) outbox, congrArg (List.foldl Event.count []) outbox,
    fun held same => ⟨held, session held same, rfl⟩⟩

theorem push {event : Event} (quiet : Quiet before after) (silent : event.onSession = false) :
    Quiet before (after.push event) where
  results := by
    rw [SimController.results_push, quiet.results]
    cases event <;> first | exact append_nil _ | cases silent
  numbers := by
    rw [SimController.numbers_push, quiet.numbers]
    cases event <;> first | rfl | cases silent
  session := quiet.session

theorem counted (quiet : Quiet before after) (counted : before.Counted) : after.Counted where
  consecutive := quiet.numbers ▸ counted.consecutive
  session session held := by
    obtain ⟨earlier, began, same⟩ := quiet.session session held
    rw [quiet.numbers, ← same]
    exact counted.session earlier began

theorem changeConnection (controller : SimController) (handle : UInt16)
    (change : Connection → Connection) :
    Quiet controller (controller.changeConnection handle change) :=
  of_same rfl fun _ held => held

theorem told (controller : SimController) {event : Event}
    (silent : event.onSession = false) : Quiet controller (controller.push event) :=
  (steady.refl controller).push silent

end Quiet

open Link

theorem handleCommand_quiet (i : Nat) (controller : SimController) (command : Command)
    (other : ∀ handle configId, command ≠ .leCsRemoveConfig handle configId) :
    Quiet controller (controller.handleCommand i command).1 := by
  cases command with
  | leCsRemoveConfig handle configId => exact absurd rfl (other handle configId)
  | reset =>
    have gone (session : CsSession) (held : controller.reset.cs = some session) :
        controller.cs = some session := by cases held
    exact Quiet.push (.of_same rfl gone) rfl
  | leCreateCis streams =>
    rw [SimController.handleCommand]
    split_ifs
    · exact .told controller rfl
    · exact .told controller rfl
    · exact Quiet.steady.trans (.told controller (rfl : (Event.commandStatus success).onSession = false))
        (.of_same rfl fun _ held => held)
  | _ =>
    rw [SimController.handleCommand]
    try split_ifs
    all_goals exact .told controller rfl

theorem perform_quiet (link : Link) (action : Action)
    (configure : ∀ sender handle configId role propagateToPeer,
      action = .csConfigure sender handle configId role propagateToPeer → False) :
    Each Quiet link (link.perform action) := by
  refine perform_each Quiet.steady action fun controller after edits => ?_
  cases edits with
  | tells told =>
    refine .told controller ?_
    cases told <;> first | rfl | exact (configure _ _ _ _ _ rfl).elim
  | configures => exact (configure _ _ _ _ _ rfl).elim
  | enables held => exact ⟨rfl, rfl, fun after same => ⟨_, held, by cases same; rfl⟩⟩
  | drops => exact .of_same rfl fun _ held => (Option.filter_eq_some_iff.mp held).1
  | closesSco | asksSco | takesSco | joinsSco | asksCis | acceptsCis =>
    exact .of_same rfl fun _ held => held
  | encrypts | parksKey | takesKey | setsKey => exact .changeConnection controller _ _

/-! ## Other connections -/

/-- The session stays if it is not on a connection. -/
def Spares (handle : UInt16) (before after : SimController) : Prop :=
  ∀ session, before.cs = some session → session.handle ≠ handle → after.cs = some session

theorem Spares.steady (handle : UInt16) : Steady (Spares handle) where
  refl _ := fun _ held _ => held
  trans first second := fun session held other => second session (first session held other) other

theorem disconnect_spares (link : Link) (sender : Nat) (handle : UInt16) :
    Each (Spares handle) link (link.routeDisconnect sender handle) := by
  refine routeDisconnect_each (Spares.steady handle) sender handle (fun _ _ _ _ held _ => held) ?_
    fun _ _ _ held _ => held
  intro controller session held other
  exact Option.filter_eq_some_iff.mpr ⟨held, decide_eq_true other⟩

theorem csEnable_spares (link : Link) (sender : Nat) (handle : UInt16) (configId : UInt8)
    (enable : Bool) : Each (Spares handle) link (link.routeCsEnable sender handle configId enable) := by
  refine routeCsEnable_each (Spares.steady handle) sender handle configId enable
    (fun _ _ held _ => held) ?_
  intro controller own held names session same other
  obtain rfl := Option.some.inj (held.symm.trans same)
  exact absurd names.1 other

/-! ## Creating and removing -/

section Create
variable (link : Link) (sender : Nat) (handle : UInt16) (configId role : UInt8)
  (propagateToPeer : Bool)

theorem peerOf_of_connections {link other : Link} {i : Nat} (handle : UInt16)
    (same : (other.controllers i).connections = (link.controllers i).connections) :
    other.peerOf i handle = link.peerOf i handle := by
  rw [peerOf, peerOf, SimController.peerOf, SimController.peerOf, same]

/-- A configuration tells of no procedure, and starts the numbers anew. -/
theorem csConfigure_restarts :
    Each (fun before after => after.results = before.results ∧ (before.Counted → after.Counted)) link
      (link.routeCsConfigure sender handle configId role propagateToPeer) := by
  refine routeCsConfigure_each ⟨fun _ => ⟨rfl, id⟩, fun first second =>
    ⟨second.1.trans first.1, second.2 ∘ first.2⟩⟩ sender handle configId role propagateToPeer ?_
  intro controller role
  refine ⟨(SimController.results_push ..).trans (append_nil _), fun _ => ?_⟩
  have restarted : (SimController.push
      { controller with cs := some { handle, configId, role } }
      (.csConfigComplete handle configId role true)).numbers = [] := SimController.numbers_push ..
  refine ⟨restarted ▸ consecutive_nil, fun session held => ?_⟩
  cases held
  rw [restarted]
  rfl

theorem csConfigure_cs (i : Nat) :
    ((link.routeCsConfigure sender handle configId role propagateToPeer).controllers i).cs =
      if propagateToPeer ∧ link.peerOf sender handle = some i then
        some { handle, configId, role := if role = 0x00 then 0x01 else 0x00 }
      else if i = sender then some { handle, configId, role } else (link.controllers i).cs := by
  have own (j : Nat) : ((link.configureCs sender handle configId role).controllers j).cs =
      if j = sender then some { handle, configId, role } else (link.controllers j).cs := by
    rw [configureCs, change_controllers]
    split_ifs <;> rfl
  have peers : (link.configureCs sender handle configId role).peerOf sender handle =
      link.peerOf sender handle := by
    apply peerOf_of_connections handle
    rw [configureCs, change_controllers, if_pos rfl]
    rfl
  unfold routeCsConfigure
  simp only [peers]
  cases propagateToPeer with
  | false => simpa using own i
  | true =>
    cases link.peerOf sender handle with
    | none => simpa using own i
    | some peer =>
      rw [if_neg (by simp)]
      simp only [Option.some.injEq, true_and]
      rw [configureCs, change_controllers]
      by_cases same : i = peer
      · rw [if_pos same, if_pos same.symm]
        rfl
      · rw [if_neg same, if_neg (Ne.symm same), own]

theorem csConfigure_spares_iff :
    Each (Spares handle) link (link.routeCsConfigure sender handle configId role propagateToPeer) ↔
      ∀ i session, i = sender ∨ (propagateToPeer ∧ link.peerOf sender handle = some i) →
        (link.controllers i).cs = some session → session.handle = handle := by
  constructor
  · intro spared i session configured held
    by_contra other
    have kept := spared i session held other
    rw [csConfigure_cs] at kept
    by_cases peer : propagateToPeer ∧ link.peerOf sender handle = some i
    · rw [if_pos peer] at kept
      exact other (congrArg CsSession.handle (Option.some.inj kept)).symm
    · rw [if_neg peer, if_pos (configured.resolve_right peer)] at kept
      exact other (congrArg CsSession.handle (Option.some.inj kept)).symm
  · intro mine i session held other
    rw [csConfigure_cs, if_neg fun peer => other (mine i session (.inr peer) held),
      if_neg fun own => other (mine i session (.inl own) held)]
    exact held

end Create

theorem removeConfig_cs (i : Nat) (controller : SimController) (handle : UInt16) (configId : UInt8) :
    (controller.handleCommand i (.leCsRemoveConfig handle configId)).1.cs = none := by
  rw [SimController.handleCommand]
  cases controller.cs <;> rfl

theorem removeConfig_restarts (i : Nat) (controller : SimController) (handle : UInt16)
    (configId : UInt8) (counted : controller.Counted) :
    let removed := (controller.handleCommand i (.leCsRemoveConfig handle configId)).1
    removed.results = controller.results ∧ removed.Counted := by
  intro removed
  have gone : ∀ session, removed.cs = some session →
      session.procedureCounter = UInt16.ofNat removed.numbers.length := by
    intro session held
    rw [removeConfig_cs] at held
    cases held
  have told : Quiet controller (SimController.push { controller with cs := none }
      (.commandStatus success)) := .push (.of_same rfl fun _ held => by cases held) rfl
  cases held : controller.cs with
  | none =>
    have same : removed = SimController.push { controller with cs := none }
        (.commandStatus success) := by
      simp only [removed, SimController.handleCommand, held]
    exact ⟨same ▸ told.results, (same ▸ told.counted counted).1, gone⟩
  | some session =>
    have same : removed = SimController.push (SimController.push { controller with cs := none }
        (.commandStatus success)) (.csConfigComplete session.handle session.configId session.role
          false) := by
      simp only [removed, SimController.handleCommand, held]
    refine ⟨?_, ?_, gone⟩
    · rw [same, SimController.results_push]
      exact (append_nil _).trans told.results
    · rw [same, SimController.numbers_push]
      exact consecutive_nil

/-! ## Procedures -/

section Procedure
variable {link : Link} {i peer : Nat} {session : CsSession}

theorem procedure_eq : link.procedure i = some (session, peer) ↔
    (link.controllers i).cs = some session ∧ (session.enabled ∧ session.role = 0x00) ∧
      link.peerOf i session.handle = some peer ∧
        ∃ other, (link.controllers peer).cs = some other ∧ other.enabled := by
  unfold procedure
  simp only [Option.bind_eq_bind, Option.bind_eq_some_iff, Option.any_eq_true]
  constructor
  · rintro ⟨own, held, runs⟩
    split_ifs at runs with idle
    obtain ⟨far, found, runs⟩ := Option.bind_eq_some_iff.mp runs
    split_ifs at runs with enabled
    obtain ⟨rfl, rfl⟩ := Prod.mk.inj (Option.some.inj runs)
    exact ⟨held, (not_or.mp idle).imp not_not.mp not_not.mp, found, enabled⟩
  · rintro ⟨held, drives, found, enabled⟩
    refine ⟨session, held, ?_⟩
    rw [if_neg (not_or.mpr (drives.imp not_not.mpr not_not.mpr))]
    refine Option.bind_eq_some_iff.mpr ⟨peer, found, ?_⟩
    rw [if_pos enabled]

theorem reportCs_results (j : Nat) (session : CsSession) :
    ((link.reportCs i session).controllers j).results = (link.controllers j).results ++
      if j = i then [(session.handle, (((link.controllers i).cs.map CsSession.configId).getD
        session.configId), session.procedureCounter)] else [] := by
  rw [reportCs, change_controllers]
  split_ifs with same
  · rw [same]
    exact SimController.results_push ..
  · exact (append_nil _).symm

theorem reportCs_numbers (j : Nat) (session : CsSession) :
    ((link.reportCs i session).controllers j).numbers = (link.controllers j).numbers ++
      if j = i then [session.procedureCounter] else [] := by
  rw [reportCs, change_controllers]
  split_ifs with same
  · rw [same]
    exact SimController.numbers_push ..
  · exact (append_nil _).symm

theorem reportCs_cs (j : Nat) (session : CsSession) :
    ((link.reportCs i session).controllers j).cs =
      if j = i then (link.controllers i).cs.map (CsSession.count session.procedureCounter)
      else (link.controllers j).cs := by
  rw [reportCs, change_controllers]
  split_ifs <;> rfl

theorem reportCs_counted (counted : link.Counted)
    (own : ∃ held, (link.controllers i).cs = some held ∧
      held.procedureCounter = session.procedureCounter) :
    (link.reportCs i session).Counted := by
  obtain ⟨held, here, same⟩ := own
  have next := (counted i).session held here
  rw [same] at next
  intro j
  by_cases other : j = i
  · subst other
    have numbers : ((link.reportCs j session).controllers j).numbers =
        (link.controllers j).numbers ++ [session.procedureCounter] := by
      rw [reportCs_numbers, if_pos rfl]
    refine ⟨?_, fun after now => ?_⟩
    · rw [numbers]
      exact (consecutive_concat (counted j).consecutive _).mpr next
    · rw [reportCs_cs, if_pos rfl, here] at now
      rw [numbers, length_append, length_singleton, ← Option.some.inj now]
      change session.procedureCounter + 1 = _
      rw [next, UInt16.ofNat_add]
      rfl
  · have unchanged : (link.reportCs i session).controllers j = link.controllers j := by
      rw [reportCs, change_controllers, if_neg other]
    exact unchanged ▸ counted j

theorem sound_results (runs : link.procedure i = some (session, peer)) (j : Nat) :
    ((link.sound i).controllers j).results = (link.controllers j).results ++
      ((if j = i then [(session.handle, session.configId, session.procedureCounter)] else []) ++
        if j = peer then [(session.handle, ((((link.reportCs i session).controllers peer).cs.map
          CsSession.configId).getD session.configId), session.procedureCounter)] else []) := by
  have own := (procedure_eq.mp runs).1
  rw [sound, runs]
  rw [reportCs_results, reportCs_results, own, append_assoc]
  rfl

theorem reportCs_configId (i j : Nat) (session : CsSession) :
    ((link.reportCs i session).controllers j).cs.map CsSession.configId =
      (link.controllers j).cs.map CsSession.configId := by
  rw [reportCs_cs]
  split_ifs with same
  · rw [same, Option.map_map]
    rfl
  · rfl

theorem sound_reports (runs : link.procedure i = some (session, peer)) (apart : peer ≠ i)
    {other : CsSession} (far : (link.controllers peer).cs = some other)
    (names : other.Names session.handle session.configId) : link.Reports (link.sound i) i := by
  obtain ⟨held, ⟨enabled, role⟩, found, same, known, on⟩ := procedure_eq.mp runs
  obtain rfl := Option.some.inj (far.symm.trans known)
  refine ⟨session, peer, other, held, enabled, role, found, far, on, names, fun j => ?_⟩
  rw [sound_results runs, reportCs_configId, far, Option.map_some, Option.getD_some, names.2]
  by_cases here : j = i
  · rw [if_pos here, if_neg (fun there => apart (there.symm.trans here)), if_pos (.inl here),
      append_nil]
  · by_cases there : j = peer
    · rw [if_neg here, if_pos there, if_pos (.inr there), nil_append]
    · rw [if_neg here, if_neg there, if_neg (not_or.mpr ⟨here, there⟩), nil_append]

theorem sound_counted (counted : link.Counted) (runs : link.procedure i = some (session, peer))
    (apart : peer ≠ i) {other : CsSession} (far : (link.controllers peer).cs = some other)
    (same : other.procedureCounter = session.procedureCounter) : (link.sound i).Counted := by
  rw [sound, runs]
  refine reportCs_counted (reportCs_counted counted ⟨session, (procedure_eq.mp runs).1, rfl⟩) ?_
  exact ⟨other, by rw [reportCs_cs, if_neg apart, far], same⟩

theorem guard_of_sound (counted : link.Counted) (runs : link.procedure i = some (session, peer))
    (reports : (∀ j, ((link.sound i).controllers j).results = (link.controllers j).results) ∨
      link.Reports (link.sound i) i)
    (counts : ∀ j, Consecutive ((link.sound i).controllers j).numbers) :
    peer ≠ i ∧ ∃ other, (link.controllers peer).cs = some other ∧
      other.Names session.handle session.configId ∧
      other.procedureCounter = session.procedureCounter := by
  have told := sound_results runs
  rcases reports with silent | ⟨own, far, other, held, -, -, found, known, -, names, all⟩
  · have here := (silent i).symm.trans (told i)
    rw [if_pos rfl] at here
    simp at here
  obtain ⟨same, -, reached, -⟩ := procedure_eq.mp runs
  obtain rfl := Option.some.inj (held.symm.trans same)
  obtain rfl := Option.some.inj (found.symm.trans reached)
  have apart : far ≠ i := by
    rintro rfl
    have twice := append_cancel_left ((all far).symm.trans (told far))
    rw [if_pos (.inl rfl), if_pos rfl, if_pos rfl] at twice
    simp at twice
  refine ⟨apart, other, known, names, ?_⟩
  have number := counts far
  rw [sound, runs] at number
  rw [reportCs_numbers, if_pos rfl, reportCs_numbers, if_neg apart, append_nil] at number
  rw [(counted far).session other known]
  exact ((consecutive_concat (counted far).consecutive _).mp number).symm

end Procedure

/-! ## Steps and runs -/

section Steps
variable {link : Link}

theorem Link.PairsUp.of_quiet {step : Step} (counted : link.Counted)
    (quiet : Each Quiet link (link.step step))
    (spares : ∀ handle, link.concerns step = some handle →
      Each (Spares handle) link (link.step step)) : link.PairsUp step where
  reports := .inl fun j => (quiet j).results
  counts j := ((quiet j).counted (counted j)).consecutive
  spares handle concerned j session held other := spares handle concerned j session held other

structure Link.Exact (link : Link) (step : Step) : Prop where
  same : link.PairsUp step ↔ link.Sounds step
  counted : link.Sounds step → (link.step step).Counted

/-- A quiet step that is on no other connection than it should meets the condition. -/
theorem Link.Exact.of_quiet {step : Step} (counted : link.Counted)
    (quiet : Each Quiet link (link.step step))
    (spares : ∀ handle, link.concerns step = some handle →
      Each (Spares handle) link (link.step step)) (sounds : link.Sounds step) :
    link.Exact step where
  same := ⟨fun _ => sounds, fun _ => .of_quiet counted quiet spares⟩
  counted _ i := (quiet i).counted (counted i)

/-- A step after which everything is counted, and about which only the sessions of other
connections are in question. -/
theorem Link.Exact.of_spares {step : Step} (handle : UInt16) (counted : (link.step step).Counted)
    (results : ∀ j, ((link.step step).controllers j).results = (link.controllers j).results)
    (concerned : link.concerns step = some handle)
    (same : Each (Spares handle) link (link.step step) ↔ link.Sounds step) : link.Exact step where
  counted _ := counted
  same := by
    rw [← same]
    refine ⟨fun pairs => pairs.spares handle concerned, fun spared => ?_⟩
    refine ⟨.inl results, fun j => (counted j).consecutive, fun other named => ?_⟩
    obtain rfl := Option.some.inj (named.symm.trans concerned)
    exact spared

theorem command_exact (counted : link.Counted) (i : Nat) (command : Command) :
    link.Exact (.command i command) := by
  by_cases removes : ∃ handle configId, command = .leCsRemoveConfig handle configId
  · obtain ⟨handle, configId, rfl⟩ := removes
    obtain ⟨results, restarted⟩ := removeConfig_restarts i (link.controllers i) handle configId
      (counted i)
    have steady : Steady fun before after : SimController =>
        after.results = before.results ∧ (before.Counted → after.Counted) :=
      ⟨fun _ => ⟨rfl, id⟩, fun first second => ⟨second.1.trans first.1, second.2 ∘ first.2⟩⟩
    have each := command_each link steady i (.leCsRemoveConfig handle configId)
      ⟨results, fun _ => restarted⟩
    refine .of_spares handle (fun j => (each j).2 (counted j)) (fun j => (each j).1) rfl ?_
    constructor
    · intro spared session held
      by_contra other
      have kept := spared i session held other
      have gone := removeConfig_cs i (link.controllers i) handle configId
      have here : (link.step (.command i (.leCsRemoveConfig handle configId))).controllers i =
          ((link.controllers i).handleCommand i (.leCsRemoveConfig handle configId)).1 :=
        Function.update_self ..
      rw [here, gone] at kept
      cases kept
    · intro mine
      refine command_each link (Spares.steady handle) i _ fun session held other => ?_
      exact absurd (mine session held) other
  · push Not at removes
    refine .of_quiet counted (command_each link Quiet.steady i command
      (handleCommand_quiet i _ command removes)) ?_ ?_
    · intro handle concerned
      cases command with
      | leCsRemoveConfig handle configId => exact absurd rfl (removes handle configId)
      | _ => cases concerned
    · cases command with
      | leCsRemoveConfig handle configId => exact absurd rfl (removes handle configId)
      | _ => trivial

theorem act_exact (counted : link.Counted) : link.Exact .act := by
  cases waiting : link.actions with
  | nil =>
    have still : link.step .act = link := by rw [step, waiting]
    refine .of_quiet counted (still.symm ▸ Each.rfl Quiet.steady) ?_ ?_
    · intro handle concerned
      rw [concerns, waiting] at concerned
      cases concerned
    · rw [Sounds, waiting]
      trivial
  | cons action rest =>
    have next : link.step .act = ({ link with actions := rest } : Link).perform action := by
      rw [step, waiting]
    by_cases configures : ∃ sender handle configId role propagateToPeer,
        action = .csConfigure sender handle configId role propagateToPeer
    · obtain ⟨sender, handle, configId, role, propagateToPeer, rfl⟩ := configures
      have each := csConfigure_restarts { link with actions := rest } sender handle configId role
        propagateToPeer
      refine .of_spares handle (fun j => ?_) (fun j => ?_) ?_ ?_
      · exact next ▸ (each j).2 (counted j)
      · exact next ▸ (each j).1
      · rw [concerns, waiting]
        rfl
      · rw [next, Sounds, waiting]
        exact csConfigure_spares_iff { link with actions := rest } ..
    · push Not at configures
      refine .of_quiet counted ?_ ?_ ?_
      · rw [next]
        exact perform_quiet { link with actions := rest } action configures
      · intro handle concerned
        rw [concerns, waiting] at concerned
        rw [next]
        cases action with
        | csConfigure => exact absurd rfl (configures _ _ _ _ _)
        | csEnable sender handle configId enable =>
          cases concerned
          exact csEnable_spares { link with actions := rest } sender _ configId enable
        | disconnect sender handle =>
          cases concerned
          exact disconnect_spares { link with actions := rest } sender _
        | _ => cases concerned
      · rw [Sounds, waiting]
        cases action with
        | csConfigure => exact absurd rfl (configures _ _ _ _ _)
        | _ => trivial

theorem sound_exact (counted : link.Counted) (i : Nat) : link.Exact (.sound i) := by
  cases runs : link.procedure i with
  | none =>
    have still : link.step (.sound i) = link := by
      rw [step, sound, runs]
    refine .of_quiet counted (still.symm ▸ Each.rfl Quiet.steady)
      (fun handle concerned => by cases concerned) ?_
    intro session peer running
    rw [runs] at running
    cases running
  | some found =>
    obtain ⟨session, peer⟩ := found
    constructor
    · constructor
      · intro pairs session' peer' running
        obtain ⟨rfl, rfl⟩ := Prod.mk.inj (Option.some.inj (runs.symm.trans running))
        refine guard_of_sound counted runs ?_ pairs.counts
        rcases pairs.reports with silent | ⟨j, same, reports⟩
        · exact .inl silent
        · cases same
          exact .inr reports
      · intro sounds
        obtain ⟨apart, other, far, names, same⟩ := sounds session peer runs
        exact ⟨.inr ⟨i, rfl, sound_reports runs apart far names⟩,
          fun j => (sound_counted counted runs apart far same j).consecutive,
          fun handle concerned => by cases concerned⟩
    · intro sounds
      obtain ⟨apart, other, far, -, same⟩ := sounds session peer runs
      exact sound_counted counted runs apart far same

theorem step_exact (counted : link.Counted) (step : Step) : link.Exact step := by
  cases step with
  | command i command => exact command_exact counted i command
  | act => exact act_exact counted
  | sound i => exact sound_exact counted i
  | connect central peripheral =>
    refine .of_quiet counted ?_ (fun handle concerned => by cases concerned) trivial
    exact establishConnection_each Quiet.steady central peripheral
      fun _ _ _ => .push (.of_same rfl fun _ held => held) rfl
  | authenticate ends handle =>
    refine .of_quiet counted ?_ (fun handle concerned => by cases concerned) trivial
    exact finishPairing_each Quiet.steady ends handle fun _ => .changeConnection _ _ _

end Steps

theorem counted_new (addresses : Nat → Address) : (Link.new addresses).Counted :=
  fun _ => ⟨consecutive_nil, fun _ held => by cases held⟩

/-- Along every run, results pair up, are numbered one by one and leave other connections'
sessions alone exactly when every step meets the condition. -/
theorem measurements_pair (addresses : Nat → Address) (steps : List Step) :
    Along step PairsUp (Link.new addresses) steps ↔
      Along step Sounds (Link.new addresses) steps :=
  Along.iff (fun _ step counted => (step_exact counted step).same)
    (fun _ step counted => (step_exact counted step).counted) (counted_new addresses)

/-- Three devices in a row, of which the middle one is configured on both its connections. -/
def crossed : List Step :=
  [.connect 0 1, .connect 1 2, .command 0 (.leCsCreateConfig 1 5 0 true), .act,
    .command 1 (.leCsCreateConfig 2 7 0 true), .act, .command 0 (.leCsProcedureEnable 1 5 true),
    .command 1 (.leCsProcedureEnable 2 7 true), .act, .act, .sound 0]

/-- The second configuration takes the session of the first connection, and the two ends of
the first one are given results of different configurations. -/
theorem crossed_sessions :
    ¬ Along step PairsUp (Link.new Link.numbered) crossed ∧
      ((crossed.foldl step (Link.new Link.numbered)).controllers 0).results = [(1, 5, 0)] ∧
      ((crossed.foldl step (Link.new Link.numbered)).controllers 1).results = [(1, 7, 0)] := by
  refine ⟨?_, by decide, by decide⟩
  rintro ⟨-, -, -, -, -, pairs, -⟩
  have kept := pairs.spares 2 rfl 1 ⟨1, 5, 1, false, 0⟩ rfl (by decide)
  cases kept

end Simble.Sim
