import Simble.Sim.Streams

/-! How the steps of the medium move a stream through its stages, and what follows for runs: a
stream needs the consent of the host that was asked for it. -/
namespace Simble.Sim
open Simble.Lib Link List

/-! ## Edits that leave a stream alone -/

namespace SimController
variable (controller : SimController) (cisHandle : UInt16)

@[simp] theorem toldOf_push (event : Event) : (controller.push event).toldOf cisHandle =
    controller.toldOf cisHandle ++ if event.stream = some cisHandle then [event] else [] := by
  rw [toldOf, push, filter_append, filter_singleton]
  by_cases about : event.stream = some cisHandle
  · simp [about, toldOf]
  · simp [about, toldOf]

@[simp] theorem mem_toldOf {event : Event} :
    event ∈ controller.toldOf cisHandle ↔
      event ∈ controller.outbox ∧ event.stream = some cisHandle := by
  simp [toldOf]

@[simp] theorem mem_streams {cis : CisLink} :
    cis ∈ controller.streams cisHandle ↔
      cis ∈ controller.cisLinks ∧ cis.cisHandle = cisHandle := by
  simp [streams]

end SimController

/-- The host is told nothing of a stream, which stays, and no peer changes. -/
structure Still (cisHandle : UInt16) (before after : SimController) : Prop where
  told : after.toldOf cisHandle = before.toldOf cisHandle
  streams : after.streams cisHandle = before.streams cisHandle
  peers : ∀ handle peer, before.peerOf handle = some peer → after.peerOf handle = some peer

namespace Still
variable {cisHandle : UInt16} {before after : SimController}

theorem steady (cisHandle : UInt16) : Steady (Still cisHandle) where
  refl _ := ⟨rfl, rfl, fun _ _ found => found⟩
  trans first second := ⟨second.told.trans first.told, second.streams.trans first.streams,
    fun handle peer found => second.peers handle peer (first.peers handle peer found)⟩

theorem of_same (outbox : after.outbox = before.outbox) (cisLinks : after.cisLinks = before.cisLinks)
    (connections : after.connections = before.connections) : Still cisHandle before after where
  told := congrArg (List.filter _) outbox
  streams := congrArg (List.filter _) cisLinks
  peers handle peer found := by
    rw [SimController.peerOf, connections]
    exact found

theorem push {event : Event} (still : Still cisHandle before after)
    (other : event.stream ≠ some cisHandle) : Still cisHandle before (after.push event) where
  told := by
    rw [SimController.toldOf_push, if_neg other, append_nil]
    exact still.told
  streams := still.streams
  peers := still.peers

theorem told_other (controller : SimController) {event : Event}
    (other : event.stream ≠ some cisHandle) : Still cisHandle controller (controller.push event) :=
  ((steady cisHandle).refl controller).push other

theorem changeConnection (controller : SimController) (handle : UInt16)
    {change : Connection → Connection}
    (keeps : ∀ connection, (change connection).handle = connection.handle ∧
      (change connection).peer = connection.peer) :
    Still cisHandle controller (controller.changeConnection handle change) where
  told := rfl
  streams := rfl
  peers _ _ found := (controller.peerOf_changeConnection keeps handle).trans found

theorem joined (controller : SimController) (connection : Connection) :
    Still cisHandle controller
      { controller with connections := controller.connections ++ [connection] } where
  told := rfl
  streams := rfl
  peers _ _ found := controller.peerOf_joined found connection

theorem added (controller : SimController) {more : List CisLink}
    (other : ∀ cis ∈ more, cis.cisHandle ≠ cisHandle) :
    Still cisHandle controller { controller with cisLinks := controller.cisLinks ++ more } where
  told := rfl
  streams := by
    have none : more.filter (fun cis => cis.cisHandle = cisHandle) = [] :=
      filter_eq_nil_iff.mpr (by simpa using other)
    rw [SimController.streams, filter_append, none, append_nil]
    rfl
  peers _ _ found := found

end Still

section Mark
variable {cisHandle : UInt16}

theorem markEstablished_cons (cis : CisLink) (links : List CisLink) :
    markEstablished cisHandle (cis :: links) =
      if cis.cisHandle = cisHandle then { cis with established := true } :: links
      else cis :: markEstablished cisHandle links := by
  unfold markEstablished
  rw [List.findIdx?_cons]
  by_cases same : cis.cisHandle = cisHandle
  · simp [same]
  · rw [decide_eq_false same, if_neg same]
    cases links.findIdx? fun cis => cis.cisHandle = cisHandle <;> simp

theorem markEstablished_other {other : UInt16} (apart : cisHandle ≠ other) (links : List CisLink) :
    (markEstablished cisHandle links).filter (fun cis => cis.cisHandle = other) =
      links.filter fun cis => cis.cisHandle = other := by
  induction links with
  | nil => rfl
  | cons cis links ih =>
    rw [markEstablished_cons]
    split_ifs with same
    · rw [filter_cons_of_neg (by simp [same, apart]),
        filter_cons_of_neg (by simp [same, apart])]
    · rw [filter_cons, filter_cons, ih]

end Mark

/-! ## Steps that leave a stream alone -/

namespace Tracked
variable {tracked : Tracked} {cisHandle : UInt16} {step : Step}

theorem Frame.of_each (each : Each (Still cisHandle) tracked.link (tracked.link.step step))
    (waiting : (tracked.link.step step).waiting cisHandle = tracked.link.waiting cisHandle)
    (creates : ∀ creation ∈ tracked.link.creates step, creation.cisHandle ≠ cisHandle)
    (accepts : ∀ i, (i, cisHandle) ∉ tracked.link.accepts step) :
    Frame cisHandle tracked (tracked.next step) where
  told i := (each i).told
  waiting := waiting
  fewer i cis inside := (each i).streams ▸ inside
  kept i _ := (each i).streams
  peers i peer cis found _ _ := (each i).peers _ peer found
  created creation same := by
    refine mem_append.trans ⟨fun held => ?_, .inl⟩
    exact held.resolve_right fun made => creates creation made same
  accepted i := mem_append.trans ⟨fun held => held.resolve_right (accepts i), .inl⟩

theorem handleCommand_still (i : Nat) (controller : SimController) (command : Command)
    (reset : command ≠ .reset)
    (create : ∀ streams, command = .leCreateCis streams →
      (controller.handleCommand i command).2 ≠ [] → cisHandle ∉ streams.map Prod.fst) :
    Still cisHandle controller (controller.handleCommand i command).1 := by
  have told (event : Event) (silent : event.stream = none) :
      Still cisHandle controller (controller.push event) :=
    .told_other controller (by rw [silent]; exact nofun)
  cases command with
  | reset => exact absurd rfl reset
  | leCreateCis streams =>
    have others := create streams rfl
    rw [SimController.handleCommand] at others ⊢
    split_ifs at others ⊢ with empty apart
    · exact told _ rfl
    · exact told _ rfl
    · have other := others (by simpa using empty)
      refine (Still.steady cisHandle).trans (told (.commandStatus success) rfl) (.added _ ?_)
      intro cis inside same
      obtain ⟨stream, held, rfl⟩ := mem_map.mp inside
      exact other (mem_map.mpr ⟨stream, held, same⟩)
  | leCsRemoveConfig handle configId =>
    have removed : Still cisHandle controller (SimController.push { controller with cs := none }
        (.commandStatus success)) := .push (.of_same rfl rfl rfl) nofun
    rw [SimController.handleCommand]
    cases controller.cs with
    | none => exact removed
    | some session => exact removed.push nofun
  | _ =>
    rw [SimController.handleCommand]
    try split_ifs
    all_goals exact told _ rfl

theorem perform_still (link : Link) (action : Action)
    (disconnects : ∀ sender handle, action ≠ .disconnect sender handle)
    (other : action.stream ≠ some cisHandle) :
    Each (Still cisHandle) link (link.perform action) := by
  refine perform_each (Still.steady cisHandle) action fun controller after edits => ?_
  cases edits with
  | tells told =>
    refine .told_other controller ?_
    cases told <;> exact other
  | closesSco | drops => exact absurd rfl (disconnects _ _)
  | configures | enables | asksSco | takesSco | joinsSco => exact .of_same rfl rfl rfl
  | @asksCis sender aclHandle asked =>
    have apart : asked ≠ cisHandle := fun same => other (congrArg some same)
    exact .added controller (by simpa using apart)
  | @acceptsCis sender accepted =>
    have apart : accepted ≠ cisHandle := fun same => other (congrArg some same)
    exact ⟨rfl, markEstablished_other apart _, fun _ _ found => found⟩
  | encrypts | parksKey | takesKey | setsKey =>
    exact .changeConnection controller _ fun _ => ⟨rfl, rfl⟩

theorem waiting_act {action : Action} {rest : List Action}
    (queued : tracked.link.actions = action :: rest) :
    tracked.link.waiting cisHandle =
      (if action.stream = some cisHandle then [action] else []) ++
        (tracked.link.step .act).waiting cisHandle := by
  have after : (tracked.link.step .act).actions = rest := by
    rw [Link.step, queued]
    exact perform_actions ..
  rw [Link.waiting, Link.waiting, queued, after, filter_cons]
  by_cases about : action.stream = some cisHandle
  · simp [about]
  · simp [about]

theorem waiting_command (i : Nat) (command : Command) :
    (tracked.link.step (.command i command)).waiting cisHandle =
      tracked.link.waiting cisHandle ++
        ((tracked.link.controllers i).handleCommand i command).2.filter fun action =>
          action.stream = some cisHandle := filter_append ..

theorem handleCommand_asks (i : Nat) (controller : SimController) (command : Command)
    (create : ∀ streams, command ≠ .leCreateCis streams)
    (accept : command ≠ .leAcceptCisRequest cisHandle) :
    (controller.handleCommand i command).2.filter (fun action => action.stream = some cisHandle) =
      [] := by
  cases command with
  | leCreateCis streams => exact absurd rfl (create streams)
  | leAcceptCisRequest other =>
    have apart : other ≠ cisHandle := fun same => accept (congrArg _ same)
    rw [SimController.handleCommand]
    split_ifs
    · exact filter_cons_of_neg (by simpa [Action.stream] using apart)
    · rfl
  | leCsRemoveConfig handle configId =>
    rw [SimController.handleCommand]
    cases controller.cs <;> rfl
  | _ =>
    rw [SimController.handleCommand]
    try split_ifs
    all_goals rfl

theorem frame_command (i : Nat) (command : Command) (reset : command ≠ .reset)
    (create : ∀ streams, command ≠ .leCreateCis streams)
    (accept : command ≠ .leAcceptCisRequest cisHandle) :
    Frame cisHandle tracked (tracked.next (.command i command)) := by
  refine .of_each (command_each _ (Still.steady cisHandle) i command (handleCommand_still i _
    command reset fun streams same => absurd same (create streams))) ?_ ?_ ?_
  · rw [waiting_command, handleCommand_asks i _ command create accept, append_nil]
  · cases command with
    | leCreateCis streams => exact absurd rfl (create streams)
    | _ => exact nofun
  · intro j made
    cases command with
    | leAcceptCisRequest other =>
      rw [accepts] at made
      split_ifs at made
      · cases made
      · cases mem_singleton.mp made
        exact accept rfl
    | _ => cases made

/-- A Reset where no stream waits. -/
theorem frame_reset (i : Nat) (consents : tracked.Consents (.command i .reset)) :
    Frame cisHandle tracked (tracked.next (.command i .reset)) := by
  obtain ⟨own, settled⟩ := consents
  have here (j : Nat) : (tracked.next (.command i .reset)).link.controllers j =
      if j = i then (tracked.link.controllers i).reset.push .commandComplete
      else tracked.link.controllers j := Function.update_apply ..
  have gone : ((tracked.link.controllers i).reset.push .commandComplete).streams cisHandle = [] := rfl
  constructor
  · intro j
    rw [here]
    split_ifs with same
    · rw [same, SimController.toldOf_push]
      exact append_nil _
    · rfl
  · rw [next, waiting_command]
    exact append_nil _
  · intro j cis inside
    rw [here] at inside
    split_ifs at inside with same
    · rw [gone] at inside
      cases inside
    · exact inside
  · intro j waits
    rw [here]
    split_ifs with same
    · subst same
      rw [gone, eq_comm, eq_nil_iff_forall_not_mem]
      intro cis inside
      have held := waits cis inside
      rw [own cis (SimController.mem_streams .. |>.mp inside).1] at held
      cases held
    · rfl
  · intro j peer cis found inside waits
    have apart : j ≠ i := by
      rintro rfl
      rcases inside with inside | inside
      · have held := own cis (SimController.mem_streams .. |>.mp inside).1
        rw [waits] at held
        cases held
      · have held := (settled _ peer found).2 peer found cis
          (SimController.mem_streams .. |>.mp inside).1 rfl
        rw [waits] at held
        cases held
    rw [peerOf, here, if_neg apart]
    exact found
  · exact fun creation _ => by simp [next, creates]
  · exact fun j => by simp [next, accepts]

/-- A disconnection where no stream waits. -/
theorem frame_disconnect {sender : Nat} {handle : UInt16} {rest : List Action}
    (queued : tracked.link.actions = .disconnect sender handle :: rest)
    (consents : tracked.Consents .act) : Frame cisHandle tracked (tracked.next .act) := by
  have steady := Still.steady cisHandle
  have created : tracked.link.creates .act = [] := rfl
  have accepted : tracked.link.accepts .act = [] := rfl
  have waiting : (tracked.link.step .act).waiting cisHandle = tracked.link.waiting cisHandle := by
    rw [waiting_act queued]
    rfl
  have stepped : tracked.link.step .act =
      ({ tracked.link with actions := rest } : Link).routeDisconnect sender handle := by
    rw [Link.step, queued]
    rfl
  rcases @routeDisconnect_cases _ { tracked.link with actions := rest } steady sender handle
      (fun _ _ _ => .push (.of_same rfl rfl rfl) nofun)
      fun controller _ => .told_other controller nofun with
    each | ⟨peer, middle, asynchronous, found, before, after⟩
  · exact .of_each (stepped ▸ each) waiting (created ▸ nofun) (accepted ▸ nofun)
  rw [Consents, queued] at consents
  have settled := consents asynchronous peer found
  have ends (i : Nat) (own : i = sender ∨ i = peer) : tracked.link.Settled i handle := by
    rcases own with rfl | rfl
    · exact settled.1
    · exact settled.2
  have streams (i : Nat) : ((tracked.next .act).link.controllers i).streams cisHandle =
      if i = sender ∨ i = peer then
        ((tracked.link.controllers i).streams cisHandle).filter fun cis => cis.aclHandle ≠ handle
      else (tracked.link.controllers i).streams cisHandle := by
    rw [next, stepped, (after i).streams, dropped_controllers, ← (before i).streams]
    split_ifs
    · rw [SimController.streams, SimController.streams, dropConnection, filter_filter,
        filter_filter]
      exact filter_congr fun _ _ => Bool.and_comm _ _
    · rfl
  constructor
  · intro i
    rw [next, stepped, (after i).told, dropped_controllers, ← (before i).told]
    split_ifs <;> rfl
  · exact waiting
  · intro i cis inside
    rw [streams] at inside
    split_ifs at inside
    · exact (mem_filter.mp inside).1
    · exact inside
  · intro i waits
    rw [streams]
    split_ifs with own
    · refine filter_eq_self.mpr fun cis inside => decide_eq_true fun same => ?_
      have held := (ends i own).1 cis (SimController.mem_streams .. |>.mp inside).1 same
      rw [waits cis inside] at held
      cases held
    · rfl
  · intro i far cis reached inside waits
    rw [next, stepped]
    apply (after i).peers _ far
    rw [dropped_controllers]
    have between := (before i).peers _ far reached
    split_ifs with own
    · rw [SimController.peerOf_dropConnection]
      · exact between
      · rintro same
        have held : cis.established = true := by
          rcases inside with inside | inside
          · exact (ends i own).1 cis (SimController.mem_streams .. |>.mp inside).1 same
          · exact (ends i own).2 far (same ▸ reached) cis
              (SimController.mem_streams .. |>.mp inside).1 same
        rw [waits] at held
        cases held
    · exact between
  · exact fun creation _ => by simp [next, created]
  · exact fun i => by simp [next, accepted]

/-! ## Steps that move a stream on -/

theorem filter_named {streams : List (UInt16 × UInt16)} (distinct : (streams.map Prod.fst).Nodup)
    {stream : UInt16 × UInt16} (inside : stream ∈ streams) :
    (streams.filter fun other => other.1 = stream.1) = [stream] := by
  induction streams with
  | nil => cases inside
  | cons first streams ih =>
    rw [map_cons, nodup_cons] at distinct
    rcases mem_cons.mp inside with rfl | later
    · rw [filter_cons_of_pos (by simp), filter_eq_nil_iff.mpr]
      intro other held
      simp only [decide_eq_true_eq]
      exact fun same => distinct.1 (mem_map.mpr ⟨other, held, same⟩)
    · rw [filter_cons_of_neg, ih distinct.2 later]
      simp only [decide_eq_true_eq]
      exact fun same => distinct.1 (mem_map.mpr ⟨stream, later, same.symm⟩)

section Create
variable {i : Nat} {streams : List (UInt16 × UInt16)}

theorem leCreateCis_accepted (controller : SimController)
    (accepted : (controller.handleCommand i (.leCreateCis streams)).2 ≠ []) :
    (∀ stream ∈ streams, controller.isConnected stream.2) ∧
      controller.handleCommand i (.leCreateCis streams) =
        ({ controller.push (.commandStatus success) with
            cisLinks := controller.cisLinks ++ (streams.map fun stream =>
              ({ cisHandle := stream.1, aclHandle := stream.2 } : CisLink)) },
          streams.map fun stream => .cisRequest i stream.2 stream.1) := by
  rw [SimController.handleCommand] at accepted ⊢
  split_ifs at accepted ⊢ with empty apart
  · exact absurd rfl accepted
  · exact absurd rfl accepted
  · refine ⟨fun stream inside => ?_, rfl⟩
    by_contra off
    exact apart (any_eq_true.mpr ⟨stream, inside, by simpa using off⟩)

theorem stands_create (stands : ∀ cisHandle, tracked.Stands cisHandle)
    (distinct : tracked.Distinct (.command i (.leCreateCis streams)))
    (consents : tracked.Consents (.command i (.leCreateCis streams))) :
    (tracked.next (.command i (.leCreateCis streams))).Stands cisHandle := by
  have accepts : tracked.link.accepts (.command i (.leCreateCis streams)) = [] := rfl
  by_cases mine : ((tracked.link.controllers i).handleCommand i (.leCreateCis streams)).2 ≠ [] ∧
      cisHandle ∈ streams.map Prod.fst
  swap
  · -- The command was refused, or it is about other streams.
    refine .frame (.of_each (command_each _ (Still.steady cisHandle) i _ (handleCommand_still i _ _
      nofun fun others same accepted inside => ?_)) ?_ ?_ (accepts ▸ nofun)) (stands cisHandle)
    · cases same
      exact mine ⟨accepted, inside⟩
    · rw [waiting_command, filter_eq_nil_iff.mpr, append_nil]
      intro action asked about
      have accepted := ne_nil_of_mem asked
      rw [(leCreateCis_accepted _ accepted).2] at asked
      obtain ⟨stream, inside, rfl⟩ := mem_map.mp asked
      have same : stream.1 = cisHandle := Option.some.inj (of_decide_eq_true about)
      exact mine ⟨accepted, mem_map.mpr ⟨stream, inside, same⟩⟩
    · intro creation made same
      rw [creates] at made
      split_ifs at made with refused
      · cases made
      · obtain ⟨stream, inside, rfl⟩ := mem_map.mp made
        exact mine ⟨refused, mem_map.mpr ⟨stream, inside, same⟩⟩
  obtain ⟨accepted, named⟩ := mine
  obtain ⟨stream, inside, rfl⟩ := mem_map.mp named
  obtain ⟨connected, result⟩ := leCreateCis_accepted _ accepted
  have made : tracked.link.creates (.command i (.leCreateCis streams)) =
      streams.map fun stream => ⟨i, stream.1, stream.2⟩ := if_neg accepted
  obtain ⟨unique, fresh⟩ := distinct
  rw [made] at unique fresh
  have handles : (streams.map Prod.fst).Nodup := by
    rw [map_map] at unique
    exact unique
  have absent (creation : Creation) (held : creation ∈ tracked.created) :
      creation.cisHandle ≠ stream.1 := fresh ⟨i, stream.1, stream.2⟩
    (mem_map.mpr ⟨stream, inside, rfl⟩) creation held
  have before := (stands stream.1).untouched absent
  have here (j : Nat) : (tracked.next (.command i (.leCreateCis streams))).link.controllers j =
      if j = i then ((tracked.link.controllers i).handleCommand i (.leCreateCis streams)).1
      else tracked.link.controllers j := Function.update_apply ..
  have same_peers (j : Nat) (handle : UInt16) :
      (tracked.next (.command i (.leCreateCis streams))).link.peerOf j handle =
        tracked.link.peerOf j handle := by
    rw [peerOf, here, result]
    split_ifs with same
    · rw [same]
      rfl
    · rfl
  refine ⟨fun none => ?_, fun creation held same => .inl ?_⟩
  · exact absurd rfl (none ⟨i, stream.1, stream.2⟩ (mem_append_right _ (made ▸
      mem_map.mpr ⟨stream, inside, rfl⟩)))
  have only : creation = ⟨i, stream.1, stream.2⟩ := by
    rcases mem_append.mp held with held | held
    · exact absurd same (absent creation held)
    · rw [made] at held
      obtain ⟨other, other_inside, rfl⟩ := mem_map.mp held
      have both : other ∈ streams.filter fun other => other.1 = stream.1 :=
        mem_filter.mpr ⟨other_inside, decide_eq_true same⟩
      rw [filter_named handles inside] at both
      rw [mem_singleton.mp both]
  subst only
  constructor
  · intro j
    rw [here, result]
    split_ifs with own
    · subst own
      have told := SimController.toldOf_push (tracked.link.controllers j) stream.1
        (.commandStatus success)
      rw [before.told] at told
      exact told
    · exact before.told j
  · rw [next, waiting_command, before.waiting, result, nil_append, filter_map]
    have selected : (streams.filter ((fun action : Action => decide (action.stream = some stream.1)) ∘
        fun stream => .cisRequest i stream.2 stream.1)) = [stream] := by
      rw [← filter_named handles inside]
      refine filter_congr fun other _ => ?_
      simp [Action.stream]
    rw [selected]
    rfl
  · intro j
    rw [here, result]
    split_ifs with own
    · subst own
      have earlier := before.streams j
      have added : (streams.map fun stream => ({ cisHandle := stream.1, aclHandle := stream.2 } :
          CisLink)).filter (fun cis => cis.cisHandle = stream.1) =
            [Creation.opened ⟨j, stream.1, stream.2⟩] := by
        rw [filter_map]
        have selected : (streams.filter ((fun cis : CisLink => decide (cis.cisHandle = stream.1)) ∘
            fun stream => ({ cisHandle := stream.1, aclHandle := stream.2 } : CisLink))) =
              [stream] := by
          rw [← filter_named handles inside]
          rfl
        rw [selected]
        rfl
      rw [SimController.streams] at earlier
      rw [SimController.streams, filter_append, earlier, added]
      rfl
    · exact before.streams j
  · intro j held
    rw [next, accepts, append_nil] at held
    exact before.accepted j held
  · obtain ⟨own, found⟩ := Option.isSome_iff_exists.mp
      (List.find?_isSome.mpr (any_eq_true.mp (connected stream inside)))
    have reached : tracked.link.peerOf i stream.2 = some own.peer := by
      rw [peerOf, SimController.peerOf, found]
      rfl
    refine ⟨own.peer, ?_, ?_⟩
    · rw [same_peers]
      exact reached
    · rw [same_peers]
      exact consents stream inside own.peer reached

end Create

theorem stands_accept {i : Nat} {accepted : UInt16}
    (stands : ∀ cisHandle, tracked.Stands cisHandle)
    (consents : tracked.Consents (.command i (.leAcceptCisRequest accepted))) :
    (tracked.next (.command i (.leAcceptCisRequest accepted))).Stands cisHandle := by
  have created : tracked.link.creates (.command i (.leAcceptCisRequest accepted)) = [] := rfl
  have result (controller : SimController) :
      controller.handleCommand i (.leAcceptCisRequest accepted) =
        if controller.cisLinks.any fun cis => cis.cisHandle = accepted then
          (controller.push (.commandStatus success), [.cisAccept i accepted])
        else (controller.push (.commandStatus unknownConnection), []) := rfl
  have still (cisHandle : UInt16) : Each (Still cisHandle) tracked.link
      (tracked.link.step (.command i (.leAcceptCisRequest accepted))) :=
    command_each _ (Still.steady cisHandle) i _ (handleCommand_still i _ _ nofun nofun)
  by_cases known : (tracked.link.controllers i).cisLinks.any fun cis => cis.cisHandle = accepted
  swap
  · -- The command was refused.
    have asks :
        ((tracked.link.controllers i).handleCommand i (.leAcceptCisRequest accepted)).2 = [] := by
      rw [result, if_neg known]
    have none : tracked.link.accepts (.command i (.leAcceptCisRequest accepted)) = [] := if_pos asks
    refine .frame (.of_each (still cisHandle) ?_ (created ▸ nofun) (none ▸ nofun)) (stands cisHandle)
    rw [waiting_command, asks]
    exact append_nil _
  have asks : ((tracked.link.controllers i).handleCommand i (.leAcceptCisRequest accepted)).2 =
      [.cisAccept i accepted] := by
    rw [result, if_pos known]
  have added : tracked.link.accepts (.command i (.leAcceptCisRequest accepted)) = [(i, accepted)] :=
    if_neg (by rw [asks]; exact nofun)
  by_cases about : cisHandle = accepted
  swap
  · refine .frame (.of_each (still cisHandle) ?_ (created ▸ nofun) ?_) (stands cisHandle)
    · rw [waiting_command, asks, filter_cons_of_neg (by simpa [Action.stream] using Ne.symm about)]
      exact append_nil _
    · rw [added]
      intro j held
      exact about (Prod.mk.inj (mem_singleton.mp held)).2
  subst about
  obtain ⟨cis, held, named⟩ := any_eq_true.mp known
  have inside : cis ∈ (tracked.link.controllers i).streams cisHandle :=
    (SimController.mem_streams ..).mpr ⟨held, of_decide_eq_true named⟩
  obtain ⟨foreign, once⟩ := consents
  refine ⟨fun absent => ?_, fun creation made same => ?_⟩
  · have before := (stands cisHandle).untouched fun creation held =>
      absent creation (mem_append_left _ held)
    rw [before.streams] at inside
    cases inside
  subst same
  have made : creation ∈ tracked.created := (append_nil tracked.created) ▸ created ▸ made
  have other := foreign creation made rfl
  rcases (stands creation.cisHandle).stage creation made rfl with
    asked | ⟨acceptor, heard⟩ | ⟨acceptor, done⟩
  · rw [asked.streams, if_neg (Ne.symm other)] at inside
    cases inside
  · have same : i = acceptor := by
      rw [heard.streams, if_neg (Ne.symm other), nil_append] at inside
      by_contra apart
      rw [if_neg apart] at inside
      cases inside
    subst same
    refine .inr (.inl ⟨i, ?_⟩)
    have accepts (j : Nat) : (j, creation.cisHandle) ∈
        (tracked.next (.command i (.leAcceptCisRequest creation.cisHandle))).accepted ↔
          (j, creation.cisHandle) ∈ tracked.accepted ∨ j = i := by
      rw [next, added, mem_append, mem_singleton, Prod.mk.injEq]
      simp
    constructor
    · exact fun j => ((still creation.cisHandle) j).told.trans (heard.told j)
    · rw [if_pos ((accepts i).mpr (.inr rfl)), next, waiting_command, heard.waiting, if_neg once,
        asks]
      simp [Action.stream]
    · exact fun j => ((still creation.cisHandle) j).streams.trans (heard.streams j)
    · intro j held
      rcases (accepts j).mp held with earlier | rfl
      · exact heard.accepted j earlier
      · exact ⟨rfl, Ne.symm other⟩
    · exact ⟨((still creation.cisHandle) _).peers _ _ heard.peers.1,
        ((still creation.cisHandle) _).peers _ _ heard.peers.2⟩
  · rcases done.streams i cis inside with rfl | rfl
    · exact absurd rfl other
    · exact absurd done.accepted once

section Act
variable {sender : Nat} {aclHandle : UInt16} {rest : List Action}

theorem stands_other {action : Action} (stands : tracked.Stands cisHandle)
    (queued : tracked.link.actions = action :: rest)
    (disconnects : ∀ sender handle, action ≠ .disconnect sender handle)
    (other : action.stream ≠ some cisHandle) : (tracked.next .act).Stands cisHandle := by
  refine stands.frame (.of_each ?_ ?_ nofun nofun)
  · rw [Link.step, queued]
    exact perform_still { tracked.link with actions := rest } action disconnects other
  · rw [waiting_act queued, if_neg other, nil_append]

theorem waiting_own {action : Action} (stands : tracked.Stands cisHandle)
    (queued : tracked.link.actions = action :: rest) (own : action.stream = some cisHandle) :
    tracked.link.waiting cisHandle = action :: (tracked.link.step .act).waiting cisHandle ∧
      ∃ creation ∈ tracked.created, creation.cisHandle = cisHandle := by
  have waiting := @waiting_act _ cisHandle _ _ queued
  rw [if_pos own, singleton_append] at waiting
  refine ⟨waiting, by_contra fun absent => ?_⟩
  push Not at absent
  rw [(stands.untouched absent).waiting] at waiting
  cases waiting

theorem stands_request {asked : UInt16} (stands : tracked.Stands cisHandle)
    (queued : tracked.link.actions = .cisRequest sender aclHandle asked :: rest) :
    (tracked.next .act).Stands cisHandle := by
  have created : tracked.link.creates .act = [] := rfl
  have accepted : tracked.link.accepts .act = [] := rfl
  have stepped : tracked.link.step .act =
      ({ tracked.link with actions := rest } : Link).routeCisRequest sender aclHandle asked := by
    rw [Link.step, queued]
    rfl
  by_cases about : asked = cisHandle
  swap
  · exact stands_other stands queued nofun fun same => about (Option.some.inj same)
  subst about
  obtain ⟨waiting, first, held, named⟩ := waiting_own stands queued rfl
  refine ⟨fun absent => (absent first (mem_append_left _ held) named).elim,
    fun creation made same => ?_⟩
  subst same
  have made : creation ∈ tracked.created := (append_nil tracked.created) ▸ created ▸ made
  rcases stands.stage creation made rfl with asked | ⟨acceptor, heard⟩ | ⟨acceptor, done⟩
  · rw [asked.waiting] at waiting
    obtain ⟨same, emptied⟩ := List.cons.inj waiting
    cases same
    obtain ⟨peer, out, back⟩ := asked.peers
    have reached : ({ tracked.link with actions := rest } : Link).peerOf creation.creator
        creation.aclHandle = some peer := out
    have here (i : Nat) : (tracked.next .act).link.controllers i =
        if i = peer then SimController.push { tracked.link.controllers peer with
            cisLinks := (tracked.link.controllers peer).cisLinks ++ [Creation.opened creation] }
          (.leCisRequest creation.aclHandle creation.cisHandle)
        else tracked.link.controllers i := by
      change (tracked.link.step .act).controllers i = _
      rw [stepped, routeCisRequest, reached]
      exact change_controllers ..
    have peers (i : Nat) (handle : UInt16) : (tracked.next .act).link.peerOf i handle =
        tracked.link.peerOf i handle := by
      rw [peerOf, here]
      split_ifs with same
      · rw [same]
        rfl
      · rfl
    refine .inr (.inl ⟨peer, ?_⟩)
    constructor
    · intro i
      rw [here]
      split_ifs with own
      · rw [SimController.toldOf_push, if_pos (show (Event.leCisRequest creation.aclHandle
          creation.cisHandle).stream = some creation.cisHandle from rfl)]
        exact congrArg (· ++ _) (asked.told peer)
      · exact asked.told i
    · rw [next, ← emptied, accepted, append_nil, if_neg (asked.accepted peer)]
    · intro i
      rw [here]
      have before := asked.streams i
      split_ifs with own mine
      · subst own
        rw [SimController.streams, if_pos mine] at before
        change (_ ++ [Creation.opened creation]).filter _ = _
        rw [filter_append, before]
        exact congrArg _ (filter_cons_of_pos (decide_eq_true rfl))
      · subst own
        rw [SimController.streams, if_neg mine] at before
        change (_ ++ [Creation.opened creation]).filter _ = _
        rw [filter_append, before]
        exact congrArg _ (filter_cons_of_pos (decide_eq_true rfl))
      · rw [before, if_pos (by assumption)]
        rfl
      · rw [before, if_neg (by assumption)]
        rfl
    · intro i held
      rw [next, accepted, append_nil] at held
      exact absurd held (asked.accepted i)
    · rw [peers, peers]
      exact ⟨out, back⟩
  · rw [heard.waiting] at waiting
    split_ifs at waiting
    cases waiting
  · rw [done.waiting] at waiting
    cases waiting

theorem stands_consent {agreed : UInt16} (stands : tracked.Stands cisHandle)
    (queued : tracked.link.actions = .cisAccept sender agreed :: rest) :
    (tracked.next .act).Stands cisHandle := by
  have created : tracked.link.creates .act = [] := rfl
  have accepted : tracked.link.accepts .act = [] := rfl
  have stepped : tracked.link.step .act =
      ({ tracked.link with actions := rest } : Link).routeCisAccept sender agreed := by
    rw [Link.step, queued]
    rfl
  by_cases about : agreed = cisHandle
  swap
  · exact stands_other stands queued nofun fun same => about (Option.some.inj same)
  subst about
  obtain ⟨waiting, first, held, named⟩ := waiting_own stands queued rfl
  refine ⟨fun absent => (absent first (mem_append_left _ held) named).elim,
    fun creation made same => ?_⟩
  subst same
  have made : creation ∈ tracked.created := (append_nil tracked.created) ▸ created ▸ made
  rcases stands.stage creation made rfl with asked | ⟨acceptor, heard⟩ | ⟨acceptor, done⟩
  · rw [asked.waiting] at waiting
    cases waiting
  · rw [heard.waiting] at waiting
    split_ifs at waiting with consented
    obtain ⟨same, emptied⟩ := List.cons.inj waiting
    obtain rfl : acceptor = sender := (Action.cisAccept.inj same).1
    have apart := (heard.accepted acceptor consented).2
    have own := heard.streams acceptor
    rw [if_neg apart, if_pos rfl, nil_append] at own
    have found : (tracked.link.controllers acceptor).cisLinks.find? (fun cis =>
        cis.cisHandle = creation.cisHandle) = some (Creation.opened creation) := by
      rw [← List.head?_filter]
      exact congrArg List.head? own
    have reached : ({ tracked.link with actions := rest } : Link).peerOf acceptor
        (Creation.opened creation).aclHandle = some creation.creator := heard.peers.2
    have here (i : Nat) : (tracked.next .act).link.controllers i =
        if i = creation.creator ∨ i = acceptor then SimController.push
          { tracked.link.controllers i with
            cisLinks := markEstablished creation.cisHandle (tracked.link.controllers i).cisLinks }
          (established creation.cisHandle)
        else tracked.link.controllers i := by
      change (tracked.link.step .act).controllers i = _
      rw [stepped, routeCisAccept, found]
      simp only
      rw [reached]
      simp only [establishCis, change_controllers]
      by_cases mine : i = creation.creator
      · rw [if_pos mine, if_neg (Ne.symm apart), if_pos (.inl mine), mine]
        rfl
      · by_cases theirs : i = acceptor
        · rw [if_neg mine, if_pos theirs, if_pos (.inr theirs), theirs]
          rfl
        · rw [if_neg mine, if_neg theirs, if_neg (not_or.mpr ⟨mine, theirs⟩)]
    refine .inr (.inr ⟨acceptor, ?_⟩)
    constructor
    · exact apart
    · intro i
      rw [here]
      by_cases ends : i = creation.creator ∨ i = acceptor
      · rw [if_pos ends, if_pos ends, SimController.toldOf_push,
          if_pos (show (established creation.cisHandle).stream = some creation.cisHandle from rfl)]
        exact congrArg (· ++ _) (heard.told i)
      · rw [if_neg ends, if_neg ends, append_nil]
        exact heard.told i
    · exact emptied.symm
    · intro i cis inside
      rw [here] at inside
      split_ifs at inside with ends
      · exact ends
      · rw [heard.streams] at inside
        obtain ⟨mine, theirs⟩ := not_or.mp ends
        rw [if_neg mine, if_neg theirs] at inside
        cases inside
    · rw [next, accepted, append_nil]
      exact consented
  · rw [done.waiting] at waiting
    cases waiting

theorem stands_act (stands : tracked.Stands cisHandle) (consents : tracked.Consents .act) :
    (tracked.next .act).Stands cisHandle := by
  have created : tracked.link.creates .act = [] := rfl
  have accepted : tracked.link.accepts .act = [] := rfl
  cases queued : tracked.link.actions with
  | nil =>
    have still : tracked.link.step .act = tracked.link := by
      rw [Link.step, queued]
    exact .frame (.of_each (still.symm ▸ .rfl (Still.steady cisHandle)) (by rw [still])
      (created ▸ nofun) (accepted ▸ nofun)) stands
  | cons action rest =>
    cases action with
    | disconnect sender handle => exact stands.frame (frame_disconnect queued consents)
    | cisRequest sender aclHandle asked => exact stands_request stands queued
    | cisAccept sender agreed => exact stands_consent stands queued
    | _ => exact stands_other stands queued nofun nofun

end Act

theorem stands_step (stands : ∀ cisHandle, tracked.Stands cisHandle)
    (distinct : tracked.Distinct step) (consents : tracked.Consents step) (cisHandle : UInt16) :
    (tracked.next step).Stands cisHandle := by
  have steady := Still.steady cisHandle
  cases step with
  | command i command =>
    cases command with
    | reset => exact (stands cisHandle).frame (frame_reset i consents)
    | leCreateCis streams => exact stands_create stands distinct consents
    | leAcceptCisRequest accepted => exact stands_accept stands consents
    | _ => exact (stands cisHandle).frame (frame_command i _ nofun nofun nofun)
  | act => exact stands_act (stands cisHandle) consents
  | connect central peripheral =>
    refine (stands cisHandle).frame (.of_each ?_ rfl nofun nofun)
    exact establishConnection_each steady central peripheral
      fun controller _ _ => .push (.joined controller _) nofun
  | authenticate ends handle =>
    refine (stands cisHandle).frame (.of_each ?_ rfl nofun nofun)
    exact finishPairing_each steady ends handle
      fun controller => .changeConnection controller handle fun _ => ⟨rfl, rfl⟩
  | sound i =>
    refine (stands cisHandle).frame (.of_each ?_ ?_ nofun nofun)
    · exact sound_each steady i fun _ _ => .push (.of_same rfl rfl rfl) nofun
    · exact congrArg (List.filter _) (sound_rests ..).1

theorem stands_new (addresses : Nat → Address) (cisHandle : UInt16) :
    (Tracked.new addresses).Stands cisHandle where
  untouched _ := ⟨fun _ => rfl, rfl, fun _ => rfl, fun _ => nofun⟩
  stage := nofun

/-! ## Consent -/

theorem agreed_of_stands (stands : ∀ cisHandle, tracked.Stands cisHandle) : tracked.Agreed where
  consent i cisHandle said := by
    have told : established cisHandle ∈ (tracked.link.controllers i).outbox →
        established cisHandle ∈ (tracked.link.controllers i).toldOf cisHandle :=
      fun inside => (SimController.mem_toldOf ..).mpr ⟨inside, rfl⟩
    have kept (cis : CisLink) (held : cis ∈ (tracked.link.controllers i).cisLinks)
        (named : cis.cisHandle = cisHandle) :
        cis ∈ (tracked.link.controllers i).streams cisHandle :=
      (SimController.mem_streams ..).mpr ⟨held, named⟩
    obtain ⟨creation, made, same⟩ :
        ∃ creation ∈ tracked.created, creation.cisHandle = cisHandle := by
      by_contra absent
      push Not at absent
      have untouched := (stands cisHandle).untouched absent
      rcases said with said | ⟨cis, held, named, -⟩
      · have inside := told said
        rw [untouched.told] at inside
        cases inside
      · have inside := kept cis held named
        rw [untouched.streams] at inside
        cases inside
    subst same
    refine ⟨creation, made, rfl, ?_⟩
    have fresh {list : List CisLink} (opened : ∀ cis ∈ list, cis = Creation.opened creation)
        (same : (tracked.link.controllers i).streams creation.cisHandle = list) :
        ¬ ∃ cis ∈ (tracked.link.controllers i).cisLinks, cis.cisHandle = creation.cisHandle ∧
          cis.established := by
      rintro ⟨cis, held, named, on⟩
      have inside := kept cis held named
      rw [same] at inside
      rw [opened cis inside] at on
      cases on
    rcases (stands creation.cisHandle).stage creation made rfl with
      asked | ⟨acceptor, heard⟩ | ⟨acceptor, done⟩
    · refine absurd said (not_or.mpr ⟨fun said => ?_, fresh ?_ (asked.streams i)⟩)
      · have inside := told said
        rw [asked.told] at inside
        cases inside
      · intro cis inside
        split_ifs at inside
        · exact mem_singleton.mp inside
        · cases inside
    · refine absurd said (not_or.mpr ⟨fun said => ?_, fresh ?_ (heard.streams i)⟩)
      · have inside := told said
        rw [heard.told] at inside
        split_ifs at inside
        · cases mem_singleton.mp inside
        · cases inside
      · intro cis inside
        rcases mem_append.mp inside with inside | inside
        all_goals
          split_ifs at inside
          · exact mem_singleton.mp inside
          · cases inside
    · refine ⟨acceptor, done.apart, done.accepted, ?_, fun j => ?_⟩
      · refine ((SimController.mem_toldOf _ creation.cisHandle).mp ?_).1
        rw [done.told, if_pos rfl]
        exact mem_cons_self
      · have counted : (tracked.link.controllers j).outbox.count (established creation.cisHandle) =
            ((tracked.link.controllers j).toldOf creation.cisHandle).count
              (established creation.cisHandle) := by
          rw [SimController.toldOf, count_filter]
          exact decide_eq_true rfl
        rw [counted, done.told, count_append]
        have none : (if j = acceptor then [Event.leCisRequest creation.aclHandle creation.cisHandle]
            else []).count (established creation.cisHandle) = 0 := by
          rw [count_eq_zero]
          intro inside
          split_ifs at inside
          · cases mem_singleton.mp inside
          · cases inside
        rw [none, Nat.zero_add]
        split_ifs
        · exact count_singleton_self
        · rfl
  kept creation made := by
    rcases (stands creation.cisHandle).stage creation made rfl with
      asked | ⟨acceptor, heard⟩ | ⟨acceptor, done⟩
    · exact .inr asked.peers
    · exact .inr ⟨acceptor, heard.peers⟩
    · refine .inl ((SimController.mem_toldOf _ creation.cisHandle).mp ?_).1
      rw [done.told, if_pos (show creation.creator = creation.creator ∨ _ from .inl rfl)]
      exact mem_append_right _ (mem_singleton_self _)

end Tracked

/-- Along every run in which hosts choose distinct handles, streams are accepted only by the
hosts that were asked, and once, and no connection goes while a stream on it waits, every
state keeps to what the hosts agreed. -/
theorem streams_need_consent (addresses : Nat → Address) (steps : List Step)
    (distinct : Along Tracked.next Tracked.Distinct (.new addresses) steps)
    (consents : Along Tracked.next Tracked.Consents (.new addresses) steps) :
    Along Tracked.next (fun tracked step => (tracked.next step).Agreed) (.new addresses) steps := by
  refine @Along.mono _ _ _ _ (fun tracked step => tracked.Distinct step ∧ tracked.Consents step)
    (fun tracked => ∀ cisHandle, tracked.Stands cisHandle) _ _ ?_ ?_
    (Tracked.stands_new addresses) (distinct.and consents)
  · exact fun _ _ stands guarded => Tracked.agreed_of_stands
      (Tracked.stands_step stands guarded.1 guarded.2)
  · exact fun _ _ stands guarded => Tracked.stands_step stands guarded.1 guarded.2

def accepted : List Step :=
  [.connect 0 1, .command 0 (.leCreateCis [(0x60, 1)]), .act,
    .command 1 (.leAcceptCisRequest 0x60), .act]

def selfAccepted : List Step :=
  [.connect 0 1, .command 0 (.leCreateCis [(0x60, 1)]), .command 0 (.leAcceptCisRequest 0x60),
    .act, .act]

/-- A stream whose connection is gone before it is accepted. -/
def abandoned : List Step :=
  [.connect 0 1, .command 0 (.leCreateCis [(0x60, 1)]), .act, .command 1 (.disconnect 1), .act]

theorem streams_need_consent_accepted :
    Along Tracked.next (fun tracked step => (tracked.next step).Agreed) (.new Link.numbered)
      accepted := by
  apply streams_need_consent Link.numbered accepted
  · refine ⟨?_, ?_, ?_, ?_, ?_, trivial⟩
    all_goals exact ⟨by decide, by decide⟩
  · refine ⟨trivial, ?_, trivial, ⟨by decide, by decide⟩, trivial, trivial⟩
    intro stream inside peer found
    obtain rfl := mem_singleton.mp inside
    obtain rfl : 1 = peer := Option.some.inj found
    rfl

/-- A creator's own acceptance establishes the stream at both ends, with no word of the
other host; and a creator whose peer disconnects hears no more of its stream. -/
theorem stream_without_consent :
    (Along Tracked.next Tracked.Distinct (.new Link.numbered) selfAccepted ∧
      ¬ (selfAccepted.foldl Tracked.next (.new Link.numbered)).Agreed ∧
      ((selfAccepted.foldl Tracked.next (.new Link.numbered)).link.controllers 1).toldOf 0x60 =
        [.leCisRequest 1 0x60, established 0x60]) ∧
    Along Tracked.next Tracked.Distinct (.new Link.numbered) abandoned ∧
      ((abandoned.foldl Tracked.next (.new Link.numbered)).link.controllers 0).outbox =
        [.connectionComplete 1 (Link.numbered 1), .commandStatus success,
          .disconnectionComplete 1 reasonRemoteUser] := by
  refine ⟨⟨?_, ?_, by decide⟩, ?_, by decide⟩
  · refine ⟨?_, ?_, ?_, ?_, ?_, trivial⟩
    all_goals exact ⟨by decide, by decide⟩
  · intro agreed
    obtain ⟨creation, made, -, acceptor, apart, consented, -⟩ :=
      agreed.consent 0 0x60 (.inl (by decide))
    obtain rfl : creation = ⟨0, 0x60, 1⟩ := mem_singleton.mp made
    have own : (acceptor, (0x60 : UInt16)) = (0, 0x60) := mem_singleton.mp consented
    exact apart (Prod.mk.inj own).1
  · refine ⟨?_, ?_, ?_, ?_, ?_, trivial⟩
    all_goals exact ⟨by decide, by decide⟩

end Simble.Sim
