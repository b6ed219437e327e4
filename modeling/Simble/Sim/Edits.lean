import Simble.Sim.Links

/-! What the steps of the medium do to each controller. A relation kept by the edits a step makes,
wherever it makes them, relates every controller to what becomes of it; an edit that a result is
about is left to that result. -/
namespace Simble.Sim

/-- A relation that chains of edits keep. -/
structure Steady (R : SimController → SimController → Prop) : Prop where
  refl : ∀ controller, R controller controller
  trans : ∀ {first second third}, R first second → R second third → R first third

/-! ## Peers -/

namespace SimController
variable (controller : SimController) {handle : UInt16}

/-- A connection made later hides no earlier one. -/
theorem peerOf_joined {peer : Nat} (found : controller.peerOf handle = some peer)
    (connection : Connection) :
    peerOf { controller with connections := controller.connections ++ [connection] } handle =
      some peer := by
  obtain ⟨own, first, rfl⟩ := Option.map_eq_some_iff.mp found
  rw [peerOf, List.find?_append, first]
  rfl

/-- What `changeConnection` does to the connections. -/
def changed (handle : UInt16) (change : Connection → Connection) (connections : List Connection) :
    List Connection :=
  match connections.findIdx? fun connection => connection.handle = handle with
  | none => connections
  | some index => connections.modify index change

theorem changed_cons (other : UInt16) (change : Connection → Connection) (connection : Connection)
    (connections : List Connection) : changed other change (connection :: connections) =
      if connection.handle = other then change connection :: connections
      else connection :: changed other change connections := by
  unfold changed
  rw [List.findIdx?_cons]
  by_cases same : connection.handle = other
  · simp [same]
  · rw [decide_eq_false same, if_neg same]
    cases connections.findIdx? fun connection => connection.handle = other <;> simp

def held (handle : UInt16) : Option Connection :=
  controller.connections.find? fun connection => connection.handle = handle

theorem held_changeConnection {change : Connection → Connection}
    (keeps : ∀ connection, (change connection).handle = connection.handle) (other : UInt16) :
    (controller.changeConnection other change).held handle =
      if handle = other then (controller.held handle).map change else controller.held handle := by
  have all (connections : List Connection) :
      (changed other change connections).find? (fun connection => connection.handle = handle) =
        if handle = other then
          (connections.find? fun connection => connection.handle = handle).map change
        else connections.find? fun connection => connection.handle = handle := by
    induction connections with
    | nil => split_ifs <;> rfl
    | cons connection connections ih =>
      rw [changed_cons]
      by_cases named : connection.handle = handle
      · by_cases same : handle = other
        · simp [named, same, keeps]
        · simp [named, same]
      · by_cases same : connection.handle = other
        · have apart : handle ≠ other := fun also => named (same.trans also.symm)
          simp [same, apart, keeps, Ne.symm apart]
        · rw [if_neg same, List.find?_cons_of_neg (by simpa using named),
            List.find?_cons_of_neg (by simpa using named), ih]
  exact all controller.connections

theorem peerOf_changeConnection {change : Connection → Connection}
    (keeps : ∀ connection, (change connection).handle = connection.handle ∧
      (change connection).peer = connection.peer) (other : UInt16) :
    (controller.changeConnection other change).peerOf handle = controller.peerOf handle := by
  change ((controller.changeConnection other change).held handle).map Connection.peer =
    (controller.held handle).map Connection.peer
  rw [controller.held_changeConnection fun connection => (keeps connection).1]
  split_ifs
  · rw [Option.map_map]
    exact congrArg (Option.map · _) (funext fun connection => (keeps connection).2)
  · rfl

theorem mem_changeConnection {other : UInt16} {change : Connection → Connection}
    {connection : Connection}
    (inside : connection ∈ (controller.changeConnection other change).connections) :
    ∃ earlier ∈ controller.connections, connection = earlier ∨
      (earlier.handle = other ∧ connection = change earlier) := by
  have all (connections : List Connection)
      (inside : connection ∈ changed other change connections) :
      ∃ earlier ∈ connections, connection = earlier ∨
        (earlier.handle = other ∧ connection = change earlier) := by
    induction connections with
    | nil => cases inside
    | cons first connections ih =>
      rw [changed_cons] at inside
      split_ifs at inside with same
      · rcases List.mem_cons.mp inside with rfl | later
        · exact ⟨first, List.mem_cons_self, .inr ⟨same, rfl⟩⟩
        · exact ⟨connection, List.mem_cons_of_mem _ later, .inl rfl⟩
      · rcases List.mem_cons.mp inside with rfl | later
        · exact ⟨_, List.mem_cons_self, .inl rfl⟩
        · obtain ⟨earlier, held, kept⟩ := ih later
          exact ⟨earlier, List.mem_cons_of_mem _ held, kept⟩
  exact all controller.connections inside

theorem held_dropConnection (other : UInt16) : (Link.dropConnection other controller).held handle =
    if handle = other then none else controller.held handle := by
  rw [held, Link.dropConnection, List.find?_filter]
  split_ifs with same
  · refine List.find?_eq_none.mpr fun connection _ => ?_
    simp [same]
  · rw [held]
    congr 1
    funext connection
    by_cases named : connection.handle = handle
    · simp [named, same]
    · simp [named]

theorem peerOf_dropConnection {other : UInt16} (apart : handle ≠ other) :
    (Link.dropConnection other controller).peerOf handle = controller.peerOf handle := by
  change ((Link.dropConnection other controller).held handle).map Connection.peer = _
  rw [held_dropConnection, if_neg apart]
  rfl

end SimController

namespace Link
variable {R : SimController → SimController → Prop} {link : Link}

def Each (R : SimController → SimController → Prop) (before after : Link) : Prop :=
  ∀ i, R (before.controllers i) (after.controllers i)

@[simp] theorem change_controllers (i j : Nat) (edit : SimController → SimController) :
    (link.change i edit).controllers j =
      if j = i then edit (link.controllers i) else link.controllers j :=
  Function.update_apply ..

@[simp] theorem push_controllers (i j : Nat) (event : Event) :
    (link.push i event).controllers j =
      if j = i then (link.controllers i).push event else link.controllers j :=
  change_controllers ..

theorem Each.rfl (steady : Steady R) : Each R link link := fun _ => steady.refl _

theorem Each.trans (steady : Steady R) {second third : Link} (first : Each R link second)
    (next : Each R second third) : Each R link third :=
  fun i => steady.trans (first i) (next i)

theorem Each.of_change (steady : Steady R) {i : Nat} {edit : SimController → SimController}
    (here : R (link.controllers i) (edit (link.controllers i))) :
    Each R link (link.change i edit) := by
  intro j
  rw [change_controllers]
  split_ifs with same
  · exact same ▸ here
  · exact steady.refl _

theorem Each.change (steady : Steady R) {before : Link} (earlier : Each R before link) {i : Nat}
    {edit : SimController → SimController} (kept : ∀ controller, R controller (edit controller)) :
    Each R before (link.change i edit) :=
  earlier.trans steady (.of_change steady (kept _))

theorem Each.push (steady : Steady R) {before : Link} (earlier : Each R before link) {i : Nat}
    {event : Event} (kept : ∀ controller, R controller (controller.push event)) :
    Each R before (link.push i event) := earlier.change steady kept

theorem command_each (link : Link) (steady : Steady R) (i : Nat)
    (command : Command)
    (kept : R (link.controllers i) ((link.controllers i).handleCommand i command).1) :
    Each R link (link.step (.command i command)) :=
  (Each.of_change steady kept : Each R link (link.change i fun _ =>
    ((link.controllers i).handleCommand i command).1))

theorem dropConnection_twice (handle : UInt16) (controller : SimController) :
    dropConnection handle (dropConnection handle controller) = dropConnection handle controller := by
  simp [dropConnection]

theorem dropped_controllers (first second i : Nat) (handle : UInt16) :
    ((link.change first (dropConnection handle)).change second
        (dropConnection handle)).controllers i =
      if i = first ∨ i = second then dropConnection handle (link.controllers i)
      else link.controllers i := by
  rw [change_controllers, change_controllers, change_controllers]
  by_cases own : i = first
  · by_cases far : i = second
    · rw [if_pos far, if_pos (far.symm.trans own), if_pos (.inl own), dropConnection_twice, own]
    · rw [if_neg far, if_pos own, if_pos (.inl own), own]
  · by_cases far : i = second
    · rw [if_pos far, if_neg (far ▸ own), if_pos (.inr far), far]
    · rw [if_neg far, if_neg own, if_neg (not_or.mpr ⟨own, far⟩)]

def joinsSco (link : Link) (sender : Nat) (peer : Address) (reject : Option UInt8) : Bool :=
  reject = none ∧ (link.controllers sender).inboundSco.any fun request =>
    request.initiatorAddress = peer ∧
      link.peerOf request.initiator request.aclHandle = some sender

def joinSco (link : Link) (request : InboundSco) (sender : Nat) : Link :=
  let joined (i peer : Nat) (after : Link) : Link := after.change i fun controller =>
    { controller with scoLinks := controller.scoLinks ++
        [(⟨link.nextHandle, request.aclHandle, peer⟩ : ScoLink)] }
  joined sender request.initiator (joined request.initiator sender link.takeHandle)

theorem joinsSco_iff {link : Link} {sender : Nat} {peer : Address} {reject : Option UInt8} :
    link.joinsSco sender peer reject ↔ reject = none ∧
      ∃ request, (link.controllers sender).inboundSco = some request ∧
        request.initiatorAddress = peer ∧
        link.peerOf request.initiator request.aclHandle = some sender := by
  rw [joinsSco, decide_eq_true_iff, Option.any_eq_true]
  simp only [decide_eq_true_iff]

theorem peerOf_clear (link : Link) (sender i : Nat) (handle : UInt16) :
    (link.change sender fun controller => { controller with inboundSco := none }).peerOf i handle =
      link.peerOf i handle := by
  rw [peerOf, peerOf, change_controllers]
  split_ifs with here
  · rw [here]
    rfl
  · rfl

/-- An answer is to no request that waits, or it takes the one that waits and refuses it, or
joins both ends. -/
theorem routeScoAnswer_cases (link : Link) (sender : Nat) (peer : Address)
    (reject : Option UInt8) :
    ((∀ request, (link.controllers sender).inboundSco = some request →
        request.initiatorAddress ≠ peer) ∧ link.routeScoAnswer sender peer reject = link) ∨
    ∃ request, (link.controllers sender).inboundSco = some request ∧
      request.initiatorAddress = peer ∧
      ((∃ status, (status = unknownConnection ∨ reject = some status) ∧
          link.joinsSco sender peer reject = false ∧ link.routeScoAnswer sender peer reject =
            (link.change sender fun controller => { controller with inboundSco := none }).completeSco
              request sender status 0) ∨
        (link.joinsSco sender peer reject ∧ link.routeScoAnswer sender peer reject =
          ((link.change sender fun controller => { controller with inboundSco := none }).joinSco
            request sender).completeSco request sender success link.nextHandle)) := by
  rw [routeScoAnswer]
  cases held : (link.controllers sender).inboundSco with
  | none => exact .inl ⟨nofun, rfl⟩
  | some request =>
    simp only
    by_cases named : request.initiatorAddress = peer
    swap
    · rw [if_pos named]
      exact .inl ⟨fun _ same => Option.some.inj same ▸ named, rfl⟩
    rw [if_neg (not_not.mpr named)]
    refine .inr ⟨request, rfl, named, ?_⟩
    cases reject with
    | some reason =>
      exact .inl ⟨reason, .inr rfl, decide_eq_false (fun both => nomatch both.1), rfl⟩
    | none =>
      rw [peerOf_clear]
      split_ifs with lost
      · refine .inl ⟨unknownConnection, .inl rfl, ?_, rfl⟩
        refine Bool.eq_false_iff.mpr fun joins => ?_
        obtain ⟨-, other, same, -, reached⟩ := joinsSco_iff.mp joins
        obtain rfl := Option.some.inj (held.symm.trans same)
        exact lost reached
      · exact .inr ⟨joinsSco_iff.mpr ⟨rfl, request, held, named, not_not.mp lost⟩, rfl⟩

section Routes
variable (steady : Steady R)
include steady

theorem establishConnection_each (central peripheral : Nat)
    (joins : ∀ (controller : SimController) peer address, R controller (SimController.push
      { controller with connections :=
          controller.connections ++ [({ handle := link.nextHandle, peer } : Connection)] }
      (.connectionComplete link.nextHandle address))) :
    Each R link (link.establishConnection central peripheral) := by
  have taken : Each R link link.takeHandle := .rfl steady
  exact (taken.change steady fun controller => joins controller _ _).change steady
    fun controller => joins controller _ _

theorem finishPairing_each (ends : Nat × Nat) (handle : UInt16)
    (marks : ∀ controller : SimController, R controller
      (controller.changeConnection handle fun connection =>
        { connection with authenticated := true })) :
    Each R link (link.finishPairing ends handle) :=
  ((Each.rfl steady).change steady marks).change steady marks

theorem routeScoDisconnect_each (sender : Nat) (handle : UInt16)
    (drops : ∀ (controller : SimController) reason, R controller (SimController.push
      { controller with
          scoLinks := controller.scoLinks.filter fun sco => sco.scoHandle ≠ handle }
      (.disconnectionComplete handle reason))) :
    Each R link (link.routeScoDisconnect sender handle).2 := by
  unfold routeScoDisconnect
  split
  · exact .rfl steady
  · exact ((Each.rfl steady).change steady fun controller => drops controller _).change steady
      fun controller => drops controller _

/-- What a disconnection comes to: edits of synchronous links, or what goes with a
connection at both its ends, between such edits. -/
theorem routeDisconnect_cases (sender : Nat) (handle : UInt16)
    (scoDrops : ∀ (controller : SimController) handle reason, R controller (SimController.push
      { controller with
          scoLinks := controller.scoLinks.filter fun sco => sco.scoHandle ≠ handle }
      (.disconnectionComplete handle reason)))
    (tells : ∀ (controller : SimController) reason, R controller
      (controller.push (.disconnectionComplete handle reason))) :
    Each R link (link.routeDisconnect sender handle) ∨
      ∃ peer middle, link.scoPeerOf sender handle = none ∧ link.peerOf sender handle = some peer ∧
        Each R link middle ∧ Each R ((middle.change sender (dropConnection handle)).change peer
          (dropConnection handle)) (link.routeDisconnect sender handle) := by
  have sco (link : Link) (handle : UInt16) : Each R link (link.routeScoDisconnect sender handle).2 :=
    routeScoDisconnect_each steady sender handle fun controller => scoDrops controller handle
  have all (handles : List UInt16) (link : Link) : Each R link (handles.foldl (fun link scoHandle =>
      (link.routeScoDisconnect sender scoHandle).2) link) := by
    induction handles generalizing link with
    | nil => exact .rfl steady
    | cons handle handles ih => exact (sco link handle).trans steady (ih _)
  cases synchronous : link.scoPeerOf sender handle with
  | some peer =>
    refine .inl ?_
    have own := sco link handle
    simp only [routeScoDisconnect, synchronous] at own
    simp only [routeDisconnect, routeScoDisconnect, synchronous, if_true]
    exact own
  | none =>
    simp only [routeDisconnect, routeScoDisconnect, synchronous, Bool.false_eq_true, if_false]
    cases link.peerOf sender handle with
    | none => exact .inl (.rfl steady)
    | some peer =>
      refine .inr ⟨peer, _, trivial, rfl, all (((link.controllers sender).scoLinks.filter fun sco =>
        sco.aclHandle = handle).map ScoLink.scoHandle) link, ?_⟩
      exact ((Each.rfl steady).push steady fun controller => tells controller _).push steady
        fun controller => tells controller _

variable (sender : Nat)

theorem routeDisconnect_each (handle : UInt16)
    (scoDrops : ∀ (controller : SimController) handle reason, R controller (SimController.push
      { controller with
          scoLinks := controller.scoLinks.filter fun sco => sco.scoHandle ≠ handle }
      (.disconnectionComplete handle reason)))
    (drops : ∀ controller, R controller (dropConnection handle controller))
    (tells : ∀ (controller : SimController) reason, R controller
      (controller.push (.disconnectionComplete handle reason))) :
    Each R link (link.routeDisconnect sender handle) := by
  rcases routeDisconnect_cases steady sender handle scoDrops tells with
    each | ⟨peer, middle, -, -, before, after⟩
  · exact each
  · exact ((before.change steady drops).change steady drops).trans steady after

theorem routeCsConfigure_each (handle : UInt16) (configId role : UInt8) (propagateToPeer : Bool)
    (configures : ∀ (controller : SimController) role, R controller (SimController.push
      { controller with cs := some { handle, configId, role } }
      (.csConfigComplete handle configId role true))) :
    Each R link (link.routeCsConfigure sender handle configId role propagateToPeer) := by
  have own : Each R link (link.configureCs sender handle configId role) :=
    (Each.rfl steady).change steady fun controller => configures controller role
  unfold routeCsConfigure
  simp only
  split
  · exact own
  · cases (link.configureCs sender handle configId role).peerOf sender handle with
    | none => exact own
    | some peer => exact own.change steady fun controller => configures controller _

theorem routeCsEnable_each (handle : UInt16) (configId : UInt8) (enable : Bool)
    (refuses : ∀ controller : SimController, R controller
      (controller.push (.csProcedureEnableComplete commandDisallowed handle configId false)))
    (enables : ∀ (controller : SimController) session, controller.cs = some session →
      session.Names handle configId → R controller (SimController.push
        { controller with cs := some { session with enabled := enable } }
        (.csProcedureEnableComplete success handle configId enable))) :
    Each R link (link.routeCsEnable sender handle configId enable) := by
  have one (link : Link) (i : Nat) : Each R link (link.enableCs i handle configId enable) := by
    refine .of_change steady ?_
    cases held : (link.controllers i).cs with
    | none => exact steady.refl _
    | some session =>
      simp only
      split_ifs with names
      · exact enables _ session held names
      · exact steady.refl _
  unfold routeCsEnable
  split_ifs
  · exact (Each.rfl steady).push steady refuses
  · split
    · exact one link sender
    · exact (one link sender).trans steady (one _ _)

theorem sound_each (i : Nat)
    (reports : ∀ (controller : SimController) (session : CsSession), R controller (SimController.push
      { controller with cs := controller.cs.map (CsSession.count session.procedureCounter) }
      (.csSubeventResult session.handle
        ((controller.cs.map CsSession.configId).getD session.configId)
        session.procedureCounter))) :
    Each R link (link.sound i) := by
  unfold sound
  split
  · exact .rfl steady
  · exact ((Each.rfl steady).change steady fun controller => reports controller _).change steady
      fun controller => reports controller _

end Routes
end Link

inductive Action.Tells : Action → Event → Prop
  | disconnect {sender handle gone reason} :
    Tells (.disconnect sender handle) (.disconnectionComplete gone reason)
  | csConfigure {sender handle configId role propagateToPeer own} :
    Tells (.csConfigure sender handle configId role propagateToPeer)
      (.csConfigComplete handle configId own true)
  | csEnable {sender handle configId enable status enabled} :
    Tells (.csEnable sender handle configId enable)
      (.csProcedureEnableComplete status handle configId enabled)
  | scoRefused {sender aclHandle linkType airMode status peer} :
    Tells (.scoSetup sender aclHandle linkType airMode)
      (.synchronousConnectionComplete status 0 peer linkType airMode)
  | scoAsked {sender aclHandle linkType airMode address} :
    Tells (.scoSetup sender aclHandle linkType airMode) (.connectionRequest address linkType)
  | scoAnswered {sender peer reject status handle far linkType airMode} :
    Tells (.scoAnswer sender peer reject)
      (.synchronousConnectionComplete status handle far linkType airMode)
  | cisRequest {sender aclHandle cisHandle} :
    Tells (.cisRequest sender aclHandle cisHandle) (.leCisRequest aclHandle cisHandle)
  | cisAccept {sender cisHandle} :
    Tells (.cisAccept sender cisHandle) (.leCisEstablished success cisHandle)
  | encrypt {sender handle enable status enabled} :
    Tells (.encrypt sender handle enable) (.encryptionChange status handle enabled)
  | leEnableEncryption {sender handle ltk rand ediv} :
    Tells (.leEnableEncryption sender handle ltk rand ediv)
      (.leLongTermKeyRequest handle rand ediv)
  | leLtkReply {sender handle ltk status enabled} :
    Tells (.leLtkReply sender handle ltk) (.encryptionChange status handle enabled)

inductive Action.Edits (link : Link) (controller : SimController) :
    Action → SimController → Prop
  | tells {action event} : action.Tells event → Edits link controller action (controller.push event)
  | closesSco {sender handle scoHandle} : Edits link controller (.disconnect sender handle)
      { controller with
        scoLinks := controller.scoLinks.filter fun sco => sco.scoHandle ≠ scoHandle }
  | drops {sender handle} : Edits link controller (.disconnect sender handle)
      (Link.dropConnection handle controller)
  | configures {sender handle configId role propagateToPeer own} :
    Edits link controller (.csConfigure sender handle configId role propagateToPeer)
      { controller with cs := some { handle, configId, role := own } }
  | enables {sender handle configId enable session} : controller.cs = some session →
    Edits link controller (.csEnable sender handle configId enable)
      { controller with cs := some { session with enabled := enable } }
  | asksSco {sender aclHandle linkType airMode address} :
    Edits link controller (.scoSetup sender aclHandle linkType airMode)
      { controller with inboundSco := some ⟨sender, address, aclHandle, linkType, airMode⟩ }
  | takesSco {sender peer reject} : Edits link controller (.scoAnswer sender peer reject)
      { controller with inboundSco := none }
  | joinsSco {sender peer reject aclHandle far} : link.joinsSco sender peer reject →
    Edits link controller (.scoAnswer sender peer reject)
      { controller with
        scoLinks := controller.scoLinks ++ [(⟨link.nextHandle, aclHandle, far⟩ : ScoLink)] }
  | asksCis {sender aclHandle cisHandle} :
    Edits link controller (.cisRequest sender aclHandle cisHandle)
      { controller with cisLinks := controller.cisLinks ++ [{ cisHandle, aclHandle }] }
  | acceptsCis {sender cisHandle} : Edits link controller (.cisAccept sender cisHandle)
      { controller with cisLinks := Link.markEstablished cisHandle controller.cisLinks }
  | encrypts {sender handle enable} : Edits link controller (.encrypt sender handle enable)
      (controller.changeConnection handle fun connection =>
        { connection with encrypted := enable })
  | parksKey {sender handle ltk rand ediv} :
    Edits link controller (.leEnableEncryption sender handle ltk rand ediv)
      (controller.changeConnection handle fun connection => { connection with pendingLtk := ltk })
  | takesKey {sender handle ltk} : Edits link controller (.leLtkReply sender handle ltk)
      (controller.changeConnection handle fun connection => { connection with pendingLtk := none })
  | setsKey {sender handle ltk} : Edits link controller (.leLtkReply sender handle ltk)
      (controller.changeConnection handle fun connection => { connection with encrypted := true })

namespace Link

theorem perform_each {R : SimController → SimController → Prop} {link : Link} (steady : Steady R)
    (action : Action)
    (kept : ∀ controller after, action.Edits link controller after → R controller after) :
    Each R link (link.perform action) := by
  have told {event : Event} (tells : action.Tells event) (controller : SimController) :
      R controller (controller.push event) := kept controller _ (.tells tells)
  have also {event : Event} (tells : action.Tells event) {controller after : SimController}
      (edits : action.Edits link controller after) : R controller (after.push event) :=
    steady.trans (kept _ _ edits) (told tells after)
  cases action with
  | disconnect sender handle =>
    exact routeDisconnect_each steady sender handle (fun _ _ _ => also .disconnect .closesSco)
      (fun _ => kept _ _ .drops) fun controller _ => told .disconnect controller
  | csConfigure sender handle configId role propagateToPeer =>
    exact routeCsConfigure_each steady sender handle configId role propagateToPeer
      fun _ _ => also .csConfigure .configures
  | csEnable sender handle configId enable =>
    exact routeCsEnable_each steady sender handle configId enable (told .csEnable)
      fun _ _ held _ => also .csEnable (.enables held)
  | scoSetup sender aclHandle linkType airMode =>
    change Each R link (link.routeScoSetup sender aclHandle linkType airMode)
    unfold routeScoSetup
    split
    · exact (Each.rfl steady).push steady (told .scoRefused)
    · split_ifs
      · exact (Each.rfl steady).push steady (told .scoRefused)
      · exact (Each.rfl steady).change steady fun _ => also .scoAsked .asksSco
  | scoAnswer sender peer reject =>
    change Each R link (link.routeScoAnswer sender peer reject)
    have completes (request : InboundSco) (acceptor : Nat) (status : UInt8) (handle : UInt16)
        (link : Link) : Each R link (link.completeSco request acceptor status handle) :=
      ((Each.rfl steady).push steady (told .scoAnswered)).push steady (told .scoAnswered)
    have taken : Each R link (link.change sender fun controller =>
        { controller with inboundSco := none }) :=
      (Each.rfl steady).change steady fun _ => kept _ _ .takesSco
    rcases routeScoAnswer_cases link sender peer reject with
      ⟨-, same⟩ | ⟨request, -, -, ⟨status, -, -, refused⟩ | ⟨joined, accepted⟩⟩
    · rw [same]
      exact .rfl steady
    · rw [refused]
      exact taken.trans steady (completes _ _ _ _ _)
    · rw [accepted]
      have counted : Each R link (link.change sender fun controller =>
          { controller with inboundSco := none }).takeHandle := taken.trans steady (.rfl steady)
      exact ((counted.change steady fun _ => kept _ _ (.joinsSco joined)).change steady
        fun _ => kept _ _ (.joinsSco joined)).trans steady (completes _ _ _ _ _)
  | cisRequest sender aclHandle cisHandle =>
    change Each R link (link.routeCisRequest sender aclHandle cisHandle)
    unfold routeCisRequest
    split
    · exact .rfl steady
    · exact (Each.rfl steady).change steady fun _ => also .cisRequest .asksCis
  | cisAccept sender cisHandle =>
    change Each R link (link.routeCisAccept sender cisHandle)
    unfold routeCisAccept
    split
    · exact .rfl steady
    · split
      · exact .rfl steady
      · exact ((Each.rfl steady).change steady fun _ => also .cisAccept .acceptsCis).change steady
          fun _ => also .cisAccept .acceptsCis
  | encrypt sender handle enable =>
    change Each R link (link.routeSetConnectionEncryption sender handle enable)
    unfold routeSetConnectionEncryption
    split
    · exact .rfl steady
    · simp only
      split_ifs
      · exact (Each.rfl steady).push steady (told .encrypt)
      · exact ((Each.rfl steady).change steady fun _ => also .encrypt .encrypts).change steady
          fun _ => also .encrypt .encrypts
  | leEnableEncryption sender handle ltk rand ediv =>
    change Each R link (link.routeLeEnableEncryption sender handle ltk rand ediv)
    unfold routeLeEnableEncryption
    split
    · exact .rfl steady
    · exact ((Each.rfl steady).change steady fun _ => kept _ _ .parksKey).push steady
        (told .leEnableEncryption)
  | leLtkReply sender handle ltk =>
    change Each R link (link.routeLeLtkReply sender handle ltk)
    unfold routeLeLtkReply
    split
    · exact .rfl steady
    · split
      · exact .rfl steady
      · split_ifs
        · exact ((Each.rfl steady).change steady fun _ => kept _ _ .takesKey).push steady
            (told .leLtkReply)
        · exact (((Each.rfl steady).change steady fun _ => kept _ _ .takesKey).change steady
            fun _ => also .leLtkReply .setsKey).change steady fun _ => also .leLtkReply .setsKey

/-! ## What waits -/

section Actions
variable (link : Link)

/-- Neither the actions that wait nor the counter of handles. -/
def Rests (before after : Link) : Prop :=
  after.actions = before.actions ∧ after.nextHandle = before.nextHandle

variable (sender : Nat)

theorem routeScoDisconnect_rests (handle : UInt16) :
    link.Rests (link.routeScoDisconnect sender handle).2 := by
  unfold routeScoDisconnect
  split <;> exact ⟨rfl, rfl⟩

theorem routeDisconnect_rests (handle : UInt16) :
    link.Rests (link.routeDisconnect sender handle) := by
  have all (handles : List UInt16) (link : Link) : link.Rests (handles.foldl (fun link scoHandle =>
      (link.routeScoDisconnect sender scoHandle).2) link) := by
    induction handles generalizing link with
    | nil => exact ⟨rfl, rfl⟩
    | cons handle handles ih =>
      have first := link.routeScoDisconnect_rests sender handle
      exact ⟨(ih _).1.trans first.1, (ih _).2.trans first.2⟩
  have own := link.routeScoDisconnect_rests sender handle
  unfold routeDisconnect
  simp only
  split
  · exact own
  · split
    · exact own
    · have rest := all (((link.routeScoDisconnect sender handle).2.controllers sender).scoLinks.filter
        (fun sco => sco.aclHandle = handle) |>.map ScoLink.scoHandle)
          (link.routeScoDisconnect sender handle).2
      exact ⟨rest.1.trans own.1, rest.2.trans own.2⟩

theorem routeScoAnswer_actions (peer : Address) (reject : Option UInt8) :
    (link.routeScoAnswer sender peer reject).actions = link.actions := by
  rcases routeScoAnswer_cases link sender peer reject with ⟨-, same⟩ | ⟨_, -, -, outcome⟩
  · rw [same]
  · rcases outcome with ⟨_, -, -, refused⟩ | ⟨-, accepted⟩
    · rw [refused]
      rfl
    · rw [accepted]
      rfl

theorem sound_rests (i : Nat) : link.Rests (link.sound i) := by
  unfold sound
  split <;> exact ⟨rfl, rfl⟩

theorem perform_rests (action : Action)
    (silent : ∀ sender peer reject, action ≠ .scoAnswer sender peer reject) :
    link.Rests (link.perform action) := by
  cases action with
  | disconnect sender handle => exact link.routeDisconnect_rests sender handle
  | scoAnswer sender peer reject => exact absurd rfl (silent sender peer reject)
  | csConfigure sender handle configId role propagateToPeer =>
    change link.Rests (link.routeCsConfigure sender handle configId role propagateToPeer)
    unfold routeCsConfigure
    simp only
    split
    · exact ⟨rfl, rfl⟩
    · split <;> exact ⟨rfl, rfl⟩
  | csEnable sender handle configId enable =>
    change link.Rests (link.routeCsEnable sender handle configId enable)
    unfold routeCsEnable
    split_ifs
    · exact ⟨rfl, rfl⟩
    · split <;> exact ⟨rfl, rfl⟩
  | scoSetup sender aclHandle linkType airMode =>
    change link.Rests (link.routeScoSetup sender aclHandle linkType airMode)
    unfold routeScoSetup
    split
    · exact ⟨rfl, rfl⟩
    · split_ifs <;> exact ⟨rfl, rfl⟩
  | cisRequest sender aclHandle cisHandle =>
    change link.Rests (link.routeCisRequest sender aclHandle cisHandle)
    unfold routeCisRequest
    split <;> exact ⟨rfl, rfl⟩
  | cisAccept sender cisHandle =>
    change link.Rests (link.routeCisAccept sender cisHandle)
    unfold routeCisAccept
    split
    · exact ⟨rfl, rfl⟩
    · split <;> exact ⟨rfl, rfl⟩
  | encrypt sender handle enable =>
    change link.Rests (link.routeSetConnectionEncryption sender handle enable)
    unfold routeSetConnectionEncryption
    split
    · exact ⟨rfl, rfl⟩
    · simp only
      split_ifs <;> exact ⟨rfl, rfl⟩
  | leEnableEncryption sender handle ltk rand ediv =>
    change link.Rests (link.routeLeEnableEncryption sender handle ltk rand ediv)
    unfold routeLeEnableEncryption
    split <;> exact ⟨rfl, rfl⟩
  | leLtkReply sender handle ltk =>
    change link.Rests (link.routeLeLtkReply sender handle ltk)
    unfold routeLeLtkReply
    split
    · exact ⟨rfl, rfl⟩
    · split
      · exact ⟨rfl, rfl⟩
      · split_ifs <;> exact ⟨rfl, rfl⟩

theorem perform_actions (action : Action) : (link.perform action).actions = link.actions := by
  by_cases answers : ∃ sender peer reject, action = .scoAnswer sender peer reject
  · obtain ⟨sender, peer, reject, rfl⟩ := answers
    exact link.routeScoAnswer_actions sender peer reject
  · push Not at answers
    exact (link.perform_rests action answers).1

end Actions
end Link
end Simble.Sim
