import Simble.Sim.Encryption

/-! The tables of connections of two controllers. Each routine edits them by hand; what one finds
for a handle, its peer finds too, as long as no connected host resets. -/
namespace Simble.Sim
open Simble.Lib

/-- How the other end of a connection of controller `i` has it. -/
structure Connection.Matches (i : Nat) (near far : Connection) : Prop where
  peer : far.peer = i
  authenticated : far.authenticated = near.authenticated
  encrypted : far.encrypted = near.encrypted

def Connection.authenticate (connection : Connection) : Connection :=
  { connection with authenticated := true }

namespace Link
variable {before after : Link}

/-- The entry that a controller finds for a handle. -/
def table (link : Link) (i : Nat) (handle : UInt16) : Option Connection :=
  (link.controllers i).held handle

def Mirrored (link : Link) : Prop :=
  ∀ i handle near, link.table i handle = some near →
    ∃ far, link.table near.peer handle = some far ∧ near.Matches i far

/-- A connection gets a handle that no controller has, and a pairing that ends is one of both
ends of its connection, if that is still there. -/
def Regular (link : Link) : Step → Prop
  | .connect .. => ∀ i, link.table i link.nextHandle = none
  | .authenticate ends handle => link.peerOf ends.1 handle = some ends.2 ∨
      link.peerOf ends.1 handle = none ∧ link.peerOf ends.2 handle = none
  | _ => True

/-- No host resets its controller while it is connected to another. -/
def Stays (link : Link) (step : Step) : Prop :=
  ∀ i, step = .command i .reset → ∀ handle peer, link.peerOf i handle = some peer → peer = i

def SameTable (before after : SimController) : Prop := after.connections = before.connections

theorem SameTable.steady : Steady SameTable :=
  ⟨fun _ => rfl, fun first second => second.trans first⟩

theorem table_of_each (each : Each SameTable before after) (i : Nat) (handle : UInt16) :
    after.table i handle = before.table i handle := by
  rw [table, SimController.held, each i, table, SimController.held]

theorem table_change (link : Link) (i j : Nat) (handle other : UInt16)
    {change : Connection → Connection}
    (keeps : ∀ connection, (change connection).handle = connection.handle) :
    (link.change i (·.changeConnection handle change)).table j other =
      if j = i ∧ other = handle then (link.table j other).map change else link.table j other :=
  change_held link i j handle other keeps

theorem table_joined (controller : SimController) (connection : Connection) (event : Event)
    (handle : UInt16) : (SimController.push
      { controller with connections := controller.connections ++ [connection] } event).held handle =
      (controller.held handle).or (if connection.handle = handle then some connection else none) := by
  change (controller.connections ++ [connection]).find? _ = _
  rw [List.find?_append, List.find?_singleton]
  simp only [decide_eq_true_eq]
  rfl

theorem table_connect (link : Link) (central peripheral i : Nat) (handle : UInt16) :
    (link.establishConnection central peripheral).table i handle =
      (link.table i handle).or (if link.nextHandle = handle then
        if i = central then some { handle := link.nextHandle, peer := peripheral }
        else if i = peripheral then some { handle := link.nextHandle, peer := central } else none
      else none) := by
  simp only [table, establishConnection, change_controllers, takeHandle]
  split_ifs <;> simp_all [table_joined]

namespace Mirrored
variable (mirrored : before.Mirrored)
include mirrored

theorem back {sender peer : Nat} {handle : UInt16} (found : before.peerOf sender handle = some peer) :
    before.peerOf peer handle = some sender := by
  obtain ⟨near, here, rfl⟩ := Option.map_eq_some_iff.mp found
  obtain ⟨far, there, matched⟩ := mirrored sender handle near here
  exact Option.map_eq_some_iff.mpr ⟨far, there, matched.peer⟩

/-- Whoever has a connection is one of two ends, and its peer is the other. -/
theorem ends {i sender peer : Nat} {handle : UInt16} {near : Connection}
    (found : before.peerOf sender handle = some peer) (held : before.table i handle = some near) :
    (i = sender ∨ i = peer) ↔ (near.peer = sender ∨ near.peer = peer) := by
  have own : before.peerOf i handle = some near.peer := Option.map_eq_some_iff.mpr ⟨near, held, rfl⟩
  have there := mirrored.back found
  have across := mirrored.back own
  grind

theorem of_same (same : ∀ i handle, after.table i handle = before.table i handle) :
    after.Mirrored := by
  intro i handle near found
  rw [same] at found
  obtain ⟨far, there, matched⟩ := mirrored i handle near found
  exact ⟨far, by rw [same, there], matched⟩

theorem of_each (each : Each SameTable before after) : after.Mirrored :=
  mirrored.of_same (table_of_each each)

/-- Entries may go, with those at the other end. -/
theorem erase (gone : Nat → UInt16 → Bool)
    (left : ∀ i handle, after.table i handle =
      if gone i handle then none else before.table i handle)
    (closed : ∀ i handle near, before.table i handle = some near → gone near.peer handle →
      gone i handle) : after.Mirrored := by
  intro i handle near found
  rw [left] at found
  split_ifs at found with away
  obtain ⟨far, there, matched⟩ := mirrored i handle near found
  refine ⟨far, ?_, matched⟩
  rw [left, if_neg (mt (closed i handle near found) away), there]

theorem edit (change : Nat → UInt16 → Connection → Connection)
    (made : ∀ i handle, after.table i handle = (before.table i handle).map (change i handle))
    (keeps : ∀ i handle near far, before.table i handle = some near → near.Matches i far →
      (change i handle near).peer = near.peer ∧
        (change i handle near).Matches i (change near.peer handle far)) : after.Mirrored := by
  intro i handle later found
  rw [made] at found
  obtain ⟨near, here, rfl⟩ := Option.map_eq_some_iff.mp found
  obtain ⟨far, there, matched⟩ := mirrored i handle near here
  obtain ⟨peer, kept⟩ := keeps i handle near far here matched
  exact ⟨_, by rw [made, peer, there]; rfl, kept⟩

/-- A change at both ends of a connection. -/
theorem both {sender peer : Nat} {handle : UInt16} {change : Connection → Connection}
    (found : before.peerOf sender handle = some peer)
    (made : ∀ i other, after.table i other = if (i = sender ∨ i = peer) ∧ other = handle then
      (before.table i other).map change else before.table i other)
    (keeps : ∀ i near far, near.Matches i far →
      (change near).peer = near.peer ∧ (change near).Matches i (change far)) : after.Mirrored := by
  refine mirrored.edit (fun i other => if (i = sender ∨ i = peer) ∧ other = handle then change else id)
    (fun i other => ?_) fun i other near far here matched => ?_
  · rw [made]
    split_ifs <;> simp
  · by_cases about : other = handle
    · subst about
      simp only [mirrored.ends found here, and_true]
      split_ifs
      · exact keeps i near far matched
      · exact ⟨rfl, matched⟩
    · simp only [about, and_false, if_false]
      exact ⟨rfl, matched⟩

theorem park (i : Nat) (handle : UInt16) (ltk : Option Ltk) :
    (before.change i (·.changeConnection handle (.park ltk))).Mirrored := by
  refine mirrored.edit (fun j other => if j = i ∧ other = handle then .park ltk else id)
    (fun j other => ?_) fun j other near far _ matched => ?_
  · rw [@table_change before i j handle other (.park ltk) fun _ => rfl]
    split_ifs <;> simp
  · split_ifs <;> exact ⟨rfl, matched.peer, matched.authenticated, matched.encrypted⟩

theorem push (i : Nat) (event : Event) : (before.push i event).Mirrored :=
  mirrored.of_each ((Each.rfl SameTable.steady).push SameTable.steady fun _ => rfl)

theorem disconnect (sender : Nat) (handle : UInt16) :
    (before.routeDisconnect sender handle).Mirrored := by
  rcases routeDisconnect_cases SameTable.steady sender handle (fun _ _ _ => rfl) (fun _ _ => rfl) with
    same | ⟨peer, middle, -, found, same, later⟩
  · exact mirrored.of_each same
  · have still := mirrored.of_each same
    have reached : middle.peerOf sender handle = some peer := by
      rw [peerOf, SimController.peerOf, same sender]
      exact found
    refine (still.erase (fun i other => (i = sender ∨ i = peer) ∧ other = handle)
      (fun i other => ?_) fun i other near held gone => ?_).of_each later
    · rw [table, dropped_controllers]
      by_cases here : i = sender ∨ i = peer
      · rw [if_pos here, SimController.held_dropConnection]
        simp only [here, true_and, decide_eq_true_eq]
        rfl
      · simp only [here, false_and, decide_false, Bool.false_eq_true, if_false]
        rfl
    · simp only [decide_eq_true_eq] at gone ⊢
      obtain ⟨near', rfl⟩ := gone
      exact ⟨(still.ends reached held).mpr near', rfl⟩

theorem connect (central peripheral : Nat) (fresh : ∀ i, before.table i before.nextHandle = none) :
    (before.establishConnection central peripheral).Mirrored := by
  intro i handle near found
  rw [table_connect] at found
  by_cases about : before.nextHandle = handle
  · subst about
    rw [fresh, Option.none_or, if_pos rfl] at found
    rw [table_connect, fresh, Option.none_or, if_pos rfl]
    split_ifs at found with own far <;> obtain rfl := Option.some.inj found
    · refine ⟨⟨before.nextHandle, central, false, false, none⟩, ?_, own.symm, rfl, rfl⟩
      rw [if_pos rfl]
      split_ifs with same
      · obtain rfl : peripheral = central := same
        rfl
      · rfl
    · exact ⟨_, if_pos rfl, far.symm, rfl, rfl⟩
  · rw [if_neg about, Option.or_none] at found
    obtain ⟨far, across, matched⟩ := mirrored i handle near found
    exact ⟨far, by rw [table_connect, across]; rfl, matched⟩

theorem reset (i : Nat)
    (stays : ∀ handle peer, before.peerOf i handle = some peer → peer = i) :
    (before.step (.command i .reset)).Mirrored := by
  refine mirrored.erase (fun j _ => j = i) (fun j handle => ?_) fun j handle near found reached => ?_
  · change ((before.change i fun _ => _).controllers j).held handle = _
    rw [change_controllers]
    simp only [decide_eq_true_eq]
    split_ifs <;> rfl
  · have own := mirrored.back (Option.map_eq_some_iff.mpr ⟨near, found, rfl⟩)
    rw [of_decide_eq_true reached] at own
    exact decide_eq_true (stays handle j own)

theorem command (i : Nat) (command : Command)
    (stays : command = .reset → ∀ handle peer, before.peerOf i handle = some peer → peer = i) :
    (before.step (.command i command)).Mirrored := by
  cases command with
  | reset => exact mirrored.reset i (stays rfl)
  | leCsRemoveConfig handle configId =>
    refine mirrored.of_each (command_each before SameTable.steady i _ ?_)
    rw [SimController.handleCommand]
    cases (before.controllers i).cs <;> rfl
  | _ =>
    refine mirrored.of_each (command_each before SameTable.steady i _ ?_)
    rw [SimController.handleCommand]
    try split_ifs
    all_goals rfl

theorem perform (action : Action) : (before.perform action).Mirrored := by
  cases action with
  | disconnect sender handle => exact mirrored.disconnect sender handle
  | encrypt sender handle enable =>
    rcases routeSetConnectionEncryption_cases before sender handle enable with
      same | ⟨peer, found, -, made⟩
    · exact mirrored.of_same same
    · exact mirrored.both found made fun _ _ _ matched =>
        ⟨rfl, matched.peer, matched.authenticated, rfl⟩
  | leEnableEncryption sender handle ltk rand ediv =>
    change (before.routeLeEnableEncryption sender handle ltk rand ediv).Mirrored
    unfold routeLeEnableEncryption
    split
    · exact mirrored
    · exact (mirrored.park sender handle ltk).push _ _
  | leLtkReply sender handle key =>
    change (before.routeLeLtkReply sender handle key).Mirrored
    unfold routeLeLtkReply
    split
    · exact mirrored
    · rename_i central found
      split
      · exact mirrored
      · have taken := mirrored.park central handle none
        have reached : (before.change central (·.changeConnection handle (.park none))).peerOf central
            handle = some sender := by
          rw [peerOf, change_controllers, if_pos rfl]
          rw [@SimController.peerOf_changeConnection _ _ (.park none) fun _ => ⟨rfl, rfl⟩]
          exact mirrored.back found
        simp only
        split_ifs
        · exact taken.push _ _
        · exact taken.both reached (fun i other => setBoth_held ..) fun _ _ _ matched =>
            ⟨rfl, matched.peer, matched.authenticated, rfl⟩
  | _ =>
    refine mirrored.of_each (perform_each SameTable.steady _ fun controller after edits => ?_)
    cases edits <;> rfl

theorem pair (ends : Nat × Nat) (handle : UInt16)
    (regular : before.Regular (.authenticate ends handle)) :
    (before.finishPairing ends handle).Mirrored := by
  have made (i : Nat) (other : UInt16) : (before.finishPairing ends handle).table i other =
      if (i = ends.1 ∨ i = ends.2) ∧ other = handle then
        (before.table i other).map .authenticate
      else before.table i other := by
    have keeps (connection : Connection) : connection.authenticate.handle = connection.handle := rfl
    have first := table_change before ends.1 i handle other keeps
    have second := table_change (before.change ends.1 (·.changeConnection handle .authenticate))
      ends.2 i handle other keeps
    have twice (held : Option Connection) : (held.map Connection.authenticate).map
        Connection.authenticate = held.map Connection.authenticate := by cases held <;> rfl
    apply second.trans
    rw [first]
    grind
  rcases regular with found | ⟨first, second⟩
  · exact mirrored.both found made fun _ _ _ matched => ⟨rfl, matched.peer, rfl, matched.encrypted⟩
  · refine mirrored.of_same fun i other => ?_
    rw [made]
    split_ifs with about
    · have gone : before.table i other = none := by
        obtain ⟨rfl | rfl, rfl⟩ := about
        · exact Option.map_eq_none_iff.mp first
        · exact Option.map_eq_none_iff.mp second
      rw [gone]
      rfl
    · rfl

theorem step {step : Step} (regular : before.Regular step) (stays : before.Stays step) :
    (before.step step).Mirrored := by
  cases step with
  | command i command => exact mirrored.command i command fun resets => stays i (resets ▸ rfl)
  | connect central peripheral => exact mirrored.connect central peripheral regular
  | authenticate ends handle => exact mirrored.pair ends handle regular
  | act =>
    rw [Link.step]
    cases before.actions with
    | nil => exact mirrored
    | cons action rest =>
      have rests : ({ before with actions := rest } : Link).Mirrored := mirrored
      exact rests.perform action
  | sound i => exact mirrored.of_each (sound_each SameTable.steady i fun _ _ => rfl)

/-- A reset takes the entries of one end only. -/
theorem stays {step : Step} (kept : (before.step step).Mirrored) : before.Stays step := by
  rintro i rfl handle peer found
  by_contra other
  obtain ⟨far, there, back⟩ := Option.map_eq_some_iff.mp (mirrored.back found)
  have still : (before.step (.command i .reset)).table peer handle = some far := by
    change ((before.change i fun _ => _).controllers peer).held handle = _
    rw [change_controllers, if_neg other]
    exact there
  obtain ⟨near, across, -⟩ := kept peer handle far still
  rw [back] at across
  change ((before.change i fun _ => _).controllers i).held handle = _ at across
  rw [change_controllers, if_pos rfl] at across
  cases across

end Mirrored

/-- Along every run, both ends have the same connections exactly as long as no host resets its
controller while it is connected to another. -/
theorem mirrored_iff (addresses : Nat → Address) (steps : List Step)
    (regular : Along Link.step Regular (.new addresses) steps) :
    Along Link.step (fun link step => (link.step step).Mirrored) (.new addresses) steps ↔
      Along Link.step Stays (.new addresses) steps := by
  have start : (Link.new addresses).Mirrored := fun _ _ _ found => by cases found
  generalize Link.new addresses = link at start regular
  induction steps generalizing link with
  | nil => exact Iff.rfl
  | cons step steps ih =>
    obtain ⟨here, later⟩ := regular
    constructor
    · rintro ⟨kept, rest⟩
      exact ⟨start.stays kept, (ih _ kept later).mp rest⟩
    · rintro ⟨stays, rest⟩
      have kept := start.step here stays
      exact ⟨kept, (ih _ kept later).mpr rest⟩

theorem mirrored_iff_encrypted :
    let steps : List Step := [.connect 0 1, .authenticate (0, 1) 1,
      .command 0 (.setConnectionEncryption 1 true), .act]
    Along Link.step (fun link step => (link.step step).Mirrored) (.new numbered) steps ↔
      Along Link.step Stays (.new numbered) steps :=
  mirrored_iff numbered _ ⟨fun _ => rfl, .inl rfl, trivial, trivial, trivial⟩

end Link
end Simble.Sim
