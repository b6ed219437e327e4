import Simble.Lib.Along
import Simble.Sim.Edits

/-! Encryption on the simulated medium: who may turn it on, at which ends, and what a host that
asks is told. The key that a host names waits on its own connection for the answer of its peer's
host, so what was asked is recorded beside what the controllers hold. -/
namespace Simble.Sim
open Simble.Lib

def Event.changes (handle : UInt16) : Event → Bool
  | .encryptionChange _ changed _ => changed = handle
  | _ => false

namespace SimController
variable (controller : SimController) (handle : UInt16)

def changes : List Event := controller.outbox.filter (Event.changes handle)

def Authenticated : Prop :=
  ∃ connection ∈ controller.connections, connection.handle = handle ∧ connection.authenticated

variable {handle} in
theorem changes_push {event : Event} (other : event.changes handle = false) :
    (controller.push event).changes handle = controller.changes handle := by
  simp [changes, push, List.filter_append, other]

theorem changes_handleCommand (i : Nat) (command : Command) :
    (controller.handleCommand i command).1.changes handle = controller.changes handle := by
  cases command with
  | leCsRemoveConfig session configId =>
    rw [handleCommand]
    cases controller.cs with
    | none => exact changes_push _ rfl
    | some _ => exact (changes_push _ rfl).trans (changes_push _ rfl)
  | _ =>
    rw [handleCommand]
    try split_ifs
    all_goals exact changes_push _ rfl

end SimController

namespace Link
variable (link : Link)

def encrypted (i : Nat) (handle : UInt16) : Bool :=
  ((link.controllers i).held handle).any Connection.encrypted

def due : Step → Option Action
  | .act => link.actions.head?
  | _ => none

end Link

def Action.keyed : Action → Bool
  | .encrypt .. | .leEnableEncryption .. | .leLtkReply .. => true
  | _ => false

def Step.pairs : Step → Nat → UInt16 → Bool
  | .authenticate ends paired, i, handle => paired = handle ∧ (i = ends.1 ∨ i = ends.2)
  | _, _, _ => false

structure Keyring where
  link : Link
  /-- The keys that a host named for a connection and its peer's host is yet to answer for,
  oldest first. -/
  unanswered : Nat → UInt16 → List Ltk := fun _ _ => []
  /-- Whether a pairing of an end of a connection has completed. -/
  paired : Nat → UInt16 → Bool := fun _ _ => false

namespace Keyring
variable (keyring : Keyring)

def records (step : Step) (i : Nat) (handle : UInt16) : List Ltk :=
  match keyring.link.due step with
  | some (.leEnableEncryption sender asked ltk _ _) =>
    if sender = i ∧ asked = handle then keyring.unanswered i handle ++ [ltk]
    else keyring.unanswered i handle
  | some (.leLtkReply sender asked _) =>
    if asked = handle ∧ keyring.link.peerOf sender asked = some i then
      (keyring.unanswered i handle).dropLast
    else keyring.unanswered i handle
  | _ => keyring.unanswered i handle

def next (step : Step) : Keyring where
  link := keyring.link.step step
  unanswered i handle :=
    if (keyring.link.step step).peerOf i handle = none then [] else keyring.records step i handle
  paired i handle := ((keyring.link.step step).peerOf i handle).isSome ∧
    (keyring.paired i handle ∨ step.pairs i handle)

def new (addresses : Nat → Address) : Keyring := { link := .new addresses }

/-- What may encrypt a connection: its end `asker` is paired and asks for it, or the other end
answers with the key that `asker` last named. -/
def Grants (step : Step) (asker answerer : Nat) (handle : UInt16) : Prop :=
  (keyring.link.due step = some (.encrypt asker handle true) ∧ keyring.paired asker handle) ∨
    ∃ ltk, keyring.link.due step = some (.leLtkReply answerer handle (some ltk)) ∧
      (keyring.unanswered asker handle).getLast? = some ltk

/-- An attempt that may not. -/
def Fails (step : Step) : Prop :=
  match keyring.link.due step with
  | some (.encrypt sender handle true) => keyring.paired sender handle = false
  | some (.leLtkReply sender handle key) => ∀ central ltk,
    keyring.link.peerOf sender handle = some central → key = some ltk →
      (keyring.unanswered central handle).getLast? ≠ some ltk
  | _ => False

structure Grounded (step : Step) : Prop where
  raised : ∀ i handle, keyring.link.encrypted i handle = false →
    (keyring.next step).link.encrypted i handle → ∃ asker answerer,
      keyring.link.peerOf asker handle = some answerer ∧
      keyring.link.peerOf answerer handle = some asker ∧ (i = asker ∨ i = answerer) ∧
      keyring.Grants step asker answerer handle ∧
      (keyring.next step).link.encrypted asker handle ∧
      (keyring.next step).link.encrypted answerer handle
  failed : keyring.Fails step → ∀ i handle,
    (keyring.next step).link.encrypted i handle = keyring.link.encrypted i handle
  answered : ∀ sender handle key central,
    keyring.link.due step = some (.leLtkReply sender handle key) →
    keyring.link.peerOf sender handle = some central → keyring.unanswered central handle ≠ [] →
      ∃ status enabled, ((keyring.next step).link.controllers central).changes handle =
        (keyring.link.controllers central).changes handle ++
          [.encryptionChange status handle enabled]

/-- What may send a host an Encryption Change: Set Connection Encryption by an end of the
connection, and an answer to a request that is unanswered. -/
def Tells (step : Step) (i : Nat) (handle : UInt16) : Prop :=
  match keyring.link.due step with
  | some (.encrypt sender asked _) =>
    asked = handle ∧ (i = sender ∨ keyring.link.peerOf sender handle = some i)
  | some (.leLtkReply sender asked _) => asked = handle ∧ ∃ central,
    keyring.link.peerOf sender handle = some central ∧ keyring.unanswered central handle ≠ [] ∧
      (i = central ∨ i = sender)
  | _ => False

structure Encrypts (step : Step) : Prop extends keyring.Grounded step where
  silent : ∀ i handle, ¬ keyring.Tells step i handle →
    ((keyring.next step).link.controllers i).changes handle =
      (keyring.link.controllers i).changes handle

/-- The condition on a step: a host asks for encryption only while no request of its own on the
connection is unanswered, and a connection is encrypted only while its two ends hold it with each
other. -/
def Orderly (step : Step) : Prop :=
  match keyring.link.due step with
  | some (.leEnableEncryption sender handle _ _ _) => keyring.unanswered sender handle = []
  | some (.encrypt sender handle true) => keyring.paired sender handle → ∀ peer,
    keyring.link.peerOf sender handle = some peer → keyring.link.peerOf peer handle = some sender
  | some (.leLtkReply sender handle _) => ∀ central,
    keyring.link.peerOf sender handle = some central → keyring.unanswered central handle ≠ [] →
      central ≠ sender ∧ keyring.link.peerOf central handle = some sender
  | _ => True

structure Known : Prop where
  keys : ∀ i handle, keyring.unanswered i handle = (keyring.link.pendingLtk i handle).toList
  paired : ∀ i handle, (keyring.link.controllers i).Authenticated handle →
    keyring.paired i handle

end Keyring

/-! ## Connections as they stand -/

/-- Connections go, and no other changes. -/
structure Calm (before after : SimController) : Prop where
  held : ∀ handle, after.held handle = before.held handle ∨ after.held handle = none
  authenticated : ∀ handle, after.Authenticated handle → before.Authenticated handle

namespace Calm

theorem steady : Steady Calm where
  refl _ := ⟨fun _ => .inl rfl, fun _ => id⟩
  trans first second :=
    { held := fun handle => by
        rcases second.held handle with same | gone
        · exact same ▸ first.held handle
        · exact .inr gone
      authenticated := fun handle => first.authenticated handle ∘ second.authenticated handle }

theorem of_same {before after : SimController} (same : after.connections = before.connections) :
    Calm before after where
  held handle := .inl (by rw [SimController.held, same, SimController.held])
  authenticated handle := by
    rw [SimController.Authenticated, same]
    exact id

end Calm

open Link

theorem handleCommand_calm (i : Nat) (controller : SimController) (command : Command) :
    Calm controller (controller.handleCommand i command).1 := by
  cases command with
  | reset => exact ⟨fun _ => .inr rfl, fun _ held => nomatch held.choose_spec.1⟩
  | leCsRemoveConfig handle configId =>
    rw [SimController.handleCommand]
    cases controller.cs <;> exact .of_same rfl
  | _ =>
    rw [SimController.handleCommand]
    try split_ifs
    all_goals exact .of_same rfl

theorem perform_calm (link : Link) (action : Action) (other : action.keyed = false) :
    Each Calm link (link.perform action) := by
  refine perform_each Calm.steady action fun controller after edits => ?_
  cases edits with
  | @drops sender handle =>
    refine ⟨fun asked => ?_, fun asked held => ?_⟩
    · rw [SimController.held_dropConnection]
      split_ifs
      · exact .inr rfl
      · exact .inl rfl
    · obtain ⟨connection, inside, named⟩ := held
      exact ⟨connection, (List.mem_filter.mp inside).1, named⟩
  | encrypts | parksKey | takesKey | setsKey => cases other
  | _ => exact .of_same rfl

/-! ## What the actions on encryption do -/

def Connection.mark (on : Bool) (connection : Connection) : Connection :=
  { connection with encrypted := on }

def Connection.park (ltk : Option Ltk) (connection : Connection) : Connection :=
  { connection with pendingLtk := ltk }

section Marks
variable (link : Link) (sender j : Nat) (handle other : UInt16) (on : Bool)

theorem change_held {change : Connection → Connection}
    (keeps : ∀ connection, (change connection).handle = connection.handle) :
    ((link.change sender fun controller =>
        controller.changeConnection handle change).controllers j).held other =
      if j = sender ∧ other = handle then ((link.controllers j).held other).map change
      else (link.controllers j).held other := by
  rw [change_controllers]
  by_cases here : j = sender
  · rw [if_pos here, SimController.held_changeConnection _ keeps, here]
    simp only [true_and]
  · rw [if_neg here, if_neg fun both => here both.1]

theorem setEncrypted_held : ((link.setEncrypted sender handle on).controllers j).held other =
    if j = sender ∧ other = handle then
      ((link.controllers j).held other).map (Connection.mark on)
    else (link.controllers j).held other := by
  have own := @change_held link sender j handle other (Connection.mark on) fun _ => rfl
  rw [← own, setEncrypted, change_controllers, change_controllers]
  split_ifs <;> rfl

theorem setBoth_held (peer : Nat) :
    (((link.setEncrypted sender handle on).setEncrypted peer handle on).controllers j).held other =
      if (j = sender ∨ j = peer) ∧ other = handle then
        ((link.controllers j).held other).map (Connection.mark on)
      else (link.controllers j).held other := by
  rw [setEncrypted_held, setEncrypted_held]
  by_cases same : other = handle
  · by_cases near : j = sender
    · by_cases far : j = peer
      · rw [if_pos ⟨far, same⟩, if_pos ⟨near, same⟩, if_pos ⟨.inl near, same⟩, Option.map_map]
        rfl
      · rw [if_neg fun both => far both.1, if_pos ⟨near, same⟩, if_pos ⟨.inl near, same⟩]
    · by_cases far : j = peer
      · rw [if_pos ⟨far, same⟩, if_neg fun both => near both.1, if_pos ⟨.inr far, same⟩]
      · rw [if_neg fun both => far both.1, if_neg fun both => near both.1,
          if_neg fun both => both.1.elim near far]
  · rw [if_neg fun both => same both.2, if_neg fun both => same both.2,
      if_neg fun both => same both.2]

/-- Set Connection Encryption changes no connection, or both ends of one, and turns it on
only for an end that is authenticated. -/
theorem routeSetConnectionEncryption_cases :
    (∀ j other, ((link.routeSetConnectionEncryption sender handle on).controllers j).held other =
      (link.controllers j).held other) ∨
    ∃ peer, link.peerOf sender handle = some peer ∧
      (on → (link.controllers sender).Authenticated handle) ∧
      ∀ j other, ((link.routeSetConnectionEncryption sender handle on).controllers j).held other =
        if (j = sender ∨ j = peer) ∧ other = handle then
          ((link.controllers j).held other).map (Connection.mark on)
        else (link.controllers j).held other := by
  rw [routeSetConnectionEncryption]
  cases link.peerOf sender handle with
  | none => exact .inl fun _ _ => rfl
  | some peer =>
    simp only
    split_ifs with refused
    · refine .inl fun j other => ?_
      rw [push_controllers]
      split_ifs with here
      · rw [here]
        rfl
      · rfl
    · refine .inr ⟨peer, rfl, fun enables => ?_, fun j other => setBoth_held ..⟩
      by_contra off
      refine refused ⟨enables, fun held => off ?_⟩
      obtain ⟨connection, inside, named⟩ := List.any_eq_true.mp held
      exact ⟨connection, inside, of_decide_eq_true named⟩

theorem routeSetConnectionEncryption_others (apart : j ≠ sender)
    (far : link.peerOf sender handle ≠ some j) :
    (link.routeSetConnectionEncryption sender handle on).controllers j = link.controllers j := by
  rw [routeSetConnectionEncryption]
  cases found : link.peerOf sender handle with
  | none => rfl
  | some peer =>
    have other : j ≠ peer := fun same => far (found.trans (congrArg some same.symm))
    simp only
    split_ifs <;> simp [setEncrypted, apart, other]

theorem routeLeEnableEncryption_held (ltk : Ltk) (rand : Octets 8) (ediv : UInt16) {peer : Nat}
    (found : link.peerOf sender handle = some peer) :
    ((link.routeLeEnableEncryption sender handle ltk rand ediv).controllers j).held other =
      if j = sender ∧ other = handle then
        ((link.controllers j).held other).map (Connection.park ltk)
      else (link.controllers j).held other := by
  have own := @change_held link sender j handle other (Connection.park ltk) fun _ => rfl
  rw [routeLeEnableEncryption, found, ← own, push_controllers]
  split_ifs with here
  · rw [here]
    rfl
  · rfl

section Reply
variable {sender handle} {central : Nat} {expected : Ltk} (key : Option Ltk)

theorem routeLeLtkReply_others (apart : ∀ central, link.peerOf sender handle = some central →
      link.pendingLtk central handle ≠ none → j ≠ central ∧ j ≠ sender) :
    (link.routeLeLtkReply sender handle key).controllers j = link.controllers j := by
  rw [routeLeLtkReply]
  cases found : link.peerOf sender handle with
  | none => rfl
  | some central =>
    simp only
    cases waits : link.pendingLtk central handle with
    | none => rfl
    | some expected =>
      obtain ⟨other, far⟩ := apart central found (waits ▸ nofun)
      simp only
      split_ifs <;> simp [setEncrypted, other, far]

section Waits
variable (found : link.peerOf sender handle = some central)
  (waits : link.pendingLtk central handle = some expected)
include found waits

/-- An answer takes the key that waits, and encrypts both ends if it names the same. -/
theorem routeLeLtkReply_held :
    ((link.routeLeLtkReply sender handle key).controllers j).held other =
      let taken := if j = central ∧ other = handle then
          ((link.controllers j).held other).map (Connection.park none)
        else (link.controllers j).held other
      if key = some expected ∧ (j = central ∨ j = sender) ∧ other = handle then
        taken.map (Connection.mark true)
      else taken := by
  have own := @change_held link central j handle other (Connection.park none) fun _ => rfl
  rw [routeLeLtkReply, found]
  simp only
  rw [waits]
  simp only
  by_cases same : key = some expected
  · rw [if_neg (not_not.mpr same), setBoth_held, ← own]
    simp only [same, true_and]
    rfl
  · rw [if_pos same, if_neg fun both => same both.1, ← own, push_controllers]
    split_ifs with here
    · rw [here]
      rfl
    · rfl

theorem routeLeLtkReply_changes (apart : central ≠ sender) :
    ∃ status enabled,
      ((link.routeLeLtkReply sender handle key).controllers central).changes handle =
        (link.controllers central).changes handle ++
          [.encryptionChange status handle enabled] := by
  have told (controller : SimController) (status : UInt8) (enabled : Bool) :
      (controller.push (.encryptionChange status handle enabled)).changes handle =
        controller.changes handle ++ [.encryptionChange status handle enabled] := by
    rw [SimController.changes, SimController.push, List.filter_append]
    exact congrArg _ (List.filter_cons_of_pos (decide_eq_true rfl))
  rw [routeLeLtkReply, found]
  simp only
  rw [waits]
  simp only
  split_ifs
  · refine ⟨pinOrKeyMissing, false, ?_⟩
    rw [push_controllers, if_pos rfl, told, change_controllers, if_pos rfl]
    rfl
  · refine ⟨success, true, ?_⟩
    rw [setEncrypted, change_controllers, if_neg apart, setEncrypted, change_controllers,
      if_pos rfl, told, change_controllers, if_pos rfl]
    rfl

end Waits

end Reply

end Marks

/-! ## What a join and a pairing do -/

/-- New connections are not encrypted, and hide no earlier one. -/
structure Joined (before after : SimController) : Prop where
  held : ∀ handle, after.held handle = before.held handle ∨ (before.held handle = none ∧
    ∃ connection, after.held handle = some connection ∧ connection.pendingLtk = none ∧
      connection.encrypted = false)
  authenticated : ∀ handle, after.Authenticated handle → before.Authenticated handle

namespace Joined

theorem steady : Steady Joined where
  refl _ := ⟨fun _ => .inl rfl, fun _ => id⟩
  trans first second :=
    { held := fun handle => by
        rcases second.held handle with same | ⟨none, fresh⟩
        · exact same ▸ first.held handle
        · rcases first.held handle with same | ⟨-, connection, held, -⟩
          · exact .inr ⟨same ▸ none, fresh⟩
          · rw [none] at held
            cases held
      authenticated := fun handle => first.authenticated handle ∘ second.authenticated handle }

theorem joined (controller : SimController) (connection : Connection) {event : Event}
    (free : connection.pendingLtk = none) (dark : connection.encrypted = false)
    (unpaired : connection.authenticated = false) : Joined controller (SimController.push
      { controller with connections := controller.connections ++ [connection] } event) where
  held handle := by
    change (controller.connections ++ [connection]).find? _ = _ ∨
      _ ∧ ∃ fresh, (controller.connections ++ [connection]).find? _ = _ ∧ _
    rw [List.find?_append]
    cases found : controller.held handle with
    | some earlier =>
      rw [SimController.held] at found
      rw [found]
      exact .inl rfl
    | none =>
      rw [SimController.held] at found
      rw [found, Option.none_or, List.find?_singleton]
      split_ifs
      · exact .inr ⟨rfl, connection, rfl, free, dark⟩
      · exact .inl rfl
  authenticated handle held := by
    obtain ⟨other, inside, named, paired⟩ := held
    rcases List.mem_append.mp inside with inside | fresh
    · exact ⟨other, inside, named, paired⟩
    · rw [List.mem_singleton.mp fresh, unpaired] at paired
      cases paired

end Joined

theorem SimController.authenticated_changeConnection (controller : SimController)
    {handle other : UInt16} {change : Connection → Connection} {P : Prop}
    (keeps : ∀ connection, (change connection).handle = connection.handle)
    (grants : ∀ connection, (change connection).authenticated → connection.authenticated ∨ P)
    (held : (controller.changeConnection other change).Authenticated handle) :
    controller.Authenticated handle ∨ (handle = other ∧ P) := by
  obtain ⟨connection, inside, named, paired⟩ := held
  obtain ⟨earlier, before, rfl | ⟨about, rfl⟩⟩ := controller.mem_changeConnection inside
  · exact .inl ⟨_, before, named, paired⟩
  · rw [keeps] at named
    exact (grants earlier paired).imp (fun paired => ⟨earlier, before, named, paired⟩)
      fun granted => ⟨named.symm.trans about, granted⟩

theorem finishPairing_authenticated {link : Link} (ends : Nat × Nat) (paired : UInt16) (i : Nat)
    (handle : UInt16)
    (held : ((link.finishPairing ends paired).controllers i).Authenticated handle) :
    (link.controllers i).Authenticated handle ∨ (Step.authenticate ends paired).pairs i handle := by
  have marks {link : Link} {own : Nat} (held : ((link.change own fun controller =>
      controller.changeConnection paired fun connection =>
        { connection with authenticated := true }).controllers i).Authenticated handle) :
      (link.controllers i).Authenticated handle ∨ (handle = paired ∧ i = own) := by
    rw [change_controllers] at held
    split_ifs at held with here
    · subst here
      have marked := (link.controllers i).authenticated_changeConnection (P := True) ?_ ?_ held
      · exact marked.imp_right fun about => ⟨about.1, rfl⟩
      · exact fun _ => rfl
      · exact fun _ _ => .inr trivial
    · exact .inl held
  rcases marks held with earlier | ⟨about, here⟩
  · refine (marks earlier).imp_right fun both => decide_eq_true ⟨both.1.symm, .inl both.2⟩
  · exact .inr (decide_eq_true ⟨about.symm, .inr here⟩)

theorem perform_authenticated (link : Link) (action : Action) :
    Each (fun before after => ∀ handle, after.Authenticated handle → before.Authenticated handle)
      link (link.perform action) := by
  refine perform_each ⟨fun _ _ => id, fun first second handle => first handle ∘ second handle⟩
    action fun controller after edits other held => ?_
  cases edits with
  | encrypts | parksKey | takesKey | setsKey =>
    refine (controller.authenticated_changeConnection (P := False) ?_ ?_ held).resolve_right
      fun about => about.2
    · exact fun _ => rfl
    · exact fun _ => .inl
  | drops =>
    obtain ⟨connection, inside, named⟩ := held
    exact ⟨connection, (List.mem_filter.mp inside).1, named⟩
  | _ => exact held

def Connection.keys (connection : Connection) : Option Ltk × Bool :=
  (connection.pendingLtk, connection.encrypted)

theorem encrypted_keys (link : Link) (i : Nat) (handle : UInt16) : link.encrypted i handle =
    (((link.controllers i).held handle).map Connection.keys).any Prod.snd := by
  rw [encrypted, Option.any_map]
  rfl

theorem pendingLtk_keys (link : Link) (i : Nat) (handle : UInt16) : link.pendingLtk i handle =
    (((link.controllers i).held handle).map Connection.keys).bind Prod.fst := by
  rw [Option.bind_map]
  rfl

/-! ## Steps and runs -/

namespace Keyring
variable {keyring : Keyring} {step : Step}

theorem Known.after (known : keyring.Known)
    (keys : ∀ i handle connection, ((keyring.link.step step).controllers i).held handle =
      some connection → keyring.records step i handle = connection.pendingLtk.toList)
    (authenticated : ∀ i handle, ((keyring.link.step step).controllers i).Authenticated handle →
      (keyring.link.controllers i).Authenticated handle ∨ step.pairs i handle) :
    (keyring.next step).Known where
  keys i handle := by
    change (if ((keyring.link.step step).controllers i |>.held handle).map Connection.peer = none
      then [] else keyring.records step i handle) =
        (((keyring.link.step step).controllers i |>.held handle).bind Connection.pendingLtk).toList
    cases found : ((keyring.link.step step).controllers i).held handle with
    | none => rfl
    | some connection =>
      rw [Option.map_some, if_neg nofun, Option.bind_some]
      exact keys i handle connection found
  paired i handle held := by
    refine decide_eq_true ⟨?_, (authenticated i handle held).imp (known.paired i handle) id⟩
    obtain ⟨connection, inside, named, -⟩ := held
    rw [peerOf, SimController.peerOf, Option.isSome_map, List.find?_isSome]
    exact ⟨connection, inside, decide_eq_true named⟩

structure Sound (keyring : Keyring) (step : Step) : Prop where
  grounded : keyring.Grounded step
  known : (keyring.next step).Known

theorem Sound.of_other (other : ∀ action, keyring.link.due step = some action →
      action.keyed = false)
    (dark : ∀ i handle, keyring.link.encrypted i handle = false →
      (keyring.link.step step).encrypted i handle = false)
    (known : keyring.records step = keyring.unanswered → (keyring.next step).Known) :
    keyring.Sound step := by
  cases due : keyring.link.due step with
  | none =>
    refine ⟨⟨?_, ?_, ?_⟩, known ?_⟩
    · intro i handle off on
      rw [next, dark i handle off] at on
      cases on
    · intro fails
      rw [Fails, due] at fails
      exact fails.elim
    · intro sender handle key central answers
      rw [due] at answers
      cases answers
    · funext i handle
      rw [records, due]
  | some action =>
    have plain := other action due
    refine ⟨⟨?_, ?_, ?_⟩, known ?_⟩
    · intro i handle off on
      rw [next, dark i handle off] at on
      cases on
    · intro fails
      rw [Fails, due] at fails
      cases action <;> first | exact fails.elim | cases plain
    · intro sender handle key central answers
      rw [due] at answers
      cases answers
      cases plain
    · funext i handle
      rw [records, due]
      cases action <;> first | rfl | cases plain

/-- Connections go, and no other changes. -/
theorem Sound.of_calm (known : keyring.Known)
    (calm : Each Calm keyring.link (keyring.link.step step))
    (other : ∀ action, keyring.link.due step = some action → action.keyed = false) :
    keyring.Sound step := by
  refine .of_other other (fun i handle off => ?_) fun same => known.after ?_ ?_
  · rw [encrypted] at off ⊢
    rcases (calm i).held handle with held | gone
    · rw [held, off]
    · rw [gone]
      rfl
  · intro i handle connection found
    rw [same, known.keys]
    rcases (calm i).held handle with held | gone
    · change ((keyring.link.controllers i |>.held handle).bind Connection.pendingLtk).toList = _
      rw [← held, found]
      rfl
    · rw [gone] at found
      cases found
  · exact fun i handle held => .inl ((calm i).authenticated handle held)

theorem Known.key (known : keyring.Known) {i : Nat} {handle : UInt16} {connection : Connection}
    (held : (keyring.link.controllers i).held handle = some connection) :
    keyring.unanswered i handle = connection.pendingLtk.toList := by
  rw [known.keys]
  exact congrArg (fun held => (Option.bind held Connection.pendingLtk).toList) held

theorem Known.last (known : keyring.Known) {i : Nat} {handle : UInt16} {ltk : Ltk}
    (waits : keyring.link.pendingLtk i handle = some ltk) :
    keyring.unanswered i handle = [ltk] := by
  rw [known.keys, waits]
  rfl

/-- Everything but the actions on encryption. -/
theorem sound_other (known : keyring.Known)
    (other : ∀ action, keyring.link.due step = some action → action.keyed = false) :
    keyring.Sound step := by
  cases step with
  | command i command =>
    exact .of_calm known (command_each _ Calm.steady i command (handleCommand_calm i _ command)) other
  | sound i => exact .of_calm known (sound_each Calm.steady i fun _ _ => .of_same rfl) other
  | act =>
    refine .of_calm known ?_ other
    cases queued : keyring.link.actions with
    | nil =>
      rw [Link.step, queued]
      exact .rfl Calm.steady
    | cons action rest =>
      rw [Link.step, queued]
      refine perform_calm { keyring.link with actions := rest } action (other action ?_)
      rw [due, queued]
      rfl
  | connect central peripheral =>
    have joined : Each Joined keyring.link (keyring.link.step (.connect central peripheral)) :=
      establishConnection_each Joined.steady central peripheral
        fun controller _ _ => .joined controller _ rfl rfl rfl
    refine .of_other other (fun i handle off => ?_) fun same => known.after ?_ ?_
    · rw [encrypted] at off ⊢
      rcases (joined i).held handle with held | ⟨-, connection, held, -, dark⟩
      · rw [held, off]
      · rw [held, Option.any_some, dark]
    · intro i handle connection found
      rw [same]
      rcases (joined i).held handle with held | ⟨none, fresh, held, free, -⟩
      · exact known.key (held.symm.trans found)
      · obtain rfl := Option.some.inj (held.symm.trans found)
        rw [free, known.keys]
        exact congrArg (fun held => (Option.bind held Connection.pendingLtk).toList) none
    · exact fun i handle held => .inl ((joined i).authenticated handle held)
  | authenticate ends paired =>
    have marked : Each (fun before after => ∀ handle, (after.held handle).map Connection.keys =
        (before.held handle).map Connection.keys) keyring.link
          (keyring.link.step (.authenticate ends paired)) := by
      refine finishPairing_each ⟨fun _ _ => rfl, fun first second handle =>
        (second handle).trans (first handle)⟩ ends paired fun controller handle => ?_
      rw [SimController.held_changeConnection _ fun _ => by rfl]
      split_ifs
      · rw [Option.map_map]
        rfl
      · rfl
    refine .of_other other (fun i handle off => ?_) fun same => known.after ?_ ?_
    · rw [encrypted_keys] at off ⊢
      rw [marked, off]
    · intro i handle connection found
      have both := marked i handle
      rw [found] at both
      rw [same, known.keys, pendingLtk_keys, ← both]
      rfl
    · exact fun i handle held => finishPairing_authenticated ends paired i handle held

section Act
variable {sender : Nat} {handle : UInt16} {rest : List Action}

variable {action : Action}

theorem due_act (queued : keyring.link.actions = action :: rest) :
    keyring.link.due .act = some action := by
  rw [due, queued]
  rfl

theorem step_act (queued : keyring.link.actions = action :: rest) :
    keyring.link.step .act = ({ keyring.link with actions := rest } : Link).perform action := by
  rw [Link.step, queued]

theorem authenticated_act (queued : keyring.link.actions = action :: rest) (i : Nat)
    (asked : UInt16) (held : ((keyring.link.step .act).controllers i).Authenticated asked) :
    (keyring.link.controllers i).Authenticated asked ∨ Step.act.pairs i asked := by
  rw [step_act queued] at held
  exact .inl (perform_authenticated { keyring.link with actions := rest } action i asked held)

theorem sound_encrypt {on : Bool} (known : keyring.Known) (orderly : keyring.Orderly .act)
    (queued : keyring.link.actions = .encrypt sender handle on :: rest) : keyring.Sound .act := by
  have due := due_act queued
  have unchanged : keyring.records .act = keyring.unanswered := by
    funext i asked
    rw [records, due]
  have answered (answerer : Nat) (asked : UInt16) (key : Option Ltk)
      (answers : keyring.link.due .act = some (.leLtkReply answerer asked key)) : False := by
    rw [due] at answers
    cases answers
  rcases routeSetConnectionEncryption_cases { keyring.link with actions := rest } sender handle on with
    same | ⟨peer, found, paired, marks⟩
  · have still (i : Nat) (asked : UInt16) : ((keyring.link.step .act).controllers i).held asked =
        (keyring.link.controllers i).held asked := by
      rw [step_act queued]
      exact same i asked
    have flags (i : Nat) (asked : UInt16) :
        (keyring.link.step .act).encrypted i asked = keyring.link.encrypted i asked := by
      rw [encrypted, encrypted, still]
    refine ⟨⟨?_, fun _ => flags, ?_⟩, known.after ?_ (authenticated_act queued)⟩
    · intro i asked off raised
      rw [next, flags, off] at raised
      cases raised
    · exact fun answerer asked key _ answers => (answered answerer asked key answers).elim
    · intro i asked connection held
      rw [still] at held
      exact (congrFun (congrFun unchanged i) asked).trans (known.key held)
  · have marked (i : Nat) (asked : UInt16) : ((keyring.link.step .act).controllers i).held asked =
        if (i = sender ∨ i = peer) ∧ asked = handle then
          ((keyring.link.controllers i).held asked).map (Connection.mark on)
        else (keyring.link.controllers i).held asked := by
      rw [step_act queued]
      exact marks i asked
    refine ⟨⟨?_, ?_, ?_⟩, known.after ?_ (authenticated_act queued)⟩
    · intro i asked off raised
      have set := raised
      rw [next, encrypted, marked] at set
      split_ifs at set with ends
      swap
      · rw [encrypted] at off
        rw [off] at set
        cases set
      obtain ⟨own, rfl⟩ := ends
      obtain rfl : on = true := by
        rw [Option.any_map] at set
        obtain ⟨connection, -, set⟩ := Option.any_eq_true _ _ |>.mp set
        exact set
      have trusted := known.paired _ _ (paired rfl)
      rw [Orderly, due] at orderly
      have back := orderly trusted peer found
      have both (j : Nat) (other : Nat) (reached : keyring.link.peerOf j asked = some other)
          (own : j = sender ∨ j = peer) : (keyring.link.step .act).encrypted j asked := by
        obtain ⟨connection, held, -⟩ := Option.map_eq_some_iff.mp reached
        rw [encrypted, marked, if_pos ⟨own, rfl⟩, SimController.held, held]
        rfl
      exact ⟨sender, peer, found, back, own, .inl ⟨due, trusted⟩, both sender peer found (.inl rfl),
        both peer sender back (.inr rfl)⟩
    · intro fails
      rw [Fails, due] at fails
      cases on with
      | false => exact fails.elim
      | true =>
        simp only at fails
        rw [known.paired _ _ (paired rfl)] at fails
        cases fails
    · exact fun answerer asked key _ answers => (answered answerer asked key answers).elim
    · intro i asked connection held
      rw [marked] at held
      rw [unchanged]
      split_ifs at held
      · obtain ⟨earlier, before, rfl⟩ := Option.map_eq_some_iff.mp held
        exact (known.key before).trans rfl
      · exact known.key held

theorem sound_enable {ltk : Ltk} {rand : Octets 8} {ediv : UInt16} (known : keyring.Known)
    (orderly : keyring.Orderly .act) (queued : keyring.link.actions =
      .leEnableEncryption sender handle ltk rand ediv :: rest) : keyring.Sound .act := by
  have due := due_act queued
  rw [Orderly, due] at orderly
  have idle : keyring.unanswered sender handle = [] := orderly
  have marked (peer : Nat) (found : keyring.link.peerOf sender handle = some peer) (i : Nat)
      (asked : UInt16) : ((keyring.link.step .act).controllers i).held asked =
        if i = sender ∧ asked = handle then
          ((keyring.link.controllers i).held asked).map (Connection.park ltk)
        else (keyring.link.controllers i).held asked := by
    rw [step_act queued]
    exact routeLeEnableEncryption_held { keyring.link with actions := rest } sender i handle asked ltk
      rand ediv found
  have absent (none : keyring.link.peerOf sender handle = none) (i : Nat) :
      (keyring.link.step .act).controllers i = keyring.link.controllers i := by
    have reached : ({ keyring.link with actions := rest } : Link).peerOf sender handle =
      Option.none := none
    rw [step_act queued, perform, routeLeEnableEncryption, reached]
  have flags (i : Nat) (asked : UInt16) :
      (keyring.link.step .act).encrypted i asked = keyring.link.encrypted i asked := by
    cases found : keyring.link.peerOf sender handle with
    | none => rw [encrypted, encrypted, absent found]
    | some peer =>
      rw [encrypted, encrypted, marked peer found]
      split_ifs
      · rw [Option.any_map]
        rfl
      · rfl
  refine ⟨⟨?_, fun _ => flags, ?_⟩, known.after ?_ (authenticated_act queued)⟩
  · intro i asked off raised
    rw [next, flags, off] at raised
    cases raised
  · intro answerer asked key central answers
    rw [due] at answers
    cases answers
  · intro i asked connection held
    rw [records, due]
    simp only
    cases found : keyring.link.peerOf sender handle with
    | none =>
      rw [absent found] at held
      rw [if_neg]
      · exact known.key held
      · rintro ⟨rfl, rfl⟩
        change ((keyring.link.controllers sender).held handle).map Connection.peer = none at found
        rw [held] at found
        cases found
    | some peer =>
      rw [marked peer found] at held
      by_cases own : i = sender ∧ asked = handle
      · obtain ⟨rfl, rfl⟩ := own
        rw [if_pos ⟨rfl, rfl⟩] at held
        obtain ⟨earlier, -, rfl⟩ := Option.map_eq_some_iff.mp held
        rw [if_pos ⟨rfl, rfl⟩, idle]
        rfl
      · rw [if_neg own] at held
        rw [if_neg fun both => own ⟨both.1.symm, both.2.symm⟩]
        exact known.key held

/-- An answer to a request that nobody made. -/
theorem sound_stray {key : Option Ltk} (known : keyring.Known)
    (queued : keyring.link.actions = .leLtkReply sender handle key :: rest)
    (stray : ∀ central, keyring.link.peerOf sender handle = some central →
      keyring.link.pendingLtk central handle = none) : keyring.Sound .act := by
  have due := due_act queued
  have still (i : Nat) :
      (keyring.link.step .act).controllers i = keyring.link.controllers i := by
    rw [step_act queued, perform, routeLeLtkReply]
    cases found : keyring.link.peerOf sender handle with
    | none =>
      have reached : ({ keyring.link with actions := rest } : Link).peerOf sender handle = none := found
      rw [reached]
    | some central =>
      have reached : ({ keyring.link with actions := rest } : Link).peerOf sender handle =
        some central := found
      have none : ({ keyring.link with actions := rest } : Link).pendingLtk central handle =
        Option.none := stray central found
      rw [reached]
      simp only
      rw [none]
  have idle (central : Nat) (found : keyring.link.peerOf sender handle = some central) :
      keyring.unanswered central handle = [] := by
    rw [known.keys, stray central found]
    rfl
  have flags (i : Nat) (asked : UInt16) :
      (keyring.link.step .act).encrypted i asked = keyring.link.encrypted i asked := by
    rw [encrypted, encrypted, still]
  refine ⟨⟨?_, fun _ => flags, ?_⟩, known.after ?_ (authenticated_act queued)⟩
  · intro i asked off raised
    rw [next, flags, off] at raised
    cases raised
  · intro answerer asked answer central answers found waits
    rw [due] at answers
    cases answers
    exact absurd (idle central found) waits
  · intro i asked connection held
    have same : keyring.records .act i asked = keyring.unanswered i asked := by
      rw [records, due]
      simp only
      split_ifs with answered
      · obtain ⟨rfl, found⟩ := answered
        rw [idle i found]
        rfl
      · rfl
    rw [still] at held
    exact same.trans (known.key held)

theorem sound_reply {key : Option Ltk} {central : Nat} {expected : Ltk} (known : keyring.Known)
    (orderly : keyring.Orderly .act)
    (queued : keyring.link.actions = .leLtkReply sender handle key :: rest)
    (found : keyring.link.peerOf sender handle = some central)
    (waits : keyring.link.pendingLtk central handle = some expected) : keyring.Sound .act := by
  have due := due_act queued
  have last := known.last waits
  rw [Orderly, due] at orderly
  obtain ⟨apart, back⟩ := orderly central found (by rw [last]; exact nofun)
  have marked (i : Nat) (asked : UInt16) : ((keyring.link.step .act).controllers i).held asked =
      let taken := if i = central ∧ asked = handle then
          ((keyring.link.controllers i).held asked).map (Connection.park none)
        else (keyring.link.controllers i).held asked
      if key = some expected ∧ (i = central ∨ i = sender) ∧ asked = handle then
        taken.map (Connection.mark true)
      else taken := by
    rw [step_act queued]
    exact routeLeLtkReply_held { keyring.link with actions := rest } i asked key found waits
  have flags (i : Nat) (asked : UInt16) : (keyring.link.step .act).encrypted i asked =
      if key = some expected ∧ (i = central ∨ i = sender) ∧ asked = handle then
        ((keyring.link.controllers i).held asked).isSome
      else keyring.link.encrypted i asked := by
    rw [encrypted, encrypted, marked]
    cases (keyring.link.controllers i).held asked with
    | none => split_ifs <;> rfl
    | some connection => split_ifs <;> rfl
  refine ⟨⟨?_, ?_, ?_⟩, known.after ?_ (authenticated_act queued)⟩
  · intro i asked off raised
    have set := raised
    rw [next, flags] at set
    split_ifs at set with granted
    swap
    · rw [off] at set
      cases set
    obtain ⟨rfl, own, rfl⟩ := granted
    have both (j : Nat) (other : Nat) (reached : keyring.link.peerOf j asked = some other)
        (own : j = central ∨ j = sender) : (keyring.link.step .act).encrypted j asked := by
      obtain ⟨connection, held, -⟩ := Option.map_eq_some_iff.mp reached
      rw [flags, if_pos ⟨rfl, own, rfl⟩, SimController.held, held]
      rfl
    refine ⟨central, sender, back, found, own, .inr ⟨expected, due, ?_⟩, both central sender back
      (.inl rfl), both sender central found (.inr rfl)⟩
    rw [last]
    rfl
  · intro fails i asked
    rw [Fails, due] at fails
    rw [next, flags, if_neg]
    rintro ⟨same, -⟩
    apply fails central expected found same
    rw [last]
    rfl
  · intro answerer asked answer other answers reached _
    rw [due] at answers
    cases answers
    obtain rfl := Option.some.inj (found.symm.trans reached)
    rw [next, step_act queued]
    exact routeLeLtkReply_changes { keyring.link with actions := rest } key found waits apart
  · intro i asked connection held
    rw [records, due]
    simp only
    rw [marked] at held
    by_cases own : i = central ∧ asked = handle
    · obtain ⟨rfl, rfl⟩ := own
      rw [if_pos ⟨rfl, found⟩, last]
      have free : connection.pendingLtk = none := by
        rw [if_pos (show i = i ∧ asked = asked from ⟨rfl, rfl⟩)] at held
        split_ifs at held
        · obtain ⟨taken, inside, rfl⟩ := Option.map_eq_some_iff.mp held
          obtain ⟨earlier, -, rfl⟩ := Option.map_eq_some_iff.mp inside
          rfl
        · obtain ⟨earlier, -, rfl⟩ := Option.map_eq_some_iff.mp held
          rfl
      rw [free]
      rfl
    · rw [if_neg own] at held
      rw [if_neg]
      · split_ifs at held
        · obtain ⟨earlier, before, rfl⟩ := Option.map_eq_some_iff.mp held
          exact (known.key before).trans rfl
        · exact known.key held
      · rintro ⟨rfl, reached⟩
        exact own ⟨(Option.some.inj (found.symm.trans reached)).symm, rfl⟩

end Act

theorem sound_step (known : keyring.Known) (orderly : keyring.Orderly step) :
    keyring.Sound step := by
  by_cases keyed : ∃ action, keyring.link.due step = some action ∧ action.keyed
  swap
  · push Not at keyed
    exact sound_other known fun action due => Bool.eq_false_iff.mpr (keyed action due)
  obtain ⟨action, due, keyed⟩ := keyed
  cases step with
  | act =>
    obtain ⟨rest, queued⟩ := List.head?_eq_some_iff.mp due
    cases action with
    | encrypt sender handle on => exact sound_encrypt known orderly queued
    | leEnableEncryption sender handle ltk rand ediv => exact sound_enable known orderly queued
    | leLtkReply sender handle key =>
      by_cases stray : ∀ central, keyring.link.peerOf sender handle = some central →
          keyring.link.pendingLtk central handle = none
      · exact sound_stray known queued stray
      · push Not at stray
        obtain ⟨central, found, held⟩ := stray
        obtain ⟨expected, waits⟩ := Option.ne_none_iff_exists'.mp held
        exact sound_reply known orderly queued found waits
    | _ => cases keyed
  | _ => cases due

/-! ## Who is told -/

theorem silent_step (known : keyring.Known) {i : Nat} {handle : UInt16}
    (silent : ¬ keyring.Tells step i handle) :
    ((keyring.link.step step).controllers i).changes handle =
      (keyring.link.controllers i).changes handle := by
  let Same (before after : SimController) : Prop := after.changes handle = before.changes handle
  have steady : Steady Same := ⟨fun _ => rfl, fun first second => second.trans first⟩
  have pushes (controller : SimController) {event : Event} (other : event.changes handle = false) :
      Same controller (controller.push event) := controller.changes_push other
  cases step with
  | command j command =>
    refine command_each keyring.link steady j command ?_ i
    exact SimController.changes_handleCommand _ handle j command
  | connect central peripheral =>
    exact establishConnection_each steady central peripheral
      (fun controller _ _ => pushes { controller with connections := _ } rfl) i
  | authenticate ends paired => exact finishPairing_each steady ends paired (fun _ => rfl) i
  | sound j =>
    exact sound_each steady j (fun controller _ => pushes { controller with cs := _ } rfl) i
  | act =>
    cases queued : keyring.link.actions with
    | nil => rw [Link.step, queued]
    | cons action rest =>
      rw [Keyring.Tells, due_act queued] at silent
      rw [step_act queued]
      have others (apart : ∀ sender key on, action ≠ .encrypt sender handle on ∧
          action ≠ .leLtkReply sender handle key) :
          Each Same keyring.link (({ keyring.link with actions := rest } : Link).perform action) := by
        refine perform_each steady action fun controller after edits => ?_
        cases edits with
        | tells tells =>
          apply pushes controller
          cases tells with
          | encrypt => exact decide_eq_false fun same => (apart _ none _).1 (congrArg (Action.encrypt _ · _) same)
          | leLtkReply =>
            exact decide_eq_false fun same =>
              (apart _ _ true).2 (congrArg (Action.leLtkReply _ · _) same)
          | _ => rfl
        | _ => rfl
      cases action with
      | encrypt sender asked on =>
        by_cases same : asked = handle
        · subst same
          simp only [true_and, not_or] at silent
          exact congrArg (SimController.changes · asked) <|
            routeSetConnectionEncryption_others { keyring.link with actions := rest } sender i asked on
              silent.1 silent.2
        · exact others (fun _ _ _ => ⟨fun both => same (by cases both; rfl), nofun⟩) i
      | leLtkReply sender asked key =>
        by_cases same : asked = handle
        · subst same
          refine congrArg (SimController.changes · asked) <|
            routeLeLtkReply_others { keyring.link with actions := rest } i key fun central found waits => ?_
          have unanswered : keyring.unanswered central asked ≠ [] := by
            rw [known.keys]
            exact fun none => waits (Option.toList_eq_nil_iff.mp none)
          exact not_or.mp fun own => silent ⟨rfl, central, found, unanswered, own⟩
        · exact others (fun _ _ _ => ⟨nofun, fun both => same (by cases both; rfl)⟩) i
      | _ => exact others (fun _ _ _ => ⟨nofun, nofun⟩) i

theorem known_new (addresses : Nat → Address) : (Keyring.new addresses).Known where
  keys _ _ := rfl
  paired _ _ held := nomatch held.choose_spec.1

end Keyring

/-- Along every run in which no host asks again before it is answered, and a connection is
encrypted only while both ends hold it, connections are encrypted at both ends by a paired
end or a shared key, and every answer gives the host that asked one Encryption Change, where
nothing but an answer and Set Connection Encryption gives any. -/
theorem encryption_needs_keys (addresses : Nat → Address) (steps : List Step)
    (orderly : Along Keyring.next Keyring.Orderly (.new addresses) steps) :
    Along Keyring.next Keyring.Encrypts (.new addresses) steps :=
  Along.mono (fun _ _ known orderly => ⟨(Keyring.sound_step known orderly).grounded,
      fun _ _ => Keyring.silent_step known⟩)
    (fun _ _ known orderly => (Keyring.sound_step known orderly).known)
    (Keyring.known_new addresses) orderly

/-- A key that both hosts have. -/
def shared : List Step :=
  [.connect 0 1, .command 0 (.leEnableEncryption 1 Octets.zero 0 Octets.zero), .act,
    .command 1 (.leLtkRequestReply 1 (some Octets.zero)), .act]

theorem encryption_needs_keys_shared :
    Along Keyring.next Keyring.Encrypts (.new Link.numbered) shared := by
  refine encryption_needs_keys Link.numbered shared ⟨trivial, trivial, rfl, trivial, ?_, trivial⟩
  intro central found _
  obtain rfl : 0 = central := Option.some.inj found
  exact ⟨by decide, rfl⟩

/-- A host that asks twice, and is answered twice. -/
def repeated : List Step :=
  [.connect 0 1, .command 0 (.leEnableEncryption 1 Octets.zero 0 Octets.zero),
    .command 0 (.leEnableEncryption 1 Octets.zero 0 Octets.zero), .act, .act,
    .command 1 (.leLtkRequestReply 1 (some Octets.zero)),
    .command 1 (.leLtkRequestReply 1 (some Octets.zero)), .act, .act]

/-- A paired host asks for encryption after its peer's Reset. -/
def halved : List Step :=
  [.connect 0 1, .authenticate (0, 1) 1, .command 1 .reset,
    .command 0 (.setConnectionEncryption 1 true), .act]

/-- The second answer goes unheard, and the host that asked twice is told once; and after a
Reset only one end is encrypted. -/
theorem encryption_at_one_end :
    (¬ Along Keyring.next Keyring.Encrypts (.new Link.numbered) repeated ∧
      ((repeated.foldl Keyring.next (.new Link.numbered)).link.controllers 0).outbox =
        [.connectionComplete 1 (Link.numbered 1), .commandStatus success, .commandStatus success,
          .encryptionChange success 1 true]) ∧
    ¬ Along Keyring.next Keyring.Encrypts (.new Link.numbered) halved ∧
      (halved.foldl Keyring.next (.new Link.numbered)).link.encrypted 0 1 = true ∧
      (halved.foldl Keyring.next (.new Link.numbered)).link.encrypted 1 1 = false := by
  refine ⟨⟨?_, by decide⟩, ?_, by decide, by decide⟩
  · rintro ⟨-, -, -, -, -, -, -, -, last, -⟩
    obtain ⟨status, enabled, told⟩ := last.answered 1 1 (some Octets.zero) 0 rfl rfl nofun
    have same := congrArg List.length told
    rw [List.length_append, List.length_singleton] at same
    exact absurd same (by decide)
  · rintro ⟨-, -, -, -, last, -⟩
    obtain ⟨asker, answerer, out, back, own, -⟩ := last.raised 0 1 rfl (by decide)
    rcases own with rfl | rfl
    · obtain rfl : 1 = answerer := Option.some.inj out
      cases back
    · obtain rfl : 1 = asker := Option.some.inj back
      cases out

end Simble.Sim
