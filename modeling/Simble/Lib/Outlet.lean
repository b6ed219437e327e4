import Mathlib.Data.List.Basic

/-! An outlet that sends items in pieces: through one queue, from which pieces are released in
order, or past it, at once. Each item belongs to one lane of one link. What is sent and queued for
a link is a sequence of whole items, in order lane by lane, as long as what passes the queue finds
no item half sent on its link, and none of its own lane behind it. -/
namespace Simble.Lib
open List

variable {ι π κ l : Type}

structure Cutting (ι π κ l : Type) where
  pieces : ι → List π
  link : ι → κ
  lane : ι → l
  /-- The link that a piece is sent on, if it is a piece of an item. -/
  on : π → Option κ
  first : π → Option l
  fits : ι → Prop
  told : ∀ item, fits item → ∃ head tail, pieces item = head :: tail ∧
    first head = some (lane item) ∧ (∀ piece ∈ tail, first piece = none) ∧
      ∀ piece ∈ pieces item, on piece = some (link item)

open Cutting

namespace Cutting
variable {cutting : Cutting ι π κ l}

theorem split_whole {items : List ι} (fit : ∀ item ∈ items, cutting.fits item)
    {before after : List π} (same : before ++ after = items.flatMap cutting.pieces)
    (starts : ∀ piece, after.head? = some piece → cutting.first piece ≠ none) :
    ∃ gone left, items = gone ++ left ∧ before = gone.flatMap cutting.pieces ∧
      after = left.flatMap cutting.pieces := by
  induction items generalizing before with
  | nil =>
    obtain ⟨rfl, rfl⟩ := append_eq_nil_iff.mp same
    exact ⟨[], [], rfl, rfl, rfl⟩
  | cons item rest ih =>
    rcases before with _ | ⟨piece, before⟩
    · exact ⟨[], item :: rest, rfl, rfl, same⟩
    obtain ⟨head, tail, cut, -, continuing, -⟩ := cutting.told item (fit item (.head _))
    rw [flatMap_cons, cut, cons_append, cons_append] at same
    obtain ⟨rfl, tails⟩ := cons_eq_cons.mp same
    rcases append_eq_append_iff.mp tails with ⟨through, tailed, rested⟩ | ⟨beyond, passed, rested⟩
    · -- The rest of the item's pieces would start what comes next.
      rcases through with _ | ⟨next, through⟩
      · rw [append_nil] at tailed
        rw [nil_append] at rested
        exact ⟨[item], rest, rfl, by simp [cut, tailed], rested⟩
      · refine absurd (continuing next ?_) (starts next ?_)
        · rw [tailed]
          simp
        · rw [rested]
          rfl
    · obtain ⟨gone, left, rfl, before, after⟩ := ih
        (fun other member => fit other (.tail _ member)) rested.symm
      refine ⟨item :: gone, left, rfl, ?_, after⟩
      rw [flatMap_cons, cut, ← before, passed]
      rfl

theorem first_mem {items : List ι} (fit : ∀ item ∈ items, cutting.fits item) {item : ι}
    (member : item ∈ items) : ∃ piece ∈ items.flatMap cutting.pieces,
      cutting.first piece = some (cutting.lane item) := by
  obtain ⟨head, tail, cut, named, -, -⟩ := cutting.told item (fit item member)
  refine ⟨head, mem_flatMap.mpr ⟨item, member, ?_⟩, named⟩
  rw [cut]
  exact .head _

/-! ## Links and lanes -/

section Links
variable [DecidableEq κ] (cutting)

def onLink (link : κ) (packets : List π) : List π :=
  packets.filter fun piece => cutting.on piece = some link

def forLink (link : κ) (items : List ι) : List ι := items.filter fun item => cutting.link item = link

theorem onLink_append (link : κ) (before after : List π) :
    cutting.onLink link (before ++ after) = cutting.onLink link before ++ cutting.onLink link after :=
  filter_append ..

variable {cutting}

variable {item : ι}

theorem onLink_own (fit : cutting.fits item) :
    cutting.onLink (cutting.link item) (cutting.pieces item) = cutting.pieces item := by
  obtain ⟨_, _, -, -, -, sent⟩ := cutting.told item fit
  exact filter_eq_self.mpr fun piece member => decide_eq_true (sent piece member)

theorem onLink_other (fit : cutting.fits item) {link : κ} (other : cutting.link item ≠ link) :
    cutting.onLink link (cutting.pieces item) = [] := by
  obtain ⟨_, _, -, -, -, sent⟩ := cutting.told item fit
  refine filter_eq_nil_iff.mpr fun piece member same => other ?_
  exact Option.some.inj ((sent piece member).symm.trans (of_decide_eq_true same))

theorem forLink_other {link : κ} (other : cutting.link item ≠ link) (items : List ι) :
    cutting.forLink link (items ++ [item]) = cutting.forLink link items := by
  simp [forLink, other]

theorem forLink_own (item : ι) (items : List ι) :
    cutting.forLink (cutting.link item) (items ++ [item]) =
      cutting.forLink (cutting.link item) items ++ [item] := by
  simp [forLink]

end Links

section Lanes
variable [DecidableEq l] (cutting)

def inLane (lane : l) (items : List ι) : List ι := items.filter fun item => cutting.lane item = lane

theorem inLane_append (lane : l) (before after : List ι) :
    cutting.inLane lane (before ++ after) =
      cutting.inLane lane before ++ cutting.inLane lane after := filter_append ..

end Lanes
end Cutting

/-! ## The outlet -/

structure Outlet (ι π : Type) where
  sent : List π
  queued : List π
  /-- The items in the order of their production. -/
  produced : List ι

inductive Outlet.Action (ι π : Type) where
  | queue (item : ι)
  | urgent (item : ι)
  | release (count : Nat)
  /-- Sends something that is no piece of an item. -/
  | aside (piece : π)
deriving DecidableEq

/-- What an action produces. -/
def Outlet.Action.items : Action ι π → List ι
  | .queue item | .urgent item => [item]
  | _ => []

namespace Outlet
variable [DecidableEq κ] [DecidableEq l] (cutting : Cutting ι π κ l)

def perform (outlet : Outlet ι π) : Action ι π → Outlet ι π
  | .queue item => { outlet with
      queued := outlet.queued ++ cutting.pieces item
      produced := outlet.produced ++ [item] }
  | .urgent item => { outlet with
      sent := outlet.sent ++ cutting.pieces item
      produced := outlet.produced ++ [item] }
  | .release count => { outlet with
      sent := outlet.sent ++ outlet.queued.take count
      queued := outlet.queued.drop count }
  | .aside piece => { outlet with sent := outlet.sent ++ [piece] }

def run (outlet : Outlet ι π) (actions : List (Action ι π)) : Outlet ι π :=
  actions.foldl (perform cutting) outlet

/-- An item may pass a queue that does not go on with an item on its link, and
has none of its lane. -/
def Passes (queued : List π) (item : ι) : Prop :=
  (∀ piece, (cutting.onLink (cutting.link item) queued).head? = some piece →
    cutting.first piece ≠ none) ∧
  ∀ piece ∈ cutting.onLink (cutting.link item) queued,
    cutting.first piece ≠ some (cutting.lane item)

def Allowed (outlet : Outlet ι π) : Action ι π → Prop
  | .queue item => cutting.fits item
  | .urgent item => cutting.fits item ∧ Passes cutting outlet.queued item
  | _ => True

def AllAllowed (outlet : Outlet ι π) : List (Action ι π) → Prop
  | [] => True
  | action :: rest => Allowed cutting outlet action ∧ AllAllowed (perform cutting outlet action) rest

/-- What is sent and queued is made of whole items, each lane as it was produced. -/
def Whole (outlet : Outlet ι π) : Prop :=
  ∀ link, ∃ items : List ι, (∀ item ∈ items, cutting.fits item ∧ cutting.link item = link) ∧
    cutting.onLink link (outlet.sent ++ outlet.queued) = items.flatMap cutting.pieces ∧
    ∀ lane, cutting.inLane lane items = cutting.inLane lane (cutting.forLink link outlet.produced)

variable {cutting}

theorem Whole.empty : Whole cutting ⟨[], [], []⟩ := fun _ => ⟨[], nofun, rfl, fun _ => rfl⟩

theorem Whole.perform {outlet : Outlet ι π} (whole : Whole cutting outlet) {action : Action ι π}
    (allowed : Allowed cutting outlet action)
    (apart : ∀ piece, action = .aside piece → cutting.on piece = none) :
    Whole cutting (outlet.perform cutting action) := by
  intro link
  obtain ⟨items, fitting, same, lanes⟩ := whole link
  cases action with
  | release count =>
    refine ⟨items, fitting, ?_, lanes⟩
    have unchanged : (outlet.sent ++ outlet.queued.take count) ++ outlet.queued.drop count =
        outlet.sent ++ outlet.queued := by
      rw [append_assoc, take_append_drop]
    exact (congrArg (cutting.onLink link) unchanged).trans same
  | aside piece =>
    refine ⟨items, fitting, ?_, lanes⟩
    have silent : cutting.onLink link [piece] = [] := by
      refine filter_eq_nil_iff.mpr fun other member same => ?_
      rw [mem_singleton.mp member, apart piece rfl] at same
      exact absurd same (by simp)
    simp only [Outlet.perform]
    rw [onLink_append, onLink_append, silent, append_nil,
      ← onLink_append, same]
  | queue item =>
    by_cases own : cutting.link item = link
    · subst own
      refine ⟨items ++ [item], ?_, ?_, fun lane => ?_⟩
      · intro other member
        rcases mem_append.mp member with earlier | last
        · exact fitting other earlier
        · rw [mem_singleton.mp last]
          exact ⟨allowed, rfl⟩
      · simp only [Outlet.perform]
        rw [← append_assoc, onLink_append, same, onLink_own allowed]
        simp
      · simp only [Outlet.perform]
        rw [forLink_own, inLane_append, inLane_append, lanes]
    · refine ⟨items, fitting, ?_, fun lane => ?_⟩
      · simp only [Outlet.perform]
        rw [← append_assoc, onLink_append, same, onLink_other allowed own,
          append_nil]
      · simp only [Outlet.perform]
        rw [forLink_other own, lanes]
  | urgent item =>
    obtain ⟨fit, unbroken, alone⟩ := allowed
    by_cases own : cutting.link item = link
    · subst own
      rw [onLink_append] at same
      obtain ⟨gone, left, rfl, before, after⟩ :=
        split_whole (fun item member => (fitting item member).1) same unbroken
      refine ⟨gone ++ [item] ++ left, ?_, ?_, fun lane => ?_⟩
      · intro other member
        rcases mem_append.mp member with earlier | later
        · rcases mem_append.mp earlier with first | last
          · exact fitting other (mem_append_left _ first)
          · rw [mem_singleton.mp last]
            exact ⟨fit, rfl⟩
        · exact fitting other (mem_append_right _ later)
      · simp only [Outlet.perform]
        rw [onLink_append, onLink_append, before, after, onLink_own fit]
        simp
      · simp only [Outlet.perform]
        rw [forLink_own, inLane_append, inLane_append, inLane_append, ← lanes, inLane_append]
        by_cases mine : cutting.lane item = lane
        · -- Nothing of its lane is behind it.
          have behind : cutting.inLane lane left = [] := by
            refine filter_eq_nil_iff.mpr fun other member same => ?_
            obtain ⟨piece, found, named⟩ := first_mem
              (fun item member => (fitting item (mem_append_right _ member)).1) member
            rw [← after] at found
            apply alone piece found
            rw [named, of_decide_eq_true same, mine]
          rw [behind, append_nil, append_nil]
        · have absent : cutting.inLane lane [item] = [] := by
            simp [inLane, mine]
          rw [absent, append_nil, append_nil]
    · refine ⟨items, fitting, ?_, fun lane => ?_⟩
      · simp only [Outlet.perform]
        rw [onLink_append, onLink_append, onLink_other fit own, append_nil,
          ← onLink_append, same]
      · simp only [Outlet.perform]
        rw [forLink_other own, lanes]

theorem Whole.run {actions : List (Action ι π)} {outlet : Outlet ι π}
    (whole : Whole cutting outlet) (allowed : AllAllowed cutting outlet actions)
    (apart : ∀ piece, .aside piece ∈ actions → cutting.on piece = none) :
    Whole cutting (outlet.run cutting actions) := by
  induction actions generalizing outlet with
  | nil => exact whole
  | cons action rest ih =>
    refine ih (whole.perform allowed.1 fun piece same => apart piece ?_) allowed.2
      fun piece member => apart piece (.tail _ member)
    rw [same]
    exact .head _

/-! ## Lists of actions -/

variable (cutting)

omit [DecidableEq κ] [DecidableEq l] in
theorem run_append (outlet : Outlet ι π) (before after : List (Action ι π)) :
    outlet.run cutting (before ++ after) = (outlet.run cutting before).run cutting after :=
  foldl_append

omit [DecidableEq κ] [DecidableEq l] in
theorem run_produced (actions : List (Action ι π)) (outlet : Outlet ι π) :
    (outlet.run cutting actions).produced = outlet.produced ++ actions.flatMap Action.items := by
  induction actions generalizing outlet with
  | nil => exact (append_nil _).symm
  | cons action rest ih =>
    have first : (outlet.perform cutting action).produced = outlet.produced ++ action.items := by
      cases action with
      | queue | urgent => rfl
      | release | aside => exact (append_nil _).symm
    rw [flatMap_cons, ← append_assoc, ← first]
    exact ih _

omit [DecidableEq κ] [DecidableEq l] in
theorem run_queue (items : List ι) (outlet : Outlet ι π) :
    (outlet.run cutting (items.map .queue)).sent = outlet.sent ∧
      (outlet.run cutting (items.map .queue)).queued =
        outlet.queued ++ items.flatMap cutting.pieces := by
  induction items generalizing outlet with
  | nil => exact ⟨rfl, (append_nil _).symm⟩
  | cons item rest ih =>
    obtain ⟨sent, queued⟩ := ih (outlet.perform cutting (.queue item))
    refine ⟨sent, queued.trans ?_⟩
    rw [flatMap_cons, ← append_assoc]
    rfl

omit [DecidableEq κ] [DecidableEq l] in
theorem run_urgent (items : List ι) (outlet : Outlet ι π) :
    (outlet.run cutting (items.map .urgent)).queued = outlet.queued ∧
      (outlet.run cutting (items.map .urgent)).sent =
        outlet.sent ++ items.flatMap cutting.pieces := by
  induction items generalizing outlet with
  | nil => exact ⟨rfl, (append_nil _).symm⟩
  | cons item rest ih =>
    obtain ⟨queued, sent⟩ := ih (outlet.perform cutting (.urgent item))
    refine ⟨queued, sent.trans ?_⟩
    rw [flatMap_cons, ← append_assoc]
    rfl

omit [DecidableEq κ] [DecidableEq l] in
theorem run_aside (pieces : List π) (outlet : Outlet ι π) :
    (outlet.run cutting (pieces.map .aside)).queued = outlet.queued ∧
      (outlet.run cutting (pieces.map .aside)).sent = outlet.sent ++ pieces := by
  induction pieces generalizing outlet with
  | nil => exact ⟨rfl, (append_nil _).symm⟩
  | cons piece rest ih =>
    obtain ⟨queued, sent⟩ := ih (outlet.perform cutting (.aside piece))
    refine ⟨queued, sent.trans ?_⟩
    exact append_assoc outlet.sent [piece] rest

end Outlet
end Simble.Lib
