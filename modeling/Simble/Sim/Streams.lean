import Simble.Lib.Along
import Simble.Sim.Edits

/-! Isochronous streams on the simulated medium: whose consent one needs, and what its creator
hears. Both ends keep a stream in the same shape, so what each may do with it is followed through
the stages of its handshake. -/
namespace Simble.Sim
open Simble.Lib

def Event.stream : Event → Option UInt16
  | .leCisRequest _ cisHandle | .leCisEstablished _ cisHandle => some cisHandle
  | _ => none

def Action.stream : Action → Option UInt16
  | .cisRequest _ _ cisHandle | .cisAccept _ cisHandle => some cisHandle
  | _ => none

def SimController.toldOf (controller : SimController) (cisHandle : UInt16) : List Event :=
  controller.outbox.filter fun event => event.stream = some cisHandle

def SimController.streams (controller : SimController) (cisHandle : UInt16) : List CisLink :=
  controller.cisLinks.filter fun cis => cis.cisHandle = cisHandle

def Link.waiting (link : Link) (cisHandle : UInt16) : List Action :=
  link.actions.filter fun action => action.stream = some cisHandle

def established (cisHandle : UInt16) : Event := .leCisEstablished success cisHandle

/-- A stream that was created. -/
structure Creation where
  creator : Nat
  cisHandle : UInt16
  aclHandle : UInt16
deriving DecidableEq

/-- The link with the streams that were created and accepted, each with the host that did,
as far as its command was answered with Command Status success. -/
structure Tracked where
  link : Link
  created : List Creation := []
  accepted : List (Nat × UInt16) := []

namespace Link
variable (link : Link)

def creates : Step → List Creation
  | .command i (.leCreateCis streams) =>
    if ((link.controllers i).handleCommand i (.leCreateCis streams)).2 = [] then []
    else streams.map fun stream => ⟨i, stream.1, stream.2⟩
  | _ => []

def accepts : Step → List (Nat × UInt16)
  | .command i (.leAcceptCisRequest cisHandle) =>
    if ((link.controllers i).handleCommand i (.leAcceptCisRequest cisHandle)).2 = [] then []
    else [(i, cisHandle)]
  | _ => []

/-- No stream on a connection of a controller waits for consent, at it or at its peer. -/
def Settled (i : Nat) (handle : UInt16) : Prop :=
  (∀ cis ∈ (link.controllers i).cisLinks, cis.aclHandle = handle → cis.established) ∧
    ∀ peer, link.peerOf i handle = some peer → ∀ cis ∈ (link.controllers peer).cisLinks,
      cis.aclHandle = handle → cis.established

end Link

namespace Tracked
variable (tracked : Tracked)

def next (step : Step) : Tracked where
  link := tracked.link.step step
  created := tracked.created ++ tracked.link.creates step
  accepted := tracked.accepted ++ tracked.link.accepts step

def new (addresses : Nat → Address) : Tracked := { link := .new addresses }

def Distinct (step : Step) : Prop :=
  ((tracked.link.creates step).map Creation.cisHandle).Nodup ∧
    ∀ creation ∈ tracked.link.creates step, ∀ earlier ∈ tracked.created,
      earlier.cisHandle ≠ creation.cisHandle

/-- The condition on a step: a stream is created on a connection that its peer has too, is
accepted only by a host that did not create it, and once, and no Disconnect or Reset takes a
connection while a stream on it waits. -/
def Consents : Step → Prop
  | .command i .reset => (∀ cis ∈ (tracked.link.controllers i).cisLinks, cis.established) ∧
      ∀ handle peer, tracked.link.peerOf i handle = some peer → tracked.link.Settled i handle
  | .command i (.leCreateCis streams) => ∀ stream ∈ streams, ∀ peer,
      tracked.link.peerOf i stream.2 = some peer → tracked.link.peerOf peer stream.2 = some i
  | .command i (.leAcceptCisRequest cisHandle) =>
    (∀ creation ∈ tracked.created, creation.cisHandle = cisHandle → creation.creator ≠ i) ∧
      (i, cisHandle) ∉ tracked.accepted
  | .act =>
    match tracked.link.actions.head? with
    | some (.disconnect sender handle) => tracked.link.scoPeerOf sender handle = none →
        ∀ peer, tracked.link.peerOf sender handle = some peer →
          tracked.link.Settled sender handle ∧ tracked.link.Settled peer handle
    | _ => True
  | _ => True

/-- What a run keeps to. -/
structure Agreed : Prop where
  /-- A stream is established, and said to be, with the consent of the host that was asked,
  which is not the one that created it, and once at each end. -/
  consent : ∀ i cisHandle, established cisHandle ∈ (tracked.link.controllers i).outbox ∨
      (∃ cis ∈ (tracked.link.controllers i).cisLinks, cis.cisHandle = cisHandle ∧ cis.established) →
    ∃ creation ∈ tracked.created, creation.cisHandle = cisHandle ∧
      ∃ acceptor, acceptor ≠ creation.creator ∧ (acceptor, cisHandle) ∈ tracked.accepted ∧
        .leCisRequest creation.aclHandle cisHandle ∈
          (tracked.link.controllers acceptor).outbox ∧
        ∀ j, (tracked.link.controllers j).outbox.count (established cisHandle) =
          if j = creation.creator ∨ j = acceptor then 1 else 0
  kept : ∀ creation ∈ tracked.created,
    established creation.cisHandle ∈ (tracked.link.controllers creation.creator).outbox ∨
      ∃ peer, tracked.link.peerOf creation.creator creation.aclHandle = some peer ∧
        tracked.link.peerOf peer creation.aclHandle = some creation.creator

/-! ## Stages of a stream -/

/-- Nobody has asked for the stream. -/
structure Untouched (cisHandle : UInt16) : Prop where
  told : ∀ i, (tracked.link.controllers i).toldOf cisHandle = []
  waiting : tracked.link.waiting cisHandle = []
  streams : ∀ i, (tracked.link.controllers i).streams cisHandle = []
  accepted : ∀ i, (i, cisHandle) ∉ tracked.accepted

variable (creation : Creation)

def Creation.opened (creation : Creation) : CisLink :=
  ⟨creation.cisHandle, creation.aclHandle, false⟩

structure Asked : Prop where
  told : ∀ i, (tracked.link.controllers i).toldOf creation.cisHandle = []
  waiting : tracked.link.waiting creation.cisHandle =
    [.cisRequest creation.creator creation.aclHandle creation.cisHandle]
  streams : ∀ i, (tracked.link.controllers i).streams creation.cisHandle =
    if i = creation.creator then [Creation.opened creation] else []
  accepted : ∀ i, (i, creation.cisHandle) ∉ tracked.accepted
  peers : ∃ peer, tracked.link.peerOf creation.creator creation.aclHandle = some peer ∧
    tracked.link.peerOf peer creation.aclHandle = some creation.creator

/-- The host at the other end was asked, and may have accepted. -/
structure Heard (acceptor : Nat) : Prop where
  told : ∀ i, (tracked.link.controllers i).toldOf creation.cisHandle =
    if i = acceptor then [.leCisRequest creation.aclHandle creation.cisHandle] else []
  waiting : tracked.link.waiting creation.cisHandle =
    if (acceptor, creation.cisHandle) ∈ tracked.accepted then
      [.cisAccept acceptor creation.cisHandle] else []
  streams : ∀ i, (tracked.link.controllers i).streams creation.cisHandle =
    (if i = creation.creator then [Creation.opened creation] else []) ++
      if i = acceptor then [Creation.opened creation] else []
  accepted : ∀ i, (i, creation.cisHandle) ∈ tracked.accepted →
    i = acceptor ∧ i ≠ creation.creator
  peers : tracked.link.peerOf creation.creator creation.aclHandle = some acceptor ∧
    tracked.link.peerOf acceptor creation.aclHandle = some creation.creator

/-- The stream was established. -/
structure Done (acceptor : Nat) : Prop where
  apart : acceptor ≠ creation.creator
  told : ∀ i, (tracked.link.controllers i).toldOf creation.cisHandle =
    (if i = acceptor then [.leCisRequest creation.aclHandle creation.cisHandle] else []) ++
      if i = creation.creator ∨ i = acceptor then [established creation.cisHandle] else []
  waiting : tracked.link.waiting creation.cisHandle = []
  streams : ∀ i, ∀ cis ∈ (tracked.link.controllers i).streams creation.cisHandle,
    i = creation.creator ∨ i = acceptor
  accepted : (acceptor, creation.cisHandle) ∈ tracked.accepted

structure Stands (cisHandle : UInt16) : Prop where
  untouched : (∀ creation ∈ tracked.created, creation.cisHandle ≠ cisHandle) →
    tracked.Untouched cisHandle
  stage : ∀ creation ∈ tracked.created, creation.cisHandle = cisHandle →
    tracked.Asked creation ∨ (∃ acceptor, tracked.Heard creation acceptor) ∨
      ∃ acceptor, tracked.Done creation acceptor

/-! ## What leaves a stream alone -/

/-- A step that is about other streams, and on no connection that this one waits on. -/
structure Frame (cisHandle : UInt16) (before after : Tracked) : Prop where
  told : ∀ i, (after.link.controllers i).toldOf cisHandle =
    (before.link.controllers i).toldOf cisHandle
  waiting : after.link.waiting cisHandle = before.link.waiting cisHandle
  fewer : ∀ i, ∀ cis ∈ (after.link.controllers i).streams cisHandle,
    cis ∈ (before.link.controllers i).streams cisHandle
  kept : ∀ i, (∀ cis ∈ (before.link.controllers i).streams cisHandle, cis.established = false) →
    (after.link.controllers i).streams cisHandle = (before.link.controllers i).streams cisHandle
  peers : ∀ i peer cis, before.link.peerOf i cis.aclHandle = some peer →
    cis ∈ (before.link.controllers i).streams cisHandle ∨
      cis ∈ (before.link.controllers peer).streams cisHandle →
    cis.established = false → after.link.peerOf i cis.aclHandle = some peer
  created : ∀ creation : Creation, creation.cisHandle = cisHandle →
    (creation ∈ after.created ↔ creation ∈ before.created)
  accepted : ∀ i, (i, cisHandle) ∈ after.accepted ↔ (i, cisHandle) ∈ before.accepted

section Frames
variable {cisHandle : UInt16} {before after : Tracked} {creation : Creation} {acceptor : Nat}

theorem Untouched.frame (frame : Frame cisHandle before after)
    (untouched : before.Untouched cisHandle) : after.Untouched cisHandle where
  told i := (frame.told i).trans (untouched.told i)
  waiting := frame.waiting.trans untouched.waiting
  streams i := (frame.kept i (by simp [untouched.streams i])).trans (untouched.streams i)
  accepted i held := untouched.accepted i ((frame.accepted i).mp held)

theorem Asked.frame (frame : Frame creation.cisHandle before after) (asked : before.Asked creation) :
    after.Asked creation where
  told i := (frame.told i).trans (asked.told i)
  waiting := frame.waiting.trans asked.waiting
  streams i := by
    refine (frame.kept i fun cis inside => ?_).trans (asked.streams i)
    rw [asked.streams] at inside
    split_ifs at inside
    · exact List.mem_singleton.mp inside ▸ rfl
    · cases inside
  accepted i held := asked.accepted i ((frame.accepted i).mp held)
  peers := by
    obtain ⟨peer, out, back⟩ := asked.peers
    have own : Creation.opened creation ∈
        (before.link.controllers creation.creator).streams creation.cisHandle := by
      rw [asked.streams, if_pos rfl]
      exact List.mem_singleton_self _
    exact ⟨peer, frame.peers _ _ (Creation.opened creation) out (.inl own) rfl,
      frame.peers _ _ (Creation.opened creation) back (.inr own) rfl⟩

theorem Heard.frame (frame : Frame creation.cisHandle before after)
    (heard : before.Heard creation acceptor) : after.Heard creation acceptor where
  told i := (frame.told i).trans (heard.told i)
  waiting := by
    rw [frame.waiting, heard.waiting]
    simp only [frame.accepted]
  streams i := by
    refine (frame.kept i fun cis inside => ?_).trans (heard.streams i)
    rw [heard.streams, List.mem_append] at inside
    rcases inside with inside | inside
    all_goals
      split_ifs at inside
      · exact List.mem_singleton.mp inside ▸ rfl
      · cases inside
  accepted i held := heard.accepted i ((frame.accepted i).mp held)
  peers := by
    have own : Creation.opened creation ∈
        (before.link.controllers creation.creator).streams creation.cisHandle := by
      rw [heard.streams, if_pos rfl]
      exact List.mem_cons_self
    exact ⟨frame.peers _ _ (Creation.opened creation) heard.peers.1 (.inl own) rfl,
      frame.peers _ _ (Creation.opened creation) heard.peers.2 (.inr own) rfl⟩

theorem Done.frame (frame : Frame creation.cisHandle before after)
    (done : before.Done creation acceptor) : after.Done creation acceptor where
  apart := done.apart
  told i := (frame.told i).trans (done.told i)
  waiting := frame.waiting.trans done.waiting
  streams i cis inside := done.streams i cis (frame.fewer i cis inside)
  accepted := (frame.accepted acceptor).mpr done.accepted

theorem Stands.frame (frame : Frame cisHandle before after) (stands : before.Stands cisHandle) :
    after.Stands cisHandle where
  untouched absent := by
    refine .frame frame (stands.untouched fun creation held same => ?_)
    exact absent creation ((frame.created creation same).mpr held) same
  stage creation held same := by
    subst same
    rcases stands.stage creation ((frame.created creation rfl).mp held) rfl with
      asked | ⟨acceptor, heard⟩ | ⟨acceptor, done⟩
    · exact .inl (asked.frame frame)
    · exact .inr (.inl ⟨acceptor, heard.frame frame⟩)
    · exact .inr (.inr ⟨acceptor, done.frame frame⟩)

end Frames
end Tracked
end Simble.Sim
