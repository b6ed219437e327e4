import Mathlib.Logic.Function.Basic

/-! Two nodes joined by two first-in first-out queues. What they compute is left open: a step of
one node is its new state and the messages it emits, which queue up behind those on the way. -/
namespace Simble.Lib

inductive Side where
  | left
  | right
deriving DecidableEq, Repr

namespace Side

def peer : Side → Side
  | .left => .right
  | .right => .left

@[simp] theorem peer_peer (i : Side) : i.peer.peer = i := by cases i <;> rfl

@[simp] theorem peer_ne (i : Side) : i.peer ≠ i := by cases i <;> decide

@[simp] theorem ne_peer (i : Side) : i ≠ i.peer := by cases i <;> decide

theorem forall_iff (i : Side) {P : Side → Prop} : (∀ j, P j) ↔ P i ∧ P i.peer := by
  constructor
  · intro all
    exact ⟨all i, all i.peer⟩
  · rintro ⟨self, other⟩ j
    cases i <;> cases j <;> assumption

theorem eq_or_eq_peer (i j : Side) : j = i ∨ j = i.peer := by
  cases i <;> cases j <;> simp [peer]

end Side

/-- The global state of a pair: `inbox i` holds what is in flight towards side
`i`, the oldest message first. -/
structure Duplex (σ M : Type*) where
  node : Side → σ
  inbox : Side → List M

namespace Duplex
variable {σ M : Type*}

/-- Side `i` moves to state `s` and emits `out` towards its peer. -/
def emit (net : Duplex σ M) (i : Side) (s : σ) (out : List M) : Duplex σ M where
  node := Function.update net.node i s
  inbox := Function.update net.inbox i.peer (net.inbox i.peer ++ out)

/-- The queue towards side `i` is cut down to `rest`. -/
def consume (net : Duplex σ M) (i : Side) (rest : List M) : Duplex σ M where
  node := net.node
  inbox := Function.update net.inbox i rest

def Quiescent (net : Duplex σ M) : Prop := ∀ i, net.inbox i = []

variable (net : Duplex σ M) (i : Side) (s : σ) (out rest : List M)

@[simp] theorem emit_node_self : (net.emit i s out).node i = s := by simp [emit]

@[simp] theorem emit_node_peer : (net.emit i s out).node i.peer = net.node i.peer := by
  simp [emit]

@[simp] theorem emit_inbox_self : (net.emit i s out).inbox i = net.inbox i := by simp [emit]

@[simp] theorem emit_inbox_peer :
    (net.emit i s out).inbox i.peer = net.inbox i.peer ++ out := by simp [emit]

@[simp] theorem emit_peer_node : (net.emit i.peer s out).node i = net.node i := by simp [emit]

@[simp] theorem emit_peer_inbox :
    (net.emit i.peer s out).inbox i = net.inbox i ++ out := by simp [emit]

@[simp] theorem consume_node : (net.consume i rest).node = net.node := rfl

@[simp] theorem consume_inbox_self : (net.consume i rest).inbox i = rest := by simp [consume]

@[simp] theorem consume_inbox_peer :
    (net.consume i rest).inbox i.peer = net.inbox i.peer := by simp [consume]

@[simp] theorem consume_peer_inbox :
    (net.consume i.peer rest).inbox i = net.inbox i := by simp [consume]

variable {net} in
theorem ext_at {other : Duplex σ M} (self : net.node i = other.node i)
    (peer : net.node i.peer = other.node i.peer) (inbox : net.inbox i = other.inbox i)
    (peerInbox : net.inbox i.peer = other.inbox i.peer) : net = other := by
  have nodes : net.node = other.node := by
    funext j
    rcases Side.eq_or_eq_peer i j with rfl | rfl <;> assumption
  have inboxes : net.inbox = other.inbox := by
    funext j
    rcases Side.eq_or_eq_peer i j with rfl | rfl <;> assumption
  cases net
  cases other
  cases nodes
  cases inboxes
  rfl

end Duplex
end Simble.Lib
