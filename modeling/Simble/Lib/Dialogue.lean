import Simble.Lib.Duplex
import Simble.Lib.Run

/-! Two nodes that speak in turns. A node queues its words; the environment puts the oldest queued
one on the channel, or lets the oldest in flight be heard, in any order. Where only one side has
words out at a time the order makes no difference: a script of how each next word is heard holds
along every run, and bounds its length. -/
namespace Simble.Lib

/-- If no run is longer than `bound`, some run cannot be continued. -/
theorem Run.exists_stuck {σ ℓ : Type*} {step : σ → ℓ → σ → Prop} {start : σ} {bound : Nat}
    (short : ∀ {labels s}, Run step start labels s → labels.length ≤ bound) :
    ∃ labels s, Run step start labels s ∧ ∀ label t, ¬ step s label t := by
  by_contra continues
  push Not at continues
  have long (n : Nat) : ∃ labels s, Run step start labels s ∧ labels.length = n := by
    induction n with
    | zero => exact ⟨[], start, .nil, rfl⟩
    | succ n ih =>
      obtain ⟨labels, s, run, length⟩ := ih
      obtain ⟨label, t, stepped⟩ := continues labels s run
      exact ⟨_, t, run.snoc stepped, by simp [length]⟩
  obtain ⟨labels, s, run, length⟩ := long (bound + 1)
  exact absurd (short run) (by omega)

/-- Where a node keeps the words it has not put on the channel yet. -/
structure Outbox (σ M : Type*) where
  queued : σ → List M
  pop : σ → σ
  queued_pop : ∀ s, queued (pop s) = (queued s).tail

namespace Dialogue

inductive Move (ℓ : Type*) where
  | hear (listener : Side) (input : ℓ)
  | send (talker : Side)

variable {σ M ℓ : Type*} (outbox : Outbox σ M) (hears : σ → ℓ → M → σ → Prop)

/-- `hears s input word t`: on `word`, state `s` becomes `t` with its answers
queued. The first of them goes out at once. -/
inductive Step : Duplex σ M → Move ℓ → Duplex σ M → Prop where
  | hear {net i input word rest heard} : net.inbox i = word :: rest →
      hears (net.node i) input word heard →
      Step net (.hear i input)
        ((net.consume i rest).emit i (outbox.pop heard) (outbox.queued heard).head?.toList)
  | send {net i word rest} : outbox.queued (net.node i) = word :: rest →
      Step net (.send i) (net.emit i (outbox.pop (net.node i)) [word])

/-- Nothing is in flight and nothing waits to be sent. -/
def Silent (net : Duplex σ M) : Prop := net.Quiescent ∧ ∀ i, outbox.queued (net.node i) = []

/-- `script n i talker listener words`: it is the turn of side `i`, whose words
out are `words`, and at most `n` more will be spoken after them. -/
structure Follows (script : Nat → Side → σ → σ → List M → Prop) : Prop where
  popTalker : ∀ {n i talker listener words}, script n i talker listener words →
    script n i (outbox.pop talker) listener words
  popListener : ∀ {n i talker listener words}, script n i talker listener words →
    script n i talker (outbox.pop listener) words
  understands : ∀ {n i talker listener word rest}, script n i talker listener (word :: rest) →
    outbox.queued listener = [] → ∀ input, ∃ heard, hears listener input word heard
  answers : ∀ {n i talker listener word rest input heard},
    script n i talker listener (word :: rest) → outbox.queued listener = [] →
    hears listener input word heard →
      (outbox.queued heard = [] ∧ script n i talker heard rest) ∨
      (rest = [] ∧ ∃ left, left + (outbox.queued heard).length ≤ n ∧
        script left i.peer heard talker (outbox.queued heard))

/-- It is one side's turn, after `spent` moves of the `budget`. A word that
waits to be sent costs two moves, one in flight costs one. -/
structure Turn (script : Nat → Side → σ → σ → List M → Prop) (budget spent : Nat)
    (net : Duplex σ M) (n : Nat) (i : Side) : Prop where
  script : script n i (net.node i) (net.node i.peer)
    (net.inbox i.peer ++ outbox.queued (net.node i))
  silent : outbox.queued (net.node i.peer) = [] ∧ net.inbox i = []
  cost : spent + 2 * n + 2 * (outbox.queued (net.node i)).length +
    (net.inbox i.peer).length ≤ budget

variable {outbox hears} {script : Nat → Side → σ → σ → List M → Prop}

namespace Turn
variable {budget spent n : Nat} {net next : Duplex σ M} {i : Side} {move : Move ℓ}

section Turn
variable (follows : Follows outbox hears script) (turn : Turn outbox script budget spent net n i)
include follows turn

theorem send {word : M} {rest : List M} (found : outbox.queued (net.node i) = word :: rest) :
    Turn outbox script budget (spent + 1) (net.emit i (outbox.pop (net.node i)) [word]) n i where
  script := by
    have spoken := follows.popTalker turn.script
    simpa [outbox.queued_pop, found] using spoken
  silent := by simpa using turn.silent
  cost := by
    have cost := turn.cost
    simp only [found, List.length_cons, Duplex.emit_node_self, outbox.queued_pop, List.tail_cons,
      Duplex.emit_inbox_peer, List.length_append, List.length_nil] at cost ⊢
    omega

theorem hear {input : ℓ} {word heard} {rest : List M} (arrived : net.inbox i.peer = word :: rest)
    (understood : hears (net.node i.peer) input word heard) :
    ∃ left j, Turn outbox script budget (spent + 1)
      ((net.consume i.peer rest).emit i.peer (outbox.pop heard)
        (outbox.queued heard).head?.toList) left j := by
  have cost := turn.cost
  have spoken := turn.script
  rw [arrived, List.cons_append] at spoken
  rcases follows.answers spoken turn.silent.1 understood with
    ⟨mute, continued⟩ | ⟨last, left, fewer, switched⟩
  · refine ⟨n, i, ?_, ?_, ?_⟩
    · simpa [mute] using follows.popListener continued
    · simp [mute, outbox.queued_pop, turn.silent.2]
    · simp only [arrived, List.length_cons, mute, List.head?_nil, Option.toList_none,
        Duplex.emit_peer_node, Duplex.consume_node, Duplex.emit_inbox_self,
        Duplex.consume_inbox_self] at cost ⊢
      omega
  · obtain ⟨rfl, spent⟩ := List.append_eq_nil_iff.mp last
    refine ⟨left, i.peer, ?_, ?_, ?_⟩
    · have popped := follows.popTalker switched
      cases answers : outbox.queued heard <;>
        simpa [answers, outbox.queued_pop, turn.silent.2] using popped
    · simp [spent]
    · cases answers : outbox.queued heard <;>
        simp [answers, arrived, spent, outbox.queued_pop, turn.silent.2] at cost fewer ⊢ <;> omega

theorem step (stepped : Step outbox hears net move next) :
    ∃ left j, Turn outbox script budget (spent + 1) next left j := by
  cases stepped with
  | @send j _ _ found =>
    rcases Side.eq_or_eq_peer i j with rfl | rfl
    · exact ⟨n, j, turn.send follows found⟩
    · rw [turn.silent.1] at found
      contradiction
  | @hear j _ _ _ _ arrived understood =>
    rcases Side.eq_or_eq_peer i j with rfl | rfl
    · rw [turn.silent.2] at arrived
      contradiction
    · exact turn.hear follows arrived understood

end Turn

end Turn

theorem Run.turn (follows : Follows outbox hears script) {budget n : Nat} {i : Side}
    {start net : Duplex σ M} {moves : List (Move ℓ)}
    (first : Turn outbox script budget 0 start n i)
    (run : Run (Step outbox hears) start moves net) :
    ∃ left j, Turn outbox script budget moves.length net left j := by
  refine run.invariant (P := fun moves net => ∃ left j,
    Turn outbox script budget moves.length net left j) ⟨n, i, first⟩ ?_
  rintro moves net move next ⟨left, j, turn⟩ stepped
  simpa using turn.step follows stepped

/-- No word is left unheard. -/
theorem Turn.progress (follows : Follows outbox hears script) {budget spent n : Nat}
    {net : Duplex σ M} {i j : Side} (turn : Turn outbox script budget spent net n i)
    (waiting : net.inbox j ≠ []) (input : ℓ) :
    ∃ next, Step outbox hears net (.hear j input) next := by
  rcases Side.eq_or_eq_peer i j with rfl | rfl
  · exact absurd turn.silent.2 waiting
  · obtain ⟨word, rest, arrived⟩ := List.exists_cons_of_ne_nil waiting
    have spoken := turn.script
    rw [arrived, List.cons_append] at spoken
    obtain ⟨heard, understood⟩ := follows.understands spoken turn.silent.1 input
    exact ⟨_, .hear arrived understood⟩

theorem Turn.silent_script {budget spent n : Nat} {net : Duplex σ M} {i : Side}
    (turn : Turn outbox script budget spent net n i) (silent : Silent outbox net) :
    script n i (net.node i) (net.node i.peer) [] := by
  have spoken := turn.script
  rwa [silent.1, silent.2, List.append_nil] at spoken

end Dialogue
end Simble.Lib
