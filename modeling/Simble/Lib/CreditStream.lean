import Simble.Lib.Run

/-! One direction of a byte stream under credit-based flow control. A chunk is put on the way only
against a credit; the receiver grants credits and counts in its window the chunks it has promised
to take. Nothing is assumed about when either side acts. -/
namespace Simble.Lib

variable {α : Type*}

structure CreditStream (α : Type*) where
  /-- Written, but not yet on the way. -/
  buffer : List α
  /-- Chunks the sender may still send. -/
  credits : Nat
  returning : Nat
  /-- Chunks on their way to the receiver, the oldest first. -/
  flight : List (List α)
  /-- Chunks the receiver has granted and not seen yet. -/
  window : Nat

namespace CreditStream

inductive Action (α : Type*) where
  | write (data : List α)
  | send (chunks : List (List α))
  | grant (count : Nat)
  | credit (count : Nat)
  | deliver (chunk : List α)

def Action.written : Action α → List α
  | .write data => data
  | _ => []

def Action.delivered : Action α → List α
  | .deliver chunk => chunk
  | _ => []

def written (actions : List (Action α)) : List α := actions.flatMap Action.written

def delivered (actions : List (Action α)) : List α := actions.flatMap Action.delivered

@[simp] theorem written_nil : written ([] : List (Action α)) = [] := rfl

@[simp] theorem delivered_nil : delivered ([] : List (Action α)) = [] := rfl

@[simp] theorem written_append (first second : List (Action α)) :
    written (first ++ second) = written first ++ written second := List.flatMap_append

@[simp] theorem delivered_append (first second : List (Action α)) :
    delivered (first ++ second) = delivered first ++ delivered second := List.flatMap_append

@[simp] theorem written_singleton (action : Action α) : written [action] = action.written := by
  simp [written]

@[simp] theorem delivered_singleton (action : Action α) :
    delivered [action] = action.delivered := by
  simp [delivered]

/-- `limit` bounds the receiver's window. A chunk is sent against a credit and a grant made within
the limit; the other actions need only something to receive. -/
inductive Step (limit : Nat) : CreditStream α → Action α → CreditStream α → Prop where
  | write (s data) : Step limit s (.write data) { s with buffer := s.buffer ++ data }
  | send {s chunks rest credits} (cut : s.buffer = chunks.flatten ++ rest)
      (paid : s.credits = chunks.length + credits) :
      Step limit s (.send chunks)
        { s with buffer := rest, credits := credits, flight := s.flight ++ chunks }
  | grant {s count} (within : s.window + count ≤ limit) :
      Step limit s (.grant count)
        { s with window := s.window + count, returning := s.returning + count }
  | credit {s count rest} (arrived : s.returning = count + rest) :
      Step limit s (.credit count)
        { s with credits := s.credits + count, returning := rest }
  | deliver {s chunk rest} (arrived : s.flight = chunk :: rest) :
      Step limit s (.deliver chunk) { s with flight := rest, window := s.window - 1 }

structure Balanced (limit : Nat) (s : CreditStream α) : Prop where
  conserved : s.credits + s.returning + s.flight.length = s.window
  bounded : s.window ≤ limit

variable {limit : Nat} {s t : CreditStream α}

theorem Balanced.step {action : Action α} (balanced : Balanced limit s)
    (stepped : Step limit s action t) : Balanced limit t := by
  obtain ⟨conserved, bounded⟩ := balanced
  cases stepped with
  | write => exact ⟨conserved, bounded⟩
  | send cut paid =>
    refine ⟨?_, bounded⟩
    simp only [List.length_append]
    omega
  | grant within =>
    refine ⟨?_, within⟩
    dsimp only
    omega
  | credit arrived =>
    refine ⟨?_, bounded⟩
    dsimp only
    omega
  | deliver arrived =>
    simp only [arrived, List.length_cons] at conserved
    constructor <;> dsimp only <;> omega

theorem Balanced.run {start : CreditStream α} {actions : List (Action α)}
    (balanced : Balanced limit start) (run : Run (Step limit) start actions s) :
    Balanced limit s :=
  run.invariant (P := fun _ t => Balanced limit t) balanced fun held stepped => held.step stepped

/-- Nothing written is lost, duplicated or reordered: it has been delivered, is
on the way, or waits in the buffer. -/
theorem content {start : CreditStream α} {actions : List (Action α)}
    (empty : start.flight = [] ∧ start.buffer = []) (run : Run (Step limit) start actions s) :
    delivered actions ++ s.flight.flatten ++ s.buffer = written actions := by
  induction run with
  | nil => simp [empty]
  | snoc _ stepped ih =>
    rw [written_append, delivered_append, ← ih]
    cases stepped with
    | write => simp [Action.written, Action.delivered]
    | send cut paid => simp [Action.written, Action.delivered, cut]
    | grant within => simp [Action.written, Action.delivered]
    | credit arrived => simp [Action.written, Action.delivered]
    | deliver arrived => simp [Action.written, Action.delivered, arrived]

end CreditStream
end Simble.Lib
