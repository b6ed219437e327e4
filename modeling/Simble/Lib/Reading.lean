import Simble.Lib.BigEndian

/-! Readers of octets, and what they recover of what was written, whatever follows it. -/
namespace Simble.Lib
open List

variable {α β : Type}

/-- A reader takes octets off the front, and may fail. -/
abbrev Reading (α : Type) := StateT (List UInt8) Option α

namespace Reading

def take (n : Nat) : Reading (List UInt8) := fun data =>
  if n ≤ data.length then some (data.take n, data.drop n) else none

/-- What is left. -/
def rest : Reading (List UInt8) := fun data => some (data, [])

/-- As many times as given. -/
def times (read : Reading α) : Nat → Reading (List α)
  | 0 => return []
  | count + 1 => do
    let first ← read
    return first :: (← times read count)

/-- A value that is there without an octet being read. -/
def given (found : Option α) : Reading α := fun data => found.map fun value => (value, data)

/-- A value is read off the octets, and what follows them is left. -/
def Recovers (read : Reading α) (bytes : List UInt8) (value : α) : Prop :=
  ∀ rest, read (bytes ++ rest) = some (value, rest)

theorem bind_apply (read : Reading α) (next : α → Reading β) (data : List UInt8) :
    (read >>= next) data = (read data).bind fun found => next found.1 found.2 := rfl

theorem recovers_pure (value : α) : Recovers (pure value) [] value := fun _ => rfl

theorem recovers_given (value : α) : Recovers (given (some value)) [] value := fun _ => rfl

theorem Recovers.bind {read : Reading α} {next : α → Reading β} {front back : List UInt8} {value : α}
    {result : β} (first : Recovers read front value) (second : Recovers (next value) back result) :
    Recovers (read >>= next) (front ++ back) result := by
  intro rest
  rw [bind_apply, append_assoc, first]
  exact second rest

theorem Recovers.map {read : Reading α} {bytes : List UInt8} {value : α} (f : α → β)
    (recovers : Recovers read bytes value) : Recovers (f <$> read) bytes (f value) := by
  intro rest
  show (read (bytes ++ rest)).bind (fun found => some (f found.1, found.2)) = _
  rw [recovers]
  rfl

theorem recovers_take {n : Nat} {bytes : List UInt8} (size : bytes.length = n) :
    Recovers (take n) bytes bytes := by
  intro rest
  rw [take, if_pos (by rw [length_append]; omega), take_left' size, drop_left' size]

theorem recovers_times {read : Reading α} {write : α → List UInt8} {values : List α}
    (each : ∀ value ∈ values, Recovers read (write value) value) :
    Recovers (times read values.length) (values.flatMap write) values := by
  induction values with
  | nil => exact recovers_pure []
  | cons value values ih =>
    rw [forall_mem_cons] at each
    rw [flatMap_cons]
    apply each.1.bind
    exact (ih each.2).map (value :: ·)

def number (width : Nat) : Reading Nat := ofBe <$> take width

theorem recovers_number {width n : Nat} (fits : n < 256 ^ width) :
    Recovers (number width) (toBe width n) n := by
  have read := (recovers_take (length_toBe width n)).map ofBe
  rw [ofBe_toBe_of_lt fits] at read
  exact read

def littleNumber (width : Nat) : Reading Nat := (fun bytes => ofBe bytes.reverse) <$> take width

theorem recovers_littleNumber {width n : Nat} (fits : n < 256 ^ width) :
    Recovers (littleNumber width) (toBe width n).reverse n := by
  have size : (toBe width n).reverse.length = width := by rw [length_reverse, length_toBe]
  have read := (recovers_take size).map fun bytes => ofBe bytes.reverse
  rw [reverse_reverse, ofBe_toBe_of_lt fits] at read
  exact read

/-- What a reader finds it also finds when more follows. -/
def Steady (read : Reading α) : Prop := ∀ data value rest more,
  read data = some (value, rest) → read (data ++ more) = some (value, rest ++ more)

theorem steady_pure (value : α) : Steady (pure value) := by
  rintro data _ _ more ⟨⟩
  rfl

theorem steady_take (n : Nat) : Steady (take n) := by
  intro data value rest more found
  unfold take at found
  split at found
  · rename_i fits
    cases found
    rw [take, if_pos (by rw [length_append]; omega), take_append_of_le_length fits,
      drop_append_of_le_length fits]
  · cases found

theorem Steady.bind {read : Reading α} {next : α → Reading β} (first : Steady read)
    (second : ∀ value, Steady (next value)) : Steady (read >>= next) := by
  intro data result rest more found
  rw [bind_apply, Option.bind_eq_some_iff] at found
  obtain ⟨⟨value, left⟩, front, back⟩ := found
  rw [bind_apply, first _ _ _ _ front]
  exact second value _ _ _ _ back

theorem Steady.map {read : Reading α} (f : α → β) (steady : Steady read) :
    Steady (f <$> read) := by
  have same : f <$> read = read >>= fun value => pure (f value) := rfl
  rw [same]
  exact steady.bind fun value => steady_pure (f value)

theorem steady_number (width : Nat) : Steady (number width) := (steady_take width).map ofBe

/-- Whatever is read is such a value. -/
def Yields (read : Reading α) (P : α → Prop) : Prop := ∀ data value rest,
  read data = some (value, rest) → P value

variable {P : α → Prop}

theorem yields_pure {value : α} (such : P value) : Yields (pure value) P := by
  rintro data _ _ ⟨⟩
  exact such

theorem yields_take (n : Nat) : Yields (take n) fun bytes => bytes.length = n := by
  intro data value rest found
  unfold take at found
  split at found
  · rename_i fits
    cases found
    exact length_take_of_le fits
  · cases found

theorem Yields.bind {read : Reading α} {next : α → Reading β} {Q : β → Prop} (first : Yields read P)
    (second : ∀ value, P value → Yields (next value) Q) :
    Yields (read >>= next) Q := by
  intro data result rest found
  rw [bind_apply, Option.bind_eq_some_iff] at found
  obtain ⟨⟨value, left⟩, front, back⟩ := found
  exact second value (first _ _ _ front) _ _ _ back

theorem Yields.map {read : Reading α} {f : α → β} {Q : β → Prop} (yields : Yields read P)
    (such : ∀ value, P value → Q (f value)) : Yields (f <$> read) Q := by
  have same : f <$> read = read >>= fun value => pure (f value) := rfl
  rw [same]
  exact yields.bind fun value holds => yields_pure (such value holds)

theorem yields_any (read : Reading α) : Yields read fun _ => True := fun _ _ _ _ => trivial

theorem yields_littleNumber (width : Nat) : Yields (littleNumber width) (· < 256 ^ width) := by
  refine (yields_take width).map fun bytes size => ?_
  have bound := ofBe_lt bytes.reverse
  rwa [length_reverse, size] at bound

theorem yields_times {read : Reading α} (each : Yields read P) (count : Nat) :
    Yields (times read count) fun values => values.length = count ∧ ∀ value ∈ values, P value := by
  induction count with
  | zero => exact yields_pure ⟨rfl, nofun⟩
  | succ count ih =>
    refine each.bind fun first such => ih.map ?_
    rintro later ⟨size, others⟩
    exact ⟨congrArg (· + 1) size, forall_mem_cons.mpr ⟨such, others⟩⟩

end Reading
end Simble.Lib
