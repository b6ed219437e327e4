import Mathlib.Data.List.Basic
import Simble.Lib.Feed

/-! Readers of a stream that comes in chunks: they are fed octets, and asked for the next frame at
any time. A rule takes one frame off the front of the octets that a reader has not handed over
yet. -/
namespace Simble.Lib
open List

inductive Call (α : Type) where
  | feed (chunk : List α)
  | next

def Call.chunk {α : Type} : Call α → List α
  | .feed chunk => chunk
  | .next => []

section Streaming
variable {α β γ σ ε : Type}

def serve (feed : σ → List α → σ) (next : σ → Except ε (σ × Option γ)) (reader : σ) :
    Call α → Except ε (σ × Option γ)
  | .feed chunk => .ok (feed reader chunk, none)
  | .next => next reader

/-- A run that fails after a first call that did not. -/
theorem feed_error_of_first {ι ο : Type} {step : σ → ι → Except ε (σ × ο)} {state next : σ}
    {input : ι} {output : ο} {rest : List ι} {stop : ε}
    (first : step state input = .ok (next, output))
    (failed : Lib.feed step state (input :: rest) = .error stop) :
    Lib.feed step next rest = .error stop := by
  rw [feed_cons, first] at failed
  cases later : Lib.feed step next rest with
  | error other => simpa [bind, Except.bind, later] using failed
  | ok last => simp [bind, Except.bind, later, pure, Except.pure] at failed

/-- How a reader keeps what it has not handed over: `take` says what it does when it
is asked, from these octets alone. -/
structure Follows (Valid : σ → Prop) (take : List α → Except ε (Option (γ × List α)))
    (unread : σ → List α) (feed : σ → List α → σ) (next : σ → Except ε (σ × Option γ)) :
    Prop where
  fed : ∀ reader chunk, Valid reader →
    Valid (feed reader chunk) ∧ unread (feed reader chunk) = unread reader ++ chunk
  stops : ∀ reader stop, Valid reader → take (unread reader) = .error stop →
    next reader = .error stop
  waits : ∀ reader, Valid reader → take (unread reader) = .ok none →
    ∃ later, next reader = .ok (later, none) ∧ Valid later ∧ unread later = unread reader
  hands : ∀ reader frame rest, Valid reader → take (unread reader) = .ok (some (frame, rest)) →
    ∃ later, next reader = .ok (later, some frame) ∧ Valid later ∧ unread later = rest

/-- A way of writing frames that `take` reads back: the value of a frame that is whole
is taken, whatever follows, and one that is not is waited for. -/
structure Delimits (take : List α → Except ε (Option (γ × List α))) (Good : β → Prop)
    (write : β → List α) (value : β → γ) : Prop where
  nothing : take [] = .ok none
  whole : ∀ frame rest, Good frame → take (write frame ++ rest) = .ok (some (value frame, rest))
  part : ∀ frame front back, Good frame → front ++ back = write frame → back ≠ [] →
    take front = .ok none

structure Progress where
  come : Nat
  handed : Nat

/-- What is due from a reader of a stream: the next frame, once its last octet has come. -/
def owed (write : β → List α) (value : β → γ) (frames : List β) (progress : Progress) :
    Call α → Progress × Option γ
  | .feed chunk => ({ progress with come := progress.come + chunk.length }, none)
  | .next =>
    if progress.handed < frames.length ∧
        ((frames.take (progress.handed + 1)).flatMap write).length ≤ progress.come then
      ({ progress with handed := progress.handed + 1 }, frames[progress.handed]?.map value)
    else (progress, none)

/-- The frames of a stream that are whole in its first octets. -/
def ready (write : β → List α) : List β → Nat → List β
  | [], _ => []
  | frame :: rest, come =>
    if (write frame).length ≤ come then frame :: ready write rest (come - (write frame).length)
    else []

section Ready
variable {write : β → List α}

theorem ready_isPrefix (frames : List β) (come : Nat) :
    ready write frames come <+: frames := by
  induction frames generalizing come with
  | nil => exact nil_prefix
  | cons frame rest ih =>
    rw [ready]
    split
    · exact List.cons_prefix_cons.mpr ⟨rfl, ih _⟩
    · exact nil_prefix

theorem ready_append {past left : List β} {come : Nat} (all : ready write past come = past) :
    ready write (past ++ left) come =
      past ++ ready write left (come - (past.flatMap write).length) := by
  induction past generalizing come with
  | nil => simp
  | cons frame rest ih =>
    rw [ready] at all
    split at all
    · rename_i fits
      have others := ih (List.cons.inj all).2
      rw [cons_append, ready, if_pos fits, others, flatMap_cons, length_append,
        cons_append, Nat.sub_add_eq]
    · cases all

theorem ready_flatMap {frames : List β} {come : Nat}
    (fits : (frames.flatMap write).length ≤ come) : ready write frames come = frames := by
  induction frames generalizing come with
  | nil => rfl
  | cons frame rest ih =>
    rw [flatMap_cons, length_append] at fits
    rw [ready, if_pos (by omega), ih (by omega)]

theorem ready_eq_iff {frames : List β} {come more : Nat} :
    (ready write frames come).length = (ready write frames more).length ↔
      ready write frames come = ready write frames more := by
  constructor
  · intro same
    exact (prefix_of_prefix_length_le (ready_isPrefix frames come) (ready_isPrefix frames more)
      (Nat.le_of_eq same)).eq_of_length same
  · exact congrArg List.length

end Ready

section Following
variable {Valid : σ → Prop} {take : List α → Except ε (Option (γ × List α))} {unread : σ → List α}
  {next : σ → Except ε (σ × Option γ)} {write : β → List α} {value : β → γ} {Good : β → Prop}

theorem Delimits.at_front (delimits : Delimits take Good write value) {frames : List β}
    (good : ∀ frame ∈ frames, Good frame) {front back : List α}
    (split : front ++ back = frames.flatMap write) :
    (∃ frame rest later, frames = frame :: rest ∧ front = write frame ++ later ∧
      later ++ back = rest.flatMap write ∧ take front = .ok (some (value frame, later))) ∨
    (take front = .ok none ∧ ready write frames front.length = [] ∧
      (frames = [] ∨ ∃ frame rest, frames = frame :: rest ∧
        front.length < (write frame).length)) := by
  cases frames with
  | nil =>
    obtain ⟨rfl, -⟩ := List.append_eq_nil_iff.mp split
    exact .inr ⟨delimits.nothing, rfl, .inl rfl⟩
  | cons frame rest =>
    have here := good frame mem_cons_self
    rw [flatMap_cons] at split
    by_cases complete : (write frame).length ≤ front.length
    · have whole : write frame <+: front ++ back := ⟨_, split.symm⟩
      obtain ⟨later, rfl⟩ := prefix_of_prefix_length_le whole ⟨back, rfl⟩ complete
      rw [append_assoc] at split
      exact .inl ⟨frame, rest, later, rfl, rfl, append_cancel_left split,
        delimits.whole frame later here⟩
    · have part : front <+: write frame ++ rest.flatMap write := ⟨back, split⟩
      obtain ⟨missing, same⟩ := prefix_of_prefix_length_le part ⟨_, rfl⟩ (by omega)
      have lacking : missing ≠ [] := by
        rintro rfl
        rw [append_nil] at same
        exact complete (same ▸ Nat.le_refl _)
      exact .inr ⟨delimits.part frame front missing here same lacking,
        by rw [ready, if_neg complete], .inr ⟨frame, rest, rfl, by omega⟩⟩

variable {feed : σ → List α → σ}

theorem owed_given {past rest : List β} {frame : β} {come : Nat}
    (whole : (past.flatMap write).length + (write frame).length ≤ come) :
    owed write value (past ++ frame :: rest) ⟨come, past.length⟩ .next =
      (⟨come, (past ++ [frame]).length⟩, some (value frame)) := by
  have here : (past ++ frame :: rest).take (past.length + 1) = past ++ [frame] :=
    take_length_add_append 1
  simp [owed, here, whole, -length_flatMap]

theorem owed_kept {past left : List β} {come : Nat}
    (short : left = [] ∨ ∃ frame rest, left = frame :: rest ∧
      come < (past.flatMap write).length + (write frame).length) :
    owed write value (past ++ left) ⟨come, past.length⟩ .next = (⟨come, past.length⟩, none) := by
  rcases short with rfl | ⟨frame, rest, rfl, short⟩
  · simp [owed]
  · have here : (past ++ frame :: rest).take (past.length + 1) = past ++ [frame] :=
      take_length_add_append 1
    simp [owed, here, short, -length_flatMap]

/-- A reader hands over what is owed, whatever calls are made of it in what order. -/
theorem feed_serve (follows : Follows Valid take unread feed next)
    (delimits : Delimits take Good write value) {calls : List (Call α)} {past left : List β}
    (good : ∀ frame ∈ left, Good frame) {reader : σ} (valid : Valid reader)
    {later : List α} (split : unread reader ++ calls.flatMap Call.chunk ++ later = left.flatMap write) :
    ∃ last, Lib.feed (serve feed next) reader calls = .ok (last,
      (Lib.feed (m := Id) (owed write value (past ++ left))
        ⟨(past.flatMap write).length + (unread reader).length, past.length⟩ calls).2) := by
  induction calls generalizing reader past left with
  | nil => exact ⟨reader, rfl⟩
  | cons call rest ih =>
    cases call with
    | feed chunk =>
      obtain ⟨valid, fed⟩ := follows.fed reader chunk valid
      have come : (past.flatMap write).length + (unread (feed reader chunk)).length =
          (past.flatMap write).length + (unread reader).length + chunk.length := by
        rw [fed, length_append, Nat.add_assoc]
      obtain ⟨last, ran⟩ := @ih past left good (feed reader chunk) valid (by
        rw [fed, ← split, flatMap_cons]
        simp only [Call.chunk, append_assoc])
      rw [come] at ran
      exact ⟨last, feed_step (m := Except ε) rfl ran⟩
    | next =>
      rw [flatMap_cons, Call.chunk, nil_append, append_assoc] at split
      rcases delimits.at_front good split with
        ⟨frame, others, kept, rfl, front, back, taken⟩ | ⟨taken, -, state⟩
      · obtain ⟨after, handed, valid, left⟩ := follows.hands _ _ _ valid taken
        obtain ⟨last, ran⟩ := @ih (past ++ [frame]) others
          (fun other inside => good other (mem_cons_of_mem _ inside)) after valid (by
            rw [left, append_assoc, back])
        have come : ((past ++ [frame]).flatMap write).length + (unread after).length =
            (past.flatMap write).length + (unread reader).length := by
          simp only [left, front, flatMap_append, flatMap_singleton, length_append]
          omega
        have given := @owed_given α β γ write value past others frame
          ((past.flatMap write).length + (unread reader).length) (by
            rw [front, length_append]
            omega)
        rw [come, append_assoc, singleton_append] at ran
        refine ⟨last, (feed_step (m := Except ε) handed ran).trans ?_⟩
        rw [feed_cons, given]
        rfl
      · obtain ⟨after, waited, valid, kept⟩ := follows.waits _ valid taken
        obtain ⟨last, ran⟩ := @ih past left good after valid (by
          rw [kept, append_assoc, split])
        have given := @owed_kept α β γ write value past left
          ((past.flatMap write).length + (unread reader).length) (by
            rcases state with none | ⟨frame, others, same, short⟩
            · exact .inl none
            · exact .inr ⟨frame, others, same, by omega⟩)
        rw [kept] at ran
        refine ⟨last, (feed_step (m := Except ε) waited ran).trans ?_⟩
        rw [feed_cons, given]
        rfl

theorem serve_stream (follows : Follows Valid take unread feed next)
    (delimits : Delimits take Good write value) {frames : List β}
    (good : ∀ frame ∈ frames, Good frame) {reader : σ} (valid : Valid reader)
    (empty : unread reader = []) {calls : List (Call α)} {later : List α}
    (split : calls.flatMap Call.chunk ++ later = frames.flatMap write) :
    ∃ last, Lib.feed (serve feed next) reader calls =
      .ok (last, (Lib.feed (m := Id) (owed write value frames) ⟨0, 0⟩ calls).2) := by
  have start : unread reader ++ calls.flatMap Call.chunk ++ later = frames.flatMap write := by
    rw [empty, nil_append, split]
  have served := @feed_serve α β γ σ ε Valid take unread next write value Good feed follows
    delimits calls [] frames good reader valid later start
  rw [empty] at served
  exact served

end Following

/-! ## Loops that take every frame there is -/

section Draining
variable {τ : Type}

/-- What is done with frames one after the other, up to the first that stops it. -/
def handleAll (handle : τ → γ → τ × Option ε) (work : τ) : List γ → τ × Option ε
  | [] => (work, none)
  | frame :: rest =>
    match handle work frame with
    | (work, none) => handleAll handle work rest
    | (work, some stop) => (work, some stop)

/-- Asks for frames until there is none; `fuel` bounds how often. -/
def drain (next : σ → Except ε (σ × Option γ)) (handle : τ → γ → τ × Option ε) :
    (fuel : Nat) → σ → τ → σ × τ × Option ε
  | 0, reader, work => (reader, work, none)
  | fuel + 1, reader, work =>
    match next reader with
    | .error stop => (reader, work, some stop)
    | .ok (reader, none) => (reader, work, none)
    | .ok (reader, some frame) =>
      match handle work frame with
      | (work, none) => drain next handle fuel reader work
      | (work, some stop) => (reader, work, some stop)

variable {handle : τ → γ → τ × Option ε}

variable {Valid : σ → Prop} {take : List α → Except ε (Option (γ × List α))} {unread : σ → List α}
  {next : σ → Except ε (σ × Option γ)} {write : β → List α} {value : β → γ} {Good : β → Prop}
  {feed : σ → List α → σ}

theorem Delimits.length_pos (delimits : Delimits take Good write value) (frame : β)
    (good : Good frame) : 0 < (write frame).length := by
  refine List.length_pos_iff.mpr fun empty => ?_
  have taken := delimits.whole frame [] good
  rw [empty, append_nil, delimits.nothing] at taken
  cases taken

theorem drain_ready (follows : Follows Valid take unread feed next)
    (delimits : Delimits take Good write value) {left : List β} (good : ∀ frame ∈ left, Good frame)
    {reader : σ} (valid : Valid reader) {later : List α}
    (split : unread reader ++ later = left.flatMap write) {work : τ} {fuel : Nat}
    (enough : (unread reader).length < fuel) :
    ∃ last, drain next handle fuel reader work =
        (last, handleAll handle work ((ready write left (unread reader).length).map value)) ∧
      Valid last ∧
      ((handleAll handle work ((ready write left (unread reader).length).map value)).2 = none →
        ∃ others, left = ready write left (unread reader).length ++ others ∧
          unread last ++ later = others.flatMap write ∧
          ready write others (unread last).length = []) := by
  induction fuel generalizing reader work left with
  | zero => omega
  | succ fuel ih =>
    rcases delimits.at_front good split with
      ⟨frame, others, kept, rfl, front, back, taken⟩ | ⟨taken, none, -⟩
    · have size := delimits.length_pos frame (good frame mem_cons_self)
      obtain ⟨after, handed, valid, kept'⟩ := follows.hands _ _ _ valid taken
      have come : (unread reader).length = (write frame).length + (unread after).length := by
        rw [front, length_append, kept']
      have first : ready write (frame :: others) (unread reader).length =
          frame :: ready write others (unread after).length := by
        rw [ready, if_pos (by omega), come, Nat.add_sub_cancel_left]
      rw [first]
      simp only [drain, handed, map_cons, handleAll]
      rcases handled : handle work (value frame) with ⟨done, _ | stop⟩
      · obtain ⟨last, drained, valid, state⟩ := @ih others
          (fun other inside => good other (mem_cons_of_mem _ inside)) after valid
          (by rw [kept', back]) done (by omega)
        refine ⟨last, drained, valid, fun goes => ?_⟩
        obtain ⟨beyond, same, rest, short⟩ := state goes
        exact ⟨beyond, congrArg (frame :: ·) same, rest, short⟩
      · exact ⟨after, rfl, valid, fun goes => nomatch goes⟩
    · obtain ⟨after, waited, valid, kept⟩ := follows.waits _ valid taken
      rw [none]
      simp only [drain, waited, map_nil, handleAll]
      exact ⟨after, rfl, valid, fun _ => ⟨left, rfl, by rw [kept, split], by rw [kept, none]⟩⟩

/-- Where a reader stands that was asked until it had no more: `come` octets have come,
every frame that is whole in them was handed over, and `later` is still to come. -/
structure Stands (Valid : σ → Prop) (unread : σ → List α) (write : β → List α) (frames : List β)
    (come : Nat) (reader : σ) (later : List α) : Prop where
  valid : Valid reader
  rest : ∃ others, frames = ready write frames come ++ others ∧
    unread reader ++ later = others.flatMap write ∧
    come = ((ready write frames come).flatMap write).length + (unread reader).length

theorem ready_zero {frames : List β} (nonempty : ∀ frame ∈ frames, 0 < (write frame).length) :
    ready write frames 0 = [] := by
  cases frames with
  | nil => rfl
  | cons frame rest =>
    have := nonempty frame mem_cons_self
    rw [ready, if_neg (by omega)]

theorem stands_at_start {frames : List β} {reader : σ} {later : List α} (valid : Valid reader)
    (empty : unread reader = []) (nonempty : ∀ frame ∈ frames, 0 < (write frame).length)
    (split : later = frames.flatMap write) : Stands Valid unread write frames 0 reader later := by
  refine ⟨valid, frames, ?_, ?_, ?_⟩
  · rw [ready_zero nonempty, nil_append]
  · rw [empty, nil_append, split]
  · rw [ready_zero nonempty, empty]
    rfl

theorem Stands.drain (follows : Follows Valid take unread feed next)
    (delimits : Delimits take Good write value) {frames : List β} (good : ∀ frame ∈ frames, Good frame)
    {come : Nat} {reader fed : σ} {batch later : List α}
    (stands : Stands Valid unread write frames come reader (batch ++ later)) (valid : Valid fed)
    (same : unread fed = unread reader ++ batch) (handle : τ → γ → τ × Option ε) (work : τ)
    {fuel : Nat} (enough : (unread fed).length < fuel) : ∃ last newly,
      ready write frames (come + batch.length) = ready write frames come ++ newly ∧
      Lib.drain next handle fuel fed work = (last, handleAll handle work (newly.map value)) ∧
      ((handleAll handle work (newly.map value)).2 = none →
        Stands Valid unread write frames (come + batch.length) last later) := by
  obtain ⟨others, parts, split, size⟩ := stands.rest
  have past : ready write (ready write frames come) (come + batch.length) =
      ready write frames come := ready_flatMap (by omega)
  have more : ready write frames (come + batch.length) =
      ready write frames come ++ ready write others (unread fed).length := by
    have joined := @ready_append α β write (ready write frames come) others
      (come + batch.length) past
    rw [← parts] at joined
    have fresh : come + batch.length - ((ready write frames come).flatMap write).length =
        (unread fed).length := by
      rw [same, length_append]
      omega
    rw [joined, fresh]
  have goodOthers : ∀ frame ∈ others, Good frame := fun frame inside =>
    good frame (parts ▸ mem_append_right _ inside)
  obtain ⟨last, drained, valid, state⟩ := @drain_ready α β γ σ ε τ handle Valid take unread next write
    value Good feed follows delimits others goodOthers fed valid later
    (by rw [same, append_assoc, split]) work fuel enough
  refine ⟨last, _, more, drained, fun goes => ⟨valid, ?_⟩⟩
  obtain ⟨beyond, left, rest, -⟩ := state goes
  refine ⟨beyond, ?_, rest, ?_⟩
  · rw [more, append_assoc, ← left, ← parts]
  · have lengths := congrArg List.length rest
    have all := congrArg List.length split
    have pieces := congrArg (fun frames => (frames.flatMap write).length) left
    simp only [flatMap_append, length_append] at pieces lengths all
    rw [more, flatMap_append, length_append]
    omega

end Draining
end Streaming

end Simble.Lib
