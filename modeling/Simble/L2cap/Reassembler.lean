import Simble.Octets
import Simble.Lib.Keyed

/-! Reassembly of L2CAP frames out of ACL fragments (`l2cap/reassembler.rs`,
`packets/l2cap_frame.rs`). -/
namespace Simble.L2cap
open List

def serialize (cid : UInt16) (payload : Bytes) : Bytes :=
  U16.toLeBytes (UInt16.ofNat payload.length) ++ U16.toLeBytes cid ++ payload

structure AclReassembler where
  buffers : Map UInt16 (Nat × Bytes)

namespace AclReassembler

def new : AclReassembler := ⟨∅⟩

variable (reassembler : AclReassembler)

def tooShort : SimbleError :=
  .packetParseError "First ACL fragment too short to contain L2CAP header"

def lost (handle : UInt16) (expected : Nat) (pending : Bytes) : SimbleError :=
  .packetParseError ("New L2CAP frame began on connection " ++ hexWord handle ++ " while " ++
    toString pending.length ++ " of " ++ toString expected ++
    " bytes were still pending — the remainder of that frame was lost in transit")

def stray (handle : UInt16) : SimbleError :=
  .packetParseError ("Received continuation fragment for connection " ++ hexWord handle ++
    " without first fragment")

def pushFragment (handle : UInt16) (isFirst : Bool) (fragment : Bytes) :
    AclReassembler × Except SimbleError (Option Bytes) :=
  if isFirst then
    match fragment with
    | low :: high :: _ :: _ :: _ =>
      match reassembler.buffers.lookup handle with
      | some (expected, pending) =>
        -- The rest of that frame is never coming.
        (⟨reassembler.buffers.erase handle⟩, .error (lost handle expected pending))
      | none =>
        let expectedTotalLen := 4 + (U16.fromLeBytes low high).toNat
        if fragment.length ≥ expectedTotalLen then
          (⟨reassembler.buffers.erase handle⟩, .ok (some (fragment.take expectedTotalLen)))
        else
          (⟨reassembler.buffers.insert handle (expectedTotalLen, fragment)⟩, .ok none)
    | _ => (reassembler, .error tooShort)
  else
    match reassembler.buffers.lookup handle with
    | none => (reassembler, .error (stray handle))
    | some (expectedTotalLen, pending) =>
      let buf := pending ++ fragment
      if buf.length ≥ expectedTotalLen then
        (⟨reassembler.buffers.erase handle⟩, .ok (some (buf.take expectedTotalLen)))
      else (⟨reassembler.buffers.insert handle (expectedTotalLen, buf)⟩, .ok none)

def onDisconnected (handle : UInt16) : AclReassembler := ⟨reassembler.buffers.erase handle⟩

def push (fragment : UInt16 × Bool × Bytes) : AclReassembler × Except SimbleError (Option Bytes) :=
  reassembler.pushFragment fragment.1 fragment.2.1 fragment.2.2

/-! ## One connection -/

/-- `push_fragment` on the buffer of one connection. -/
def pushSlot (handle : UInt16) (slot : Option (Nat × Bytes)) (fragment : Bool × Bytes) :
    Option (Nat × Bytes) × Except SimbleError (Option Bytes) :=
  if fragment.1 then
    match fragment.2 with
    | low :: high :: _ :: _ :: _ =>
      match slot with
      | some (expected, pending) => (none, .error (lost handle expected pending))
      | none =>
        let expectedTotalLen := 4 + (U16.fromLeBytes low high).toNat
        if fragment.2.length ≥ expectedTotalLen then
          (none, .ok (some (fragment.2.take expectedTotalLen)))
        else (some (expectedTotalLen, fragment.2), .ok none)
    | _ => (slot, .error tooShort)
  else
    match slot with
    | none => (none, .error (stray handle))
    | some (expectedTotalLen, pending) =>
      let buf := pending ++ fragment.2
      if buf.length ≥ expectedTotalLen then (none, .ok (some (buf.take expectedTotalLen)))
      else (some (expectedTotalLen, buf), .ok none)

theorem keyed : Lib.Keyed push (fun handle reassembler => reassembler.buffers.lookup handle)
    pushSlot where
  own reassembler handle fragment := by
    obtain ⟨isFirst, fragment⟩ := fragment
    unfold push pushFragment pushSlot
    cases isFirst <;> simp only [if_true, if_false, Bool.false_eq_true]
    · cases found : reassembler.buffers.lookup handle with
      | none => simp [found]
      | some entry =>
        simp only
        split <;> simp
    · split
      · cases found : reassembler.buffers.lookup handle with
        | none =>
          simp only
          split <;> simp
        | some entry => simp
      · rfl
  others reassembler handle fragment other differs := by
    obtain ⟨isFirst, fragment⟩ := fragment
    unfold push pushFragment
    simp only
    split_ifs <;> (try split) <;> (try split) <;> (try split_ifs) <;> simp [differs]

end AclReassembler

/-! ## Frames in fragments -/

/-- A frame cut into fragments. The first holds the frame's header, and the
last is not empty behind a frame that is whole without it. -/
structure Cut where
  cid : UInt16
  payload : Bytes
  small : payload.length ≤ 65535
  first : Bytes
  rest : List Bytes
  headed : 4 ≤ first.length
  whole : first ++ rest.flatten = serialize cid payload
  ended : rest.getLast? ≠ some []

namespace Cut
variable (cut : Cut)

def frame : Bytes := serialize cut.cid cut.payload

/-- The fragments with their packet boundary: the first, and the continuing ones. -/
def fragments : List (Bool × Bytes) := (true, cut.first) :: cut.rest.map fun data => (false, data)

/-- What a receiver should return: nothing before the last fragment, and then
the frame. -/
def outcome : List (Except SimbleError (Option Bytes)) :=
  (Lib.once cut.fragments.length cut.frame).map .ok

theorem frame_length : cut.frame.length = 4 + cut.payload.length := by
  simp [frame, serialize, U16.toLeBytes]
  omega

theorem first_eq : ∃ cidLow cidHigh data, cut.first =
    (UInt16.ofNat cut.payload.length).toUInt8 ::
      ((UInt16.ofNat cut.payload.length) >>> 8).toUInt8 :: cidLow :: cidHigh :: data := by
  have headed := cut.headed
  have whole := cut.whole
  match first : cut.first with
  | a :: b :: c :: d :: data =>
    rw [first] at whole
    obtain ⟨low, whole⟩ := cons_eq_cons.mp whole
    obtain ⟨high, whole⟩ := cons_eq_cons.mp whole
    exact ⟨c, d, data, by rw [low, high]⟩
  | [] | [_] | [_, _] | [_, _, _] => simp [first] at headed

theorem announced : 4 + (U16.fromLeBytes (UInt16.ofNat cut.payload.length).toUInt8
    ((UInt16.ofNat cut.payload.length) >>> 8).toUInt8).toNat = cut.frame.length := by
  have small := cut.small
  rw [U16.fromLeBytes_toLeBytes, frame_length, UInt16.toNat_ofNat', Nat.mod_eq_of_lt (by omega)]

end Cut

theorem flatten_pos {rest : List Bytes} (more : rest ≠ []) (ended : rest.getLast? ≠ some []) :
    0 < rest.flatten.length := by
  apply length_pos_iff.mpr
  intro empty
  apply ended
  rw [List.getLast?_eq_some_getLast more]
  exact congrArg some (flatten_eq_nil_iff.mp empty _ (getLast_mem more))

namespace AclReassembler

section Slot
variable (handle : UInt16) {total : Nat} {pending data : Bytes}

theorem pushSlot_last (reached : total ≤ (pending ++ data).length) :
    pushSlot handle (some (total, pending)) (false, data) =
      (none, .ok (some ((pending ++ data).take total))) := by
  unfold pushSlot
  simp only [Bool.false_eq_true, if_false, ge_iff_le, if_pos reached]

theorem pushSlot_more (short : (pending ++ data).length < total) :
    pushSlot handle (some (total, pending)) (false, data) =
      (some (total, pending ++ data), .ok none) := by
  unfold pushSlot
  simp only [Bool.false_eq_true, if_false, ge_iff_le, if_neg (Nat.not_le.mpr short)]

theorem pushSlot_stray : pushSlot handle none (false, data) = (none, .error (stray handle)) := rfl

theorem pushSlot_lost (headed : 4 ≤ data.length) :
    pushSlot handle (some (total, pending)) (true, data) =
      (none, .error (lost handle total pending)) := by
  match data with
  | _ :: _ :: _ :: _ :: _ => rfl
  | [] | [_] | [_, _] | [_, _, _] => simp at headed

theorem pushSlot_whole (cut : Cut) (single : cut.rest = []) :
    pushSlot handle none (true, cut.first) = (none, .ok (some cut.frame)) := by
  obtain ⟨cidLow, cidHigh, data, first⟩ := cut.first_eq
  have whole : cut.first ++ cut.rest.flatten = cut.frame := cut.whole
  rw [single, flatten_nil, append_nil] at whole
  have reached : cut.first.length ≥ cut.frame.length := by rw [whole]
  unfold pushSlot
  rw [first] at reached whole ⊢
  simp only [if_true, cut.announced, if_pos reached]
  rw [whole, take_length]

theorem pushSlot_begun (cut : Cut) (several : cut.rest ≠ []) :
    pushSlot handle none (true, cut.first) = (some (cut.frame.length, cut.first), .ok none) := by
  obtain ⟨cidLow, cidHigh, data, first⟩ := cut.first_eq
  have left := flatten_pos several cut.ended
  have whole : cut.first ++ cut.rest.flatten = cut.frame := cut.whole
  have short : ¬ cut.first.length ≥ cut.frame.length := by
    rw [← whole, length_append]
    omega
  unfold pushSlot
  rw [first] at short ⊢
  simp only [if_true, cut.announced, if_neg short]

/-- Continuing fragments of a frame that is not yet whole. -/
theorem feed_rest (pending : Bytes) {rest : List Bytes} (more : rest ≠ [])
    (ended : rest.getLast? ≠ some []) :
    Lib.feed (m := Id) (pushSlot handle)
        (some ((pending ++ rest.flatten).length, pending)) (rest.map fun data => (false, data)) =
      (none, (Lib.once rest.length (pending ++ rest.flatten)).map .ok) := by
  induction rest generalizing pending with
  | nil => contradiction
  | cons data rest ih =>
    rcases rest with _ | ⟨next, rest⟩
    · have same : pending ++ [data].flatten = pending ++ data := by simp
      rw [same]
      have last := pushSlot_last handle (Nat.le_refl (pending ++ data).length)
      rw [take_length] at last
      exact Lib.feed_step (m := Id) last rfl
    · have remaining : (next :: rest).getLast? ≠ some [] := by simpa using ended
      have left := flatten_pos (cons_ne_nil _ _) remaining
      have done := ih (pending ++ data) (cons_ne_nil _ _) remaining
      have same : pending ++ data ++ (next :: rest).flatten =
          pending ++ (data :: next :: rest).flatten := by simp
      have short : (pending ++ data).length < (pending ++ (data :: next :: rest).flatten).length := by
        rw [← same]
        simp only [length_append] at left ⊢
        omega
      rw [same] at done
      rw [length_cons, Lib.once_succ (by simp)]
      exact Lib.feed_step (m := Id) (pushSlot_more handle short) done

theorem feed_cut (cut : Cut) :
    Lib.feed (m := Id) (pushSlot handle) none cut.fragments = (none, cut.outcome) := by
  unfold Cut.outcome Cut.fragments
  by_cases several : cut.rest = []
  · rw [several]
    exact Lib.feed_step (m := Id) (pushSlot_whole handle cut several) rfl
  · have done := feed_rest handle cut.first several cut.ended
    have whole : cut.first ++ cut.rest.flatten = cut.frame := cut.whole
    rw [whole] at done
    rw [length_cons, length_map,
      Lib.once_succ (length_pos_iff.mpr several)]
    exact Lib.feed_step (m := Id) (pushSlot_begun handle cut several) done

theorem feed_cuts (cuts : List Cut) :
    Lib.feed (m := Id) (pushSlot handle) none (cuts.flatMap Cut.fragments) =
      (none, cuts.flatMap Cut.outcome) := by
  induction cuts with
  | nil => rfl
  | cons cut rest ih =>
    rw [flatMap_cons, flatMap_cons, Lib.feed_append, feed_cut]
    exact congrArg (fun fed : Option (Nat × Bytes) × List (Except SimbleError (Option Bytes)) =>
      (fed.1, cut.outcome ++ fed.2)) ih

theorem feed_strays (strays : List Bytes) :
    Lib.feed (m := Id) (pushSlot handle) none (strays.map fun data => (false, data)) =
      (none, List.replicate strays.length (.error (stray handle))) := by
  induction strays with
  | nil => rfl
  | cons data rest ih => exact Lib.feed_step (m := Id) (pushSlot_stray handle) ih

end Slot

/-! ## Any interleaving -/

/-- Fragments of any connections, interleaved in any way: each connection gets exactly its frames,
each at its last fragment. When the tail of a frame is lost, the first fragment of the next one
reports it and is dropped, so that its others are strays; the frames behind it come whole again.
-/
theorem reassembles (fragments : List (UInt16 × Bool × Bytes)) :
    (∀ handle (cuts : List Cut), Lib.onKey handle fragments = cuts.flatMap Cut.fragments →
      Lib.onKey handle (Lib.answers push .new fragments) = cuts.flatMap Cut.outcome) ∧
    ∀ (reassembler : AclReassembler) handle total pending,
      reassembler.buffers.lookup handle = some (total, pending) →
      ∀ first (strays : List Bytes) (cuts : List Cut), 4 ≤ first.length →
      Lib.onKey handle fragments = ((true, first) :: strays.map fun data => (false, data)) ++
        cuts.flatMap Cut.fragments →
      Lib.onKey handle (Lib.answers push reassembler fragments) =
        (.error (lost handle total pending) ::
          List.replicate strays.length (.error (stray handle))) ++ cuts.flatMap Cut.outcome := by
  constructor
  · intro handle cuts sent
    rw [keyed.onKey_answers, sent]
    exact congrArg Prod.snd (feed_cuts handle cuts)
  · intro reassembler handle total pending held first strays cuts headed sent
    have reported : Lib.feed (m := Id) (pushSlot handle) (some (total, pending))
        ((true, first) :: strays.map fun data => (false, data)) =
          (none, .error (lost handle total pending) ::
            List.replicate strays.length (.error (stray handle))) :=
      Lib.feed_step (m := Id) (pushSlot_lost handle headed) (feed_strays handle strays)
    rw [keyed.onKey_answers, sent, held, Lib.feed_append, reported]
    exact congrArg (fun fed : Option (Nat × Bytes) × List (Except SimbleError (Option Bytes)) =>
      (.error (lost handle total pending) ::
        List.replicate strays.length (.error (stray handle))) ++ fed.2) (feed_cuts handle cuts)

def attInThree : Cut where
  cid := 4
  payload := [0x0A, 0x2A]
  small := by decide
  first := [2, 0, 4, 0]
  rest := [[0x0A], [0x2A]]
  headed := by decide
  whole := by decide
  ended := by decide

/-- Two connections at once, and one that lost the tail of a frame before. -/
theorem reassembles_interleaved :
    Lib.onKey 1 (Lib.answers push .new [(1, true, [2, 0, 4, 0]), (2, true, [2, 0, 4, 0]),
      (1, false, [0x0A]), (2, false, [0x0A]), (2, false, [0x2A]), (1, false, [0x2A])]) =
        attInThree.outcome ∧
    Lib.onKey 1 (Lib.answers push (push .new (1, true, [9, 0, 4, 0, 1])).1
      [(1, true, [2, 0, 4, 0]), (1, false, [0x0A, 0x2A]), (1, true, [2, 0, 4, 0]),
        (1, false, [0x0A]), (1, false, [0x2A])]) =
      [.error (lost 1 13 [9, 0, 4, 0, 1]), .error (stray 1)] ++ attInThree.outcome :=
  ⟨(reassembles _).1 1 [attInThree] rfl,
    (reassembles _).2 _ 1 13 [9, 0, 4, 0, 1] rfl [2, 0, 4, 0] [[0x0A, 0x2A]] [attInThree]
      (by decide) rfl⟩

/-- The frame that reveals a loss is not delivered, whole as it is. -/
theorem revealing_frame_dropped :
    .ok (some (serialize 4 [7])) ∉ (Lib.feed (m := Id) push .new
      [(1, true, [5, 0, 4, 0, 1]), (1, true, serialize 4 [7])]).2 := by
  decide

/-! ## Any fragments -/

/-- How long the frame is that begins with these octets, by its header. -/
def declared : Bytes → Option Nat
  | low :: high :: _ :: _ :: _ => some (4 + (U16.fromLeBytes low high).toNat)
  | _ => none

def Begun (entry : Nat × Bytes) : Prop :=
  declared entry.2 = some entry.1 ∧ entry.2.length < entry.1

theorem declared_take_append {begun : Bytes} {total : Nat} (known : declared begun = some total)
    (data : Bytes) : declared ((begun ++ data).take total) = some total := by
  match begun with
  | low :: high :: _ :: _ :: rest =>
    obtain rfl := Option.some.inj known
    simp [declared, Nat.add_comm 4]

theorem pushSlot_declared {handle : UInt16} {slot next : Option (Nat × Bytes)}
    {fragment : Bool × Bytes} {answer : Except SimbleError (Option Bytes)}
    (begun : ∀ entry ∈ slot, Begun entry) (pushed : pushSlot handle slot fragment = (next, answer)) :
    (∀ entry ∈ next, Begun entry) ∧
      ∀ frame, answer = .ok (some frame) → declared frame = some frame.length := by
  have whole {octets data : Bytes} {total : Nat} (known : declared octets = some total)
      (reached : total ≤ (octets ++ data).length) :
      declared ((octets ++ data).take total) = some ((octets ++ data).take total).length := by
    rw [declared_take_append known, length_take, Nat.min_eq_left reached]
  unfold pushSlot at pushed
  split at pushed
  · split at pushed
    · rename_i low high _ _ _ octets
      cases slot with
      | some => cases pushed; exact ⟨nofun, nofun⟩
      | none =>
        have known : declared fragment.2 = some (4 + (U16.fromLeBytes low high).toNat) := by
          rw [octets]; rfl
        simp only at pushed
        split at pushed <;> cases pushed
        · rename_i reached
          refine ⟨nofun, ?_⟩
          rintro _ ⟨⟩
          have := @whole fragment.2 [] _ known (by simpa using reached)
          rwa [append_nil] at this
        · rename_i short
          refine ⟨?_, nofun⟩
          rintro _ ⟨⟩
          exact ⟨known, Nat.lt_of_not_le short⟩
    · cases pushed
      exact ⟨begun, nofun⟩
  · cases slot with
    | none => cases pushed; exact ⟨nofun, nofun⟩
    | some entry =>
      obtain ⟨known, _⟩ := begun entry rfl
      simp only at pushed
      split at pushed <;> cases pushed
      · rename_i reached
        exact ⟨nofun, by rintro _ ⟨⟩; exact whole known reached⟩
      · rename_i short
        refine ⟨?_, nofun⟩
        rintro _ ⟨⟩
        refine ⟨?_, Nat.lt_of_not_le short⟩
        match entry with
        | (total, low :: high :: _ :: _ :: rest) => exact known

/-- A fragment arrives on a connection, or the connection goes. -/
def input (reassembler : AclReassembler) :
    UInt16 × Option (Bool × Bytes) → Id (AclReassembler × Except SimbleError (Option Bytes))
  | (handle, some fragment) => reassembler.push (handle, fragment)
  | (handle, none) => (reassembler.onDisconnected handle, .ok none)

/-- Whatever comes, every frame that is returned is as long as its header says, and what is held
of a connection is the start of one with its header, short of what that says. -/
theorem frames_declared (inputs : List (UInt16 × Option (Bool × Bytes))) :
    let (reached, answers) := Lib.feed (m := Id) input .new inputs
    (∀ handle entry, reached.buffers.lookup handle = some entry → Begun entry) ∧
      ∀ frame, .ok (some frame) ∈ answers → declared frame = some frame.length := by
  have start : ∀ handle entry, (new).buffers.lookup handle = some entry → Begun entry := nofun
  generalize new = reassembler at start
  induction inputs generalizing reassembler with
  | nil => exact ⟨start, nofun⟩
  | cons first rest ih =>
    obtain ⟨handle, fragment⟩ := first
    obtain ⟨kept, said⟩ : (∀ other entry,
        (input reassembler (handle, fragment)).1.buffers.lookup other = some entry → Begun entry) ∧
        ∀ frame, (input reassembler (handle, fragment)).2 = .ok (some frame) →
          declared frame = some frame.length := by
      cases fragment with
      | none =>
        refine ⟨fun other entry found => ?_, nofun⟩
        change (reassembler.buffers.erase handle).lookup other = some entry at found
        by_cases same : other = handle
        · rw [same, AList.lookup_erase] at found
          cases found
        · rw [AList.lookup_erase_ne same] at found
          exact start other entry found
      | some fragment =>
        obtain ⟨kept, said⟩ := pushSlot_declared (start handle) (keyed.own reassembler handle fragment)
        refine ⟨fun other entry found => ?_, said⟩
        by_cases same : other = handle
        · exact kept entry (same ▸ found)
        · exact start other entry ((keyed.others _ _ _ _ same).symm.trans found)
    obtain ⟨held, later⟩ := ih _ kept
    refine ⟨held, fun frame inside => ?_⟩
    rcases mem_cons.mp inside with same | inside
    · exact said frame same.symm
    · exact later frame inside

end AclReassembler
end Simble.L2cap
