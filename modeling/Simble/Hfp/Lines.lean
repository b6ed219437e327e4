import Simble.Lib.Framing
import Simble.Hfp.Hf

/-! The lines of both directions, cut into pieces anywhere. -/
namespace Simble.Hfp
open Simble.Lib List

/-! ## Command lines -/

theorem extractCommandLines_clean {bytes : Bytes} (clean : 0x0D ∉ bytes) :
    extractCommandLines bytes = ([], bytes) := by
  induction bytes with
  | nil => rfl
  | cons first rest ih =>
    obtain ⟨apart, later⟩ := not_or.mp (mt mem_cons.mpr clean)
    rw [extractCommandLines, ih later]
    exact if_neg (Ne.symm apart)

theorem extractCommandLines_append {line : Bytes} (clean : 0x0D ∉ line) (rest : Bytes) :
    extractCommandLines ((line ++ [0x0D]) ++ rest) =
      (line :: (extractCommandLines rest).1, (extractCommandLines rest).2) := by
  induction line with
  | nil =>
    show extractCommandLines (0x0D :: rest) = _
    rw [extractCommandLines]
    exact if_pos rfl
  | cons first line ih =>
    obtain ⟨apart, later⟩ := not_or.mp (mt mem_cons.mpr clean)
    rw [cons_append, cons_append, extractCommandLines, ih later]
    exact if_neg (Ne.symm apart)

/-- Lines that come in two parts: the whole ones are taken, the rest waits. -/
theorem commandLines_taken {lines : List Bytes} (clean : ∀ line ∈ lines, (0x0D : UInt8) ∉ line)
    {front back : Bytes} (split : front ++ back = lines.flatMap (· ++ [0x0D])) : ∃ later,
      lines = (extractCommandLines front).1 ++ later ∧
      (extractCommandLines front).2 ++ back = later.flatMap (· ++ [0x0D]) ∧
      extractCommandLines (extractCommandLines front).2 = ([], (extractCommandLines front).2) := by
  refine @exists_taken _ _ extractCommandLines (0x0D ∉ ·) rfl
    (fun line rest clean => extractCommandLines_append clean rest) ?_ lines clean front back split
  intro line front back clean whole more
  refine extractCommandLines_clean fun inside => clean ?_
  obtain rfl | ⟨back, last, rfl⟩ := eq_nil_or_concat back
  · exact absurd rfl more
  · rw [concat_eq_append, ← append_assoc] at whole
    have same := append_inj_left' whole rfl
    rw [← same]
    exact mem_append_left _ inside

/-! ## Response lines -/

theorem findCrlf_append {line : Bytes} (clean : findCrlf line = none) (rest : Bytes) :
    findCrlf (line ++ 0x0D :: 0x0A :: rest) = some (line, rest) := by
  induction line with
  | nil =>
    rw [nil_append, findCrlf]
    exact if_pos ⟨rfl, rfl⟩
  | cons first line ih =>
    rw [findCrlf] at clean
    split at clean
    · cases clean
    · rename_i apart
      rw [cons_append, findCrlf, ih (Option.map_eq_none_iff.mp clean), if_neg]
      · rfl
      · rintro ⟨return', feed⟩
        refine apart ⟨return', ?_⟩
        cases line with
        | nil => cases feed
        | cons => exact feed

/-- A line that has not ended is not taken. -/
theorem findCrlf_prefix {front back line : Bytes} (clean : findCrlf line = none)
    (cut : front ++ back = line ++ [0x0D]) : findCrlf front = none := by
  induction front generalizing line with
  | nil => rfl
  | cons first front ih =>
    cases line with
    | nil =>
      cases front with
      | nil =>
        rw [findCrlf]
        exact if_neg fun both => by cases both.2
      | cons second front =>
        have lengths := congrArg List.length cut
        simp only [cons_append, length_cons, length_append, nil_append,
          length_nil] at lengths
        omega
    | cons same line =>
      obtain ⟨rfl, cut'⟩ := List.cons.inj cut
      rw [findCrlf] at clean
      split at clean
      · cases clean
      · rename_i apart
        rw [findCrlf, ih (Option.map_eq_none_iff.mp clean) cut', if_neg]
        · rfl
        · rintro ⟨return', feed⟩
          refine apart ⟨return', ?_⟩
          cases front with
          | nil => cases feed
          | cons second front =>
            cases line with
            | nil =>
              obtain ⟨rfl, -⟩ := List.cons.inj cut'
              cases feed
            | cons third line =>
              obtain ⟨rfl, -⟩ := List.cons.inj cut'
              exact feed

theorem extractResponseLines_open {buffer : Bytes}
    (short : ∀ before rest, findCrlf buffer = some (before, rest) → findCrlf rest = none) :
    extractResponseLines buffer = ([], buffer) := by
  rw [extractResponseLines]
  split
  · rfl
  · rename_i header
    split
    · rfl
    · rename_i trailer
      rw [short _ _ header] at trailer
      cases trailer

theorem extractResponseLines_append {line : Bytes} (clean : findCrlf line = none) (rest : Bytes) :
    extractResponseLines (([0x0D, 0x0A] ++ line ++ [0x0D, 0x0A]) ++ rest) =
      (line :: (extractResponseLines rest).1, (extractResponseLines rest).2) := by
  have header : findCrlf (([0x0D, 0x0A] ++ line ++ [0x0D, 0x0A]) ++ rest) =
      some ([], line ++ 0x0D :: 0x0A :: rest) := by
    rw [append_assoc, append_assoc]
    exact @findCrlf_append [] rfl _
  have trailer := findCrlf_append clean rest
  rw [extractResponseLines]
  split
  · rename_i none
    rw [header] at none
    cases none
  · rename_i found
    rw [header] at found
    obtain ⟨rfl, rfl⟩ := Prod.mk.inj (Option.some.inj found)
    split
    · rename_i none
      rw [trailer] at none
      cases none
    · rename_i found'
      rw [trailer] at found'
      obtain ⟨rfl, rfl⟩ := Prod.mk.inj (Option.some.inj found')
      rfl

theorem responseLines_taken {lines : List Bytes} (clean : ∀ line ∈ lines, findCrlf line = none)
    {front back : Bytes}
    (split : front ++ back = lines.flatMap fun line => [0x0D, 0x0A] ++ line ++ [0x0D, 0x0A]) :
    ∃ later, lines = (extractResponseLines front).1 ++ later ∧
      (extractResponseLines front).2 ++ back =
        later.flatMap (fun line => [0x0D, 0x0A] ++ line ++ [0x0D, 0x0A]) ∧
      extractResponseLines (extractResponseLines front).2 = ([], (extractResponseLines front).2) := by
  refine exists_taken (extractResponseLines_open fun _ _ none => by cases none)
    (fun line rest clean => extractResponseLines_append clean rest) ?_ clean split
  intro line front back clean whole more
  -- The last octet of the frame has not come.
  obtain rfl | ⟨back, last, rfl⟩ := eq_nil_or_concat back
  · exact absurd rfl more
  have cut : front ++ back = 0x0D :: 0x0A :: (line ++ [0x0D]) := by
    have same : (front ++ back) ++ [last] = (0x0D :: 0x0A :: (line ++ [0x0D])) ++ [0x0A] := by
      rw [append_assoc, ← concat_eq_append, whole]
      simp
    exact append_inj_left' same rfl
  refine extractResponseLines_open fun before rest header => ?_
  match front with
  | [] => cases header
  | [first] =>
    rw [findCrlf, if_neg fun both => by cases both.2] at header
    cases header
  | first :: second :: front =>
    obtain ⟨same, cut'⟩ := List.cons.inj cut
    obtain ⟨same', cut''⟩ := List.cons.inj cut'
    subst same same'
    rw [findCrlf, if_pos ⟨rfl, rfl⟩] at header
    cases header
    exact findCrlf_prefix clean cut''

theorem responseLines_all {lines : List Bytes} (clean : ∀ line ∈ lines, findCrlf line = none) :
    extractResponseLines (lines.flatMap fun line => [0x0D, 0x0A] ++ line ++ [0x0D, 0x0A]) =
      (lines, []) :=
  extract_flatMap (extractResponseLines_open fun _ _ none => by cases none)
    (fun _ rest clean => extractResponseLines_append clean rest) clean

theorem commandLines_all {lines : List Bytes} (clean : ∀ line ∈ lines, (0x0D : UInt8) ∉ line) :
    extractCommandLines (lines.flatMap (· ++ [0x0D])) = (lines, []) :=
  @extract_flatMap _ _ extractCommandLines (0x0D ∉ ·) rfl
    (fun _ rest clean => extractCommandLines_append clean rest) lines clean

end Simble.Hfp
