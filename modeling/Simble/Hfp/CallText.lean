import Simble.Hfp.AtText
import Simble.Hfp.Lines

/-! Caller lines and call lists as they are written and read again (`+CLIP` and `+CLCC`). -/
namespace Simble.Hfp
open AtText List

/-! ## Numbers and strings in parameters -/

theorem utf8_of_fromUtf8 {bytes : Bytes} {text : String} (read : fromUtf8 bytes = some text) :
    utf8 text = bytes := by
  unfold fromUtf8 String.fromUTF8? at read
  split at read
  · cases read
    rfl
  · cases read

variable (n : Nat)

theorem digits_repr : (toString n).toList = Nat.toDigits 10 n := Nat.toList_repr

theorem isDigit_of_mem_repr {n : Nat} {c : Char} (inside : c ∈ (toString n).toList) : c.isDigit := by
  rw [digits_repr] at inside
  exact Nat.isDigit_of_mem_toDigits (by decide) (by decide) inside

theorem repr_ne_nil : (toString n).toList ≠ [] := by
  rw [digits_repr]
  exact Nat.toDigits_ne_nil

variable (v : UInt32)

theorem parseU32_toString : parseU32 (toString v) = some v := by
  have same : toString v = toString v.toNat := rfl
  have unsigned : (toString v.toNat).toList.head? ≠ some '+' := by
    intro signed
    have digit := isDigit_of_mem_repr (mem_of_mem_head? signed)
    exact absurd digit (by decide)
  have digits : (toString v.toNat).toList.all Char.isDigit :=
    List.all_eq_true.mpr fun _ => isDigit_of_mem_repr
  have value :
      (toString v.toNat).toList.foldl (fun n c => 10 * n + (c.toNat - '0'.toNat)) 0 = v.toNat := by
    rw [digits_repr]
    exact Nat.ofDigitChars_ten_toDigits
  unfold parseU32
  rw [same, if_neg unsigned, if_pos ⟨repr_ne_nil _, digits⟩, value, if_pos v.toNat_lt]
  exact congrArg some UInt32.ofNat_toNat

theorem digit_range {b : UInt8} {n : Nat} (inside : b ∈ utf8 (toString n)) (ascii : b.toNat < 0x80) :
    48 ≤ b.toNat ∧ b.toNat ≤ 57 := by
  obtain ⟨c, listed, same⟩ := mem_utf8_ascii ascii inside
  have digit := isDigit_of_mem_repr listed
  rw [← same]
  simp only [Char.isDigit, Bool.and_eq_true, decide_eq_true_eq] at digit
  exact ⟨UInt32.le_iff_toNat_le.mp digit.1, UInt32.le_iff_toNat_le.mp digit.2⟩

theorem digits_plain : ∀ b ∈ utf8 (toString n), b ∉ special := by
  intro b inside found
  have ascii : b.toNat < 0x80 := by
    simp only [special, mem_cons, not_mem_nil, or_false] at found
    rcases found with rfl | rfl | rfl | rfl | rfl <;> decide
  have range := digit_range inside ascii
  simp only [special, mem_cons, not_mem_nil, or_false] at found
  rcases found with rfl | rfl | rfl | rfl | rfl <;> exact absurd range (by decide)

theorem utf8_ne_nil {text : String} (some : text ≠ "") : utf8 text ≠ [] := by
  intro none
  have same := fromUtf8_utf8 text
  rw [none] at same
  exact some (Option.some.inj same).symm

theorem digits_ne_nil : utf8 (toString n) ≠ [] := by
  apply utf8_ne_nil
  intro none
  apply repr_ne_nil n
  rw [none]
  rfl

def numberText (v : UInt32) : AtText := .bare (utf8 (toString v))

theorem writable_number : Writable (numberText v) := .bare (digits_plain v.toNat)

theorem digits_kept : utf8 (toString n) ∉ separators := by
  intro found
  have plain := digits_plain n
  simp only [separators, mem_cons, not_mem_nil, or_false] at found
  rcases found with same | same | same <;> rw [same] at plain <;>
    exact absurd (plain _ mem_cons_self) (by decide)

theorem kept_number : Kept (numberText v).tree := .value (digits_kept v.toNat)

theorem asU32_number : (numberText v).tree.asU32 = some v := by
  show (fromUtf8 (utf8 (toString v))).bind parseU32 = some v
  rw [fromUtf8_utf8]
  exact parseU32_toString v

theorem nonempty_number :
    (nonemptyParamStr (some (numberText v).tree)).bind parseU32 = some v := by
  show (if utf8 (toString v) ≠ [] then fromUtf8 (utf8 (toString v)) else none).bind parseU32 = some v
  have some : utf8 (toString v) ≠ [] := digits_ne_nil v.toNat
  rw [if_pos some, fromUtf8_utf8]
  exact parseU32_toString v

def stringText (text : String) : AtText := .quoted (utf8 text)

theorem asStr_string (text : String) : (stringText text).tree.asStr = some text := fromUtf8_utf8 text

def Plain (text : String) : Prop := utf8 text ∉ separators

instance (text : String) : Decidable (Plain text) :=
  inferInstanceAs (Decidable (utf8 text ∉ separators))

theorem nonempty_string {text : String} (some' : text ≠ "") :
    nonemptyParamStr (some (stringText text).tree) = some text := by
  show (if utf8 text ≠ [] then fromUtf8 (utf8 text) else none) = some text
  rw [if_pos (utf8_ne_nil some'), fromUtf8_utf8]

theorem plain_of_asStr {parameter : AtParameter} (kept : Kept parameter) {text : String}
    (read : parameter.asStr = some text) : Plain text := by
  cases kept with
  | list => cases read
  | value plain =>
    have read' : fromUtf8 _ = some text := read
    unfold Plain
    rw [utf8_of_fromUtf8 read']
    exact plain

theorem asStr_of_nonempty {parameter : AtParameter} {text : String}
    (read : nonemptyParamStr (some parameter) = some text) : parameter.asStr = some text := by
  cases parameter with
  | list => cases read
  | value bytes =>
    rw [nonemptyParamStr] at read
    split_ifs at read
    exact read

theorem plain_of_bind {parameters : List AtParameter} (kept : ∀ item ∈ parameters, Kept item)
    {i : Nat} {text : String} (read : parameters[i]?.bind AtParameter.asStr = some text) :
    Plain text := by
  obtain ⟨parameter, found, read⟩ := Option.bind_eq_some_iff.mp read
  exact plain_of_asStr (kept parameter (mem_of_getElem? found)) read

theorem utf8_joinComma {fields : List String} {texts : List AtText}
    (same : fields.map utf8 = texts.map render) : utf8 (joinComma fields) = renderAll texts := by
  unfold joinComma
  induction fields generalizing texts with
  | nil =>
    cases texts with
    | nil => rfl
    | cons => cases same
  | cons field fields ih =>
    cases texts with
    | nil => cases same
    | cons text texts =>
      obtain ⟨first, rest⟩ := List.cons.inj same
      cases fields with
      | nil =>
        cases texts with
        | nil =>
          rw [String.intercalate_singleton]
          exact first
        | cons => cases rest
      | cons second fields =>
        cases texts with
        | nil => cases rest
        | cons second' texts =>
          rw [String.intercalate_cons_cons, utf8_append, utf8_append, ih rest, first, renderAll_cons,
            append_assoc]
          rfl

theorem utf8_quoted (text : String) : utf8 s!"\"{text}\"" = (stringText text).render := by
  show utf8 ("\"" ++ text ++ "\"") = _
  rw [utf8_append, utf8_append]
  rfl

/-! ## Caller lines -/

namespace CallLineIdentification

def texts (cli : CallLineIdentification) : List AtText :=
  let optional := [cli.subaddr.map stringText, cli.satype.map numberText, cli.alpha.map stringText,
    cli.cliValidity.map numberText]
  [stringText cli.number, numberText cli.kind] ++
    (optional.rdropWhile fun text => text.isNone).map (·.getD (.bare []))

/-- `parse_from`, of what `to_clip_string` writes. -/
def recovered (cli : CallLineIdentification) : Option CallLineIdentification :=
  (parseParameters (utf8 cli.toClipString)).toOption.bind parseFrom

/-- What `parse_from` makes of an absent string that is not at the end. -/
def filled (cli : CallLineIdentification) : CallLineIdentification := { cli with
  subaddr := if cli.satype.isSome ∨ cli.alpha.isSome ∨ cli.cliValidity.isSome then
    some (cli.subaddr.getD "") else cli.subaddr
  alpha := if cli.cliValidity.isSome then some (cli.alpha.getD "") else cli.alpha }

theorem utf8_toClipString (cli : CallLineIdentification) :
    utf8 cli.toClipString = renderAll cli.texts := by
  unfold toClipString texts
  apply utf8_joinComma
  obtain ⟨number, kind, subaddr, satype, alpha, cliValidity⟩ := cli
  have bare (v : UInt32) : utf8 (toString v) = (numberText v).render := rfl
  have none : utf8 "" = (AtText.bare []).render := rfl
  cases subaddr <;> cases satype <;> cases alpha <;> cases cliValidity <;>
    simp only [List.rdropWhile, reverse_cons, reverse_nil, Option.map_some, Option.map_none,
      nil_append, cons_append, dropWhile_cons, decide_true, if_true, map_cons,
      map_nil, utf8_quoted, bare, none, Option.isNone_some, Option.isNone_none,
      dropWhile_nil, reduceCtorEq, decide_false, Bool.false_eq_true, if_false, Option.getD_some,
      Option.getD_none]

theorem parseFrom_texts (cli : CallLineIdentification) (nonempty : cli.number ≠ "") :
    parseFrom (cli.texts.map tree) = some cli.filled := by
  obtain ⟨number, kind, subaddr, satype, alpha, cliValidity⟩ := cli
  have first := nonempty_string nonempty
  have second := nonempty_number kind
  have absent : (AtText.bare []).tree.asStr = some "" := rfl
  have absent' : nonemptyParamStr (some (AtText.bare []).tree) = none := rfl
  have outside : nonemptyParamStr none = none := rfl
  cases subaddr <;> cases satype <;> cases alpha <;> cases cliValidity <;>
    simp [parseFrom, texts, filled, List.rdropWhile, first, second, absent, absent', outside,
      asStr_string, nonempty_number]

/-- The caller lines that survive: no string that is only a separator, and nothing absent before
what is there, but for the type of a subaddress. -/
structure Survives (cli : CallLineIdentification) : Prop where
  number : Plain cli.number
  subaddr : ∀ text ∈ cli.subaddr, Plain text
  alpha : ∀ text ∈ cli.alpha, Plain text
  noSubaddr : cli.subaddr = none → cli.satype = none ∧ cli.alpha = none ∧ cli.cliValidity = none
  noAlpha : cli.alpha = none → cli.cliValidity = none

/-- No double quote in any string. -/
structure Unquoted (cli : CallLineIdentification) : Prop where
  number : quote ∉ utf8 cli.number
  subaddr : ∀ text ∈ cli.subaddr, quote ∉ utf8 text
  alpha : ∀ text ∈ cli.alpha, quote ∉ utf8 text

theorem filled_eq_iff (cli : CallLineIdentification) : cli.filled = cli ↔
    (cli.subaddr = none → cli.satype = none ∧ cli.alpha = none ∧ cli.cliValidity = none) ∧
    (cli.alpha = none → cli.cliValidity = none) := by
  obtain ⟨number, kind, subaddr, satype, alpha, cliValidity⟩ := cli
  cases subaddr <;> cases satype <;> cases alpha <;> cases cliValidity <;> simp [filled]

variable {cli : CallLineIdentification}

theorem mem_texts {text : AtText} (listed : text ∈ cli.texts) :
    text = stringText cli.number ∨ (∃ v, text = numberText v) ∨ text = .bare [] ∨
      (∃ value ∈ cli.subaddr, text = stringText value) ∨
      ∃ value ∈ cli.alpha, text = stringText value := by
  rcases List.mem_append.mp listed with first | later
  · simp only [mem_cons, not_mem_nil, or_false] at first
    rcases first with rfl | rfl
    · exact .inl rfl
    · exact .inr (.inl ⟨_, rfl⟩)
  · obtain ⟨field, inside, rfl⟩ := List.mem_map.mp later
    have one := (List.rdropWhile_prefix _ _).subset inside
    cases field with
    | none => exact .inr (.inr (.inl rfl))
    | some field =>
      simp only [mem_cons, not_mem_nil, or_false] at one
      rcases one with same | same | same | same <;>
        obtain ⟨value, there, rfl⟩ := Option.map_eq_some_iff.mp same.symm
      · exact .inr (.inr (.inr (.inl ⟨value, there, rfl⟩)))
      · exact .inr (.inl ⟨value, rfl⟩)
      · exact .inr (.inr (.inr (.inr ⟨value, there, rfl⟩)))
      · exact .inr (.inl ⟨value, rfl⟩)

theorem writable_texts (unquoted : Unquoted cli) :
    ∀ text ∈ cli.texts, Writable text := by
  intro text listed
  rcases mem_texts listed with rfl | ⟨v, rfl⟩ | rfl | ⟨value, there, rfl⟩ | ⟨value, there, rfl⟩
  · exact .quoted unquoted.number
  · exact writable_number v
  · exact .bare (by simp)
  · exact .quoted (unquoted.subaddr value there)
  · exact .quoted (unquoted.alpha value there)

theorem recovered_eq_filled (nonempty : cli.number ≠ "") (unquoted : Unquoted cli)
    (number : Plain cli.number) (subaddr : ∀ text ∈ cli.subaddr, Plain text)
    (alpha : ∀ text ∈ cli.alpha, Plain text) : cli.recovered = some cli.filled := by
  have kept : ∀ text ∈ cli.texts, Kept text.tree := by
    intro text listed
    rcases mem_texts listed with rfl | ⟨v, rfl⟩ | rfl | ⟨value, there, rfl⟩ | ⟨value, there, rfl⟩
    · exact .value number
    · exact kept_number v
    · exact .empty
    · exact .value (subaddr value there)
    · exact .value (alpha value there)
  have parsed := (parse_renderAll_iff (writable_texts unquoted)).mpr ⟨by simp [texts], kept⟩
  unfold recovered
  rw [utf8_toClipString, parsed]
  exact parseFrom_texts cli nonempty

/-- What is recovered holds no string that is only a separator. -/
theorem plain_of_recovered {cli read : CallLineIdentification} (recovered : cli.recovered = some read) :
    Plain read.number ∧ (∀ text ∈ read.subaddr, Plain text) ∧ ∀ text ∈ read.alpha, Plain text := by
  obtain ⟨parameters, parsed, read'⟩ := Option.bind_eq_some_iff.mp recovered
  have kept : ∀ item ∈ parameters, Kept item := by
    cases outcome : parseParameters (utf8 cli.toClipString) with
    | error =>
      rw [outcome] at parsed
      cases parsed
    | ok whole =>
      rw [outcome] at parsed
      cases parsed
      exact (kept_of_parse outcome).2
  obtain ⟨number, first, read'⟩ := Option.bind_eq_some_iff.mp read'
  obtain ⟨kind, -, read'⟩ := Option.bind_eq_some_iff.mp read'
  cases read'
  refine ⟨?_, fun text there => plain_of_bind kept there, fun text there => plain_of_bind kept there⟩
  cases found : parameters[0]? with
  | none =>
    rw [found] at first
    cases first
  | some parameter =>
    rw [found] at first
    exact plain_of_asStr (kept parameter (mem_of_getElem? found)) (asStr_of_nonempty first)

theorem recovered_iff (nonempty : cli.number ≠ "") (unquoted : Unquoted cli) :
    cli.recovered = some cli ↔ cli.Survives := by
  constructor
  · intro recovered
    obtain ⟨number, subaddr, alpha⟩ := plain_of_recovered recovered
    rw [recovered_eq_filled nonempty unquoted number subaddr alpha] at recovered
    obtain ⟨noSubaddr, noAlpha⟩ := (filled_eq_iff cli).mp (Option.some.inj recovered)
    exact ⟨number, subaddr, alpha, noSubaddr, noAlpha⟩
  · rintro ⟨number, subaddr, alpha, noSubaddr, noAlpha⟩
    rw [recovered_eq_filled nonempty unquoted number subaddr alpha]
    exact congrArg some ((filled_eq_iff cli).mpr ⟨noSubaddr, noAlpha⟩)

end CallLineIdentification
end Simble.Hfp
