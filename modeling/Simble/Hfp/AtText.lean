import Simble.Hfp.At

/-! AT parameters as written: values in quotes or bare, lists in parentheses. What
`parse_parameters` makes of them, and where that is not what was written. -/
namespace Simble.Hfp
open Tokenizer List

/-- A parameter with the way in which its values are written. -/
inductive AtText where
  | quoted (bytes : Bytes)
  | bare (bytes : Bytes)
  | list (items : List AtText)

namespace AtText

mutual

def tree : AtText → AtParameter
  | quoted bytes => .value bytes
  | bare bytes => .value bytes
  | list items => .list (trees items)

def trees : List AtText → List AtParameter
  | [] => []
  | item :: items => item.tree :: trees items

end

mutual

def render : AtText → Bytes
  | quoted bytes => quote :: bytes ++ [quote]
  | bare bytes => bytes
  | list items => openParen :: renderAll items ++ [closeParen]

/-- Parameters with commas between them. -/
def renderAll : List AtText → Bytes
  | [] => []
  | [item] => item.render
  | item :: items => item.render ++ comma :: renderAll items

end

def special : List UInt8 := [space, comma, openParen, closeParen, quote]

/-- What may be written: no quote in quotes, and nothing special outside of them. -/
inductive Writable : AtText → Prop where
  | quoted {bytes : Bytes} (plain : quote ∉ bytes) : Writable (quoted bytes)
  | bare {bytes : Bytes} (plain : ∀ b ∈ bytes, b ∉ special) : Writable (bare bytes)
  | list {items : List AtText} (each : ∀ item ∈ items, Writable item) : Writable (list items)

theorem trees_eq (items : List AtText) : trees items = items.map tree := by
  induction items with
  | nil => rfl
  | cons item items ih => rw [trees, ih, map_cons]

theorem induct {P : AtText → Prop} (quoted : ∀ bytes, P (quoted bytes))
    (bare : ∀ bytes, P (bare bytes))
    (list : ∀ items, (∀ item ∈ items, P item) → P (list items)) (text : AtText) : P text :=
  @AtText.rec P (fun items => ∀ item ∈ items, P item) quoted bare list
    (fun _ absent => absurd absent not_mem_nil)
    (fun _ _ first rest => List.forall_mem_cons.mpr ⟨first, rest⟩) text

/-! ## Tokens -/

mutual

def tokens : AtText → List Bytes
  | quoted bytes => [bytes].filter (· ≠ [])
  | bare bytes => [bytes].filter (· ≠ [])
  | list items => [openParen] :: tokensAll items ++ [[closeParen]]

def tokensAll : List AtText → List Bytes
  | [] => []
  | [item] => item.tokens
  | item :: items => item.tokens ++ [comma] :: tokensAll items

end

structure Seen (state : Tokenizer) (seen : List Bytes) : Prop where
  outside : state.inQuotes = false
  same : (state.tokens ++ [state.token]).filter (· ≠ []) = seen

/-- No token has been begun. -/
def Fresh (state : Tokenizer) (seen : List Bytes) : Prop := Seen state seen ∧ state.token = []

theorem foldlM_quoted {bytes : Bytes} (plain : quote ∉ bytes) (seen : List Bytes) (token : Bytes) :
    bytes.foldlM Tokenizer.push ⟨seen, true, token⟩ = .ok ⟨seen, true, token ++ bytes⟩ := by
  induction bytes generalizing token with
  | nil =>
    rw [append_nil]
    rfl
  | cons b bytes ih =>
    obtain ⟨apart, later⟩ := not_or.mp (mt List.mem_cons.mpr plain)
    have pushed : Tokenizer.push ⟨seen, true, token⟩ b = .ok ⟨seen, true, token ++ [b]⟩ := by
      simp only [Tokenizer.push, if_true, if_neg (Ne.symm apart)]
    rw [foldlM_cons, pushed]
    apply (ih later _).trans
    rw [append_assoc]
    rfl

theorem foldlM_bare {bytes : Bytes} (plain : ∀ b ∈ bytes, b ∉ special) (seen : List Bytes)
    (token : Bytes) :
    bytes.foldlM push ⟨seen, false, token⟩ = .ok ⟨seen, false, token ++ bytes⟩ := by
  induction bytes generalizing token with
  | nil =>
    rw [List.append_nil]
    rfl
  | cons b bytes ih =>
    rw [List.forall_mem_cons] at plain
    have apart := plain.1
    simp only [special, List.mem_cons, List.not_mem_nil, or_false, not_or] at apart
    obtain ⟨noSpace, noComma, noOpen, noClose, noQuote⟩ := apart
    have pushed : push ⟨seen, false, token⟩ b = .ok ⟨seen, false, token ++ [b]⟩ := by
      simp [push, noSpace, noComma, noOpen, noClose, noQuote]
    rw [List.foldlM_cons, pushed]
    apply (ih plain.2 _).trans
    rw [List.append_assoc]
    rfl

theorem push_separator {state : Tokenizer} {seen : List Bytes} (known : Seen state seen) {b : UInt8}
    (separator : b = comma ∨ b = closeParen) :
    ∃ next, state.push b = .ok next ∧ Fresh next (seen ++ [[b]]) := by
  obtain ⟨tokens, inQuotes, token⟩ := state
  obtain ⟨rfl, same⟩ := known
  have noSpace : b ≠ space := by
    rcases separator with rfl | rfl <;> decide
  refine ⟨⟨tokens ++ [token, [b]], false, []⟩, ?_, ⟨rfl, ?_⟩, rfl⟩
  · simp [push, noSpace, separator]
  · rw [← same]
    by_cases none : token = [] <;> simp [filter_append, none]

theorem push_open {state : Tokenizer} {seen : List Bytes} (fresh : Fresh state seen) :
    ∃ next, state.push openParen = .ok next ∧ Fresh next (seen ++ [[openParen]]) := by
  obtain ⟨tokens, inQuotes, token⟩ := state
  obtain ⟨⟨rfl, same⟩, rfl⟩ := fresh
  refine ⟨⟨tokens ++ [[openParen]], false, []⟩, ?_, ⟨rfl, ?_⟩, rfl⟩
  · simp [push, openParen, space, comma, closeParen]
  · rw [← same]
    simp [filter_append]

theorem renderAll_cons (item second : AtText) (items : List AtText) :
    renderAll (item :: second :: items) = item.render ++ comma :: renderAll (second :: items) := by
  rw [renderAll]
  exact cons_ne_nil _ _

theorem tokensAll_cons (item second : AtText) (items : List AtText) :
    tokensAll (item :: second :: items) = item.tokens ++ [comma] :: tokensAll (second :: items) := by
  rw [tokensAll]
  exact cons_ne_nil _ _

def ReadsAs (bytes : Bytes) (tokens : List Bytes) : Prop :=
  ∀ state seen, Fresh state seen →
    ∃ next, bytes.foldlM Tokenizer.push state = .ok next ∧ Seen next (seen ++ tokens)

theorem renderAll_reads {items : List AtText}
    (each : ∀ item ∈ items, ReadsAs item.render item.tokens) :
    ReadsAs (renderAll items) (tokensAll items) := by
  induction items with
  | nil =>
    intro state seen fresh
    rw [renderAll, tokensAll, append_nil]
    exact ⟨state, rfl, fresh.1⟩
  | cons item items ih =>
    rw [forall_mem_cons] at each
    cases items with
    | nil => exact each.1
    | cons second items =>
      intro state seen fresh
      obtain ⟨first, read, known⟩ := each.1 state seen fresh
      obtain ⟨next, pushed, again⟩ := push_separator known (.inl rfl)
      obtain ⟨last, ended, whole⟩ := ih each.2 next _ again
      refine ⟨last, ?_, ?_⟩
      · rw [renderAll_cons, foldlM_append, read]
        show List.foldlM push first (comma :: renderAll (second :: items)) = _
        rw [foldlM_cons, pushed]
        exact ended
      · rw [tokensAll_cons]
        simpa [append_assoc] using whole

theorem render_reads (text : AtText) (writable : Writable text) : ReadsAs text.render text.tokens := by
  induction text using induct with
  | quoted bytes =>
    have plain : quote ∉ bytes := by
      cases writable with
      | quoted plain => exact plain
    rintro ⟨tokens, inQuotes, token⟩ seen ⟨⟨rfl, same⟩, rfl⟩
    refine ⟨⟨tokens ++ [bytes], false, []⟩, ?_, rfl, ?_⟩
    · have opened : push ⟨tokens, false, []⟩ quote = .ok ⟨tokens, true, [quote]⟩ := by
        simp [push, quote, openParen, space, comma, closeParen]
      have closed : push ⟨tokens, true, [quote] ++ bytes⟩ quote =
          .ok ⟨tokens ++ [bytes], false, []⟩ := by
        simp [push]
      rw [render, cons_append, foldlM_cons, opened]
      show List.foldlM push ⟨tokens, true, [quote]⟩ (bytes ++ [quote]) = _
      rw [foldlM_append, foldlM_quoted plain]
      show List.foldlM push ⟨tokens, true, [quote] ++ bytes⟩ [quote] = _
      rw [foldlM_cons, closed]
      rfl
    · rw [← same, AtText.tokens]
      by_cases none : bytes = [] <;> simp [filter_append, none]
  | bare bytes =>
    have plain : ∀ b ∈ bytes, b ∉ special := by
      cases writable with
      | bare plain => exact plain
    rintro ⟨tokens, inQuotes, token⟩ seen ⟨⟨rfl, same⟩, rfl⟩
    refine ⟨⟨tokens, false, bytes⟩, ?_, rfl, ?_⟩
    · rw [render, foldlM_bare plain]
      rfl
    · rw [← same, AtText.tokens]
      simp [filter_append]
  | list items ih =>
    have each : ∀ item ∈ items, Writable item := by
      cases writable with
      | list each => exact each
    intro state seen fresh
    obtain ⟨opened, pushed, begun⟩ := push_open fresh
    obtain ⟨inside, read, known⟩ :=
      renderAll_reads (fun item listed => ih item listed (each item listed)) opened _ begun
    obtain ⟨closed, pushed', ended, -⟩ := push_separator known (.inr rfl)
    refine ⟨closed, ?_, ?_⟩
    · rw [render, cons_append, foldlM_cons, pushed]
      show List.foldlM push opened (renderAll items ++ [closeParen]) = _
      rw [foldlM_append, read]
      show List.foldlM push inside [closeParen] = _
      rw [foldlM_cons, pushed']
      rfl
    · rw [AtText.tokens]
      simpa [append_assoc] using ended

theorem tokenize_renderAll {items : List AtText} (writable : ∀ item ∈ items, Writable item) :
    tokenizeParameters (renderAll items) = .ok (tokensAll items) := by
  obtain ⟨last, read, -, same⟩ := renderAll_reads
    (fun item listed => item.render_reads (writable item listed)) ⟨[], false, []⟩ [] ⟨⟨rfl, rfl⟩, rfl⟩
  rw [tokenizeParameters, read]
  exact congrArg Except.ok same

end AtText

/-! ## Trees -/

/-- The octets that the structural pass takes for a separator when a token is nothing else. -/
def separators : List Bytes := [[comma], [openParen], [closeParen]]

/-- A parameter that survives: no value that is only a separator, and no list without items. -/
inductive Kept : AtParameter → Prop where
  | value {bytes : Bytes} (plain : bytes ∉ separators) : Kept (.value bytes)
  | list {items : List AtParameter} (some : items ≠ []) (each : ∀ item ∈ items, Kept item) :
      Kept (.list items)

theorem Kept.empty : Kept (.value []) := .value (by decide)

structure KeptState (state : ParameterParser) : Prop where
  top : ∀ item ∈ state.top, Kept item
  below : ∀ items ∈ state.below, ∀ item ∈ items, Kept item
  current : Kept state.current

theorem kept_snoc {items : List AtParameter} {last : AtParameter} (each : ∀ item ∈ items, Kept item)
    (also : Kept last) : ∀ item ∈ items ++ [last], Kept item := by
  intro item listed
  rcases List.mem_append.mp listed with before | new
  · exact each item before
  · rw [List.mem_singleton.mp new]
    exact also

theorem KeptState.push {state next : ParameterParser} (kept : KeptState state) {token : Bytes}
    (pushed : state.push token = .ok next) : KeptState next := by
  obtain ⟨top, below, current⟩ := state
  obtain ⟨topKept, belowKept, currentKept⟩ := kept
  simp only [ParameterParser.push] at pushed
  split_ifs at pushed with isComma isOpen isClose
  · cases pushed
    exact ⟨kept_snoc topKept currentKept, belowKept, .empty⟩
  · cases pushed
    exact ⟨by simp, List.forall_mem_cons.mpr ⟨topKept, belowKept⟩, currentKept⟩
  · cases below with
    | nil => cases pushed
    | cons outer below =>
      cases pushed
      rw [forall_mem_cons] at belowKept
      exact ⟨belowKept.1, belowKept.2, .list (by simp) (kept_snoc topKept currentKept)⟩
  · cases pushed
    refine ⟨topKept, belowKept, .value ?_⟩
    simp [separators, isComma, isOpen, isClose]

theorem KeptState.foldlM {tokens : List Bytes} {state last : ParameterParser} (kept : KeptState state)
    (read : tokens.foldlM ParameterParser.push state = .ok last) : KeptState last := by
  induction tokens generalizing state with
  | nil =>
    cases read
    exact kept
  | cons token tokens ih =>
    rw [foldlM_cons] at read
    cases pushed : state.push token with
    | error error =>
      rw [pushed] at read
      cases read
    | ok next =>
      rw [pushed] at read
      exact ih (kept.push pushed) read

theorem kept_of_parse {buffer : Bytes} {parameters : List AtParameter}
    (parsed : parseParameters buffer = .ok parameters) :
    parameters ≠ [] ∧ ∀ item ∈ parameters, Kept item := by
  unfold parseParameters at parsed
  cases tokenized : tokenizeParameters buffer with
  | error error =>
    rw [tokenized] at parsed
    cases parsed
  | ok tokens =>
    rw [tokenized] at parsed
    cases read : tokens.foldlM ParameterParser.push ⟨[], [], .value []⟩ with
    | error error =>
      simp only [bind, Except.bind, read] at parsed
      cases parsed
    | ok last =>
      simp only [bind, Except.bind, read] at parsed
      have kept : KeptState last := by
        refine KeptState.foldlM ?_ read
        exact ⟨by simp, by simp, .empty⟩
      split_ifs at parsed
      cases parsed
      exact ⟨by simp, kept_snoc kept.top kept.current⟩

namespace AtText

def Builds (text : AtText) : Prop :=
  ∀ top below, text.tokens.foldlM ParameterParser.push ⟨top, below, .value []⟩ =
    .ok ⟨top, below, text.tree⟩

theorem value_builds {bytes : Bytes} (plain : bytes ∉ separators) (top : List AtParameter)
    (below : List (List AtParameter)) :
    ([bytes].filter (· ≠ [])).foldlM ParameterParser.push ⟨top, below, .value []⟩ =
      .ok ⟨top, below, .value bytes⟩ := by
  by_cases none : bytes = []
  · rw [none]
    rfl
  · simp only [separators, mem_cons, not_mem_nil, or_false, not_or] at plain
    have pushed : ParameterParser.push ⟨top, below, .value []⟩ bytes =
        .ok ⟨top, below, .value bytes⟩ := by
      simp only [ParameterParser.push, if_neg plain.1, if_neg plain.2.1, if_neg plain.2.2]
    have listed : [bytes].filter (· ≠ []) = [bytes] := by simp [none]
    rw [listed, foldlM_cons, pushed]
    rfl

theorem all_build {items : List AtText} (each : ∀ item ∈ items, Builds item) (some : items ≠ [])
    (top : List AtParameter) (below : List (List AtParameter)) :
    ∃ front last, items.map tree = front ++ [last] ∧
      (tokensAll items).foldlM ParameterParser.push ⟨top, below, .value []⟩ =
        .ok ⟨top ++ front, below, last⟩ := by
  induction items generalizing top with
  | nil => exact absurd rfl some
  | cons item items ih =>
    rw [forall_mem_cons] at each
    cases items with
    | nil =>
      refine ⟨[], item.tree, rfl, ?_⟩
      rw [tokensAll, each.1, append_nil]
    | cons second items =>
      obtain ⟨front, last, split, built⟩ := ih each.2 (by simp) (top ++ [item.tree])
      refine ⟨item.tree :: front, last, by rw [map_cons, split]; rfl, ?_⟩
      rw [tokensAll_cons, foldlM_append, each.1]
      show List.foldlM ParameterParser.push ⟨top, below, item.tree⟩
        ([comma] :: tokensAll (second :: items)) = _
      rw [foldlM_cons]
      show List.foldlM ParameterParser.push ⟨top ++ [item.tree], below, .value []⟩
        (tokensAll (second :: items)) = _
      rw [built, append_assoc]
      rfl

theorem builds (text : AtText) (kept : Kept text.tree) : Builds text := by
  induction text using induct with
  | quoted bytes =>
    have plain : bytes ∉ separators := by
      cases kept with
      | value plain => exact plain
    exact value_builds plain
  | bare bytes =>
    have plain : bytes ∉ separators := by
      cases kept with
      | value plain => exact plain
    exact value_builds plain
  | list items ih =>
    rw [tree, trees_eq] at kept
    obtain ⟨some, each⟩ : items ≠ [] ∧ ∀ item ∈ items, Kept item.tree := by
      cases kept with
      | list some each =>
        rw [forall_mem_map] at each
        exact ⟨fun none => some (by rw [none]; rfl), each⟩
    intro top below
    obtain ⟨front, last, split, built⟩ :=
      all_build (fun item listed => ih item listed (each item listed)) some [] (top :: below)
    rw [tokens, cons_append, foldlM_cons]
    show List.foldlM ParameterParser.push ⟨[], top :: below, .value []⟩
      (tokensAll items ++ [[closeParen]]) = _
    rw [foldlM_append, built, tree, trees_eq, split]
    rfl

end AtText

open AtText in
/-- Parameters that are written are parsed again exactly if all of them survive. -/
theorem parse_renderAll_iff {texts : List AtText} (writable : ∀ text ∈ texts, Writable text) :
    parseParameters (renderAll texts) = .ok (texts.map tree) ↔
      texts ≠ [] ∧ ∀ text ∈ texts, Kept text.tree := by
  constructor
  · intro parsed
    obtain ⟨some, each⟩ := kept_of_parse parsed
    rw [forall_mem_map] at each
    exact ⟨fun none => some (by rw [none]; rfl), each⟩
  · rintro ⟨some, each⟩
    obtain ⟨front, last, split, built⟩ :=
      all_build (fun text listed => text.builds (each text listed)) some [] []
    rw [parseParameters, tokenize_renderAll writable]
    simp only [bind, Except.bind, built, split]
    rfl

end Simble.Hfp
