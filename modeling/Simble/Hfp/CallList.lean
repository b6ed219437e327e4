import Simble.Hfp.Answers
import Simble.Hfp.CallText

/-! The list of calls, from the gateway's answer to what the hands-free side reads of it. -/
namespace Simble.Hfp
open AtText AgProtocol AtResponse List AtParameter Tokenizer

/-! ## Reading calls -/

/-- The values of an enumeration. -/
def valueAmong (known : List UInt32) (value : UInt32) : Option UInt8 :=
  if value ∈ known then some value.toUInt8 else none

def CallInfoDirection.fromValue : UInt32 → Option UInt8 := valueAmong [0, 1]
def CallInfoStatus.fromValue : UInt32 → Option UInt8 := valueAmong [0, 1, 2, 3, 4, 5]
def CallInfoMode.fromValue : UInt32 → Option UInt8 := valueAmong [0, 1, 2, 9]
def CallInfoMultiParty.fromValue : UInt32 → Option UInt8 := valueAmong [0, 1]

def parseOneCallInfo (response : AtResponse) : Option CallInfo :=
  if response.code ≠ "+CLCC" then none
  else do
    let p := response.parameters
    let index ← p[0]?.bind AtParameter.asU32
    let direction ← (← p[1]?.bind AtParameter.asU32) |> CallInfoDirection.fromValue
    let status ← (← p[2]?.bind AtParameter.asU32) |> CallInfoStatus.fromValue
    let mode ← (← p[3]?.bind AtParameter.asU32) |> CallInfoMode.fromValue
    let multiParty ← (← p[4]?.bind AtParameter.asU32) |> CallInfoMultiParty.fromValue
    return {
      index, direction, status, mode, multiParty
      number := p[5]?.bind AtParameter.asStr
      kind := (p[6]?.bind AtParameter.asU32).map UInt32.toUInt8 }

def parseCallInfos (responses : List AtResponse) : List CallInfo :=
  responses.filterMap parseOneCallInfo

/-- The responses in a stream; a line that cannot be read is passed over. -/
def responsesIn (stream : Bytes) : List AtResponse :=
  (extractResponseLines stream).1.filterMap fun line => (AtResponse.parseFrom line).toOption

namespace CallInfo

structure Listed (call : CallInfo) : Prop where
  direction : call.direction.toUInt32 ∈ [0, 1]
  status : call.status.toUInt32 ∈ [0, 1, 2, 3, 4, 5]
  mode : call.mode.toUInt32 ∈ [0, 1, 2, 9]
  multiParty : call.multiParty.toUInt32 ∈ [0, 1]

/-- No double quote in the number. -/
def Unquoted (call : CallInfo) : Prop := ∀ number ∈ call.number, quote ∉ utf8 number

/-- The calls that survive: a number that is no separator and holds no end of a line, and no kind
without a number. -/
structure Survives (call : CallInfo) : Prop where
  plain : ∀ number ∈ call.number, Plain number
  oneLine : ∀ number ∈ call.number, findCrlf (utf8 number) = none
  numbered : call.number = none → call.kind = none

/-- The parameters before the number. -/
def front (call : CallInfo) : List AtText :=
  [numberText call.index, numberText call.direction.toUInt32, numberText call.status.toUInt32,
    numberText call.mode.toUInt32, numberText call.multiParty.toUInt32]

/-- The parameters from the number on. -/
def remote (call : CallInfo) : List AtText :=
  (call.number.map stringText).toList ++ (call.kind.map fun kind => numberText kind.toUInt32).toList

def texts (call : CallInfo) : List AtText := call.front ++ call.remote

theorem utf8_octet (v : UInt8) : utf8 (toString v) = utf8 (toString v.toUInt32) := rfl

theorem renderAll_eq (first : AtText) (rest : List AtText) :
    renderAll (first :: rest) = first.render ++ rest.flatMap fun text => comma :: text.render := by
  induction rest generalizing first with
  | nil =>
    rw [flatMap_nil, append_nil]
    exact renderAll.eq_2 first
  | cons second rest ih => rw [renderAll_cons, ih, flatMap_cons, cons_append]

theorem utf8_number (number : Option String) :
    utf8 ((number.map fun number => s!",\"{number}\"").getD "") =
      (number.map stringText).toList.flatMap fun text => comma :: text.render := by
  cases number with
  | none => rfl
  | some number =>
    show utf8 (",\"" ++ number ++ "\"") = _
    rw [utf8_append, utf8_append]
    exact (append_nil _).symm

theorem utf8_kind (kind : Option UInt8) : utf8 ((kind.map fun kind => s!",{kind}").getD "") =
    (kind.map fun kind => numberText kind.toUInt32).toList.flatMap fun text =>
      comma :: text.render := by
  cases kind with
  | none => rfl
  | some kind =>
    show utf8 ("," ++ toString kind) = _
    rw [utf8_append]
    exact (append_nil _).symm

theorem utf8_callText (call : CallInfo) :
    utf8 (callText call) = utf8 "+CLCC" ++ colon :: space :: renderAll call.texts := by
  have name : utf8 "+CLCC: " = utf8 "+CLCC" ++ [colon, space] := rfl
  have between : utf8 "," = [comma] := rfl
  have bare (v : UInt32) : (numberText v).render = utf8 (toString v) := rfl
  have parts : callText call = "+CLCC: " ++ toString call.index ++ "," ++
      toString call.direction ++ "," ++ toString call.status ++ "," ++ toString call.mode ++ "," ++
      (toString call.multiParty ++ (call.number.map fun number => s!",\"{number}\"").getD "" ++
        (call.kind.map fun kind => s!",{kind}").getD "") := rfl
  rw [parts]
  unfold texts front remote
  rw [cons_append, renderAll_eq]
  simp only [utf8_append, utf8_number, utf8_kind, name, between, utf8_octet, bare, flatMap_append,
    flatMap_cons, append_assoc, cons_append, nil_append]

end CallInfo

/-! ## Lines -/

theorem findCrlf_concat {front back : Bytes} (first : findCrlf front = none)
    (second : findCrlf back = none) (apart : back.head? ≠ some 0x0A) :
    findCrlf (front ++ back) = none := by
  induction front with
  | nil => exact second
  | cons b front ih =>
    rw [findCrlf] at first
    split_ifs at first with both
    rw [cons_append, findCrlf, if_neg, ih (Option.map_eq_none_iff.mp first)]
    · rfl
    · rintro ⟨return', feed⟩
      cases front with
      | nil => exact apart feed
      | cons => exact both ⟨return', feed⟩

theorem findCrlf_of_clean {bytes : Bytes} (clean : 0x0D ∉ bytes) : findCrlf bytes = none := by
  induction bytes with
  | nil => rfl
  | cons b bytes ih =>
    obtain ⟨apart, later⟩ := not_or.mp (mt mem_cons.mpr clean)
    rw [findCrlf, if_neg fun both => apart both.1.symm, ih later]
    rfl

theorem findCrlf_append_clean {front : Bytes} (clean : 0x0D ∉ front) (back : Bytes) :
    findCrlf (front ++ back) = (findCrlf back).map fun found => (front ++ found.1, found.2) := by
  induction front with
  | nil =>
    rw [nil_append]
    exact Option.map_id_apply.symm
  | cons b front ih =>
    obtain ⟨apart, later⟩ := not_or.mp (mt mem_cons.mpr clean)
    rw [cons_append, findCrlf, if_neg fun both => apart both.1.symm, ih later, Option.map_map]
    rfl

theorem findCrlf_split {bytes front back : Bytes} (found : findCrlf bytes = some (front, back)) :
    bytes = front ++ 0x0D :: 0x0A :: back ∧ findCrlf front = none := by
  induction bytes generalizing front with
  | nil => cases found
  | cons b bytes ih =>
    rw [findCrlf] at found
    split_ifs at found with both
    · cases found
      obtain ⟨rfl, feed⟩ := both
      refine ⟨?_, rfl⟩
      cases bytes with
      | nil => cases feed
      | cons second bytes =>
        cases feed
        rfl
    · obtain ⟨⟨front', back'⟩, inner, same⟩ := Option.map_eq_some_iff.mp found
      cases same
      obtain ⟨rfl, clean⟩ := ih inner
      refine ⟨rfl, ?_⟩
      rw [findCrlf, clean, if_neg]
      · rfl
      · rintro ⟨return', feed⟩
        refine both ⟨return', ?_⟩
        cases front' with
        | nil => cases feed
        | cons => exact feed

theorem parse_space (bytes : Bytes) : parseParameters (space :: bytes) = parseParameters bytes := rfl

theorem parseFrom_clcc (octets : Bytes) :
    parseFrom (utf8 "+CLCC" ++ colon :: space :: octets) =
      (parseParameters octets).map fun parameters => ⟨"+CLCC", parameters⟩ := by
  have name : colon ∉ utf8 "+CLCC" := by decide
  have rest : (utf8 "+CLCC" ++ colon :: space :: octets).drop ((utf8 "+CLCC").length + 1) =
      space :: octets := rfl
  unfold parseFrom
  simp only [takeWhile_name name, rest, fromUtf8Lossy_utf8, if_neg (cons_ne_nil space octets),
    parse_space]
  cases parseParameters octets <;> rfl

def callOf (line : Bytes) : Option CallInfo :=
  (AtResponse.parseFrom line).toOption.bind parseOneCallInfo

def callsIn (stream : Bytes) : List CallInfo := parseCallInfos (responsesIn stream)

theorem callsIn_cons {line : Bytes} (clean : findCrlf line = none) (rest : Bytes) :
    callsIn (([0x0D, 0x0A] ++ line ++ [0x0D, 0x0A]) ++ rest) =
      (callOf line).toList ++ callsIn rest := by
  unfold callsIn responsesIn callOf parseCallInfos
  rw [extractResponseLines_append clean]
  simp only [filterMap_cons]
  cases parseFrom line with
  | error => rfl
  | ok response =>
    simp only [Except.toOption, Option.bind_some, filterMap_cons]
    cases parseOneCallInfo response <;> rfl

theorem callOf_clcc {octets : Bytes} {parameters : List AtParameter}
    (parsed : parseParameters octets = .ok parameters) :
    callOf (utf8 "+CLCC" ++ colon :: space :: octets) = parseOneCallInfo ⟨"+CLCC", parameters⟩ := by
  unfold callOf
  rw [parseFrom_clcc, parsed]
  rfl

namespace CallInfo

theorem valueAmong_listed {known : List UInt32} {v : UInt8} (listed : v.toUInt32 ∈ known) :
    valueAmong known v.toUInt32 = some v := by
  rw [valueAmong, if_pos listed, UInt8.toUInt8_toUInt32]

theorem parseOne_front {call : CallInfo} (listed : Listed call) (more : List AtParameter) :
    parseOneCallInfo ⟨"+CLCC", call.front.map tree ++ more⟩ = some { call with
      number := more[0]?.bind asStr
      kind := (more[1]?.bind asU32).map UInt32.toUInt8 } := by
  simp [parseOneCallInfo, front, asU32_number, CallInfoDirection.fromValue, CallInfoStatus.fromValue,
    CallInfoMode.fromValue, CallInfoMultiParty.fromValue, valueAmong_listed listed.direction,
    valueAmong_listed listed.status, valueAmong_listed listed.mode, valueAmong_listed listed.multiParty]

theorem mem_front {call : CallInfo} {text : AtText} (listed : text ∈ call.front) :
    ∃ v, text = numberText v := by
  simp only [front, mem_cons, not_mem_nil, or_false] at listed
  rcases listed with same | same | same | same | same <;> exact ⟨_, same⟩

theorem mem_remote {call : CallInfo} {text : AtText} (listed : text ∈ call.remote) :
    (∃ number ∈ call.number, text = stringText number) ∨ ∃ v, text = numberText v := by
  rcases mem_append.mp listed with first | second
  · obtain ⟨number, there, rfl⟩ := Option.map_eq_some_iff.mp (Option.mem_toList.mp first)
    exact .inl ⟨number, there, rfl⟩
  · obtain ⟨kind, -, rfl⟩ := Option.map_eq_some_iff.mp (Option.mem_toList.mp second)
    exact .inr ⟨_, rfl⟩

theorem parse_texts {call : CallInfo} (unquoted : Unquoted call)
    (plain : ∀ number ∈ call.number, Plain number) :
    parseParameters (renderAll call.texts) = .ok (call.front.map tree ++ call.remote.map tree) := by
  rw [← map_append]
  refine (parse_renderAll_iff ?_).mpr ⟨by simp [texts, front], ?_⟩
  · intro text listed
    rcases mem_append.mp listed with first | later
    · obtain ⟨v, rfl⟩ := mem_front first
      exact writable_number v
    · rcases mem_remote later with ⟨number, there, rfl⟩ | ⟨v, rfl⟩
      · exact .quoted (unquoted number there)
      · exact writable_number v
  · intro text listed
    rcases mem_append.mp listed with first | later
    · obtain ⟨v, rfl⟩ := mem_front first
      exact kept_number v
    · rcases mem_remote later with ⟨number, there, rfl⟩ | ⟨v, rfl⟩
      · exact .value (plain number there)
      · exact kept_number v

theorem callOf_texts {call : CallInfo} (listed : Listed call) (unquoted : Unquoted call)
    (plain : ∀ number ∈ call.number, Plain number) :
    callOf (utf8 (callText call)) = some { call with
      number := (call.remote.map tree)[0]?.bind asStr
      kind := ((call.remote.map tree)[1]?.bind asU32).map UInt32.toUInt8 } := by
  rw [utf8_callText, callOf_clcc (parse_texts unquoted plain)]
  exact parseOne_front listed _

theorem callOf_survives {call : CallInfo} (listed : Listed call) (unquoted : Unquoted call)
    (survives : Survives call) : callOf (utf8 (callText call)) = some call := by
  rw [callOf_texts listed unquoted survives.plain]
  obtain ⟨index, direction, status, mode, multiParty, number, kind⟩ := call
  cases number with
  | none =>
    cases survives.numbered rfl
    rfl
  | some number =>
    cases kind with
    | none => simp [remote, asStr_string]
    | some kind => simp [remote, asStr_string, asU32_number]

theorem callOf_unnumbered {call : CallInfo} (listed : Listed call) (none : call.number = none)
    {kind : UInt8} (some' : call.kind = some kind) :
    callOf (utf8 (callText call)) ≠ some call := by
  have absent : ∀ number, number ∉ call.number := by simp [none]
  rw [callOf_texts listed (fun number there => absurd there (absent number))
    fun number there => absurd there (absent number)]
  intro same
  have number := congrArg CallInfo.number (Option.some.inj same)
  simp only [remote, none, some', Option.map_none, Option.map_some, Option.toList_none,
    Option.toList_some, nil_append, map_cons, map_nil, List.getElem?_cons_zero,
    Option.bind_some] at number
  have read : (numberText kind.toUInt32).tree.asStr = some (toString kind.toUInt32) := fromUtf8_utf8 _
  rw [read] at number
  cases number

theorem renderAll_texts (call : CallInfo) : renderAll call.texts =
    renderAll call.front ++ call.remote.flatMap fun text => comma :: text.render := by
  unfold texts front
  rw [cons_append, renderAll_eq, renderAll_eq, flatMap_append, append_assoc]

/-- What stands before the number. -/
def lead (call : CallInfo) : Bytes := utf8 "+CLCC" ++ colon :: space :: renderAll call.front

theorem utf8_eq_lead (call : CallInfo) : utf8 (callText call) =
    call.lead ++ call.remote.flatMap fun text => comma :: text.render := by
  rw [utf8_callText, renderAll_texts]
  simp only [lead, append_assoc, cons_append]

theorem clean_number (v : UInt32) : (0x0D : UInt8) ∉ (numberText v).render := by
  intro inside
  exact absurd (digit_range inside (by decide)) (by decide)

theorem clean_flatMap {texts : List AtText} (each : ∀ text ∈ texts, (0x0D : UInt8) ∉ text.render) :
    (0x0D : UInt8) ∉ texts.flatMap fun text => comma :: text.render := by
  intro inside
  obtain ⟨text, listed, within⟩ := mem_flatMap.mp inside
  rcases mem_cons.mp within with same | later
  · exact absurd same (by decide)
  · exact each text listed later

theorem clean_lead (call : CallInfo) : 0x0D ∉ call.lead := by
  have clean : ∀ text ∈ call.front, (0x0D : UInt8) ∉ text.render := by
    intro text listed
    obtain ⟨v, rfl⟩ := mem_front listed
    exact clean_number v
  have front : 0x0D ∉ renderAll call.front := by
    unfold CallInfo.front at clean ⊢
    rw [renderAll_eq]
    rw [forall_mem_cons] at clean
    exact fun inside => (mem_append.mp inside).elim clean.1 (clean_flatMap clean.2)
  unfold lead
  rw [mem_append, mem_cons, mem_cons]
  rintro (inside | same | same | inside)
  · exact absurd inside (by decide)
  · exact absurd same (by decide)
  · exact absurd same (by decide)
  · exact front inside

theorem clean_callText {call : CallInfo}
    (oneLine : ∀ number ∈ call.number, findCrlf (utf8 number) = none) :
    findCrlf (utf8 (callText call)) = none := by
  have kind : (0x0D : UInt8) ∉ (call.kind.map fun kind => numberText kind.toUInt32).toList.flatMap
      fun text => comma :: text.render := by
    refine clean_flatMap fun text listed => ?_
    obtain ⟨kind, -, rfl⟩ := Option.map_eq_some_iff.mp (Option.mem_toList.mp listed)
    exact clean_number _
  rw [utf8_eq_lead, findCrlf_append_clean call.clean_lead, Option.map_eq_none_iff]
  unfold remote
  rw [flatMap_append]
  cases some : call.number with
  | none => exact findCrlf_of_clean kind
  | some number =>
    have quoted : (stringText number).render = [quote] ++ (utf8 number ++ [quote]) := rfl
    have before : (0x0D : UInt8) ∉ [comma, quote] := by decide
    have behind : (0x0D : UInt8) ∉ quote :: (call.kind.map fun kind =>
        numberText kind.toUInt32).toList.flatMap fun text => comma :: text.render :=
      fun inside => (mem_cons.mp inside).elim (by decide) kind
    simp only [Option.map_some, Option.toList_some, flatMap_cons, flatMap_nil,
      append_nil, quoted, cons_append, nil_append, append_assoc]
    refine (findCrlf_append_clean before _).trans (Option.map_eq_none_iff.mpr ?_)
    exact findCrlf_concat (oneLine number some) (findCrlf_of_clean behind)
      (by simp [quote])

/-! ## Calls that do not survive -/

theorem parse_cut (call : CallInfo) {before : Bytes} (plain : quote ∉ before) :
    parseParameters (renderAll call.front ++ comma :: quote :: before) =
      .ok (call.front.map tree ++ [.value (quote :: before)]) := by
  have written : ∀ text ∈ call.front, ReadsAs text.render text.tokens := by
    intro text listed
    obtain ⟨v, rfl⟩ := mem_front listed
    exact render_reads _ (writable_number v)
  have built : ∀ text ∈ call.front, text.Builds := by
    intro text listed
    obtain ⟨v, rfl⟩ := mem_front listed
    exact builds _ (kept_number v)
  obtain ⟨first, read, known⟩ :=
    renderAll_reads written ⟨[], false, []⟩ [] ⟨⟨rfl, rfl⟩, rfl⟩
  obtain ⟨⟨tokens, inQuotes, token⟩, pushed, ⟨rfl, same⟩, rfl⟩ := push_separator known (.inl rfl)
  have opened : push ⟨tokens, false, []⟩ quote = .ok ⟨tokens, true, [quote]⟩ := by
    simp [push, quote, openParen, space, comma, closeParen]
  have tokenized : tokenizeParameters (renderAll call.front ++ comma :: quote :: before) =
      .ok (tokensAll call.front ++ [[comma], quote :: before]) := by
    unfold tokenizeParameters
    rw [foldlM_append, read]
    show (do let state ← List.foldlM push first (comma :: quote :: before); _) = _
    rw [foldlM_cons, pushed]
    show (do let state ← List.foldlM push ⟨tokens, false, []⟩ (quote :: before); _) = _
    rw [foldlM_cons, opened]
    show (do let state ← List.foldlM push ⟨tokens, true, [quote]⟩ before; _) = _
    rw [foldlM_quoted plain]
    have kept : tokens.filter (· ≠ []) = tokensAll call.front ++ [[comma]] := by
      simpa [filter_append] using same
    show Except.ok ((tokens ++ [quote :: before]).filter (· ≠ [])) = _
    rw [filter_append, kept, append_assoc]
    rfl
  obtain ⟨items, last, split, ended⟩ := all_build built (by simp [front]) [] []
  unfold parseParameters
  rw [tokenized, split]
  simp only [bind, Except.bind, foldlM_append, ended]
  rfl

theorem not_callsIn_cut {call : CallInfo} (listed : Listed call) (unquoted : Unquoted call)
    {number : String} (some' : call.number = some number) {before behind : Bytes}
    (cut : findCrlf (utf8 number) = some (before, behind)) (rest : Bytes) :
    (callsIn (callLine call ++ rest)).head? ≠ some call := by
  obtain ⟨whole, open'⟩ := findCrlf_split cut
  have plain : quote ∉ before := by
    intro inside
    apply unquoted number some'
    rw [whole]
    exact mem_append_left _ inside
  have clean : findCrlf (call.lead ++ comma :: quote :: before) = none := by
    have start : (0x0D : UInt8) ∉ [comma, quote] := by decide
    rw [findCrlf_append_clean call.clean_lead, Option.map_eq_none_iff]
    refine (findCrlf_append_clean start before).trans (Option.map_eq_none_iff.mpr open')
  have line : ∃ more, callLine call ++ rest =
      ([0x0D, 0x0A] ++ (call.lead ++ comma :: quote :: before) ++ [0x0D, 0x0A]) ++ more := by
    refine ⟨behind ++ quote :: ((call.kind.map fun kind => numberText kind.toUInt32).toList.flatMap
      (fun text => comma :: text.render)) ++ [0x0D, 0x0A] ++ rest, ?_⟩
    have quoted : (stringText number).render = quote :: (utf8 number ++ [quote]) := rfl
    show [0x0D, 0x0A] ++ utf8 (callText call) ++ [0x0D, 0x0A] ++ rest = _
    rw [utf8_eq_lead]
    simp [remote, some', quoted, whole]
  obtain ⟨more, line⟩ := line
  have read : callOf (call.lead ++ comma :: quote :: before) = some { call with
      number := fromUtf8 (quote :: before), kind := none } := by
    have octets : call.lead ++ comma :: quote :: before =
        utf8 "+CLCC" ++ colon :: space :: (renderAll call.front ++ comma :: quote :: before) := by
      simp only [lead, append_assoc, cons_append]
    rw [octets, callOf_clcc (call.parse_cut plain)]
    exact parseOne_front listed _
  rw [line, callsIn_cons clean, read]
  intro same
  have numbers : fromUtf8 (quote :: before) = some number :=
    (congrArg CallInfo.number (Option.some.inj same)).trans some'
  apply unquoted number some'
  rw [utf8_of_fromUtf8 numbers]
  exact mem_cons_self

theorem callsIn_callLine {call : CallInfo}
    (oneLine : ∀ number ∈ call.number, findCrlf (utf8 number) = none) (rest : Bytes) :
    callsIn (callLine call ++ rest) =
      (callOf (utf8 (callText call))).toList ++ callsIn rest :=
  callsIn_cons (clean_callText oneLine) rest

/-- No number that is read is a separator. -/
theorem plain_of_callsIn {stream : Bytes} {call : CallInfo} (listed : call ∈ callsIn stream) :
    ∀ number ∈ call.number, Plain number := by
  obtain ⟨response, among, read⟩ := mem_filterMap.mp listed
  obtain ⟨line, -, parsed⟩ := mem_filterMap.mp among
  have kept : ∀ item ∈ response.parameters, Kept item := by
    cases outcome : parseFrom line with
    | error =>
      rw [outcome] at parsed
      cases parsed
    | ok same =>
      rw [outcome] at parsed
      cases parsed
      unfold parseFrom at outcome
      simp only at outcome
      split_ifs at outcome with none
      · cases outcome
        simp
      · cases inner : parseParameters (line.drop ((line.takeWhile (· ≠ colon)).length + 1)) with
        | error =>
          rw [inner] at outcome
          cases outcome
        | ok parameters =>
          rw [inner] at outcome
          cases outcome
          exact (kept_of_parse inner).2
  unfold parseOneCallInfo at read
  split_ifs at read
  simp only [bind, Option.bind_eq_some_iff] at read
  obtain ⟨_, -, _, -, _, -, _, -, _, -, _, -, _, -, _, -, _, -, same⟩ := read
  cases same
  exact fun number there => plain_of_bind kept there

/-- The calls that are read are those that were written exactly if all of them survive. -/
theorem callsIn_iff {calls : List CallInfo} (each : ∀ call ∈ calls, Listed call ∧ Unquoted call)
    {rest : Bytes} (none : callsIn rest = []) :
    callsIn (calls.flatMap callLine ++ rest) = calls ↔ ∀ call ∈ calls, Survives call := by
  induction calls with
  | nil => simpa using none
  | cons call calls ih =>
    rw [forall_mem_cons] at each ⊢
    obtain ⟨⟨listed, unquoted⟩, later⟩ := each
    rw [flatMap_cons, append_assoc]
    constructor
    · intro same
      have plain : ∀ number ∈ call.number, Plain number := by
        apply plain_of_callsIn
        rw [same]
        exact mem_cons_self
      have oneLine : ∀ number ∈ call.number, findCrlf (utf8 number) = Option.none := by
        intro number there
        by_contra cut
        obtain ⟨⟨before, behind⟩, cut⟩ := Option.ne_none_iff_exists'.mp cut
        apply not_callsIn_cut listed unquoted there cut
        rw [same]
        rfl
      have read := callOf_texts listed unquoted plain
      rw [callsIn_callLine oneLine] at same
      have survives : Survives call := by
        refine ⟨plain, oneLine, fun absent => ?_⟩
        by_contra some'
        obtain ⟨kind, some'⟩ := Option.ne_none_iff_exists'.mp some'
        apply callOf_unnumbered listed absent some'
        rw [read] at same ⊢
        exact congrArg some (List.cons.inj same).1
      rw [callOf_survives listed unquoted survives] at same
      exact ⟨survives, (ih later).mp (List.cons.inj same).2⟩
    · rintro ⟨survives, others⟩
      rw [callsIn_callLine survives.oneLine, callOf_survives listed unquoted survives,
        (ih later).mpr others]
      rfl

end CallInfo

theorem callsIn_ok : callsIn ok = [] := by
  have line : callOf (utf8 "OK") = none := by
    have parsed : parseFrom (utf8 "OK") = .ok ⟨"OK", []⟩ := by
      have code : (utf8 "OK").takeWhile (· ≠ colon) = utf8 "OK" := by decide
      rfl
    unfold callOf
    rw [parsed]
    rfl
  have nothing : callsIn [] = [] := by
    have open' : extractResponseLines [] = ([], []) :=
      extractResponseLines_open fun before rest found => by cases found
    unfold callsIn responsesIn
    rw [open']
    rfl
  have one : ok = ([0x0D, 0x0A] ++ utf8 "OK" ++ [0x0D, 0x0A]) ++ [] := by
    rw [append_nil]
    rfl
  rw [one, callsIn_cons (by decide), line, nothing]
  rfl

theorem callsIn_onClcc {ag : AgProtocol} (each : ∀ call ∈ ag.calls, call.Listed ∧ call.Unquoted) :
    callsIn ag.onClcc.outgoing.flatten = ag.calls ↔ ∀ call ∈ ag.calls, call.Survives := by
  have answer : ag.onClcc.outgoing.flatten = ag.calls.flatMap callLine ++ ok := by
    show (ag.calls.map callLine ++ [ok]).flatten = _
    rw [flatten_append, ← flatMap_def, flatten_singleton]
  rw [answer]
  exact CallInfo.callsIn_iff each callsIn_ok

/-- Which parameters, which caller lines and which calls are read again as they were written. -/
theorem text_survives_iff {texts : List AtText} (writable : ∀ text ∈ texts, Writable text)
    {cli : CallLineIdentification} (nonempty : cli.number ≠ "") (unquoted : cli.Unquoted)
    {ag : AgProtocol} (each : ∀ call ∈ ag.calls, call.Listed ∧ call.Unquoted) :
    (parseParameters (renderAll texts) = .ok (texts.map tree) ↔
      texts ≠ [] ∧ ∀ text ∈ texts, Kept text.tree) ∧
    (cli.recovered = some cli ↔ cli.Survives) ∧
    (callsIn ag.onClcc.outgoing.flatten = ag.calls ↔ ∀ call ∈ ag.calls, call.Survives) :=
  ⟨parse_renderAll_iff writable, CallLineIdentification.recovered_iff nonempty unquoted,
    callsIn_onClcc each⟩

def nested : List AtText :=
  [.list [.quoted (utf8 "a,b"), .list [.bare [0x31], .quoted []]], .bare [0x32]]

def namedCaller : CallLineIdentification := ⟨"+49 1", 145, some "7", some 1, some "A B", some 0⟩

def twoCalls : AgProtocol :=
  { AgProtocol.new ⟨0, [], [], [], []⟩ with
    calls := [⟨1, 1, 0, 0, 0, some "123", some 129⟩, ⟨2, 0, 3, 0, 1, none, none⟩] }

theorem text_survives_nested : parseParameters (renderAll nested) = .ok (nested.map tree) ∧
    namedCaller.recovered = some namedCaller ∧
    callsIn twoCalls.onClcc.outgoing.flatten = twoCalls.calls := by
  have writable : ∀ text ∈ nested, Writable text := by
    refine forall_mem_cons.mpr ⟨.list ?_,
      forall_mem_singleton.mpr (.bare (forall_mem_singleton.mpr (by decide)))⟩
    refine forall_mem_cons.mpr ⟨.quoted (by decide), forall_mem_singleton.mpr (.list ?_)⟩
    exact forall_mem_cons.mpr ⟨.bare (forall_mem_singleton.mpr (by decide)),
      forall_mem_singleton.mpr (.quoted (by decide))⟩
  have each : ∀ call ∈ twoCalls.calls, call.Listed ∧ call.Unquoted := by
    refine forall_mem_cons.mpr ⟨⟨⟨by decide, by decide, by decide, by decide⟩, ?_⟩,
      forall_mem_singleton.mpr ⟨⟨by decide, by decide, by decide, by decide⟩, ?_⟩⟩
    · rintro _ ⟨⟩
      decide
    · rintro _ ⟨⟩
  obtain ⟨parsed, caller, calls⟩ := @text_survives_iff nested writable namedCaller (by decide)
    ⟨by decide, by rintro _ ⟨⟩; decide, by rintro _ ⟨⟩; decide⟩ twoCalls each
  refine ⟨parsed.mpr ⟨by decide, ?_⟩, caller.mpr ?_, calls.mpr ?_⟩
  · refine forall_mem_cons.mpr ⟨.list (by decide) ?_, forall_mem_singleton.mpr (.value (by decide))⟩
    refine forall_mem_cons.mpr ⟨.value (by decide), forall_mem_singleton.mpr ?_⟩
    refine .list (by decide) (forall_mem_cons.mpr ⟨.value (by decide), ?_⟩)
    exact forall_mem_singleton.mpr .empty
  · exact ⟨by decide, by rintro _ ⟨⟩; decide, by rintro _ ⟨⟩; decide, by rintro ⟨⟩, by rintro ⟨⟩⟩
  · refine forall_mem_cons.mpr ⟨⟨?_, ?_, by rintro ⟨⟩⟩,
      forall_mem_singleton.mpr ⟨?_, ?_, fun _ => rfl⟩⟩
    · rintro _ ⟨⟩
      decide
    · rintro _ ⟨⟩
      decide
    · rintro _ ⟨⟩
    · rintro _ ⟨⟩

/-- A quoted comma ends its parameter, a name without a subaddress comes with an empty one, and a
kind without a number is taken for the number. -/
theorem text_lost :
    (Writable (.quoted [comma]) ∧
      parseParameters (renderAll [.quoted [comma]]) ≠ .ok [.value [comma]]) ∧
    CallLineIdentification.recovered ⟨"1", 129, none, none, some "A", none⟩ ≠
      some ⟨"1", 129, none, none, some "A", none⟩ ∧
    callsIn { AgProtocol.new ⟨0, [], [], [], []⟩ with
      calls := [⟨1, 0, 0, 0, 0, none, some 129⟩] }.onClcc.outgoing.flatten ≠
      [⟨1, 0, 0, 0, 0, none, some 129⟩] := by
  have comma' : Writable (.quoted [comma]) := .quoted (by decide)
  refine ⟨⟨comma', ?_⟩, ?_, ?_⟩
  · intro same
    have kept := (kept_of_parse same).2 _ mem_cons_self
    cases kept with
    | value plain => exact absurd plain (by decide)
  · intro same
    have unquoted : CallLineIdentification.Unquoted ⟨"1", 129, none, none, some "A", none⟩ := by
      refine ⟨by decide, by simp, ?_⟩
      rintro text ⟨⟩
      decide
    have survives := (CallLineIdentification.recovered_iff (by decide) unquoted).mp same
    exact absurd (survives.noSubaddr rfl).2.1 (by simp)
  · intro same
    have each : ∀ call ∈ [(⟨1, 0, 0, 0, 0, none, some 129⟩ : CallInfo)],
        call.Listed ∧ call.Unquoted := by
      intro call listed
      rw [mem_singleton.mp listed]
      exact ⟨⟨by decide, by decide, by decide, by decide⟩, fun number absent => by cases absent⟩
    have survives := (@callsIn_onClcc { AgProtocol.new ⟨0, [], [], [], []⟩ with
      calls := [⟨1, 0, 0, 0, 0, none, some 129⟩] } each).mp same
    exact absurd ((survives _ mem_cons_self).numbered rfl) (by simp)

end Simble.Hfp
