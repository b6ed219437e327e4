import Simble.Hfp.Conversation

/-! What a gateway answers to a line: information, one result, and at most a proposal
of a codec behind it. -/
namespace Simble.Hfp
open AtCommand List

/-! ## Responses -/

/-- A whole line that is read as this response. -/
structure Reads (line : Bytes) (response : AtResponse) : Prop where
  clean : findCrlf line = none
  nonempty : line ≠ []
  parsed : AtResponse.parseFrom line = .ok response

theorem takeWhile_name {name : Bytes} (clean : colon ∉ name) (rest : Bytes) :
    (name ++ colon :: rest).takeWhile (· ≠ colon) = name := by
  induction name with
  | nil => exact takeWhile_cons_of_neg (by simp)
  | cons first name ih =>
    obtain ⟨apart, later⟩ := not_or.mp (mt mem_cons.mpr clean)
    rw [cons_append, takeWhile_cons_of_pos (by simpa using Ne.symm apart), ih later]

theorem code_of_parse {name rest : String} (clean : colon ∉ utf8 name) {response : AtResponse}
    (parsed : AtResponse.parseFrom (utf8 (name ++ ":" ++ rest)) = .ok response) :
    response.code = name := by
  have octets : utf8 (name ++ ":" ++ rest) = utf8 name ++ colon :: utf8 rest := by
    rw [utf8_append, utf8_append, append_assoc]
    rfl
  unfold AtResponse.parseFrom at parsed
  rw [octets, takeWhile_name clean] at parsed
  simp only [fromUtf8Lossy_utf8] at parsed
  generalize List.drop ((utf8 name).length + 1) (utf8 name ++ colon :: utf8 rest) = octets at parsed
  split at parsed
  · cases parsed
    rfl
  · cases read : parseParameters octets with
    | error message =>
      rw [read] at parsed
      cases parsed
    | ok parameters =>
      rw [read] at parsed
      cases parsed
      rfl

/-- A line that begins with this name and a colon. -/
def Named (name text : String) : Prop := ∃ rest, text = name ++ ":" ++ rest

theorem named_append {name head : String} (begins : head = name ++ ":" ++ " ") (rest : String) :
    Named name (head ++ rest) := ⟨" " ++ rest, begins ▸ String.append_assoc⟩

theorem Named.reads {name text : String} (named : Named name text) (clean : colon ∉ utf8 name)
    (legible : Legible text) : ∃ response, Reads (utf8 text) response ∧ response.code = name := by
  obtain ⟨open', response, parsed⟩ := legible
  obtain ⟨rest, rfl⟩ := named
  refine ⟨response, ⟨open', ?_, parsed⟩, code_of_parse clean parsed⟩
  rw [utf8_append, utf8_append]
  exact fun empty => by cases (append_eq_nil_iff.mp (append_eq_nil_iff.mp empty).1).2

/-! ## Commands -/

theorem utf8_capitals {code : Bytes} (capitals : ∀ byte ∈ code, byte.toNat < 0x80) :
    utf8 (String.ofList (code.map fun byte => Char.ofNat byte.toNat)) = code := by
  rw [utf8_eq, String.toList_ofList, flatMap_map]
  induction code with
  | nil => rfl
  | cons first code ih =>
    have small := capitals first mem_cons_self
    have one : String.utf8EncodeChar (Char.ofNat first.toNat) = [first] := by
      have value : (Char.ofNat first.toNat).val.toNat = first.toNat := by
        have valid : first.toNat.isValidChar := .inl (by omega)
        rw [Char.ofNat, dif_pos valid]
        rfl
      unfold String.utf8EncodeChar
      simp only [value]
      rw [if_pos (by omega), UInt8.ofNat_toNat]
    rw [flatMap_cons, one, ih fun other inside => capitals other (mem_cons_of_mem _ inside)]
    rfl

theorem containsText_of_within {text part : String} {front back : Bytes}
    (split : utf8 text = front ++ (utf8 part ++ back)) : containsText text part = true := by
  rw [containsText, any_eq_true]
  refine ⟨utf8 part ++ back, (mem_tails _ _).mpr ⟨front, split.symm⟩, ?_⟩
  exact isPrefixOf_iff_prefix.mpr (prefix_append ..)

theorem containsText_of_parse {text : String} {cmd : AtCommand}
    (parsed : parseFrom (utf8 text) = .ok cmd) (answer : cmd.code ≠ "A")
    (dial : cmd.code ≠ "D") : containsText text ("+" ++ cmd.code) = true := by
  unfold parseFrom at parsed
  split at parsed
  · rename_i extended
    obtain ⟨rest, whole⟩ := isPrefixOf_iff_prefix.mp extended
    have dropped : (utf8 text).drop 3 = rest := by rw [← whole]; rfl
    simp only [dropped] at parsed
    split at parsed
    · cases parsed
    · generalize made : rest.takeWhile (fun b => 0x41 ≤ b && b ≤ 0x5A) = code at parsed
      have named : cmd.code = String.ofList (code.map fun byte => Char.ofNat byte.toNat) := by
        cases form : splitForm (rest.drop code.length) with
        | mk subCode octets =>
          rw [form] at parsed
          split at parsed
          · cases parsed
            rfl
          · cases read : parseParameters octets with
            | error message =>
              rw [read] at parsed
              cases parsed
            | ok parameters =>
              rw [read] at parsed
              cases parsed
              rfl
      have capitals : ∀ byte ∈ code, byte.toNat < 0x80 := by
        intro byte inside
        rw [← made] at inside
        have range := mem_takeWhile_imp inside
        rw [Bool.and_eq_true, decide_eq_true_eq, decide_eq_true_eq] at range
        exact Nat.lt_of_le_of_lt (UInt8.le_iff_toNat_le.mp range.2) (by decide)
      have rest' : rest = code ++ rest.dropWhile (fun b => 0x41 ≤ b && b ≤ 0x5A) := by
        rw [← made, takeWhile_append_dropWhile]
      refine @containsText_of_within _ _ (utf8 "AT") (rest.dropWhile fun b => 0x41 ≤ b && b ≤ 0x5A) ?_
      rw [named, utf8_append, utf8_capitals capitals, ← whole, append_assoc, ← rest']
      rfl
  · split at parsed
    · cases parsed
      exact absurd rfl answer
    · split at parsed
      · cases parsed
        exact absurd rfl dial
      · cases parsed

/-! ## The shape of an answer -/

/-- The name of the information that a command is answered with. -/
def AgProtocol.Command.informs : AgProtocol.Command → Option String
  | .brsf => some "BRSF"
  | .chldTest => some "CHLD"
  | .cindTest | .cindRead => some "CIND"
  | .bindTest | .bindRead => some "BIND"
  | .clcc => some "CLCC"
  | .copsRead => some "COPS"
  | _ => none

namespace AgProtocol

theorem ite_eq_some {c : Prop} [Decidable c] {first command : Command} {rest : Option Command}
    (found : (if c then some first else rest) = some command) : (c ∧ first = command) ∨ rest = some command := by
  by_cases decided : c
  · rw [if_pos decided] at found
    exact .inl ⟨decided, Option.some.inj found⟩
  · rw [if_neg decided] at found
    exact .inr found

theorem commandOf_informs {code name : String} {subCode : AtSubCode} {command : Command}
    (found : commandOf code subCode = some command) (informs : command.informs = some name) :
    code = name := by
  cases subCode <;> simp only [commandOf] at found
  all_goals
    repeat
      obtain ⟨same, rfl⟩ | found := ite_eq_some found
      · cases informs <;> exact same
    cases found

def IsResult (text : String) : Prop :=
  text = "OK" ∨ text = "ERROR" ∨ ∃ code ∈ [3, 4, 21, 22], text = s!"+CME ERROR: {code}"

/-- One result, behind the information it belongs to; only codec proposals follow. -/
structure Shape (ag : AgProtocol) (name : Option String) (reply : Reply) : Prop where
  buffer : reply.ag.readBuffer = ag.readBuffer
  lines : ∃ information result later, reply.outgoing = (information ++ result :: later).map responseBytes ∧
    (∀ text ∈ information, text ∈ ag.information ∧ ∃ code, name = some code ∧ Named ("+" ++ code) text) ∧
    IsResult result ∧ ∀ text ∈ later, ∃ codec : AudioCodec, text = s!"+BCS: {codec.toValue}"

variable {ag : AgProtocol} {name : Option String}

section Buffer
variable {reply : Reply} (buffer : reply.ag.readBuffer = ag.readBuffer)
include buffer

/-- An answer without information. -/
theorem Shape.only {result : String} (outgoing : reply.outgoing = [responseBytes result])
    (is : IsResult result) :
    Shape ag name reply := ⟨buffer, [], result, [], outgoing, by simp, is, by simp⟩

theorem Shape.ok (outgoing : reply.outgoing = [AgProtocol.ok]) : Shape ag name reply :=
  .only buffer outgoing (.inl rfl)

theorem Shape.error (outgoing : reply.outgoing = [AgProtocol.error]) : Shape ag name reply :=
  .only buffer outgoing (.inr (.inl rfl))

end Buffer

theorem Shape.cmeError {code : Nat} (known : code ∈ [3, 4, 21, 22]) :
    Shape ag name ⟨ag, [ag.cmeErrorResponse code], []⟩ := by
  unfold cmeErrorResponse
  split
  · exact .only rfl rfl (.inr (.inr ⟨code, known, rfl⟩))
  · exact .error rfl rfl

theorem Shape.informs {reply : Reply} {code : String} (information : List String)
    (buffer : reply.ag.readBuffer = ag.readBuffer)
    (outgoing : reply.outgoing = information.map responseBytes ++ [AgProtocol.ok])
    (known : ∀ text ∈ information, text ∈ ag.information)
    (named : ∀ text ∈ information, Named ("+" ++ code) text) : Shape ag (some code) reply :=
  ⟨buffer, information, "OK", [], by rw [outgoing, map_append]; rfl,
    fun text inside => ⟨known text inside, code, rfl, named text inside⟩, .inl rfl, by simp⟩

/-! ## Handlers -/

section Handlers
variable (ag : AgProtocol) (params : List AtParameter)

theorem mem_information_first {text : String} (inside : text ∈
    [s!"+BRSF: {ag.supportedAgFeatures}",
      s!"+CHLD: ({joinComma (ag.supportedAgCallHoldOperations.map CallHoldOperation.code)})",
      s!"+CIND: {joinComma (ag.agIndicators.map fun state => toString state.currentStatus)}",
      s!"+BIND: ({joinComma (ag.supportedHfIndicators.map fun value => toString value.toValue)})",
      s!"+COPS: 0,0,\"{ag.networkOperator}\""]) : text ∈ ag.information :=
  mem_append_left _ (mem_append_left _ (mem_append_left _ inside))

theorem onBrsf_shape : Shape ag (some "BRSF") (ag.onBrsf params) := by
  refine .informs [s!"+BRSF: {ag.supportedAgFeatures}"] rfl rfl ?_ ?_
  · exact fun text inside => ag.mem_information_first (by simp_all)
  · intro text inside
    obtain rfl := mem_singleton.mp inside
    exact named_append rfl _

theorem onBcs_shape : Shape ag none (ag.onBcs params) := by
  unfold onBcs
  split
  · exact .error rfl rfl
  · simp only [setAudioState]
    split
    · split <;> exact .ok rfl rfl
    · exact .ok rfl rfl

theorem onChld_shape {reply : Reply} (handled : ag.onChld params = .ok reply) : Shape ag none reply := by
  have refused : Shape ag none ⟨ag, [ag.cmeErrorResponse CmeError.operationNotSupported], []⟩ :=
    .cmeError (by decide)
  unfold onChld at handled
  split at handled
  · cases handled
    exact refused
  · obtain ⟨parts, -, handled⟩ := Rust.bind_eq_ok.mp handled
    split at handled
    · cases handled
      exact refused
    · split at handled
      · cases handled
        exact refused
      · split at handled
        · cases handled
          exact refused
        · split at handled
          · cases handled
            exact .cmeError (by decide)
          · cases handled
            exact .ok rfl rfl

theorem onChldTest_shape : Shape ag (some "CHLD") ag.onChldTest := by
  unfold onChldTest
  split
  · exact .error rfl rfl
  · refine .informs
      [s!"+CHLD: ({joinComma (ag.supportedAgCallHoldOperations.map CallHoldOperation.code)})"] rfl rfl ?_ ?_
    · exact fun text inside => ag.mem_information_first (by simp_all)
    · intro text inside
      obtain rfl := mem_singleton.mp inside
      exact ⟨" (" ++ joinComma (ag.supportedAgCallHoldOperations.map CallHoldOperation.code) ++ ")", by
        simp only [String.append_assoc, toString]; rfl⟩

theorem onCindTest_shape {reply : Reply} (handled : ag.onCindTest = .ok reply) :
    Shape ag (some "CIND") reply := by
  unfold onCindTest at handled
  split at handled
  · cases handled
    exact .cmeError (by decide)
  · obtain ⟨texts, made, handled⟩ := Rust.bind_eq_ok.mp handled
    cases handled
    refine .informs [s!"+CIND: {joinComma texts}"] rfl rfl ?_ ?_
    · intro text inside
      obtain rfl := mem_singleton.mp inside
      refine mem_append_left _ (mem_append_left _ (mem_append_right _ ?_))
      rw [made]
      exact mem_singleton_self _
    · intro text inside
      obtain rfl := mem_singleton.mp inside
      exact named_append rfl _

theorem onCindRead_shape : Shape ag (some "CIND") ag.onCindRead := by
  unfold onCindRead
  split
  · exact .cmeError (by decide)
  · refine .informs [s!"+CIND: {joinComma (ag.agIndicators.map fun state => toString state.currentStatus)}"]
      rfl rfl ?_ ?_
    · exact fun text inside => ag.mem_information_first (by simp_all)
    · intro text inside
      obtain rfl := mem_singleton.mp inside
      exact named_append rfl _

theorem onCmer_shape (right : ¬ wrongReporting params) : Shape ag none (ag.onCmer params) := by
  refine .ok rfl ?_
  unfold onCmer
  simp only
  rw [wrongReporting] at right
  rw [if_neg right]
  rfl

theorem onBindTest_shape : Shape ag (some "BIND") ag.onBindTest := by
  unfold onBindTest
  split
  · exact .error rfl rfl
  · refine .informs
      [s!"+BIND: ({joinComma (ag.supportedHfIndicators.map fun value => toString value.toValue)})"] rfl rfl
      ?_ ?_
    · exact fun text inside => ag.mem_information_first (by simp_all)
    · intro text inside
      obtain rfl := mem_singleton.mp inside
      exact ⟨" (" ++ joinComma (ag.supportedHfIndicators.map fun value => toString value.toValue) ++ ")", by
        simp only [String.append_assoc, toString]; rfl⟩

theorem onBindRead_shape : Shape ag (some "BIND") ag.onBindRead := by
  unfold onBindRead
  split
  · exact .error rfl rfl
  · refine .informs (ag.hfIndicators.map fun entry => s!"+BIND: {entry.1.toValue},1") rfl ?_ ?_ ?_
    · rw [map_map]
      rfl
    · exact fun text inside => mem_append_left _ (mem_append_right _ inside)
    · intro text inside
      obtain ⟨entry, -, rfl⟩ := mem_map.mp inside
      exact ⟨" " ++ toString entry.1.toValue ++ ",1", by simp only [String.append_assoc, toString]; rfl⟩

theorem onBiev_shape : Shape ag none (ag.onBiev params) := by
  unfold onBiev
  simp only
  split
  · split
    · exact .error rfl rfl
    · exact .ok rfl rfl
  · exact .error rfl rfl

theorem onBcc_shape : Shape ag none ag.onBcc := by
  unfold onBcc startAudioConnection
  split
  · exact .ok rfl rfl
  · split
    · rename_i codec _
      simp only [setAudioState]
      split <;> exact ⟨rfl, [], "OK", [s!"+BCS: {codec.toValue}"], rfl, by simp, .inl rfl,
        fun text inside => ⟨codec, mem_singleton.mp inside⟩⟩
    · simp only [setAudioState]
      split <;> exact .ok rfl rfl

theorem onClcc_shape : Shape ag (some "CLCC") ag.onClcc := by
  refine .informs (ag.calls.map callText) rfl ?_ ?_ ?_
  · rw [map_map]
    rfl
  · exact fun text inside => mem_append_right _ inside
  · intro text inside
    obtain ⟨call, -, rfl⟩ := mem_map.mp inside
    unfold callText
    simp only [String.append_assoc]
    exact named_append rfl _

theorem onCopsSet_shape : Shape ag none (ag.onCopsSet params) := by
  unfold onCopsSet
  split
  · exact .ok rfl rfl
  · exact .cmeError (by decide)

theorem onCopsRead_shape : Shape ag (some "COPS") ag.onCopsRead := by
  unfold onCopsRead
  split
  · exact .cmeError (by decide)
  · refine .informs [s!"+COPS: 0,0,\"{ag.networkOperator}\""] rfl rfl ?_ ?_
    · exact fun text inside => ag.mem_information_first (by simp_all)
    · intro text inside
      obtain rfl := mem_singleton.mp inside
      exact ⟨" 0,0,\"" ++ ag.networkOperator ++ "\"", by simp only [String.append_assoc, toString]; rfl⟩

/-- Every handler gives one answer, but for a refused `AT+CMER`. -/
theorem handle_shape {command : Command} {reply : Reply} (handled : ag.handle params command = .ok reply)
    (once : command = .cmer → ¬ wrongReporting params) : Shape ag command.informs reply := by
  cases command with
  | chld => exact ag.onChld_shape params handled
  | cindTest => exact ag.onCindTest_shape handled
  | cmer =>
    cases handled
    exact ag.onCmer_shape params (once rfl)
  | brsf =>
    cases handled
    exact ag.onBrsf_shape params
  | bcs =>
    cases handled
    exact ag.onBcs_shape params
  | chldTest =>
    cases handled
    exact ag.onChldTest_shape
  | cindRead =>
    cases handled
    exact ag.onCindRead_shape
  | bindTest =>
    cases handled
    exact ag.onBindTest_shape
  | bindRead =>
    cases handled
    exact ag.onBindRead_shape
  | biev =>
    cases handled
    exact ag.onBiev_shape params
  | bcc =>
    cases handled
    exact ag.onBcc_shape
  | clcc =>
    cases handled
    exact ag.onClcc_shape
  | copsSet =>
    cases handled
    exact ag.onCopsSet_shape params
  | copsRead =>
    cases handled
    exact ag.onCopsRead_shape
  | bind =>
    cases handled
    unfold onBind
    split
    · exact .error rfl rfl
    · exact .ok rfl rfl
  | bac | bvra | cmee | ccwa | bia | answer | dial | chup | clip | vgs | vgm =>
    cases handled
    exact .ok rfl rfl

end Handlers

theorem receiveLine_shape {ag : AgProtocol} {line : Bytes} {reply : Reply}
    (answerable : ag.Answerable line) (handled : ag.receiveLine line = .ok reply) :
    ∃ name, Shape ag name reply ∧ ∀ code, name = some code →
      ∃ (cmd : AtCommand) (command : Command), parseFrom line = .ok cmd ∧ cmd.code = code ∧
        command.informs = some code := by
  have refused : ∃ name, Shape ag name ⟨ag, [AgProtocol.error], []⟩ ∧ ∀ code, name = some code →
      ∃ (cmd : AtCommand) (command : Command), parseFrom line = .ok cmd ∧ cmd.code = code ∧
        command.informs = some code :=
    ⟨none, .error rfl rfl, fun code same => by cases same⟩
  unfold receiveLine at handled
  cases parsed : parseFrom line with
  | error message =>
    rw [parsed] at handled refused
    cases handled
    exact refused
  | ok cmd =>
    rw [parsed] at handled refused
    simp only [dispatch] at handled
    cases found : commandOf cmd.code cmd.subCode with
    | none =>
      rw [found] at handled
      cases handled
      exact refused
    | some command =>
      rw [found] at handled
      refine ⟨command.informs, ag.handle_shape cmd.parameters handled ?_, fun code informs =>
        ⟨cmd, command, rfl, commandOf_informs found informs, informs⟩⟩
      rintro rfl
      exact answerable.once cmd parsed found

end AgProtocol

/-! ## Lines of an answer -/

open AgProtocol

theorem linesOf_map {texts : List String} (clean : ∀ text ∈ texts, findCrlf (utf8 text) = none) :
    linesOf (texts.map responseBytes) = texts.map utf8 := by
  have frames : (texts.map responseBytes).flatten =
      (texts.map utf8).flatMap fun line => [0x0D, 0x0A] ++ line ++ [0x0D, 0x0A] := by
    rw [flatMap_map]
    rfl
  rw [linesOf, frames, responseLines_all fun line inside => ?_]
  obtain ⟨text, among, rfl⟩ := mem_map.mp inside
  exact clean text among

theorem reads_result {text : String} (is : IsResult text) :
    ∃ response, Reads (utf8 text) response ∧ isStatus response = true := by
  rcases is with rfl | rfl | ⟨code, known, rfl⟩
  · exact ⟨⟨"OK", []⟩, ⟨by decide, by decide, rfl⟩, by decide⟩
  · exact ⟨⟨"ERROR", []⟩, ⟨by decide, by decide, rfl⟩, by decide⟩
  · have legible : Legible s!"+CME ERROR: {code}" := by
      simp only [mem_cons, not_mem_nil, or_false] at known
      rcases known with rfl | rfl | rfl | rfl <;> exact ⟨by decide, _, rfl⟩
    obtain ⟨response, reads, named⟩ := Named.reads (@named_append "+CME ERROR" _ rfl _) (by decide) legible
    exact ⟨response, reads, by rw [isStatus, named]; decide⟩

theorem reads_proposal (codec : AudioCodec) :
    ∃ response, Reads (utf8 s!"+BCS: {codec.toValue}") response ∧ isStatus response = false := by
  have legible : Legible s!"+BCS: {codec.toValue}" := by
    cases codec <;> exact ⟨by decide, _, rfl⟩
  obtain ⟨response, reads, named⟩ := Named.reads (@named_append "+BCS" _ rfl _) (by decide) legible
  exact ⟨response, reads, by rw [isStatus, named]; decide⟩

end Simble.Hfp
