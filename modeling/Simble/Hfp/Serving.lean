import Simble.Hfp.Hearing

/-! What a line that the gateway serves, and what the calls of the two sides, keep of
the order between them. -/
namespace Simble.Hfp
open AgProtocol List
namespace Conversation

/-! ## Serving a line -/

section Serving
variable {c after : Conversation} {line : Bytes} {lines lines' : List Bytes}

structure Answer (text : String) (outgoing information : List Bytes) (result : Bytes)
    (later : List Bytes) : Prop where
  lines : linesOf outgoing = information ++ result :: later
  octets : outgoing.flatten = (information ++ result :: later).flatMap Said.frame
  information : ∀ line ∈ information, ∃ response, Reads line response ∧ isStatus response = false ∧
    containsText text response.code = true
  result : ∃ response, Reads result response ∧ isStatus response = true
  later : ∀ line ∈ later, ∃ response, Reads line response ∧ isStatus response = false

theorem flatten_responses (texts : List String) :
    (texts.map responseBytes).flatten = (texts.map utf8).flatMap Said.frame := by
  rw [flatMap_map]
  rfl

theorem informs_status {command : AgProtocol.Command} {code : String} (informs : command.informs = some code) :
    colon ∉ utf8 ("+" ++ code) ∧ statusCodes.contains ("+" ++ code) = false ∧ code ≠ "A" ∧ code ≠ "D" := by
  cases command <;> cases informs <;> decide

theorem receiveLine_answers {ag : AgProtocol} {text : String} {reply : Reply}
    (answerable : ag.Answerable (utf8 text)) (handled : ag.receiveLine (utf8 text) = .ok reply) :
    reply.ag.readBuffer = ag.readBuffer ∧ ∃ information result later,
      Answer text reply.outgoing information result later := by
  obtain ⟨name, shape, known⟩ := receiveLine_shape answerable handled
  obtain ⟨information, result, later, outgoing, informs, is, proposals⟩ := shape.lines
  have informed (text' : String) (inside : text' ∈ information) : ∃ response,
      Reads (utf8 text') response ∧ isStatus response = false ∧
        containsText text response.code = true := by
    obtain ⟨listed, code, rfl, named⟩ := informs text' inside
    obtain ⟨cmd, command, parsed, rfl, informs⟩ := known code rfl
    obtain ⟨clean, status, answer, dial⟩ := informs_status informs
    obtain ⟨response, reads, same⟩ := named.reads clean (answerable.legible text' listed)
    exact ⟨response, reads, by rw [isStatus, same]; exact status,
      by rw [same]; exact containsText_of_parse parsed answer dial⟩
  have clean : ∀ text ∈ information ++ result :: later, findCrlf (utf8 text) = none := by
    intro text' inside
    rcases mem_append.mp inside with inside | inside
    · obtain ⟨response, reads, -⟩ := informed text' inside
      exact reads.clean
    · rcases mem_cons.mp inside with rfl | inside
      · obtain ⟨response, reads, -⟩ := reads_result is
        exact reads.clean
      · obtain ⟨codec, rfl⟩ := proposals text' inside
        obtain ⟨response, reads, -⟩ := reads_proposal codec
        exact reads.clean
  refine ⟨shape.buffer, information.map utf8, utf8 result, later.map utf8, ?_, ?_, ?_, ?_, ?_⟩
  · rw [outgoing, linesOf_map clean, map_append, map_cons]
  · rw [outgoing, flatten_responses, map_append, map_cons]
  · intro line inside
    obtain ⟨text', among, rfl⟩ := mem_map.mp inside
    exact informed text' among
  · exact reads_result is
  · intro line inside
    obtain ⟨text', among, rfl⟩ := mem_map.mp inside
    obtain ⟨codec, rfl⟩ := proposals text' among
    exact reads_proposal codec

theorem receiveLine_own (ag : AgProtocol) (codec : AudioCodec) : ∃ after events,
    ag.receiveLine (utf8 s!"AT+BCS={codec.toValue}") = .ok ⟨after, [ok], events⟩ ∧
      after.readBuffer = ag.readBuffer := by
  have parsed : AtCommand.parseFrom (utf8 s!"AT+BCS={codec.toValue}") =
      .ok ⟨"BCS", .set, [.value [0x30 + codec.toValue]]⟩ := by
    cases codec <;> rfl
  have named : namedCodec [.value [0x30 + codec.toValue]] = some codec := by
    cases codec <;> decide
  have handled : ag.receiveLine (utf8 s!"AT+BCS={codec.toValue}") =
      .ok (ag.onBcs [.value [0x30 + codec.toValue]]) := by
    rw [receiveLine, parsed]
    rfl
  rw [handled, onBcs, named]
  simp only [setAudioState]
  split
  · split <;> exact ⟨_, _, rfl, rfl⟩
  · exact ⟨_, _, rfl, rfl⟩

theorem flow_said {said : List Said} {buffer octets : Bytes}
    (flow : ∃ later, said.map Said.line = lines' ++ later ∧
      buffer ++ octets = later.flatMap Said.frame) (new : List Said) :
    ∃ later, (said ++ new).map Said.line = lines' ++ later ∧
      buffer ++ (octets ++ (new.map Said.line).flatMap Said.frame) = later.flatMap Said.frame := by
  obtain ⟨later, same, octets⟩ := flow
  refine ⟨later ++ new.map Said.line, ?_, ?_⟩
  · rw [map_append, same, append_assoc]
  · rw [← append_assoc, octets, flatMap_append]

theorem answerLines_eq {information : List Bytes} {result : Bytes} {later : List Bytes}
    (silent : ∀ line ∈ information, isResult line = false) (is : isResult result = true) :
    answerLines (information ++ result :: later) =
      information.map .information ++ .result result :: later.map .unsolicited := by
  induction information with
  | nil =>
    rw [nil_append, answerLines, if_pos is]
    rfl
  | cons line rest ih =>
    rw [cons_append, answerLines, if_neg (by rw [silent line mem_cons_self]; decide),
      ih fun other inside => silent other (mem_cons_of_mem _ inside)]
    rfl

theorem map_line_answer (information : List Bytes) (result : Bytes) (later : List Bytes) :
    (information.map Said.information ++ Said.result result :: later.map Said.unsolicited).map Said.line =
      information ++ result :: later := by
  rw [map_append, map_cons, map_map, map_map]
  show information.map id ++ result :: later.map id = _
  rw [map_id, map_id]

section InTurn
variable (inTurn : InTurn c (line :: lines) lines')
include inTurn

theorem InTurn.next : ∃ sent rest,
    c.sent = sent :: rest ∧ sent.line = line ∧ ∃ later, rest.map Sent.line = lines ++ later ∧
      c.ag.readBuffer ++ c.toAg = later.flatMap (· ++ [0x0D]) := by
  obtain ⟨later, same, octets⟩ := inTurn.toAg
  obtain ⟨sent, rest, order, here, others⟩ := map_eq_cons_iff.mp same
  exact ⟨sent, rest, order, here, later, others, octets⟩

theorem InTurn.flow_behind {sent : Sent} {rest : List Sent} (head : c.sent = sent :: rest) :
    ∃ later, rest.map Sent.line = lines ++ later ∧
      c.ag.readBuffer ++ c.toAg = later.flatMap (· ++ [0x0D]) := by
  obtain ⟨first, rest', order, -, flow⟩ := inTurn.next
  obtain ⟨rfl, rfl⟩ := List.cons.inj (head.symm.trans order)
  exact flow

theorem InTurn.serve_command {text : String} {rest : List Sent}
    (head : c.sent = .command text :: rest) (here : utf8 text = line)
    (answerable : c.ag.Answerable line) (served : c.serve line = .ok after) :
    InTurn after lines lines' := by
  obtain ⟨later', others, octets⟩ := inTurn.flow_behind head
  subst here
  obtain ⟨reply, handled, served⟩ := Rust.bind_eq_ok.mp served
  rw [head] at served
  cases served
  obtain ⟨buffer, information, result, later, answer⟩ := receiveLine_answers answerable handled
  obtain ⟨response, reads, status⟩ := answer.result
  have is : isResult result = true := by rw [isResult_reads reads, status]
  have silent : ∀ line ∈ information, isResult line = false := by
    intro line inside
    obtain ⟨response, reads, open', -⟩ := answer.information line inside
    rw [isResult_reads reads, open']
  have said := @answerLines_eq information result later silent is
  have lines := answer.lines
  rw [answer.lines, said]
  have told := inTurn.told
  refine ⟨⟨later', others, by rw [buffer]; exact octets⟩, ?_, by rw [buffer]; exact inTurn.restAg,
    inTurn.restHf, fun sent inside => inTurn.plain sent (head ▸ mem_cons_of_mem _ inside), ?_, ?_,
      ?_, ?_⟩
  · have flow := flow_said inTurn.toHf
      (information.map .information ++ .result result :: later.map .unsolicited)
    rw [map_line_answer, ← answer.octets] at flow
    exact flow
  · intro line inside
    rcases mem_append.mp inside with inside | inside
    · exact inTurn.sound line inside
    · rcases mem_append.mp inside with inside | inside
      · obtain ⟨line', among, rfl⟩ := mem_map.mp inside
        obtain ⟨response, reads, open', -⟩ := answer.information line' among
        exact ⟨response, reads, open'⟩
      · rcases mem_cons.mp inside with rfl | inside
        · exact answer.result
        · obtain ⟨line', among, rfl⟩ := mem_map.mp inside
          exact answer.later line' among
  · intro other inside
    rcases mem_append.mp inside with inside | inside
    · exact inTurn.single other inside
    · obtain rfl := mem_singleton.mp inside
      refine ⟨information, result, later, lines, is, silent, fun line inside => ?_⟩
      obtain ⟨response, reads, open'⟩ := answer.later line inside
      rw [isResult_reads reads, open']
  · show c.notifications ++ _ = _
    rw [filterMap_append, map_append, ← append_assoc, told, map_append]
  · cases inTurn.phase with
    | idle none owned =>
      obtain ⟨codec, same⟩ := owned _ (head ▸ mem_cons_self)
      cases same
    | answering now owned =>
      obtain ⟨codec, same⟩ := owned _ (head ▸ mem_cons_self)
      cases same
    | @asked text' others' now fresh first owned unasked completes begun =>
      obtain ⟨same, rfl⟩ := List.cons.inj (head.symm.trans first)
      cases same
      refine @Phase.answering _ text reply.outgoing c.answered [] (c.said ++ information.map .information)
        result (later.map .unsolicited) later now owned ?_ ?_ ?_ rfl completes ?_ ?_ ?_ ?_
      · rw [append_assoc]
      · intro line inside
        rcases mem_append.mp inside with inside | inside
        · exact .inl (unasked line inside)
        · obtain ⟨line', among, rfl⟩ := mem_map.mp inside
          obtain ⟨response, reads, -, contains⟩ := answer.information line' among
          exact .inr ⟨line', response, rfl, reads.parsed, contains⟩
      · intro line inside
        obtain ⟨line', -, rfl⟩ := mem_map.mp inside
        exact ⟨line', .inl rfl⟩
      · rw [begun, map_append]
        rfl
      · have none : c.said.filterMap informed = [] := by
          refine filterMap_eq_nil_iff.mpr fun line inside => ?_
          obtain ⟨line', rfl⟩ := unasked line inside
          rfl
        have all : (information.map Said.information).filterMap informed = information := by
          rw [filterMap_map]
          exact filterMap_some
        rw [lines, filterMap_append, none, all]
        rfl
      · rw [fresh]
        rfl
      · exact fun line inside => by cases inside

theorem InTurn.serve_own {rest : List Sent} (head : c.sent = .own line :: rest)
    (served : c.serve line = .ok after) :
    InTurn after lines lines' := by
  obtain ⟨later', others, octets⟩ := inTurn.flow_behind head
  -- No command is on its way to the gateway with it.
  obtain ⟨owned, behind⟩ : (∀ sent ∈ c.sent, Own sent) ∧ ∀ next : Conversation,
      next.hf = c.hf → next.sent = rest → next.said = c.said ++ [.own (utf8 "OK")] →
      next.answered = c.answered → next.completed = c.completed → next.asked = c.asked →
      Phase next := by
    cases inTurn.phase with
    | asked now fresh first => cases head.symm.trans first
    | idle none owned asides completes begun =>
      refine ⟨owned, fun next hf sent said answered completed asked => .idle (hf ▸ none) ?_ ?_ ?_ ?_⟩
      · rw [sent]
        exact fun other inside => owned other (head ▸ mem_cons_of_mem _ inside)
      · rw [said]
        intro other inside
        rcases mem_append.mp inside with inside | inside
        · exact asides other inside
        · exact ⟨_, .inr (mem_singleton.mp inside)⟩
      · rwa [answered, completed]
      · rwa [asked, answered]
    | @answering text outgoing front heard before result behind left now owned order within asides last
        completes begun answer heardLines silent =>
      refine ⟨owned, fun next hf sent said answered completed asked => ?_⟩
      refine @Phase.answering _ text outgoing front heard before result (behind ++ [.own (utf8 "OK")]) left
        (hf ▸ now) ?_ ?_ within ?_ (answered.trans last) ?_ ?_ answer ?_ silent
      · rw [sent]
        exact fun other inside => owned other (head ▸ mem_cons_of_mem _ inside)
      · rw [said, order]
        simp
      · intro other inside
        rcases mem_append.mp inside with inside | inside
        · exact asides other inside
        · exact ⟨_, .inr (mem_singleton.mp inside)⟩
      · rwa [completed]
      · rwa [asked, answered]
      · rwa [hf]
  obtain ⟨codec, same⟩ := owned _ (head ▸ mem_cons_self)
  cases same
  obtain ⟨ag, events, handled, buffer⟩ := receiveLine_own c.ag codec
  have confirmed : linesOf [ok] = [utf8 "OK"] := @linesOf_map ["OK"] (by decide)
  unfold serve at served
  rw [handled, head] at served
  simp only [Rust.ok_bind, List.head?_cons, tail_cons, confirmed] at served
  cases served
  refine ⟨⟨later', others, by rw [buffer]; exact octets⟩, ?_, by rw [buffer]; exact inTurn.restAg,
    inTurn.restHf, fun sent inside => inTurn.plain sent (head ▸ mem_cons_of_mem _ inside), ?_,
    inTurn.single, ?_, behind _ rfl rfl rfl rfl rfl rfl⟩
  · exact flow_said inTurn.toHf [.own (utf8 "OK")]
  · intro other inside
    rcases mem_append.mp inside with inside | inside
    · exact inTurn.sound other inside
    · obtain rfl := mem_singleton.mp inside
      exact reads_result (.inl rfl)
  · show c.notifications ++ ((c.said ++ [Said.own (utf8 "OK")]).filterMap Said.unasked).map _ = _
    have none : [Said.own (utf8 "OK")].filterMap Said.unasked = [] := rfl
    rw [filterMap_append, none, append_nil]
    exact inTurn.told

theorem InTurn.serve (answerable : c.ag.Answerable line) (served : c.serve line = .ok after) :
    InTurn after lines lines' := by
  obtain ⟨sent, rest, head, here, -⟩ := inTurn.next
  cases sent with
  | command text => exact inTurn.serve_command head here answerable served
  | own line' =>
    cases here
    exact inTurn.serve_own head served

end InTurn

theorem InTurn.serveAll (inTurn : InTurn c lines lines') (serves : Serves True c lines)
    (served : lines.foldlM Conversation.serve c = .ok after) : InTurn after [] lines' := by
  induction lines generalizing c with
  | nil =>
    cases served
    exact inTurn
  | cons line rest ih =>
    rw [foldlM_cons] at served
    obtain ⟨next, first, served⟩ := Rust.bind_eq_ok.mp served
    exact ih (inTurn.serve (serves.1 trivial) first) (serves.2 next first) served

end Serving

/-! ## Calls -/

section Calls
variable {c : Conversation}

/-- The hands-free side begins a command while none is pending. -/
theorem InTurn.ask (inTurn : InTurn c [] []) (request : HfCall) (free : c.hf.hasPendingCommand = false)
    (settled : c.Settled) (oneLine : ∀ text ∈ (c.hf.call request).1.pendingCommand, OneLine text) :
    InTurn (c.ask request) [] [] := by
  obtain ⟨text, pending, fresh, buffer, bytes⟩ : ∃ text,
      (c.hf.call request).1.pendingCommand = some text ∧
      (c.hf.call request).1.pendingResponses = [] ∧
      (c.hf.call request).1.readBuffer = c.hf.readBuffer ∧
      (c.hf.call request).2 = commandBytes text := by
    cases request <;> exact ⟨_, rfl, rfl, rfl, rfl⟩
  have none : c.hf.pendingCommand = none :=
    Option.not_isSome_iff_eq_none.mp (by rw [← HfProtocol.hasPendingCommand, free]; decide)
  have whole := oneLine text pending
  cases inTurn.phase with
  | asked now => cases now.symm.trans none
  | answering now => cases now.symm.trans none
  | idle _ owned asides completes begun =>
    have clear : c.sent = [] := by
      refine eq_nil_iff_forall_not_mem.mpr fun sent inside => ?_
      obtain ⟨text', rfl⟩ := settled.1 sent inside
      obtain ⟨codec, same⟩ := owned _ inside
      cases same
    have flow := flow_append inTurn.toAg [.command text]
    have alone : ([Sent.command text].map fun sent => sent.line ++ [0x0D]).flatten =
        commandBytes text := append_nil _
    rw [alone] at flow
    refine ⟨?_, ?_, inTurn.restAg, ?_, ?_, inTurn.sound, inTurn.single, inTurn.told, ?_⟩
    · simp only [Conversation.ask, pending, bytes]
      exact flow
    · simp only [Conversation.ask, buffer]
      exact inTurn.toHf
    · simp only [Conversation.ask, buffer]
      exact inTurn.restHf
    · simp only [Conversation.ask, pending, clear]
      intro sent inside
      obtain rfl := mem_singleton.mp inside
      exact ⟨whole.clean, whole.nonempty⟩
    · refine @Phase.asked _ text [] pending fresh ?_ ?_ ?_ completes ?_
      · simp only [Conversation.ask, pending, clear]
        rfl
      · exact fun sent inside => by cases inside
      · intro said inside
        obtain ⟨line, same | same⟩ := asides said inside
        · exact ⟨line, same⟩
        · exact absurd same (settled.2 said inside line)
      · simp only [Conversation.ask, pending, begun]
        rfl

/-- What the gateway says unasked: at most one line, which is no result. -/
theorem call_says {ag after : AgProtocol} {call : AgCall} {outgoing : List Bytes}
    (called : ag.call call = .ok (after, outgoing)) : after.readBuffer = ag.readBuffer ∧
      (outgoing = [] ∨ ∃ text, outgoing = [responseBytes text] ∧ (text = "RING" ∨
        ∃ name ∈ ["+BCS", "+CIEV", "+VGS", "+VGM", "+CLIP"], Named name text)) := by
  cases call with
  | startAudioConnection =>
    cases called
    unfold AgProtocol.startAudioConnection
    split
    · exact ⟨rfl, .inl rfl⟩
    · split
      · simp only [setAudioState]
        split <;> exact ⟨rfl, .inr ⟨_, rfl, .inr ⟨"+BCS", by decide, named_append rfl _⟩⟩⟩
      · exact ⟨by simp only [setAudioState]; split <;> rfl, .inl rfl⟩
  | updateAgIndicator indicator value =>
    obtain ⟨⟨ag', bytes⟩, updated, made⟩ := Rust.bind_eq_ok.mp called
    cases made
    unfold AgProtocol.updateAgIndicator at updated
    split at updated
    · cases updated
    · rename_i index _
      cases updated
      refine ⟨rfl, .inr ⟨_, rfl, .inr ⟨"+CIEV", by decide, ?_⟩⟩⟩
      exact ⟨" " ++ toString (index + 1) ++ "," ++ toString value, by
        simp only [String.append_assoc, toString]; rfl⟩
  | setSpeakerVolume level =>
    cases called
    exact ⟨rfl, .inr ⟨_, rfl, .inr ⟨"+VGS", by decide, named_append rfl _⟩⟩⟩
  | setMicrophoneVolume level =>
    cases called
    exact ⟨rfl, .inr ⟨_, rfl, .inr ⟨"+VGM", by decide, named_append rfl _⟩⟩⟩
  | sendRing =>
    cases called
    exact ⟨rfl, .inr ⟨_, rfl, .inl rfl⟩⟩
  | sendCliNotification cli =>
    cases called
    exact ⟨rfl, .inr ⟨_, rfl, .inr ⟨"+CLIP", by decide, named_append rfl _⟩⟩⟩

theorem Phase.unasked (phase : Phase c) {after : Conversation} {new : List Said} (hf : after.hf = c.hf)
    (sent : after.sent = c.sent) (said : after.said = c.said ++ new) (all : ∀ line ∈ new, Unasked line)
    (answered : after.answered = c.answered) (completed : after.completed = c.completed)
    (asked : after.asked = c.asked) : Phase after := by
  have later {lines : List Said} (asides : ∀ line ∈ lines, Aside line) :
      ∀ line ∈ lines ++ new, Aside line := by
    intro line inside
    rcases mem_append.mp inside with inside | inside
    · exact asides line inside
    · exact (all line inside).imp fun _ => .inl
  cases phase with
  | idle none owned asides completes begun =>
    refine .idle (hf ▸ none) (sent ▸ owned) ?_ ?_ ?_
    · rw [said]
      exact later asides
    · rwa [answered, completed]
    · rwa [asked, answered]
  | asked now fresh first owned unasked completes begun =>
    refine .asked (hf ▸ now) (hf ▸ fresh) (sent.trans first) owned ?_ ?_ ?_
    · rw [said]
      intro line inside
      exact (mem_append.mp inside).elim (unasked line) (all line)
    · rwa [answered, completed]
    · rwa [asked, answered]
  | @answering text outgoing front heard before result behind left now owned order within asides last completes
      begun answer heardLines silent =>
    refine @Phase.answering _ text outgoing front heard before result (behind ++ new) left (hf ▸ now)
      (sent ▸ owned) ?_ within (later asides) (answered.trans last) ?_ ?_ answer ?_ silent
    · rw [said, order]
      simp
    · rwa [completed]
    · rwa [asked, answered]
    · rwa [hf]

theorem InTurn.say (inTurn : InTurn c [] []) {call : AgCall} {ag : AgProtocol} {outgoing : List Bytes}
    (called : c.ag.call call = .ok (ag, outgoing))
    (legible : ∀ text, responseBytes text ∈ outgoing → Legible text) :
    InTurn (c.say ag outgoing) [] [] := by
  obtain ⟨buffer, kinds⟩ := call_says called
  obtain ⟨new, lines, octets, reads⟩ : ∃ new : List Bytes, linesOf outgoing = new ∧
      outgoing.flatten = new.flatMap Said.frame ∧
      ∀ line ∈ new, ∃ response, Reads line response ∧ isStatus response = false := by
    rcases kinds with rfl | ⟨text, rfl, kind⟩
    · exact ⟨[], @linesOf_map [] (by simp), rfl, by simp⟩
    · obtain ⟨response, reads, status⟩ : ∃ response, Reads (utf8 text) response ∧
          isStatus response = false := by
        rcases kind with rfl | ⟨name, among, named⟩
        · exact ⟨⟨"RING", []⟩, ⟨by decide, by decide, rfl⟩, by decide⟩
        · have known : colon ∉ utf8 name ∧ statusCodes.contains name = false := by
            clear named
            revert name
            decide
          obtain ⟨response, reads, same⟩ := named.reads known.1 (legible text mem_cons_self)
          exact ⟨response, reads, by rw [isStatus, same]; exact known.2⟩
      refine ⟨[utf8 text], @linesOf_map [text] ?_, ?_, ?_⟩
      · intro text' inside
        obtain rfl := mem_singleton.mp inside
        exact reads.clean
      · exact flatten_responses [text]
      · intro line inside
        obtain rfl := mem_singleton.mp inside
        exact ⟨response, reads, status⟩
  have all : ∀ line ∈ new.map Said.unsolicited, Unasked line := by
    intro line inside
    obtain ⟨line', -, rfl⟩ := mem_map.mp inside
    exact ⟨line', rfl⟩
  have told := inTurn.told
  refine ⟨by simp only [Conversation.say, buffer]; exact inTurn.toAg, ?_,
    by simp only [Conversation.say, buffer]; exact inTurn.restAg, inTurn.restHf, inTurn.plain, ?_,
    inTurn.single, ?_, ?_⟩
  · have flow := flow_said inTurn.toHf (new.map .unsolicited)
    have same : (new.map Said.unsolicited).map Said.line = new := by
      rw [map_map]
      exact map_id new
    rw [same, ← octets] at flow
    simp only [Conversation.say, lines]
    exact flow
  · simp only [Conversation.say, lines]
    intro line inside
    rcases mem_append.mp inside with inside | inside
    · exact inTurn.sound line inside
    · obtain ⟨line', among, rfl⟩ := mem_map.mp inside
      exact reads line' among
  · show c.notifications ++ _ = _
    simp only [Conversation.say, lines]
    have same : (new.map Said.unsolicited).filterMap Said.unasked = new := by
      rw [filterMap_map]
      exact filterMap_some
    rw [filterMap_append, map_append, ← append_assoc, told, same, map_append]
  · exact inTurn.phase.unasked rfl rfl (by simp only [Conversation.say, lines]) all rfl rfl rfl

end Calls

end Conversation
end Simble.Hfp
