import Simble.Hfp.Serving

/-! Every command gets its own answer, in every run in which the lines fit. -/
namespace Simble.Hfp
open List
namespace Conversation

/-! ## Runs -/

section Runs
variable {c after : Conversation} {hf : HfConfiguration} {ag : AgConfiguration}

theorem inTurn_start : InTurn (start hf ag) [] [] where
  toAg := ⟨[], rfl, rfl⟩
  toHf := ⟨[], rfl, rfl⟩
  restAg := rfl
  restHf := extractResponseLines_open fun _ _ none => by cases none
  plain := fun _ inside => by cases inside
  sound := fun _ inside => by cases inside
  single := fun _ inside => by cases inside
  told := rfl
  phase := .idle rfl (fun _ inside => by cases inside) (fun _ inside => by cases inside) .nil rfl

theorem InTurn.serve_octets (inTurn : InTurn c [] []) {front back : Bytes} (cut : c.toAg = front ++ back)
    (serves : Serves True { c with
      ag := { c.ag with readBuffer := (extractCommandLines (c.ag.readBuffer ++ front)).2 }
      toAg := back } ((extractCommandLines (c.ag.readBuffer ++ front)).1.filter (· ≠ [])))
    (served : { c with
      ag := { c.ag with readBuffer := (extractCommandLines (c.ag.readBuffer ++ front)).2 }
      toAg := back }.serveAll (extractCommandLines (c.ag.readBuffer ++ front)).1 = .ok after) :
    InTurn after [] [] := by
  obtain ⟨lines, same, octets⟩ := inTurn.toAg
  rw [nil_append] at same
  subst same
  have clean : ∀ line ∈ c.sent.map Sent.line, (0x0D : UInt8) ∉ line := by
    intro line inside
    obtain ⟨sent, among, rfl⟩ := List.mem_map.mp inside
    exact (inTurn.plain sent among).1
  rw [cut, ← append_assoc] at octets
  obtain ⟨later, taken, left, rest⟩ := commandLines_taken clean octets
  have all : (extractCommandLines (c.ag.readBuffer ++ front)).1.filter (· ≠ []) =
      (extractCommandLines (c.ag.readBuffer ++ front)).1 := by
    refine List.filter_eq_self.mpr fun line inside => decide_eq_true ?_
    have inside : line ∈ c.sent.map Sent.line := taken ▸ mem_append_left _ inside
    obtain ⟨sent, among, rfl⟩ := List.mem_map.mp inside
    exact (inTurn.plain sent among).2
  rw [Conversation.serveAll, all] at served
  rw [all] at serves
  refine InTurn.serveAll ?_ serves served
  refine ⟨⟨later, taken, left⟩, inTurn.toHf, rest, inTurn.restHf, inTurn.plain, inTurn.sound,
    inTurn.single, inTurn.told, ?_⟩
  exact inTurn.phase.unasked rfl rfl (append_nil _).symm (fun _ inside => by cases inside) rfl rfl
    rfl

theorem InTurn.hear_octets (inTurn : InTurn c [] []) {front back : Bytes} (cut : c.toHf = front ++ back)
    (hears : Hears True { c with
      hf := { c.hf with readBuffer := (extractResponseLines (c.hf.readBuffer ++ front)).2 }
      toHf := back } (extractResponseLines (c.hf.readBuffer ++ front)).1) :
    InTurn ({ c with
      hf := { c.hf with readBuffer := (extractResponseLines (c.hf.readBuffer ++ front)).2 }
      toHf := back }.hearAll (extractResponseLines (c.hf.readBuffer ++ front)).1) [] [] := by
  obtain ⟨lines, same, octets⟩ := inTurn.toHf
  rw [nil_append] at same
  subst same
  have clean : ∀ line ∈ c.said.map Said.line, findCrlf line = none := by
    intro line inside
    obtain ⟨said, among, rfl⟩ := List.mem_map.mp inside
    obtain ⟨response, reads⟩ := (inTurn.sound said among).reads
    exact reads.clean
  rw [cut, ← append_assoc] at octets
  obtain ⟨later, taken, left, rest⟩ := responseLines_taken clean octets
  refine InTurn.hearAll ?_ hears
  rw [append_nil]
  refine ⟨inTurn.toAg, ⟨later, taken, left⟩, inTurn.restAg, rest, inTurn.plain, inTurn.sound,
    inTurn.single, inTurn.told, ?_⟩
  cases inTurn.phase with
  | idle none owned asides completes begun => exact .idle none owned asides completes begun
  | asked now fresh first owned unasked completes begun =>
    exact .asked now fresh first owned unasked completes begun
  | answering now owned order within asides last completes begun answer heard silent =>
    exact .answering now owned order within asides last completes begun answer heard silent

theorem InTurn.step (inTurn : InTurn c [] []) (step : Step True c after) : InTurn after [] [] := by
  cases step with
  | ask request free careful =>
    obtain ⟨settled, oneLine⟩ := careful trivial
    exact inTurn.ask request free settled oneLine
  | say called careful => exact inTurn.say called (careful trivial)
  | serve cut serves served => exact inTurn.serve_octets cut serves served
  | hear cut hears => exact inTurn.hear_octets cut hears

theorem Run.inTurn (run : Run True c) : InTurn c [] [] := by
  induction run with
  | start => exact inTurn_start
  | step _ step ih => exact ih.step step

/-- With no octet on its way, no line is. -/
theorem InTurn.silent (inTurn : InTurn c [] []) (toAg : c.toAg = []) (toHf : c.toHf = []) :
    c.sent = [] ∧ c.said = [] := by
  constructor
  · obtain ⟨lines, same, octets⟩ := inTurn.toAg
    rw [nil_append] at same
    subst same
    have all := @commandLines_all (c.sent.map Sent.line) fun line inside => by
      obtain ⟨sent, among, rfl⟩ := List.mem_map.mp inside
      exact (inTurn.plain sent among).1
    rw [← octets, toAg, append_nil, inTurn.restAg] at all
    exact List.map_eq_nil_iff.mp (congrArg Prod.fst all).symm
  · obtain ⟨lines, same, octets⟩ := inTurn.toHf
    rw [nil_append] at same
    subst same
    have all := @responseLines_all (c.said.map Said.line) fun line inside => by
      obtain ⟨said, among, rfl⟩ := List.mem_map.mp inside
      obtain ⟨response, reads⟩ := (inTurn.sound said among).reads
      exact reads.clean
    rw [show (c.said.map Said.line).flatMap (fun line => [0x0D, 0x0A] ++ line ++ [0x0D, 0x0A]) =
      c.hf.readBuffer ++ c.toHf from octets.symm, toHf, append_nil, inTurn.restHf] at all
    exact List.map_eq_nil_iff.mp (congrArg Prod.fst all).symm

theorem InTurn.attributed (inTurn : InTurn c [] []) (tells : Heard c) : Attributed c := by
  have initial : c.notifications <+: c.unsolicited.map AtResponse.parseFrom := ⟨_, inTurn.told⟩
  have told (quiet : c.said = []) : c.notifications = c.unsolicited.map AtResponse.parseFrom := by
    rw [← inTurn.told, quiet]
    exact (append_nil _).symm
  cases inTurn.phase with
  | idle none owned asides completes begun =>
    have free : c.hf.hasPendingCommand = false := by rw [HfProtocol.hasPendingCommand, none]; rfl
    refine ⟨inTurn.single, begun ▸ prefix_rfl, ⟨c.answered, [], (append_nil _).symm, completes⟩,
      ?_, initial, fun toAg toHf => ⟨free, told (inTurn.silent toAg toHf).2⟩, tells.announced,
      tells.events⟩
    rw [begun, length_map, completes.length_eq, free]
    rfl
  | asked now fresh first owned unasked completes begun =>
    have held : c.hf.hasPendingCommand = true := by rw [HfProtocol.hasPendingCommand, now]; rfl
    refine ⟨inTurn.single, begun ▸ prefix_append _ _,
      ⟨c.answered, [], (append_nil _).symm, completes⟩, ?_, initial, fun toAg toHf => ?_,
      tells.announced, tells.events⟩
    · rw [begun, length_append, length_map, completes.length_eq, held]
      rfl
    · cases first.symm.trans (inTurn.silent toAg toHf).1
  | @answering text outgoing front heard before result behind left now owned order within asides last
      completes begun =>
    have held : c.hf.hasPendingCommand = true := by rw [HfProtocol.hasPendingCommand, now]; rfl
    refine ⟨inTurn.single, begun ▸ prefix_rfl, ⟨front, _, last, completes⟩, ?_, initial,
      fun toAg toHf => ?_, tells.announced, tells.events⟩
    · rw [begun, last, length_map, length_append, completes.length_eq, held]
      rfl
    · have none := order.symm.trans (inTurn.silent toAg toHf).2
      exact absurd (congrArg List.length none) (by simp)

theorem hears_false (lines : List Bytes) : Hears False c lines := by
  induction lines generalizing c with
  | nil => trivial
  | cons line rest ih => exact ⟨False.elim, ih⟩

theorem serves_false (lines : List Bytes) : Serves False c lines := by
  induction lines generalizing c with
  | nil => trivial
  | cons line rest ih => exact ⟨False.elim, fun _ _ => ih⟩

theorem bare_step {exchange : Exchange} :
    (∃ after, Step False c after ∧ after.bare = exchange) ↔ c.bare.Step exchange := by
  constructor
  · rintro ⟨_, step, rfl⟩
    cases step with
    | ask request idle => exact .ask request idle
    | say called => exact .say called
    | @serve front back after cut _ served =>
      have same := c.bare_answered front back
      rw [served] at same
      cases received : c.ag.receive front with
      | error => rw [received] at same; cases same
      | ok reply =>
        rw [received] at same
        rw [Except.ok.inj same]
        exact .serve cut received
    | @hear front back cut =>
      rw [c.bare_received front back]
      exact .hear cut
  · intro step
    cases step with
    | ask request idle => exact ⟨_, .ask request idle False.elim, rfl⟩
    | say called => exact ⟨_, .say called False.elim, rfl⟩
    | @serve front back reply cut received =>
      have same := c.bare_answered front back
      rw [show c.ag.receive front = .ok reply from received, Except.map.eq_def] at same
      split at same
      · cases same
      · rename_i served
        exact ⟨_, .serve cut (serves_false _) served, Except.ok.inj same⟩
    | @hear front back cut => exact ⟨_, .hear cut (hears_false _), c.bare_received front back⟩

/-- The conversations are the exchanges of the source's calls, in octets that are cut anywhere,
with a record of what was said. -/
theorem run_bare_iff (exchange : Exchange) : (∃ c, Run False c ∧ c.bare = exchange) ↔
    ∃ hf ag, Relation.ReflTransGen Exchange.Step (start hf ag).bare exchange := by
  constructor
  · rintro ⟨c, run, rfl⟩
    induction run with
    | @start hf ag => exact ⟨hf, ag, .refl⟩
    | step _ step ih =>
      obtain ⟨hf, ag, steps⟩ := ih
      exact ⟨hf, ag, steps.tail (bare_step.mp ⟨_, step, rfl⟩)⟩
  · rintro ⟨hf, ag, steps⟩
    induction steps with
    | refl => exact ⟨_, .start, rfl⟩
    | tail _ step ih =>
      obtain ⟨c, run, rfl⟩ := ih
      obtain ⟨after, taken, rfl⟩ := bare_step.mpr step
      exact ⟨after, run.step taken, rfl⟩

theorem Step.hear_lines {careful : Prop} {lines : List Bytes} {back : Bytes}
    (clean : ∀ line ∈ lines, findCrlf line = none) (empty : c.hf.readBuffer = [])
    (cut : c.toHf = lines.flatMap Said.frame ++ back)
    (hears : Hears careful { c with toHf := back } lines) :
    Step careful c ({ c with toHf := back }.hearAll lines) := by
  have whole : extractResponseLines (c.hf.readBuffer ++ lines.flatMap Said.frame) =
      (lines, c.hf.readBuffer) := by
    rw [empty]
    exact responseLines_all clean
  have step := @Step.hear careful c (lines.flatMap Said.frame) back cut
  rw [whole] at step
  exact step hears

theorem Step.serve_command {careful : Prop} {text : String} {rest : List Sent} {reply : Reply}
    {spoken : List Said} (flow : c.toAg = commandBytes text)
    (whole : extractCommandLines (c.ag.readBuffer ++ commandBytes text) = ([utf8 text], c.ag.readBuffer))
    (nonempty : utf8 text ≠ []) (answerable : careful → c.ag.Answerable (utf8 text))
    (head : c.sent = .command text :: rest) (handled : c.ag.receiveLine (utf8 text) = .ok reply)
    (said : answerLines (linesOf reply.outgoing) = spoken) : Step careful c { c with
      ag := reply.ag
      toAg := []
      toHf := c.toHf ++ reply.outgoing.flatten
      sent := rest
      said := c.said ++ spoken
      answered := c.answered ++ [(text, reply.outgoing)]
      unsolicited := c.unsolicited ++ spoken.filterMap Said.unasked } := by
  have kept : [utf8 text].filter (· ≠ []) = [utf8 text] := by simp [nonempty]
  have step := @Step.serve careful c (commandBytes text) [] { c with
      ag := reply.ag
      toAg := []
      toHf := c.toHf ++ reply.outgoing.flatten
      sent := rest
      said := c.said ++ spoken
      answered := c.answered ++ [(text, reply.outgoing)]
      unsolicited := c.unsolicited ++ spoken.filterMap Said.unasked }
    (flow.trans (append_nil _).symm)
  rw [whole] at step
  rw [kept] at step
  refine step ⟨answerable, fun _ _ => trivial⟩ ?_
  subst said
  rw [serveAll, kept, foldlM_cons, Conversation.serve, handled, head]
  rfl

/-- Each command gets its own answer, and what is said unasked is never taken for one,
in a run in which the lines fit. -/
theorem commands_get_their_answers (run : Run True c) : Attributed c :=
  run.inTurn.attributed run.heard

theorem information_is_kept : ∃ c, Run True c ∧
    c.completed = [("AT+BRSF=0", true, [⟨"+BRSF", [.value [0x30]]⟩])] ∧
    c.events = [.ring, .commandCompleted "AT+BRSF=0" true [⟨"+BRSF", [.value [0x30]]⟩]] ∧
    Attributed c := by
  have kept : linesOf [responseBytes "+BRSF: 0", AgProtocol.ok] = [utf8 "+BRSF: 0", utf8 "OK"] :=
    @linesOf_map ["+BRSF: 0", "OK"] (by decide)
  have once : linesOf [AgProtocol.sendRing] = [utf8 "RING"] := @linesOf_map ["RING"] (by decide)
  have clear : (start ⟨0, [], []⟩ ⟨0, [], [], [], []⟩).Settled :=
    ⟨fun _ inside => (by cases inside), fun _ inside => (by cases inside)⟩
  have ring (text : String) (inside : responseBytes text ∈ [AgProtocol.sendRing]) : Legible text := by
    have octets : utf8 text = utf8 "RING" := by
      simpa [AgProtocol.sendRing, responseBytes] using inside
    have same : text = "RING" := by
      have both := (fromUtf8_utf8 text).symm.trans (congrArg fromUtf8 octets)
      exact Option.some.inj (both.trans (fromUtf8_utf8 "RING"))
    subst same
    exact ⟨by decide, _, rfl⟩
  have answerable : (AgProtocol.new ⟨0, [], [], [], []⟩).Answerable (utf8 "AT+BRSF=0") := by
    constructor
    · have all : (AgProtocol.new ⟨0, [], [], [], []⟩).information =
          ["+BRSF: 0", "+CHLD: ()", "+CIND: ", "+BIND: ()", "+COPS: 0,0,\"\"", "+CIND: "] := by decide
      rw [all]
      intro text inside
      simp only [List.mem_cons, List.not_mem_nil, or_false] at inside
      rcases inside with rfl | rfl | rfl | rfl | rfl | rfl <;> exact ⟨by decide, _, rfl⟩
    · intro cmd parsed known
      cases parsed
      cases known
  have start : Run True (start ⟨0, [], []⟩ ⟨0, [], [], [], []⟩) := .start
  have asked := start.step (.ask (.sendCommand "AT+BRSF=0") rfl fun _ => ⟨clear, by
    rintro text ⟨⟩
    exact ⟨by decide, by decide⟩⟩)
  have rung := asked.step (@Step.say _ _ .sendRing _ _ rfl fun _ => ring)
  rw [Conversation.say, once] at rung
  have served := rung.step (@Step.serve_command _ _ "AT+BRSF=0" []
    ⟨.new ⟨0, [], [], [], []⟩, [responseBytes "+BRSF: 0", AgProtocol.ok], []⟩ _ rfl rfl (by decide)
    (fun _ => answerable) rfl rfl (by rw [kept]))
  have heard := served.step (@Step.hear_lines _ _ [utf8 "RING", utf8 "+BRSF: 0", utf8 "OK"] [] (by decide)
    rfl rfl ⟨fun _ => ⟨fun _ _ _ _ parsed => (by cases parsed; decide), fun _ _ _ step => (by cases step)⟩,
      fun _ => ⟨fun _ _ _ same => (by cases same), fun _ _ _ step => (by cases step)⟩,
      fun _ => ⟨fun _ _ _ same => (by cases same), fun _ _ _ step => (by cases step)⟩, trivial⟩)
  exact ⟨_, heard, rfl, rfl, commands_get_their_answers heard⟩

/-- A gateway that refuses an `AT+CMER` accepts it as well, and the second result ends
the next command before the gateway has seen it. -/
theorem answers_are_shifted : ∃ c, Run False c ∧
    c.answered = [("AT+CMER=1", [AgProtocol.error, AgProtocol.ok])] ∧
    c.completed = [("AT+CMER=1", false, []), ("AT+CHLD=7", true, [])] ∧ ¬ Attributed c := by
  have double : linesOf [AgProtocol.error, AgProtocol.ok] = [utf8 "ERROR", utf8 "OK"] :=
    @linesOf_map ["ERROR", "OK"] (by decide)
  have start : Run False (start ⟨0, [], []⟩ ⟨0, [], [], [], []⟩) := .start
  have asked := start.step (.ask (.sendCommand "AT+CMER=1") rfl False.elim)
  have served := asked.step (@Step.serve_command _ _ "AT+CMER=1" []
    ⟨.new ⟨0, [], [], [], []⟩, [AgProtocol.error, AgProtocol.ok], []⟩ _ rfl rfl (by decide)
    False.elim rfl rfl (by rw [double]))
  have refused := served.step (@Step.hear_lines _ _ [utf8 "ERROR"] AgProtocol.ok (by decide) rfl rfl
    (hears_false _))
  have again := refused.step (.ask (.sendCommand "AT+CHLD=7") rfl False.elim)
  have accepted := again.step (@Step.hear_lines _ _ [utf8 "OK"] [] (by decide) rfl rfl (hears_false _))
  refine ⟨_, accepted, rfl, rfl, fun attributed => ?_⟩
  obtain ⟨front, rest, answered, completes⟩ := attributed.completed
  have lengths := completes.length_eq
  have more := congrArg List.length answered
  rw [List.length_append, lengths] at more
  have more : 1 = 2 + rest.length := more
  omega

end Runs

end Conversation
end Simble.Hfp
