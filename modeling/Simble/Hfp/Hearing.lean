import Simble.Hfp.Answers

/-! What holds of two sides between their steps, and how a line that the hands-free
side hears keeps it. -/
namespace Simble.Hfp
open HfProtocol List
namespace Conversation

/-! ## Calls of the source -/

/-- Both sides and the octets between them, with no record of what was said. -/
structure Exchange where
  hf : HfProtocol
  ag : AgProtocol
  toAg : Bytes
  toHf : Bytes

/-- Calls of the source, on octets that are cut anywhere. -/
inductive Exchange.Step (exchange : Exchange) : Exchange → Prop
  | ask (request : HfCall) : exchange.hf.hasPendingCommand = false → Step exchange { exchange with
      hf := (exchange.hf.call request).1
      toAg := exchange.toAg ++ (exchange.hf.call request).2 }
  | say {call : AgCall} {ag : AgProtocol} {outgoing : List Bytes} :
    exchange.ag.call call = .ok (ag, outgoing) →
    Step exchange { exchange with ag, toHf := exchange.toHf ++ outgoing.flatten }
  | serve {front back : Bytes} {reply : Reply} : exchange.toAg = front ++ back →
    exchange.ag.receive front = .ok reply → Step exchange { exchange with
      ag := reply.ag
      toAg := back
      toHf := exchange.toHf ++ reply.outgoing.flatten }
  | hear {front back : Bytes} : exchange.toHf = front ++ back → Step exchange { exchange with
      hf := (exchange.hf.receive front).hf
      toAg := exchange.toAg ++ (exchange.hf.receive front).outgoing.flatten
      toHf := back }

def bare (c : Conversation) : Exchange := ⟨c.hf, c.ag, c.toAg, c.toHf⟩

section Handling
variable (c : Conversation)

theorem bare_hearAll {lines : List Bytes} {base : Bytes} {reply : HfReply} (hf : c.hf = reply.hf)
    (toAg : c.toAg = base ++ reply.outgoing.flatten) :
    let after := lines.foldl (fun reply line =>
      let next := reply.hf.handleLine line
      HfReply.mk next.hf (reply.outgoing ++ next.outgoing) (reply.events ++ next.events)) reply
    (c.hearAll lines).bare = ⟨after.hf, c.ag, base ++ after.outgoing.flatten, c.toHf⟩ := by
  induction lines generalizing c reply with
  | nil =>
    change c.bare = _
    rw [bare, hf, toAg]
    rfl
  | cons line rest ih =>
    have heard : (c.hear line).bare = { c.bare with
        hf := (c.hf.handleLine line).hf
        toAg := c.toAg ++ (c.hf.handleLine line).outgoing.flatten } := by
      unfold hear
      repeat' split
      all_goals rfl
    obtain ⟨hf', ag', toAg', toHf'⟩ := Exchange.mk.inj heard
    have after := @ih (c.hear line) ⟨_, reply.outgoing ++ (c.hf.handleLine line).outgoing,
      reply.events ++ (c.hf.handleLine line).events⟩ hf' (by
        rw [toAg', toAg, append_assoc, flatten_append])
    rw [ag', toHf', hf] at after
    exact after

theorem bare_serve (line : Bytes) : (c.serve line).map bare =
    (c.ag.receiveLine line).map fun reply =>
      ⟨c.hf, reply.ag, c.toAg, c.toHf ++ reply.outgoing.flatten⟩ := by
  unfold serve
  cases c.ag.receiveLine line with
  | error => rfl
  | ok reply =>
    simp only [Rust.ok_bind]
    split <;> rfl

theorem bare_serveAll {lines : List Bytes} {base : Bytes} {reply : Reply} (ag : c.ag = reply.ag)
    (toHf : c.toHf = base ++ reply.outgoing.flatten) :
    (lines.foldlM Conversation.serve c).map bare =
      (lines.foldlM (fun (reply : Reply) line => do
        let next ← reply.ag.receiveLine line
        return ⟨next.ag, reply.outgoing ++ next.outgoing, reply.events ++ next.events⟩) reply).map
        fun (reply : Reply) => ⟨c.hf, reply.ag, c.toAg, base ++ reply.outgoing.flatten⟩ := by
  induction lines generalizing c reply with
  | nil =>
    change Except.ok c.bare = _
    rw [bare, ag, toHf]
    rfl
  | cons line rest ih =>
    rw [foldlM_cons, foldlM_cons, ← ag]
    have one := c.bare_serve line
    cases handled : c.ag.receiveLine line with
    | error stop =>
      cases served : c.serve line <;> rw [handled, served] at one <;> cases one
      rfl
    | ok answer =>
      cases served : c.serve line with
      | error => rw [handled, served] at one; cases one
      | ok next =>
        rw [handled, served] at one
        obtain ⟨hf', ag', toAg', toHf'⟩ := Exchange.mk.inj (Except.ok.inj one)
        have after := @ih next
          ⟨answer.ag, reply.outgoing ++ answer.outgoing, reply.events ++ answer.events⟩ ag'
          (toHf'.trans (by rw [toHf, append_assoc, flatten_append]))
        rw [hf', toAg'] at after
        exact after

theorem bare_received (front back : Bytes) :
    ({ c with
      hf := { c.hf with readBuffer := (extractResponseLines (c.hf.readBuffer ++ front)).2 }
      toHf := back }.hearAll (extractResponseLines (c.hf.readBuffer ++ front)).1).bare =
        { c.bare with
          hf := (c.hf.receive front).hf
          toAg := c.toAg ++ (c.hf.receive front).outgoing.flatten
          toHf := back } :=
  bare_hearAll _ rfl (append_nil _).symm

theorem bare_answered (front back : Bytes) :
    ({ c with
      ag := { c.ag with readBuffer := (extractCommandLines (c.ag.readBuffer ++ front)).2 }
      toAg := back }.serveAll (extractCommandLines (c.ag.readBuffer ++ front)).1).map bare =
        (c.ag.receive front).map fun reply =>
          ⟨c.hf, reply.ag, back, c.toHf ++ reply.outgoing.flatten⟩ :=
  bare_serveAll _ rfl (append_nil _).symm

end Handling

/-! ## Lines that are read -/

theorem isResult_reads {line : Bytes} {response : AtResponse} (reads : Reads line response) :
    isResult line = isStatus response := by
  rw [Hfp.isResult, reads.parsed]

def Sound : Said → Prop
  | .information line | .unsolicited line => ∃ response, Reads line response ∧ isStatus response = false
  | .result line | .own line => ∃ response, Reads line response ∧ isStatus response = true

theorem Sound.reads {said : Said} (sound : Sound said) : ∃ response, Reads said.line response := by
  cases said <;> exact sound.imp fun _ both => both.1

def Said.frame (line : Bytes) : Bytes := [0x0D, 0x0A] ++ line ++ [0x0D, 0x0A]

/-! ## Events -/

theorem isNotice_noticeOf {hf : HfProtocol} {response : AtResponse} {event : HfEvent}
    (due : hf.noticeOf response = some event) : event.isNotice = true := by
  unfold noticeOf at due
  split_ifs at due
  · obtain ⟨codec, -, rfl⟩ := Option.map_eq_some_iff.mp due
    rfl
  · obtain ⟨index, -, due⟩ := Option.bind_eq_some_iff.mp due
    obtain ⟨value, -, due⟩ := Option.bind_eq_some_iff.mp due
    obtain ⟨state, -, rfl⟩ := Option.map_eq_some_iff.mp due
    rfl
  · unfold eventOf at due
    split_ifs at due
    all_goals first
      | cases due; rfl
      | obtain ⟨_, -, rfl⟩ := Option.map_eq_some_iff.mp due; rfl

theorem notices {notice : Notice} (announced : notice.Announced) :
    notice.events.filter HfEvent.isNotice = notice.events ∧
      notice.events.filterMap HfEvent.completion = [] := by
  obtain ⟨changes, same, others⟩ := announced
  have all : ∀ event ∈ notice.events, event.isNotice = true := by
    intro event inside
    rw [same] at inside
    rcases mem_append.mp inside with inside | inside
    · exact isNotice_noticeOf (Option.mem_toList.mp inside)
    · obtain ⟨state, rfl⟩ := others event inside
      rfl
  refine ⟨filter_eq_self.mpr all, filterMap_eq_nil_iff.mpr fun event inside => ?_⟩
  have is := all event inside
  cases event <;> first | rfl | cases is

theorem handleUnsolicited_announced (hf : HfProtocol) (response : AtResponse) :
    Notice.Announced ⟨hf, response, (hf.handleUnsolicited response).events⟩ ∧
      (hf.handleUnsolicited response).hf.slcStep = hf.slcStep := by
  unfold handleUnsolicited Notice.Announced noticeOf
  simp only
  split_ifs with codec indicator
  · unfold onBcs setAudioState
    cases (AgProtocol.numberAt response.parameters 0).bind fun v => AudioCodec.fromValue v.toUInt8 with
    | none => exact ⟨⟨[], rfl, nofun⟩, rfl⟩
    | some codec =>
      simp only
      split_ifs
      · exact ⟨⟨[], rfl, nofun⟩, rfl⟩
      · exact ⟨⟨_, rfl, fun event inside => ⟨_, mem_singleton.mp inside⟩⟩, rfl⟩
  · unfold onCiev
    cases AgProtocol.numberAt response.parameters 0 with
    | none => exact ⟨⟨[], rfl, nofun⟩, rfl⟩
    | some index =>
      cases AgProtocol.numberAt response.parameters 1 with
      | none => exact ⟨⟨[], rfl, nofun⟩, rfl⟩
      | some value =>
        simp only [Option.bind_eq_bind, Option.bind_some]
        split_ifs
        · exact ⟨⟨[], rfl, nofun⟩, rfl⟩
        · cases hf.agIndicators[index.toNat - 1]? <;> exact ⟨⟨[], rfl, nofun⟩, rfl⟩
  · exact ⟨⟨[], (append_nil _).symm, nofun⟩, rfl⟩

/-- A step of the set-up ends with the next one, and says no more than that the set-up is over. -/
theorem advanceSlc_events (hf : HfProtocol) (free : hf.slcStep = none) (step : SlcStep)
    (responses : List AtResponse) :
    (∀ event ∈ (hf.advanceSlc step responses).events, event = .slcComplete) ∧
      (hf.advanceSlc step responses).hf.slcStep ≠ some step := by
  have finishes {after : HfProtocol} (free : after.slcStep = none) (other : step ≠ .bind) :
      (∀ event ∈ after.startHfIndicatorsOrFinish.events, event = .slcComplete) ∧
        after.startHfIndicatorsOrFinish.hf.slcStep ≠ some step := by
    unfold startHfIndicatorsOrFinish
    split_ifs
    · exact ⟨forall_mem_nil _, fun same => other (Option.some.inj same).symm⟩
    · exact ⟨fun event inside => mem_singleton.mp inside,
        fun same => Option.some_ne_none _ (same.symm.trans free)⟩
  cases step with
  | brsf =>
    simp only [advanceSlc]
    split_ifs <;> exact ⟨forall_mem_nil _, fun same => SlcStep.noConfusion (Option.some.inj same)⟩
  | cmer =>
    simp only [advanceSlc]
    split_ifs
    · exact ⟨forall_mem_nil _, fun same => SlcStep.noConfusion (Option.some.inj same)⟩
    · exact finishes free (by simp)
  | chldTest =>
    refine finishes ?_ (by simp)
    split <;> exact free
  | bindRead =>
    exact ⟨fun event inside => mem_singleton.mp inside,
      fun same => Option.some_ne_none _ (same.symm.trans free)⟩
  | _ => exact ⟨forall_mem_nil _, fun same => SlcStep.noConfusion (Option.some.inj same)⟩

theorem ended_unasked (hf : HfProtocol) (response : AtResponse) :
    hf.ended (hf.handleUnsolicited response) = [] := by
  obtain ⟨announced, same⟩ := handleUnsolicited_announced hf response
  rw [ended, (notices announced).2, if_neg fun done => done.2.2 same]

theorem handleResponse_ended {hf : HfProtocol} {response : AtResponse} (takes : hf.takes response)
    (status : isStatus response) : hf.ended (hf.handleResponse response) =
      [(hf.pendingCommand.getD "", decide (response.code = "OK"), hf.pendingResponses)] ∧
      (hf.handleResponse response).events.filter HfEvent.isNotice = [] := by
  rw [handleResponse, if_neg (not_not.mpr takes), ended]
  by_cases ok : response.code = "OK"
  · rw [if_pos ok]
    cases held : hf.slcStep with
    | none => exact ⟨by rw [ok]; rfl, rfl⟩
    | some step =>
      obtain ⟨silent, next⟩ := advanceSlc_events
        { hf with pendingCommand := none, pendingResponses := [], slcStep := none } rfl step
        hf.pendingResponses
      have told : ((HfProtocol.advanceSlc { hf with
          pendingCommand := none, pendingResponses := [], slcStep := none } step
          hf.pendingResponses).events.filterMap HfEvent.completion) = [] :=
        filterMap_eq_nil_iff.mpr fun event inside => by rw [silent event inside]; rfl
      refine ⟨?_, filter_eq_nil_iff.mpr fun event inside => by rw [silent event inside]; decide⟩
      simp only [told, decide_eq_true ok]
      exact if_pos ⟨rfl, rfl, next⟩
  · have done : statusCodes.contains response.code := status
    rw [if_neg ok, if_pos done, decide_eq_false ok]
    exact ⟨rfl, rfl⟩

/-- What the caller is told of, apart from the ends of commands and of the set-up, is the events of
the lines that are said unasked. -/
structure Heard (c : Conversation) : Prop where
  announced : ∀ notice ∈ c.delivered, notice.Announced
  events : c.events.filter HfEvent.isNotice = c.delivered.flatMap Notice.events

theorem Heard.hear {c : Conversation} (heard : Heard c) (line : Bytes) : Heard (c.hear line) := by
  have silent {after : Conversation} {events : List HfEvent} (same : after.delivered = c.delivered)
      (told : after.events = c.events ++ events) (none : events.filter HfEvent.isNotice = []) :
      Heard after := by
    refine ⟨same ▸ heard.announced, ?_⟩
    rw [told, filter_append, none, append_nil, same]
    exact heard.events
  unfold Conversation.hear handleLine
  simp only
  split_ifs with empty
  · exact silent rfl rfl rfl
  · cases AtResponse.parseFrom line with
    | error => exact silent rfl rfl rfl
    | ok response =>
      simp only
      split_ifs with takes status
      · exact silent rfl rfl (handleResponse_ended takes status).2
      · rw [handleResponse_information takes (Bool.eq_false_iff.mpr status)]
        exact silent rfl rfl rfl
      · obtain ⟨announced, -⟩ := handleUnsolicited_announced c.hf response
        rw [handleResponse_unasked (Bool.eq_false_iff.mpr takes)]
        refine ⟨fun notice inside => ?_, ?_⟩
        · rcases mem_append.mp inside with inside | inside
          · exact heard.announced notice inside
          · exact mem_singleton.mp inside ▸ announced
        · simp only
          rw [filter_append, flatMap_append, heard.events, (notices announced).1, flatMap_singleton]

theorem Heard.hearAll {c : Conversation} (heard : Heard c) (lines : List Bytes) :
    Heard (c.hearAll lines) := by
  induction lines generalizing c with
  | nil => exact heard
  | cons line rest ih => exact ih (heard.hear line)

theorem Heard.serve {c after : Conversation} (heard : Heard c) {line : Bytes}
    (served : c.serve line = .ok after) : Heard after := by
  unfold Conversation.serve at served
  cases received : c.ag.receiveLine line with
  | error => rw [received] at served; cases served
  | ok reply =>
    rw [received] at served
    simp only [Rust.ok_bind] at served
    split at served <;> cases served <;> exact ⟨heard.announced, heard.events⟩

theorem Heard.serveAll {c after : Conversation} (heard : Heard c) {lines : List Bytes}
    (served : lines.foldlM Conversation.serve c = .ok after) : Heard after := by
  induction lines generalizing c with
  | nil => cases served; exact heard
  | cons line rest ih =>
    rw [foldlM_cons] at served
    cases first : c.serve line with
    | error => rw [first] at served; cases served
    | ok next =>
      rw [first] at served
      exact ih (heard.serve first) served

theorem Run.heard {careful : Prop} {c : Conversation} (run : Run careful c) : Heard c := by
  induction run with
  | start => exact ⟨forall_mem_nil _, rfl⟩
  | step _ step heard =>
    cases step with
    | ask => exact ⟨heard.announced, heard.events⟩
    | say => exact ⟨heard.announced, heard.events⟩
    | serve _ _ served =>
      refine Heard.serveAll ?_ served
      exact ⟨heard.announced, heard.events⟩
    | hear =>
      refine Heard.hearAll ?_ _
      exact ⟨heard.announced, heard.events⟩

/-! ## The invariant -/

def Own (sent : Sent) : Prop := ∃ codec : AudioCodec, sent = .own (utf8 s!"AT+BCS={codec.toValue}")

/-- Of lines that are on their way. -/
def Unasked (said : Said) : Prop := ∃ line, said = .unsolicited line
def Aside (said : Said) : Prop := ∃ line, said = .unsolicited line ∨ said = .own line

def Within (text : String) (said : Said) : Prop :=
  Unasked said ∨ ∃ line response, said = .information line ∧ AtResponse.parseFrom line = .ok response ∧
    containsText text response.code = true

def informed : Said → Option Bytes
  | .information line => some line
  | _ => none

inductive Phase (c : Conversation) : Prop
  | idle : c.hf.pendingCommand = none → (∀ sent ∈ c.sent, Own sent) → (∀ said ∈ c.said, Aside said) →
    List.Forall₂ Completes c.answered c.completed → c.asked = c.answered.map Prod.fst → Phase c
  | asked {text others} : c.hf.pendingCommand = some text → c.hf.pendingResponses = [] →
    c.sent = .command text :: others → (∀ sent ∈ others, Own sent) → (∀ said ∈ c.said, Unasked said) →
    List.Forall₂ Completes c.answered c.completed →
    c.asked = c.answered.map Prod.fst ++ [text] → Phase c
  | answering {text outgoing front heard before result after later} :
    c.hf.pendingCommand = some text → (∀ sent ∈ c.sent, Own sent) →
    c.said = before ++ .result result :: after → (∀ said ∈ before, Within text said) →
    (∀ said ∈ after, Aside said) → c.answered = front ++ [(text, outgoing)] →
    List.Forall₂ Completes front c.completed → c.asked = c.answered.map Prod.fst →
    linesOf outgoing = heard ++ before.filterMap informed ++ result :: later →
    heard.map AtResponse.parseFrom = c.hf.pendingResponses.map .ok →
    (∀ line ∈ heard, isResult line = false) → Phase c

/-- What holds while `lines` are still to be served and `lines'` to be heard of those
that have come. -/
structure InTurn (c : Conversation) (lines lines' : List Bytes) : Prop where
  toAg : ∃ later, c.sent.map Sent.line = lines ++ later ∧
    c.ag.readBuffer ++ c.toAg = later.flatMap (· ++ [0x0D])
  toHf : ∃ later, c.said.map Said.line = lines' ++ later ∧
    c.hf.readBuffer ++ c.toHf = later.flatMap Said.frame
  restAg : extractCommandLines c.ag.readBuffer = ([], c.ag.readBuffer)
  restHf : extractResponseLines c.hf.readBuffer = ([], c.hf.readBuffer)
  plain : ∀ sent ∈ c.sent, (0x0D : UInt8) ∉ sent.line ∧ sent.line ≠ []
  sound : ∀ said ∈ c.said, Sound said
  single : ∀ answer ∈ c.answered, OneResult (linesOf answer.2)
  told : c.notifications ++ (c.said.filterMap Said.unasked).map AtResponse.parseFrom =
    c.unsolicited.map AtResponse.parseFrom
  phase : Phase c

/-! ## Hearing a line -/

section Hearing
variable {c : Conversation} {line : Bytes} {response : AtResponse} {lines lines' : List Bytes}

theorem handleLine_reads (hf : HfProtocol) (reads : Reads line response) :
    hf.handleLine line = hf.handleResponse response := by
  rw [handleLine, if_neg reads.nonempty, reads.parsed]

theorem hear_unasked (reads : Reads line response) (apart : c.hf.takes response = false) :
    c.hear line = { c with
      hf := (c.hf.handleUnsolicited response).hf
      toAg := c.toAg ++ (c.hf.handleUnsolicited response).outgoing.flatten
      said := c.said.tail
      sent := c.sent ++ (c.hf.handleUnsolicited response).outgoing.map fun bytes =>
        .own bytes.dropLast
      delivered := c.delivered ++ [⟨c.hf, response, (c.hf.handleUnsolicited response).events⟩]
      events := c.events ++ (c.hf.handleUnsolicited response).events } := by
  unfold hear
  rw [handleLine_reads c.hf reads, handleResponse_unasked apart, if_neg reads.nonempty,
    reads.parsed, ended_unasked]
  simp only [apart, append_nil]
  rfl

theorem hear_information (reads : Reads line response) (takes : c.hf.takes response = true)
    (status : isStatus response = false) :
    c.hear line = { c with
      hf := { c.hf with pendingResponses := c.hf.pendingResponses ++ [response] }
      said := c.said.tail } := by
  unfold hear
  rw [handleLine_reads c.hf reads, handleResponse_information takes status,
    if_neg reads.nonempty, reads.parsed]
  simp only [takes, status, ended, flatten_nil, append_nil, filterMap_nil]
  simp

theorem hear_result (reads : Reads line response) (takes : c.hf.takes response = true)
    (status : isStatus response = true) :
    c.hear line = { c with
      hf := (c.hf.handleResponse response).hf
      toAg := c.toAg ++ (c.hf.handleResponse response).outgoing.flatten
      said := c.said.tail
      sent := c.sent ++ (c.hf.handleResponse response).hf.pendingCommand.toList.map .command
      asked := c.asked ++ (c.hf.handleResponse response).hf.pendingCommand.toList
      completed := c.completed ++ [(c.hf.pendingCommand.getD "", decide (response.code = "OK"),
        c.hf.pendingResponses)]
      events := c.events ++ (c.hf.handleResponse response).events } := by
  unfold hear
  rw [handleLine_reads c.hf reads, if_neg reads.nonempty, reads.parsed,
    (handleResponse_ended takes status).1]
  simp only [takes, status]
  rfl

theorem flow_append {sent : List Sent} {buffer octets : Bytes}
    (flow : ∃ later, sent.map Sent.line = lines ++ later ∧
      buffer ++ octets = later.flatMap (· ++ [0x0D])) (new : List Sent) :
    ∃ later, (sent ++ new).map Sent.line = lines ++ later ∧
      buffer ++ (octets ++ (new.map fun sent => sent.line ++ [0x0D]).flatten) =
        later.flatMap (· ++ [0x0D]) := by
  obtain ⟨later, same, octets⟩ := flow
  refine ⟨later ++ new.map Sent.line, ?_, ?_⟩
  · rw [map_append, same, append_assoc]
  · rw [← append_assoc, octets, flatMap_append, flatMap_map]
    rfl

/-- A line that is no answer to the command leaves the command where it is. -/
theorem Phase.aside (phase : Phase c) {after : Conversation} {said : Said} {rest : List Said}
    {new : List Sent} (head : c.said = said :: rest) (aside : Aside said)
    (pending : after.hf.pendingCommand = c.hf.pendingCommand)
    (responses : after.hf.pendingResponses = c.hf.pendingResponses)
    (sent : after.sent = c.sent ++ new) (own : ∀ sent ∈ new, Own sent) (left : after.said = rest)
    (answered : after.answered = c.answered) (completed : after.completed = c.completed)
    (asked : after.asked = c.asked) : Phase after := by
  have others {sent : List Sent} (all : ∀ line ∈ sent, Own line) : ∀ line ∈ sent ++ new, Own line :=
    fun line inside => (mem_append.mp inside).elim (all line) (own line)
  cases phase with
  | idle none owned asides completes begun =>
    refine .idle (pending.trans none) ?_ ?_ ?_ ?_
    · rw [sent]
      exact others owned
    · rw [left]
      exact fun line inside => asides line (head ▸ mem_cons_of_mem _ inside)
    · rwa [answered, completed]
    · rwa [asked, answered]
  | asked now fresh first owned unasked completes begun =>
    refine .asked (pending.trans now) (responses.trans fresh) ?_ (others owned) ?_ ?_ ?_
    · rw [sent, first, cons_append]
    · rw [left]
      exact fun line inside => unasked line (head ▸ mem_cons_of_mem _ inside)
    · rwa [answered, completed]
    · rwa [asked, answered]
  | @answering text outgoing front heard before result behind later now owned order within asides last completes
      begun lines heardLines silent =>
    cases before with
    | nil =>
      -- The next line is the result, which is not an aside.
      obtain ⟨rfl, -⟩ := List.cons.inj (head.symm.trans order)
      obtain ⟨line, same | same⟩ := aside <;> cases same
    | cons first before =>
      obtain ⟨rfl, later'⟩ := List.cons.inj (head.symm.trans order)
      have quiet : informed said = none := by
        obtain ⟨line, rfl | rfl⟩ := aside <;> rfl
      rw [filterMap_cons_none quiet] at lines
      refine .answering (pending.trans now) ?_ (left.trans later')
        (fun line inside => within line (mem_cons_of_mem _ inside)) asides
        (answered.trans last) ?_ ?_ lines ?_ silent
      · rw [sent]
        exact others owned
      · rwa [completed]
      · rwa [asked, answered]
      · rwa [responses]

section InTurn
variable (inTurn : InTurn c lines (line :: lines'))
include inTurn

theorem InTurn.head : ∃ said rest,
    c.said = said :: rest ∧ said.line = line ∧ ∃ later, rest.map Said.line = lines' ++ later ∧
      c.hf.readBuffer ++ c.toHf = later.flatMap Said.frame := by
  obtain ⟨later, same, octets⟩ := inTurn.toHf
  obtain ⟨said, rest, order, here, others⟩ := map_eq_cons_iff.mp same
  exact ⟨said, rest, order, here, later, others, octets⟩

theorem InTurn.behind {said : Said} {rest : List Said} (head : c.said = said :: rest) :
    c.said.tail = rest ∧ (∀ other ∈ rest, Sound other) ∧
      ∃ later, rest.map Said.line = lines' ++ later ∧
        c.hf.readBuffer ++ c.toHf = later.flatMap Said.frame := by
  obtain ⟨first, rest', order, -, flow⟩ := inTurn.head
  obtain ⟨rfl, rfl⟩ := List.cons.inj (head.symm.trans order)
  exact ⟨by rw [head, tail_cons],
    fun other inside => inTurn.sound other (head ▸ mem_cons_of_mem _ inside), flow⟩

theorem InTurn.hear_aside {said : Said} {rest : List Said} (head : c.said = said :: rest)
    (aside : Aside said) (reads : Reads line response) (apart : c.hf.takes response = false)
    (kind : said.unasked = if isStatus response then none else some line) :
    InTurn (c.hear line) lines lines' := by
  obtain ⟨same, sends⟩ := c.hf.handleUnsolicited_same response
  obtain ⟨tail, sound, later, others, octets⟩ := inTurn.behind head
  -- What is sent back is a line of the hands-free side's own.
  obtain ⟨new, made, own, sent⟩ : ∃ new : List Sent,
      ((c.hf.handleUnsolicited response).outgoing.map fun bytes => Sent.own bytes.dropLast) = new ∧
      (∀ sent ∈ new, Own sent) ∧ (c.hf.handleUnsolicited response).outgoing.flatten =
        (new.map fun sent => sent.line ++ [0x0D]).flatten := by
    rcases sends with none | ⟨codec, one⟩
    · rw [none]
      exact ⟨[], rfl, by simp, rfl⟩
    · rw [one]
      refine ⟨[.own (utf8 s!"AT+BCS={codec.toValue}")], ?_, ?_, rfl⟩
      · rw [map_singleton, commandBytes, dropLast_concat]
      · intro sent inside
        exact ⟨codec, mem_singleton.mp inside⟩
  rw [hear_unasked reads apart]
  refine ⟨?_, ⟨later, by rw [tail]; exact others, by rw [same.buffer]; exact octets⟩, inTurn.restAg, ?_, ?_,
    ?_, inTurn.single, ?_, ?_⟩
  · rw [made, sent]
    exact flow_append inTurn.toAg new
  · rw [same.buffer]
    exact inTurn.restHf
  · intro sent inside
    rw [made] at inside
    rcases mem_append.mp inside with inside | inside
    · exact inTurn.plain sent inside
    · obtain ⟨codec, rfl⟩ := own sent inside
      cases codec <;> exact ⟨by decide, by decide⟩
  · rw [tail]
    exact sound
  · have told := inTurn.told
    rw [head] at told
    simp only [tail]
    rw [← told, notifications, notifications, map_append, map_singleton, filter_append]
    cases status : isStatus response with
    | true =>
      rw [status, if_pos rfl] at kind
      rw [filter_cons_of_neg (by rw [status]; decide), filterMap_cons_none kind]
      simp
    | false =>
      rw [status, if_neg (by decide)] at kind
      rw [filter_cons_of_pos (by rw [status]; rfl), filterMap_cons_some kind]
      simp [reads.parsed]
  · exact inTurn.phase.aside head aside same.command same.responses (by rw [made]) own tail rfl rfl rfl

theorem InTurn.hear_information {rest : List Said} (head : c.said = .information line :: rest)
    (reads : Reads line response) (status : isStatus response = false) :
    InTurn (c.hear line) lines lines' := by
  obtain ⟨tail, sound, later, others, octets⟩ := inTurn.behind head
  have inside : Said.information line ∈ c.said := head ▸ mem_cons_self
  cases inTurn.phase with
  | idle none owned asides =>
    obtain ⟨other, same | same⟩ := asides _ inside <;> cases same
  | asked now fresh first owned unasked =>
    obtain ⟨other, same⟩ := unasked _ inside
    cases same
  | @answering text outgoing front heard before result behind left now owned order within asides last
      completes begun answer heardLines silent =>
    cases before with
    | nil => cases head.symm.trans order
    | cons first before =>
      obtain ⟨rfl, order'⟩ := List.cons.inj (head.symm.trans order)
      have contains : containsText text response.code = true := by
        rcases within _ mem_cons_self with ⟨other, same⟩ | ⟨other, response', same, parsed,
          contains⟩
        · cases same
        · cases same
          rw [reads.parsed] at parsed
          cases parsed
          exact contains
      have takes : c.hf.takes response = true := by
        rw [HfProtocol.takes, now, Option.any_some, contains, Bool.or_true]
      rw [Conversation.hear_information reads takes status]
      refine ⟨inTurn.toAg, ⟨later, by rw [tail]; exact others, octets⟩, inTurn.restAg, inTurn.restHf,
        inTurn.plain, ?_, inTurn.single, ?_, ?_⟩
      · rw [tail]
        exact sound
      · have told := inTurn.told
        rw [head] at told
        simp only [tail]
        exact told
      · refine @Phase.answering _ text outgoing front (heard ++ [line]) before result behind left now owned
          (tail.trans order') (fun other inside => within other (mem_cons_of_mem _ inside)) asides
          last completes begun ?_ ?_ ?_
        · have kept : informed (.information line) = some line := rfl
          rw [answer, filterMap_cons_some kept]
          simp
        · rw [map_append, heardLines, map_append, map_singleton, map_singleton,
            reads.parsed]
        · intro other inside
          rcases mem_append.mp inside with inside | inside
          · exact silent other inside
          · obtain rfl := mem_singleton.mp inside
            rw [isResult_reads reads, status]

theorem InTurn.hear_result {rest : List Said} (head : c.said = .result line :: rest)
    (fits : c.Fits line) (reads : Reads line response) (status : isStatus response = true) :
    InTurn (c.hear line) lines lines' := by
  obtain ⟨tail, sound, later, others, octets⟩ := inTurn.behind head
  have inside : Said.result line ∈ c.said := head ▸ mem_cons_self
  cases inTurn.phase with
  | idle none owned asides =>
    obtain ⟨other, same | same⟩ := asides _ inside <;> cases same
  | asked now fresh first owned unasked =>
    obtain ⟨other, same⟩ := unasked _ inside
    cases same
  | @answering text outgoing front heard before result behind left now owned order within asides last
      completes begun answer heardLines silent =>
    cases before with
    | cons first before =>
      obtain ⟨rfl, -⟩ := List.cons.inj (head.symm.trans order)
      rcases within _ mem_cons_self with ⟨other, same⟩ | ⟨other, response', same, -⟩ <;> cases same
    | nil =>
      obtain ⟨same, rfl⟩ := List.cons.inj (head.symm.trans order)
      cases same
      have takes : c.hf.takes response = true := by
        rw [HfProtocol.takes, now, Option.any_some]
        exact Bool.or_eq_true_iff.mpr (.inl status)
      obtain ⟨continues, ends⟩ := handleResponse_result takes status
      have completes' : List.Forall₂ Completes c.answered (c.completed ++
          [(c.hf.pendingCommand.getD "", decide (response.code = "OK"), c.hf.pendingResponses)]) := by
        rw [last, now]
        refine rel_append completes (.cons ?_ .nil)
        exact ⟨rfl, heard, line, left, response, by rw [answer]; simp, heardLines, silent, reads.parsed,
          status, rfl⟩
      have told := inTurn.told
      rw [head] at told
      rw [Conversation.hear_result reads takes status]
      rcases continues with ⟨same, quiet⟩ | ⟨next, begins, fresh, buffer, sends, oneLine⟩
      · -- Nothing is begun.
        have ended : (c.hf.handleResponse response).hf.pendingCommand = none := same.command
        refine ⟨?_, ⟨later, by rw [tail]; exact others, by rw [same.buffer]; exact octets⟩, inTurn.restAg,
          ?_, ?_, ?_, inTurn.single, ?_, ?_⟩
        · rw [ended, quiet]
          exact flow_append inTurn.toAg []
        · rw [same.buffer]
          exact inTurn.restHf
        · rw [ended]
          simpa using inTurn.plain
        · rw [tail]
          exact sound
        · simp only [tail]
          exact told
        · refine .idle ended ?_ ?_ completes' ?_
          · rw [ended]
            simpa using owned
          · rw [tail]
            exact asides
          · rw [ended]
            simpa using begun
      · -- The set-up goes on, with no line of its own unanswered.
        have under : c.hf.slcStep.isSome := by
          cases step : c.hf.slcStep with
          | some => rfl
          | none => cases (ends step).symm.trans begins
        obtain ⟨commands, answered⟩ := fits.settled line rest head under
        have clear : c.sent = [] := by
          refine eq_nil_iff_forall_not_mem.mpr fun sent inside => ?_
          obtain ⟨text, rfl⟩ := commands sent inside
          obtain ⟨codec, same⟩ := owned _ inside
          cases same
        refine ⟨?_, ⟨later, by rw [tail]; exact others, by rw [buffer]; exact octets⟩, inTurn.restAg, ?_,
          ?_, ?_, inTurn.single, ?_, ?_⟩
        · rw [begins, sends]
          have flow := flow_append inTurn.toAg [.command next]
          exact flow
        · rw [buffer]
          exact inTurn.restHf
        · rw [begins, clear]
          intro sent inside
          obtain rfl := mem_singleton.mp inside
          exact ⟨oneLine.clean, oneLine.nonempty⟩
        · rw [tail]
          exact sound
        · simp only [tail]
          exact told
        · refine @Phase.asked _ next [] begins fresh ?_ ?_ ?_ completes' ?_
          · rw [begins, clear]
            rfl
          · exact fun sent inside => by cases inside
          · rw [tail]
            intro said inside
            obtain ⟨other, same | same⟩ := asides said inside
            · exact ⟨other, same⟩
            · exact absurd same (answered said inside other)
          · rw [begins, begun]
            rfl

theorem InTurn.hear (fits : c.Fits line) :
    InTurn (c.hear line) lines lines' := by
  obtain ⟨said, rest, head, rfl, -⟩ := inTurn.head
  have sound := inTurn.sound said (head ▸ mem_cons_self)
  cases said with
  | information line =>
    obtain ⟨response, reads, status⟩ := sound
    exact inTurn.hear_information head reads status
  | result line =>
    obtain ⟨response, reads, status⟩ := sound
    exact inTurn.hear_result head fits reads status
  | unsolicited line =>
    obtain ⟨response, reads, status⟩ := sound
    exact inTurn.hear_aside head ⟨line, .inl rfl⟩ reads (fits.unasked _ _ _ head reads.parsed)
      (by rw [status]; rfl)
  | own line =>
    obtain ⟨response, reads, status⟩ := sound
    refine inTurn.hear_aside head ⟨line, .inr rfl⟩ reads ?_ (by rw [status]; rfl)
    -- While a command is pending no answer to another line comes before its own.
    have inside : Said.own line ∈ c.said := head ▸ mem_cons_self
    cases inTurn.phase with
    | idle none => rw [takes, none, Option.any_none]
    | asked now fresh first owned unasked =>
      obtain ⟨other, same⟩ := unasked _ inside
      cases same
    | @answering text outgoing front heard before result behind left now owned order within =>
      cases before with
      | nil => cases head.symm.trans order
      | cons first before =>
        obtain ⟨rfl, -⟩ := List.cons.inj (head.symm.trans order)
        rcases within _ mem_cons_self with ⟨other, same⟩ | ⟨other, response', same,
          -⟩ <;> cases same

end InTurn

theorem InTurn.hearAll (inTurn : InTurn c lines (lines' ++ [])) (fits : Hears True c lines') :
    InTurn (c.hearAll lines') lines [] := by
  induction lines' generalizing c with
  | nil => exact inTurn
  | cons line rest ih => exact ih (inTurn.hear (fits.1 trivial)) fits.2

end Hearing

end Conversation
end Simble.Hfp
