import Simble.Classic.AvdtpAgreement

/-! What one side has asked and what it is still to hear: the requests on their way
to the peer and the answers on their way back. -/
namespace Simble.Avdtp
open List StreamChange

/-- A command that is on its way, and what its side waits for. -/
structure Request where
  label : UInt8
  pending : Pending
  message : Message

/-- An answer that is on its way back. -/
structure Answer where
  label : UInt8
  pending : Pending
  accepted : Bool

/-! ## Answers on their way -/

def Answer.settle (answer : Answer) (endpoints : EndPoints) : EndPoints :=
  if answer.accepted then answer.pending.settle endpoints else endpoints

def settleAll (answered : List Answer) (endpoints : EndPoints) : EndPoints :=
  answered.foldl (fun endpoints answer => answer.settle endpoints) endpoints

/-- No accepted answer changes the endpoint. -/
def Untouched (answered : List Answer) (seid : UInt8) : Prop :=
  ∀ answer ∈ answered, answer.accepted = true → seid ∉ answer.pending.names

/-- Every accepted answer finds endpoints ready for it, after those before it. -/
def Chain : List Answer → EndPoints → Prop
  | [], _ => True
  | answer :: rest, endpoints =>
    (answer.accepted = true → answer.pending.Ready endpoints) ∧ Chain rest (answer.settle endpoints)

variable {endpoints endpoints' : EndPoints} {seid : UInt8}

theorem Answer.get_settle_congr (answer : Answer) (same : endpoints'.get seid =
  endpoints.get seid) :
    (answer.settle endpoints').get seid = (answer.settle endpoints).get seid := by
  unfold settle
  split
  · rw [Pending.get_settle, Pending.get_settle, same]
  · exact same

theorem settleAll_congr (answered : List Answer) (same : endpoints'.get seid = endpoints.get seid) :
    (settleAll answered endpoints').get seid = (settleAll answered endpoints).get seid := by
  induction answered generalizing endpoints endpoints' with
  | nil => exact same
  | cons answer rest ih => exact ih (answer.get_settle_congr same)

open Answer

theorem settleAll_untouched {answered : List Answer} (untouched : Untouched answered seid)
    (endpoints : EndPoints) :
    (settleAll answered endpoints).get seid = endpoints.get seid := by
  unfold settleAll
  induction answered generalizing endpoints with
  | nil => rfl
  | cons answer rest ih =>
    rw [foldl_cons, ih fun other inside => untouched other (mem_cons_of_mem _ inside)]
    unfold settle
    split
    case isTrue accepted =>
      rw [Pending.get_settle, if_neg (untouched answer mem_cons_self accepted)]
    case isFalse => rfl

theorem Chain.congr {answered : List Answer} (chain : Chain answered endpoints)
    (same : ∀ seid, ¬ Untouched answered seid → endpoints'.get seid = endpoints.get seid) :
    Chain answered endpoints' := by
  induction answered generalizing endpoints endpoints' with
  | nil => trivial
  | cons answer rest ih =>
    refine ⟨fun accepted seid inside endpoint found => ?_, ih chain.2 fun seid touched => ?_⟩
    · have touched : ¬ Untouched (answer :: rest) seid := fun untouched =>
        untouched answer mem_cons_self accepted inside
      exact chain.1 accepted seid inside endpoint (same seid touched ▸ found)
    · refine answer.get_settle_congr (same seid fun untouched => touched ?_)
      exact fun other inside => untouched other (mem_cons_of_mem _ inside)

theorem Chain.snoc {answered : List Answer} {endpoints : EndPoints} {answer : Answer}
    (chain : Chain answered endpoints)
    (ready : answer.accepted = true → answer.pending.Ready (settleAll answered endpoints)) :
    Chain (answered ++ [answer]) endpoints := by
  induction answered generalizing endpoints with
  | nil => exact ⟨ready, trivial⟩
  | cons first rest ih => exact ⟨chain.1, ih chain.2 ready⟩

theorem settleAll_snoc (answered : List Answer) (answer : Answer) (endpoints : EndPoints) :
    settleAll (answered ++ [answer]) endpoints = answer.settle (settleAll answered endpoints) := by
  rw [settleAll, foldl_append]
  rfl

theorem forall_settleAll {answered : List Answer} {endpoints : EndPoints}
    (sane : ∀ endpoint ∈ endpoints, Sane endpoint) (chain : Chain answered endpoints) :
    ∀ endpoint ∈ settleAll answered endpoints, Sane endpoint := by
  induction answered generalizing endpoints with
  | nil => exact sane
  | cons answer rest ih =>
    refine @ih (answer.settle endpoints) ?_ chain.2
    unfold settle
    split
    case isTrue accepted => exact Pending.forall_settle sane (chain.1 accepted)
    case isFalse => exact sane

theorem Answer.get_settle_away {answer : Answer}
    (away : ¬ (answer.accepted = true ∧ seid ∈ answer.pending.names)) (endpoints : EndPoints) :
    (answer.settle endpoints).get seid = endpoints.get seid := by
  unfold settle
  split
  case isTrue accepted => rw [Pending.get_settle, if_neg fun inside => away ⟨accepted, inside⟩]
  case isFalse => rfl

theorem Answer.get_settle_here {answer : Answer} (accepted : answer.accepted = true)
    (inside : seid ∈ answer.pending.names) (endpoints : EndPoints) :
    (answer.settle endpoints).get seid =
      (endpoints.get seid).map (answer.pending.change.apply answer.pending.peer) := by
  rw [settle, if_pos accepted, Pending.get_settle, if_pos inside]

/-- The accepted answers about an endpoint all make this change. -/
def OnlyDo (change : StreamChange) (answered : List Answer) (seid : UInt8) : Prop :=
  ∀ answer ∈ answered, answer.accepted = true → seid ∈ answer.pending.names →
    answer.pending.change = change

section Echo
variable {change : StreamChange} {target : StreamState} (leads : change.target = some target)

include leads

theorem map_twice (peer : UInt8) (found : Option LocalStreamEndPoint) :
    (found.map (change.apply 0)).map (change.apply peer) = found.map (change.apply 0) := by
  rw [Option.map_map]
  exact congrArg (Option.map · found) (funext fun _ => apply_apply leads peer 0 _)

theorem settleAll_echoed {answered : List Answer} {seid : UInt8} (only : OnlyDo change answered seid)
    (touched : ¬ Untouched answered seid) (endpoints : EndPoints) :
    (settleAll answered endpoints).get seid = (endpoints.get seid).map (change.apply 0) := by
  induction answered generalizing endpoints with
  | nil => exact absurd (fun _ inside => by cases inside) touched
  | cons answer rest ih =>
    have later : OnlyDo change rest seid :=
      fun other inside => only other (mem_cons_of_mem _ inside)
    show (settleAll rest (answer.settle endpoints)).get seid = _
    by_cases here : answer.accepted = true ∧ seid ∈ answer.pending.names
    · have now : (answer.settle endpoints).get seid = (endpoints.get seid).map (change.apply 0) := by
        rw [get_settle_here here.1 here.2, only answer mem_cons_self here.1 here.2]
        exact congrArg (Option.map · _) (funext (apply_eq leads _))
      by_cases untouched : Untouched rest seid
      · rw [settleAll_untouched untouched, now]
      · rw [ih later untouched, now, map_twice leads]
    · have touched' : ¬ Untouched rest seid := by
        refine fun untouched => touched fun other inside accepted => ?_
        rcases mem_cons.mp inside with rfl | inside
        · exact fun named => here ⟨accepted, named⟩
        · exact untouched other inside accepted
      rw [ih later touched', get_settle_away here]

theorem Chain.echoed {answered : List Answer} {endpoints endpoints' : EndPoints}
    (chain : Chain answered endpoints)
    (same : ∀ seid, ¬ Untouched answered seid → endpoints'.get seid = endpoints.get seid ∨
      (endpoints'.get seid = (endpoints.get seid).map (change.apply 0) ∧
        OnlyDo change answered seid)) : Chain answered endpoints' := by
  induction answered generalizing endpoints endpoints' with
  | nil => trivial
  | cons answer rest ih =>
    refine ⟨fun accepted seid inside endpoint found => ?_, ih chain.2 fun seid touched => ?_⟩
    · have touched : ¬ Untouched (answer :: rest) seid := fun untouched =>
        untouched answer mem_cons_self accepted inside
      rcases same seid touched with same | ⟨changed, only⟩
      · exact chain.1 accepted seid inside endpoint (same ▸ found)
      · rw [changed] at found
        obtain ⟨before, was, rfl⟩ := Option.map_eq_some_iff.mp found
        have ready := chain.1 accepted seid inside before was
        rw [only answer mem_cons_self accepted inside] at ready ⊢
        exact ready_apply leads ready
    · have touched' : ¬ Untouched (answer :: rest) seid := fun untouched => touched fun other inside =>
        untouched other (mem_cons_of_mem _ inside)
      rcases same seid touched' with same | ⟨changed, only⟩
      · exact .inl (answer.get_settle_congr same)
      · by_cases here : answer.accepted = true ∧ seid ∈ answer.pending.names
        · refine .inl ?_
          rw [get_settle_here here.1 here.2, get_settle_here here.1 here.2, changed,
            only answer mem_cons_self here.1 here.2, map_twice leads]
          exact congrArg (Option.map · _) (funext fun _ => (apply_eq leads _ _).symm)
        · refine .inr ⟨?_, fun other inside => only other (mem_cons_of_mem _ inside)⟩
          rw [get_settle_away here, get_settle_away here, changed]

end Echo

/-! ## The ledger of a side -/

def isCommand (message : AssembledMessage) : Bool := message.messageType = .command

/-- A side with what it is still to hear and what it has asked, each under a label of its own. -/
structure Ledger (side : Protocol) (going coming : List AssembledMessage) (answered : List Answer)
    (asked : List Request) : Prop where
  asks : going.filter isCommand =
    asked.map fun request => assembledOf request.label request.message
  answers : List.Forall₂ (fun answer message =>
      IsAnswer answer.label answer.pending answer.accepted message)
    answered (coming.filter fun message => ! isCommand message)
  distinct : (answered.map Answer.label ++ asked.map Request.label).Nodup
  answerWaits : ∀ answer ∈ answered, side.pending.lookup answer.label = some answer.pending
  requestWaits : ∀ request ∈ asked, side.pending.lookup request.label = some request.pending
  small : ∀ request ∈ asked, request.label < 16
  readable : ∀ request ∈ asked, Asks request.pending request.message ∧
    Message.parse request.message.signalIdentifier .command request.message.toPayload =
      some request.message

section Ledger
variable {side : Protocol} {going coming : List AssembledMessage} {answered : List Answer}
  {asked : List Request}

theorem isCommand_of_asks {pending : Pending} {message : Message} (asks : Asks pending message)
    (label : UInt8) : isCommand (assembledOf label message) = true := by
  cases asks <;> rfl

theorem isAnswer_not_command {answer : Answer} {message : AssembledMessage}
    (is : IsAnswer answer.label answer.pending answer.accepted message) :
    isCommand message = false := by
  rw [isCommand, is.type]
  cases answer.accepted <;> rfl

theorem Ledger.sent (ledger : Ledger side going coming answered asked) {after : Protocol}
    {pdus : List Bytes} {pending : Pending} {message : Message} {label : UInt8}
    (sent : Sent side after pdus pending message label)
    (read : Message.parse message.signalIdentifier .command message.toPayload = some message) :
    Ledger after (going ++ [assembledOf label message]) coming answered
      (asked ++ [⟨label, pending, message⟩]) := by
  have apart {other : UInt8} {waiting : Pending} (waits : side.pending.lookup other = some waiting) :
      other ≠ label := by
    rintro rfl
    exact Option.some_ne_none _ (waits.symm.trans sent.free)
  have kept {other : UInt8} {waiting : Pending} (waits : side.pending.lookup other = some waiting) :
      after.pending.lookup other = some waiting := by
    rw [sent.after]
    exact (AList.lookup_insert_ne (apart waits)).trans waits
  constructor
  · rw [filter_append, ledger.asks, filter_cons_of_pos (isCommand_of_asks sent.asks label),
      map_append]
    rfl
  · exact ledger.answers
  · rw [map_append, ← append_assoc]
    refine nodup_append.mpr ⟨ledger.distinct, nodup_singleton _, ?_⟩
    rintro other inside _ here rfl
    have same : other = label := mem_singleton.mp here
    rcases mem_append.mp inside with inside | inside
    · obtain ⟨answer, among, rfl⟩ := mem_map.mp inside
      exact apart (ledger.answerWaits answer among) same
    · obtain ⟨request, among, rfl⟩ := mem_map.mp inside
      exact apart (ledger.requestWaits request among) same
  · exact fun answer inside => kept (ledger.answerWaits answer inside)
  · intro request inside
    rcases mem_append.mp inside with inside | inside
    · exact kept (ledger.requestWaits request inside)
    · obtain rfl := mem_singleton.mp inside
      rw [sent.after]
      exact AList.lookup_insert _
  · intro request inside
    rcases mem_append.mp inside with inside | inside
    · exact ledger.small request inside
    · obtain rfl := mem_singleton.mp inside
      exact sent.small
  · intro request inside
    rcases mem_append.mp inside with inside | inside
    · exact ledger.readable request inside
    · obtain rfl := mem_singleton.mp inside
      exact ⟨sent.asks, read⟩

theorem Ledger.hears_command (ledger : Ledger side going coming answered asked)
    {message : AssembledMessage} (command : isCommand message = true) :
    Ledger side going (coming ++ [message]) answered asked :=
  { ledger with
    answers := by
      rw [filter_append, filter_cons_of_neg (by simp [command]), filter_nil,
        append_nil]
      exact ledger.answers }

theorem Ledger.heard_command (ledger : Ledger side going (message :: coming) answered asked)
    (command : isCommand message = true) : Ledger side going coming answered asked :=
  { ledger with
    answers := by
      have answers := ledger.answers
      rwa [filter_cons_of_neg (by simp [command])] at answers }

theorem Ledger.answers_back (ledger : Ledger side going coming answered asked)
    {message : AssembledMessage} (response : isCommand message = false) :
    Ledger side (going ++ [message]) coming answered asked :=
  { ledger with
    asks := by
      rw [filter_append, filter_cons_of_neg (by simp [response]), filter_nil,
        append_nil]
      exact ledger.asks }

theorem Ledger.answer_taken (ledger : Ledger side (message :: going) coming answered asked)
    (response : isCommand message = false) : Ledger side going coming answered asked :=
  { ledger with
    asks := by
      have asks := ledger.asks
      rwa [filter_cons_of_neg (by simp [response])] at asks }

theorem Ledger.of_pending (ledger : Ledger side going coming answered asked) {after : Protocol}
    (same : after.pending = side.pending) : Ledger after going coming answered asked :=
  { ledger with
    answerWaits := same ▸ ledger.answerWaits
    requestWaits := same ▸ ledger.requestWaits }

theorem Ledger.hears_answer {message : AssembledMessage}
    (ledger : Ledger side going (message :: coming) answered asked)
    (response : isCommand message = false) : ∃ answer rest,
      answered = answer :: rest ∧ IsAnswer answer.label answer.pending answer.accepted message ∧
      side.pending.lookup answer.label = some answer.pending ∧
      ∀ after : Protocol, after.pending = side.pending.erase answer.label →
        Ledger after going coming rest asked := by
  have answers := ledger.answers
  rw [filter_cons_of_pos (by simp [response])] at answers
  obtain _ | ⟨is, later⟩ := answers
  rename_i answer rest
  have distinct := ledger.distinct
  rw [map_cons, cons_append, nodup_cons] at distinct
  refine ⟨answer, rest, rfl, is, ledger.answerWaits answer mem_cons_self, fun after erased => ?_⟩
  have kept {label : UInt8} (inside : label ∈ rest.map Answer.label ++ asked.map Request.label) :
      after.pending.lookup label = side.pending.lookup label := by
    rw [erased]
    apply AList.lookup_erase_ne
    rintro rfl
    exact distinct.1 inside
  exact { ledger with
    answers := later
    distinct := distinct.2
    answerWaits := fun other inside => by
      rw [kept (mem_append_left _ (mem_map_of_mem inside))]
      exact ledger.answerWaits other (mem_cons_of_mem _ inside)
    requestWaits := fun request inside => by
      rw [kept (mem_append_right _ (mem_map_of_mem inside))]
      exact ledger.requestWaits request inside }

theorem Ledger.is_answered {message : AssembledMessage}
    (ledger : Ledger side (message :: going) coming answered asked)
    (command : isCommand message = true) : ∃ request rest, asked = request :: rest ∧
      message = assembledOf request.label request.message ∧
      ∀ accepted answer, IsAnswer request.label request.pending accepted answer →
        Ledger side going (coming ++ [answer]) (answered ++ [⟨request.label, request.pending, accepted⟩])
          rest := by
  have asks := ledger.asks
  rw [filter_cons_of_pos command] at asks
  obtain ⟨request, rest, rfl, same, later⟩ := map_eq_cons_iff.mp asks.symm
  refine ⟨request, rest, rfl, same.symm, fun accepted answer is => ?_⟩
  have response : isCommand answer = false :=
    @isAnswer_not_command ⟨request.label, request.pending, accepted⟩ answer is
  constructor
  · exact later.symm
  · rw [filter_append, filter_cons_of_pos (by simp [response]), filter_nil]
    exact rel_append ledger.answers (.cons is .nil)
  · have distinct := ledger.distinct
    rw [map_cons, append_cons] at distinct
    rwa [map_append, map_singleton]
  · intro other inside
    rcases mem_append.mp inside with inside | inside
    · exact ledger.answerWaits other inside
    · obtain rfl := mem_singleton.mp inside
      exact ledger.requestWaits request mem_cons_self
  · exact fun other inside => ledger.requestWaits other (mem_cons_of_mem _ inside)
  · exact fun other inside => ledger.small other (mem_cons_of_mem _ inside)
  · exact fun other inside => ledger.readable other (mem_cons_of_mem _ inside)

theorem onResponse_settles {message : AssembledMessage} {answer : Answer}
    (is : IsAnswer answer.label answer.pending answer.accepted message)
    (waits : side.pending.lookup answer.label = some answer.pending) :
    (side.onResponse message).1 = { side with
      pending := side.pending.erase answer.label
      localEndpoints := answer.settle side.localEndpoints } :=
  onResponse_answer is waits

theorem Ledger.settled_eq (ledger : Ledger side going coming answered asked) :
    (settled side coming).localEndpoints = settleAll answered side.localEndpoints := by
  unfold settled
  induction coming generalizing side answered with
  | nil =>
    cases ledger.answers
    rfl
  | cons message rest ih =>
    rw [foldl_cons]
    by_cases command : isCommand message = true
    · rw [if_pos (of_decide_eq_true command)]
      exact ih (ledger.heard_command command)
    · have response : isCommand message = false := Bool.eq_false_iff.mpr command
      obtain ⟨answer, others, rfl, is, waits, later⟩ := ledger.hears_answer response
      rw [if_neg (of_decide_eq_false response), onResponse_settles is waits]
      exact ih (later _ rfl)

theorem exists_of_forall₂ {α β : Type} {R : α → β → Prop} {first : List α} {second : List β}
    (all : List.Forall₂ R first second) {a : α} (inside : a ∈ first) : ∃ b ∈ second, R a b := by
  induction all with
  | nil => cases inside
  | cons is _ ih =>
    rcases mem_cons.mp inside with rfl | inside
    · exact ⟨_, mem_cons_self, is⟩
    · obtain ⟨b, among, is⟩ := ih inside
      exact ⟨b, mem_cons_of_mem _ among, is⟩

theorem Ledger.untouched_of_not_awaited (ledger : Ledger side going coming answered asked)
    {seid : UInt8} (free : ¬ Awaited side coming seid) : Untouched answered seid := by
  intro answer inside accepted named
  obtain ⟨message, among, is⟩ := exists_of_forall₂ ledger.answers inside
  refine free ⟨message, mem_of_mem_filter among, by rw [is.type, accepted]; rfl,
    answer.pending, ?_, named⟩
  rw [is.label]
  exact ledger.answerWaits answer inside

theorem Ledger.touched_of_awaited (ledger : Ledger side going coming answered asked)
    {seid : UInt8} (awaited : Awaited side coming seid) : ¬ Untouched answered seid := by
  obtain ⟨message, inside, type, pending, waits, named⟩ := awaited
  have response : isCommand message = false := by
    rw [isCommand, type]
    rfl
  obtain ⟨answer, among, is⟩ := exists_of_forall₂ ledger.answers.flip
    (mem_filter.mpr ⟨inside, by rw [response]; rfl⟩)
  have accepted : answer.accepted = true := by
    have type' := is.type.symm.trans type
    cases same : answer.accepted with
    | true => rfl
    | false =>
      rw [same] at type'
      cases type'
  rw [is.label, ledger.answerWaits answer among] at waits
  obtain rfl := Option.some.inj waits
  exact fun untouched => untouched answer among accepted named

theorem Ledger.onlyDo (ledger : Ledger side going coming answered asked) {change : StreamChange}
    {seid : UInt8} (only : ∀ message ∈ coming, message.messageType = .responseAccept →
      ∀ pending, side.pending.lookup message.transactionLabel = some pending → seid ∈ pending.names →
        pending.change = change) : OnlyDo change answered seid := by
  intro answer inside accepted named
  obtain ⟨message, among, is⟩ := exists_of_forall₂ ledger.answers inside
  refine only message (mem_of_mem_filter among) (by rw [is.type, accepted]; rfl) answer.pending
    ?_ named
  rw [is.label]
  exact ledger.answerWaits answer inside

end Ledger

end Simble.Avdtp
