import Simble.Classic.AvdtpLedger

/-! What two sides have in common over every run: with the answers that are on their
way, their tables agree. -/
namespace Simble.Avdtp
open EndPoints Protocol Pending List

/-! ## The invariant -/

/-- The messages on their way, what they answer and ask, and tables that agree once
the answers have come. -/
structure InStep (link : Link) (toRight toLeft : List AssembledMessage) (answered : List Answer)
    (asked : List Request) (answered' : List Answer) (asked' : List Request) : Prop where
  carriesRight : Carries link.right.assembler link.toRight toRight
  carriesLeft : Carries link.left.assembler link.toLeft toLeft
  ledgerLeft : Ledger link.left toRight toLeft answered asked
  ledgerRight : Ledger link.right toLeft toRight answered' asked'
  saneLeft : ∀ endpoint ∈ link.left.localEndpoints, Sane endpoint
  saneRight : ∀ endpoint ∈ link.right.localEndpoints, Sane endpoint
  chainLeft : Chain answered link.left.localEndpoints
  chainRight : Chain answered' link.right.localEndpoints
  agree : Agree (settleAll answered link.left.localEndpoints)
    (settleAll answered' link.right.localEndpoints)
  roomLeft : 5 ≤ link.left.peerMtu.toNat
  roomRight : 5 ≤ link.right.peerMtu.toNat

def Tied (link : Link) : Prop :=
  ∃ toRight toLeft answered asked answered' asked',
    InStep link toRight toLeft answered asked answered' asked'

theorem Tied.swap {link : Link} (tied : Tied link) : Tied link.swap := by
  obtain ⟨toRight, toLeft, answered, asked, answered', asked', inStep⟩ := tied
  exact ⟨toLeft, toRight, answered', asked', answered, asked, inStep.carriesLeft,
    inStep.carriesRight, inStep.ledgerRight, inStep.ledgerLeft, inStep.saneRight, inStep.saneLeft,
    inStep.chainRight, inStep.chainLeft, inStep.agree.symm, inStep.roomRight, inStep.roomLeft⟩

/-! ## Accepting a command -/

theorem StreamChange.apply_peer {change : StreamChange}
    (keeps : ∀ capabilities, change ≠ .configure capabilities) (peer : UInt8) :
    change.apply peer = change.apply 0 := by
  cases change with
  | configure capabilities => exact absurd rfl (keeps capabilities)
  | reconfigure | enter | finish => rfl

theorem Pending.ready_of_inUse {pending : Pending} {endpoint : LocalStreamEndPoint}
    (keeps : ∀ capabilities, pending.change ≠ .configure capabilities)
    (inUse : endpoint.state ≠ .idle) : pending.change.Ready endpoint := by
  cases pending with
  | setConfiguration _ _ capabilities => exact absurd rfl (keeps capabilities)
  | reconfigure | close | abort => trivial
  | «open» | start | suspend => exact ⟨by decide, inUse⟩

theorem length_names {pending : Pending} {message : Message} (asks : Asks pending message) :
    message.names.length = pending.names.length := by
  cases asks with
  | start same | suspend same => exact same
  | setConfiguration | reconfigure | «open» | close | abort => rfl

theorem exists_zip_left {first second : List UInt8} (same : first.length = second.length)
    {a : UInt8} (inside : a ∈ first) : ∃ b, (a, b) ∈ first.zip second := by
  rw [← map_fst_zip same.le] at inside
  obtain ⟨⟨_, b⟩, among, rfl⟩ := mem_map.mp inside
  exact ⟨b, among⟩

theorem exists_zip_right {first second : List UInt8} (same : first.length = second.length)
    {b : UInt8} (inside : b ∈ second) : ∃ a, (a, b) ∈ first.zip second := by
  rw [← map_snd_zip same.ge] at inside
  obtain ⟨⟨a, _⟩, among, rfl⟩ := mem_map.mp inside
  exact ⟨a, among⟩

/-- What is left of the invariant when a side accepts a command. -/
structure Accepted (answered : List Answer) (endpoints others changed : EndPoints)
    (pending : Pending) : Prop where
  sane : ∀ endpoint ∈ changed, Sane endpoint
  chain : Chain answered changed
  ready : pending.Ready others
  agree : Agree (settleAll answered changed) (pending.settle others)

section Accepting
variable {answered : List Answer} {endpoints others changed : EndPoints} {pending : Pending}

theorem accepted_configured {acpSeid intSeid : UInt8} {capabilities : List ServiceCapability}
    {endpoint mate : LocalStreamEndPoint} (sane : ∀ endpoint ∈ endpoints, Sane endpoint)
    (saneOthers : ∀ endpoint ∈ others, Sane endpoint) (chain : Chain answered endpoints)
    (agree : Agree (settleAll answered endpoints) others)
    (untouched : Untouched answered acpSeid) (found : endpoints.get acpSeid = some endpoint)
    (idle : endpoint.state = .idle) (there : others.get intSeid = some mate)
    (idle' : mate.state = .idle) :
    Accepted answered endpoints others
      (endpoints.update acpSeid (configure capabilities intSeid))
      (.setConfiguration acpSeid intSeid capabilities) := by
  have here : (settleAll answered endpoints).get acpSeid = some endpoint :=
    (settleAll_untouched untouched endpoints).trans found
  refine ⟨endpoints.forall_update sane fun other found' => ?_, ?_, ?_, ?_⟩
  · obtain rfl := Option.some.inj (found.symm.trans found')
    exact @StreamChange.sane (.configure capabilities) _ (sane _ (endpoints.get_mem found)) idle intSeid
  · refine chain.congr fun seid touched => ?_
    have apart : acpSeid ≠ seid := by
      rintro rfl
      exact touched untouched
    rw [get_update, if_neg apart]
  · intro seid inside other found'
    obtain rfl := mem_singleton.mp inside
    obtain rfl := Option.some.inj (there.symm.trans found')
    exact idle'
  · have both := agree.configured capabilities here ((sane _ (endpoints.get_mem found)).mpr idle) there
      ((saneOthers _ (others.get_mem there)).mpr idle')
    refine both.congr (fun seid => ?_) fun _ => rfl
    rw [get_update]
    by_cases same : acpSeid = seid
    · subst same
      rw [if_pos rfl, settleAll_untouched untouched, get_update, if_pos rfl, here, found]
    · rw [if_neg same]
      apply settleAll_congr answered
      rw [get_update, if_neg same]

/-- A side has a stream change, with no answer about it on its way, or both sides have
asked for one change and the asking side's end has made it. -/
def Moves (answered : List Answer) (endpoints others : EndPoints) (pending : Pending)
    (seid peer : UInt8) : Prop :=
  (Untouched answered seid ∧
    ∃ endpoint, endpoints.get seid = some endpoint ∧ endpoint.remoteSeid = some peer) ∨
  (¬ Untouched answered seid ∧ OnlyDo pending.change answered seid ∧
    ∃ target, pending.change.target = some target ∧
      ∀ mate, others.get peer = some mate → mate.state = target)

theorem Pending.ready_of_target {pending : Pending} {endpoint : LocalStreamEndPoint}
    {target : StreamState} (leads : pending.change.target = some target)
    (there : endpoint.state = target) : pending.change.Ready endpoint := by
  cases pending with
  | setConfiguration => cases leads
  | reconfigure | close | abort => trivial
  | «open» | start | suspend =>
    obtain rfl := Option.some.inj leads
    refine ⟨by decide, fun idle => ?_⟩
    rw [idle] at there
    cases there

section Moved
variable {names : List UInt8} (same : names.length = pending.names.length)
  (changes : ∀ seid, changed.get seid =
    if seid ∈ names then (endpoints.get seid).map (pending.change.apply 0) else endpoints.get seid)
  (paired : ∀ seid peer, (seid, peer) ∈ names.zip pending.names →
    Moves answered endpoints others pending seid peer)

include same changes paired

theorem chain_moved (chain : Chain answered endpoints) : Chain answered changed := by
  have moves {seid : UInt8} (inside : seid ∈ names) (touched : ¬ Untouched answered seid) :
      OnlyDo pending.change answered seid ∧ ∃ target, pending.change.target = some target := by
    obtain ⟨peer, among⟩ := exists_zip_left same inside
    obtain ⟨untouched, -⟩ | ⟨-, only, target, leads, -⟩ := paired seid peer among
    · exact absurd untouched touched
    · exact ⟨only, target, leads⟩
  cases leads : pending.change.target with
  | none =>
    refine chain.congr fun seid touched => ?_
    rw [changes, if_neg]
    intro inside
    obtain ⟨-, target, leads'⟩ := moves inside touched
    exact Option.some_ne_none _ (leads'.symm.trans leads)
  | some target =>
    refine chain.echoed leads fun seid touched => ?_
    by_cases inside : seid ∈ names
    · right
      rw [changes, if_pos inside]
      exact ⟨rfl, (moves inside touched).1⟩
    · left
      rw [changes, if_neg inside]

/-- Both ends make the change, unless both have made it. -/
theorem agree_moved (keeps : ∀ capabilities, pending.change ≠ .configure capabilities)
    (saneOthers : ∀ endpoint ∈ others, Sane endpoint)
    (agree : Agree (settleAll answered endpoints) others) :
    Agree (settleAll answered changed) (pending.settle others) := by
  refine @Agree.moved _ _ _ _ pending.change
    (fun seid => seid ∈ names ∧ Untouched answered seid)
    (fun peer => ∃ seid, (seid, peer) ∈ names.zip pending.names ∧ Untouched answered seid)
    agree keeps ⟨?_, ?_, ?_⟩ ⟨?_, ?_, ?_⟩
  · rintro seid ⟨inside, untouched⟩
    rw [settleAll_untouched untouched, settleAll_untouched untouched, changes, if_pos inside]
  · intro seid apart
    by_cases inside : seid ∈ names
    · -- The answers on their way do the same change.
      obtain ⟨peer, among⟩ := exists_zip_left same inside
      obtain ⟨untouched, -⟩ | ⟨touched, only, target, leads, -⟩ := paired seid peer among
      · exact absurd ⟨inside, untouched⟩ apart
      · rw [settleAll_echoed leads only touched, settleAll_echoed leads only touched, changes,
          if_pos inside, map_twice leads]
    · apply settleAll_congr answered
      rw [changes, if_neg inside]
  · rintro seid ⟨inside, untouched⟩ endpoint found
    obtain ⟨peer, among⟩ := exists_zip_left same inside
    obtain ⟨-, other, here, linked⟩ | ⟨touched, -⟩ := paired seid peer among
    · rw [settleAll_untouched untouched, here] at found
      obtain rfl := Option.some.inj found
      exact ⟨peer, ⟨seid, among, untouched⟩, linked⟩
    · exact absurd untouched touched
  · rintro peer ⟨seid, among, -⟩
    rw [get_settle, if_pos (of_mem_zip among).2, StreamChange.apply_peer keeps]
  · intro peer apart
    rw [get_settle]
    by_cases inside : peer ∈ pending.names
    · rw [if_pos inside, StreamChange.apply_peer keeps]
      obtain ⟨seid, among⟩ := exists_zip_right same inside
      obtain ⟨untouched, -⟩ | ⟨-, -, target, leads, there⟩ := paired seid peer among
      · exact absurd ⟨seid, among, untouched⟩ apart
      · cases found : others.get peer with
        | none => rfl
        | some mate =>
          exact congrArg some (StreamChange.apply_target leads
            (saneOthers mate (others.get_mem found)) (there mate found))
    · rw [if_neg inside]
  · rintro peer ⟨seid, among, untouched⟩ mate found
    obtain ⟨-, endpoint, here, linked⟩ | ⟨touched, -⟩ := paired seid peer among
    · have here' := (settleAll_untouched untouched endpoints).trans here
      obtain ⟨other, found', back, -⟩ := agree.forth seid peer endpoint here' linked
      obtain rfl := Option.some.inj (found.symm.trans found')
      exact ⟨seid, ⟨(of_mem_zip among).1, untouched⟩, back⟩
    · exact absurd untouched touched

section SaneOthers
variable (keeps : ∀ capabilities, pending.change ≠ .configure capabilities)
  (saneOthers : ∀ endpoint ∈ others, Sane endpoint)
include keeps saneOthers

omit changes in
theorem ready_moved (agree : Agree (settleAll answered endpoints) others) :
    pending.Ready others := by
  intro peer inside mate found
  obtain ⟨seid, among⟩ := exists_zip_right same inside
  obtain ⟨untouched, endpoint, here, linked⟩ | ⟨-, -, target, leads, there⟩ := paired seid peer among
  · have here' := (settleAll_untouched untouched endpoints).trans here
    obtain ⟨other, found', back, -⟩ := agree.forth seid peer endpoint here' linked
    obtain rfl := Option.some.inj (found.symm.trans found')
    refine ready_of_inUse keeps fun idle => ?_
    exact Option.some_ne_none _ (back.symm.trans ((saneOthers mate (others.get_mem found)).mpr idle))
  · exact ready_of_target leads (there mate found)

theorem accepted_moved (chain : Chain answered endpoints)
    (agree : Agree (settleAll answered endpoints) others)
    (saneChanged : ∀ endpoint ∈ changed, Sane endpoint) :
    Accepted answered endpoints others changed pending :=
  ⟨saneChanged, chain_moved same changes paired chain,
    ready_moved same paired keeps saneOthers agree,
    agree_moved same changes paired keeps saneOthers agree⟩

end SaneOthers

end Moved

theorem accepted_ignored {intSeid : UInt8} (sane : ∀ endpoint ∈ endpoints, Sane endpoint)
    (saneOthers : ∀ endpoint ∈ others, Sane endpoint) (chain : Chain answered endpoints)
    (agree : Agree (settleAll answered endpoints) others)
    (idle : ∀ mate, others.get intSeid = some mate → mate.state = .idle) :
    Accepted answered endpoints others endpoints (.abort intSeid) := by
  refine ⟨sane, chain, fun _ _ _ _ => trivial, (Agree.finish_idle agree.symm ?_).symm⟩
  intro mate found
  exact (saneOthers mate (others.get_mem found)).mpr (idle mate found)

theorem accepted_of_untangled {side other : Protocol} {coming going coming' : List AssembledMessage}
    {asked asked' : List Request} {answered' : List Answer} {request : Request}
    (ledger : Ledger side going coming answered asked)
    (ledger' : Ledger other coming' going answered' asked') (inside : request ∈ asked')
    (sane : ∀ endpoint ∈ side.localEndpoints, Sane endpoint)
    (sane' : ∀ endpoint ∈ other.localEndpoints, Sane endpoint)
    (chain : Chain answered side.localEndpoints) (chain' : Chain answered' other.localEndpoints)
    (agree : Agree (settleAll answered side.localEndpoints) (settleAll answered' other.localEndpoints))
    (untangled : Untangled side other coming going request.label request.message)
    (accepts : Accepts side.localEndpoints request.pending request.message changed) :
    Accepted answered side.localEndpoints (settleAll answered' other.localEndpoints) changed
      request.pending := by
  have saneOthers := forall_settleAll sane' chain'
  have settles := ledger'.settled_eq
  have waits := ledger'.requestWaits request inside
  obtain ⟨label, pending, message⟩ := request
  cases accepts with
  | configured found idle =>
    obtain ⟨free, mate, there, idle'⟩ := untangled.configured _ _ _ _ rfl found idle
    rw [settles] at there
    exact accepted_configured sane saneOthers chain agree (ledger.untouched_of_not_awaited free) found
      idle there idle'
  | moved asks keeps changes inUse saneChanged =>
    refine accepted_moved (length_names asks) changes (fun seid peer among => ?_) keeps saneOthers chain
      agree (saneChanged sane)
    obtain ⟨endpoint, found, busy⟩ := inUse seid (of_mem_zip among).1
    obtain ⟨free, linked⟩ | ⟨awaited, only, target, leads, there⟩ :=
      untangled.used pending seid peer endpoint waits among found busy
    · exact .inl ⟨ledger.untouched_of_not_awaited free, endpoint, found, linked⟩
    · rw [settles] at there
      exact .inr ⟨ledger.touched_of_awaited awaited, ledger.onlyDo only, target, leads, there⟩
  | ignored idle =>
    refine accepted_ignored sane saneOthers chain agree fun mate found => ?_
    exact untangled.aborted _ _ rfl waits idle mate (by rw [settles]; exact found)

end Accepting

/-! ## Steps -/

section Steps
variable {link : Link} {toRight toLeft : List AssembledMessage} {answered answered' : List Answer}
  {asked asked' : List Request}

theorem four_le {peerMtu : UInt16} (room : 5 ≤ peerMtu.toNat) : 4 ≤ peerMtu :=
  UInt16.le_iff_toNat_le.mpr (Nat.le_of_succ_le room)

theorem InStep.call (inStep : InStep link toRight toLeft answered asked answered' asked')
    {request : StreamCall} {after : Protocol} {pdus : List Bytes}
    (sendable : Sendable link.left.peerMtu request.message)
    (called : link.left.call request = .ok (after, pdus)) :
    Tied { link with left := after, toRight := link.toRight ++ pdus } := by
  obtain ⟨pending, label, sent⟩ := sent_of_call called
  have carries := carries_message (four_le inStep.roomLeft) sent.small sendable.fits
  have ledger := inStep.ledgerLeft.sent sent sendable.read
  obtain rfl := sent.pdus
  obtain rfl := sent.after
  exact ⟨_, toLeft, answered, _, answered', asked', inStep.carriesRight.append carries,
    inStep.carriesLeft, ledger, inStep.ledgerRight.hears_command (isCommand_of_asks sent.asks label),
    inStep.saneLeft, inStep.saneRight, inStep.chainLeft, inStep.chainRight, inStep.agree,
    inStep.roomLeft, inStep.roomRight⟩

theorem Pending.signal_known (pending : Pending) : pending.signalIdentifier ≠ 0 ∧
    ¬ SignalIdentifier.delayReport < pending.signalIdentifier ∧ pending.signalIdentifier < 64 := by
  cases pending <;> dsimp only [signalIdentifier] <;> decide

theorem signal_of_asks {pending : Pending} {message : Message} (asks : Asks pending message) :
    message.signalIdentifier = pending.signalIdentifier := by
  cases asks <;> rfl

theorem onCommand_of_asks {side : Protocol} {label : UInt8} {pending : Pending} {message : Message}
    (asks : Asks pending message)
    (read : Message.parse message.signalIdentifier .command message.toPayload = some message)
    {after : Protocol} {events : List AvdtpEvent} {response : Message}
    (handled : side.handleCommand message = some (after, events, response)) :
    side.onCommand (assembledOf label message) =
      (after, after.respond label response, events ++ refusal response) := by
  have known := pending.signal_known
  rw [← signal_of_asks asks] at known
  rw [onCommand]
  simp only [assembledOf, if_neg known.1, if_neg known.2.1, read, handled]

theorem answer_fits {peerMtu : UInt16} (room : 5 ≤ peerMtu.toNat) {side after : Protocol}
    {pending : Pending} {message response : Message}
    (handled : Handled side pending message after response) : Fits peerMtu response := by
  have short := handled.short
  refine ⟨?_, .inl (by omega)⟩
  rw [handled.signal]
  exact pending.signal_known.2.2

section Carries
variable (inStep : InStep link toRight toLeft answered asked answered' asked')
  {next : MessageAssembler} {rest : List Bytes} {later : List AssembledMessage}
  {message : AssembledMessage} (split : toLeft = message :: later)
  (carries : Carries next rest later)
include inStep split carries

theorem InStep.command (command : isCommand message = true)
    (untangled : ∀ parsed, Message.parse message.signalIdentifier .command message.payload =
      some parsed → Untangled link.left link.right later toRight message.transactionLabel parsed)
    {after : Protocol} {out : List Bytes} {events : List AvdtpEvent}
    (handled : ({ link.left with assembler := next } : Protocol).onCommand message =
      (after, out, events)) :
    Tied ⟨after, link.right, link.toRight ++ out, rest⟩ := by
  subst split
  obtain ⟨request, others, rfl, rfl, booked⟩ := inStep.ledgerRight.is_answered command
  have here : request ∈ request :: others := mem_cons_self
  obtain ⟨asks, read⟩ := inStep.ledgerRight.readable request here
  obtain ⟨after', events', response, did, outcome⟩ :=
    @handled_command { link.left with assembler := next } _ _ asks
  rw [onCommand_of_asks asks read did] at handled
  cases handled
  have heard := inStep.ledgerLeft.heard_command command
  have small := inStep.ledgerRight.small request here
  have answers (accepted : Bool) (type : response.messageType =
      if accepted then .responseAccept else .responseReject) :
      IsAnswer request.label request.pending accepted (assembledOf request.label response) :=
    ⟨rfl, outcome.signal, type⟩
  -- The ledgers of both sides, for either outcome.
  have books (accepted : Bool) (type : response.messageType =
      if accepted then .responseAccept else .responseReject) :
      Ledger link.left (toRight ++ [assembledOf request.label response]) later answered asked ∧
      Ledger link.right later (toRight ++ [assembledOf request.label response])
        (answered' ++ [⟨request.label, request.pending, accepted⟩]) others := by
    have is := answers accepted type
    have response' : isCommand (assembledOf request.label response) = false :=
      @isAnswer_not_command ⟨request.label, request.pending, accepted⟩ _ is
    exact ⟨heard.answers_back response', booked accepted _ is⟩
  have fits (room : 5 ≤ link.left.peerMtu.toNat) := answer_fits room outcome
  have goes := inStep.carriesRight.append
    (carries_message (four_le inStep.roomLeft) small (fits inStep.roomLeft))
  rcases outcome.outcome with ⟨rejects, rfl⟩ | ⟨accepts, changed, rfl, done⟩
  · obtain ⟨left, right⟩ := books false rejects
    refine ⟨_, later, answered, asked, _, others, goes, carries, left.of_pending rfl, right,
      inStep.saneLeft, inStep.saneRight, inStep.chainLeft, inStep.chainRight.snoc (fun same => by cases same), ?_,
      inStep.roomLeft, inStep.roomRight⟩
    rw [settleAll_snoc]
    exact inStep.agree
  · obtain ⟨left, right⟩ := books true accepts
    have result := accepted_of_untangled heard inStep.ledgerRight here inStep.saneLeft
      inStep.saneRight inStep.chainLeft inStep.chainRight inStep.agree (untangled _ read) done
    refine ⟨_, later, answered, asked, _, others, goes, carries, left.of_pending rfl, right,
      result.sane, inStep.saneRight, result.chain, inStep.chainRight.snoc fun _ => result.ready, ?_,
      inStep.roomLeft, inStep.roomRight⟩
    rw [settleAll_snoc]
    exact result.agree

theorem InStep.answer (response : isCommand message = false) :
    Tied ⟨(({ link.left with assembler := next } : Protocol).onResponse message).1, link.right,
      link.toRight ++ [], rest⟩ := by
  subst split
  obtain ⟨answer, others, rfl, is, waits, books⟩ := inStep.ledgerLeft.hears_answer response
  rw [append_nil, @onResponse_settles { link.left with assembler := next } _ _ is waits]
  refine ⟨toRight, later, others, asked, answered', asked', inStep.carriesRight, carries,
    books _ rfl, inStep.ledgerRight.answer_taken response, ?_, inStep.saneRight, inStep.chainLeft.2,
    inStep.chainRight, inStep.agree, inStep.roomLeft, inStep.roomRight⟩
  show ∀ endpoint ∈ answer.settle link.left.localEndpoints, Sane endpoint
  unfold Answer.settle
  split
  case isTrue accepted => exact forall_settle inStep.saneLeft (inStep.chainLeft.1 accepted)
  case isFalse => exact inStep.saneLeft

end Carries

theorem Tied.step {next : Link} (tied : Tied link) (step : Step True link next) : Tied next := by
  obtain ⟨toRight, toLeft, answered, asked, answered', asked', inStep⟩ := tied
  cases step with
  | call sendable called => exact inStep.call (sendable trivial) called
  | receive came untangled received =>
    rename_i pdu rest after out events
    have carries := inStep.carriesLeft
    rw [came] at carries
    obtain ⟨assembler, output, fed, behind⟩ := carries_cons carries
    unfold Protocol.receive at received
    rw [fed] at received
    cases output with
    | none =>
      cases received
      rw [append_nil]
      exact ⟨toRight, toLeft, answered, asked, answered', asked', inStep.carriesRight, behind,
        inStep.ledgerLeft.of_pending rfl, inStep.ledgerRight, inStep.saneLeft, inStep.saneRight,
        inStep.chainLeft, inStep.chainRight, inStep.agree, inStep.roomLeft, inStep.roomRight⟩
    | some message =>
      obtain ⟨later, split, carries⟩ := behind
      by_cases command : isCommand message = true
      · have type := of_decide_eq_true command
        simp only [Rust.ok_bind, if_pos type] at received
        refine inStep.command split carries command (fun parsed read => ?_) (Except.ok.inj received)
        have free := untangled trivial assembler message parsed fed type read
        rwa [onTheWay_of_carries carries, onTheWay_of_carries inStep.carriesRight] at free
      · have response : isCommand message = false := Bool.eq_false_iff.mpr command
        simp only [Rust.ok_bind, if_neg (of_decide_eq_false response)] at received
        cases received
        exact inStep.answer split carries response

end Steps

/-! ## Runs -/

theorem Tied.start {left right : Protocol} (fresh : Fresh left) (fresh' : Fresh right) :
    Tied ⟨left, right, [], []⟩ := by
  have idle {protocol : Protocol} (fresh : Fresh protocol) :
      ∀ endpoint ∈ protocol.localEndpoints, Sane endpoint :=
    fun endpoint inside => iff_of_true (fresh.idle endpoint inside).2 (fresh.idle endpoint inside).1
  have alone {protocol : Protocol} (fresh : Fresh protocol) (others : EndPoints) :
      Follows protocol.localEndpoints others := by
    intro seid peer endpoint found linked
    have none := (fresh.idle endpoint (get_mem _ found)).2
    exact absurd linked (by rw [none]; simp)
  have empty {protocol : Protocol} (fresh : Fresh protocol) : Carries protocol.assembler [] [] := by
    rw [fresh.assembler]
    exact carries_nil
  have books (side : Protocol) : Ledger side [] [] [] [] :=
    ⟨rfl, .nil, nodup_nil, by simp, by simp, by simp, by simp⟩
  exact ⟨[], [], [], [], [], [], empty fresh', empty fresh, books left, books right, idle fresh,
    idle fresh', trivial, trivial, ⟨alone fresh _, alone fresh' _⟩, fresh.room, fresh'.room⟩

theorem Run.tied {link : Link} (run : Run True link) : Tied link := by
  induction run with
  | start fresh fresh' => exact Tied.start fresh fresh'
  | left _ step ih => exact ih.step step
  | right _ step ih => exact (ih.swap.step step).swap

def InAgreement (side other : Protocol) : Prop :=
  ∀ seid endpoint, side.localEndpoints.get seid = some endpoint → endpoint.state ≠ .idle →
    ∃ peer mate, endpoint.remoteSeid = some peer ∧ other.localEndpoints.get peer = some mate ∧
      mate.remoteSeid = some seid ∧ mate.state = endpoint.state ∧
      mate.configuration = endpoint.configuration

theorem inAgreement_of_follows {side other : Protocol}
    (sane : ∀ endpoint ∈ side.localEndpoints, Sane endpoint)
    (follows : Follows side.localEndpoints other.localEndpoints) : InAgreement side other := by
  intro seid endpoint found inUse
  cases linked : endpoint.remoteSeid with
  | none => exact absurd ((sane endpoint (get_mem _ found)).mp linked) inUse
  | some peer =>
    obtain ⟨mate, there, back, same⟩ := follows seid peer endpoint found linked
    exact ⟨peer, mate, rfl, there, back, same.state.symm, same.configuration.symm⟩

/-- In every run whose messages get through and whose commands find what they are about at rest,
only idle endpoints have no peer, and the ends of every stream agree when nothing is on its way.
-/
theorem streams_agree {link : Link} (run : Run True link) :
    (∀ endpoint ∈ link.left.localEndpoints, endpoint.remoteSeid = none ↔ endpoint.state = .idle) ∧
    (∀ endpoint ∈ link.right.localEndpoints, endpoint.remoteSeid = none ↔ endpoint.state = .idle) ∧
    (link.toRight = [] → link.toLeft = [] →
      InAgreement link.left link.right ∧ InAgreement link.right link.left) := by
  obtain ⟨toRight, toLeft, answered, asked, answered', asked', inStep⟩ := run.tied
  refine ⟨inStep.saneLeft, inStep.saneRight, fun quiet quiet' => ?_⟩
  have carries := inStep.carriesRight
  have carries' := inStep.carriesLeft
  rw [quiet] at carries
  rw [quiet'] at carries'
  obtain rfl := carries_of_nil carries
  obtain rfl := carries_of_nil carries'
  have nothing : answered = [] := forall₂_nil_right_iff.mp inStep.ledgerLeft.answers
  have nothing' : answered' = [] := forall₂_nil_right_iff.mp inStep.ledgerRight.answers
  subst nothing nothing'
  exact ⟨inAgreement_of_follows inStep.saneLeft inStep.agree.forth,
    inAgreement_of_follows inStep.saneRight inStep.agree.back⟩

/-! ### One stream, configured from one side and from both -/

def codecCapabilities (information : Bytes) : List ServiceCapability :=
  [⟨ServiceCategory.mediaTransport, []⟩, ⟨ServiceCategory.mediaCodec, 0 :: 2 :: information⟩]

def oneEndpoint (state : StreamState) (remoteSeid : Option UInt8)
    (configuration : List ServiceCapability) : EndPoints :=
  [⟨1, .audio, .sink, codecCapabilities [], configuration, state, remoteSeid⟩]

def oneSink : Protocol := ⟨oneEndpoint .idle none (codecCapabilities []), 48, .new, ∅, 0⟩

theorem oneSink_fresh : Fresh oneSink :=
  ⟨rfl, by simp [oneSink, oneEndpoint], rfl, by decide⟩

/-- The command that configures endpoint 1 with endpoint 1. -/
def configureOne (information : Bytes) : Message :=
  .setConfigurationCommand 1 1 (codecCapabilities information)

theorem configureOne_read (octet : UInt8) :
    Message.parse SignalIdentifier.setConfiguration .command (configureOne [octet]).toPayload =
      some (configureOne [octet]) := by
  show (ServiceCapability.parseList (ServiceCapability.serializeList (codecCapabilities [octet]))).map
    _ = _
  rw [parseList_serializeList (by simp [codecCapabilities])]
  rfl

/-- A side that has sent the command. -/
def asking (octet : UInt8) (state : StreamState) (remoteSeid : Option UInt8)
    (configuration : List ServiceCapability) : Protocol :=
  { oneSink with
    localEndpoints := oneEndpoint state remoteSeid configuration
    pending := AList.insert 0 (.setConfiguration 1 1 (codecCapabilities [octet])) ∅
    nextTransaction := 1 }

theorem configureOne_short (octet : UInt8) :
    (configureOne [octet]).toPayload.length + 2 < (48 : UInt16).toNat := by
  show 9 + 2 < 48
  decide

theorem configureOne_written (octet : UInt8) : writeMessage 0 (configureOne [octet]) 48 =
    [[0x00, 0x03, 4, 4, 1, 0, 7, 3, 0, 2, octet]] := by
  rw [writeMessage_single (by decide) (configureOne_short octet)]
  show [headerByte 0 .single .command :: _] = _
  rfl

theorem accept_written : writeMessage 0 .setConfigurationResponse 48 = [[0x02, 0x03]] := by
  rw [writeMessage_single (by decide) (by decide)]
  rfl

theorem configureOne_called (octet : UInt8) :
    oneSink.call (.setConfiguration 1 1 (codecCapabilities [octet])) =
      .ok (asking octet .idle none (codecCapabilities []),
        [[0x00, 0x03, 4, 4, 1, 0, 7, 3, 0, 2, octet]]) := by
  rw [← configureOne_written]
  rfl

theorem configureOne_received (octet : UInt8) (pending : Map UInt8 Pending) (next : UInt8) :
    receive ⟨oneEndpoint .idle none (codecCapabilities []), 48, .new, pending, next⟩
        [0x00, 0x03, 4, 4, 1, 0, 7, 3, 0, 2, octet] =
      .ok (⟨oneEndpoint .configured (some 1) (codecCapabilities [octet]), 48, .new, pending, next⟩,
        [[0x02, 0x03]], [.streamConfigured 1]) := by
  have handled := @onCommand_of_asks
    ⟨oneEndpoint .idle none (codecCapabilities []), 48, .new, pending, next⟩ 0 _ (configureOne [octet])
    (.setConfiguration 1 1 (codecCapabilities [octet])) (configureOne_read octet) _ _ _ rfl
  show Except.ok (onCommand ⟨oneEndpoint .idle none (codecCapabilities []), 48, .new,
    pending, next⟩ (assembledOf 0 (configureOne [octet]))) = _
  rw [handled]
  show Except.ok (_, writeMessage 0 .setConfigurationResponse 48, _) = _
  rw [accept_written]
  rfl

theorem accept_received (octet : UInt8) (endpoint : StreamState) (remoteSeid : Option UInt8)
    (configuration : List ServiceCapability) :
    (asking octet endpoint remoteSeid configuration).receive [0x02, 0x03] =
      .ok ({ oneSink with
          localEndpoints := oneEndpoint .configured (some 1) (codecCapabilities [octet])
          nextTransaction := 1 }, [], [.streamConfigured 1]) := rfl

def commandOne (octet : UInt8) : Bytes := [0x00, 0x03, 4, 4, 1, 0, 7, 3, 0, 2, octet]

def askingOne (octet : UInt8) : Protocol := asking octet .idle none (codecCapabilities [])

def configuredOne (octet next : UInt8) : Protocol :=
  ⟨oneEndpoint .configured (some 1) (codecCapabilities [octet]), 48, .new, ∅, next⟩

theorem run_asking : Run True ⟨askingOne 5, oneSink, [commandOne 5], []⟩ := by
  refine .left (.start oneSink_fresh oneSink_fresh) (.call (fun _ => ?_) (configureOne_called 5))
  exact ⟨⟨by decide, .inl (configureOne_short 5)⟩, configureOne_read 5⟩

/-- The command finds both ends of the stream at rest. -/
theorem run_taken {asker : Protocol} {rest : List Bytes} {mate : LocalStreamEndPoint}
    (run : Run True ⟨asker, oneSink, commandOne 5 :: rest, []⟩)
    (found : asker.localEndpoints.get 1 = some mate) (idle : mate.state = .idle) :
    Run True ⟨asker, configuredOne 5 0, rest, [[0x02, 0x03]]⟩ := by
  refine .right run (.receive rfl (fun _ next assembled message fed type read => ?_)
    (configureOne_received 5 ∅ 0))
  have whole : oneSink.assembler.onPdu (commandOne 5) =
    .ok (.new, some (assembledOf 0 (configureOne [5]))) := rfl
  cases whole.symm.trans fed
  cases (configureOne_read 5).symm.trans read
  refine ⟨fun _ _ _ _ _ _ _ busy => absurd busy not_mem_nil, ?_, fun _ _ same => (by cases same)⟩
  intro acpSeid intSeid capabilities endpoint same _ _
  cases same
  refine ⟨?_, mate, found, idle⟩
  rintro ⟨_, -, -, _, held, -⟩
  cases held

theorem run_one_stream : Run True ⟨configuredOne 5 1, configuredOne 5 0, [], []⟩ := by
  have taken := run_taken run_asking rfl rfl
  refine .left taken (.receive rfl (fun _ next assembled message fed type read => ?_)
    (accept_received 5 .idle none (codecCapabilities [])))
  have whole : (askingOne 5).assembler.onPdu [0x02, 0x03] =
    .ok (.new, some (assembledOf 0 .setConfigurationResponse)) := rfl
  cases whole.symm.trans fed
  cases type

theorem streams_agree_on_one :
    InAgreement (configuredOne 5 1) (configuredOne 5 0) ∧
      InAgreement (configuredOne 5 0) (configuredOne 5 1) :=
  (streams_agree run_one_stream).2.2 rfl rfl

/-- What is on its way of the left side's transactions: its commands, and answers to it. -/
def Link.transactions (link : Link) : List AssembledMessage :=
  (onTheWay link.left.assembler link.toLeft).filter (! isCommand ·) ++
    (onTheWay link.right.assembler link.toRight).filter isCommand

/-- No two of them have one label, and the side waits for each, of the signal it asked for. -/
def Link.Awaited (link : Link) : Prop :=
  (link.transactions.map AssembledMessage.transactionLabel).Nodup ∧
    ∀ message ∈ link.transactions, ∃ pending, link.left.pending.lookup message.transactionLabel =
      some pending ∧ message.signalIdentifier = pending.signalIdentifier

theorem Tied.awaited {link : Link} (tied : Tied link) : link.Awaited := by
  obtain ⟨toRight, toLeft, answered, asked, _, _, inStep⟩ := tied
  have ledger := inStep.ledgerLeft
  have labels : answered.map Answer.label =
      (toLeft.filter (! isCommand ·)).map AssembledMessage.transactionLabel := by
    rw [← forall₂_eq_eq_eq, forall₂_map_left_iff, forall₂_map_right_iff]
    exact ledger.answers.imp fun _ _ is => is.label.symm
  have same : link.transactions = toLeft.filter (! isCommand ·) ++
      asked.map fun request => assembledOf request.label request.message := by
    rw [Link.transactions, onTheWay_of_carries inStep.carriesLeft,
      onTheWay_of_carries inStep.carriesRight, ledger.asks]
  rw [Link.Awaited, same, map_append, ← labels, map_map]
  refine ⟨ledger.distinct, fun message inside => ?_⟩
  rcases mem_append.mp inside with inside | inside
  · obtain ⟨answer, held, is⟩ := exists_of_forall₂ ledger.answers.flip inside
    exact ⟨_, is.label ▸ ledger.answerWaits answer held, is.signal⟩
  · obtain ⟨request, held, rfl⟩ := mem_map.mp inside
    refine ⟨_, ledger.requestWaits request held, ?_⟩
    have asks := (ledger.readable request held).1
    generalize request.pending = pending at asks
    generalize request.message = message at asks
    cases asks <;> rfl

/-- In every state of a run, of both sides. -/
theorem transactions_awaited {link : Link} (run : Run True link) :
    link.Awaited ∧ link.swap.Awaited :=
  ⟨run.tied.awaited, run.tied.swap.awaited⟩

/-- The side has asked a second time before it is answered. -/
def askingTwice : Protocol :=
  { askingOne 5 with
    pending := (askingOne 5).pending.insert 1 (.setConfiguration 1 1 (codecCapabilities [6]))
    nextTransaction := 2 }

theorem askingTwice_called : (askingOne 5).call (.setConfiguration 1 1 (codecCapabilities [6])) =
    .ok (askingTwice, [[0x10, 0x03, 4, 4, 1, 0, 7, 3, 0, 2, 6]]) := by
  have written : writeMessage 1 (configureOne [6]) 48 =
      [[0x10, 0x03, 4, 4, 1, 0, 7, 3, 0, 2, 6]] := by
    rw [writeMessage_single (by decide) (configureOne_short 6)]
    rfl
  rw [← written]
  rfl

/-- The first command has been answered, and the second is on its way. -/
theorem transactions_awaited_two : Link.Awaited ⟨askingTwice, configuredOne 5 0,
    [[0x10, 0x03, 4, 4, 1, 0, 7, 3, 0, 2, 6]], [[0x02, 0x03]]⟩ := by
  refine (transactions_awaited (run_taken (.left run_asking (.call (fun _ => ?_) askingTwice_called))
    rfl rfl)).1
  exact ⟨⟨by decide, .inl (configureOne_short 6)⟩, configureOne_read 6⟩

/-- Both sides configure the same two endpoints. Each takes the other's command, and is
told that its own is accepted. -/
theorem run_crossed : Run False ⟨configuredOne 5 1, configuredOne 6 1, [], []⟩ := by
  have called : Run False ⟨askingOne 5, oneSink, [commandOne 5], []⟩ :=
    .left (.start oneSink_fresh oneSink_fresh) (.call False.elim (configureOne_called 5))
  have crossed : Run False ⟨askingOne 5, askingOne 6, [commandOne 5], [commandOne 6]⟩ :=
    .right called (.call False.elim (configureOne_called 6))
  have taken : Run False ⟨asking 5 .configured (some 1) (codecCapabilities [6]), askingOne 6,
      [commandOne 5, [0x02, 0x03]], []⟩ :=
    .left crossed (.receive rfl False.elim (configureOne_received 6 _ 1))
  have taken' : Run False ⟨asking 5 .configured (some 1) (codecCapabilities [6]),
      asking 6 .configured (some 1) (codecCapabilities [5]), [[0x02, 0x03]], [[0x02, 0x03]]⟩ :=
    .right taken (.receive rfl False.elim (configureOne_received 5 _ 1))
  have told : Run False ⟨configuredOne 5 1, asking 6 .configured (some 1) (codecCapabilities [5]),
      [[0x02, 0x03]], []⟩ :=
    .left taken' (.receive rfl False.elim (accept_received 5 .configured (some 1) _))
  exact .right told (.receive rfl False.elim (accept_received 6 .configured (some 1) _))

/-- Nothing is on its way and nothing is pending, but the two ends of the stream have
different configurations. -/
theorem crossed_configurations_differ : ∃ link, Run False link ∧ link.toRight = [] ∧
    link.toLeft = [] ∧ link.left.pending.entries = [] ∧ link.right.pending.entries = [] ∧
    ¬ InAgreement link.left link.right := by
  refine ⟨_, run_crossed, rfl, rfl, rfl, rfl, fun agrees => ?_⟩
  obtain ⟨peer, mate, linked, found, -, -, same⟩ := agrees 1 _ rfl (by decide)
  cases linked
  cases found
  exact absurd same (by decide)

end Simble.Avdtp
