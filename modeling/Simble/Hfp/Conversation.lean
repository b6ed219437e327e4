import Simble.Hfp.Pending

/-! A hands-free side and an audio gateway joined by two byte streams: what is asked,
what is answered to it, and what comes of each line. -/
namespace Simble.Hfp

/-! ## Lines on their way -/

inductive Sent where
  | command (text : String)
  | own (line : Bytes)

def Sent.line : Sent → Bytes
  | command text => utf8 text
  | own line => line

/-- A line on its way to the hands-free side: of the answer to a command, of the
answer to a line that was not counted, or said unasked. -/
inductive Said where
  | information (line : Bytes)
  | result (line : Bytes)
  | own (line : Bytes)
  | unsolicited (line : Bytes)

def Said.line : Said → Bytes
  | information line | result line | own line | unsolicited line => line

def isStatus (response : AtResponse) : Bool := statusCodes.contains response.code

def isResult (line : Bytes) : Bool :=
  match AtResponse.parseFrom line with
  | .ok response => isStatus response
  | .error _ => false

def linesOf (outgoing : List Bytes) : List Bytes := (extractResponseLines outgoing.flatten).1

def answerLines : List Bytes → List Said
  | [] => []
  | line :: rest =>
    if isResult line then .result line :: rest.map .unsolicited
    else .information line :: answerLines rest

def Said.unasked : Said → Option Bytes
  | unsolicited line => some line
  | _ => none

/-! ## What the hands-free side tells its caller -/

def HfEvent.completion : HfEvent → Option (String × Bool × List AtResponse)
  | commandCompleted command ok responses => some (command, ok, responses)
  | _ => none

def HfEvent.isNotice : HfEvent → Bool
  | slcComplete | commandCompleted .. => false
  | _ => true

namespace HfProtocol
variable (hf : HfProtocol)

/-- The commands that have come to an end: those that the caller is told of, and in the set-up the
one whose step is over without a word. -/
def ended (reply : HfReply) : List (String × Bool × List AtResponse) :=
  let told := reply.events.filterMap HfEvent.completion
  if told.isEmpty ∧ hf.slcStep.isSome ∧ reply.hf.slcStep ≠ hf.slcStep then
    [(hf.pendingCommand.getD "", true, hf.pendingResponses)]
  else told

/-- The event of a line that is said unasked. -/
def noticeOf (response : AtResponse) : Option HfEvent :=
  let number := AgProtocol.numberAt response.parameters
  if response.code = "+BCS" then
    ((number 0).bind fun v => AudioCodec.fromValue v.toUInt8).map .codecNegotiated
  else if response.code = "+CIEV" then do
    let index ← number 0
    let value ← number 1
    let known := if index = 0 then none else hf.agIndicators[index.toNat - 1]?
    known.map fun state => .agIndicatorUpdated { state with currentStatus := value }
  else eventOf response

end HfProtocol

/-- A line that was taken for one said unasked, and the events that were given for it. -/
structure Notice where
  hf : HfProtocol
  response : AtResponse
  events : List HfEvent

/-- Its event is given, and besides at most that the state of the audio connection has changed. -/
def Notice.Announced (notice : Notice) : Prop :=
  ∃ changes, notice.events = (notice.hf.noticeOf notice.response).toList ++ changes ∧
    ∀ event ∈ changes, ∃ state, event = .audioConnectionState state

/-! ## The two sides -/

/-- The two sides and the octets between them, with what has been seen so far. -/
structure Conversation where
  hf : HfProtocol
  ag : AgProtocol
  toAg : Bytes
  toHf : Bytes
  sent : List Sent
  said : List Said
  asked : List String
  answered : List (String × List Bytes)
  completed : List (String × Bool × List AtResponse)
  /-- What the gateway has said unasked. -/
  unsolicited : List Bytes
  delivered : List Notice
  /-- All that the hands-free side's caller is told. -/
  events : List HfEvent

inductive HfCall where
  | startSlc
  | sendCommand (command : String)

def HfProtocol.call (hf : HfProtocol) : HfCall → HfProtocol × Bytes
  | .startSlc => hf.startSlc
  | .sendCommand command => hf.sendCommand command

inductive AgCall where
  | startAudioConnection
  | updateAgIndicator (indicator : AgIndicator) (value : UInt32)
  | setSpeakerVolume (level : UInt8)
  | setMicrophoneVolume (level : UInt8)
  | sendRing
  | sendCliNotification (cli : CallLineIdentification)

def AgProtocol.call (ag : AgProtocol) : AgCall → Rust (AgProtocol × List Bytes)
  | .startAudioConnection => .ok (ag.startAudioConnection.ag, ag.startAudioConnection.outgoing)
  | .updateAgIndicator indicator value => do
    let (ag, bytes) ← ag.updateAgIndicator indicator value
    return (ag, [bytes])
  | .setSpeakerVolume level => .ok (ag, [AgProtocol.setSpeakerVolume level])
  | .setMicrophoneVolume level => .ok (ag, [AgProtocol.setMicrophoneVolume level])
  | .sendRing => .ok (ag, [AgProtocol.sendRing])
  | .sendCliNotification cli => .ok (ag, [AgProtocol.sendCliNotification cli])

namespace Conversation
variable (c : Conversation)

/-- The hands-free side begins a command. -/
def ask (request : HfCall) : Conversation :=
  let (hf, bytes) := c.hf.call request
  { c with
    hf
    toAg := c.toAg ++ bytes
    sent := c.sent ++ hf.pendingCommand.toList.map .command
    asked := c.asked ++ hf.pendingCommand.toList }

def say (ag : AgProtocol) (outgoing : List Bytes) : Conversation :=
  { c with
    ag
    toHf := c.toHf ++ outgoing.flatten
    said := c.said ++ (linesOf outgoing).map .unsolicited
    unsolicited := c.unsolicited ++ linesOf outgoing }

/-- The gateway handles a line that is not empty. -/
def serve (line : Bytes) : Rust Conversation := do
  let reply ← c.ag.receiveLine line
  let lines := linesOf reply.outgoing
  let after := { c with
    ag := reply.ag
    toHf := c.toHf ++ reply.outgoing.flatten
    sent := c.sent.tail }
  match c.sent.head? with
  | some (.command text) => return { after with
      said := c.said ++ answerLines lines
      answered := c.answered ++ [(text, reply.outgoing)]
      unsolicited := c.unsolicited ++ (answerLines lines).filterMap Said.unasked }
  | _ => return { after with said := c.said ++ lines.map .own }

def hear (line : Bytes) : Conversation :=
  let reply := c.hf.handleLine line
  let after := { c with
    hf := reply.hf
    toAg := c.toAg ++ reply.outgoing.flatten
    said := c.said.tail
    completed := c.completed ++ c.hf.ended reply
    events := c.events ++ reply.events }
  if line = [] then after
  else match AtResponse.parseFrom line with
  | .error _ => after
  | .ok response =>
    if ¬ c.hf.takes response then { after with
      sent := c.sent ++ reply.outgoing.map fun bytes => .own bytes.dropLast
      delivered := c.delivered ++ [⟨c.hf, response, reply.events⟩] }
    else if isStatus response then { after with
      sent := c.sent ++ reply.hf.pendingCommand.toList.map .command
      asked := c.asked ++ reply.hf.pendingCommand.toList }
    else after

def serveAll (lines : List Bytes) : Rust Conversation := (lines.filter (· ≠ [])).foldlM serve c

def hearAll (lines : List Bytes) : Conversation := lines.foldl hear c

/-! ## What makes the lines fit -/

/-- No line that the hands-free side sent by itself is unanswered. -/
def Settled : Prop :=
  (∀ sent ∈ c.sent, ∃ text, sent = .command text) ∧ ∀ said ∈ c.said, ∀ line, said ≠ .own line

end Conversation

/-- A line that the parser of responses takes, with no delimiter inside. -/
def Legible (text : String) : Prop :=
  findCrlf (utf8 text) = none ∧ ∃ response, AtResponse.parseFrom (utf8 text) = .ok response

namespace AgProtocol

def callText (call : CallInfo) : String :=
  let number := (call.number.map fun number => s!",\"{number}\"").getD ""
  let kind := (call.kind.map fun kind => s!",{kind}").getD ""
  s!"+CLCC: {call.index},{call.direction},{call.status},{call.mode}," ++
    s!"{call.multiParty}{number}{kind}"

def information (ag : AgProtocol) : List String :=
  [s!"+BRSF: {ag.supportedAgFeatures}",
    s!"+CHLD: ({joinComma (ag.supportedAgCallHoldOperations.map CallHoldOperation.code)})",
    s!"+CIND: {joinComma (ag.agIndicators.map fun state => toString state.currentStatus)}",
    s!"+BIND: ({joinComma (ag.supportedHfIndicators.map fun value => toString value.toValue)})",
    s!"+COPS: 0,0,\"{ag.networkOperator}\""] ++
  (match ag.agIndicators.mapM AgIndicatorState.onTestText with
    | .ok texts => [s!"+CIND: {joinComma texts}"]
    | .error _ => []) ++
  ag.hfIndicators.map (fun entry => s!"+BIND: {entry.1.toValue},1") ++ ag.calls.map callText

/-- An `AT+CMER` that the gateway refuses, and then accepts. -/
def wrongReporting (params : List AtParameter) : Prop :=
  numberAt params 0 ≠ some 3 ∨ (numberAt params 1).getD 0 ≠ 0 ∨ (numberAt params 2).getD 0 ≠ 0 ∨
    ((numberAt params 3).getD 0 ≠ 0 ∧ (numberAt params 3).getD 0 ≠ 1)

/-- The gateway's answer to the line is one answer, and can be read. -/
structure Answerable (ag : AgProtocol) (line : Bytes) : Prop where
  legible : ∀ text ∈ ag.information, Legible text
  once : ∀ cmd, AtCommand.parseFrom line = .ok cmd → commandOf cmd.code cmd.subCode = some .cmer →
    ¬ wrongReporting cmd.parameters

end AgProtocol

namespace Conversation

def Serves (careful : Prop) : Conversation → List Bytes → Prop
  | _, [] => True
  | c, line :: rest => (careful → c.ag.Answerable line) ∧
    ∀ next, c.serve line = .ok next → Serves careful next rest

/-- The next line is not taken for what it is not: an unasked one comes while nothing is pending
that it could answer, and where a result begins the next step of the set-up every line of the
hands-free side's own is answered. -/
structure Fits (c : Conversation) (line : Bytes) : Prop where
  unasked : ∀ text rest response, c.said = .unsolicited text :: rest →
    AtResponse.parseFrom line = .ok response → c.hf.takes response = false
  settled : ∀ text rest, c.said = .result text :: rest → c.hf.slcStep.isSome →
    { c with said := rest }.Settled

def Hears (careful : Prop) : Conversation → List Bytes → Prop
  | _, [] => True
  | c, line :: rest => (careful → c.Fits line) ∧ Hears careful (c.hear line) rest

/-- Something happens at one side; a command is begun only while none is pending. -/
inductive Step (careful : Prop) (c : Conversation) : Conversation → Prop
  | ask (request : HfCall) : c.hf.hasPendingCommand = false →
    (careful → c.Settled ∧ ∀ text ∈ (c.hf.call request).1.pendingCommand, OneLine text) →
    Step careful c (c.ask request)
  | say {call : AgCall} {ag : AgProtocol} {outgoing : List Bytes} :
    c.ag.call call = .ok (ag, outgoing) →
    (careful → ∀ text, responseBytes text ∈ outgoing → Legible text) →
    Step careful c (c.say ag outgoing)
  | serve {front back : Bytes} {after : Conversation} : c.toAg = front ++ back →
    Serves careful { c with
      ag := { c.ag with readBuffer := (extractCommandLines (c.ag.readBuffer ++ front)).2 }
      toAg := back } ((extractCommandLines (c.ag.readBuffer ++ front)).1.filter (· ≠ [])) →
    { c with
      ag := { c.ag with readBuffer := (extractCommandLines (c.ag.readBuffer ++ front)).2 }
      toAg := back }.serveAll (extractCommandLines (c.ag.readBuffer ++ front)).1 = .ok after →
    Step careful c after
  | hear {front back : Bytes} : c.toHf = front ++ back →
    Hears careful { c with
      hf := { c.hf with readBuffer := (extractResponseLines (c.hf.readBuffer ++ front)).2 }
      toHf := back } (extractResponseLines (c.hf.readBuffer ++ front)).1 →
    Step careful c ({ c with
      hf := { c.hf with readBuffer := (extractResponseLines (c.hf.readBuffer ++ front)).2 }
      toHf := back }.hearAll (extractResponseLines (c.hf.readBuffer ++ front)).1)

/-- The two sides before their first call. -/
def start (hf : HfConfiguration) (ag : AgConfiguration) : Conversation :=
  ⟨.new hf, .new ag, [], [], [], [], [], [], [], [], [], []⟩

inductive Run (careful : Prop) : Conversation → Prop
  | start {hf ag} : Run careful (start hf ag)
  | step {c after} : Run careful c → Step careful c after → Run careful after

/-! ## What is claimed -/

/-- One result code, behind the lines of information. -/
def OneResult (lines : List Bytes) : Prop :=
  ∃ information result later, lines = information ++ result :: later ∧ isResult result = true ∧
    (∀ line ∈ information, isResult line = false) ∧ ∀ line ∈ later, isResult line = false

def Completes (answer : String × List Bytes) (outcome : String × Bool × List AtResponse) : Prop :=
  answer.1 = outcome.1 ∧ ∃ information result later response,
    linesOf answer.2 = information ++ result :: later ∧
    information.map AtResponse.parseFrom = outcome.2.2.map .ok ∧
    (∀ line ∈ information, isResult line = false) ∧
    AtResponse.parseFrom result = .ok response ∧ isStatus response = true ∧
    outcome.2.1 = decide (response.code = "OK")

def notifications (c : Conversation) : List (Except AtParsingError AtResponse) :=
  ((c.delivered.map Notice.response).filter fun response => ! isStatus response).map .ok

structure Attributed (c : Conversation) : Prop where
  single : ∀ answer ∈ c.answered, OneResult (linesOf answer.2)
  order : c.answered.map Prod.fst <+: c.asked
  completed : ∃ front rest, c.answered = front ++ rest ∧ List.Forall₂ Completes front c.completed
  once : c.asked.length = c.completed.length + if c.hf.hasPendingCommand then 1 else 0
  delivered : c.notifications <+: c.unsolicited.map AtResponse.parseFrom
  quiet : c.toAg = [] → c.toHf = [] → c.hf.hasPendingCommand = false ∧
    c.notifications = c.unsolicited.map AtResponse.parseFrom
  announced : ∀ notice ∈ c.delivered, notice.Announced
  events : c.events.filter HfEvent.isNotice = c.delivered.flatMap Notice.events

end Conversation

end Simble.Hfp
