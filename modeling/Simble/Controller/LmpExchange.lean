import Simble.Controller.Lmp

/-! What becomes of an LMP exchange: two joined ends end it alike, a deferring end follows its
host, and what an unasked rejection does. -/
namespace Simble.Lmp
open Simble.Lib LmpHostConnectionReq List

/-! ## The stages of an exchange -/

/-- Where an exchange stands, as both ends and both queues together. -/
inductive Stage where
  | idle
  | requested
  /-- Peripheral's host is to decide. -/
  | pending
  | refused (reason : UInt8)
  | rejected (reason : UInt8)
  | granted
  | confirmed
  | answered
  | half
  | closing
  | connected
deriving DecidableEq

namespace Stage

def after (setup : Setup) : Stage → Label → Stage
  | idle, .call .left .request => requested
  | requested, .deliver .right =>
    if setup.deferToHost .right then pending
    else if setup.acceptConnections .right then granted else refused limitedResources
  | pending, .call .right .accept => granted
  | pending, .call .right (.reject reason) => refused reason
  | refused reason, .deliver .left => rejected reason
  | granted, .deliver .left => confirmed
  | confirmed, .deliver .left => answered
  | answered, .deliver .right => half
  | half, .deliver .right => closing
  | closing, .deliver .left => connected
  | stage, _ => stage

def left : Stage → Nat
  | idle | requested => 6
  | pending | granted => 5
  | confirmed => 4
  | answered => 3
  | half => 2
  | closing | refused _ => 1
  | connected | rejected _ => 0

variable (setup : Setup)

def central (link : LmpLink) : Stage → LmpLink
  | idle => link
  | requested | pending | refused _ | granted => { link with state := .connectionRequested }
  | rejected reason => { link with state := .rejected, rejectedReason := some reason }
  | confirmed => { link with state := .connectionAccepted }
  | answered | half | closing =>
    { link with state := .connectionAccepted, requestedPeerFeatures := true }
  | connected =>
    { link with
      state := .connected
      requestedPeerFeatures := true
      peerFeatures := some (setup.features .right) }

def peripheral (link : LmpLink) : Stage → LmpLink
  | idle | requested => link
  | pending => { link with state := .connectionPending }
  | refused reason | rejected reason =>
    { link with state := .rejected, rejectedReason := some reason }
  | granted | confirmed | answered =>
    { link with state := .connectionAccepted, requestedPeerFeatures := true }
  | half | closing | connected =>
    { link with
      state := .connected
      requestedPeerFeatures := true
      peerFeatures := some (setup.features .left) }

def toCentral : Stage → List Bytes
  | refused reason => [LmpNotAccepted.new 0 Opcode.hostConnectionReq reason]
  | granted => [LmpAccepted.new 0 Opcode.hostConnectionReq, LmpFeaturesReq.new 1]
  | confirmed => [LmpFeaturesReq.new 1]
  | closing => [LmpFeaturesRes.new 0 (setup.features .right)]
  | _ => []

def toPeripheral : Stage → List Bytes
  | requested => [LmpHostConnectionReq.new 0]
  | answered => [LmpFeaturesRes.new 1 (setup.features .left), LmpFeaturesReq.new 0]
  | half => [LmpFeaturesReq.new 0]
  | _ => []

def net (stage : Stage) : Net where
  node
    | .left => central setup (setup.link .left) stage
    | .right => peripheral setup (setup.link .right) stage
  inbox
    | .left => toCentral setup stage
    | .right => toPeripheral setup stage

end Stage

@[simp] theorem featuresRes_parse_new (tid : UInt8) (features : Features) :
    LmpFeaturesRes.parse (LmpFeaturesRes.new tid features) =
      if headerOpcode (packHeader tid Opcode.featuresRes) = Opcode.featuresRes then some features
      else none := by
  simp [LmpFeaturesRes.parse, LmpFeaturesRes.new]

variable {setup : Setup}

open LmpLink

theorem LmpLink.answer_featuresRes (link : LmpLink) {tid : UInt8} (features : Features)
    (header : headerOpcode (packHeader tid Opcode.featuresRes) = Opcode.featuresRes) :
    link.answer (.receive (LmpFeaturesRes.new tid features)) =
      .ok ({ link with
        peerFeatures := some features
        state := if link.state = .connectionAccepted then .connected else link.state }, []) := by
  rw [LmpFeaturesRes.new, answer, receive, header]
  rw [if_neg (by decide), if_neg (by decide), if_neg (by decide), if_neg (by decide), if_pos rfl,
    ← LmpFeaturesRes.new, onFeaturesRes, featuresRes_parse_new, if_pos header]
  cases link
  simp only
  split <;> simp_all

variable (stage : Stage)

theorem Stage.net_call (side : Side) (call : LmpLink.Call) :
    Net.input (stage.net setup) side (.call call) =
      (stage.after setup (.call side call)).net setup := by
  cases side <;> refine Duplex.ext_at .left ?_ ?_ ?_ ?_ <;> cases stage <;> cases call <;> rfl

theorem Net.input_of_answer {net : Net} {side : Side} {input : LmpLink.Input} {link : LmpLink}
    {pdus : List Bytes} (answered : (net.node side).answer input = .ok (link, pdus)) :
    Net.input net side input = net.emit side link pdus := by
  rw [Net.input, LmpLink.next, LmpLink.said, answered]

theorem Stage.after_requested :
    requested.after setup (.deliver .right) =
      if setup.deferToHost .right then pending
      else if setup.acceptConnections .right then granted else refused limitedResources := rfl

theorem Stage.net_requested :
    Net.input ((requested.net setup).consume .right []) .right
        (.receive (new 0)) =
      (requested.after setup (.deliver .right)).net setup := by
  have heard : (setup.link .right).receive (new 0) =
      (setup.link .right).onHostConnectionReq (new 0) := rfl
  have role : (setup.link .right).role = .peripheral := rfl
  have read : parse (new 0) = some 0 := rfl
  rw [onHostConnectionReq, read] at heard
  simp only [role, ne_eq, not_true_eq_false, if_false] at heard
  have answered : (((requested.net setup).consume .right []).node .right).answer
      (.receive (new 0)) = _ := heard
  rw [after_requested]
  by_cases defer : setup.deferToHost .right = true
  · rw [if_pos (show (setup.link .right).deferToHost = true from defer)] at answered
    rw [if_pos defer, Net.input_of_answer answered]
    refine Duplex.ext_at .left ?_ ?_ ?_ ?_ <;> rfl
  · rw [if_neg (show ¬ (setup.link .right).deferToHost = true from defer)] at answered
    rw [if_neg defer]
    by_cases accept : setup.acceptConnections .right = true
    · rw [if_neg (not_not_intro (show (setup.link .right).acceptConnections = true from accept))]
        at answered
      rw [if_pos accept, Net.input_of_answer answered]
      refine Duplex.ext_at .left ?_ ?_ ?_ ?_ <;> rfl
    · rw [if_pos (show ¬ (setup.link .right).acceptConnections = true from accept)] at answered
      rw [if_neg accept, Net.input_of_answer answered]
      refine Duplex.ext_at .left ?_ ?_ ?_ ?_ <;> rfl

theorem Stage.net_deliver (side : Side) {bytes : Bytes} {rest : List Bytes}
    (queued : (stage.net setup).inbox side = bytes :: rest) :
    Net.input ((stage.net setup).consume side rest) side (.receive bytes) =
      (stage.after setup (.deliver side)).net setup := by
  cases side <;> cases stage <;> cases queued
  case left.closing | right.answered =>
    rw [Net.input_of_answer (answer_featuresRes _ _ rfl)]
    refine Duplex.ext_at .left ?_ ?_ ?_ ?_ <;> rfl
  case right.requested => exact net_requested
  all_goals refine Duplex.ext_at .left ?_ ?_ ?_ ?_ <;> rfl

/-- The ends that run the code go through the stages. -/
theorem Stage.net_step {stage : Stage} {label : Label} {net : Net}
    (step : Net.Step (stage.net setup) label net) : net = (stage.after setup label).net setup := by
  cases step with
  | deliver queued => exact stage.net_deliver _ queued
  | call side call => exact stage.net_call side call

open Stage

theorem Setup.start_eq : setup.start = idle.net setup := by
  refine Duplex.ext_at .left ?_ ?_ ?_ ?_ <;> rfl

theorem Net.run_stage {labels : List Label} {net : Net}
    (run : Run Net.Step setup.start labels net) :
    net = (labels.foldl (after setup) .idle).net setup := by
  refine run.invariant (P := fun labels net => net = (labels.foldl (after setup) .idle).net setup)
    Setup.start_eq ?_
  rintro labels _ label net rfl step
  rw [foldl_append]
  exact net_step step

/-! ## Convergence -/

def Label.isDelivery : Label → Bool
  | .deliver _ => true
  | .call .. => false

/-- Each delivery takes an exchange nearer to its end, and nothing takes it back. -/
theorem Stage.left_deliver {stage : Stage} {side : Side} {bytes : Bytes} {rest : List Bytes}
    (queued : (stage.net setup).inbox side = bytes :: rest) :
    (stage.after setup (.deliver side)).left < stage.left := by
  cases side <;> cases stage <;> cases queued
  case right.requested =>
    rw [after_requested]
    split_ifs <;> decide
  all_goals exact Nat.lt_add_one _

theorem Stage.left_call (side : Side) (call : LmpLink.Call) :
    (stage.after setup (.call side call)).left ≤ stage.left := by
  cases stage <;> cases side <;> cases call
  case pending.right.reject => exact (by decide : 1 ≤ 5)
  all_goals exact Nat.le_refl _

/-- Both ends are connected and each knows what the other supports, or the link is
rejected at both for one reason. -/
def Net.Converged (net : Net) : Prop :=
  (∀ side : Side, (net.node side).state = .connected ∧
      (net.node side).peerFeatures = some (net.node side.peer).localFeatures) ∨
    ∃ reason, ∀ side : Side, (net.node side).state = .rejected ∧
      (net.node side).rejectedReason = some reason

/-- An exchange that was begun has ended when nothing is on its way and no host has to decide. -/
theorem Stage.converged {stage : Stage} (quiet : (stage.net setup).Quiescent)
    (begun : ((stage.net setup).node .left).state ≠ .idle)
    (decided : ((stage.net setup).node .right).state ≠ .connectionPending) :
    Net.Converged (stage.net setup) := by
  cases stage with
  | idle => exact absurd rfl begun
  | pending => exact absurd rfl decided
  | connected =>
    left
    intro side
    cases side <;> exact ⟨rfl, rfl⟩
  | rejected reason =>
    right
    refine ⟨reason, fun side => ?_⟩
    cases side <;> exact ⟨rfl, rfl⟩
  | requested | answered | half => cases quiet .right
  | refused | granted | confirmed | closing => cases quiet .left

theorem Net.run_left {labels : List Label} {net : Net}
    (run : Run Net.Step setup.start labels net) :
    labels.countP Label.isDelivery + (labels.foldl (after setup) .idle).left ≤ 6 := by
  refine (run.invariant (P := fun labels net =>
    net = (labels.foldl (after setup) .idle).net setup ∧
      labels.countP Label.isDelivery + (labels.foldl (after setup) .idle).left ≤ 6)
    ⟨Setup.start_eq, le_refl 6⟩ ?_).2
  rintro labels _ label net ⟨rfl, bounded⟩ step
  rw [foldl_append]
  refine ⟨net_step step, ?_⟩
  generalize labels.foldl (after setup) .idle = stage at bounded step
  rw [countP_append]
  cases step with
  | deliver queued =>
    have := left_deliver queued
    simp only [countP_singleton, foldl_cons, foldl_nil, Label.isDelivery, if_true]
    omega
  | call side call =>
    have : (stage.after setup (.call side call)).left ≤ stage.left := stage.left_call side call
    simp only [countP_singleton, foldl_cons, foldl_nil, Label.isDelivery]
    simp
    omega

/-- At no time is an end connected to one that is rejected, or without its features, or wrong
about them, and no queue holds more than two PDUs. -/
theorem Net.never_apart {labels : List Label} {net : Net}
    (run : Run Net.Step setup.start labels net) (side : Side) :
    (∀ features, (net.node side).peerFeatures = some features →
        features = (net.node side.peer).localFeatures) ∧
      ((net.node side).state = .connected → (net.node side).peerFeatures ≠ none ∧
        (net.node side.peer).state ≠ .rejected) ∧ (net.inbox side).length ≤ 2 := by
  rw [run_stage run]
  generalize labels.foldl (after setup) .idle = stage
  refine ⟨?_, ?_, ?_⟩
  · cases stage <;> cases side <;> rintro _ ⟨⟩ <;> rfl
  · cases stage <;> cases side <;> rintro ⟨⟩ <;> exact ⟨nofun, nofun⟩
  · cases stage <;> cases side <;> exact Nat.le_of_ble_eq_true rfl

theorem Stage.delivers {stage : Stage} {side : Side} {bytes : Bytes} {rest : List Bytes}
    (queued : (stage.net setup).inbox side = bytes :: rest) :
    Net.Step (stage.net setup) (.deliver side) ((stage.after setup (.deliver side)).net setup) :=
  stage.net_deliver side queued ▸ .deliver queued

def accepting : Setup := ⟨fun _ => Octets.zero, fun _ => true, fun _ => false⟩

/-- A request that is accepted takes six deliveries to connect both ends. -/
theorem accepting_connects : Run Net.Step accepting.start [.call .left .request, .deliver .right,
    .deliver .left, .deliver .left, .deliver .right, .deliver .right, .deliver .left]
    (connected.net accepting) := by
  have asks : Net.Step (idle.net accepting) (.call .left .request) (requested.net accepting) :=
    idle.net_call .left .request ▸ .call _ .left .request
  rw [Setup.start_eq]
  exact ((((((Run.nil.snoc asks).snoc (requested.delivers rfl)).snoc (granted.delivers rfl)).snoc
    (confirmed.delivers rfl)).snoc (answered.delivers rfl)).snoc (half.delivers rfl)).snoc
    (closing.delivers rfl)

theorem Net.never_apart_connected :
    (((connected.net accepting).node .left).peerFeatures ≠ none ∧
      ((connected.net accepting).node .right).state ≠ .rejected) ∧
    ((connected.net accepting).node .right).peerFeatures ≠ none ∧
      ((connected.net accepting).node .left).state ≠ .rejected :=
  ⟨(Net.never_apart accepting_connects .left).2.1 rfl,
    (Net.never_apart accepting_connects .right).2.1 rfl⟩

/-! ## An end that defers -/

structure LmpLink.Defers (link : LmpLink) : Prop where
  role : link.role = .peripheral
  defer : link.deferToHost = true
  asks : link.state ≠ .connectionRequested

/-- What an input does to an end that defers: something only when a request waits, the end is
rejected, the host accepts what waits, or features come in after that. -/
inductive LmpLink.Moves (link : LmpLink) : LmpLink.Input → LmpLink → Prop where
  | stays (input : LmpLink.Input) (next : LmpLink) : next.state = link.state → Moves link input next
  | waits (input : LmpLink.Input) (next : LmpLink) : next.state = .connectionPending →
      Moves link input next
  | rejects (input : LmpLink.Input) (next : LmpLink) : next.state = .rejected →
      Moves link input next
  | accepts (next : LmpLink) : link.state = .connectionPending →
      next.state = .connectionAccepted → Moves link (.call .accept) next
  | connects (input : LmpLink.Input) (next : LmpLink) : link.state = .connectionAccepted →
      next.state = .connected → Moves link input next

namespace LmpLink
variable {link : LmpLink}

def Follows (link : LmpLink) (input : Input) (answer : Answer) : Prop :=
  ∀ other pdus, answer = .ok (other, pdus) → other.Defers ∧ link.Moves input other

theorem follows_error {input : Input} {error : SimbleError} : link.Follows input (.error error) := by
  intro other pdus answered
  cases answered

theorem follows_ok {input : Input} {other : LmpLink} {pdus : List Bytes} (defers : other.Defers)
    (moves : link.Moves input other) : link.Follows input (.ok (other, pdus)) := by
  intro other pdus answered
  cases answered
  exact ⟨defers, moves⟩

namespace Defers
variable (defers : link.Defers)
include defers

theorem follows_same {input : Input} {pdus : List Bytes} : link.Follows input (.ok (link, pdus)) :=
  follows_ok defers (.stays _ _ rfl)

theorem follows_call (call : Call) : link.Follows (.call call) (link.answer (.call call)) := by
  cases call with
  | request =>
    rw [answer, buildConnectionRequest, if_pos (by simp [defers.role])]
    exact follows_error
  | accept =>
    rw [answer, acceptPendingConnection]
    split
    · exact follows_error
    · rename_i waiting
      exact follows_ok ⟨defers.role, defers.defer, by simp⟩ (.accepts _ (not_not.mp waiting) rfl)
  | reject reason =>
    rw [answer, rejectPendingConnection]
    split
    · exact follows_error
    · exact follows_ok ⟨defers.role, defers.defer, by simp⟩ (.rejects _ _ rfl)

variable (bytes : Bytes) (input : Input)

theorem follows_hostConnectionReq : link.Follows input (link.onHostConnectionReq bytes) := by
  rw [onHostConnectionReq]
  cases parse bytes with
  | none => exact follows_error
  | some tid =>
    simp only [defers.role, defers.defer, if_true]
    exact follows_ok ⟨rfl, rfl, by simp⟩ (.waits _ _ rfl)

theorem follows_accepted : link.Follows input (link.onAccepted bytes) := by
  rw [onAccepted]
  cases LmpAccepted.parse bytes with
  | none => exact follows_error
  | some acceptedOpcode =>
    simp only [defers.asks, and_false, if_false]
    exact defers.follows_same

theorem follows_notAccepted : link.Follows input (link.onNotAccepted bytes) := by
  rw [onNotAccepted]
  cases LmpNotAccepted.parse bytes with
  | none => exact follows_error
  | some refused => exact follows_ok ⟨defers.role, defers.defer, by simp⟩ (.rejects _ _ rfl)

theorem follows_featuresReq : link.Follows input (link.onFeaturesReq bytes) := by
  rw [onFeaturesReq]
  cases LmpFeaturesReq.parse bytes with
  | none => exact follows_error
  | some tid =>
    split_ifs
    · exact follows_error
    · exact defers.follows_same
    · exact follows_ok ⟨defers.role, defers.defer, defers.asks⟩ (.stays _ _ rfl)

theorem follows_featuresRes : link.Follows input (link.onFeaturesRes bytes) := by
  rw [onFeaturesRes]
  cases LmpFeaturesRes.parse bytes with
  | none => exact follows_error
  | some features =>
    simp only
    split_ifs with accepted
    · exact follows_ok ⟨defers.role, defers.defer, by simp⟩ (.connects _ _ accepted rfl)
    · exact follows_ok ⟨defers.role, defers.defer, defers.asks⟩ (.stays _ _ rfl)

theorem follows_receive : link.Follows input (link.receive bytes) := by
  cases bytes with
  | nil => exact follows_error
  | cons header rest =>
    rw [receive]
    split_ifs
    · exact defers.follows_hostConnectionReq _ _
    · exact defers.follows_accepted _ _
    · exact defers.follows_notAccepted _ _
    · exact defers.follows_featuresReq _ _
    · exact defers.follows_featuresRes _ _
    · exact follows_error

theorem next : (link.next input).Defers ∧ link.Moves input (link.next input) := by
  have follows : link.Follows input (link.answer input) := by
    cases input with
    | receive bytes => exact defers.follows_receive _ _
    | call call => exact defers.follows_call call
  rw [LmpLink.next]
  cases answered : link.answer input with
  | error => exact ⟨defers, .stays _ _ rfl⟩
  | ok other => exact follows other.1 other.2 answered

end Defers

/-! ### What the host decided -/

def Input.isRequest : Input → Prop
  | .receive bytes => LmpHostConnectionReq.parse bytes ≠ none
  | .call _ => False

theorem next_request (defers : link.Defers) {input : Input} (request : input.isRequest) :
    (link.next input).state = .connectionPending := by
  cases input with
  | call => cases request
  | receive bytes =>
    obtain ⟨tid, read⟩ := Option.ne_none_iff_exists'.mp request
    have heard : link.receive bytes = link.onHostConnectionReq bytes := by
      cases bytes with
      | nil => cases read
      | cons header rest =>
        rw [parse, Option.ite_none_right_eq_some] at read
        rw [receive, if_pos read.1]
    rw [next, answer, heard, onHostConnectionReq, read]
    simp [defers.role, defers.defer]

/-- The host accepted a request, and no request came after that. -/
def Granted (link : LmpLink) (inputs : List Input) : Prop :=
  ∃ earlier later, inputs = earlier ++ .call .accept :: later ∧
    (link.after earlier).state = .connectionPending ∧ ∀ input ∈ later, ¬ input.isRequest

theorem after_concat (link : LmpLink) (inputs : List Input) (input : Input) :
    link.after (inputs ++ [input]) = (link.after inputs).next input := by
  rw [after, after, foldl_append]
  rfl

theorem Granted.concat {inputs : List Input} {input : Input} (granted : link.Granted inputs)
    (quiet : ¬ input.isRequest) : link.Granted (inputs ++ [input]) := by
  obtain ⟨earlier, later, rfl, waiting, none⟩ := granted
  refine ⟨earlier, later ++ [input], by simp, waiting, ?_⟩
  intro other inside
  rcases mem_append.mp inside with inside | inside
  · exact none other inside
  · rwa [mem_singleton.mp inside]

/-- An end that defers has got on with a request only as its host accepted it. -/
theorem Defers.granted (defers : link.Defers) (idle : link.state = .idle) (inputs : List Input) :
    (link.after inputs).Defers ∧
      ((link.after inputs).state = .connectionAccepted ∨ (link.after inputs).state = .connected →
        link.Granted inputs) := by
  induction inputs using List.reverseRec with
  | nil =>
    refine ⟨defers, fun got => ?_⟩
    rw [show link.after [] = link from rfl, idle] at got
    rcases got with got | got <;> cases got
  | append_singleton inputs input ih =>
    obtain ⟨before, granted⟩ := ih
    obtain ⟨now, moves⟩ := before.next input
    rw [after_concat]
    refine ⟨now, fun got => ?_⟩
    have quiet : ¬ input.isRequest := by
      intro request
      rw [next_request before request] at got
      rcases got with got | got <;> cases got
    cases moves with
    | stays _ _ same =>
      rw [same] at got
      exact (granted got).concat quiet
    | waits _ _ state | rejects _ _ state =>
      rw [state] at got
      rcases got with got | got <;> cases got
    | accepts _ waiting _ => exact ⟨inputs, [], rfl, waiting, by simp⟩
    | connects _ _ accepted _ => exact (granted (.inl accepted)).concat quiet

/-! ### Rejections -/

/-- A rejection of a request that the end waits for an answer to. -/
def Asked (link : LmpLink) (rejectedOpcode : UInt8) : Prop :=
  link.state = .connectionRequested ∧ rejectedOpcode = Opcode.hostConnectionReq

/-- Whatever the end is at, a rejection rejects it. -/
theorem next_notAccepted (link : LmpLink) {bytes : Bytes} {rejectedOpcode errorCode : UInt8}
    (read : LmpNotAccepted.parse bytes = some (rejectedOpcode, errorCode)) :
    link.next (.receive bytes) =
      { link with state := .rejected, rejectedReason := some errorCode } := by
  have heard : link.receive bytes = link.onNotAccepted bytes := by
    match bytes, read with
    | header :: _ :: _ :: _, read =>
      rw [LmpNotAccepted.parse, Option.ite_none_right_eq_some] at read
      rw [receive, read.1]
      rfl
  rw [next, answer, heard, onNotAccepted, read]

/-- A run receives a rejection, of an opcode and with a reason, where the end has come to. -/
def Refused (link : LmpLink) (inputs : List Input) (here : LmpLink) (bytes : Bytes)
    (rejectedOpcode errorCode : UInt8) : Prop :=
  ∃ earlier later, inputs = earlier ++ .receive bytes :: later ∧ here = link.after earlier ∧
    LmpNotAccepted.parse bytes = some (rejectedOpcode, errorCode)

/-- Along a run, a rejection that answers no request of this end changes neither the
state nor the reason. -/
def Unmoved (link : LmpLink) (inputs : List Input) : Prop :=
  ∀ here bytes rejectedOpcode errorCode,
    link.Refused inputs here bytes rejectedOpcode errorCode → ¬ here.Asked rejectedOpcode →
      (here.next (.receive bytes)).state = here.state ∧
        (here.next (.receive bytes)).rejectedReason = here.rejectedReason

/-- Every rejection of a run answers a request of this end, or says again why the end
is rejected already. -/
def Answering (link : LmpLink) (inputs : List Input) : Prop :=
  ∀ here bytes rejectedOpcode errorCode,
    link.Refused inputs here bytes rejectedOpcode errorCode →
      here.Asked rejectedOpcode ∨
        here.state = .rejected ∧ here.rejectedReason = some errorCode

theorem unmoved_iff (link : LmpLink) (inputs : List Input) :
    link.Unmoved inputs ↔ link.Answering inputs := by
  constructor
  · intro unmoved here bytes rejectedOpcode errorCode refused
    refine or_iff_not_imp_left.mpr fun stray => ?_
    have ⟨_, _, _, _, read⟩ := refused
    obtain ⟨state, reason⟩ := unmoved here bytes rejectedOpcode errorCode refused stray
    rw [next_notAccepted here read] at state reason
    exact ⟨state.symm, reason.symm⟩
  · intro answering here bytes rejectedOpcode errorCode refused stray
    have ⟨_, _, _, _, read⟩ := refused
    rcases answering here bytes rejectedOpcode errorCode refused with asked | ⟨state, reason⟩
    · exact absurd asked stray
    · rw [next_notAccepted here read, state, reason]
      exact ⟨rfl, rfl⟩

end LmpLink

/-- Two ends come to one result after six deliveries at most, an end that defers gets on
only as its host accepts, and a rejection changes nothing that it should not exactly in
the runs whose rejections are answers or repeat what is known. -/
theorem establishment (link : LmpLink) (features : Features) (inputs : List LmpLink.Input)
    (setup : Setup) (labels : List Label) (net : Net) :
    (Run Net.Step setup.start labels net → labels.countP Label.isDelivery ≤ 6 ∧
      (net.Quiescent → (net.node .left).state ≠ .idle →
        (net.node .right).state ≠ .connectionPending → Net.Converged net)) ∧
    (((LmpLink.deferring features).after inputs).state = .connectionAccepted ∨
        ((LmpLink.deferring features).after inputs).state = .connected →
      (LmpLink.deferring features).Granted inputs) ∧
    (link.Unmoved inputs ↔ link.Answering inputs) := by
  refine ⟨?_, ?_, link.unmoved_iff inputs⟩
  · intro run
    have bounded := Net.run_left run
    obtain rfl := Net.run_stage run
    exact ⟨by omega, Stage.converged⟩
  · intro state
    exact (LmpLink.Defers.granted ⟨rfl, rfl, LmpLinkState.noConfusion⟩ rfl inputs).2 state

theorem establishment_of_accepted :
    Net.Converged (connected.net accepting) ∧ (LmpLink.deferring (Octets.zero)).Granted
      [.receive (LmpHostConnectionReq.new 0), .call .accept] := by
  obtain ⟨converges, granted, -⟩ := establishment (LmpLink.deferring Octets.zero) Octets.zero
    [.receive (LmpHostConnectionReq.new 0), .call .accept] accepting
    [.call .left .request, .deliver .right, .deliver .left, .deliver .left, .deliver .right,
      .deliver .right, .deliver .left] (connected.net accepting)
  refine ⟨(converges accepting_connects).2 (fun side => ?_) nofun nofun, granted (.inl (by decide))⟩
  cases side <;> rfl

/-- A connected Central that is told that a feature request was not accepted. -/
def lateRejection : List LmpLink.Input :=
  [.call .request, .receive (LmpAccepted.new 0 Opcode.hostConnectionReq),
    .receive (LmpFeaturesRes.new 0 Octets.zero),
    .receive (LmpNotAccepted.new 0 Opcode.featuresReq limitedResources)]

theorem lateRejection_moves :
    ¬ ∀ inputs, (LmpLink.new .central Octets.zero).Unmoved inputs := by
  intro unmoved
  have moved := unmoved lateRejection ((LmpLink.new .central Octets.zero).after (lateRejection.take 3))
    _ Opcode.featuresReq limitedResources ⟨lateRejection.take 3, [], rfl, rfl, by decide⟩
    fun asked => absurd asked.2 (by decide)
  exact absurd moved.1 (by decide)

end Simble.Lmp
