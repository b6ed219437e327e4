import Mathlib.Data.List.DropRight
import Simble.Lib.Each
import Simble.Lib.Run
import Simble.Obex.Wire

/-! What an OBEX server puts together from the packets of one transfer, over
every sequence of packets. -/
namespace Simble.Obex
open Simble.Lib ReceivedObject ObexServer List

structure Exchange where
  packet : Bytes
  response : Bytes
  event : ServerEvent
deriving DecidableEq

def Handles (server : ObexServer) (exchange : Exchange) (after : ObexServer) : Prop :=
  server.handlePacket exchange.packet = (after, exchange.response, exchange.event)

/-! ## What a completed object is to be -/

def Header.chunk : Header → Bytes
  | .body chunk | .endOfBody chunk => chunk
  | _ => []

def assembled (headers : List Header) : ReceivedObject where
  name := (headers.filterMap fun | .name name => some name | _ => none).getLast?
  mimeType := (headers.filterMap fun | .type mime => some mime | _ => none).getLast?
  declaredLength := (headers.filterMap fun | .length length => some length | _ => none).getLast?
  body := headers.flatMap Header.chunk

def Exchange.continues (exchange : Exchange) : Bool :=
  exchange.response.head? = some ResponseCode.continue

/-- The exchanges since the last response other than Continue. -/
def sinceOther (history : List Exchange) : List Exchange := history.rtakeWhile Exchange.continues

def IsPut (isFinal : Bool) (exchange : Exchange) (request : Request) : Prop :=
  Request.parse exchange.packet = .ok request ∧ request.opcode = Opcode.put ∧
    request.isFinal = isFinal

def WholeTransfer (earlier : List Exchange) (last : Exchange) (object : ReceivedObject) : Prop :=
  ∃ requests request, List.Forall₂ (IsPut false) earlier requests ∧ IsPut true last request ∧
    object = assembled (requests.flatMap Request.headers ++ request.headers)

def WholeTransfers : List Exchange → Prop :=
  Each fun earlier exchange => ∀ object, exchange.event = .objectReceived object →
    WholeTransfer (sinceOther earlier) exchange object

/-! ## Sessions -/

def sessionAfter (connected : Bool) : ServerEvent → Bool
  | .connected => true
  | .disconnected => false
  | _ => connected

/-- Whether a CONNECT came that no DISCONNECT followed. -/
def inSession (history : List Exchange) : Bool :=
  history.foldl (fun connected exchange => sessionAfter connected exchange.event) false

def completedObject : ServerEvent → Option ReceivedObject
  | .objectReceived object => some object
  | _ => none

def CompletesInSession : List Exchange → Prop :=
  Each fun earlier exchange => completedObject exchange.event ≠ none → inSession earlier = true

/-! ## One packet -/

inductive Outcome (server : ObexServer) (packet : Bytes) : ObexServer → Bytes → ServerEvent → Prop
    where
  | unread (unread : ∀ request, Request.parse packet ≠ .ok request) :
      Outcome server packet server (Response.status ResponseCode.badRequest).toBytes
        (.rejected ResponseCode.badRequest)
  | continued {request : Request} {object : ReceivedObject}
      (read : Request.parse packet = .ok request) (put : request.opcode = Opcode.put)
      (final : request.isFinal = false)
      (absorbed : request.headers.foldlM (ReceivedObject.absorb server.limits.maxObjectBytes)
        (server.inProgress.getD default) = some object) :
      Outcome server packet { server with inProgress := some object } Response.cont.toBytes
        .continued
  | completed {request : Request} {object : ReceivedObject}
      (read : Request.parse packet = .ok request) (put : request.opcode = Opcode.put)
      (final : request.isFinal = true)
      (absorbed : request.headers.foldlM (ReceivedObject.absorb server.limits.maxObjectBytes)
        (server.inProgress.getD default) = some object)
      (session : server.policy = .required → server.connected = true) :
      Outcome server packet
        { server with inProgress := none, completed := server.completed ++ [object] }
        (Response.success []).toBytes (.objectReceived object)
  | dropped (connected : Bool) (peer : Option UInt16) {response : Bytes} {event : ServerEvent}
      (other : response.head? ≠ some ResponseCode.continue) (none : completedObject event = none)
      (session : connected = sessionAfter server.connected event) :
      Outcome server packet
        { server with connected := connected, inProgress := .none, peerMaxPacketLength := peer }
        response event

theorem not_continue {response : Response} (other : response.code ≠ ResponseCode.continue) :
    response.toBytes.head? ≠ some ResponseCode.continue := fun same => other (Option.some.inj same)

theorem success_ne_continue : ResponseCode.success ≠ ResponseCode.continue := by decide

theorem reject_outcome (server : ObexServer) (packet : Bytes) {code : UInt8}
    (other : code ≠ ResponseCode.continue) :
    Outcome server packet (server.reject code).1 (server.reject code).2.1 (server.reject code).2.2 :=
  .dropped server.connected server.peerMaxPacketLength
    (not_continue other) rfl rfl

theorem handlePacket_outcome (server : ObexServer) (packet : Bytes) :
    Outcome server packet (server.handlePacket packet).1 (server.handlePacket packet).2.1
      (server.handlePacket packet).2.2 := by
  unfold handlePacket
  cases read : Request.parse packet with
  | error error =>
    refine .unread fun request parsed => ?_
    rw [read] at parsed
    contradiction
  | ok request =>
    dsimp only [handleRequest]
    split
    · exact reject_outcome server packet (by decide)
    case isFalse allowed =>
    split
    · exact .dropped true _ (not_continue success_ne_continue) rfl rfl
    case isFalse notConnect =>
    split
    · exact .dropped false server.peerMaxPacketLength (not_continue success_ne_continue) rfl rfl
    split
    case isTrue put =>
      have session (required : server.policy = .required) : server.connected = true := by
        by_contra out
        refine allowed ⟨required, Bool.eq_false_iff.mpr out, notConnect, ?_⟩
        rw [put]
        decide
      dsimp only [onPut]
      split
      · exact reject_outcome server packet (by decide)
      case h_2 object absorbed =>
        split
        case isTrue final => exact .completed read put final absorbed session
        case isFalse final =>
          exact .continued read put (Bool.eq_false_iff.mpr final) absorbed
    split
    · exact .dropped server.connected server.peerMaxPacketLength (not_continue success_ne_continue) rfl rfl
    · exact reject_outcome server packet (by decide)

/-! ## Over a run -/

variable {limit : Nat}

theorem absorb_body {object next : ReceivedObject} {header : Header}
    (absorbed : object.absorb limit header = some next) (small : object.body.length ≤ limit) :
    next.body.length ≤ limit := by
  unfold absorb at absorbed
  split at absorbed
  case h_4 | h_5 =>
    split_ifs at absorbed with large
    cases absorbed
    rw [length_append]
    exact Nat.le_of_not_lt large
  all_goals
    cases absorbed
    exact small

theorem foldlM_absorb_body {headers : List Header} {object next : ReceivedObject}
    (absorbed : headers.foldlM (absorb limit) object = some next)
    (small : object.body.length ≤ limit) : next.body.length ≤ limit := by
  induction headers generalizing object with
  | nil =>
    cases absorbed
    exact small
  | cons header headers ih =>
    rw [foldlM_cons] at absorbed
    obtain ⟨middle, first, rest⟩ := Option.bind_eq_some_iff.mp absorbed
    exact ih rest (absorb_body first small)

theorem absorb_assembled {earlier : List Header} {header : Header} {next : ReceivedObject}
    (absorbed : (assembled earlier).absorb limit header = some next) :
    next = assembled (earlier ++ [header]) := by
  cases header with
  | body chunk | endOfBody chunk =>
    rw [absorb] at absorbed
    split_ifs at absorbed
    cases absorbed
    simp [assembled, Header.chunk]
  | name | type | length | target | who | connectionId | appParameters | authChallenge
  | authResponse | singleResponseMode | count | description | other =>
    cases absorbed
    simp [assembled, Header.chunk]

theorem foldlM_absorb_assembled {headers earlier : List Header} {next : ReceivedObject}
    (absorbed : headers.foldlM (absorb limit) (assembled earlier) = some next) :
    next = assembled (earlier ++ headers) := by
  induction headers generalizing earlier with
  | nil =>
    cases absorbed
    rw [append_nil]
  | cons header headers ih =>
    rw [foldlM_cons] at absorbed
    obtain ⟨middle, first, rest⟩ := Option.bind_eq_some_iff.mp absorbed
    cases absorb_assembled first
    have whole := ih rest
    rwa [append_assoc] at whole

/-- What a server keeps true of itself, whatever it is handed. -/
structure Kept (policy : SessionPolicy) (limits : ServerLimits) (history : List Exchange)
    (server : ObexServer) : Prop where
  samePolicy : server.policy = policy
  sameLimits : server.limits = limits
  bounded : ∀ object, server.inProgress = some object → object.body.length ≤ limits.maxObjectBytes
  connected : server.connected = inSession history
  completed : server.completed = history.filterMap fun exchange => completedObject exchange.event
  session : policy = .required → CompletesInSession history

variable {history : List Exchange}

theorem kept_step {policy : SessionPolicy} {limits : ServerLimits} {server after : ObexServer}
    {exchange : Exchange} (kept : Kept policy limits history server)
    (handled : Handles server exchange after) :
    Kept policy limits (history ++ [exchange]) after := by
  obtain ⟨packet, response, event⟩ := exchange
  have outcome := handlePacket_outcome server packet
  rw [handled] at outcome
  have small : (server.inProgress.getD default).body.length ≤ limits.maxObjectBytes := by
    cases held : server.inProgress with
    | none => exact Nat.zero_le _
    | some object => exact kept.bounded object held
  have session (next : completedObject event = none ∨ inSession history = true)
      (required : policy = .required) : CompletesInSession (history ++ [⟨packet, response, event⟩]) := by
    exact (kept.session required).snoc fun completes => next.resolve_left completes
  have connected : inSession (history ++ [⟨packet, response, event⟩]) =
      sessionAfter (inSession history) event := by
    rw [inSession, foldl_append]
    rfl
  have objects : (history ++ [(⟨packet, response, event⟩ : Exchange)]).filterMap
      (fun exchange : Exchange => completedObject exchange.event) =
        server.completed ++ (completedObject event).toList := by
    rw [filterMap_append, ← kept.completed]
    apply congrArg (server.completed ++ ·)
    cases completed : completedObject event <;> simp [completed]
  rw [← kept.connected] at connected
  cases outcome with
  | unread =>
    exact ⟨kept.samePolicy, kept.sameLimits, kept.bounded, connected.symm,
      (objects.trans (append_nil _)).symm, session (.inl rfl)⟩
  | continued read put final absorbed =>
    rw [kept.sameLimits] at absorbed
    refine ⟨kept.samePolicy, kept.sameLimits, ?_, connected.symm,
      (objects.trans (append_nil _)).symm, session (.inl rfl)⟩
    rintro object ⟨⟩
    exact foldlM_absorb_body absorbed small
  | completed read put final absorbed allowed =>
    refine ⟨kept.samePolicy, kept.sameLimits, by rintro _ ⟨⟩, connected.symm, objects.symm,
      fun required => session (.inr ?_) required⟩
    rw [← kept.connected]
    exact allowed (kept.samePolicy.trans required)
  | dropped now peer other nothing same =>
    rw [nothing] at objects
    exact ⟨kept.samePolicy, kept.sameLimits, by rintro _ ⟨⟩, same.trans connected.symm,
      (objects.trans (append_nil _)).symm, session (.inl nothing)⟩

/-- No packet that cannot be parsed comes while a transfer is in progress. -/
def Readable (server : ObexServer) (exchange : Exchange) : Prop :=
  server.inProgress = none ∨ ∃ request, Request.parse exchange.packet = .ok request

/-- The object in progress is what the packets since the last other response
carry. -/
def Held (history : List Exchange) (server : ObexServer) : Prop :=
  ∃ requests, List.Forall₂ (IsPut false) (sinceOther history) requests ∧
    server.inProgress.getD default = assembled (requests.flatMap Request.headers)

theorem sinceOther_continue {exchange : Exchange}
    (continues : exchange.response.head? = some ResponseCode.continue) :
    sinceOther (history ++ [exchange]) = sinceOther history ++ [exchange] :=
  rtakeWhile_concat_pos _ _ _ (decide_eq_true continues)

theorem sinceOther_other {exchange : Exchange}
    (other : exchange.response.head? ≠ some ResponseCode.continue) :
    sinceOther (history ++ [exchange]) = [] :=
  rtakeWhile_concat_neg _ _ _ (fun same => other (of_decide_eq_true same))

theorem held_of_other {exchange : Exchange} {server : ObexServer}
    (other : exchange.response.head? ≠ some ResponseCode.continue)
    (empty : server.inProgress = none) : Held (history ++ [exchange]) server := by
  refine ⟨[], ?_, by rw [empty]; rfl⟩
  rw [sinceOther_other other]
  exact .nil

theorem held_step {server after : ObexServer} {exchange : Exchange}
    (held : Held history server ∧ WholeTransfers history)
    (handled : Guarded Readable Handles server exchange after) :
    Held (history ++ [exchange]) after ∧ WholeTransfers (history ++ [exchange]) := by
  obtain ⟨readable, handled⟩ := handled
  obtain ⟨⟨requests, earlier, object⟩, whole⟩ := held
  obtain ⟨packet, response, event⟩ := exchange
  have outcome := handlePacket_outcome server packet
  rw [handled] at outcome
  have uncompleted (nothing : completedObject event = none) :
      WholeTransfers (history ++ [⟨packet, response, event⟩]) := by
    refine whole.snoc fun object completes => ?_
    rw [show event = _ from completes] at nothing
    contradiction
  cases outcome with
  | unread unread =>
    refine ⟨held_of_other (not_continue (by decide)) ?_, uncompleted rfl⟩
    exact readable.resolve_right fun ⟨request, read⟩ => unread request read
  | @continued request next read put final absorbed =>
    rw [object] at absorbed
    refine ⟨⟨requests ++ [request], ?_, ?_⟩, uncompleted rfl⟩
    · rw [sinceOther_continue rfl]
      exact rel_append earlier (.cons ⟨read, put, final⟩ .nil)
    · rw [flatMap_append, flatMap_singleton]
      exact foldlM_absorb_assembled absorbed
  | completed read put final absorbed =>
    rw [object] at absorbed
    refine ⟨held_of_other (not_continue success_ne_continue) rfl, whole.snoc ?_⟩
    rintro _ ⟨⟩
    exact ⟨requests, _, earlier, ⟨read, put, final⟩, foldlM_absorb_assembled absorbed⟩
  | dropped connected peer other nothing =>
    exact ⟨held_of_other other rfl, uncompleted nothing⟩

/-- In every run in which no unreadable packet comes during a transfer, a completed object is what
the packets since the last response other than Continue carry. In every run, what is in progress
stays within the limit, and under a required session nothing is completed outside of one. -/
theorem transfers_do_not_mix (policy : SessionPolicy) (limits : ServerLimits) :
    (∀ history server,
      Run (Guarded Readable Handles) (.new policy limits) history server →
        WholeTransfers history) ∧
    ∀ history server, Run Handles (.new policy limits) history server →
      (∀ object, server.inProgress = some object → object.body.length ≤ limits.maxObjectBytes) ∧
      server.completed = (history.filterMap fun exchange => completedObject exchange.event) ∧
      (policy = .required → CompletesInSession history) := by
  refine ⟨fun history server run => ?_, fun history server run => ?_⟩
  · have held : Held history server ∧ WholeTransfers history := by
      refine run.invariant (P := fun history server => Held history server ∧ WholeTransfers history)
        ⟨⟨[], .nil, rfl⟩, .nil⟩ held_step
    exact held.2
  · have kept : Kept policy limits history server := by
      refine run.invariant (P := Kept policy limits) ⟨rfl, rfl, by rintro _ ⟨⟩, rfl, rfl, fun _ => .nil⟩ kept_step
    exact ⟨kept.bounded, kept.completed, kept.session⟩

/-- Whatever packets come, no object that the server holds is beyond the limit. -/
theorem objects_bounded (policy : SessionPolicy) (limits : ServerLimits) (history : List Exchange)
    (server : ObexServer) (run : Run Handles (.new policy limits) history server) :
    ∀ object ∈ server.completed ++ server.inProgress.toList,
      object.body.length ≤ limits.maxObjectBytes := by
  have all : Kept policy limits history server ∧
      ∀ object ∈ server.completed, object.body.length ≤ limits.maxObjectBytes := by
    refine run.invariant (P := fun history server => Kept policy limits history server ∧
      ∀ object ∈ server.completed, object.body.length ≤ limits.maxObjectBytes)
      ⟨⟨rfl, rfl, by rintro _ ⟨⟩, rfl, rfl, fun _ => .nil⟩, fun _ inside => by cases inside⟩ ?_
    rintro history server ⟨packet, response, event⟩ after ⟨kept, small⟩ handled
    refine ⟨kept_step kept handled, ?_⟩
    have outcome := handlePacket_outcome server packet
    rw [handled] at outcome
    cases outcome with
    | completed read put final absorbed allowed =>
      intro object inside
      rcases mem_append.mp inside with inside | inside
      · exact small object inside
      · rw [mem_singleton.mp inside]
        rw [kept.sameLimits] at absorbed
        apply foldlM_absorb_body absorbed
        cases held : server.inProgress with
        | none => exact Nat.zero_le _
        | some object => exact kept.bounded object held
    | _ => exact small
  intro object inside
  rcases mem_append.mp inside with inside | inside
  · exact all.2 object inside
  · exact all.1.bounded object (Option.mem_toList.mp inside)

section Runs

def firstPart : Exchange :=
  ⟨(Request.put false [.body [0x41]]).toBytes, Response.cont.toBytes, .continued⟩

def tooShort : Exchange :=
  ⟨[0x02], (Response.status ResponseCode.badRequest).toBytes, .rejected ResponseCode.badRequest⟩

def lastPart : Exchange :=
  ⟨(Request.put true [.endOfBody [0x42]]).toBytes, (Response.success []).toBytes,
    .objectReceived ⟨none, none, none, [0x41, 0x42]⟩⟩

def holding : ObexServer :=
  { ObexServer.new .optional ⟨0x2000, 16⟩ with inProgress := some ⟨none, none, none, [0x41]⟩ }

def finished : ObexServer :=
  { ObexServer.new .optional ⟨0x2000, 16⟩ with completed := [⟨none, none, none, [0x41, 0x42]⟩] }

theorem handles_put {server after : ObexServer} {isFinal : Bool} {headers : List Header}
    {response : Bytes} {event : ServerEvent} (carried : ∀ header ∈ headers, header.Carried)
    (fits : 3 + (Header.encodeAll headers).length < 2 ^ 16)
    (handled : server.handleRequest (Request.put isFinal headers) = (after, response, event)) :
    Handles server ⟨(Request.put isFinal headers).toBytes, response, event⟩ after := by
  rw [Handles, handlePacket, Request.parse_put isFinal carried fits]
  exact handled

theorem handles_firstPart : Handles (.new .optional ⟨0x2000, 16⟩) firstPart holding :=
  handles_put (by simp [Header.Carried]) (by decide) (by decide)

theorem handles_lastPart : Handles holding lastPart finished :=
  handles_put (by simp [Header.Carried]) (by decide) (by decide)

theorem objects_bounded_two_parts :
    (finished.completed ++ finished.inProgress.toList).all (·.body.length ≤ 16) :=
  all_eq_true.mpr fun object inside => decide_eq_true <|
    objects_bounded .optional ⟨0x2000, 16⟩ [firstPart, lastPart] finished
      ((Run.nil.snoc handles_firstPart).snoc handles_lastPart) object inside

theorem transfers_do_not_mix_two_parts : WholeTransfers [firstPart, lastPart] :=
  (transfers_do_not_mix .optional ⟨0x2000, 16⟩).1 _ finished
    ((Run.nil.snoc ⟨.inl rfl, handles_firstPart⟩).snoc
      ⟨.inr ⟨_, Request.parse_put true (by simp [Header.Carried]) (by decide)⟩, handles_lastPart⟩)

/-- One octet of one object is sent, then a packet that is too short, then the one
octet of another object: both octets are in it. -/
theorem unreadable_packet_mixes_transfers :
    Run Handles (.new .optional ⟨0x2000, 16⟩) [firstPart, tooShort, lastPart] finished ∧
      ¬ WholeTransfers [firstPart, tooShort, lastPart] := by
  have refused : Handles holding tooShort holding := rfl
  refine ⟨((Run.nil.snoc handles_firstPart).snoc refused).snoc handles_lastPart, fun whole => ?_⟩
  obtain ⟨requests, request, earlier, last, object⟩ :=
    whole [firstPart, tooShort] lastPart [] rfl ⟨none, none, none, [0x41, 0x42]⟩ rfl
  rw [show sinceOther [firstPart, tooShort] = [] by decide] at earlier
  cases earlier
  have read := last.1
  rw [lastPart, Request.parse_put true (by simp [Header.Carried]) (by decide)] at read
  cases read
  exact absurd object (by decide)

end Runs

end Simble.Obex
