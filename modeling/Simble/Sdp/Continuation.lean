import Simble.Sdp.Calls
import Simble.Lib.Each

/-! What continuation requests are answered with, over every run of requests. -/
namespace Simble.Sdp
open Simble.Lib SdpServer List

/-! ## Requests and what their responses carry -/

inductive RequestKind where
  | search
  | attribute
  | searchAttribute
deriving DecidableEq

namespace SdpPdu

def asks : SdpPdu → Option (RequestKind × Bytes)
  | serviceSearchRequest _ _ _ state => some (.search, state)
  | serviceAttributeRequest _ _ _ _ state => some (.attribute, state)
  | serviceSearchAttributeRequest _ _ _ _ state => some (.searchAttribute, state)
  | _ => none

def carries : SdpPdu → Option (RequestKind × Bytes)
  | serviceSearchResponse _ _ handles _ => some (.search, handles.flatMap be32)
  | serviceAttributeResponse _ list _ => some (.attribute, list)
  | serviceSearchAttributeResponse _ lists _ => some (.searchAttribute, lists)
  | _ => none

def room (peerMtu : UInt16) : SdpPdu → Nat
  | serviceAttributeRequest _ _ maximum .. => octetRoom maximum peerMtu
  | serviceSearchAttributeRequest _ _ maximum .. => octetRoom maximum peerMtu
  | _ => handleRoom peerMtu

end SdpPdu

/-- The octets of the whole answer to a request, were it not cut. -/
inductive Whole (server : SdpServer) : SdpPdu → Bytes → Prop
  | search {transactionId pattern maximum state} :
    Whole server (.serviceSearchRequest transactionId pattern maximum state)
      ((server.wholeSearch pattern maximum).flatMap be32)
  | attribute {transactionId handle maximum ids state service bytes} :
    server.serviceRecords.lookup handle = some service →
    (SdpServer.getServiceAttributes service (ids.asSequence.getD [])).toBytes = .ok bytes →
    Whole server (.serviceAttributeRequest transactionId handle maximum ids state) bytes
  | searchAttribute {transactionId pattern maximum ids state bytes} :
    (server.searchAttributes pattern ids).toBytes = .ok bytes →
    Whole server (.serviceSearchAttributeRequest transactionId pattern maximum ids state) bytes

structure Exchange where
  server : SdpServer
  request : Bytes
  peerMtu : UInt16
  response : Bytes

namespace Exchange
variable (exchange : Exchange)

def asked : Option (RequestKind × Bytes) := (SdpPdu.parse exchange.request).bind SdpPdu.asks

def fresh : Option RequestKind :=
  exchange.asked.bind fun (kind, state) => if state.length ≤ 1 then some kind else none

def given : Option (RequestKind × Bytes) := (SdpPdu.parse exchange.response).bind SdpPdu.carries

/-- The octets that the response carries, none if it is an error. -/
def octets : Bytes := (exchange.given.map Prod.snd).getD []

/-- A request that continues nothing, with its whole answer. -/
def Opens (kind : RequestKind) (whole : Bytes) : Prop :=
  exchange.fresh = some kind ∧
    ∃ pdu, SdpPdu.parse exchange.request = some pdu ∧ Whole exchange.server pdu whole

end Exchange

/-- The exchanges since the last request that continued nothing gave so much of its
answer. -/
def Answering (kind : RequestKind) (whole given : Bytes) (history : List Exchange) : Prop :=
  ∃ earlier first later, history = earlier ++ first :: later ∧ first.Opens kind whole ∧
    (∀ other ∈ later, other.fresh = none) ∧ given = (first :: later).flatMap Exchange.octets

/-- A continuation request is refused, or is given the next octets of the answer to the
last request that was no continuation, which was of the same kind. -/
def ContinuedOrRefused (earlier : List Exchange) (exchange : Exchange) : Prop :=
  ∀ kind state, exchange.asked = some (kind, state) → 1 < state.length →
    (∃ transactionId errorCode,
      SdpPdu.parse exchange.response = some (.errorResponse transactionId errorCode)) ∨
    ∃ chunk whole given, exchange.given = some (kind, chunk) ∧ chunk ≠ [] ∧
      Answering kind whole given earlier ∧ given ++ chunk <+: whole

def lastFresh (history : List Exchange) : Option RequestKind :=
  (history.filterMap Exchange.fresh).getLast?

/-- A continuation request for a pending answer is of the kind that the answer is for,
and has room for some of it. -/
def Follows (history : List Exchange) (server : SdpServer) (request : Bytes) (peerMtu : UInt16) :
    Prop :=
  ∀ pdu kind, SdpPdu.parse request = some pdu → pdu.asks = some (kind, continuationMarker) →
    server.currentResponse.isSome → lastFresh history = some kind ∧ 0 < pdu.room peerMtu

inductive Run : List Exchange → SdpServer → Prop
  | start {server} : server.currentResponse = none → Run [] server
  | register {history server} (records) : Run history server →
    Run history { server with serviceRecords := records }
  | exchange {history server after request peerMtu response} : Run history server →
    Follows history server request peerMtu →
    server.handleRequest request peerMtu = .ok (after, response) →
    Run (history ++ [⟨server, request, peerMtu, response⟩]) after

/-! ## One request -/

def Waits (kind : RequestKind) (server : SdpServer) (rest : Bytes) : Prop :=
  if kind = .search then
    ∃ total handles, server.currentResponse = some (.handles total handles) ∧
      rest = handles.flatMap be32
  else server.currentResponse = some (.bytes rest)

/-- The response carries the first of the octets, and the others wait. -/
structure Serves (kind : RequestKind) (room : Nat) (rest : Bytes) (after : SdpServer)
    (response : SdpPdu) : Prop where
  written : ∃ params, Written response params
  carries : ∃ chunk, response.carries = some (kind, chunk) ∧ (0 < room → rest ≠ [] → chunk ≠ []) ∧
    ((after.currentResponse = none ∧ chunk = rest) ∨
      ∃ others, Waits kind after others ∧ others ≠ [] ∧ chunk ++ others = rest)

theorem cut_ne_nil {α : Type} {room : Nat} {rest : List α} (positive : 0 < room)
    (filled : rest ≠ []) : cut room rest ≠ [] := by
  rw [cut, Ne, take_eq_nil_iff, not_or]
  exact ⟨positive.ne', filled⟩

open SdpPdu

section Handled
variable {server after : SdpServer} {peerMtu transactionId total : UInt16} {pdu response : SdpPdu}
  {kind : RequestKind} {state : Bytes}

theorem giveHandles_serves (rest : List UInt32) :
    Serves .search (handleRoom peerMtu) (rest.flatMap be32)
      (server.giveHandles transactionId total rest peerMtu).1
      (server.giveHandles transactionId total rest peerMtu).2 := by
  have small := peerMtu.toNat_lt
  have few : (cut (handleRoom peerMtu) rest).length ≤ handleRoom peerMtu := length_cut_le
  have ends : (stateOf (left (handleRoom peerMtu) rest)).length ≤ 2 := length_stateOf_le
  have limit : 4 * handleRoom peerMtu ≤ peerMtu.toNat - 11 := Nat.mul_div_le ..
  have fits : 4 + 4 * (cut (handleRoom peerMtu) rest).length +
      (stateOf (left (handleRoom peerMtu) rest)).length < 2 ^ 16 := by omega
  refine ⟨⟨_, written_handles transactionId total fits⟩, _, rfl, ?_, ?_⟩
  · intro positive filled empty
    have octets := length_be32s (cut (handleRoom peerMtu) rest)
    rw [empty, length_nil] at octets
    have none : cut (handleRoom peerMtu) rest = [] := length_eq_zero_iff.mp (by omega)
    refine cut_ne_nil positive ?_ none
    rintro rfl
    exact filled rfl
  · rcases Nat.lt_or_ge (handleRoom peerMtu) rest.length with more | last
    · refine .inr ⟨(rest.drop (handleRoom peerMtu)).flatMap be32, ?_, ?_, ?_⟩
      · rw [Waits, if_pos rfl, giveHandles, left_of_lt more]
        exact ⟨total, _, rfl, rfl⟩
      · intro empty
        have octets := length_be32s (rest.drop (handleRoom peerMtu))
        rw [empty, length_nil, length_drop] at octets
        omega
      · rw [← flatMap_append, cut, take_append_drop]
    · rw [giveHandles, left_of_le last, cut_of_le last]
      exact .inl ⟨rfl, rfl⟩

theorem giveBytes_serves (attributes : kind ≠ .search) {respond : Bytes → Bytes → SdpPdu}
    (maximum : UInt16) (rest : Bytes)
    (written : ∀ list state, 2 + list.length + state.length < 2 ^ 16 →
      Written (respond list state) (counted list state))
    (carries : ∀ list state, (respond list state).carries = some (kind, list)) :
    Serves kind (octetRoom maximum peerMtu) rest
      (server.giveBytes respond rest (octetRoom maximum peerMtu)).1
      (server.giveBytes respond rest (octetRoom maximum peerMtu)).2 := by
  have small := peerMtu.toNat_lt
  have few : (cut (octetRoom maximum peerMtu) rest).length ≤ octetRoom maximum peerMtu :=
    length_cut_le
  have ends : (stateOf (left (octetRoom maximum peerMtu) rest)).length ≤ 2 := length_stateOf_le
  have limit : octetRoom maximum peerMtu ≤ peerMtu.toNat - 9 := Nat.min_le_right ..
  refine ⟨⟨_, written _ _ (by omega)⟩, _, carries _ _, cut_ne_nil, ?_⟩
  rcases Nat.lt_or_ge (octetRoom maximum peerMtu) rest.length with more | last
  · refine .inr ⟨rest.drop (octetRoom maximum peerMtu), ?_, ?_, take_append_drop ..⟩
    · rw [Waits, if_neg attributes, giveBytes, left_of_lt more]
      rfl
    · rw [Ne, drop_eq_nil_iff]
      omega
  · rw [giveBytes, left_of_le last, cut_of_le last]
    exact .inl ⟨rfl, rfl⟩

theorem handlePdu_other (other : pdu.asks = none) :
    server.handlePdu pdu peerMtu =
      .ok (server, .errorResponse pdu.transactionId ErrorCode.invalidRequestSyntax) := by
  cases pdu with
  | serviceSearchRequest | serviceAttributeRequest | serviceSearchAttributeRequest => contradiction
  | errorResponse | serviceSearchResponse | serviceAttributeResponse
  | serviceSearchAttributeResponse => rfl

theorem handlePdu_refused (asked : pdu.asks = some (kind, state)) (continues : 1 < state.length)
    (unexpected : server.currentResponse.isNone ∨ state ≠ continuationMarker) :
    server.handlePdu pdu peerMtu =
      .ok (server, .errorResponse pdu.transactionId ErrorCode.invalidContinuationState) := by
  have refused : server.checkContinuation state = none := by
    rw [checkContinuation, if_pos continues, if_pos unexpected]
  cases pdu with
  | serviceSearchRequest transactionId pattern maximum other =>
    cases asked
    rw [handlePdu, onServiceSearchRequest, refused]
    rfl
  | serviceAttributeRequest transactionId handle maximum ids other =>
    cases asked
    rw [handlePdu, onServiceAttributeRequest, refused]
    rfl
  | serviceSearchAttributeRequest transactionId pattern maximum ids other =>
    cases asked
    rw [handlePdu, onServiceSearchAttributeRequest, refused]
    rfl
  | errorResponse | serviceSearchResponse | serviceAttributeResponse
  | serviceSearchAttributeResponse => contradiction

theorem handlePdu_continued {rest : Bytes} (asked : pdu.asks = some (kind, continuationMarker))
    (waits : Waits kind server rest) : ∃ after response,
      server.handlePdu pdu peerMtu = .ok (after, response) ∧
        Serves kind (pdu.room peerMtu) rest after response := by
  cases pdu with
  | serviceSearchRequest transactionId pattern maximum other =>
    cases asked
    rw [Waits, if_pos rfl] at waits
    obtain ⟨total, handles, pending, rfl⟩ := waits
    exact ⟨_, _, congrArg Except.ok (onServiceSearchRequest_pending pending),
      giveHandles_serves handles⟩
  | serviceAttributeRequest transactionId handle maximum ids other =>
    cases asked
    rw [Waits, if_neg (by decide)] at waits
    exact ⟨_, _, onServiceAttributeRequest_pending waits,
      giveBytes_serves (by decide) maximum rest (fun _ _ => written_attributes transactionId)
        fun _ _ => rfl⟩
  | serviceSearchAttributeRequest transactionId pattern maximum ids other =>
    cases asked
    rw [Waits, if_neg (by decide)] at waits
    exact ⟨_, _, onServiceSearchAttributeRequest_pending waits,
      giveBytes_serves (by decide) maximum rest (fun _ _ => written_attributeLists transactionId)
        fun _ _ => rfl⟩
  | errorResponse | serviceSearchResponse | serviceAttributeResponse
  | serviceSearchAttributeResponse => contradiction

theorem handlePdu_fresh (asked : pdu.asks = some (kind, state)) (fresh : state.length ≤ 1)
    (handled : server.handlePdu pdu peerMtu = .ok (after, response)) :
    (after.currentResponse = none ∧ ∃ errorCode, response = .errorResponse pdu.transactionId errorCode) ∨
      ∃ whole, Whole server pdu whole ∧ Serves kind (pdu.room peerMtu) whole after response := by
  cases pdu with
  | serviceSearchRequest transactionId pattern maximum other =>
    cases asked
    rw [handlePdu, onServiceSearchRequest_fresh fresh] at handled
    cases handled
    exact .inr ⟨_, .search, giveHandles_serves _⟩
  | serviceAttributeRequest transactionId handle maximum ids other =>
    cases asked
    rw [handlePdu] at handled
    cases found : server.serviceRecords.lookup handle with
    | none =>
      rw [onServiceAttributeRequest_unknown fresh found] at handled
      cases handled
      exact .inl ⟨rfl, _, rfl⟩
    | some service =>
      cases written : (getServiceAttributes service (ids.asSequence.getD [])).toBytes with
      | error stop =>
        rw [onServiceAttributeRequest, checkContinuation_fresh fresh] at handled
        simp only [Bool.false_eq_true, if_false, found, written, Rust.error_bind] at handled
        contradiction
      | ok bytes =>
        rw [onServiceAttributeRequest_fresh fresh found written] at handled
        cases handled
        exact .inr ⟨bytes, .attribute found written, giveBytes_serves (by decide) maximum bytes
          (fun _ _ => written_attributes transactionId) fun _ _ => rfl⟩
  | serviceSearchAttributeRequest transactionId pattern maximum ids other =>
    cases asked
    rw [handlePdu] at handled
    cases written : (server.searchAttributes pattern ids).toBytes with
    | error stop =>
      have same : searchAttributes { server with currentResponse := none } pattern ids =
        server.searchAttributes pattern ids := rfl
      rw [onServiceSearchAttributeRequest, checkContinuation_fresh fresh] at handled
      simp only [Bool.false_eq_true, if_false, same, written, Rust.error_bind] at handled
      contradiction
    | ok bytes =>
      rw [onServiceSearchAttributeRequest_fresh fresh written] at handled
      cases handled
      exact .inr ⟨bytes, .searchAttribute written, giveBytes_serves (by decide) maximum bytes
        (fun _ _ => written_attributeLists transactionId) fun _ _ => rfl⟩
  | errorResponse | serviceSearchResponse | serviceAttributeResponse
  | serviceSearchAttributeResponse => contradiction

end Handled

/-! ## Runs -/

open Exchange

section Runs
variable {history : List Exchange} {server after : SdpServer} {exchange : Exchange}
  {kind : RequestKind} {whole given rest : Bytes}

theorem lastFresh_snoc : lastFresh (history ++ [exchange]) =
    exchange.fresh.or (lastFresh history) := by
  unfold lastFresh
  rw [filterMap_append]
  cases fresh : exchange.fresh with
  | none => simp [fresh]
  | some kind => simp [fresh]

theorem Answering.here (opens : exchange.Opens kind whole) :
    Answering kind whole exchange.octets (history ++ [exchange]) :=
  ⟨history, exchange, [], rfl, opens, by simp, by simp⟩

theorem Answering.snoc (answering : Answering kind whole given history)
    (goesOn : exchange.fresh = none) :
    Answering kind whole (given ++ exchange.octets) (history ++ [exchange]) := by
  obtain ⟨earlier, first, later, rfl, opens, continues, rfl⟩ := answering
  refine ⟨earlier, first, later ++ [exchange], by simp, opens, ?_, by simp⟩
  intro other inside
  rcases mem_append.mp inside with inside | inside
  · exact continues other inside
  · rw [mem_singleton.mp inside]
    exact goesOn

/-- What waits at the server is the rest of the answer to the last request that was
no continuation. -/
def Held (history : List Exchange) (server : SdpServer) : Prop :=
  server.currentResponse = none ∨ ∃ kind whole given rest, lastFresh history = some kind ∧
    Answering kind whole given history ∧ Waits kind server rest ∧ rest ≠ [] ∧ given ++ rest = whole

theorem parse_of_serves {room : Nat} {bytes : Bytes} {response : SdpPdu}
    (serves : Serves kind room rest after response) (written : response.toBytes = .ok bytes) :
    parse bytes = some response := by
  obtain ⟨params, readable⟩ := serves.written
  rw [readable.toBytes] at written
  cases written
  exact readable.parse

theorem parse_error {transactionId errorCode : UInt16} {bytes : Bytes}
    (written : (errorResponse transactionId errorCode).toBytes = .ok bytes) :
    parse bytes = some (.errorResponse transactionId errorCode) := by
  have readable := written_error transactionId errorCode
  rw [readable.toBytes] at written
  cases written
  exact readable.parse

theorem Held.of_serves {room : Nat} {response : SdpPdu}
    (read : parse exchange.response = some response)
    (serves : Serves kind room rest after response)
    (last : lastFresh (history ++ [exchange]) = some kind)
    (answering : ∀ chunk, exchange.octets = chunk →
      Answering kind whole (given ++ chunk) (history ++ [exchange]))
    (split : given ++ rest = whole) : Held (history ++ [exchange]) after := by
  obtain ⟨chunk, carries, -, ends | ⟨others, waits, filled, rfl⟩⟩ := serves.carries
  · exact .inl ends.1
  · have octets : exchange.octets = chunk := by
      rw [Exchange.octets, Exchange.given, read, Option.bind_some, carries]
      rfl
    exact .inr ⟨kind, whole, given ++ chunk, others, last, answering chunk octets, waits, filled,
      by rw [append_assoc, split]⟩

theorem Held.of_error (held : Held history server)
    (same : after.currentResponse = server.currentResponse) (goesOn : exchange.fresh = none)
    (error : exchange.octets = []) : Held (history ++ [exchange]) after := by
  rcases held with none | ⟨kind, whole, given, rest, last, answering, waits, filled, split⟩
  · exact .inl (same.trans none)
  · refine .inr ⟨kind, whole, given, rest, ?_, ?_, ?_, filled, split⟩
    · rw [lastFresh_snoc, goesOn, Option.none_or, last]
    · have longer := answering.snoc goesOn
      rwa [error, append_nil] at longer
    · unfold Waits at *
      rwa [same]

theorem octets_of_error {transactionId errorCode : UInt16}
    (read : parse exchange.response = some (.errorResponse transactionId errorCode)) :
    exchange.octets = [] := by
  rw [octets, given, read]
  rfl

theorem given_of_read {answer : SdpPdu} (read : parse exchange.response = some answer) :
    exchange.given = answer.carries := by
  rw [given, read, Option.bind_some]

theorem fresh_of_asked {state : Bytes} (asked : exchange.asked = some (kind, state)) :
    exchange.fresh = if state.length ≤ 1 then some kind else none := by
  rw [fresh, asked]
  rfl

section Step
variable {request response : Bytes} {peerMtu : UInt16} {pdu answer : SdpPdu} {state : Bytes}

theorem asked_of_parse (parsed : parse request = some pdu) :
    (⟨server, request, peerMtu, response⟩ : Exchange).asked = pdu.asks := by
  rw [asked, parsed, Option.bind_some]

theorem refused_step {transactionId errorCode : UInt16} (held : Held history server)
    (goesOn : (⟨server, request, peerMtu, response⟩ : Exchange).fresh = none)
    (written : (errorResponse transactionId errorCode).toBytes = .ok response) :
    Held (history ++ [⟨server, request, peerMtu, response⟩]) server ∧
      ContinuedOrRefused history ⟨server, request, peerMtu, response⟩ := by
  have read := parse_error written
  exact ⟨held.of_error rfl goesOn (octets_of_error read), fun _ _ _ _ => .inl ⟨_, _, read⟩⟩

theorem fresh_step (parsed : parse request = some pdu)
    (asked : pdu.asks = some (kind, state)) (short : state.length ≤ 1)
    (handled : server.handlePdu pdu peerMtu = .ok (after, answer))
    (written : answer.toBytes = .ok response) :
    Held (history ++ [⟨server, request, peerMtu, response⟩]) after ∧
      ContinuedOrRefused history ⟨server, request, peerMtu, response⟩ := by
  have same : (⟨server, request, peerMtu, response⟩ : Exchange).asked = some (kind, state) :=
    (asked_of_parse parsed).trans asked
  have fresh : (⟨server, request, peerMtu, response⟩ : Exchange).fresh = some kind := by
    rw [fresh_of_asked same, if_pos short]
  refine ⟨?_, fun other longer asked' continues => ?_⟩
  · rcases handlePdu_fresh asked short handled with ⟨none, -⟩ | ⟨whole, answers, serves⟩
    · exact .inl none
    · refine Held.of_serves (parse_of_serves serves written) serves ?_ ?_
        (nil_append whole)
      · rw [lastFresh_snoc, fresh, Option.some_or]
      · rintro chunk rfl
        exact Answering.here ⟨fresh, pdu, parsed, answers⟩
  · rw [same] at asked'
    cases asked'
    omega

theorem continued_step (held : Held history server) (follows : Follows history server request peerMtu)
    (parsed : parse request = some pdu) (asked : pdu.asks = some (kind, continuationMarker))
    (pending : server.currentResponse ≠ none)
    (handled : server.handlePdu pdu peerMtu = .ok (after, answer))
    (written : answer.toBytes = .ok response) :
    Held (history ++ [⟨server, request, peerMtu, response⟩]) after ∧
      ContinuedOrRefused history ⟨server, request, peerMtu, response⟩ := by
  have same : (⟨server, request, peerMtu, response⟩ : Exchange).asked =
    some (kind, continuationMarker) := (asked_of_parse parsed).trans asked
  have goesOn : (⟨server, request, peerMtu, response⟩ : Exchange).fresh = none := by
    rw [fresh_of_asked same, if_neg (by decide)]
  obtain ⟨expected, room⟩ := follows pdu kind parsed asked (Option.isSome_iff_ne_none.mpr pending)
  rcases held with none | ⟨other, whole, given, rest, last, answering, waits, filled, split⟩
  · exact absurd none pending
  · obtain rfl : kind = other := Option.some.inj (expected.symm.trans last)
    obtain ⟨later, reply, handled', serves⟩ := @handlePdu_continued server peerMtu pdu kind rest asked waits
    rw [handled'] at handled
    cases handled
    have read := parse_of_serves serves written
    refine ⟨Held.of_serves read serves ?_ ?_ split, fun other longer asked' continues => .inr ?_⟩
    · rw [lastFresh_snoc, goesOn, Option.none_or, last]
    · rintro chunk rfl
      exact answering.snoc goesOn
    · rw [same] at asked'
      cases asked'
      obtain ⟨chunk, carries, some, cut⟩ := serves.carries
      refine ⟨chunk, whole, given, (given_of_read read).trans carries, some room filled, answering, ?_⟩
      rw [← split]
      rcases cut with ⟨-, rfl⟩ | ⟨others, -, -, rfl⟩
      · exact prefix_refl _
      · rw [← append_assoc]
        exact prefix_append ..

theorem exchange_step (held : Held history server) (follows : Follows history server request peerMtu)
    (handled : server.handleRequest request peerMtu = .ok (after, response)) :
    Held (history ++ [⟨server, request, peerMtu, response⟩]) after ∧
      ContinuedOrRefused history ⟨server, request, peerMtu, response⟩ := by
  obtain ⟨⟨after, answer⟩, responded, answered⟩ := Rust.bind_eq_ok.mp handled
  obtain ⟨bytes, written, same⟩ := Rust.bind_eq_ok.mp answered
  cases same
  cases parsed : parse request with
  | none =>
    rw [respond, parsed] at responded
    cases responded
    refine refused_step held ?_ written
    rw [fresh, Exchange.asked, parsed]
    rfl
  | some pdu =>
    rw [respond, parsed] at responded
    change server.handlePdu pdu peerMtu = _ at responded
    have same := @asked_of_parse server request response peerMtu pdu parsed
    cases asked : pdu.asks with
    | none =>
      rw [handlePdu_other asked] at responded
      cases responded
      refine refused_step held ?_ written
      rw [fresh, same, asked]
      rfl
    | some asks =>
      obtain ⟨kind, state⟩ := asks
      rcases Nat.lt_or_ge 1 state.length with continues | short
      · by_cases expected : server.currentResponse.isNone ∨ state ≠ continuationMarker
        · rw [handlePdu_refused asked continues expected] at responded
          cases responded
          refine refused_step held ?_ written
          rw [fresh_of_asked (same.trans asked), if_neg (by omega)]
        · obtain ⟨pending, marked⟩ := not_or.mp expected
          obtain rfl := not_not.mp marked
          rw [Option.isNone_iff_eq_none] at pending
          exact continued_step held follows parsed asked pending responded written
      · exact fresh_step parsed asked short responded written

end Step

theorem Run.held_and_each (run : Run history server) :
    Held history server ∧ Each ContinuedOrRefused history := by
  induction run with
  | start none => exact ⟨.inl none, Each.nil⟩
  | register records run ih => exact ⟨ih.1, ih.2⟩
  | exchange run follows handled ih =>
    obtain ⟨held, inOrder⟩ := exchange_step ih.1 follows handled
    exact ⟨held, ih.2.snoc inOrder⟩

end Runs

/-- A call whose answer fits the responses that the client waits for returns it whole, and no
response is longer than the MTU. A continuation request is refused or given the next part of the
answer to a request of its kind, over every run in which one that meets a pending answer is of its
kind and has room for more than nothing. -/
theorem continuation_is_lossless (client : SdpClient) (server : SdpServer) (peerMtu : UInt16)
    (uuids : List SdpUuid) (handle : UInt32) (ids : List AttributeIdSpec) {history : List Exchange}
    {last : SdpServer} (run : Run history last) :
    (10 ≤ peerMtu.toNat →
      FitsChunks (handleRoom peerMtu) (server.wholeSearch (encodeUuids uuids) 0xFFFF)
        ((encodeUuids uuids).encodedLen + 2) →
      Lossless (client.searchServices server peerMtu uuids)
        (.ok (server.wholeSearch (encodeUuids uuids) 0xFFFF)) peerMtu) ∧
    (∀ element bytes, server.wholeAttributes handle ids = some element →
      element.toBytes = .ok bytes →
      FitsChunks (octetRoom 0xFFFF peerMtu) bytes (6 + (encodeAttributeIdList ids).encodedLen) →
      Lossless (client.getAttributes server peerMtu handle ids) (attributesOf bytes) peerMtu) ∧
    (server.wholeAttributes handle ids = none → 7 ≤ peerMtu.toNat →
      6 + (encodeAttributeIdList ids).encodedLen + 1 < 2 ^ 16 →
      Lossless (client.getAttributes server peerMtu handle ids)
        (.error (sdpError ErrorCode.invalidServiceRecordHandle)) peerMtu) ∧
    (∀ bytes, (server.searchAttributes (encodeUuids uuids) (encodeAttributeIdList ids)).toBytes =
        .ok bytes →
      FitsChunks (octetRoom 0xFFFF peerMtu) bytes
        ((encodeUuids uuids).encodedLen + 2 + (encodeAttributeIdList ids).encodedLen) →
      Lossless (client.searchAttributes server peerMtu uuids ids) (attributeListsOf bytes) peerMtu) ∧
    Each ContinuedOrRefused history :=
  ⟨fun roomy fits => searchServices_lossless roomy fits,
    fun _ _ found written fits => getAttributes_lossless found written fits,
    fun unknown roomy fits => getAttributes_unknown unknown roomy fits,
    fun _ written fits => searchAttributes_lossless written fits, run.held_and_each.2⟩

def twoServices : SdpServer :=
  ⟨[(1, [⟨1, .uuid (.uuid16 0x1101)⟩]), (2, [⟨1, .uuid (.uuid16 0x1101)⟩])], none⟩

theorem carried_pattern : Carried (encodeUuids [.uuid16 0x1101]) [0x35, 3, 0x19, 0x11, 0x01] := by
  obtain ⟨bytes, carried, -⟩ := @carried_encodeUuids [.uuid16 0x1101] (by decide)
  have written : (encodeUuids [.uuid16 0x1101]).toBytes = .ok [0x35, 3, 0x19, 0x11, 0x01] := rfl
  rwa [Except.ok.inj (carried.written.symm.trans written)] at carried

theorem carried_first_id : Carried (encodeAttributeIdList [.single 1]) [0x35, 3, 0x09, 0x00, 0x01] := by
  obtain ⟨bytes, carried, -⟩ := @carried_encodeAttributeIdList [.single 1] (by decide)
  have written : (encodeAttributeIdList [.single 1]).toBytes =
    .ok [0x35, 3, 0x09, 0x00, 0x01] := rfl
  rwa [Except.ok.inj (carried.written.symm.trans written)] at carried

theorem written_ask (transactionId : UInt16) (state : Bytes) (short : state.length ≤ 2) :
    Written (.serviceSearchRequest transactionId (encodeUuids [.uuid16 0x1101]) 0xFFFF state)
      ([0x35, 3, 0x19, 0x11, 0x01] ++ be16 0xFFFF ++ state) :=
  written_search transactionId carried_pattern
    (Nat.lt_of_le_of_lt (Nat.add_le_add_left short 7) (by decide))

def firstAsk : Bytes := [2, 0, 0, 0, 8, 0x35, 3, 0x19, 0x11, 0x01, 0xFF, 0xFF, 0]

def secondAsk : Bytes := [2, 0, 1, 0, 9, 0x35, 3, 0x19, 0x11, 0x01, 0xFF, 0xFF, 0x01, 0x00]

theorem parse_firstAsk : parse firstAsk =
    some (.serviceSearchRequest 0 (encodeUuids [.uuid16 0x1101]) 0xFFFF [0]) :=
  (written_ask 0 [0] (by decide)).parse

theorem parse_secondAsk : parse secondAsk =
    some (.serviceSearchRequest 1 (encodeUuids [.uuid16 0x1101]) 0xFFFF continuationMarker) :=
  (written_ask 1 continuationMarker (by decide)).parse

theorem handleRequest_of_parse {server after : SdpServer} {peerMtu : UInt16} {request answer : Bytes}
    {pdu response : SdpPdu} (parsed : parse request = some pdu)
    (handled : server.handlePdu pdu peerMtu = .ok (after, response))
    (written : response.toBytes = .ok answer) :
    server.handleRequest request peerMtu = .ok (after, answer) := by
  rw [handleRequest, respond, parsed]
  simp only [handled, Rust.ok_bind, written]
  rfl

def firstHandle : Exchange :=
  ⟨twoServices, firstAsk, 15, [3, 0, 0, 0, 10, 0, 2, 0, 1, 0, 0, 0, 1, 0x01, 0x00]⟩

def secondHandle : Exchange :=
  ⟨{ twoServices with currentResponse := some (.handles 2 [2]) }, secondAsk, 15,
    [3, 0, 1, 0, 9, 0, 2, 0, 1, 0, 0, 0, 2, 0]⟩

theorem run_two_handles : Run [firstHandle, secondHandle] twoServices := by
  have opened : Run [firstHandle] secondHandle.server := by
    refine Run.exchange (.start rfl) ?_ (handleRequest_of_parse parse_firstAsk rfl rfl)
    intro pdu kind parsed asked pending
    exact absurd pending (by decide)
  refine Run.exchange opened ?_ (handleRequest_of_parse parse_secondAsk rfl rfl)
  intro pdu kind parsed asked pending
  cases parsed.symm.trans parse_secondAsk
  cases asked
  refine ⟨?_, by decide⟩
  have fresh : firstHandle.fresh = some .search := fresh_of_asked (asked_of_parse parse_firstAsk)
  rw [lastFresh, filterMap_cons, fresh]
  rfl

theorem continuation_is_lossless_two_records :
    Lossless (SdpClient.searchServices ⟨0⟩ twoServices 15 [.uuid16 0x1101]) (.ok [1, 2]) 15 ∧
      Lossless (SdpClient.getAttributes ⟨0⟩ twoServices 10 1 [.single 1])
        (attributesOf [0x35, 6, 0x09, 0x00, 0x01, 0x19, 0x11, 0x01]) 10 ∧
      Lossless (SdpClient.getAttributes ⟨0⟩ twoServices 7 3 [.single 1])
        (.error (sdpError ErrorCode.invalidServiceRecordHandle)) 7 ∧
      Lossless (SdpClient.searchAttributes ⟨0⟩ twoServices 12 [.uuid16 0x1101] [.single 1])
        (attributeListsOf [0x35, 16, 0x35, 6, 0x09, 0x00, 0x01, 0x19, 0x11, 0x01, 0x35, 6, 0x09,
          0x00, 0x01, 0x19, 0x11, 0x01]) 12 ∧
      Each ContinuedOrRefused [firstHandle, secondHandle] :=
  ⟨(continuation_is_lossless ⟨0⟩ twoServices 15 [.uuid16 0x1101] 1 [] run_two_handles).1 (by decide)
      ⟨by decide, by decide⟩,
    (continuation_is_lossless ⟨0⟩ twoServices 10 [] 1 [.single 1] run_two_handles).2.1 _ _ rfl rfl
      ⟨by decide, by decide⟩,
    (continuation_is_lossless ⟨0⟩ twoServices 7 [] 3 [.single 1] run_two_handles).2.2.1 rfl
      (by decide) (by decide),
    (continuation_is_lossless ⟨0⟩ twoServices 12 [.uuid16 0x1101] 1 [.single 1]
      run_two_handles).2.2.2.1 _ rfl ⟨by decide, by decide⟩,
    (continuation_is_lossless ⟨0⟩ twoServices 15 [] 1 [] run_two_handles).2.2.2.2⟩

/-! A continued search that meets an answer for attributes. -/

def attributesAsk : Bytes :=
  [4, 0, 0, 0, 12, 0, 0, 0, 1, 0xFF, 0xFF, 0x35, 3, 0x09, 0x00, 0x01, 0]

theorem parse_attributesAsk : parse attributesAsk =
    some (.serviceAttributeRequest 0 1 0xFFFF (encodeAttributeIdList [.single 1]) [0]) := by
  have written : Written (.serviceAttributeRequest 0 1 0xFFFF (encodeAttributeIdList [.single 1]) [0])
      (be32 1 ++ be16 0xFFFF ++ [0x35, 3, 0x09, 0x00, 0x01] ++ [0]) :=
    written_attributeRequest 0 carried_first_id (by decide)
  exact written.parse

def firstOctet : Exchange := ⟨twoServices, attributesAsk, 10, [5, 0, 0, 0, 5, 0, 1, 0x35, 0x01, 0x00]⟩

def noHandle : Exchange :=
  ⟨⟨twoServices.serviceRecords, some (.bytes [6, 0x09, 0x00, 0x01, 0x19, 0x11, 0x01])⟩,
    secondAsk, 48, [3, 0, 1, 0, 5, 0, 0, 0, 0, 0]⟩

/-- The response carries no handles, and is no error. -/
theorem continuation_gives_nothing_of_another_kind :
    firstOctet.server.handleRequest firstOctet.request firstOctet.peerMtu =
        .ok (noHandle.server, firstOctet.response) ∧
      noHandle.server.handleRequest noHandle.request noHandle.peerMtu =
        .ok (twoServices, noHandle.response) ∧
      ¬ ContinuedOrRefused [firstOctet] noHandle := by
  refine ⟨handleRequest_of_parse parse_attributesAsk rfl rfl,
    handleRequest_of_parse parse_secondAsk rfl rfl, fun inOrder => ?_⟩
  have read : SdpPdu.parse noHandle.response = some (.serviceSearchResponse 1 0 [] [0]) := rfl
  rcases inOrder .search continuationMarker (asked_of_parse parse_secondAsk) (by decide) with
    ⟨_, _, refused⟩ | ⟨chunk, whole, given, carries, filled, -, -⟩
  · cases refused.symm.trans read
  · rw [given_of_read read] at carries
    cases carries
    exact filled rfl

end Simble.Sdp
