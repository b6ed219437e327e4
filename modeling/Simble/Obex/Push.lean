import Simble.Obex.Client
import Mathlib.Algebra.Order.BigOperators.Group.List
import Simble.Obex.Transfers

/-! A client that pushes an object to a server, from the first packet to the last
response. -/
namespace Simble.Obex
open Simble.Lib Request List ReceivedObject

/-! ## One turn -/

section Turn
variable {client : ObexClient} {server after : ObexServer} {packet : Bytes} {event : ServerEvent}
  (plain : client.awaitingConnect = false)
include plain

theorem handleResponse_status (code : UInt8) :
    client.handleResponse (Response.status code).toBytes =
      if code = ResponseCode.continue then
        .ok ({ client with queued := client.queued.tail }, client.queued.head?)
      else if code = ResponseCode.success then
        if client.queued ≠ [] then
          .ok ({ client with queued := [], state := .failed ResponseCode.success }, none)
        else .ok ({ client with state := .done }, none)
      else .ok ({ client with queued := [], state := .failed code }, none) := by
  obtain ⟨state, limit, queued, awaiting⟩ := client
  cases plain
  rw [ObexClient.handleResponse, Response.parse_status]
  rfl

theorem exchange_continued {next : Bytes} {rest : List Bytes} (queued : client.queued = next :: rest)
    (handled : server.handlePacket packet = (after, Response.cont.toBytes, event)) (turns : Nat) :
    exchange (turns + 1) client server packet =
      (exchange turns { client with queued := rest } after next).map fun pushed =>
        { pushed with packets := packet :: pushed.packets } := by
  have answered := handleResponse_status plain ResponseCode.continue
  rw [if_pos rfl, queued] at answered
  rw [exchange, handled]
  simp only [Response.cont, answered]
  rfl

theorem exchange_completed (queued : client.queued = [])
    (handled : server.handlePacket packet = (after, (Response.success []).toBytes, event))
    (turns : Nat) :
    exchange (turns + 1) client server packet =
      some ⟨[packet], { client with state := .done }, after⟩ := by
  have answered := handleResponse_status plain ResponseCode.success
  rw [if_neg (by decide), if_pos rfl, if_neg (not_not.mpr queued)] at answered
  have same : (Response.success []).toBytes = (Response.status ResponseCode.success).toBytes := rfl
  rw [exchange, handled]
  simp only [same, answered]

theorem exchange_rejected {code : UInt8} (other : code ≠ ResponseCode.continue)
    (failure : code ≠ ResponseCode.success)
    (handled : server.handlePacket packet = (after, (Response.status code).toBytes, event))
    (turns : Nat) :
    exchange (turns + 1) client server packet =
      some ⟨[packet], { client with queued := [], state := .failed code }, after⟩ := by
  have answered := handleResponse_status plain code
  rw [if_neg other, if_neg failure] at answered
  rw [exchange, handled]
  simp only [answered]

end Turn

/-! ## A transfer -/

def transferPackets (front : List (List Header)) (last : List Header) : List Bytes :=
  front.map (fun headers => (Request.put false headers).toBytes) ++ [(Request.put true last).toBytes]

def Packed (headers : List Header) : Prop :=
  (∀ header ∈ headers, header.Carried) ∧ 3 + (Header.encodeAll headers).length < 2 ^ 16

theorem handlePacket_put {server : ObexServer} (session : server.connected = true) (isFinal : Bool)
    {headers : List Header} (packed : Packed headers) :
    server.handlePacket (put isFinal headers).toBytes =
      server.onPut (put isFinal headers) := by
  rw [ObexServer.handlePacket, parse_put isFinal packed.1 packed.2]
  dsimp only [ObexServer.handleRequest]
  have opcode : (put isFinal headers).opcode = Opcode.put := rfl
  rw [if_neg (by simp [session]), opcode, if_neg (by decide), if_neg (by decide), if_pos rfl]

/-- What a transfer comes to: the object that the server's and the headers make,
or nothing when it is too large. -/
def Ends (packets : List Bytes) (server : ObexServer) (object : Option ReceivedObject)
    (pushed : Pushed) : Prop :=
  match object with
  | some object => pushed.packets = packets ∧ pushed.client.state = .done ∧
      pushed.server.completed = server.completed ++ [object]
  | none => (∀ packet ∈ pushed.packets, packet ∈ packets) ∧ pushed.client.state ≠ .done ∧
      pushed.server.completed = server.completed

theorem Ends.cons {packets : List Bytes} {server after : ObexServer}
    {object : Option ReceivedObject} {pushed : Pushed} (ends : Ends packets after object pushed)
    (same : after.completed = server.completed) (packet : Bytes) :
    Ends (packet :: packets) server object
      { pushed with packets := packet :: pushed.packets } := by
  cases object with
  | none =>
    obtain ⟨sent, unfinished, kept⟩ := ends
    refine ⟨fun other inside => ?_, unfinished, kept.trans same⟩
    rcases mem_cons.mp inside with rfl | inside
    · exact mem_cons_self
    · exact mem_cons_of_mem _ (sent other inside)
  | some object =>
    obtain ⟨rfl, finished, added⟩ := ends
    exact ⟨rfl, finished, added.trans (by rw [same])⟩

theorem exchange_transfer {front : List (List Header)} {last : List Header}
    (packed : ∀ headers ∈ front, Packed headers) (packedLast : Packed last) {client : ObexClient}
    (plain : client.awaitingConnect = false) {server : ObexServer}
    (session : server.connected = true) {first : Bytes}
    (packets : first :: client.queued = transferPackets front last) :
    ∃ pushed, exchange (client.queued.length + 1) client server first = some pushed ∧
      Ends (transferPackets front last) server
        ((front.flatten ++ last).foldlM (ReceivedObject.absorb server.limits.maxObjectBytes)
          (server.inProgress.getD default)) pushed := by
  induction front generalizing client server first with
  | nil =>
    obtain ⟨rfl, queued⟩ := List.cons.inj packets
    have handled := handlePacket_put session true packedLast
    rw [ObexServer.onPut] at handled
    rw [flatten_nil, nil_append]
    split at handled
    case h_1 refused =>
      refine ⟨_, exchange_rejected plain (by decide) (by decide) handled _, ?_⟩
      rw [show last.foldlM _ _ = none from refused]
      exact ⟨by simp [transferPackets], by simp, rfl⟩
    case h_2 object absorbed =>
      refine ⟨_, exchange_completed plain queued handled _, ?_⟩
      rw [show last.foldlM _ _ = some object from absorbed]
      exact ⟨rfl, rfl, rfl⟩
  | cons headers front ih =>
    obtain ⟨rfl, queued⟩ := List.cons.inj packets
    have handled := handlePacket_put session false (packed headers mem_cons_self)
    rw [ObexServer.onPut] at handled
    rw [flatten_cons, append_assoc, foldlM_append]
    split at handled
    case h_1 refused =>
      refine ⟨_, exchange_rejected plain (by decide) (by decide) handled _, ?_⟩
      rw [show headers.foldlM _ _ = none from refused]
      exact ⟨by simp [transferPackets], by simp, rfl⟩
    case h_2 object absorbed =>
      rw [show headers.foldlM _ _ = some object from absorbed]
      obtain ⟨next, rest, more⟩ : ∃ next rest, client.queued = next :: rest := by
        rw [queued]
        cases front <;> exact ⟨_, _, rfl⟩
      have step := exchange_continued plain more handled (rest.length + 1)
      have later := @ih (fun other inside => packed other (mem_cons_of_mem _ inside))
        { client with queued := rest } plain { server with inProgress := some object } session next
        (more.symm.trans queued)
      obtain ⟨pushed, sent, ends⟩ := later
      refine ⟨{ pushed with packets := (put false headers).toBytes :: pushed.packets },
        ?_, ?_⟩
      · rw [more, length_cons, step, sent]
        rfl
      · exact Ends.cons ends rfl (put false headers).toBytes

/-! ## The packets of a push -/

def Header.IsChunk (header : Header) : Prop :=
  ∃ chunk, header = .body chunk ∨ header = .endOfBody chunk

variable {limit : Nat}

theorem absorb_chunk {object : ReceivedObject} {header : Header} (chunk : header.IsChunk) :
    object.absorb limit header =
      if limit < object.body.length + header.chunk.length then none
      else some { object with body := object.body ++ header.chunk } := by
  obtain ⟨chunk, rfl | rfl⟩ := chunk <;> rfl

open Header

theorem foldlM_absorb_chunks {headers : List Header} (chunks : ∀ header ∈ headers, header.IsChunk)
    {object : ReceivedObject} (alone : headers = [] → object.body.length ≤ limit) :
    headers.foldlM (absorb limit) object =
      if limit < object.body.length + (headers.flatMap chunk).length then none
      else some { object with body := object.body ++ headers.flatMap chunk } := by
  induction headers generalizing object with
  | nil =>
    have small := alone rfl
    rw [foldlM_nil, if_neg (by simpa using small)]
    simp only [flatMap_nil, append_nil]
    rfl
  | cons header headers ih =>
    rw [foldlM_cons, absorb_chunk (chunks header mem_cons_self), flatMap_cons,
      length_append]
    split_ifs with large later later
    · rfl
    · omega
    · rw [Option.bind_eq_bind, Option.bind_some,
      ih (fun other inside => chunks other (mem_cons_of_mem _ inside))]
      · rw [if_pos (by rw [length_append]; omega)]
      · intro
        rw [length_append]
        omega
    · rw [Option.bind_eq_bind, Option.bind_some,
      ih (fun other inside => chunks other (mem_cons_of_mem _ inside))]
      · rw [if_neg (by rw [length_append]; omega), append_assoc]
      · intro
        rw [length_append]
        omega

theorem length_encodeAll (headers : List Header) :
    (encodeAll headers).length = (headers.map encodedLen).sum :=
  length_flatMap

def WithinLimit (limit : Nat) (headers : List Header) : Prop :=
  (∀ header ∈ headers, header.Carried) ∧ 3 + (Header.encodeAll headers).length ≤ limit

theorem WithinLimit.packed (wide : limit < 2 ^ 16) {headers : List Header}
    (within : WithinLimit limit headers) : Packed headers :=
  ⟨within.1, within.2.trans_lt wide⟩

theorem withinLimit_chunk (wide : limit < 2 ^ 16) {header : Header} (chunk : header.IsChunk)
    (small : header.chunk.length + 6 ≤ limit) :
    WithinLimit limit [header] := by
  obtain ⟨chunk, rfl | rfl⟩ := chunk
  all_goals
    refine ⟨?_, ?_⟩
    · intro other inside
      cases mem_singleton.mp inside
      simp only [Header.chunk] at small
      exact show chunk.length + 3 < 2 ^ 16 by omega
    · simp only [Header.chunk] at small
      rw [length_encodeAll, map_singleton, sum_singleton, encodedLen, encode,
        length_lengthPrefixed]
      omega

theorem laterPackets_transfer {capacity limit : Nat} (room : 0 < capacity)
    (filled : capacity + 6 = limit) (wide : limit < 2 ^ 16) (rest : Bytes) :
    ∃ front last, laterPackets capacity rest = transferPackets front last ∧
      (∀ headers ∈ front, WithinLimit limit headers) ∧ WithinLimit limit last ∧
      (∀ header ∈ front.flatten ++ last, header.IsChunk) ∧
      (front.flatten ++ last).flatMap chunk = rest := by
  induction rest using laterPackets.induct capacity with
  | case1 rest more ih =>
    obtain ⟨front, last, packets, within, withinLast, chunks, whole⟩ := ih
    have first : (body (rest.take capacity)).IsChunk := ⟨_, .inl rfl⟩
    refine ⟨[.body (rest.take capacity)] :: front, last, ?_, ?_, withinLast, ?_, ?_⟩
    · rw [laterPackets, if_pos more, packets]
      rfl
    · refine forall_mem_cons.mpr ⟨withinLimit_chunk wide first ?_, within⟩
      simp only [chunk, length_take]
      omega
    · exact forall_mem_cons.mpr ⟨first, chunks⟩
    · rw [flatten_cons, singleton_append, cons_append, flatMap_cons, whole]
      exact take_append_drop capacity rest
  | case2 rest fits =>
    have last : (endOfBody rest).IsChunk := ⟨_, .inr rfl⟩
    refine ⟨[], [.endOfBody rest], ?_, by simp, withinLimit_chunk wide last ?_, ?_, ?_⟩
    · rw [laterPackets, if_neg fits]
      rfl
    · simp only [chunk]
      omega
    · simpa using last
    · simp [chunk]

section Leading
variable {name : Option String} {mimeType : Option Bytes} {body : Bytes}

theorem leadingLen_eq (name : Option String) (mimeType : Option Bytes) (body : Bytes) :
    (encodeAll (leadingHeaders name mimeType body)).length = leadingLen name mimeType body :=
  length_encodeAll _

theorem encodedLen_le {headers : List Header} {header : Header} (inside : header ∈ headers) :
    header.encodedLen ≤ (encodeAll headers).length := by
  rw [length_encodeAll]
  exact single_le_sum (by simp) _ (mem_map_of_mem inside)

theorem leadingHeaders_carried (clean : ∀ text, name = some text → '\x00' ∉ text.toList)
    (fits : leadingLen name mimeType body < 2 ^ 16) :
    ∀ header ∈ leadingHeaders name mimeType body, header.Carried := by
  intro header inside
  have short := encodedLen_le inside
  rw [leadingLen_eq] at short
  simp only [leadingHeaders, mem_append, Option.mem_toList, Option.map_eq_some_iff,
    mem_singleton] at inside
  rcases inside with (⟨text, named, rfl⟩ | ⟨bytes, typed, rfl⟩) | rfl
  · rw [encodedLen, encode, length_lengthPrefixed] at short
    exact ⟨clean text named, by omega⟩
  · rw [encodedLen, encode, length_lengthPrefixed] at short
    exact show bytes.length + 3 < 2 ^ 16 by omega
  · trivial

def labelled (held : ReceivedObject) (name : Option String) (mimeType : Option Bytes)
    (body : Bytes) : ReceivedObject :=
  ⟨name.or held.name, mimeType.or held.mimeType, some (UInt32.ofNat body.length), held.body⟩

theorem foldlM_absorb_leading (limit : Nat) (held : ReceivedObject) :
    (leadingHeaders name mimeType body).foldlM (absorb limit) held =
      some (labelled held name mimeType body) := by
  cases name <;> cases mimeType <;> rfl

theorem WithinLimit.append {limit room : Nat} {front back : List Header}
    (within : ∀ header ∈ front, header.Carried) (length : (encodeAll front).length = room)
    (later : WithinLimit (limit - room) back) (fits : room ≤ limit) :
    WithinLimit limit (front ++ back) := by
  refine ⟨?_, ?_⟩
  · intro header inside
    exact (mem_append.mp inside).elim (within header) (later.1 header)
  · rw [encodeAll, flatMap_append, length_append, ← encodeAll,
      ← encodeAll, length]
    have short := later.2
    omega

theorem putPackets_roomy (clean : ∀ text, name = some text → '\x00' ∉ text.toList)
    {maxPacketLength : UInt16} (roomy : leadingLen name mimeType body + 6 < maxPacketLength.toNat) :
    ∃ front last chunks, putPackets name mimeType body maxPacketLength = transferPackets front last ∧
      (∀ headers ∈ front, WithinLimit maxPacketLength.toNat headers) ∧
      WithinLimit maxPacketLength.toNat last ∧
      front.flatten ++ last = leadingHeaders name mimeType body ++ chunks ∧ chunks ≠ [] ∧
      (∀ header ∈ chunks, header.IsChunk) ∧ chunks.flatMap Header.chunk = body := by
  have wide := maxPacketLength.toNat_lt
  have carried := leadingHeaders_carried clean (show leadingLen name mimeType body < 2 ^ 16 by omega)
  have leading := leadingLen_eq name mimeType body
  unfold putPackets
  generalize maxPacketLength.toNat = limit at roomy wide ⊢
  generalize leadingLen name mimeType body = length at roomy leading ⊢
  rw [if_neg (by omega)]
  have within {header : Header} (chunk : header.IsChunk)
      (small : header.chunk.length + 6 ≤ limit - length) :
      WithinLimit limit (leadingHeaders name mimeType body ++ [header]) :=
    .append carried leading (withinLimit_chunk (by omega) chunk small) (by omega)
  split_ifs with fits
  · have last : (endOfBody body).IsChunk := ⟨_, .inr rfl⟩
    refine ⟨[], _, [.endOfBody body], rfl, by simp, within last ?_, rfl, by simp, ?_, ?_⟩
    · simp only [Header.chunk]
      omega
    · simpa using last
    · simp [Header.chunk]
  · have first : (Header.body (body.take (limit - (3 + length + 3)))).IsChunk := ⟨_, .inl rfl⟩
    obtain ⟨front, last, packets, each, final, chunks, whole⟩ :=
      laterPackets_transfer (show 0 < limit - (3 + 3) by omega) (by omega) wide
        (body.drop (limit - (3 + length + 3)))
    refine ⟨(leadingHeaders name mimeType body ++ [.body (body.take (limit - (3 + length + 3)))]) :: front,
      last,
      .body (body.take (limit - (3 + length + 3))) :: (front.flatten ++ last), ?_, ?_, final, ?_,
      by simp, ?_, ?_⟩
    · rw [packets]
      rfl
    · refine forall_mem_cons.mpr ⟨within first ?_, each⟩
      simp only [Header.chunk, length_take]
      omega
    · rw [flatten_cons, append_assoc, append_assoc, singleton_append]
    · exact forall_mem_cons.mpr ⟨first, chunks⟩
    · rw [flatMap_cons, whole]
      exact take_append_drop _ body

/-- What a push is to come to: no packet above the limit, and either the object on
the server as it was pushed and the client done, or neither. -/
def PushedWhole (server : ObexServer) (name : Option String) (mimeType : Option Bytes)
    (body : Bytes) (limit : Nat) (pushed : Pushed) : Prop :=
  (∀ packet ∈ pushed.packets, packet.length ≤ limit) ∧
    ((pushed.client.state = .done ∧ ∃ object : ReceivedObject,
        pushed.server.completed = server.completed ++ [object] ∧
        object.name = name ∧ object.mimeType = mimeType ∧ object.body = body ∧
        object.declaredLength.map UInt32.toNat = some body.length) ∨
      (pushed.client.state ≠ .done ∧ pushed.server.completed = server.completed))

/-- What the server holds of an earlier transfer does not show in the names. -/
def Unseen (held : ReceivedObject) (name : Option String) (mimeType : Option Bytes) : Prop :=
  (name = none → held.name = none) ∧ (mimeType = none → held.mimeType = none)

/-- There is room for an octet of the body beside the metadata, and the server
holds nothing that mixes in, or so much that it refuses the body; or the metadata
alone fits and the body is what the server holds. -/
def Pushable (server : ObexServer) (name : Option String) (mimeType : Option Bytes) (body : Bytes)
    (limit : Nat) : Prop :=
  let held := server.inProgress.getD default
  if leadingLen name mimeType body + 6 < limit then
    server.limits.maxObjectBytes < held.body.length + body.length ∨
      (held.body = [] ∧ Unseen held name mimeType ∧ body.length < 2 ^ 32)
  else leadingLen name mimeType body + 3 ≤ limit ∧ held.body = body ∧ Unseen held name mimeType ∧
    body.length < 2 ^ 32

theorem or_eq_left {α : Type} {value held : Option α} :
    value.or held = value ↔ (value = none → held = none) := by
  cases value <;> simp

theorem toNat_ofNat_eq {length : Nat} :
    (some (UInt32.ofNat length)).map UInt32.toNat = some length ↔ length < 2 ^ 32 := by
  rw [Option.map_some, Option.some_inj, UInt32.toNat_ofNat', Nat.mod_eq_iff_lt (by decide)]

theorem same_labelled {held : ReceivedObject} {whole : Bytes} :
    ((labelled held name mimeType body).name = name ∧
      (labelled held name mimeType body).mimeType = mimeType ∧ whole = body ∧
      (labelled held name mimeType body).declaredLength.map UInt32.toNat = some body.length) ↔
    whole = body ∧ Unseen held name mimeType ∧ body.length < 2 ^ 32 := by
  rw [labelled, or_eq_left, or_eq_left, toNat_ofNat_eq, Unseen]
  tauto

/-- Without such room there is one packet, of the metadata. -/
theorem putPackets_alone {maxPacketLength : UInt16}
    (tight : ¬ leadingLen name mimeType body + 6 < maxPacketLength.toNat) :
    putPackets name mimeType body maxPacketLength =
      transferPackets [] (leadingHeaders name mimeType body) := by
  unfold putPackets
  rw [if_pos (.inl (by omega))]
  rfl

theorem pushedWhole_of_completed {server : ObexServer} {limit : Nat} {pushed : Pushed}
    {object : ReceivedObject} (finished : pushed.client.state = .done)
    (completed : pushed.server.completed = server.completed ++ [object]) :
    PushedWhole server name mimeType body limit pushed ↔
      (∀ packet ∈ pushed.packets, packet.length ≤ limit) ∧ object.name = name ∧
        object.mimeType = mimeType ∧ object.body = body ∧
        object.declaredLength.map UInt32.toNat = some body.length := by
  refine and_congr_right fun _ => ⟨?_, fun same => .inl ⟨finished, object, completed, same⟩⟩
  rintro (⟨-, other, added, same⟩ | ⟨unfinished, -⟩)
  · cases append_cancel_left (completed.symm.trans added)
    exact same
  · exact absurd finished unfinished

end Leading

theorem mem_transferPackets {front : List (List Header)} {last : List Header}
    (within : ∀ headers ∈ front, WithinLimit limit headers) (withinLast : WithinLimit limit last)
    {packet : Bytes} (inside : packet ∈ transferPackets front last) : packet.length ≤ limit := by
  rcases mem_append.mp inside with inside | inside
  · obtain ⟨headers, listed, rfl⟩ := mem_map.mp inside
    rw [length_put]
    exact (within headers listed).2
  · rw [mem_singleton.mp inside, length_put]
    exact withinLast.2

theorem handleResponse_next {client after : ObexClient} {response : Bytes} {next : Option Bytes}
    (queued : client.queued = []) (answered : client.handleResponse response = .ok (after, next)) :
    next = none := by
  unfold ObexClient.handleResponse at answered
  rw [queued] at answered
  cases parsed : Response.parse response client.awaitingConnect with
  | error =>
    rw [parsed] at answered
    contradiction
  | ok read =>
    rw [parsed] at answered
    simp only [bind, Except.bind] at answered
    split_ifs at answered <;> cases answered <;> rfl

theorem exchange_alone {client : ObexClient} (queued : client.queued = []) (server : ObexServer)
    (packet : Bytes) :
    ∃ pushed, exchange 1 client server packet = some pushed ∧ pushed.packets = [packet] := by
  rw [exchange]
  dsimp only
  split
  case h_1 after next answered => exact absurd (handleResponse_next queued answered) (by simp)
  case h_2 => exact ⟨_, rfl, rfl⟩
  case h_3 => exact ⟨_, rfl, rfl⟩

theorem push_transfer (client : ObexClient) {server : ObexServer}
    (session : server.connected = true) {name : Option String} {mimeType : Option Bytes}
    {body : Bytes} {maxPacketLength : UInt16} {front : List (List Header)} {last : List Header}
    (packets : putPackets name mimeType body maxPacketLength = transferPackets front last)
    (packed : ∀ headers ∈ front, Packed headers) (packedLast : Packed last) :
    ∃ pushed, push client server name mimeType body maxPacketLength = some pushed ∧
      Ends (transferPackets front last) server
        ((front.flatten ++ last).foldlM (absorb server.limits.maxObjectBytes)
          (server.inProgress.getD default)) pushed := by
  have sent := @exchange_transfer front last packed packedLast
    (client.put name mimeType body maxPacketLength).1 rfl server session
    (client.put name mimeType body maxPacketLength).2
  apply sent
  rw [← packets]
  dsimp only [ObexClient.put]
  rw [packets]
  cases front <;> rfl

/-- A push ends, and comes to what it is to come to exactly when it is pushable. -/
theorem push_end_to_end (client : ObexClient) {server : ObexServer}
    (session : server.connected = true) {name : Option String}
    (clean : ∀ text, name = some text → '\x00' ∉ text.toList) (mimeType : Option Bytes)
    (body : Bytes) (maxPacketLength : UInt16) :
    ∃ pushed, push client server name mimeType body maxPacketLength = some pushed ∧
      (PushedWhole server name mimeType body maxPacketLength.toNat pushed ↔
        Pushable server name mimeType body maxPacketLength.toNat) := by
  have wide := maxPacketLength.toNat_lt
  unfold Pushable
  by_cases roomy : leadingLen name mimeType body + 6 < maxPacketLength.toNat
  · rw [if_pos roomy]
    obtain ⟨front, last, chunks, packets, within, withinLast, headers, nonempty, each, whole⟩ :=
      putPackets_roomy clean roomy
    obtain ⟨pushed, sent, ends⟩ := push_transfer client session packets
      (fun headers inside => (within headers inside).packed wide) (withinLast.packed wide)
    refine ⟨pushed, sent, ?_⟩
    rw [headers, foldlM_append, foldlM_absorb_leading, Option.bind_eq_bind, Option.bind_some,
      foldlM_absorb_chunks each (fun empty => absurd empty nonempty), whole] at ends
    split_ifs at ends with large
    · obtain ⟨inside, unfinished, kept⟩ := ends
      exact iff_of_true ⟨fun packet mem => mem_transferPackets within withinLast (inside packet mem),
        .inr ⟨unfinished, kept⟩⟩ (.inl large)
    · obtain ⟨same, finished, completed⟩ := ends
      have small : ¬ server.limits.maxObjectBytes <
        (server.inProgress.getD default).body.length + body.length := large
      have short : ∀ packet ∈ pushed.packets, packet.length ≤ maxPacketLength.toNat :=
        fun packet mem => mem_transferPackets within withinLast (same ▸ mem)
      rw [pushedWhole_of_completed finished completed, or_iff_right small, and_iff_right short]
      exact same_labelled.trans (and_congr_left fun _ => append_left_eq_self)
  · rw [if_neg roomy]
    have packets := putPackets_alone roomy
    obtain fits | long := Nat.lt_or_ge maxPacketLength.toNat (leadingLen name mimeType body + 3)
    · have queued : (client.put name mimeType body maxPacketLength).1.queued = [] := by
        dsimp only [ObexClient.put]
        rw [packets]
        rfl
      have first : (client.put name mimeType body maxPacketLength).2 =
          (Request.put true (leadingHeaders name mimeType body)).toBytes := by
        dsimp only [ObexClient.put]
        rw [packets]
        rfl
      obtain ⟨pushed, sent, alone⟩ := exchange_alone queued server
        (client.put name mimeType body maxPacketLength).2
      refine ⟨pushed, ?_, iff_of_false (fun whole => ?_) (fun fit => absurd fit.1 (by omega))⟩
      · dsimp only [push]
        rw [queued]
        exact sent
      · have short := whole.1 _ (alone ▸ mem_singleton_self _)
        rw [first, Request.length_put, leadingLen_eq] at short
        omega
    · have packed : Packed (leadingHeaders name mimeType body) :=
        ⟨leadingHeaders_carried clean (by omega), by rw [leadingLen_eq]; omega⟩
      obtain ⟨pushed, sent, ends⟩ := push_transfer client session packets (by simp) packed
      rw [flatten_nil, nil_append, foldlM_absorb_leading] at ends
      obtain ⟨same, finished, completed⟩ := ends
      have short : ∀ packet ∈ pushed.packets, packet.length ≤ maxPacketLength.toNat := by
        intro packet mem
        rw [same] at mem
        rw [mem_singleton.mp mem, Request.length_put, leadingLen_eq]
        omega
      refine ⟨pushed, sent, ?_⟩
      rw [pushedWhole_of_completed finished completed, and_iff_right short, and_iff_right long]
      exact same_labelled

def idleClient : ObexClient := ⟨.connected, 0x2000, [], false⟩

def connectedServer : ObexServer :=
  { ObexServer.new .optional ⟨0x2000, 16⟩ with connected := true }

theorem push_end_to_end_in_pieces :
    ∃ pushed, push idleClient connectedServer (some "a") none [1, 2, 3] 0x14 = some pushed ∧
      (PushedWhole connectedServer (some "a") none [1, 2, 3] 0x14 pushed ↔
        Pushable connectedServer (some "a") none [1, 2, 3] 0x14) :=
  push_end_to_end idleClient rfl (by rintro _ ⟨⟩; decide) none [1, 2, 3] 0x14

/-- At eleven octets to a packet there is no room for the body's one octet: an
empty object is completed, and the client is done. -/
theorem push_drops_body_at_tight_limit :
    ∃ pushed, push idleClient connectedServer none none [0x41] 11 = some pushed ∧
      pushed.client.state = .done ∧
      pushed.server.completed = [⟨none, none, some 1, []⟩] ∧
      ¬ PushedWhole connectedServer none none [0x41] 11 pushed := by
  have tight : ¬ leadingLen none none [0x41] + 6 < (11 : UInt16).toNat := by decide
  have packed : Packed (leadingHeaders none none [0x41]) :=
    ⟨leadingHeaders_carried (by rintro _ ⟨⟩) (by decide), by decide⟩
  obtain ⟨pushed, sent, ends⟩ :=
    @push_transfer idleClient connectedServer rfl none none [0x41] 11 [] _ (putPackets_alone tight)
      (by simp) packed
  rw [flatten_nil, nil_append, foldlM_absorb_leading] at ends
  obtain ⟨-, finished, completed⟩ := ends
  refine ⟨pushed, sent, finished, completed, fun whole => ?_⟩
  rw [pushedWhole_of_completed finished completed] at whole
  exact absurd whole.2.2.2.1 (by decide)

end Simble.Obex
