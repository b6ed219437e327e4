import Simble.Lib.Pieces
import Simble.Classic.AvrcpCodecs

/-! AVRCP PDUs split into packets and put together again (`classic/avrcp.rs`). -/
namespace Simble.Avrcp
open Lib List

namespace PduType

def single : UInt8 := 0b00
def start : UInt8 := 0b01
def continue' : UInt8 := 0b10
def end' : UInt8 := 0b11

end PduType

def packetType (index last : Nat) : UInt8 :=
  if index = last then if index = 0 then PduType.single else PduType.end'
  else if index = 0 then PduType.start
  else PduType.continue'

def packet (pduId packetType : UInt8) (chunk : Bytes) : Bytes :=
  [pduId, packetType] ++ (count16 chunk.length ++ chunk)

def writePdu (pduId : UInt8) (parameters : Bytes) (maxParameterSize : Nat) : List Bytes :=
  let size : ℕ+ := ⟨max maxParameterSize 1, Nat.lt_of_lt_of_le Nat.one_pos (Nat.le_max_right _ 1)⟩
  let chunks := if parameters = [] then [[]] else pieces size parameters
  let last := chunks.length - 1
  chunks.mapIdx fun index chunk => packet pduId (packetType index last) chunk

structure PduAssembler where
  pduId : Option UInt8
  parameters : Bytes
  idle : pduId = none → parameters = []

open PduType

namespace PduAssembler

def new : PduAssembler := ⟨none, [], fun _ => rfl⟩

def begun (pduId : UInt8) (parameters : Bytes) : PduAssembler :=
  ⟨some pduId, parameters, fun none => by cases none⟩

def onPdu (assembler : PduAssembler) (pdu : Bytes) : PduAssembler × Option (UInt8 × Bytes) :=
  match pdu with
  | pduId :: kind :: high :: low :: body =>
    let packetType := kind &&& 3
    let length := ofBe [high, low]
    if body.length < length then (new, none)
    else
      let parameter := body.take length
      let begins := packetType = PduType.single ∨ packetType = PduType.start
      let ends := packetType = PduType.single ∨ packetType = PduType.end'
      -- A fragmented PDU that was never terminated is dropped.
      let assembler := if begins ∧ assembler.pduId.isSome then new else assembler
      if ¬ begins ∧ assembler.pduId ≠ some pduId then (new, none)
      else
        let parameters := assembler.parameters ++ parameter
        if ends then (new, some (pduId, parameters)) else (begun pduId parameters, none)
  | _ => (assembler, none)

/-- What each of the packets gives. -/
def feed (assembler : PduAssembler) : List Bytes → PduAssembler × List (Option (UInt8 × Bytes))
  | [] => (assembler, [])
  | pdu :: pdus =>
    let (next, given) := assembler.onPdu pdu
    let (last, later) := feed next pdus
    (last, given :: later)

/-! ## Packets -/

theorem packet_eq (pduId packetType : UInt8) {chunk : Bytes} (fits : chunk.length ≤ 65535) :
    ∃ high low, packet pduId packetType chunk = pduId :: packetType :: high :: low :: chunk ∧
      ofBe [high, low] = chunk.length := by
  have size : (UInt16.ofNat chunk.length).toNat = chunk.length :=
    UInt16.toNat_ofNat_of_lt (Nat.lt_succ_of_le fits)
  obtain ⟨high, low, octets⟩ := List.length_eq_two.mp (length_toBe 2 chunk.length)
  refine ⟨high, low, ?_, ?_⟩
  · simp only [packet, count16, be16, size, octets]
    rfl
  · rw [← octets]
    exact ofBe_toBe_of_lt (Nat.lt_succ_of_le fits)

variable (assembler : PduAssembler) (pduId : UInt8) {chunk : Bytes}

theorem mask_start : (1 : UInt8) &&& 3 = 1 := by decide
theorem mask_continue : (2 : UInt8) &&& 3 = 2 := by decide

theorem onPdu_single (fits : chunk.length ≤ 65535) :
    assembler.onPdu (packet pduId single chunk) = (new, some (pduId, chunk)) := by
  obtain ⟨high, low, octets, size⟩ := packet_eq pduId single fits
  obtain ⟨old, parameters, idle⟩ := assembler
  rw [octets]
  cases old with
  | none =>
    cases idle rfl
    simp [onPdu, size, single]
  | some old => simp [onPdu, size, single, new]

theorem onPdu_start (fits : chunk.length ≤ 65535) :
    assembler.onPdu (packet pduId start chunk) = (begun pduId chunk, none) := by
  obtain ⟨high, low, octets, size⟩ := packet_eq pduId start fits
  obtain ⟨old, parameters, idle⟩ := assembler
  rw [octets]
  cases old with
  | none =>
    cases idle rfl
    simp [onPdu, size, single, start, end', mask_start]
  | some old => simp [onPdu, size, single, start, end', mask_start, new]

theorem onPdu_continue (parameters : Bytes) (fits : chunk.length ≤ 65535) :
    (begun pduId parameters).onPdu (packet pduId continue' chunk) =
      (begun pduId (parameters ++ chunk), none) := by
  obtain ⟨high, low, octets, size⟩ := packet_eq pduId continue' fits
  rw [octets]
  simp [onPdu, size, single, start, continue', end', mask_continue,
    begun]

theorem onPdu_end (parameters : Bytes) (fits : chunk.length ≤ 65535) :
    (begun pduId parameters).onPdu (packet pduId end' chunk) =
      (new, some (pduId, parameters ++ chunk)) := by
  obtain ⟨high, low, octets, size⟩ := packet_eq pduId end' fits
  rw [octets]
  simp [onPdu, size, single, start, end', begun]

/-! ## Runs -/

/-- The packets behind the first: nothing until the last of them. -/
theorem feed_rest (parameters : Bytes) {middle : List Bytes} {last : Bytes}
    (fits : ∀ chunk ∈ middle ++ [last], chunk.length ≤ 65535) :
    (begun pduId parameters).feed
        (middle.map (packet pduId continue') ++ [packet pduId end' last]) =
      (new, List.replicate middle.length none ++
        [some (pduId, parameters ++ (middle ++ [last]).flatten)]) := by
  induction middle generalizing parameters with
  | nil =>
    have one := onPdu_end pduId parameters (fits last (by simp))
    simp [feed, one]
  | cons chunk middle ih =>
    rw [cons_append, forall_mem_cons] at fits
    have first := onPdu_continue pduId parameters fits.1
    have later := ih (parameters ++ chunk) fits.2
    rw [map_cons, cons_append, feed, first]
    simp only [later, length_cons, replicate_succ, cons_append, flatten_cons,
      append_assoc]

end PduAssembler

theorem mapIdx_eq_map {α β : Type} {f : Nat → α → β} {g : α → β} {values : List α}
    (same : ∀ index < values.length, ∀ value, f index value = g value) :
    values.mapIdx f = values.map g := by
  apply ext_getElem
  · simp
  · intro index inside _
    rw [getElem_mapIdx, getElem_map]
    exact same index (by simpa using inside) _

theorem packets_of_chunks (pduId : UInt8) (first last : Bytes) (middle : List Bytes) :
    ((first :: (middle ++ [last])).mapIdx fun index chunk =>
        packet pduId (packetType index ((first :: (middle ++ [last])).length - 1)) chunk) =
      packet pduId start first ::
        (middle.map (packet pduId continue') ++ [packet pduId end' last]) := by
  have size : (first :: (middle ++ [last])).length - 1 = middle.length + 1 := by simp
  rw [size, mapIdx_cons, mapIdx_append]
  congr 1
  congr 1
  · refine mapIdx_eq_map fun index inside chunk => ?_
    have apart : index + 1 ≠ middle.length + 1 := by omega
    rw [packetType, if_neg apart, if_neg (Nat.succ_ne_zero index)]
  · simp [packetType]

open PduAssembler

theorem feed_pieces (assembler : PduAssembler) (pduId : UInt8) {size : ℕ+} {parameters : Bytes}
    (some' : parameters ≠ []) (fits : min (size : ℕ) parameters.length ≤ 65535) :
    let chunks := pieces size parameters
    assembler.feed (chunks.mapIdx fun index chunk =>
        packet pduId (packetType index (chunks.length - 1)) chunk) =
      (.new, List.replicate (chunks.length - 1) none ++ [some (pduId, parameters)]) := by
  intro chunks
  obtain ⟨whole, each⟩ := pieces_spec size parameters
  have short : ∀ chunk ∈ chunks, chunk.length ≤ 65535 := by
    intro chunk inside
    have one := (each chunk inside).2
    have within : chunk.length ≤ parameters.length := by
      rw [← whole]
      exact (sublist_flatten_of_mem inside).length_le
    exact (Nat.le_min.mpr ⟨one, within⟩).trans fits
  change chunks.flatten = parameters at whole
  clear_value chunks
  cases chunks with
  | nil => exact absurd whole.symm some'
  | cons first rest =>
    rw [← whole]
    obtain rfl | ⟨middle, last, rfl⟩ := eq_nil_or_concat rest
    · have one := onPdu_single assembler pduId (short first mem_cons_self)
      simp [PduAssembler.feed, packetType, one]
    · rw [concat_eq_append] at short ⊢
      rw [forall_mem_cons] at short
      have begins := onPdu_start assembler pduId short.1
      have later := feed_rest pduId first short.2
      rw [packets_of_chunks, PduAssembler.feed, begins]
      simp only [later]
      simp [replicate_succ]

/-- A PDU that is split is put together again, at its last packet and not before. -/
theorem feed_writePdu (assembler : PduAssembler) (pduId : UInt8) {parameters : Bytes}
    {maxParameterSize : Nat} (fits : min (max maxParameterSize 1) parameters.length ≤ 65535) :
    assembler.feed (writePdu pduId parameters maxParameterSize) =
      (.new, List.replicate ((writePdu pduId parameters maxParameterSize).length - 1) none ++
        [some (pduId, parameters)]) := by
  unfold writePdu
  by_cases empty : parameters = []
  · have one := @PduAssembler.onPdu_single assembler pduId [] (by simp)
    simp [PduAssembler.feed, packetType, one, empty]
  · simp only [if_neg empty, length_mapIdx]
    exact feed_pieces assembler pduId empty fits

/-- A packet whose length is one more than its field can say is read as one without parameters. -/
theorem feed_too_long {parameters : Bytes} (size : parameters.length = 65536) (pduId : UInt8) :
    (new.feed (writePdu pduId parameters 65536)).2 = [some (pduId, [])] := by
  have some' : parameters ≠ [] := ne_nil_of_length_pos (by omega)
  have octets : packet pduId single parameters = pduId :: 0 :: 0 :: 0 :: parameters := by
    unfold packet count16
    rw [size]
    rfl
  have length : ofBe [0, 0] = 0 := rfl
  have one : pieces (⟨max 65536 1, by decide⟩ : ℕ+) parameters = [parameters] :=
    pieces_of_le (by omega) size.le
  unfold writePdu
  simp only [if_neg some', one]
  show (new.feed [packet pduId single parameters]).2 = _
  rw [octets]
  simp [PduAssembler.feed, onPdu, new, length, single]

/-- Commands, responses with company ids of 24 bits and events are read back, and PDUs whose
packets can say their lengths are put together again. -/
theorem parameters_recovered {command : Command} (commandFits : command.Fits) {response : Response}
    (responseFits : response.Fits) (narrow : response.Narrow) {event : Event}
    (eventFits : event.Fits) (assembler : PduAssembler) (pduId : UInt8) {parameters : Bytes} {n : Nat}
    (positive : 1 ≤ n) (short : min n parameters.length ≤ 65535) :
    Command.parse command.pduId command.toParameters = some command ∧
    Response.parse response.pduId response.toParameters = some response ∧
    Event.parse event.toBytes = some event ∧
    assembler.feed (writePdu pduId parameters n) =
      (.new, List.replicate ((writePdu pduId parameters n).length - 1) none ++
        [some (pduId, parameters)]) := by
  refine ⟨map_fst_of_recovers (Command.recovers commandFits),
    Response.parse_toParameters responseFits narrow, Event.parse_toBytes eventFits, ?_⟩
  apply feed_writePdu
  rw [Nat.max_eq_left positive]
  exact short

theorem parameters_recovered_short :
    Command.parse PduId.getElementAttributes
        (Command.getElementAttributes 0 [1]).toParameters = some (.getElementAttributes 0 [1]) ∧
    Response.parse PduId.getCapabilities
        (Response.getCapabilities (.companyIds [0x1958])).toParameters =
      some (.getCapabilities (.companyIds [0x1958])) ∧
    Event.parse (Event.generic 0x06 [1]).toBytes = some (.generic 0x06 [1]) ∧
    PduAssembler.new.feed (writePdu 0x20 [1, 2, 3] 2) =
      (.new, List.replicate ((writePdu 0x20 [1, 2, 3] 2).length - 1) none ++
        [some (0x20, [1, 2, 3])]) := by
  have one : (Command.getElementAttributes 0 [1]).Fits := by
    show [1].length ≤ 255
    decide
  have ids : (Response.getCapabilities (.companyIds [0x1958])).Fits := by
    show [(0x1958 : UInt32)].length ≤ 255
    decide
  have narrow : (Response.getCapabilities (.companyIds [0x1958])).Narrow := by
    intro id listed
    rw [List.mem_singleton.mp listed]
    decide
  have generic : (Event.generic 0x06 [1]).Fits := by
    show (0x06 : UInt8) ∉ _
    decide
  exact parameters_recovered one ids narrow generic .new 0x20 (by decide) (by decide)

/-- A company id of 25 bits loses the first of them, and a packet of 65536 octets all of them. -/
theorem parameters_lost :
    Response.parse PduId.getCapabilities
        (Response.getCapabilities (.companyIds [0x1000000])).toParameters ≠
      some (.getCapabilities (.companyIds [0x1000000])) ∧
    (PduAssembler.new.feed (writePdu 0x20 (List.replicate 65536 0) 65536)).2 ≠
      [some (0x20, List.replicate 65536 0)] := by
  constructor
  · decide
  · rw [feed_too_long List.length_replicate]
    intro same
    have none : [] = List.replicate 65536 (0 : UInt8) :=
      (Prod.mk.inj (Option.some.inj (List.cons.inj same).1)).2
    have lengths := congrArg List.length none
    rw [List.length_replicate] at lengths
    cases lengths

end Simble.Avrcp
