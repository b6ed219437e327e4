import Mathlib.Tactic.IntervalCases
import Simble.Octets
import Simble.Lib.Feed
import Simble.Lib.Pieces

/-! AVCTP messages (`classic/avctp.rs`): packets that fit the peer's MTU, cut and put together
again. Both sides let the octet that counts packets saturate, so a message of any length gets
through. -/
namespace Simble.Avctp
open List

inductive PacketType where
  | single
  | start
  | continue
  | end
deriving DecidableEq, Repr

namespace PacketType

def fromBits (bits : UInt8) : PacketType :=
  match (bits &&& 3).toNat with
  | 0 => .single
  | 1 => .start
  | 2 => .continue
  | _ => .end

def asBits : PacketType → UInt8
  | .single => 0
  | .start => 1
  | .continue => 2
  | .end => 3

end PacketType

structure Message where
  transactionLabel : UInt8
  isCommand : Bool
  ipid : Bool
  pid : UInt16
  payload : Bytes
deriving DecidableEq, Repr

def headerByte (transactionLabel : UInt8) (packetType : PacketType) (isCommand ipid : Bool) :
    UInt8 :=
  (transactionLabel <<< 4) ||| (packetType.asBits <<< 2) ||| (bit (!isCommand) <<< 1) ||| bit ipid

theorem headerByte_fields {label : UInt8} (small : label < 16) (packetType : PacketType)
    (isCommand ipid : Bool) :
    headerByte label packetType isCommand ipid >>> 4 = label ∧
    PacketType.fromBits (headerByte label packetType isCommand ipid >>> 2) = packetType ∧
    ((headerByte label packetType isCommand ipid >>> 1) &&& 1 == 0) = isCommand ∧
    (headerByte label packetType isCommand ipid &&& 1 != 0) = ipid := by
  have bounded : label.toNat < 16 := small
  have same : label = UInt8.ofNat label.toNat := by simp
  generalize label.toNat = value at bounded same
  subst same
  interval_cases value <;> cases packetType <;> cases isCommand <;> cases ipid <;> decide

/-! ## Writing -/

section Writing
variable (transactionLabel : UInt8) (isCommand ipid : Bool)

/-- The loop of `write_message`: what the start packet left over, in packets
with `restCapacity` octets each. -/
def writeRest (restCapacity : ℕ+) (remaining : Bytes) : List Bytes :=
  if remaining = [] then [] else
  let take := min restCapacity.val remaining.length
  let packetType := if take = remaining.length then .end else .continue
  (headerByte transactionLabel packetType isCommand ipid :: remaining.take take) ::
    writeRest restCapacity (remaining.drop take)
termination_by remaining.length
decreasing_by
  rename_i nonempty
  have : 0 < remaining.length := length_pos_iff.mpr nonempty
  have := restCapacity.pos
  simp only [length_drop]
  omega

def writeMessage (pid : UInt16) (payload : Bytes) (peerMtu : UInt16) : List Bytes :=
  let mtu := max peerMtu.toNat 5
  if 3 + payload.length ≤ mtu then
    [headerByte transactionLabel .single isCommand ipid :: U16.toBeBytes pid ++ payload]
  else
    let firstCapacity := mtu - 4
    let restCapacity : ℕ+ := ⟨mtu - 1, by omega⟩
    -- The packet-count field is one byte, so saturate.
    let numberOfPackets :=
      UInt8.ofNat (min (1 + Lib.divCeil (payload.length - firstCapacity) restCapacity) 255)
    (headerByte transactionLabel .start isCommand ipid :: numberOfPackets ::
      U16.toBeBytes pid ++ payload.take firstCapacity) ::
    writeRest transactionLabel isCommand ipid restCapacity (payload.drop firstCapacity)

end Writing

/-! ## Reassembly -/

structure MessageAssembler where
  inProgress : Bool := false
  transactionLabel : UInt8 := 0
  isCommand : Bool := false
  ipid : Bool := false
  pid : UInt16 := 0
  payload : Bytes := []
  numberOfPackets : UInt8 := 0
  packetsReceived : Nat := 0
deriving DecidableEq, Repr

namespace MessageAssembler

/-- `MessageAssembler::new`, and what `reset` leaves. -/
def new : MessageAssembler := {}

variable (assembler : MessageAssembler)

/-- The arm of `on_pdu` for a continue or end packet. -/
def extend (transactionLabel : UInt8) (isCommand : Bool) (last : Bool) (data : Bytes) :
    MessageAssembler × Option Message :=
  if !assembler.inProgress || transactionLabel != assembler.transactionLabel ||
      isCommand != assembler.isCommand ||
      assembler.packetsReceived > assembler.numberOfPackets.toNat then (new, none) else
  let payload := assembler.payload ++ data
  if !last then ({ assembler with payload }, none) else
  -- A premature end drops the message.
  if assembler.packetsReceived ≠ assembler.numberOfPackets.toNat then (new, none) else
  (new, some ⟨assembler.transactionLabel, assembler.isCommand, assembler.ipid, assembler.pid,
    payload⟩)

def onPdu (pdu : Bytes) : MessageAssembler × Option Message :=
  let assembler :=
    { assembler with packetsReceived := U8.saturatingAdd assembler.packetsReceived 1 }
  match pdu with
  | [] => (assembler, none)
  | first :: rest =>
    let transactionLabel := first >>> 4
    let isCommand := (first >>> 1) &&& 1 == 0
    let ipid := first &&& 1 != 0
    -- IPID is only meaningful in responses.
    if isCommand && ipid then (new, none) else
    match PacketType.fromBits (first >>> 2) with
    | .single => match rest with
      | high :: low :: payload =>
        (new, some ⟨transactionLabel, isCommand, ipid, U16.fromBeBytes high low, payload⟩)
      | _ => (new, none)
    | .start => match rest with
      | [] => ({ new with packetsReceived := 1 }, none)
      | numberOfPackets :: high :: low :: payload =>
        (⟨true, transactionLabel, isCommand, ipid, U16.fromBeBytes high low, payload,
          numberOfPackets, 1⟩, none)
      | numberOfPackets :: _ => ({ new with packetsReceived := 1, numberOfPackets }, none)
    | .continue => assembler.extend transactionLabel isCommand false rest
    | .end => assembler.extend transactionLabel isCommand true rest

def onPdus : MessageAssembler → List Bytes → MessageAssembler × List (Option Message) :=
  Lib.feed (m := Id) onPdu

end MessageAssembler

/-! ## Round trip -/

open MessageAssembler

section RoundTrip
variable {label : UInt8} {isCommand ipid : Bool} {pid : UInt16}

theorem onPdu_single (assembler : MessageAssembler) (small : label < 16)
    (permitted : (isCommand && ipid) = false) (payload : Bytes) :
    assembler.onPdu (headerByte label .single isCommand ipid :: U16.toBeBytes pid ++ payload) =
      (.new, some ⟨label, isCommand, ipid, pid, payload⟩) := by
  obtain ⟨sameLabel, sameType, sameCommand, sameIpid⟩ :=
    headerByte_fields small .single isCommand ipid
  simp [onPdu, U16.toBeBytes, sameLabel, sameType, sameCommand, sameIpid,
    permitted]

theorem onPdu_start (assembler : MessageAssembler) (small : label < 16)
    (permitted : (isCommand && ipid) = false) (number : UInt8) (data : Bytes) :
    assembler.onPdu
        (headerByte label .start isCommand ipid :: number :: U16.toBeBytes pid ++ data) =
      (⟨true, label, isCommand, ipid, pid, data, number, 1⟩, none) := by
  obtain ⟨sameLabel, sameType, sameCommand, sameIpid⟩ :=
    headerByte_fields small .start isCommand ipid
  simp [onPdu, U16.toBeBytes, sameLabel, sameType, sameCommand, sameIpid,
    permitted]

theorem onPdu_continue (small : label < 16) (permitted : (isCommand && ipid) = false)
    {number : UInt8} {received : Nat} (within : U8.saturatingAdd received 1 ≤ number.toNat)
    (payload data : Bytes) :
    (⟨true, label, isCommand, ipid, pid, payload, number, received⟩ : MessageAssembler).onPdu
        (headerByte label .continue isCommand ipid :: data) =
      (⟨true, label, isCommand, ipid, pid, payload ++ data, number, U8.saturatingAdd received 1⟩,
        none) := by
  obtain ⟨sameLabel, sameType, sameCommand, sameIpid⟩ :=
    headerByte_fields small .continue isCommand ipid
  simp [onPdu, extend, sameLabel, sameType, sameCommand,
    sameIpid, permitted, Nat.not_lt.mpr within]

theorem onPdu_end (small : label < 16) (permitted : (isCommand && ipid) = false)
    {number : UInt8} {received : Nat} (complete : U8.saturatingAdd received 1 = number.toNat)
    (payload data : Bytes) :
    (⟨true, label, isCommand, ipid, pid, payload, number, received⟩ : MessageAssembler).onPdu
        (headerByte label .end isCommand ipid :: data) =
      (.new, some ⟨label, isCommand, ipid, pid, payload ++ data⟩) := by
  obtain ⟨sameLabel, sameType, sameCommand, sameIpid⟩ :=
    headerByte_fields small .end isCommand ipid
  simp [onPdu, extend, sameLabel, sameType, sameCommand,
    sameIpid, permitted, complete]

variable (label isCommand ipid) (restCapacity : ℕ+)

theorem writeRest_last {remaining : Bytes} (nonempty : remaining ≠ [])
    (fits : remaining.length ≤ restCapacity) :
    writeRest label isCommand ipid restCapacity remaining =
      [headerByte label .end isCommand ipid :: remaining] := by
  rw [writeRest, if_neg nonempty]
  simp only [Nat.min_eq_right fits, if_true, take_length, drop_length]
  rw [writeRest, if_pos rfl]

theorem writeRest_more {remaining : Bytes} (exceeds : restCapacity < remaining.length) :
    writeRest label isCommand ipid restCapacity remaining =
      (headerByte label .continue isCommand ipid :: remaining.take restCapacity) ::
        writeRest label isCommand ipid restCapacity (remaining.drop restCapacity) := by
  have nonempty : remaining ≠ [] := by
    rintro rfl
    simp at exceeds
  rw [writeRest, if_neg nonempty]
  simp only [Nat.min_eq_left exceeds.le, exceeds.ne, if_false]

theorem writeRest_length (remaining : Bytes) (nonempty : remaining ≠ []) :
    (writeRest label isCommand ipid restCapacity remaining).length =
      Lib.divCeil remaining.length restCapacity := by
  induction remaining using Lib.piecewise restCapacity with
  | last remaining fits =>
    rw [writeRest_last label isCommand ipid restCapacity nonempty fits, length_singleton,
      Lib.divCeil_of_le (length_pos_iff.mpr nonempty) fits]
  | more remaining exceeds ih =>
    have rest : remaining.drop restCapacity ≠ [] := by simpa using exceeds
    rw [writeRest_more label isCommand ipid restCapacity exceeds, length_cons, ih rest,
      length_drop, Lib.divCeil_of_lt restCapacity.pos exceeds]

theorem writeRest_bounded (remaining : Bytes) (nonempty : remaining ≠ []) :
    ∀ packet ∈ writeRest label isCommand ipid restCapacity remaining,
      packet.length ≤ restCapacity + 1 := by
  induction remaining using Lib.piecewise restCapacity with
  | last remaining fits =>
    rw [writeRest_last label isCommand ipid restCapacity nonempty fits]
    simpa using fits
  | more remaining exceeds ih =>
    have rest : remaining.drop restCapacity ≠ [] := by simpa using exceeds
    rw [writeRest_more label isCommand ipid restCapacity exceeds]
    refine forall_mem_cons.mpr ?_
    constructor
    · simp
    · exact ih rest

/-- The receiver that holds the data up to here takes the rest. Its counters saturate in step with
the sender's. -/
theorem onPdus_writeRest (pid : UInt16) (small : label < 16)
    (permitted : (isCommand && ipid) = false) {number : UInt8} {received : Nat}
    (payload remaining : Bytes) (nonempty : remaining ≠ [])
    (counted : U8.saturatingAdd received
      (writeRest label isCommand ipid restCapacity remaining).length = number.toNat) :
    onPdus ⟨true, label, isCommand, ipid, pid, payload, number, received⟩
        (writeRest label isCommand ipid restCapacity remaining) =
      (.new, Lib.once (writeRest label isCommand ipid restCapacity remaining).length
        ⟨label, isCommand, ipid, pid, payload ++ remaining⟩) := by
  induction remaining using Lib.piecewise restCapacity generalizing payload received with
  | last remaining fits =>
    rw [writeRest_last label isCommand ipid restCapacity nonempty fits] at counted ⊢
    exact Lib.feed_step (m := Id) (onPdu_end small permitted counted _ _) rfl
  | more remaining exceeds ih =>
    have rest : remaining.drop restCapacity ≠ [] := by simpa using exceeds
    rw [writeRest_more label isCommand ipid restCapacity exceeds] at counted ⊢
    have further : 0 < (writeRest label isCommand ipid restCapacity
        (remaining.drop restCapacity)).length := by
      rw [writeRest_length label isCommand ipid restCapacity _ rest]
      exact Lib.divCeil_pos restCapacity.pos (length_pos_iff.mpr rest)
    have within : U8.saturatingAdd received 1 ≤ number.toNat := by
      rw [← counted, length_cons]
      unfold U8.saturatingAdd
      omega
    have later : U8.saturatingAdd (U8.saturatingAdd received 1)
        (writeRest label isCommand ipid restCapacity (remaining.drop restCapacity)).length =
          number.toNat := by
      rw [← counted, length_cons]
      unfold U8.saturatingAdd
      omega
    have done := ih (payload ++ remaining.take restCapacity) rest later
    rw [append_assoc, take_append_drop] at done
    rw [length_cons, Lib.once_succ further]
    exact Lib.feed_step (m := Id) (onPdu_continue small permitted within _ _) done

end RoundTrip

/-- Whatever came before, the packets of a message are put together to that
message at the last of them, and each fits the MTU. -/
theorem message_round_trip (assembler : MessageAssembler) {label : UInt8} (isCommand ipid : Bool)
    (pid : UInt16) (payload : Bytes) {peerMtu : UInt16} (small : label < 16)
    (permitted : ¬(isCommand ∧ ipid)) (room : 5 ≤ peerMtu) :
    (∀ packet ∈ writeMessage label isCommand ipid pid payload peerMtu,
      packet.length ≤ peerMtu.toNat) ∧
    assembler.onPdus (writeMessage label isCommand ipid pid payload peerMtu) =
      (.new, Lib.once (writeMessage label isCommand ipid pid payload peerMtu).length
        ⟨label, isCommand, ipid, pid, payload⟩) := by
  have allowed : (isCommand && ipid) = false := by simpa using permitted
  have room : 5 ≤ peerMtu.toNat := room
  unfold writeMessage
  simp only [Nat.max_eq_left room]
  split
  case isTrue fits =>
    constructor
    · simp only [U16.toBeBytes, mem_singleton, forall_eq, length_append, length_cons,
        length_nil]
      omega
    · exact Lib.feed_step (m := Id) (onPdu_single assembler small allowed payload) rfl
  case isFalse exceeds =>
    set capacity : ℕ+ := ⟨peerMtu.toNat - 1, by omega⟩ with capacityEq
    have size : (capacity : Nat) = peerMtu.toNat - 1 := rfl
    have rest : payload.drop (peerMtu.toNat - 4) ≠ [] := by
      apply ne_nil_of_length_pos
      rw [length_drop]
      omega
    have count := writeRest_length label isCommand ipid capacity _ rest
    rw [length_drop] at count
    constructor
    · refine forall_mem_cons.mpr ?_
      constructor
      · simp [U16.toBeBytes]
        omega
      · intro packet listed
        have := writeRest_bounded label isCommand ipid capacity _ rest packet listed
        omega
    · have further : 0 < (writeRest label isCommand ipid capacity
          (payload.drop (peerMtu.toNat - 4))).length := by
        rw [count]
        exact Lib.divCeil_pos capacity.pos (by omega)
      have counted : U8.saturatingAdd 1 (writeRest label isCommand ipid capacity
          (payload.drop (peerMtu.toNat - 4))).length =
            (UInt8.ofNat (min (1 + Lib.divCeil (payload.length - (peerMtu.toNat - 4)) capacity)
              255)).toNat := by
        rw [count, UInt8.toNat_ofNat']
        unfold U8.saturatingAdd
        omega
      have done := onPdus_writeRest label isCommand ipid capacity pid small allowed
        (payload.take (peerMtu.toNat - 4)) _ rest counted
      rw [take_append_drop] at done
      rw [length_cons, Lib.once_succ further]
      exact Lib.feed_step (m := Id) (onPdu_start assembler small allowed _ _) done

theorem message_round_trip_fragments :
    (∀ packet ∈ writeMessage 3 false true 0x110E [1, 2, 3, 4, 5, 6, 7, 8] 6, packet.length ≤ 6) ∧
    (⟨true, 9, true, false, 0x110E, [7], 3, 2⟩ : MessageAssembler).onPdus
        (writeMessage 3 false true 0x110E [1, 2, 3, 4, 5, 6, 7, 8] 6) =
      (.new, Lib.once (writeMessage 3 false true 0x110E [1, 2, 3, 4, 5, 6, 7, 8] 6).length
        ⟨3, false, true, 0x110E, [1, 2, 3, 4, 5, 6, 7, 8]⟩) :=
  message_round_trip _ false true 0x110E _ (by decide) (by decide) (by decide)

end Simble.Avctp
