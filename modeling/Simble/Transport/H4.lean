import Simble.Transport.Stream

/-! The H4 framer (`transport/rootcanal.rs`) and the framer of bulk endpoints
(`transport/usb.rs`). -/
namespace Simble.Transport
open Simble.Lib List

namespace H4Type

def hciCommand : UInt8 := 0x01
def hciAclData : UInt8 := 0x02
def hciScoData : UInt8 := 0x03
def hciEvent : UInt8 := 0x04
def hciIsoData : UInt8 := 0x05

end H4Type

open H4Type

def headerLenAndPayloadLen (h4Type : UInt8) (header : Bytes) : Option (Nat × Nat) :=
  if h4Type = hciCommand then header[2]?.map fun len => (3, len.toNat)
  else if h4Type = hciAclData then do
    return (4, (U16.fromLeBytes (← header[2]?) (← header[3]?)).toNat)
  else if h4Type = hciScoData then header[2]?.map fun len => (3, len.toNat)
  else if h4Type = hciEvent then header[1]?.map fun len => (2, len.toNat)
  else if h4Type = hciIsoData then do
    return (4, (U16.fromLeBytes (← header[2]?) (← header[3]?) &&& 0x3FFF).toNat)
  else none

def headerLen (h4Type : UInt8) : Option Nat :=
  if h4Type = hciCommand ∨ h4Type = hciScoData then some 3
  else if h4Type = hciAclData ∨ h4Type = hciIsoData then some 4
  else if h4Type = hciEvent then some 2
  else none

def packetLen (buffer : Bytes) : Except Halt (Option Nat) :=
  match buffer with
  | [] => .ok none
  | h4Type :: header =>
    match headerLen h4Type with
    | none => .error (.transport s!"unrecognized H4 packet type {hexByte h4Type}")
    | some minHeader =>
      if buffer.length < 1 + minHeader then .ok none
      else
        match headerLenAndPayloadLen h4Type header with
        | none => .error .panic  -- `expect("checked above")`
        | some (headerLen, payloadLen) =>
          if buffer.length < 1 + headerLen + payloadLen then .ok none
          else .ok (some (1 + headerLen + payloadLen))

theorem le_of_packetLen {buffer : Bytes} {totalLen : Nat}
    (framed : packetLen buffer = .ok (some totalLen)) : totalLen ≤ buffer.length := by
  unfold packetLen at framed
  split at framed
  · cases framed
  · split at framed
    · cases framed
    · split at framed
      · cases framed
      · split at framed
        · cases framed
        · split at framed
          · cases framed
          · cases framed
            omega

abbrev H4FrameReader := Cursor

def H4FrameReader.nextPacket (reader : H4FrameReader) :
    Except Halt (H4FrameReader × Option Bytes) :=
  match framed : packetLen reader.unread with
  | .error halt => .error halt
  | .ok none => .ok (reader, none)
  | .ok (some totalLen) =>
    .ok (reader.advance totalLen (le_of_packetLen framed), some (reader.unread.take totalLen))

structure AclInReassembler where
  buffer : Bytes
  typed : Bool

namespace AclInReassembler

def aclHeaderLen : Nat := 4

def feed (reassembler : AclInReassembler) (bytes : Bytes) : AclInReassembler :=
  { reassembler with buffer := reassembler.buffer ++ bytes }

def packetLen : Bool → Bytes → Option Nat
  | true, h4Type :: a :: b :: low :: high :: rest =>
    let raw := U16.fromLeBytes low high
    let payloadLen := (if h4Type = hciIsoData then raw &&& 0x3FFF else raw).toNat
    let totalLen := 1 + aclHeaderLen + payloadLen
    if (h4Type :: a :: b :: low :: high :: rest).length < totalLen then none else some totalLen
  | false, a :: b :: low :: high :: rest =>
    let payloadLen := (U16.fromLeBytes low high).toNat
    let totalLen := aclHeaderLen + payloadLen
    if (a :: b :: low :: high :: rest).length < totalLen then none else some totalLen
  | _, _ => none

/-- The type octet that an untyped packet is given back. -/
def restored (typed : Bool) : Bytes := if typed then [] else [hciAclData]

def nextPacket (reassembler : AclInReassembler) : AclInReassembler × Option Bytes :=
  match packetLen reassembler.typed reassembler.buffer with
  | none => (reassembler, none)
  | some totalLen =>
    ({ reassembler with buffer := reassembler.buffer.drop totalLen },
      some (restored reassembler.typed ++ reassembler.buffer.take totalLen))

end AclInReassembler

/-! ## Packets -/

inductive H4Packet where
  | command (opcode : UInt16) (parameters : Bytes) (fits : parameters.length < 256)
  | acl (handle : UInt16) (data : Bytes) (fits : data.length < 65536)
  | sco (handle : UInt16) (data : Bytes) (fits : data.length < 256)
  | event (code : UInt8) (parameters : Bytes) (fits : parameters.length < 256)
  | iso (handle : UInt16) (length : UInt16) (data : Bytes)
      (fits : (length &&& 0x3FFF).toNat = data.length)

namespace H4Packet

def octets : H4Packet → Bytes
  | command opcode parameters _ =>
    hciCommand :: U16.toLeBytes opcode ++ [UInt8.ofNat parameters.length] ++ parameters
  | acl handle data _ =>
    hciAclData :: U16.toLeBytes handle ++ U16.toLeBytes (UInt16.ofNat data.length) ++ data
  | sco handle data _ =>
    hciScoData :: U16.toLeBytes handle ++ [UInt8.ofNat data.length] ++ data
  | event code parameters _ =>
    [hciEvent, code, UInt8.ofNat parameters.length] ++ parameters
  | iso handle length data _ =>
    hciIsoData :: U16.toLeBytes handle ++ U16.toLeBytes length ++ data

def IsAcl : H4Packet → Prop
  | acl .. => True
  | _ => False

def IsAclOrIso : H4Packet → Prop
  | acl .. | iso .. => True
  | _ => False

end H4Packet

/-! ## Framing -/

variable {h4Type : UInt8}

theorem headerLenAndPayloadLen_append {header : Bytes} {count : Nat}
    (known : headerLen h4Type = some count) (there : count ≤ header.length) (more : Bytes) :
    headerLenAndPayloadLen h4Type (header ++ more) = headerLenAndPayloadLen h4Type header ∧
      ∃ payloadLen, headerLenAndPayloadLen h4Type header = some (count, payloadLen) := by
  unfold headerLen at known
  split at known
  · rename_i type
    cases known
    rcases type with rfl | rfl <;>
      simp [headerLenAndPayloadLen, hciCommand, hciAclData, hciScoData,
        List.getElem?_append_left, show 2 < header.length by omega]
  · split at known
    · rename_i type
      cases known
      rcases type with rfl | rfl <;>
        simp [headerLenAndPayloadLen, hciCommand, hciAclData, hciScoData, hciEvent, hciIsoData,
          List.getElem?_append_left, show 2 < header.length by omega,
          show 3 < header.length by omega]
    · split at known
      · rename_i type
        cases known
        subst type
        simp [headerLenAndPayloadLen, hciCommand, hciAclData, hciScoData, hciEvent,
          List.getElem?_append_left, show 1 < header.length by omega]
      · cases known

theorem packetLen_of_header {header : Bytes} {payloadLen : Nat}
    (known : headerLen h4Type = some header.length)
    (stated : headerLenAndPayloadLen h4Type header = some (header.length, payloadLen))
    (payload : Bytes) :
    packetLen (h4Type :: (header ++ payload)) =
      .ok (if payload.length < payloadLen then none else some (1 + header.length + payloadLen)) := by
  have same := (headerLenAndPayloadLen_append known (Nat.le_refl _) payload).1
  simp only [packetLen, known, same, stated, length_cons, length_append]
  rw [if_neg (by omega)]
  split <;> split <;> first | rfl | omega

theorem packetLen_short {front : Bytes} {count : Nat} (known : headerLen h4Type = some count)
    (short : front.length < count) :
    packetLen (h4Type :: front) = .ok none := by
  simp only [packetLen, known, length_cons]
  rw [if_pos (by omega)]

namespace H4Packet

def parts : H4Packet → UInt8 × Bytes × Bytes
  | command opcode parameters _ =>
    (hciCommand, U16.toLeBytes opcode ++ [UInt8.ofNat parameters.length], parameters)
  | acl handle data _ =>
    (hciAclData, U16.toLeBytes handle ++ U16.toLeBytes (UInt16.ofNat data.length), data)
  | sco handle data _ => (hciScoData, U16.toLeBytes handle ++ [UInt8.ofNat data.length], data)
  | event code parameters _ => (hciEvent, [code, UInt8.ofNat parameters.length], parameters)
  | iso handle length data _ => (hciIsoData, U16.toLeBytes handle ++ U16.toLeBytes length, data)

theorem octets_eq (packet : H4Packet) :
    packet.octets = packet.parts.1 :: (packet.parts.2.1 ++ packet.parts.2.2) := by
  cases packet <;> simp [octets, parts]

theorem headerLen_parts (packet : H4Packet) :
    headerLen packet.parts.1 = some packet.parts.2.1.length := by
  cases packet <;> rfl

theorem headerLenAndPayloadLen_parts (packet : H4Packet) :
    headerLenAndPayloadLen packet.parts.1 packet.parts.2.1 =
      some (packet.parts.2.1.length, packet.parts.2.2.length) := by
  cases packet with
  | command opcode parameters fits =>
    simp [parts, headerLenAndPayloadLen, U16.toLeBytes, Nat.mod_eq_of_lt fits]
  | acl handle data fits =>
    have length : (U16.fromLeBytes (UInt16.ofNat data.length).toUInt8
        (UInt16.ofNat data.length >>> 8).toUInt8).toNat = data.length := by
      rw [U16.fromLeBytes_toLeBytes, UInt16.toNat_ofNat', Nat.mod_eq_of_lt fits]
    exact congrArg (fun payloadLen => some (4, payloadLen)) length
  | sco handle data fits =>
    simp [parts, headerLenAndPayloadLen, U16.toLeBytes, hciScoData, hciAclData, hciCommand,
      Nat.mod_eq_of_lt fits]
  | event code parameters fits =>
    simp [parts, headerLenAndPayloadLen, hciEvent, hciScoData, hciAclData, hciCommand,
      Nat.mod_eq_of_lt fits]
  | iso handle length data fits =>
    have stated : (U16.fromLeBytes length.toUInt8 (length >>> 8).toUInt8 &&& 0x3FFF).toNat =
        data.length := by
      rw [U16.fromLeBytes_toLeBytes, fits]
    exact congrArg (fun payloadLen => some (4, payloadLen)) stated

end H4Packet

/-- What the framer does with the octets it has not handed over. -/
def takePacket (buffer : Bytes) : Except Halt (Option (Bytes × Bytes)) :=
  (packetLen buffer).map fun framed => framed.map fun totalLen =>
    (buffer.take totalLen, buffer.drop totalLen)

theorem H4FrameReader.follows :
    Follows (fun _ => True) takePacket Cursor.unread Cursor.feed H4FrameReader.nextPacket where
  fed reader chunk _ := ⟨trivial, Cursor.unread_feed reader chunk⟩
  stops reader halt _ taken := by
    unfold nextPacket
    split
    · rename_i framed
      simpa [takePacket, framed, Except.map] using taken
    · rename_i framed
      simp [takePacket, framed, Except.map] at taken
    · rename_i framed
      simp [takePacket, framed, Except.map] at taken
  waits reader _ taken := by
    unfold nextPacket
    split
    · rename_i framed
      simp [takePacket, framed, Except.map] at taken
    · exact ⟨reader, rfl, trivial, rfl⟩
    · rename_i framed
      simp [takePacket, framed, Except.map] at taken
  hands reader packet rest _ taken := by
    unfold nextPacket
    split
    · rename_i framed
      simp [takePacket, framed, Except.map] at taken
    · rename_i framed
      simp [takePacket, framed, Except.map] at taken
    · rename_i totalLen framed
      simp only [takePacket, framed, Except.map, Option.map, Except.ok.injEq, Option.some.injEq,
        Prod.mk.injEq] at taken
      obtain ⟨rfl, rfl⟩ := taken
      exact ⟨_, rfl, trivial, Cursor.unread_advance _ _⟩

open H4Packet

theorem takePacket_delimits :
    Delimits takePacket (fun _ : H4Packet => True) octets octets where
  nothing := rfl
  whole packet rest _ := by
    have framed := packetLen_of_header packet.headerLen_parts packet.headerLenAndPayloadLen_parts
      (packet.parts.2.2 ++ rest)
    rw [if_neg (by rw [length_append]; omega)] at framed
    have size : 1 + packet.parts.2.1.length + packet.parts.2.2.length = packet.octets.length := by
      rw [packet.octets_eq, length_cons, length_append]
      omega
    have same : packet.parts.1 :: (packet.parts.2.1 ++ (packet.parts.2.2 ++ rest)) =
        packet.octets ++ rest := by
      rw [packet.octets_eq, cons_append, append_assoc]
    rw [same, size] at framed
    simp [takePacket, framed, Except.map]
  part packet front back _ split lacking := by
    rw [packet.octets_eq] at split
    cases front with
    | nil => rfl
    | cons h4Type front =>
      obtain ⟨rfl, others⟩ := List.cons.inj split
      have short : 0 < back.length := length_pos_iff.mpr lacking
      have framed : packetLen (packet.parts.1 :: front) = .ok none := by
        rcases append_eq_append_iff.mp others with ⟨missing, inside, -⟩ | ⟨come, rfl, inside⟩
        · by_cases complete : missing = []
          · subst complete
            rw [append_nil] at inside
            have stated := packetLen_of_header packet.headerLen_parts
              packet.headerLenAndPayloadLen_parts []
            rw [append_nil, inside] at stated
            rw [stated, if_pos]
            subst inside
            rw [append_cancel_left others] at short
            exact short
          · exact packetLen_short packet.headerLen_parts (by
              have := length_pos_iff.mpr complete
              rw [inside, length_append]
              omega)
        · rw [packetLen_of_header packet.headerLen_parts packet.headerLenAndPayloadLen_parts,
            if_pos]
          rw [inside, length_append]
          omega
      simp [takePacket, framed, Except.map]

namespace AclInReassembler

def takePacket (typed : Bool) (buffer : Bytes) : Except Halt (Option (Bytes × Bytes)) :=
  .ok ((packetLen typed buffer).map fun totalLen =>
    (restored typed ++ buffer.take totalLen, buffer.drop totalLen))

theorem follows (typed : Bool) :
    Follows (fun reassembler => reassembler.typed = typed) (takePacket typed) buffer feed
      (fun reassembler => .ok reassembler.nextPacket) where
  fed reassembler chunk valid := ⟨valid, rfl⟩
  stops reassembler halt valid taken := by cases taken
  waits reassembler valid taken := by
    subst valid
    have framed : packetLen reassembler.typed reassembler.buffer = none := by
      simpa [takePacket] using taken
    exact ⟨reassembler, by rw [nextPacket, framed], rfl, rfl⟩
  hands reassembler packet rest valid taken := by
    subst valid
    obtain ⟨totalLen, framed, rfl, rfl⟩ : ∃ totalLen,
        packetLen reassembler.typed reassembler.buffer = some totalLen ∧
        restored reassembler.typed ++ reassembler.buffer.take totalLen = packet ∧
        reassembler.buffer.drop totalLen = rest := by
      simpa [takePacket] using taken
    refine ⟨{ reassembler with buffer := reassembler.buffer.drop totalLen }, ?_, rfl, rfl⟩
    rw [nextPacket, framed]

theorem length_field {data : Bytes} (fits : data.length < 65536) :
    (U16.fromLeBytes (UInt16.ofNat data.length).toUInt8
      (UInt16.ofNat data.length >>> 8).toUInt8).toNat = data.length := by
  rw [U16.fromLeBytes_toLeBytes, UInt16.toNat_ofNat', Nat.mod_eq_of_lt fits]

theorem length_field_masked {length : UInt16} {data : Bytes}
    (fits : (length &&& 0x3FFF).toNat = data.length) :
    (U16.fromLeBytes length.toUInt8 (length >>> 8).toUInt8 &&& 0x3FFF).toNat = data.length := by
  rw [U16.fromLeBytes_toLeBytes, fits]

theorem packetLen_untyped {low high : UInt8} {length : Nat} (a b : UInt8) (rest : Bytes)
    (stated : (U16.fromLeBytes low high).toNat = length) :
    packetLen false (a :: b :: low :: high :: rest) =
      if rest.length < length then none else some (4 + length) := by
  simp only [packetLen, aclHeaderLen, stated, length_cons]
  split <;> split <;> first | rfl | omega

theorem packetLen_typed {h4Type low high : UInt8} {length : Nat} (a b : UInt8) (rest : Bytes)
    (stated : (if h4Type = hciIsoData then U16.fromLeBytes low high &&& 0x3FFF
      else U16.fromLeBytes low high).toNat = length) :
    packetLen true (h4Type :: a :: b :: low :: high :: rest) =
      if rest.length < length then none else some (5 + length) := by
  simp only [packetLen, aclHeaderLen, stated, length_cons]
  split <;> split <;> first | rfl | omega

/-- Bulk endpoints without types carry ACL packets without their first octet. -/
theorem untyped_delimits :
    Delimits (takePacket false) H4Packet.IsAcl (fun packet => packet.octets.tail)
      octets where
  nothing := rfl
  whole packet rest acl := by
    cases packet with
    | acl handle data fits =>
      have framed := packetLen_untyped handle.toUInt8 (handle >>> 8).toUInt8 (data ++ rest)
        (length_field fits)
      rw [if_neg (by rw [length_append]; omega)] at framed
      have same : (H4Packet.acl handle data fits).octets.tail ++ rest = handle.toUInt8 ::
          (handle >>> 8).toUInt8 :: (UInt16.ofNat data.length).toUInt8 ::
            (UInt16.ofNat data.length >>> 8).toUInt8 :: (data ++ rest) := rfl
      rw [same, takePacket, framed, Nat.add_comm]
      simp [restored, octets, U16.toLeBytes]
    | _ => cases acl
  part packet front back acl split lacking := by
    cases packet with
    | acl handle data fits =>
      have short := length_pos_iff.mpr lacking
      rcases front with _ | ⟨a, _ | ⟨b, _ | ⟨c, _ | ⟨d, front⟩⟩⟩⟩ <;> try rfl
      obtain ⟨rfl, rfl, rfl, rfl, rfl⟩ : a = handle.toUInt8 ∧ b = (handle >>> 8).toUInt8 ∧
          c = (UInt16.ofNat data.length).toUInt8 ∧ d = (UInt16.ofNat data.length >>> 8).toUInt8 ∧
          front ++ back = data := by
        simpa [octets, U16.toLeBytes] using split
      rw [takePacket, packetLen_untyped _ _ _ (length_field fits), if_pos]
      · rfl
      · rw [length_append]
        omega
    | _ => cases acl

theorem typed_delimits :
    Delimits (takePacket true) H4Packet.IsAclOrIso octets octets where
  nothing := rfl
  whole packet rest carried := by
    cases packet with
    | acl handle data fits =>
      have framed := @packetLen_typed hciAclData _ _ _ handle.toUInt8 (handle >>> 8).toUInt8
        (data ++ rest) (length_field fits)
      rw [if_neg (by rw [length_append]; omega)] at framed
      have same : (H4Packet.acl handle data fits).octets ++ rest = hciAclData :: handle.toUInt8 ::
          (handle >>> 8).toUInt8 :: (UInt16.ofNat data.length).toUInt8 ::
            (UInt16.ofNat data.length >>> 8).toUInt8 :: (data ++ rest) := rfl
      rw [same, takePacket, framed, Nat.add_comm]
      simp [restored, octets, U16.toLeBytes]
    | iso handle length data fits =>
      have framed := @packetLen_typed hciIsoData _ _ _ handle.toUInt8 (handle >>> 8).toUInt8
        (data ++ rest) (length_field_masked fits)
      rw [if_neg (by rw [length_append]; omega)] at framed
      have same : (H4Packet.iso handle length data fits).octets ++ rest =
          hciIsoData :: handle.toUInt8 :: (handle >>> 8).toUInt8 :: length.toUInt8 ::
            (length >>> 8).toUInt8 :: (data ++ rest) := rfl
      rw [same, takePacket, framed, Nat.add_comm]
      simp [restored, octets, U16.toLeBytes]
    | _ => cases carried
  part packet front back carried split lacking := by
    have short := length_pos_iff.mpr lacking
    cases packet with
    | acl handle data fits =>
      rcases front with _ | ⟨type, _ | ⟨a, _ | ⟨b, _ | ⟨c, _ | ⟨d, front⟩⟩⟩⟩⟩ <;> try rfl
      obtain ⟨rfl, rfl, rfl, rfl, rfl, rfl⟩ : type = hciAclData ∧ a = handle.toUInt8 ∧
          b = (handle >>> 8).toUInt8 ∧ c = (UInt16.ofNat data.length).toUInt8 ∧
          d = (UInt16.ofNat data.length >>> 8).toUInt8 ∧ front ++ back = data := by
        simpa [octets, U16.toLeBytes] using split
      rw [takePacket, @packetLen_typed hciAclData _ _ _ _ _ _ (length_field fits), if_pos]
      · rfl
      · rw [length_append]
        omega
    | iso handle length data fits =>
      rcases front with _ | ⟨type, _ | ⟨a, _ | ⟨b, _ | ⟨c, _ | ⟨d, front⟩⟩⟩⟩⟩ <;> try rfl
      obtain ⟨rfl, rfl, rfl, rfl, rfl, rfl⟩ : type = hciIsoData ∧ a = handle.toUInt8 ∧
          b = (handle >>> 8).toUInt8 ∧ c = length.toUInt8 ∧ d = (length >>> 8).toUInt8 ∧
          front ++ back = data := by
        simpa [octets, U16.toLeBytes] using split
      rw [takePacket, @packetLen_typed hciIsoData _ _ _ _ _ _ (length_field_masked fits), if_pos]
      · rfl
      · rw [length_append]
        omega
    | _ => cases carried

end AclInReassembler

end Simble.Transport
