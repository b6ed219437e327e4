import Simble.Device.HandledWrites

/-! What the ATT server does not answer: a Handle Value Confirmation and a Write Command that it
can read. All else has an answer, answers too, so two servers that hear each other never fall
silent. -/
namespace Simble.Device
open Simble.Gatt Simble.Att Simble.Crypto

def answerOpcodes : List UInt8 :=
  [0x01, 0x03, 0x05, 0x07, 0x09, 0x0B, 0x0D, 0x0F, 0x11, 0x13, 0x17, 0x19, 0x1B, 0x1E, 0x21, 0x23]

/-- The PDU asks for nothing: it is one of those, or its opcode has the command bit. -/
def NonRequest : Bytes → Prop
  | [] => False
  | op :: _ => op ∈ answerOpcodes ∨ op &&& 0x40 ≠ 0

inductive Mute : Bytes → Prop
  | confirmation (rest : Bytes) : Mute (Opcode.handleValueCfm.byte :: rest)
  | command (low high : UInt8) (rest : Bytes) : Mute (Opcode.writeCmd.byte :: low :: high :: rest)

def Sounds (pdu : Bytes) : Prop := ∃ op rest, pdu = op :: rest ∧ op &&& 1 = 1

variable {curve : P256} {H S : Type}

namespace VirtualDevice
variable (env : Env H S) (device : VirtualDevice curve H S) (connection : UInt16)

def Responds (pdu : Bytes) : Prop := ∃ response after,
  device.processAttPacket env connection pdu = .ok (some response, after) ∧ Sounds response

/-- `n` answers back and forth, each given to the device that did not send it: what
is then on its way, if anything still is. -/
def volley : Nat → VirtualDevice curve H S → UInt16 → VirtualDevice curve H S → UInt16 →
    Option Bytes → Rust (Option Bytes)
  | 0, _, _, _, _, pdu => .ok pdu
  | _ + 1, _, _, _, _, none => .ok none
  | n + 1, hearer, here, talker, there, some pdu => do
    let (response, heard) ← hearer.processAttPacket env here pdu
    volley n talker there heard here response

/-- Two devices that are given each other's answers never stop. -/
def Endless (hearer : VirtualDevice curve H S) (here : UInt16) (talker : VirtualDevice curve H S)
    (there : UInt16) (pdu : Bytes) : Prop :=
  ∀ n, ∃ next, volley env n hearer here talker there (some pdu) = .ok (some next)

end VirtualDevice

open VirtualDevice

/-- What `dispatch_att` answers: all but these three kinds. -/
def HasAnswer : AttPdu → Prop
  | .writeCmd _ _ | .handleValueCfm | .readByGroupTypeReq _ _ _ => False
  | _ => True

section Answers
variable {env : Env H S} {device : VirtualDevice curve H S} {connection : UInt16} {pdu : Bytes}

theorem sounds_errorRsp (op : UInt8) (handle : UInt16) (code : UInt8) :
    Sounds (errorRsp op handle code) := ⟨_, _, rfl, rfl⟩

theorem sounds_opcode (opcode : Opcode) (rest : Bytes) (odd : opcode.byte &&& 1 = 1) :
    Sounds (opcode.byte :: rest) := ⟨_, rest, rfl, odd⟩

theorem sounds_of_read (outcome : Except UInt8 Bytes) (handle : UInt16) (request response : Opcode)
    (odd : response.byte &&& 1 = 1) :
    Sounds (match outcome with
      | .ok value => response.byte :: value
      | .error code => errorRsp request.byte handle code) := by
  cases outcome with
  | ok value => exact sounds_opcode _ _ odd
  | error code => exact sounds_errorRsp _ _ _

theorem sounds_findInformation (startHandle endHandle : UInt16) :
    Sounds (device.onFindInformationReq startHandle endHandle) := by
  unfold onFindInformationReq
  split
  · exact sounds_errorRsp _ _ _
  · exact sounds_opcode .findInformationRsp _ rfl

theorem sounds_readByType (startHandle endHandle : UInt16) (uuidBytes : Bytes) :
    Sounds (device.onReadByTypeReq startHandle endHandle uuidBytes) := by
  unfold onReadByTypeReq typeRange
  split
  · rename_i response refused
    split at refused
    · cases refused
      exact sounds_errorRsp _ _ _
    · split at refused
      · cases refused
        exact sounds_errorRsp _ _ _
      · cases refused
  · split
    · exact sounds_errorRsp _ _ _
    · exact sounds_opcode .readByTypeRsp _ rfl

theorem sounds_writeReq (handle : UInt16) (value : Bytes) :
    ∃ response after, device.onWriteReq env connection handle value = (some response, after) ∧
      Sounds response := by
  unfold onWriteReq
  split
  · exact ⟨_, _, rfl, sounds_opcode .writeRsp _ rfl⟩
  · exact ⟨_, _, rfl, sounds_errorRsp _ _ _⟩

variable {parsed : AttPdu}

/-- Every kind but those three is answered. -/
theorem dispatchAtt_sounds (op : UInt8) (answered : HasAnswer parsed) :
    ∃ response after, device.dispatchAtt env connection op parsed = .ok (some response, after) ∧
      Sounds response := by
  cases parsed with
  | exchangeMtuReq => exact ⟨_, _, rfl, sounds_opcode .exchangeMtuRsp _ rfl⟩
  | findInformationReq => exact ⟨_, _, rfl, sounds_findInformation _ _⟩
  | readReq handle => exact ⟨_, _, rfl, sounds_of_read _ _ .readReq .readRsp rfl⟩
  | readBlobReq handle offset => exact ⟨_, _, rfl, sounds_of_read _ _ .readBlobReq .readBlobRsp rfl⟩
  | readByTypeReq => exact ⟨_, _, rfl, sounds_readByType _ _ _⟩
  | writeReq handle value =>
    obtain ⟨response, after, written, sounds⟩ :=
      @sounds_writeReq curve H S env device connection handle value
    exact ⟨response, after, congrArg Except.ok written, sounds⟩
  | prepareWriteReq => exact ⟨_, _, rfl, sounds_opcode .prepareWriteRsp _ rfl⟩
  | executeWriteReq => exact ⟨_, _, rfl, sounds_opcode .executeWriteRsp _ rfl⟩
  | writeCmd | handleValueCfm | readByGroupTypeReq => exact answered.elim
  | _ => exact ⟨_, _, rfl, sounds_errorRsp _ _ _⟩

theorem byte_of_ofByte {op : UInt8} {opcode : Opcode} (known : Opcode.ofByte op = some opcode) :
    opcode.byte = op := by
  unfold Opcode.ofByte at known
  split at known <;> cases known <;> rfl

theorem hasAnswer_of_parseFields {opcode : Opcode} {rest : Bytes}
    (reads : AttPdu.parseFields rest opcode = some parsed) (command : opcode ≠ .writeCmd)
    (confirmation : opcode ≠ .handleValueCfm) (group : opcode ≠ .readByGroupTypeReq) :
    HasAnswer parsed := by
  cases opcode <;>
    simp only [AttPdu.parseFields, Option.bind_eq_bind, Option.bind_eq_some_iff, Option.pure_def,
      Option.some.injEq] at reads <;>
    first
    | contradiction
    | subst reads; trivial
    | obtain ⟨_, -, rfl⟩ := reads; trivial
    | obtain ⟨_, -, _, -, rfl⟩ := reads; trivial
    | obtain ⟨_, -, _, -, _, -, rfl⟩ := reads; trivial

theorem hasAnswer_of_parse (reads : AttPdu.parse pdu = some parsed) (loud : ¬ Mute pdu)
    (ungrouped : pdu.head? ≠ some Opcode.readByGroupTypeReq.byte) :
    HasAnswer parsed := by
  cases pdu with
  | nil => cases reads
  | cons op rest =>
    cases known : Opcode.ofByte op with
    | none =>
      simp only [AttPdu.parse, known, Option.some.injEq] at reads
      subst reads
      trivial
    | some opcode =>
      obtain rfl := byte_of_ofByte known
      rw [AttPdu.parse_opcode] at reads
      apply hasAnswer_of_parseFields reads
      · rintro rfl
        rcases rest with _ | ⟨low, _ | ⟨high, rest⟩⟩
        · cases reads
        · cases reads
        · exact loud (.command low high rest)
      · rintro rfl
        exact loud (.confirmation rest)
      · rintro rfl
        exact ungrouped rfl

theorem responds_of_loud (loud : ¬ Mute pdu)
    (ungrouped : pdu.head? ≠ some Opcode.readByGroupTypeReq.byte) :
    device.Responds env connection pdu := by
  unfold Responds processAttPacket
  cases reads : AttPdu.parse pdu with
  | none => exact ⟨_, _, rfl, sounds_errorRsp _ _ _⟩
  | some parsed => exact dispatchAtt_sounds _ (hasAnswer_of_parse reads loud ungrouped)

theorem silent_of_mute (mute : Mute pdu) :
    ∃ after, device.processAttPacket env connection pdu = .ok (none, after) := by
  cases mute with
  | confirmation rest => exact ⟨_, rfl⟩
  | command low high rest => exact ⟨_, rfl⟩

theorem Sounds.loud (sounds : Sounds pdu) :
    ¬ Mute pdu ∧ pdu.head? ≠ some Opcode.readByGroupTypeReq.byte := by
  obtain ⟨op, rest, rfl, odd⟩ := sounds
  constructor
  · intro mute
    cases mute <;> exact absurd odd (by decide)
  · intro same
    obtain rfl := Option.some.inj same
    exact absurd odd (by decide)

end Answers

section Volleys
variable (env : Env H S) (hearer talker : VirtualDevice curve H S) (here there : UInt16) (pdu : Bytes)

theorem endless_of_responds (responds : hearer.Responds env here pdu) :
    Endless env hearer here talker there pdu := by
  intro n
  induction n generalizing hearer talker here there pdu with
  | zero => exact ⟨pdu, rfl⟩
  | succ n ih =>
    obtain ⟨response, heard, processed, sounds⟩ := responds
    obtain ⟨next, goes⟩ := ih talker heard there here response
      (responds_of_loud sounds.loud.1 sounds.loud.2)
    refine ⟨next, ?_⟩
    rw [volley, processed]
    exact goes

/-- The server is silent on what asks for nothing exactly where it is a
confirmation or a command that it can read; and two servers stop answering each
other exactly if the first PDU is one. -/
theorem silent_iff :
    (NonRequest pdu → ((∃ after, hearer.processAttPacket env here pdu = .ok (none, after)) ↔ Mute pdu)) ∧
    (pdu.head? ≠ some Opcode.readByGroupTypeReq.byte →
      (¬ Endless env hearer here talker there pdu ↔ Mute pdu)) := by
  have loudly (ungrouped : pdu.head? ≠ some Opcode.readByGroupTypeReq.byte) (loud : ¬ Mute pdu) :
      hearer.Responds env here pdu := responds_of_loud loud ungrouped
  refine ⟨fun unasked => ⟨fun silent => ?_, silent_of_mute⟩, fun ungrouped => ⟨fun ends => ?_, ?_⟩⟩
  · by_contra loud
    have ungrouped : pdu.head? ≠ some Opcode.readByGroupTypeReq.byte := by
      cases pdu with
      | nil => exact unasked.elim
      | cons op rest =>
        intro same
        obtain rfl := Option.some.inj same
        rcases unasked with listed | command
        · exact absurd listed (by decide)
        · exact absurd rfl command
    obtain ⟨after, quiet⟩ := silent
    obtain ⟨response, _, processed, -⟩ := loudly ungrouped loud
    cases quiet.symm.trans processed
  · by_contra loud
    exact ends (endless_of_responds env hearer talker here there pdu (loudly ungrouped loud))
  · intro mute endless
    obtain ⟨after, quiet⟩ := @silent_of_mute curve H S env hearer here pdu mute
    obtain ⟨next, goes⟩ := endless 1
    rw [volley, quiet] at goes
    cases goes

end Volleys

/-- A notification that one of two servers sends. -/
theorem silent_iff_notification :
    ((∃ after, controlDevice.processAttPacket controlPoint 0x40 [0x1B, 0x01, 0x00] = .ok (none, after)) ↔
      Mute [0x1B, 0x01, 0x00]) ∧
    (¬ Endless controlPoint controlDevice 0x40 controlDevice 0x40 [0x1B, 0x01, 0x00] ↔
      Mute [0x1B, 0x01, 0x00]) :=
  (silent_iff controlPoint controlDevice controlDevice 0x40 0x40 [0x1B, 0x01, 0x00]).imp
    (fun silent => silent (.inl (by decide))) (fun ends => ends (by decide))

/-- It is answered with an Error Response, and that with another one. -/
theorem notification_never_settles : NonRequest [0x1B, 0x01, 0x00] ∧
    (∃ after, controlDevice.processAttPacket controlPoint 0x40 [0x1B, 0x01, 0x00] =
      .ok (some [0x01, 0x1B, 0x00, 0x00, 0x06], after)) ∧
    Endless controlPoint controlDevice 0x40 controlDevice 0x40 [0x1B, 0x01, 0x00] := by
  refine ⟨.inl (by decide), ⟨_, rfl⟩, ?_⟩
  apply endless_of_responds controlPoint controlDevice controlDevice 0x40 0x40 _
  exact ⟨_, _, rfl, _, _, rfl, rfl⟩

end Simble.Device
