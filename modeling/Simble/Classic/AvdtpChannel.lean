import Simble.Classic.AvdtpStreams

/-! The messages that PDUs on their way come to at a receiver. -/
namespace Simble.Avdtp
open Simble.Lib ServiceCapability MessageAssembler

theorem parseList_serializeList {capabilities : List ServiceCapability}
    (short : ∀ capability ∈ capabilities, capability.data.length < 256) :
    parseList (serializeList capabilities) = some capabilities := by
  induction capabilities with
  | nil =>
    rw [serializeList, List.flatMap_nil, parseList]
  | cons capability rest ih =>
    have length : (UInt8.ofNat capability.data.length).toNat = capability.data.length :=
      UInt8.toNat_ofNat_of_lt' (short capability List.mem_cons_self)
    have others := ih fun other inside => short other (List.mem_cons_of_mem _ inside)
    rw [serializeList] at others ⊢
    rw [List.flatMap_cons, List.cons_append, List.cons_append, parseList, length,
      if_neg (by rw [List.length_append]; omega), List.drop_left, List.take_left, others]
    rfl

/-- A message that gets through a channel with the MTU, whole (see `Deliverable`). -/
structure Fits (peerMtu : UInt16) (message : Message) : Prop where
  signal : message.signalIdentifier < 64
  size : message.toPayload.length + 2 < peerMtu.toNat ∨
    (peerMtu.toNat < message.toPayload.length + 2 ∧
      ∀ label, (writeMessage label message peerMtu).length ≤ 255)

def assembledOf (label : UInt8) (message : Message) : AssembledMessage :=
  ⟨label, message.signalIdentifier, message.messageType, message.toPayload⟩

/-- A receiver that is fed the PDUs comes to the messages, and to no part of another. -/
def Carries (assembler : MessageAssembler) (pdus : List Bytes) (messages : List AssembledMessage) :
    Prop :=
  ∃ outputs, assembler.onPdus pdus = .ok (.new, outputs) ∧ outputs.filterMap id = messages

theorem carries_nil : Carries .new [] [] := ⟨[], rfl, rfl⟩

variable {assembler : MessageAssembler}

theorem carries_of_nil {messages : List AssembledMessage} (carries :
  Carries assembler [] messages) :
    messages = [] := by
  obtain ⟨outputs, fed, rfl⟩ := carries
  cases fed
  rfl

theorem carries_cons {pdu : Bytes} {rest : List Bytes} {messages : List AssembledMessage}
    (carries : Carries assembler (pdu :: rest) messages) :
    ∃ next output, assembler.onPdu pdu = .ok (next, output) ∧ match output with
      | none => Carries next rest messages
      | some message => ∃ later, messages = message :: later ∧ Carries next rest later := by
  obtain ⟨outputs, fed, rfl⟩ := carries
  obtain ⟨next, output, later, first, others, rfl⟩ := feed_cons_ok.mp fed
  refine ⟨next, output, first, ?_⟩
  cases output with
  | none => exact ⟨later, others, rfl⟩
  | some message => exact ⟨later.filterMap id, rfl, later, others, rfl⟩

/-! ## What a message leaves behind -/

variable {label : UInt8}

theorem begin_leaves {assembler next : MessageAssembler} {messageType : MessageType} {single : Bool}
    {rest : Bytes} {message : AssembledMessage}
    (came : assembler.begin label messageType single rest = (next, some message)) :
    next = .new := by
  cases rest with
  | nil => cases came
  | cons second data =>
    cases single with
    | true =>
      cases came
      rfl
    | false => cases data <;> cases came

theorem extend_leaves {assembler next : MessageAssembler} {messageType : MessageType}
    {isLast : Bool} {data : Bytes} {message : AssembledMessage}
    (came : assembler.extend label messageType isLast data = (next, some message)) :
    next = .new := by
  unfold extend at came
  split at came
  · cases came
  · split_ifs at came <;> cases came
    rfl

theorem onPdu_leaves {assembler next : MessageAssembler} {pdu : Bytes} {message : AssembledMessage}
    (came : assembler.onPdu pdu = .ok (next, some message)) : next = .new := by
  rw [onPdu] at came
  obtain ⟨count, -, came⟩ := Rust.bind_eq_ok.mp came
  cases pdu with
  | nil => cases came
  | cons first rest =>
    have came := Except.ok.inj came
    unfold receive at came
    split at came
    · exact begin_leaves came
    · exact begin_leaves came
    · exact extend_leaves came
    · exact extend_leaves came

theorem onPdus_leaves {assembler last : MessageAssembler} {pdus : List Bytes}
    {outputs : List (Option AssembledMessage)} {message : AssembledMessage}
    (fed : assembler.onPdus pdus = .ok (last, outputs ++ [some message])) : last = .new := by
  induction pdus generalizing assembler outputs with
  | nil =>
    have same := congrArg Prod.snd (Except.ok.inj fed)
    exact absurd same.symm (by simp)
  | cons pdu rest ih =>
    obtain ⟨next, output, later, first, others, same⟩ := feed_cons_ok.mp fed
    cases outputs with
    | nil =>
      obtain ⟨rfl, rfl⟩ := List.cons.inj same
      cases rest with
      | nil =>
        cases others
        exact onPdu_leaves first
      | cons pdu' rest' =>
        obtain ⟨_, _, _, _, _, impossible⟩ := feed_cons_ok.mp others
        cases impossible
    | cons said outputs =>
      obtain ⟨rfl, rfl⟩ := List.cons.inj same
      exact ih others

theorem filterMap_once {α : Type} (count : Nat) (answer : α) :
    (once count answer).filterMap id = [answer] := by
  simp [once]

theorem carries_message {message : Message} {peerMtu : UInt16} (room : 4 ≤ peerMtu)
    (small : label < 16) (fits : Fits peerMtu message) :
    Carries .new (writeMessage label message peerMtu) [assembledOf label message] := by
  have deliverable : Deliverable .new message peerMtu :=
    ⟨by decide, fits.signal, by rcases fits.size with less | ⟨more, -⟩ <;> omega,
      fun _ => .inr rfl⟩
  have delivered : Delivered .new label message peerMtu := by
    rcases fits.size with less | ⟨more, few⟩
    · exact (delivered_single room small less).mpr deliverable
    · exact (delivered_start room small more (few label)).mpr deliverable
  obtain ⟨last, fed⟩ := delivered.2
  obtain rfl := onPdus_leaves fed
  exact ⟨_, fed, filterMap_once ..⟩

theorem Carries.append {pdus more : List Bytes} {messages others : List AssembledMessage}
    (carries : Carries assembler pdus messages) (behind : Carries .new more others) :
    Carries assembler (pdus ++ more) (messages ++ others) := by
  obtain ⟨outputs, fed, rfl⟩ := carries
  obtain ⟨further, fed', rfl⟩ := behind
  refine ⟨outputs ++ further, ?_, List.filterMap_append⟩
  unfold onPdus at fed fed' ⊢
  rw [feed_append, fed]
  show (do
    let (last, further) ← feed onPdu new more
    pure (last, outputs ++ further)) = _
  rw [fed']
  rfl

end Simble.Avdtp
