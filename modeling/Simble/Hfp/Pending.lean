import Simble.Hfp.Lines

/-! What a line does to the command that is pending at the hands-free side. -/
namespace Simble.Hfp

/-! ## Texts of one line -/

def OneLine (text : String) : Prop := text ≠ "" ∧ '\r' ∉ text.toList

theorem return_not_mem_repr (n : Nat) : '\r' ∉ (toString n).toList := by
  intro inside
  have digit : Char.isDigit '\r' := by
    apply @Nat.isDigit_of_mem_toDigits 10 n '\r' (by decide) (by decide)
    rwa [← Nat.toList_repr]
  exact absurd digit (by decide)

theorem return_not_mem_joinComma {texts : List String} (clean : ∀ text ∈ texts, '\r' ∉ text.toList) :
    '\r' ∉ (joinComma texts).toList := by
  unfold joinComma
  induction texts with
  | nil => exact fun inside => absurd inside (by decide)
  | cons text rest ih =>
    have first := clean text List.mem_cons_self
    have later := ih fun other inside => clean other (List.mem_cons_of_mem _ inside)
    cases rest with
    | nil => rwa [String.intercalate_singleton]
    | cons second rest =>
      rw [String.intercalate_cons_cons, String.toList_append, String.toList_append, List.mem_append,
        List.mem_append]
      rintro ((inside | inside) | inside)
      · exact first inside
      · exact absurd inside (by decide)
      · exact later inside

theorem oneLine_append {front back : String} (first : front ≠ "") (clean : '\r' ∉ front.toList)
    (clean' : '\r' ∉ back.toList) : OneLine (front ++ back) := by
  constructor
  · intro empty
    have both := congrArg String.toList empty
    rw [String.toList_append] at both
    exact first (String.toList_inj.mp (List.append_eq_nil_iff.mp both).1)
  · rw [String.toList_append, List.mem_append]
    exact not_or.mpr ⟨clean, clean'⟩

theorem OneLine.clean {text : String} (oneLine : OneLine text) : (0x0D : UInt8) ∉ utf8 text := by
  intro inside
  obtain ⟨c, among, same⟩ := mem_utf8_ascii (by decide) inside
  have return' : c = '\r' := Char.ext (UInt32.toNat_inj.mp same)
  exact oneLine.2 (return' ▸ among)

theorem OneLine.nonempty {text : String} (oneLine : OneLine text) : utf8 text ≠ [] := by
  intro empty
  have same := fromUtf8_utf8 text
  rw [empty] at same
  exact oneLine.1 (Option.some.inj (same.symm.trans (fromUtf8_utf8 "")))

/-! ## Commands that a line begins -/

namespace HfProtocol

/-- What is pending, and the octets of a line that is not whole. -/
structure SamePending (hf after : HfProtocol) : Prop where
  command : after.pendingCommand = hf.pendingCommand
  responses : after.pendingResponses = hf.pendingResponses
  buffer : after.readBuffer = hf.readBuffer

/-- A reply that begins a command of one line, or none. -/
def Continues (hf : HfProtocol) (reply : HfReply) : Prop :=
  (SamePending hf reply.hf ∧ reply.outgoing = []) ∨
  ∃ text, reply.hf.pendingCommand = some text ∧ reply.hf.pendingResponses = [] ∧
    reply.hf.readBuffer = hf.readBuffer ∧ reply.outgoing = [commandBytes text] ∧ OneLine text

variable (hf : HfProtocol)

theorem onlyBegin_continues {before : HfProtocol} (buffer : hf.readBuffer = before.readBuffer)
    {command : String} (oneLine : OneLine command) (step : SlcStep) :
    Continues before (hf.onlyBegin command step) :=
  .inr ⟨command, rfl, rfl, buffer, rfl, oneLine⟩

theorem startHfIndicatorsOrFinish_continues {before : HfProtocol} (same : SamePending before hf) :
    Continues before hf.startHfIndicatorsOrFinish := by
  unfold startHfIndicatorsOrFinish
  split
  · refine hf.onlyBegin_continues same.buffer ?_ .bind
    apply @oneLine_append "AT+BIND=" _ (by decide) (by decide)
    refine return_not_mem_joinComma fun text inside => ?_
    obtain ⟨entry, -, rfl⟩ := List.mem_map.mp inside
    exact return_not_mem_repr _
  · exact .inl ⟨⟨same.command, same.responses, same.buffer⟩, rfl⟩

theorem advanceSlc_continues (step : SlcStep) (responses : List AtResponse) :
    Continues hf (hf.advanceSlc step responses) := by
  have fixed (command : String) (step : SlcStep) (after : HfProtocol) (oneLine : OneLine command)
      (buffer : after.readBuffer = hf.readBuffer) : Continues hf (after.onlyBegin command step) :=
    after.onlyBegin_continues buffer oneLine step
  cases step with
  | brsf =>
    simp only [advanceSlc]
    split
    · refine fixed _ _ _ ?_ rfl
      apply @oneLine_append "AT+BAC=" _ (by decide) (by decide)
      refine return_not_mem_joinComma fun text inside => ?_
      obtain ⟨codec, -, rfl⟩ := List.mem_map.mp inside
      exact return_not_mem_repr _
    · exact fixed "AT+CIND=?" _ _ ⟨by decide, by decide⟩ rfl
  | bac => exact fixed "AT+CIND=?" _ _ ⟨by decide, by decide⟩ rfl
  | cindTest => exact fixed "AT+CIND?" _ _ ⟨by decide, by decide⟩ rfl
  | cindRead => exact fixed "AT+CMER=3,,,1" _ _ ⟨by decide, by decide⟩ rfl
  | cmer =>
    simp only [advanceSlc]
    split
    · exact fixed "AT+CHLD=?" _ _ ⟨by decide, by decide⟩ rfl
    · exact hf.startHfIndicatorsOrFinish_continues ⟨rfl, rfl, rfl⟩
  | chldTest =>
    apply startHfIndicatorsOrFinish_continues _
    split <;> exact ⟨rfl, rfl, rfl⟩
  | bind => exact fixed "AT+BIND=?" _ _ ⟨by decide, by decide⟩ rfl
  | bindTest =>
    refine fixed "AT+BIND?" _ _ ⟨by decide, by decide⟩ ?_
    split <;> rfl
  | bindRead => exact .inl ⟨⟨rfl, rfl, rfl⟩, rfl⟩

/-! ## Lines -/

theorem handleUnsolicited_same (response : AtResponse) :
    SamePending hf (hf.handleUnsolicited response).hf ∧
    ((hf.handleUnsolicited response).outgoing = [] ∨ ∃ codec : AudioCodec,
      (hf.handleUnsolicited response).outgoing = [commandBytes s!"AT+BCS={codec.toValue}"]) := by
  unfold handleUnsolicited
  split
  · unfold onBcs
    split
    · exact ⟨⟨rfl, rfl, rfl⟩, .inl rfl⟩
    · rename_i codec _
      simp only [setAudioState]
      split <;> exact ⟨⟨rfl, rfl, rfl⟩, .inr ⟨codec, rfl⟩⟩
  · split
    · unfold onCiev
      split
      · split
        · exact ⟨⟨rfl, rfl, rfl⟩, .inl rfl⟩
        · split <;> exact ⟨⟨rfl, rfl, rfl⟩, .inl rfl⟩
      · exact ⟨⟨rfl, rfl, rfl⟩, .inl rfl⟩
    · exact ⟨⟨rfl, rfl, rfl⟩, .inl rfl⟩

variable {hf} {response : AtResponse}

theorem handleResponse_unasked (apart : hf.takes response = false) :
    hf.handleResponse response = hf.handleUnsolicited response := by
  rw [handleResponse, if_pos (by rw [apart]; decide)]

theorem handleResponse_information (takes : hf.takes response = true)
    (open' : statusCodes.contains response.code = false) :
    hf.handleResponse response =
      ⟨{ hf with pendingResponses := hf.pendingResponses ++ [response] }, [], []⟩ := by
  have other : response.code ≠ "OK" := by
    rintro same
    rw [same] at open'
    exact absurd open' (by decide)
  rw [handleResponse, if_neg (by rw [takes]; decide)]
  simp only [if_neg other]
  rw [if_neg (by rw [open']; decide)]

/-- A result ends the command, and begins another only in the set-up. -/
theorem handleResponse_result (takes : hf.takes response = true)
    (status : statusCodes.contains response.code = true) :
    Continues { hf with pendingCommand := none, pendingResponses := [] } (hf.handleResponse response) ∧
    (hf.slcStep = none → (hf.handleResponse response).hf.pendingCommand = none) := by
  rw [handleResponse, if_neg (by rw [takes]; decide)]
  by_cases ok : response.code = "OK"
  · rw [if_pos ok]
    cases hf.slcStep with
    | none => exact ⟨.inl ⟨⟨rfl, rfl, rfl⟩, rfl⟩, fun _ => rfl⟩
    | some step =>
      have continues := advanceSlc_continues
        { hf with pendingCommand := none, pendingResponses := [], slcStep := none } step
        hf.pendingResponses
      exact ⟨continues.imp (fun same => ⟨⟨same.1.1, same.1.2, same.1.3⟩, same.2⟩) id,
        fun none => by cases none⟩
  · rw [if_neg ok, if_pos status]
    exact ⟨.inl ⟨⟨rfl, rfl, rfl⟩, rfl⟩, fun _ => rfl⟩

end HfProtocol

end Simble.Hfp
