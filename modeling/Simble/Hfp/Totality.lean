import Simble.Hfp.Chunks

/-! Which streams the two sides get through without a panic, in whatever pieces they come. -/
namespace Simble.Hfp

/-- `raw[1..]` is cut between characters. -/
def CutsWhole (raw : String) : Prop := 1 < raw.utf8ByteSize → ∀ c ∈ raw.toList.head?, c.utf8Size = 1

/-- `max.saturating_sub(min) + 1` fits a `u32`. -/
def Measurable (values : List UInt32) : Prop :=
  (values.getLast?.getD 0).toNat - (values.head?.getD 0).toNat + 1 < 2 ^ 32

def Safe (ranges : List (List UInt32)) (line : Bytes) : Prop :=
  ∀ cmd, AtCommand.parseFrom line = .ok cmd →
    (AgProtocol.commandOf cmd.code cmd.subCode = some .chld →
      ∀ raw, cmd.parameters[0]?.bind AtParameter.asStr = some raw → CutsWhole raw) ∧
    (AgProtocol.commandOf cmd.code cmd.subCode = some .cindTest → ∀ values ∈ ranges, Measurable values)

theorem callHoldParts_ok_iff (raw : String) :
    (∃ parts, AgProtocol.callHoldParts raw = .ok parts) ↔ CutsWhole raw := by
  unfold AgProtocol.callHoldParts CutsWhole
  by_cases long : raw.utf8ByteSize > 1
  · rw [if_pos long]
    cases raw.toList with
    | nil => simp
    | cons first rest =>
      by_cases single : first.utf8Size = 1
      · simp [single]
      · simp [single, long]
  · rw [if_neg long]
    constructor
    · intro _ more
      exact absurd more long
    · intro _
      exact ⟨_, rfl⟩

theorem onTestText_ok_iff (state : AgIndicatorState) :
    (∃ text, state.onTestText = .ok text) ↔ Measurable state.supportedValues := by
  unfold AgIndicatorState.onTestText Measurable
  by_cases fits : (state.supportedValues.getLast?.getD 0).toNat -
      (state.supportedValues.head?.getD 0).toNat + 1 < 2 ^ 32
  · simp only [if_pos fits]
    exact iff_of_true ⟨_, rfl⟩ fits
  · simp only [if_neg fits]
    refine iff_of_false ?_ fits
    rintro ⟨text, same⟩
    cases same

theorem mapM_ok_iff {α β : Type} {f : α → Rust β} {items : List α} :
    (∃ values, items.mapM f = .ok values) ↔ ∀ item ∈ items, ∃ value, f item = .ok value := by
  induction items with
  | nil => exact iff_of_true ⟨[], rfl⟩ (by simp)
  | cons item items ih =>
    rw [List.forall_mem_cons, ← ih, List.mapM_cons]
    cases f item with
    | error stop => simp
    | ok value =>
      cases items.mapM f with
      | error stop => simp
      | ok values => exact iff_of_true ⟨_, rfl⟩ ⟨⟨value, rfl⟩, values, rfl⟩

namespace AgProtocol

def ranges (ag : AgProtocol) : List (List UInt32) := ag.agIndicators.map (·.supportedValues)

section
variable (ag : AgProtocol) (params : List AtParameter)

theorem onChld_ok_iff :
    (∃ reply, ag.onChld params = .ok reply) ↔
      ∀ raw, params[0]?.bind AtParameter.asStr = some raw → CutsWhole raw := by
  unfold onChld
  cases params[0]?.bind AtParameter.asStr with
  | none => simp
  | some raw =>
    have only : (∀ raw', some raw = some raw' → CutsWhole raw') ↔ CutsWhole raw := by simp
    rw [only, ← callHoldParts_ok_iff]
    simp only []
    cases callHoldParts raw with
    | error stop => simp
    | ok parts =>
      refine iff_of_true ?_ ⟨parts, rfl⟩
      rcases parts with _ | ⟨code, callIndex⟩
      · exact ⟨_, rfl⟩
      · simp only [Rust.ok_bind]
        cases CallHoldOperation.fromCode code with
        | none => exact ⟨_, rfl⟩
        | some operation =>
          simp only []
          split_ifs <;> exact ⟨_, rfl⟩

theorem onCindTest_ok_iff :
    (∃ reply, ag.onCindTest = .ok reply) ↔ ∀ values ∈ ag.ranges, Measurable values := by
  have each : (∀ values ∈ ag.ranges, Measurable values) ↔
      ∃ texts, ag.agIndicators.mapM AgIndicatorState.onTestText = .ok texts := by
    rw [mapM_ok_iff, ranges, List.forall_mem_map]
    simp only [onTestText_ok_iff]
  rw [each]
  unfold onCindTest
  by_cases empty : ag.agIndicators.isEmpty = true
  · rw [if_pos empty, List.isEmpty_iff.mp empty]
    exact iff_of_true ⟨_, rfl⟩ ⟨[], rfl⟩
  · rw [if_neg empty]
    cases ag.agIndicators.mapM AgIndicatorState.onTestText with
    | error stop => simp
    | ok texts => exact iff_of_true ⟨_, rfl⟩ ⟨texts, rfl⟩

theorem receiveLine_ok_iff (line : Bytes) :
    (∃ reply, ag.receiveLine line = .ok reply) ↔ Safe ag.ranges line := by
  unfold receiveLine Safe
  cases AtCommand.parseFrom line with
  | error error => simp
  | ok cmd =>
    have only : ∀ P : AtCommand → Prop,
        (∀ cmd', (.ok cmd : Except AtParsingError AtCommand) = .ok cmd' → P cmd') ↔ P cmd := by simp
    rw [only]
    simp only [dispatch]
    cases commandOf cmd.code cmd.subCode with
    | none => simp
    | some command =>
      cases command with
      | chld =>
        simp only [handle, onChld_ok_iff, reduceCtorEq, Option.some.injEq, true_imp_iff,
          false_imp_iff, and_true]
      | cindTest =>
        simp only [handle, onCindTest_ok_iff, reduceCtorEq, Option.some.injEq, true_imp_iff,
          false_imp_iff, true_and]
      | _ => simp [handle]

theorem withFlags_ranges (params : List AtParameter) (states : List AgIndicatorState) :
    (withFlags params states).map (·.supportedValues) = states.map (·.supportedValues) := by
  induction params generalizing states with
  | nil => rfl
  | cons param params ih =>
    cases states with
    | nil => rfl
    | cons state states =>
      rw [withFlags, List.map_cons, List.map_cons, ih]
      cases param.asU32 <;> rfl

theorem setAudioState_agIndicators (state : AudioConnectionState) :
    (ag.setAudioState state).1.agIndicators = ag.agIndicators := by
  unfold setAudioState
  split <;> rfl

/-- No command changes the range of an indicator. -/
theorem handle_ranges {command : Command} {reply : Reply}
    (handled : ag.handle params command = .ok reply) : reply.ag.ranges = ag.ranges := by
  cases command with
  | bcs =>
    cases handled
    unfold onBcs
    split
    · rfl
    · dsimp only
      split
      · exact congrArg (List.map _) (setAudioState_agIndicators _ _)
      · rfl
  | chld =>
    rw [handle, onChld] at handled
    split at handled
    · cases handled
      rfl
    · obtain ⟨parts, -, handled⟩ := Rust.bind_eq_ok.mp handled
      split at handled
      · cases handled
        rfl
      · split at handled
        · cases handled
          rfl
        · split_ifs at handled <;>
          · cases handled
            rfl
  | cindTest =>
    rw [handle, onCindTest] at handled
    split at handled
    · cases handled
      rfl
    · obtain ⟨texts, -, handled⟩ := Rust.bind_eq_ok.mp handled
      cases handled
      rfl
  | biev =>
    cases handled
    unfold onBiev
    dsimp only
    split
    · split <;> rfl
    · rfl
  | bcc =>
    cases handled
    unfold onBcc startAudioConnection
    split
    · rfl
    · split <;> exact congrArg (List.map _) (setAudioState_agIndicators _ _)
  | bia =>
    cases handled
    exact withFlags_ranges params ag.agIndicators
  | chldTest =>
    cases handled
    unfold onChldTest
    split <;> rfl
  | cindRead =>
    cases handled
    unfold onCindRead
    split <;> rfl
  | bind =>
    cases handled
    unfold onBind
    split <;> rfl
  | bindTest =>
    cases handled
    unfold onBindTest
    split <;> rfl
  | bindRead =>
    cases handled
    unfold onBindRead
    split <;> rfl
  | copsSet =>
    cases handled
    unfold onCopsSet
    split <;> rfl
  | copsRead =>
    cases handled
    unfold onCopsRead
    split <;> rfl
  | brsf | bac | bvra | cmer | cmee | ccwa | answer | dial | chup | clcc | clip | vgs | vgm =>
    cases handled
    rfl

theorem receiveLine_ranges {line : Bytes} {reply : Reply} (handled : ag.receiveLine line = .ok reply) :
    reply.ag.ranges = ag.ranges := by
  unfold receiveLine at handled
  split at handled
  · rw [dispatch] at handled
    split at handled
    · exact handle_ranges ag _ handled
    · cases handled
      rfl
  · cases handled
    rfl

end

theorem serveLines_ok_iff (lines : List Bytes) (ag : AgProtocol) :
    (∃ reply, ag.serveLines lines = .ok reply) ↔ ∀ line ∈ lines, Safe ag.ranges line := by
  induction lines generalizing ag with
  | nil => exact iff_of_true ⟨_, rfl⟩ (by simp)
  | cons line lines ih =>
    rw [List.forall_mem_cons, ← receiveLine_ok_iff, serveLines]
    cases handled : ag.receiveLine line with
    | error stop => simp
    | ok first =>
      rw [← receiveLine_ranges ag handled, ← ih first.ag, Rust.ok_bind]
      cases first.ag.serveLines lines with
      | error stop => simp
      | ok rest => exact iff_of_true ⟨_, rfl⟩ ⟨⟨first, rfl⟩, rest, rfl⟩

theorem receive_ok_iff (ag : AgProtocol) (data : Bytes) :
    (∃ reply, ag.receive data = .ok reply) ↔
      ∀ line ∈ (extractCommandLines (ag.readBuffer ++ data)).1, Safe ag.ranges line := by
  have empty : Safe ag.ranges [] := by
    intro cmd parsed
    cases parsed
  rw [receive_serveLines, serveLines_ok_iff]
  constructor
  · intro each line listed
    by_cases none : line = []
    · rw [none]
      exact empty
    · exact each line (List.mem_filter.mpr ⟨listed, decide_eq_true none⟩)
  · intro each line listed
    exact each line (List.mem_filter.mp listed).1

end AgProtocol

/-- A stream comes to the same replies in whatever pieces it comes; and the gateway gets
through it without a panic exactly if each of its lines is safe. -/
theorem hfp_parsers_total_iff (ag : AgProtocol) (stream : Bytes) :
    ((∀ piece pieces, piece ++ pieces.flatten = stream →
        ∃ reply, ag.receive stream = .ok reply ∧ ag.receiveAll (piece :: pieces) = .ok reply) ↔
      ∀ line ∈ (extractCommandLines (ag.readBuffer ++ stream)).1, Safe ag.ranges line) ∧
    ∀ (hf : HfProtocol) piece pieces, piece ++ pieces.flatten = stream →
      hf.receiveAll (piece :: pieces) = hf.receive stream := by
  refine ⟨?_, ?_⟩
  · rw [← AgProtocol.receive_ok_iff]
    constructor
    · intro total
      obtain ⟨reply, received, -⟩ := total stream [] (List.append_nil stream)
      exact ⟨reply, received⟩
    · rintro ⟨reply, received⟩ piece pieces rfl
      refine ⟨reply, received, ?_⟩
      rw [AgProtocol.receiveAll_eq]
      exact received
  · rintro hf piece pieces rfl
    exact hf.receiveAll_eq piece pieces

/-- An operation that begins with a character of two octets. -/
theorem not_total_chld : (AgProtocol.new ⟨0, [], [], [], []⟩).receive (utf8 "AT+CHLD=é\r") =
    .error .panic := rfl

end Simble.Hfp
