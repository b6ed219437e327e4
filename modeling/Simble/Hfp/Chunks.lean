import Simble.Hfp.Lines

/-! A stream cut into pieces: what `receive` makes of the pieces, one after the other, is what
it makes of the whole stream. -/
namespace Simble.Hfp
open List

theorem ite_map {α β : Type} (f : α → β) {c : Prop} {decidable decidable' : Decidable c}
    {first second : α} {first' second' : β} (holds : first' = f first) (fails : second' = f second) :
    @ite _ c decidable first' second' = f (@ite _ c decidable' first second) := by
  by_cases either : c
  · rw [if_pos either, if_pos either, holds]
  · rw [if_neg either, if_neg either, fails]

/-! ## The audio gateway -/

def Reply.withBuffer (reply : Reply) (buffer : Bytes) : Reply :=
  { reply with ag := { reply.ag with readBuffer := buffer } }

def Reply.followedBy (first rest : Reply) : Reply :=
  ⟨rest.ag, first.outgoing ++ rest.outgoing, first.events ++ rest.events⟩

namespace AgProtocol

def withBuffer (ag : AgProtocol) (buffer : Bytes) : AgProtocol := { ag with readBuffer := buffer }

section
variable (ag : AgProtocol) (buffer : Bytes) (params : List AtParameter)

theorem setAudioState_withBuffer (state : AudioConnectionState) :
    (ag.withBuffer buffer).setAudioState state =
      ((ag.setAudioState state).1.withBuffer buffer, (ag.setAudioState state).2) :=
  ite_map (fun changed : AgProtocol × List HfpEvent => (changed.1.withBuffer buffer, changed.2)) rfl rfl

theorem onBcs_withBuffer :
    (ag.withBuffer buffer).onBcs params = (ag.onBcs params).withBuffer buffer := by
  unfold onBcs
  cases namedCodec params with
  | none => rfl
  | some codec =>
    refine ite_map (Reply.withBuffer · buffer) ?_ rfl
    have moved := setAudioState_withBuffer { ag with activeCodec := codec } buffer .connecting
    exact congrArg (fun changed : AgProtocol × List HfpEvent => Reply.mk changed.1 [ok]
      (.codecNegotiated codec :: changed.2 ++ [.audioConnectionRequested codec])) moved

theorem onBiev_withBuffer :
    (ag.withBuffer buffer).onBiev params = (ag.onBiev params).withBuffer buffer := by
  have supports : (ag.withBuffer buffer).supportsAgFeature AgFeature.hfIndicators =
      ag.supportsAgFeature AgFeature.hfIndicators := rfl
  unfold onBiev
  rw [supports]
  cases ag.supportsAgFeature AgFeature.hfIndicators with
  | false => rfl
  | true =>
    cases (numberAt params 0).bind fun v => HfIndicator.fromValue v.toUInt8 with
    | none => rfl
    | some indicator =>
      cases numberAt params 1 with
      | none => rfl
      | some value =>
        simp only [withBuffer]
        cases ag.hfIndicators.find? (·.1 = indicator) with
        | none => rfl
        | some entry => rfl

theorem startAudioConnection_withBuffer :
    (ag.withBuffer buffer).startAudioConnection = ag.startAudioConnection.withBuffer buffer := by
  refine ite_map (Reply.withBuffer · buffer) rfl ?_
  have same : (ag.withBuffer buffer).codecToNegotiate = ag.codecToNegotiate := rfl
  rw [same]
  cases ag.codecToNegotiate with
  | some codec =>
    have moved := setAudioState_withBuffer { ag with activeCodec := codec } buffer .negotiating
    exact congrArg (fun changed : AgProtocol × List HfpEvent =>
      Reply.mk changed.1 [negotiateCodec codec] changed.2) moved
  | none =>
    have moved := setAudioState_withBuffer { ag with activeCodec := .cvsd } buffer .connecting
    exact congrArg (fun changed : AgProtocol × List HfpEvent =>
      Reply.mk changed.1 [] (changed.2 ++ [.audioConnectionRequested .cvsd])) moved

theorem onBcc_withBuffer : (ag.withBuffer buffer).onBcc = ag.onBcc.withBuffer buffer :=
  congrArg (fun started : Reply => Reply.mk started.ag (ok :: started.outgoing)
    (.codecConnectionRequested :: started.events)) (startAudioConnection_withBuffer ag buffer)

theorem onChld_withBuffer :
    (ag.withBuffer buffer).onChld params =
      (ag.onChld params).map fun reply => reply.withBuffer buffer := by
  unfold onChld
  cases params[0]?.bind AtParameter.asStr with
  | none => rfl
  | some raw =>
    simp only []
    cases callHoldParts raw with
    | error stop => rfl
    | ok parts =>
      rcases parts with _ | ⟨code, callIndex⟩
      · rfl
      · simp only [Rust.ok_bind]
        cases CallHoldOperation.fromCode code with
        | none => rfl
        | some operation =>
          exact ite_map (Except.map fun reply : Reply => reply.withBuffer buffer) rfl
            (ite_map (Except.map fun reply : Reply => reply.withBuffer buffer) rfl rfl)

theorem onCindTest_withBuffer :
    (ag.withBuffer buffer).onCindTest =
      ag.onCindTest.map fun reply => reply.withBuffer buffer := by
  refine ite_map (Except.map fun reply : Reply => reply.withBuffer buffer) rfl ?_
  simp only [withBuffer]
  cases ag.agIndicators.mapM AgIndicatorState.onTestText <;> rfl

/-- No command looks at the octets of an unfinished line, or touches them. -/
theorem handle_withBuffer (command : Command) :
    (ag.withBuffer buffer).handle params command =
      (ag.handle params command).map fun reply => reply.withBuffer buffer := by
  cases command with
  | bcs => exact congrArg Except.ok (onBcs_withBuffer ag buffer params)
  | chld => exact onChld_withBuffer ag buffer params
  | chldTest => exact congrArg Except.ok (ite_map (Reply.withBuffer · buffer) rfl rfl)
  | cindTest => exact onCindTest_withBuffer ag buffer
  | cindRead => exact congrArg Except.ok (ite_map (Reply.withBuffer · buffer) rfl rfl)
  | bind => exact congrArg Except.ok (ite_map (Reply.withBuffer · buffer) rfl rfl)
  | bindTest => exact congrArg Except.ok (ite_map (Reply.withBuffer · buffer) rfl rfl)
  | bindRead => exact congrArg Except.ok (ite_map (Reply.withBuffer · buffer) rfl rfl)
  | biev => exact congrArg Except.ok (onBiev_withBuffer ag buffer params)
  | bcc => exact congrArg Except.ok (onBcc_withBuffer ag buffer)
  | copsSet => exact congrArg Except.ok (ite_map (Reply.withBuffer · buffer) rfl rfl)
  | copsRead => exact congrArg Except.ok (ite_map (Reply.withBuffer · buffer) rfl rfl)
  | brsf | bac | bvra | cmer | cmee | ccwa | bia | answer | dial | chup | clcc | clip | vgs | vgm =>
    rfl

theorem receiveLine_withBuffer (line : Bytes) :
    (ag.withBuffer buffer).receiveLine line =
      (ag.receiveLine line).map fun reply => reply.withBuffer buffer := by
  unfold receiveLine
  cases AtCommand.parseFrom line with
  | error error => rfl
  | ok cmd =>
    simp only [dispatch]
    cases commandOf cmd.code cmd.subCode with
    | none => rfl
    | some command => exact handle_withBuffer ag buffer cmd.parameters command

end

def serveLines (ag : AgProtocol) : List Bytes → Rust Reply
  | [] => .ok ⟨ag, [], []⟩
  | line :: lines => do
    let first ← ag.receiveLine line
    let rest ← first.ag.serveLines lines
    return first.followedBy rest

theorem foldlM_serveLines (lines : List Bytes) (ag : AgProtocol) (outgoing : List Bytes)
    (events : List HfpEvent) :
    lines.foldlM (fun reply line => do
        let next ← reply.ag.receiveLine line
        return Reply.mk next.ag (reply.outgoing ++ next.outgoing) (reply.events ++ next.events))
      ⟨ag, outgoing, events⟩ =
    (ag.serveLines lines).map fun reply => Reply.followedBy ⟨ag, outgoing, events⟩ reply := by
  induction lines generalizing ag outgoing events with
  | nil =>
    rw [foldlM_nil, serveLines]
    simp only [Except.map, Reply.followedBy, append_nil]
    rfl
  | cons line lines ih =>
    rw [foldlM_cons, serveLines]
    cases ag.receiveLine line with
    | error stop => rfl
    | ok next =>
      simp only [Rust.ok_bind]
      apply (ih next.ag _ _).trans
      cases next.ag.serveLines lines with
      | error stop => rfl
      | ok rest =>
        simp only [Except.map, Rust.ok_bind, pure, Except.pure, Reply.followedBy, append_assoc]

theorem receive_serveLines (ag : AgProtocol) (data : Bytes) :
    ag.receive data =
      (ag.withBuffer (extractCommandLines (ag.readBuffer ++ data)).2).serveLines
        ((extractCommandLines (ag.readBuffer ++ data)).1.filter (· ≠ [])) := by
  apply (foldlM_serveLines _ _ [] []).trans
  show Except.map _ (serveLines (ag.withBuffer _) _) = _
  cases serveLines (ag.withBuffer _) _ <;> rfl

theorem serveLines_append (first second : List Bytes) (ag : AgProtocol) :
    ag.serveLines (first ++ second) = do
      let front ← ag.serveLines first
      let back ← front.ag.serveLines second
      return front.followedBy back := by
  induction first generalizing ag with
  | nil =>
    rw [nil_append, serveLines, Rust.ok_bind]
    cases ag.serveLines second <;> rfl
  | cons line first ih =>
    rw [cons_append, serveLines, serveLines]
    cases ag.receiveLine line with
    | error stop => rfl
    | ok next =>
      simp only [Rust.ok_bind, ih next.ag]
      cases next.ag.serveLines first with
      | error stop => rfl
      | ok front =>
        simp only [Rust.ok_bind, pure, Except.pure]
        have same : (next.followedBy front).ag = front.ag := rfl
        rw [same]
        cases front.ag.serveLines second with
        | error stop => rfl
        | ok back =>
          simp only [Rust.ok_bind, Reply.followedBy, append_assoc]

theorem serveLines_withBuffer (lines : List Bytes) (ag : AgProtocol) (buffer : Bytes) :
    (ag.withBuffer buffer).serveLines lines =
      (ag.serveLines lines).map fun reply => reply.withBuffer buffer := by
  induction lines generalizing ag with
  | nil => rfl
  | cons line lines ih =>
    rw [serveLines, serveLines, receiveLine_withBuffer]
    cases ag.receiveLine line with
    | error stop => rfl
    | ok next =>
      have same : (next.withBuffer buffer).ag = next.ag.withBuffer buffer := rfl
      simp only [Except.map, Rust.ok_bind]
      rw [same, ih]
      cases next.ag.serveLines lines <;> rfl

end AgProtocol

/-! ## Lines of a stream in two parts -/

theorem extractCommandLines_split (front back : Bytes) :
    extractCommandLines (front ++ back) =
      ((extractCommandLines front).1 ++ (extractCommandLines ((extractCommandLines front).2 ++ back)).1,
        (extractCommandLines ((extractCommandLines front).2 ++ back)).2) := by
  induction front with
  | nil => rfl
  | cons byte front ih =>
    rw [cons_append, extractCommandLines, ih, extractCommandLines]
    by_cases ends : byte = 0x0D
    · simp only [if_pos ends]
      rfl
    · simp only [if_neg ends]
      cases (extractCommandLines front).1 with
      | cons line lines => rfl
      | nil =>
        simp only [nil_append, cons_append]
        rw [extractCommandLines]
        simp only [if_neg ends]

theorem findCrlf_extend {front before behind : Bytes} (found : findCrlf front = some (before, behind))
    (back : Bytes) : findCrlf (front ++ back) = some (before, behind ++ back) := by
  induction front generalizing before behind with
  | nil => cases found
  | cons byte front ih =>
    rw [cons_append, findCrlf]
    rw [findCrlf] at found
    cases front with
    | nil =>
      rw [if_neg fun both => by cases both.2] at found
      cases found
    | cons next front =>
      by_cases ends : byte = 0x0D ∧ (next :: front).head? = some 0x0A
      · rw [if_pos ends] at found
        cases found
        exact if_pos ends
      · rw [if_neg ends] at found
        obtain ⟨⟨inner, later⟩, there, same⟩ := Option.map_eq_some_iff.mp found
        cases same
        have ends' : ¬ (byte = 0x0D ∧ (next :: front ++ back).head? = some 0x0A) := ends
        rw [if_neg ends', ih there]
        rfl

theorem extractResponseLines_split (front back : Bytes) :
    extractResponseLines (front ++ back) =
      ((extractResponseLines front).1 ++
          (extractResponseLines ((extractResponseLines front).2 ++ back)).1,
        (extractResponseLines ((extractResponseLines front).2 ++ back)).2) := by
  induction front using extractResponseLines.induct with
  | case1 front open' =>
    have kept : extractResponseLines front = ([], front) := by
      apply extractResponseLines_open
      intro before rest found
      rw [open'] at found
      cases found
    rw [kept]
    rfl
  | case2 front before rest header open' =>
    have kept : extractResponseLines front = ([], front) := by
      apply extractResponseLines_open
      intro before' rest' found
      rw [header] at found
      cases found
      exact open'
    rw [kept]
    rfl
  | case3 front before rest header line behind trailer lines left extracted ih =>
    have here (tail : Bytes) : extractResponseLines (front ++ tail) =
        (line :: (extractResponseLines (behind ++ tail)).1,
          (extractResponseLines (behind ++ tail)).2) := by
      have header' := findCrlf_extend header tail
      have trailer' := findCrlf_extend trailer tail
      rw [extractResponseLines]
      split
      · rename_i none
        rw [header'] at none
        cases none
      · rename_i found
        rw [header'] at found
        cases found
        split
        · rename_i none
          rw [trailer'] at none
          cases none
        · rename_i found'
          rw [trailer'] at found'
          cases found'
          rfl
    have alone := here []
    rw [append_nil, append_nil] at alone
    rw [here back, alone, ih]
    rfl

/-- What `receive` makes of a stream in two parts. -/
theorem AgProtocol.receive_append (ag : AgProtocol) (front back : Bytes) :
    ag.receive (front ++ back) = do
      let first ← ag.receive front
      let rest ← first.ag.receive back
      return first.followedBy rest := by
  rw [receive_serveLines, ← append_assoc, extractCommandLines_split, filter_append,
    serveLines_append, receive_serveLines, serveLines_withBuffer, serveLines_withBuffer]
  cases ag.serveLines ((extractCommandLines (ag.readBuffer ++ front)).1.filter (· ≠ [])) with
  | error stop => rfl
  | ok first =>
    simp only [Except.map, Rust.ok_bind]
    rw [receive_serveLines]
    have moved : ∀ lines left, ((first.withBuffer left).ag.withBuffer
        (extractCommandLines ((first.withBuffer left).ag.readBuffer ++ back)).2).serveLines lines =
          (first.ag.serveLines lines).map fun reply =>
            reply.withBuffer (extractCommandLines (left ++ back)).2 :=
      fun lines left => serveLines_withBuffer lines first.ag _
    rw [moved]
    have again : ∀ buffer lines, (first.withBuffer buffer).ag.serveLines lines =
        (first.ag.serveLines lines).map fun reply => reply.withBuffer buffer :=
      fun buffer lines => serveLines_withBuffer lines first.ag buffer
    rw [again]
    show _ = (Except.map _ (first.ag.serveLines ((extractCommandLines
      ((extractCommandLines (ag.readBuffer ++ front)).2 ++ back)).1.filter (· ≠ [])))).bind _
    cases first.ag.serveLines ((extractCommandLines
      ((extractCommandLines (ag.readBuffer ++ front)).2 ++ back)).1.filter (· ≠ [])) <;> rfl

/-- The pieces of a stream, one `receive` after the other. -/
def AgProtocol.receiveAll (ag : AgProtocol) : List Bytes → Rust Reply
  | [] => .ok ⟨ag, [], []⟩
  | piece :: pieces => do
    let first ← ag.receive piece
    let rest ← first.ag.receiveAll pieces
    return first.followedBy rest

theorem AgProtocol.receiveAll_eq (ag : AgProtocol) (piece : Bytes) (pieces : List Bytes) :
    ag.receiveAll (piece :: pieces) = ag.receive (piece ++ pieces.flatten) := by
  induction pieces generalizing ag piece with
  | nil =>
    rw [receiveAll, flatten_nil, append_nil]
    cases ag.receive piece with
    | error stop => rfl
    | ok first =>
      simp only [Rust.ok_bind, receiveAll, pure, Except.pure, Reply.followedBy, append_nil]
  | cons next pieces ih =>
    rw [receiveAll, flatten_cons, receive_append]
    cases ag.receive piece with
    | error stop => rfl
    | ok first =>
      simp only [Rust.ok_bind]
      rw [ih first.ag next]

/-! ## The hands-free side -/

def HfReply.withBuffer (reply : HfReply) (buffer : Bytes) : HfReply :=
  { reply with hf := { reply.hf with readBuffer := buffer } }

def HfReply.followedBy (first rest : HfReply) : HfReply :=
  ⟨rest.hf, first.outgoing ++ rest.outgoing, first.events ++ rest.events⟩

open HfReply

namespace HfProtocol

def withBuffer (hf : HfProtocol) (buffer : Bytes) : HfProtocol := { hf with readBuffer := buffer }

section
variable (hf : HfProtocol) (buffer : Bytes)

theorem startHfIndicatorsOrFinish_withBuffer :
    (hf.withBuffer buffer).startHfIndicatorsOrFinish =
      hf.startHfIndicatorsOrFinish.withBuffer buffer :=
  ite_map (HfReply.withBuffer · buffer) rfl rfl

theorem advanceSlc_withBuffer (step : SlcStep) (responses : List AtResponse) :
    (hf.withBuffer buffer).advanceSlc step responses =
      (hf.advanceSlc step responses).withBuffer buffer := by
  cases step with
  | brsf => exact ite_map (HfReply.withBuffer · buffer) rfl rfl
  | cmer =>
    exact ite_map (HfReply.withBuffer · buffer) rfl (startHfIndicatorsOrFinish_withBuffer hf buffer)
  | chldTest =>
    simp only [advanceSlc]
    cases (responses.head?.map AtResponse.parameters).bind (·[0]?) with
    | none => exact startHfIndicatorsOrFinish_withBuffer hf buffer
    | some parameter =>
      cases parameter with
      | value bytes => exact startHfIndicatorsOrFinish_withBuffer hf buffer
      | list operations =>
        exact startHfIndicatorsOrFinish_withBuffer
          { hf with supportedAgCallHoldOperations := _ } buffer
  | bindTest =>
    simp only [advanceSlc]
    cases (responses.head?.map AtResponse.parameters).bind (·[0]?) with
    | none => rfl
    | some parameter => cases parameter <;> rfl
  | bac | cindTest | cindRead | bind | bindRead => rfl

theorem handleUnsolicited_withBuffer (response : AtResponse) :
    (hf.withBuffer buffer).handleUnsolicited response =
      (hf.handleUnsolicited response).withBuffer buffer := by
  refine ite_map (HfReply.withBuffer · buffer) ?_ (ite_map (HfReply.withBuffer · buffer) ?_ rfl)
  · unfold onBcs
    cases (AgProtocol.numberAt response.parameters 0).bind fun v =>
        AudioCodec.fromValue v.toUInt8 with
    | none => rfl
    | some codec =>
      have moved : ({ hf with activeCodec := codec }.withBuffer buffer).setAudioState .connecting =
          (({ hf with activeCodec := codec }.setAudioState .connecting).1.withBuffer buffer,
            ({ hf with activeCodec := codec }.setAudioState .connecting).2) :=
        ite_map (fun changed : HfProtocol × List HfEvent =>
          (changed.1.withBuffer buffer, changed.2)) rfl rfl
      exact congrArg (fun changed : HfProtocol × List HfEvent => HfReply.mk changed.1
        [commandBytes s!"AT+BCS={codec.toValue}"] (.codecNegotiated codec :: changed.2)) moved
  · unfold onCiev
    cases AgProtocol.numberAt response.parameters 0 with
    | none => rfl
    | some index =>
      cases AgProtocol.numberAt response.parameters 1 with
      | none => rfl
      | some value =>
        refine ite_map (HfReply.withBuffer · buffer) rfl ?_
        simp only [withBuffer]
        cases hf.agIndicators[index.toNat - 1]? <;> rfl

theorem handleLine_withBuffer (line : Bytes) :
    (hf.withBuffer buffer).handleLine line = (hf.handleLine line).withBuffer buffer := by
  refine ite_map (HfReply.withBuffer · buffer) rfl ?_
  cases AtResponse.parseFrom line with
  | error error => rfl
  | ok response =>
    apply ite_map (HfReply.withBuffer · buffer) (handleUnsolicited_withBuffer hf buffer response)
    refine ite_map (HfReply.withBuffer · buffer) ?_ (ite_map (HfReply.withBuffer · buffer) rfl rfl)
    simp only [withBuffer]
    cases hf.slcStep with
    | none => rfl
    | some step =>
      exact advanceSlc_withBuffer
        { hf with pendingCommand := none, pendingResponses := [], slcStep := none } buffer step
        hf.pendingResponses

end

def hearLines (hf : HfProtocol) : List Bytes → HfReply
  | [] => ⟨hf, [], []⟩
  | line :: lines => (hf.handleLine line).followedBy ((hf.handleLine line).hf.hearLines lines)

theorem foldl_hearLines (lines : List Bytes) (hf : HfProtocol) (outgoing : List Bytes)
    (events : List HfEvent) :
    lines.foldl (fun reply line =>
        let next := reply.hf.handleLine line
        HfReply.mk next.hf (reply.outgoing ++ next.outgoing) (reply.events ++ next.events))
      ⟨hf, outgoing, events⟩ =
    followedBy ⟨hf, outgoing, events⟩ (hf.hearLines lines) := by
  induction lines generalizing hf outgoing events with
  | nil => simp [hearLines, followedBy]
  | cons line lines ih =>
    rw [foldl_cons, ih, hearLines]
    simp [followedBy]

theorem receive_hearLines (hf : HfProtocol) (data : Bytes) :
    hf.receive data =
      (hf.withBuffer (extractResponseLines (hf.readBuffer ++ data)).2).hearLines
        (extractResponseLines (hf.readBuffer ++ data)).1 :=
  (foldl_hearLines _ _ [] []).trans rfl

theorem hearLines_append (first second : List Bytes) (hf : HfProtocol) :
    hf.hearLines (first ++ second) =
      (hf.hearLines first).followedBy ((hf.hearLines first).hf.hearLines second) := by
  induction first generalizing hf with
  | nil => rfl
  | cons line first ih =>
    rw [cons_append, hearLines, hearLines, ih]
    simp [followedBy]

theorem hearLines_withBuffer (lines : List Bytes) (hf : HfProtocol) (buffer : Bytes) :
    (hf.withBuffer buffer).hearLines lines = (hf.hearLines lines).withBuffer buffer := by
  induction lines generalizing hf with
  | nil => rfl
  | cons line lines ih =>
    have same : ((hf.handleLine line).withBuffer buffer).hf =
        (hf.handleLine line).hf.withBuffer buffer := rfl
    rw [hearLines, hearLines, handleLine_withBuffer, same, ih]
    rfl

theorem receive_append (hf : HfProtocol) (front back : Bytes) :
    hf.receive (front ++ back) =
      (hf.receive front).followedBy ((hf.receive front).hf.receive back) := by
  rw [receive_hearLines, ← append_assoc, extractResponseLines_split, hearLines_append,
    receive_hearLines hf front, hearLines_withBuffer, hearLines_withBuffer, receive_hearLines]
  have moved : ∀ (reply : HfReply) left lines, ((reply.withBuffer left).hf.withBuffer
      (extractResponseLines ((reply.withBuffer left).hf.readBuffer ++ back)).2).hearLines lines =
        (reply.hf.hearLines lines).withBuffer (extractResponseLines (left ++ back)).2 :=
    fun reply left lines => hearLines_withBuffer lines reply.hf _
  have again : ∀ (reply : HfReply) buffer lines, (reply.withBuffer buffer).hf.hearLines lines =
      (reply.hf.hearLines lines).withBuffer buffer :=
    fun reply buffer lines => hearLines_withBuffer lines reply.hf buffer
  rw [moved, again]
  rfl

/-- The pieces of a stream, one `receive` after the other. -/
def receiveAll (hf : HfProtocol) : List Bytes → HfReply
  | [] => ⟨hf, [], []⟩
  | piece :: pieces => (hf.receive piece).followedBy ((hf.receive piece).hf.receiveAll pieces)

theorem receiveAll_eq (hf : HfProtocol) (piece : Bytes) (pieces : List Bytes) :
    hf.receiveAll (piece :: pieces) = hf.receive (piece ++ pieces.flatten) := by
  induction pieces generalizing hf piece with
  | nil =>
    rw [receiveAll, receiveAll, flatten_nil, append_nil]
    simp [followedBy]
  | cons next pieces ih =>
    rw [receiveAll, ih, flatten_cons, receive_append hf piece]

end HfProtocol
end Simble.Hfp
