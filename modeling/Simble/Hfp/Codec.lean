import Simble.Hfp.Audio

/-! On which codec an audio gateway asks for an audio connection, over every
history of octets and calls. -/
namespace Simble.Hfp
open Simble.Lib AgProtocol List

/-! ## What is to hold -/

def Opens (codec : AudioCodec) (done : Done) : Prop :=
  .audioConnectionState .negotiating ∈ done.events ∧ negotiateCodec codec ∈ done.outgoing

/-- The turn leaves the procedure where it is. -/
def Still (done : Done) : Prop := ∀ state, .audioConnectionState state ∉ done.events

/-- The codec was offered to open the procedure, the turn is an `AT+BCS` for that
codec, and both ends reported it. -/
structure Agreed (earlier : List Done) (done : Done) (codec : AudioCodec) : Prop where
  offered : Since (Opens codec) Still earlier
  confirmed : Names done.turn codec.toValue.toUInt32 codec
  own : codec ∈ done.before.supportedAudioCodecs
  reported : codec ∈ done.before.hfAudioCodecs

/-- An end without codec negotiation, or no codec that both have. -/
def NothingToNegotiate (ag : AgProtocol) : Prop :=
  ag.supportsAgFeature AgFeature.codecNegotiation = false ∨
    ag.supportsHfFeature HfFeature.codecNegotiation = false ∨
    ∀ codec ∈ ag.supportedAudioCodecs, codec ∉ ag.hfAudioCodecs

/-- Every audio connection is asked for on a codec both ends agreed to, or on
CVSD where there is nothing to negotiate. -/
def CodecAgreement : List Done → Prop :=
  Each fun earlier done => ∀ codec, .audioConnectionRequested codec ∈ done.events →
    Agreed earlier done codec ∨ (codec = .cvsd ∧ NothingToNegotiate done.before)

def HfpEvent.isRequest : HfpEvent → Bool
  | .audioConnectionRequested _ => true
  | _ => false

def Requests (done : Done) : Prop := ∃ codec, .audioConnectionRequested codec ∈ done.events

def Disconnects (done : Done) : Prop := .audioConnectionState .disconnected ∈ done.events

/-- A turn asks for at most one audio connection, and for none between the last
one and the end of its procedure. -/
def OncePerProcedure : List Done → Prop :=
  Each fun earlier done => done.events.countP HfpEvent.isRequest ≤ 1 ∧
    (Requests done → ¬ Since Requests (fun other => ¬ Disconnects other) earlier)

def OwnCodec (ag : AgProtocol) : Prop :=
  ag.activeCodec = .cvsd ∨ ag.activeCodec ∈ ag.supportedAudioCodecs

/-! ## When it does -/

/-- An `AT+BCS` names CVSD or a codec of the gateway's own; while a procedure runs, just the codec
that was offered, which the HF still has, or CVSD where there is nothing left to negotiate. -/
def Confirms (done : Done) : Prop :=
  ∀ value codec, Names done.turn value codec →
    (codec = .cvsd ∨ codec ∈ done.before.supportedAudioCodecs) ∧
    (done.before.audioState = .negotiating →
      (value = done.before.activeCodec.toValue.toUInt32 ∧
        done.before.activeCodec ∈ done.before.hfAudioCodecs) ∨
      (codec = .cvsd ∧ NothingToNegotiate done.before))

/-! ## One turn -/

/-- A turn from one gateway to the next. -/
def Takes (ag : AgProtocol) (done : Done) (after : AgProtocol) : Prop :=
  done.before = ag ∧ ag.reply done.turn = .ok ⟨after, done.outgoing, done.events⟩

open HfpEvent

theorem mem_audio {events : List HfpEvent} {event : HfpEvent} (audio : event.isAudio = true) :
    event ∈ events ↔ event ∈ events.filter isAudio := by
  rw [mem_filter, and_iff_left audio]

theorem countP_isRequest (events : List HfpEvent) :
    events.countP isRequest = (events.filter isAudio).countP isRequest := by
  rw [countP_filter]
  refine countP_congr fun event _ => ?_
  cases event <;> simp [isRequest, isAudio]

theorem codecToNegotiate_some {ag : AgProtocol} {codec : AudioCodec}
    (choice : ag.codecToNegotiate = some codec) : codec ∈ ag.supportedAudioCodecs := by
  unfold codecToNegotiate at choice
  split_ifs at choice
  have found := List.find?_some choice
  exact (of_decide_eq_true found).1

theorem codecToNegotiate_none {ag : AgProtocol} (choice : ag.codecToNegotiate = none) :
    NothingToNegotiate ag := by
  unfold codecToNegotiate at choice
  split_ifs at choice with lacking
  · rcases lacking with own | peer
    · exact .inl (Bool.eq_false_iff.mpr own)
    · exact .inr (.inl (Bool.eq_false_iff.mpr peer))
  · refine .inr (.inr fun codec own reported => ?_)
    rw [List.find?_eq_none] at choice
    have listed : codec ∈ [AudioCodec.lc3Swb, .msbc, .cvsd] := by cases codec <;> simp
    exact choice codec listed (decide_eq_true ⟨own, reported⟩)

/-- What a gateway keeps true, whatever comes: it asks once in a procedure. -/
structure Asks (history : List Done) (ag : AgProtocol) : Prop where
  once : OncePerProcedure history
  fresh : ag.audioState = .disconnected ∨ ag.audioState = .negotiating →
    ¬ Since Requests (fun other => ¬ Disconnects other) history

/-- What it keeps true as long as every `AT+BCS` confirms. -/
structure Settles (history : List Done) (ag : AgProtocol) : Prop where
  own : OwnCodec ag
  always : ∀ done ∈ history, OwnCodec done.before
  agreement : CodecAgreement history
  running : ag.audioState = .negotiating →
    ag.activeCodec ∈ ag.supportedAudioCodecs ∧ Since (Opens ag.activeCodec) Still history

section Step
variable {history : List Done} {ag after : AgProtocol} {done : Done}

theorem not_requests {audio : List HfpEvent} (events : done.events.filter isAudio = audio)
    (none : ∀ codec, .audioConnectionRequested codec ∉ audio) : ¬ Requests done := by
  rintro ⟨codec, inside⟩
  rw [mem_audio rfl, events] at inside
  exact none codec inside

theorem still_of_silent (silent : done.events.filter isAudio = []) : Still done := by
  intro state inside
  rw [mem_audio rfl, silent] at inside
  contradiction

/-- A turn that asks for nothing leaves a procedure as fresh as it was. -/
theorem Asks.snoc_of_not_requests (asks : Asks history ag) (none : ¬ Requests done)
    (count : done.events.countP isRequest ≤ 1)
    (fresh : after.audioState = .disconnected ∨ after.audioState = .negotiating →
      Disconnects done ∨ ag.audioState = .disconnected ∨ ag.audioState = .negotiating) :
    Asks (history ++ [done]) after := by
  refine ⟨asks.once.snoc ⟨count, fun requests => absurd requests none⟩, fun idle since => ?_⟩
  rcases since.of_snoc with requests | ⟨earlier, connected⟩
  · exact none requests
  · rcases fresh idle with ended | idle
    · exact connected ended
    · exact asks.fresh idle earlier

theorem Asks.snoc_of_requests (asks : Asks history ag)
    (idle : ag.audioState = .disconnected ∨ ag.audioState = .negotiating)
    (count : done.events.countP isRequest ≤ 1) (busy : after.audioState = .connecting) :
    Asks (history ++ [done]) after := by
  refine ⟨asks.once.snoc ⟨count, fun _ => asks.fresh idle⟩, ?_⟩
  rw [busy]
  rintro (same | same) <;> contradiction

theorem asks_step (asks : Asks history ag) (takes : Takes ag done after) :
    Asks (history ++ [done]) after := by
  obtain ⟨rfl, replied⟩ := takes
  have count := countP_isRequest done.events
  cases reply_outcome replied with
  | quiet quiet =>
    have silent : done.events.filter isAudio = [] := quiet.silent
    rw [silent] at count
    refine asks.snoc_of_not_requests (not_requests silent (by simp)) (by simp [count]) fun idle => .inr ?_
    rwa [show after.audioState = _ from quiet.state] at idle
  | offered codec idle choice changed sent audio =>
    have audio : done.events.filter isAudio = _ := audio
    rw [audio] at count
    exact asks.snoc_of_not_requests (not_requests audio (by simp)) (by rw [count]; decide)
      fun _ => .inr (.inl idle)
  | defaulted idle choice changed audio =>
    rw [show done.events.filter isAudio = _ from audio] at count
    exact asks.snoc_of_requests (.inl idle) (by rw [count]; decide) (congrArg audioState changed)
  | settled value codec names idle changed audio =>
    have silent : done.events.filter isAudio = [] := audio
    rw [silent] at count
    refine asks.snoc_of_not_requests (not_requests silent (by simp)) (by simp [count]) fun idle => .inr ?_
    rwa [show after.audioState = _ from congrArg audioState changed] at idle
  | confirmed value codec names running changed audio =>
    rw [show done.events.filter isAudio = _ from audio] at count
    refine asks.snoc_of_requests (.inr running) ?_ (congrArg audioState changed)
    rw [count]
    exact Nat.le_refl 1
  | moved state ends changed audio =>
    have audio : done.events.filter isAudio = _ := audio
    rw [audio] at count
    refine asks.snoc_of_not_requests (not_requests audio (by simp)) ?_ fun idle => .inl ?_
    · rw [count]
      exact Nat.zero_le 1
    · have now : after.audioState = state := congrArg audioState changed
      rw [now] at idle
      rw [Disconnects, mem_audio rfl, audio]
      rcases ends with rfl | rfl
      · rcases idle with same | same <;> contradiction
      · exact mem_singleton_self _

theorem Settles.snoc (settles : Settles history ag) (before : done.before = ag)
    (own : OwnCodec after)
    (agreed : ∀ codec, .audioConnectionRequested codec ∈ done.events →
      Agreed history done codec ∨ (codec = .cvsd ∧ NothingToNegotiate done.before))
    (running : after.audioState = .negotiating →
      after.activeCodec ∈ after.supportedAudioCodecs ∧
        Since (Opens after.activeCodec) Still (history ++ [done])) :
    Settles (history ++ [done]) after := by
  refine ⟨own, fun other inside => ?_, settles.agreement.snoc agreed, running⟩
  rcases mem_append.mp inside with inside | inside
  · exact settles.always other inside
  · rw [mem_singleton.mp inside, before]
    exact settles.own

theorem settles_step (settles : Settles history ag) (takes : Takes ag done after)
    (confirms : Confirms done) : Settles (history ++ [done]) after := by
  obtain ⟨rfl, replied⟩ := takes
  have unrequested {audio : List HfpEvent}
      (events : done.events.filter isAudio = audio)
      (none : ∀ codec, .audioConnectionRequested codec ∉ audio) (codec : AudioCodec)
      (inside : .audioConnectionRequested codec ∈ done.events) :
      Agreed history done codec ∨ (codec = .cvsd ∧ NothingToNegotiate done.before) :=
    absurd ⟨codec, inside⟩ (not_requests events none)
  cases reply_outcome replied with
  | quiet quiet =>
    obtain ⟨codec, state, own, silent⟩ := quiet
    refine settles.snoc rfl ?_ (unrequested silent (by simp)) fun running => ?_
    · rw [OwnCodec, codec, own]
      exact settles.own
    · rw [state] at running
      rw [codec, own]
      obtain ⟨mine, since⟩ := settles.running running
      exact ⟨mine, since.snoc (still_of_silent silent)⟩
  | offered codec idle choice changed sent audio =>
    dsimp only at changed sent audio
    have mine := codecToNegotiate_some choice
    have moved : .audioConnectionState .negotiating ∈ done.events := by
      rw [mem_audio rfl, audio]
      exact mem_singleton_self _
    rw [changed]
    exact settles.snoc rfl (.inr mine) (unrequested audio (by simp)) fun _ =>
      ⟨mine, Since.here history ⟨moved, sent⟩⟩
  | defaulted idle choice changed audio =>
    dsimp only at changed audio
    rw [changed]
    refine settles.snoc rfl (.inl rfl) (fun codec inside => .inr ?_) (by rintro ⟨⟩)
    rw [mem_audio rfl, audio] at inside
    exact ⟨by simpa using inside, codecToNegotiate_none choice⟩
  | settled value codec names idle changed audio =>
    dsimp only at changed audio
    rw [changed]
    exact settles.snoc rfl (confirms value codec names).1 (unrequested audio (by simp))
      fun running => absurd running idle
  | confirmed value codec names running changed audio =>
    dsimp only at changed audio
    rw [changed]
    obtain ⟨own, justified⟩ := confirms value codec names
    refine settles.snoc rfl own (fun other inside => ?_) (by rintro ⟨⟩)
    rw [mem_audio rfl, audio] at inside
    obtain rfl : other = codec := by simpa using inside
    refine (justified running).imp_left fun ⟨number, reported⟩ => ?_
    obtain ⟨line, cmd, received, read, bcs, first, cut⟩ := names
    have same : done.before.activeCodec = other := by
      rw [number, UInt8.toUInt8_toUInt32, AudioCodec.fromValue_toValue] at cut
      exact Option.some.inj cut
    obtain ⟨mine, since⟩ := settles.running running
    rw [same] at number reported mine since
    exact ⟨since, ⟨line, cmd, received, read, bcs, number ▸ first, number ▸ cut⟩, mine, reported⟩
  | moved state ends changed audio =>
    dsimp only at changed audio
    rw [changed]
    refine settles.snoc rfl settles.own (unrequested audio (by simp)) fun running => ?_
    rw [show state = .negotiating from running] at ends
    rcases ends with same | same <;> contradiction

end Step

/-! ## Every history -/

section Serve
variable {P : List Done → AgProtocol → Prop} {G : Done → Prop}
  (step : ∀ {history ag done after}, P history ag → Takes ag done after → G done →
    P (history ++ [done]) after)
include step

theorem takeTurns_invariant {turns : List Turn} {history dones : List Done} {ag after : AgProtocol}
    (holds : P history ag) (taken : ag.takeTurns turns = .ok (after, dones))
    (good : ∀ done ∈ dones, G done) : P (history ++ dones) after := by
  induction turns generalizing history dones ag with
  | nil =>
    cases taken
    rwa [append_nil]
  | cons turn turns ih =>
    obtain ⟨reply, replied, taken⟩ := Rust.bind_eq_ok.mp taken
    obtain ⟨⟨final, later⟩, rest, made⟩ := Rust.bind_eq_ok.mp taken
    cases made
    have next := @step history ag ⟨ag, turn, reply.outgoing, reply.events⟩ reply.ag holds
      ⟨rfl, replied⟩ (good _ mem_cons_self)
    have whole := ih next rest fun done inside => good done (mem_cons_of_mem _ inside)
    rwa [append_assoc] at whole

/-- What every turn keeps, and octets that are put by do not touch, holds after
every input. -/
theorem serve_invariant (putBy : ∀ {history ag} (left : Bytes), P history ag →
      P history { ag with readBuffer := left }) {inputs : List Input} {history dones : List Done}
    {ag after : AgProtocol} (holds : P history ag) (served : ag.serve inputs = .ok (after, dones))
    (good : ∀ done ∈ dones, G done) : P (history ++ dones) after := by
  induction inputs generalizing history dones ag with
  | nil =>
    cases served
    rwa [append_nil]
  | cons input inputs ih =>
    obtain ⟨⟨next, first⟩, taken, served⟩ := Rust.bind_eq_ok.mp served
    obtain ⟨⟨final, later⟩, rest, made⟩ := Rust.bind_eq_ok.mp served
    cases made
    have ready : P history (ag.turns input).1 := by
      cases input with
      | receive data => exact putBy _ holds
      | startAudioConnection | onAudioConnected | onAudioDisconnected => exact holds
    have now := takeTurns_invariant step ready taken
      fun done inside => good done (mem_append_left _ inside)
    have whole := ih now rest fun done inside => good done (mem_append_right _ inside)
    rwa [append_assoc] at whole

end Serve

/-- A gateway asks for one audio connection at most in each procedure. As long as every `AT+BCS`
confirms what was offered, it is on a codec that both ends agreed to, or on CVSD where nothing is
negotiated, and its codec is one of its own. -/
theorem audio_codec_agreement (configuration : AgConfiguration) (inputs : List Input)
    {after : AgProtocol} {history : List Done}
    (served : (new configuration).serve inputs = .ok (after, history)) :
    OncePerProcedure history ∧
      ((∀ done ∈ history, Confirms done) →
        CodecAgreement history ∧ (∀ done ∈ history, OwnCodec done.before) ∧ OwnCodec after) := by
  refine ⟨?_, fun confirms => ?_⟩
  · have asks : Asks ([] ++ history) after :=
      @serve_invariant Asks (fun _ => True) (fun asks takes _ => asks_step asks takes)
        (fun _ asks => ⟨asks.once, asks.fresh⟩) inputs [] history (new configuration) after
        ⟨.nil, fun _ => Since.not_nil⟩ served (fun _ _ => trivial)
    exact asks.once
  · have settles : Settles ([] ++ history) after :=
      @serve_invariant Settles Confirms settles_step
        (fun _ settles => ⟨settles.own, settles.always, settles.agreement, settles.running⟩)
        inputs [] history (new configuration) after
        ⟨.inl rfl, by simp, .nil, by rintro ⟨⟩⟩ served confirms
    exact ⟨settles.agreement, settles.always, settles.own⟩

/-- A gateway that can do mSBC alone and negotiates. -/
def wideband : AgConfiguration := ⟨AgFeature.codecNegotiation, [], [], [], [.msbc]⟩

theorem confirms_of_other {ag : AgProtocol} {line : Bytes} {cmd : AtCommand} {outgoing : List Bytes}
    {events : List HfpEvent} (read : AtCommand.parseFrom line = .ok cmd)
    (other : commandOf cmd.code cmd.subCode ≠ some .bcs) : Confirms ⟨ag, .line line, outgoing, events⟩ := by
  rintro value codec ⟨_, found, received, parsed, bcs, -⟩
  cases received
  cases read.symm.trans parsed
  exact absurd bcs other

/-- The other end reports CVSD and mSBC, is offered mSBC, and confirms it. -/
theorem audio_codec_agreement_on_msbc :
    ∃ after history, (new wideband).serve
        [.receive (utf8 "AT+BRSF=128\x0dAT+BAC=1,2\x0d"), .startAudioConnection,
          .receive (utf8 "AT+BCS=2\x0d")] = .ok (after, history) ∧
      history.getLast?.map Done.events = some [.codecNegotiated .msbc,
        .audioConnectionState .connecting, .audioConnectionRequested .msbc] ∧
      OncePerProcedure history ∧ CodecAgreement history ∧ OwnCodec after := by
  refine ⟨_, [_, _, _, _], rfl, rfl, ?_⟩
  obtain ⟨once, agrees⟩ := audio_codec_agreement wideband [.receive
    (utf8 "AT+BRSF=128\x0dAT+BAC=1,2\x0d"), .startAudioConnection, .receive (utf8 "AT+BCS=2\x0d")] rfl
  obtain ⟨agreement, -, own⟩ := agrees (by
    refine forall_mem_cons.mpr ⟨?_, forall_mem_cons.mpr ⟨?_, forall_mem_cons.mpr ⟨?_,
      forall_mem_singleton.mpr ?_⟩⟩⟩
    · exact @confirms_of_other _ _ ⟨"BRSF", .set, [.value (utf8 "128")]⟩ _ _ rfl (by decide)
    · exact @confirms_of_other _ _ ⟨"BAC", .set, [.value (utf8 "1"), .value (utf8 "2")]⟩ _ _ rfl
        (by decide)
    · rintro value codec ⟨line, cmd, received, -⟩
      contradiction
    · rintro value codec ⟨line, cmd, received, parsed, -, number, cut⟩
      cases received
      cases parsed
      cases number
      cases cut
      exact ⟨.inr (by decide), fun _ => .inl ⟨rfl, by decide⟩⟩)
  exact ⟨once, agreement, own⟩

/-- Offered mSBC, the other end names LC3-SWB, which neither end reported: the
gateway asks for an audio connection on it. -/
theorem bcs_is_not_held_to_the_offer :
    ∃ after history, (new wideband).serve
        [.receive (utf8 "AT+BRSF=128\x0dAT+BAC=1,2\x0d"), .startAudioConnection,
          .receive (utf8 "AT+BCS=3\x0d")] = .ok (after, history) ∧
      history.getLast?.map Done.events = some [.codecNegotiated .lc3Swb,
        .audioConnectionState .connecting, .audioConnectionRequested .lc3Swb] ∧
      ¬ CodecAgreement history ∧ ¬ OwnCodec after := by
  refine ⟨_, [_, _, _, _], rfl, rfl, fun agreement => ?_, ?_⟩
  · rcases agreement [_, _, _] _ [] rfl .lc3Swb (.tail _ (.tail _ (.head _))) with agreed | ⟨same, -⟩
    · exact absurd (mem_singleton.mp agreed.own) (by decide)
    · contradiction
  · rintro (same | own)
    · contradiction
    · exact absurd (mem_singleton.mp own) (by decide)

end Simble.Hfp
