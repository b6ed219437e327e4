import Simble.Rfcomm.Session

/-! Whether a call of the multiplexer ends. The credit-gated loop of `process_tx` ends whatever
the peer negotiated, since a pass that moves no data spends a credit; the other loop has only the
buffer to make smaller, and a frame size of zero leaves it. -/
namespace Simble.Rfcomm
open Simble.Lib List

namespace Dlc

/-- One pass through the loop of `process_tx`, in either branch, with the refill that
the gated one still owes. -/
inductive Pass : Dlc × Nat → Dlc × Nat → Prop where
  | ungated {dlc needed} : dlc.cfc = false → dlc.txBuffer ≠ [] →
      Pass (dlc, needed)
        ({ dlc with txBuffer := dlc.txBuffer.drop (min dlc.mtu dlc.txBuffer.length) }, needed)
  | gated {dlc needed frame next} : dlc.cfc = true →
      (dlc.txBuffer ≠ [] ∧ 0 < dlc.txCredits) ∨ 0 < needed →
      dlc.sendGated needed = .ok (frame, next) → Pass (dlc, needed) (next, 0)

/-- Something is sent, a credit is spent or credits are granted. -/
def Progresses (before after : Dlc) : Prop :=
  after.txBuffer.length < before.txBuffer.length ∨ after.txCredits < before.txCredits ∨
    before.rxCredits < after.rxCredits

/-- What holds of a connection between two calls. -/
structure Sound (dlc : Dlc) : Prop where
  limit : dlc.rxMaxCredits = defaultMaxCredits
  mark : dlc.rxCreditsThreshold = defaultCreditThreshold
  drained : dlc.cfc = false → dlc.txBuffer = []

theorem Pass.settings {before after : Dlc × Nat} (pass : Pass before after) :
    after.1.settings = before.1.settings := by
  cases pass with
  | ungated => rfl
  | gated _ _ pushed => exact sendGated_settings pushed

theorem sendGated_counts {dlc next : Dlc} {needed : Nat} {frame : RfcommFrame}
    (pushed : dlc.sendGated needed = .ok (frame, next)) :
    if 0 < needed then next.rxCredits = dlc.rxCredits + needed else next.txCredits + 1 = dlc.txCredits := by
  obtain ⟨⟨chunk, spent, mid⟩, chosen, pushed⟩ := Rust.bind_eq_ok.mp pushed
  obtain ⟨credits, paid, finished⟩ := Rust.bind_eq_ok.mp pushed
  cases finished
  unfold nextChunk at chosen
  by_cases owed : 0 < needed
  · rw [if_pos owed] at chosen ⊢
    obtain ⟨refilled, added, chosen⟩ := Rust.bind_eq_ok.mp chosen
    have total : refilled = dlc.rxCredits + needed := by
      unfold U8.add at added
      split at added <;> cases added
      rfl
    split at chosen <;> cases chosen <;> exact total
  · rw [if_neg owed] at chosen ⊢
    cases chosen
    have paid : U8.sub dlc.txCredits 1 = .ok credits := paid
    by_cases funded : 1 ≤ dlc.txCredits
    · rw [U8.sub_ok funded] at paid
      cases paid
      exact Nat.sub_add_cancel funded
    · rw [U8.sub, if_neg funded] at paid
      cases paid

theorem Pass.progresses {before after : Dlc × Nat} (pass : Pass before after)
    (room : before.1.cfc = false → before.1.mtu ≠ 0) : Progresses before.1 after.1 := by
  cases pass with
  | @ungated dlc needed plain waiting =>
    have positive := length_pos_iff.mpr waiting
    have holds : 0 < dlc.mtu := Nat.pos_of_ne_zero (room plain)
    left
    show (dlc.txBuffer.drop _).length < dlc.txBuffer.length
    rw [length_drop]
    omega
  | @gated dlc needed frame next _ _ pushed =>
    have counts := sendGated_counts pushed
    right
    by_cases owed : 0 < needed
    · rw [if_pos owed] at counts
      right
      show dlc.rxCredits < next.rxCredits
      omega
    · rw [if_neg owed] at counts
      left
      show next.txCredits < dlc.txCredits
      omega

/-! ## The loops end -/

theorem sendGated_plain {dlc : Dlc} (funded : 0 < dlc.txCredits) :
    ∃ frame next, dlc.sendGated 0 = .ok (frame, next) ∧ next.txCredits + 1 = dlc.txCredits := by
  let take := min dlc.mtu dlc.txBuffer.length
  refine ⟨.uih dlc.cR dlc.dlci (dlc.txBuffer.take take) 0,
    { dlc with txBuffer := dlc.txBuffer.drop take, txCredits := dlc.txCredits - 1 }, ?_,
    Nat.sub_add_cancel funded⟩
  simp only [sendGated, nextChunk, gt_iff_lt, Nat.lt_irrefl, if_false, Rust.ok_bind, if_true,
    U8.sub_ok funded]
  rfl

variable {fuel : Nat}

theorem drainGated_ends {dlc : Dlc} (enough : dlc.txCredits ≤ fuel) :
    ∃ sent, drainGated fuel dlc 0 = .ok sent := by
  induction fuel generalizing dlc with
  | zero =>
    have broke : dlc.txCredits = 0 := Nat.le_zero.mp enough
    exact ⟨([], dlc), by simp [drainGated, broke]⟩
  | succ fuel ih =>
    unfold drainGated
    split
    · rename_i ready
      have funded : 0 < dlc.txCredits := by
        rw [Bool.or_eq_true, Bool.and_eq_true] at ready
        rcases ready with ⟨_, funded⟩ | owed
        · exact of_decide_eq_true funded
        · cases of_decide_eq_true owed
      obtain ⟨frame, next, pushed, spent⟩ := sendGated_plain funded
      obtain ⟨sent, ran⟩ := @ih next (by omega)
      refine ⟨(frame :: sent.1, sent.2), ?_⟩
      simp only [pushed, ran, Rust.ok_bind]
      rfl
    · exact ⟨_, rfl⟩

theorem sendGated_refills {dlc : Dlc} {needed : Nat} (owed : 0 < needed)
    (fits : dlc.rxCredits + needed ≤ 255) :
    ∃ frame next, dlc.sendGated needed = .ok (frame, next) ∧ next.txCredits ≤ dlc.txCredits := by
  unfold sendGated nextChunk
  rw [if_pos owed, U8.add_ok fits, Rust.ok_bind]
  split
  · rename_i ready
    have funded : 1 ≤ dlc.txCredits := of_decide_eq_true (Bool.and_eq_true _ _ ▸ ready).2
    simp only [Rust.ok_bind, if_true, U8.sub_ok funded]
    exact ⟨_, _, rfl, Nat.sub_le _ _⟩
  · exact ⟨_, _, rfl, Nat.le_refl _⟩

theorem processTx_gated_ends {dlc : Dlc} (gated : dlc.cfc = true)
    (limit : dlc.rxMaxCredits = defaultMaxCredits)
    (mark : dlc.rxCreditsThreshold = defaultCreditThreshold) : ∃ sent, dlc.processTx = .ok sent := by
  unfold processTx rxCreditsNeeded
  simp only [gated, mark, limit, Bool.not_true, Bool.false_eq_true, if_false]
  by_cases low : dlc.rxCredits ≤ defaultCreditThreshold
  · have small : dlc.rxCredits < defaultMaxCredits := Nat.lt_of_le_of_lt low (by decide)
    have owed := Nat.sub_pos_of_lt small
    have full := Nat.add_sub_cancel' (Nat.le_of_lt small)
    obtain ⟨frame, next, pushed, fewer⟩ := sendGated_refills owed (by rw [full]; decide)
    obtain ⟨sent, ran⟩ := drainGated_ends fewer
    rw [if_pos low, U8.sub_ok (Nat.le_of_lt small), Rust.ok_bind]
    unfold drainGated
    rw [if_pos (by rw [decide_eq_true owed, Bool.or_true])]
    simp only [pushed, ran, Rust.ok_bind]
    exact ⟨_, rfl⟩
  · rw [if_neg low]
    exact drainGated_ends (Nat.le_succ _)

theorem drainUngated_ends {dlc : Dlc} (room : dlc.mtu ≠ 0) (enough : dlc.txBuffer.length ≤ fuel) :
    ∃ sent, drainUngated fuel dlc = .ok sent := by
  induction fuel generalizing dlc with
  | zero =>
    have empty : dlc.txBuffer = [] := length_eq_zero_iff.mp (Nat.le_zero.mp enough)
    rw [drainUngated, if_pos (isEmpty_iff.mpr empty)]
    exact ⟨_, rfl⟩
  | succ fuel ih =>
    by_cases empty : dlc.txBuffer = []
    · rw [drainUngated, if_pos (isEmpty_iff.mpr empty)]
      exact ⟨_, rfl⟩
    · have positive := length_pos_iff.mpr empty
      have holds := Nat.pos_of_ne_zero room
      obtain ⟨sent, ran⟩ :=
        @ih { dlc with txBuffer := dlc.txBuffer.drop (min dlc.mtu dlc.txBuffer.length) } room (by
          rw [length_drop]
          omega)
      rw [drainUngated, if_neg (by rwa [List.isEmpty_iff])]
      simp only [ran, Rust.ok_bind]
      exact ⟨_, rfl⟩

/-- Frames of no octets never empty the buffer. -/
theorem drainUngated_stalls {dlc : Dlc} (none : dlc.mtu = 0) (waiting : dlc.txBuffer ≠ []) :
    drainUngated fuel dlc = .error .diverge := by
  induction fuel with
  | zero => rw [drainUngated, if_neg (by rwa [List.isEmpty_iff])]
  | succ fuel ih =>
    have same : { dlc with txBuffer := dlc.txBuffer.drop (min dlc.mtu dlc.txBuffer.length) } = dlc := by
      rw [show dlc.txBuffer.drop (min dlc.mtu dlc.txBuffer.length) = dlc.txBuffer by
        rw [none, Nat.zero_min, drop_zero]]
    rw [drainUngated, if_neg (by rwa [List.isEmpty_iff])]
    simp only
    rw [same, ih]
    rfl

/-- The loop without flow control has something to send and no octet to send it in. -/
def Stalled (dlc : Dlc) : Prop := dlc.cfc = false ∧ dlc.mtu = 0 ∧ dlc.txBuffer ≠ []

instance (dlc : Dlc) : Decidable dlc.Stalled := inferInstanceAs (Decidable (_ ∧ _))

theorem processTx_stalls {dlc : Dlc} (stalled : dlc.Stalled) : dlc.processTx = .error .diverge := by
  rw [processTx, if_pos (by rw [stalled.1]; rfl)]
  exact drainUngated_stalls stalled.2.1 stalled.2.2

theorem processTx_ends {dlc : Dlc} (limit : dlc.rxMaxCredits = defaultMaxCredits)
    (mark : dlc.rxCreditsThreshold = defaultCreditThreshold) (moving : ¬ dlc.Stalled) :
    ∃ sent, dlc.processTx = .ok sent := by
  cases gated : dlc.cfc with
  | true => exact processTx_gated_ends gated limit mark
  | false =>
    rw [processTx, if_pos (by rw [gated]; rfl)]
    by_cases empty : dlc.txBuffer = []
    · rw [empty, length_nil, drainUngated, if_pos (by rw [empty]; rfl)]
      exact ⟨_, rfl⟩
    · have room : dlc.mtu ≠ 0 := fun none => moving ⟨gated, none, empty⟩
      exact drainUngated_ends room (Nat.le_refl _)

theorem drainUngated_drained {dlc last : Dlc} {frames : List RfcommFrame}
    (ran : drainUngated fuel dlc = .ok (frames, last)) : last.txBuffer = [] := by
  induction fuel generalizing dlc frames with
  | zero =>
    unfold drainUngated at ran
    split at ran
    · rename_i empty
      cases ran
      exact isEmpty_iff.mp empty
    · cases ran
  | succ fuel ih =>
    unfold drainUngated at ran
    split at ran
    · rename_i empty
      cases ran
      exact isEmpty_iff.mp empty
    · obtain ⟨⟨later, final⟩, tail, finished⟩ := Rust.bind_eq_ok.mp ran
      cases finished
      exact ih tail

theorem Sound.processTx {dlc last : Dlc} {frames : List RfcommFrame}
    (limit : dlc.rxMaxCredits = defaultMaxCredits)
    (mark : dlc.rxCreditsThreshold = defaultCreditThreshold)
    (ran : dlc.processTx = .ok (frames, last)) : last.Sound := by
  have kept := processTx_settings ran
  have same : last.cfc = dlc.cfc := (congrArg Dlc.cfc kept :)
  refine ⟨(congrArg rxMaxCredits kept : _).trans limit, (congrArg rxCreditsThreshold kept : _).trans mark,
    fun plain => ?_⟩
  rw [same] at plain
  rw [Dlc.processTx, if_pos (by rw [plain]; rfl)] at ran
  exact drainUngated_drained ran

end Dlc

namespace Multiplexer
open Dlc
variable {mux after : Multiplexer}

/-! ## Calls -/

/-- The connection on which a call runs `process_tx`. -/
inductive Transmits (mux : Multiplexer) : Call → Dlc → Prop where
  | write {dlci data dlc} : mux.connectedDlc dlci = .ok dlc →
      Transmits mux (.write dlci data) (dlc.queue data)
  | receive {bytes frame dlc} : RfcommFrame.parse bytes = some frame → frame.dlci ≠ 0 →
      frame.frameType = FrameType.uih → mux.dlcs.lookup frame.dlci = some dlc →
      Transmits mux (.receive bytes)
        (takeData (takeCredits dlc frame).1 frame.dlci (takeCredits dlc frame).2).1

def Terminates (mux : Multiplexer) (call : Call) : Prop :=
  mux.perform call ≠ .error .diverge ∧
    ∀ dlc needed reached next, mux.Transmits call dlc → dlc.rxCreditsNeeded = .ok needed →
      Relation.ReflTransGen Pass (dlc, needed) reached → Pass reached next →
      Progresses reached.1 next.1

/-- The call writes data to a connection without flow control on which a frame holds no
octet. -/
def Stalls (mux : Multiplexer) : Call → Prop
  | .write dlci data => data ≠ [] ∧ ∃ dlc, mux.dlcs.lookup dlci = some dlc ∧ dlc.state = .connected ∧
      dlc.cfc = false ∧ dlc.mtu = 0
  | _ => False

def AllSound (mux : Multiplexer) : Prop := ∀ dlci dlc, mux.dlcs.lookup dlci = some dlc → dlc.Sound

theorem takeData_settings (dlc : Dlc) (frame : RfcommFrame) (dlci : UInt8) :
    (takeData (takeCredits dlc frame).1 dlci (takeCredits dlc frame).2).1.settings = dlc.settings ∧
      (takeData (takeCredits dlc frame).1 dlci (takeCredits dlc frame).2).1.txBuffer = dlc.txBuffer := by
  unfold takeData takeCredits
  split <;> split <;> exact ⟨rfl, rfl⟩

/-! ## Connections between two calls -/

theorem AllSound.of_empty (empty : after.dlcs = ∅) : after.AllSound := by
  intro dlci dlc found
  rw [empty] at found
  cases found

theorem AllSound.insert (sound : mux.AllSound) {dlci : UInt8} {dlc : Dlc} (new : dlc.Sound)
    (same : after.dlcs = mux.dlcs.insert dlci dlc) : after.AllSound := by
  intro other dlc' found
  rw [same] at found
  by_cases here : other = dlci
  · subst here
    rw [AList.lookup_insert] at found
    cases found
    exact new
  · rw [AList.lookup_insert_ne here] at found
    exact sound other dlc' found

theorem AllSound.erase (sound : mux.AllSound) {dlci : UInt8}
    (same : after.dlcs = mux.dlcs.erase dlci) : after.AllSound := by
  intro other dlc found
  rw [same] at found
  by_cases here : other = dlci
  · subst here
    rw [AList.lookup_erase] at found
    cases found
  · rw [AList.lookup_erase_ne here] at found
    exact sound other dlc found

theorem sound_new (dlci cR : UInt8) (txMaxFrameSize : UInt16) (txInitialCredits : UInt8)
    (rxMaxFrameSize : UInt16) (rxInitialCredits : UInt8) (peerL2capMtu : UInt16) (cfc : Bool)
    (state : DlcState) : { Dlc.new dlci cR txMaxFrameSize txInitialCredits rxMaxFrameSize
      rxInitialCredits peerL2capMtu cfc with state }.Sound := ⟨rfl, rfl, fun _ => rfl⟩

theorem AllSound.of_ok {answer : Reply × Multiplexer} {reply : Reply} (sound : answer.2.AllSound)
    (ran : (.ok answer : Rust (Reply × Multiplexer)) = .ok (reply, after)) : after.AllSound := by
  cases ran
  exact sound

theorem AllSound.onMccPn (sound : mux.AllSound) (cR : Bool) (value : Bytes) :
    (mux.onMccPn cR value).2.AllSound := by
  unfold Multiplexer.onMccPn
  split
  · exact sound
  · split
    · unfold onMccPnCommand
      split
      · exact sound
      · split
        · exact sound
        · exact sound.insert (sound_new ..) (congrArg (AList.insert _ _) (negotiateCfc_dlcs _))
    · unfold onMccPnResponse
      split
      · exact sound
      · split
        · exact sound
        · exact sound.insert (sound_new ..) (congrArg (AList.insert _ _) (negotiateCfc_dlcs _))

theorem AllSound.onControlFrame (sound : mux.AllSound) (frame : RfcommFrame) :
    (mux.onControlFrame frame).2.AllSound := by
  unfold Multiplexer.onControlFrame
  split
  · unfold onSabm
    split <;> exact sound
  split
  · unfold onUa
    split
    · exact sound
    · exact .of_empty rfl
    · exact sound
  split
  · exact .of_empty rfl
  split
  · unfold onUihControl
    split
    · exact sound
    · split
      · exact sound.onMccPn _ _
      split
      · unfold onMccMsc
        split
        · exact sound
        · split
          · exact sound
          · split <;> exact sound
      split <;> exact sound
  · exact sound

theorem AllSound.onFrameForUnknownDlci (sound : mux.AllSound) (frame : RfcommFrame) :
    (mux.onFrameForUnknownDlci frame).2.AllSound := by
  unfold Multiplexer.onFrameForUnknownDlci
  dsimp only
  split
  · split
    · exact sound
    · refine sound.insert (sound_new ..) (congrArg (AList.insert _ _) ?_)
      split <;> rfl
  · split <;> exact sound

theorem Transmits.counts (sound : mux.AllSound) {call : Call} {dlc : Dlc}
    (transmits : mux.Transmits call dlc) :
    dlc.rxMaxCredits = defaultMaxCredits ∧ dlc.rxCreditsThreshold = defaultCreditThreshold := by
  cases transmits with
  | write found =>
    have old := sound _ _ (connectedDlc_ok found).1
    exact ⟨old.limit, old.mark⟩
  | @receive bytes frame dlc _ _ _ found =>
    have old := sound _ _ found
    obtain ⟨kept, _⟩ := takeData_settings dlc frame frame.dlci
    have limit : (takeData (takeCredits dlc frame).1 frame.dlci (takeCredits dlc frame).2).1.rxMaxCredits =
        dlc.rxMaxCredits := (congrArg rxMaxCredits kept :)
    have mark : (takeData (takeCredits dlc frame).1 frame.dlci
        (takeCredits dlc frame).2).1.rxCreditsThreshold = dlc.rxCreditsThreshold :=
      (congrArg rxCreditsThreshold kept :)
    exact ⟨limit.trans old.limit, mark.trans old.mark⟩

theorem AllSound.processTx (sound : mux.AllSound) {call : Call} {dlc last : Dlc}
    (transmits : mux.Transmits call dlc) {frames : List RfcommFrame}
    (ran : dlc.processTx = .ok (frames, last)) : last.Sound :=
  .processTx (transmits.counts sound).1 (transmits.counts sound).2 ran

theorem AllSound.onDlcFrame (sound : mux.AllSound) {bytes : Bytes} {frame : RfcommFrame}
    (parsed : RfcommFrame.parse bytes = some frame) (data : frame.dlci ≠ 0) {reply : Reply}
    (ran : mux.onDlcFrame frame = .ok (reply, after)) : after.AllSound := by
  unfold Multiplexer.onDlcFrame at ran
  dsimp only at ran
  split at ran
  · exact (sound.onFrameForUnknownDlci frame).of_ok ran
  · rename_i dlc found
    have old := sound _ _ found
    have moved (state : DlcState) : { dlc with state }.Sound := ⟨old.limit, old.mark, old.drained⟩
    split at ran
    · split at ran
      · exact sound.of_ok ran
      · exact (sound.insert (moved _) rfl).of_ok ran
    split at ran
    · split at ran
      · exact (sound.insert (moved _) rfl).of_ok ran
      · exact (sound.erase rfl).of_ok ran
      · exact sound.of_ok ran
    split at ran
    · exact (sound.erase rfl).of_ok ran
    split at ran
    · rename_i kind
      rw [onDlcUih, found] at ran
      obtain ⟨⟨frames, last⟩, sent, finished⟩ := Rust.bind_eq_ok.mp ran
      cases finished
      exact sound.insert (sound.processTx (.receive parsed data kind found) sent) rfl
    · exact sound.of_ok ran

theorem AllSound.perform (sound : mux.AllSound) {call : Call} {reply : Reply}
    (ran : mux.perform call = .ok (reply, after)) : after.AllSound := by
  cases call with
  | start =>
    obtain ⟨⟨bytes, next⟩, started, finished⟩ := Rust.bind_eq_ok.mp ran
    cases finished
    unfold Multiplexer.start at started
    split at started
    · cases started
    · split at started <;> cases started
      exact sound
  | listen channel maxFrameSize initialCredits =>
    cases ran
    exact sound
  | openDlc channel maxFrameSize initialCredits =>
    obtain ⟨⟨bytes, next⟩, begun, finished⟩ := Rust.bind_eq_ok.mp ran
    cases finished
    unfold Multiplexer.openDlc at begun
    split at begun <;> cases begun
    exact sound
  | write dlci data =>
    obtain ⟨⟨bytes, next⟩, written, finished⟩ := Rust.bind_eq_ok.mp ran
    cases finished
    obtain ⟨dlc, found, written⟩ := Rust.bind_eq_ok.mp written
    obtain ⟨⟨frames, last⟩, sent, finished⟩ := Rust.bind_eq_ok.mp written
    cases finished
    exact sound.insert (sound.processTx (.write found) sent) rfl
  | closeDlc dlci =>
    obtain ⟨⟨bytes, next⟩, closed, finished⟩ := Rust.bind_eq_ok.mp ran
    cases finished
    obtain ⟨dlc, found, finished⟩ := Rust.bind_eq_ok.mp closed
    cases finished
    have old := sound _ _ (connectedDlc_ok found).1
    have moved : { dlc with state := .disconnecting }.Sound := ⟨old.limit, old.mark, old.drained⟩
    exact sound.insert moved rfl
  | disconnect =>
    obtain ⟨⟨bytes, next⟩, begun, finished⟩ := Rust.bind_eq_ok.mp ran
    cases finished
    unfold Multiplexer.disconnect at begun
    split at begun <;> cases begun
    exact sound
  | receive bytes =>
    have ran : mux.receive bytes = .ok (reply, after) := ran
    unfold Multiplexer.receive at ran
    split at ran
    · cases ran
    · rename_i frame parsed
      unfold onFrame at ran
      split at ran
      · exact (sound.onControlFrame frame).of_ok ran
      · rename_i data
        split at ran
        · refine AllSound.of_ok ?_ ran
          unfold onDmFrame
          split <;> exact sound
        · exact sound.onDlcFrame parsed data ran

theorem allSound_of_run {role : Role} {peerMtu : UInt16} {labels : List (Call × List MultiplexerEvent)}
    (run : Run Step (new role peerMtu) labels mux) : mux.AllSound := by
  refine run.invariant (P := fun _ mux => mux.AllSound) (.of_empty rfl) ?_
  intro _ before _ after sound stepped
  cases stepped with
  | done ran => exact sound.perform ran
  | refused => exact sound

/-! ## Calls end -/

/-- A transmitting call is stuck only where it stalls. -/
theorem Transmits.moving (sound : mux.AllSound) {call : Call} {dlc : Dlc}
    (transmits : mux.Transmits call dlc) (free : ¬ mux.Stalls call) : ¬ dlc.Stalled := by
  cases transmits with
  | @write dlci data dlc found =>
    obtain ⟨present, connected⟩ := connectedDlc_ok found
    rintro ⟨plain, none, waiting⟩
    refine free ⟨fun empty => waiting ?_, dlc, present, connected, plain, none⟩
    have drained := (sound _ _ present).drained plain
    rw [queue, drained, empty]
    rfl
  | @receive bytes frame dlc _ _ _ found =>
    obtain ⟨kept, same⟩ := takeData_settings dlc frame frame.dlci
    rintro ⟨plain, _, waiting⟩
    have gated : (takeData (takeCredits dlc frame).1 frame.dlci (takeCredits dlc frame).2).1.cfc = dlc.cfc :=
      (congrArg Dlc.cfc kept :)
    rw [same] at waiting
    exact waiting ((sound _ _ found).drained (gated.symm.trans plain))

theorem bind_ne_diverge {α β : Type} {first : Rust α} {next : α → Rust β}
    (ends : first ≠ .error .diverge) (ends' : ∀ value, next value ≠ .error .diverge) :
    (first >>= next) ≠ .error .diverge := by
  cases first with
  | error stop => exact fun stuck => ends (congrArg Except.error (Except.error.inj stuck))
  | ok value => exact ends' value

theorem ok_ne_diverge {α : Type} (value : α) : (.ok value : Rust α) ≠ .error .diverge :=
  fun stuck => by cases stuck

theorem err_ne_diverge {α : Type} (error : SimbleError) :
    (.error (.err error) : Rust α) ≠ .error .diverge :=
  fun stuck => by cases stuck

theorem connectedDlc_ends (dlci : UInt8) : mux.connectedDlc dlci ≠ .error .diverge := by
  unfold connectedDlc
  split
  · exact err_ne_diverge _
  · split
    · exact err_ne_diverge _
    · exact ok_ne_diverge _

theorem perform_ends {call : Call}
    (ends : ∀ dlc, mux.Transmits call dlc → ∃ sent, dlc.processTx = .ok sent) :
    mux.perform call ≠ .error .diverge := by
  cases call with
  | start =>
    refine bind_ne_diverge ?_ fun _ => ok_ne_diverge _
    unfold start
    split
    · exact err_ne_diverge _
    · split
      · exact err_ne_diverge _
      · exact ok_ne_diverge _
  | listen => exact ok_ne_diverge _
  | openDlc =>
    refine bind_ne_diverge ?_ fun _ => ok_ne_diverge _
    unfold openDlc
    split
    · exact err_ne_diverge _
    · exact ok_ne_diverge _
  | write dlci data =>
    refine bind_ne_diverge ?_ fun _ => ok_ne_diverge _
    unfold write
    have looks := @connectedDlc_ends mux dlci
    cases found : mux.connectedDlc dlci with
    | error stop =>
      rw [found] at looks
      exact fun stuck => looks (congrArg Except.error (Except.error.inj stuck))
    | ok dlc =>
      obtain ⟨sent, ran⟩ := ends _ (.write found)
      simp only [Rust.ok_bind, ran]
      exact ok_ne_diverge _
  | closeDlc dlci =>
    refine bind_ne_diverge ?_ fun _ => ok_ne_diverge _
    exact bind_ne_diverge (connectedDlc_ends dlci) fun _ => ok_ne_diverge _
  | disconnect =>
    refine bind_ne_diverge ?_ fun _ => ok_ne_diverge _
    unfold disconnect
    split
    · exact err_ne_diverge _
    · exact ok_ne_diverge _
  | receive bytes =>
    show mux.receive bytes ≠ _
    unfold receive
    split
    · exact err_ne_diverge _
    · rename_i frame parsed
      unfold onFrame
      split
      · exact ok_ne_diverge _
      · rename_i data
        split
        · exact ok_ne_diverge _
        · unfold onDlcFrame
          dsimp only
          split
          · exact ok_ne_diverge _
          · rename_i dlc found
            split
            · split <;> exact ok_ne_diverge _
            split
            · split <;> exact ok_ne_diverge _
            split
            · exact ok_ne_diverge _
            split
            · rename_i kind
              obtain ⟨sent, ran⟩ := ends _ (.receive parsed data kind found)
              rw [onDlcUih, found]
              simp only [ran, Rust.ok_bind]
              exact ok_ne_diverge _
            · exact ok_ne_diverge _

theorem reach_settings {start reached : Dlc × Nat} (passes : Relation.ReflTransGen Pass start reached) :
    reached.1.settings = start.1.settings := by
  induction passes with
  | refl => rfl
  | tail _ pass ih => exact pass.settings.trans ih

/-- Without flow control there is no pass over an empty buffer. -/
theorem reach_waiting {start reached next : Dlc × Nat} (plain : start.1.cfc = false)
    (passes : Relation.ReflTransGen Pass start reached) (pass : Pass reached next) :
    start.1.txBuffer ≠ [] := by
  have first {before after : Dlc × Nat} (plain : before.1.cfc = false) (pass : Pass before after) :
      before.1.txBuffer ≠ [] := by
    cases pass with
    | ungated _ waiting => exact waiting
    | gated gated => cases gated.symm.trans plain
  rcases Relation.ReflTransGen.cases_head passes with rfl | ⟨mid, begins, _⟩
  · exact first plain pass
  · exact first plain begins

/-- A stalling write does not end. -/
theorem Stalls.diverges {call : Call} (stalls : mux.Stalls call) :
    mux.perform call = .error .diverge := by
  cases call with
  | write dlci data =>
    obtain ⟨some, dlc, present, connected, plain, none⟩ := stalls
    have found : mux.connectedDlc dlci = .ok dlc := by
      rw [connectedDlc, present]
      exact if_neg (not_not.mpr connected)
    have stalled : (dlc.queue data).Stalled :=
      ⟨plain, none, fun empty => some (append_eq_nil_iff.mp empty).2⟩
    show (mux.write dlci data >>= _) = _
    rw [write, found]
    simp only [Rust.ok_bind, processTx_stalls stalled]
    rfl
  | _ => exact stalls.elim

/-- In every state that a multiplexer can reach, a call ends, with progress in every
pass of its loop, exactly if it does not write to a connection without flow control
whose frames hold nothing. -/
theorem terminates_iff {role : Role} {peerMtu : UInt16} {labels : List (Call × List MultiplexerEvent)}
    (run : Run Step (new role peerMtu) labels mux) (call : Call) :
    mux.Terminates call ↔ ¬ mux.Stalls call := by
  have sound := allSound_of_run run
  constructor
  · exact fun terminates stalls => terminates.1 stalls.diverges
  · intro free
    constructor
    · refine perform_ends fun dlc transmits => ?_
      obtain ⟨limit, mark⟩ := transmits.counts sound
      exact processTx_ends limit mark (transmits.moving sound free)
    · intro dlc needed reached next transmits _ passes pass
      refine pass.progresses fun plain none => ?_
      have kept := reach_settings passes
      have sameCfc : reached.1.cfc = dlc.cfc := (congrArg Dlc.cfc kept :)
      have sameMtu : reached.1.mtu = dlc.mtu := (congrArg Dlc.mtu kept :)
      have plain := sameCfc.symm.trans plain
      exact transmits.moving sound free ⟨plain, sameMtu.symm.trans none, reach_waiting plain passes pass⟩

/-- The PN command of a peer that wants no flow control, and frames of no octets. -/
def emptyFrames : MccPn := ⟨2, PnCl.noCfc, 7, 0, 0, 0, 0⟩

theorem perform_emptyFrames (mux : Multiplexer) :
    mux.perform (.receive (RfcommFrame.uih 1 0 (makeMcc MccType.pn true emptyFrames.toBytes) 0).toBytes) =
      .ok (mux.onMccPnCommand emptyFrames) := rfl

theorem run_emptyFrames : ∃ labels mux, Run Step (new .responder 672) labels mux ∧
    mux.Stalls (.write 2 [0x41]) := by
  have listening : Run Step (new .responder 672) ([] ++ [(.listen 1 672 7, [])]) _ :=
    Run.nil.snoc (.done rfl)
  have started := listening.snoc (@Step.done _ (.receive (RfcommFrame.sabm 1 0).toBytes) _ _ _ rfl)
  have negotiated := started.snoc (.done (perform_emptyFrames _))
  have opened := negotiated.snoc (@Step.done _ (.receive (RfcommFrame.sabm 1 2).toBytes) _ _ _ rfl)
  exact ⟨_, _, opened, by decide, _, rfl, rfl, rfl, rfl⟩

theorem terminates_iff_emptyFrames : ∃ labels mux, Run Step (new .responder 672) labels mux ∧
    (mux.Terminates (.write 2 [0x41]) ↔ ¬ mux.Stalls (.write 2 [0x41])) ∧
    mux.Terminates (.closeDlc 2) := by
  obtain ⟨labels, mux, run, _⟩ := run_emptyFrames
  exact ⟨labels, mux, run, terminates_iff run _, (terminates_iff run _).mpr id⟩

theorem not_terminates : ¬ ∀ (role : Role) (peerMtu : UInt16)
    (labels : List (Call × List MultiplexerEvent)) (mux : Multiplexer),
    Run Step (new role peerMtu) labels mux → ∀ call, mux.Terminates call := by
  intro terminates
  obtain ⟨labels, mux, run, stalls⟩ := run_emptyFrames
  exact (terminates _ _ _ _ run _).1 stalls.diverges

end Multiplexer
end Simble.Rfcomm
