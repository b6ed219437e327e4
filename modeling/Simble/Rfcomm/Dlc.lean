import Simble.Rfcomm.Mcc

/-! One data link connection and its transmit loop (`Dlc` in `classic/rfcomm.rs`). With
credit-based flow control the loop spends a credit for every frame with data and refills the peer
when its own grant has dropped to the low-water mark; without, the buffer is drained as it is. -/
namespace Simble.Rfcomm
open List

def defaultMaxCredits : Nat := 32
def defaultCreditThreshold : Nat := defaultMaxCredits / 2

inductive DlcState where
  | init
  | connecting
  | connected
  | disconnecting
  | disconnected
deriving DecidableEq, Repr

structure Dlc where
  dlci : UInt8
  state : DlcState
  cR : UInt8
  rxMaxFrameSize : UInt16
  rxInitialCredits : Nat
  rxMaxCredits : Nat
  rxCredits : Nat
  rxCreditsThreshold : Nat
  txMaxFrameSize : UInt16
  txCredits : Nat
  cfc : Bool
  mtu : Nat
  txBuffer : Bytes
deriving DecidableEq, Repr

namespace Dlc

/-- Header (2), worst-case length field (2) and check sequence (1). -/
def maxOverhead : Nat := 5

def new (dlci cR : UInt8) (txMaxFrameSize : UInt16) (txInitialCredits : UInt8)
    (rxMaxFrameSize : UInt16) (rxInitialCredits : UInt8) (peerL2capMtu : UInt16)
    (cfc : Bool) : Dlc where
  dlci
  state := .init
  cR
  rxMaxFrameSize
  rxInitialCredits := rxInitialCredits.toNat
  rxMaxCredits := defaultMaxCredits
  rxCredits := rxInitialCredits.toNat
  rxCreditsThreshold := defaultCreditThreshold
  txMaxFrameSize
  txCredits := txInitialCredits.toNat
  cfc
  mtu := min txMaxFrameSize.toNat (peerL2capMtu.toNat - maxOverhead)
  txBuffer := []

def queue (dlc : Dlc) (data : Bytes) : Dlc := { dlc with txBuffer := dlc.txBuffer ++ data }

def rxCreditsNeeded (dlc : Dlc) : Rust Nat :=
  if !dlc.cfc then .ok 0
  else if dlc.rxCredits ≤ dlc.rxCreditsThreshold then U8.sub dlc.rxMaxCredits dlc.rxCredits
  else .ok 0

/-- The loop without flow control. Out of fuel with bytes left it reports that
the loop does not end. -/
def drainUngated : Nat → Dlc → Rust (List RfcommFrame × Dlc)
  | 0, dlc => if dlc.txBuffer.isEmpty then .ok ([], dlc) else .error .diverge
  | fuel + 1, dlc =>
    if dlc.txBuffer.isEmpty then .ok ([], dlc)
    else do
      let take := min dlc.mtu dlc.txBuffer.length
      let chunk := dlc.txBuffer.take take
      let (frames, last) ←
        drainUngated fuel { dlc with txBuffer := dlc.txBuffer.drop take }
      return (.uih dlc.cR dlc.dlci chunk 0 :: frames, last)

def nextChunk (dlc : Dlc) (rxCreditsNeeded : Nat) : Rust (Bytes × Bool × Dlc) :=
  if rxCreditsNeeded > 0 then do
    let rxCredits ← U8.add dlc.rxCredits rxCreditsNeeded
    let octet := UInt8.ofNat rxCreditsNeeded
    if !dlc.txBuffer.isEmpty && dlc.txCredits > 0 then
      let take := min (dlc.mtu - 1) dlc.txBuffer.length
      .ok (octet :: dlc.txBuffer.take take, true,
        { dlc with rxCredits, txBuffer := dlc.txBuffer.drop take })
    else .ok ([octet], false, { dlc with rxCredits })
  else
    let take := min dlc.mtu dlc.txBuffer.length
    .ok (dlc.txBuffer.take take, true, { dlc with txBuffer := dlc.txBuffer.drop take })

def sendGated (dlc : Dlc) (rxCreditsNeeded : Nat) : Rust (RfcommFrame × Dlc) :=
  dlc.nextChunk rxCreditsNeeded >>= fun (chunk, txCreditSpent, dlc) =>
    (if txCreditSpent then U8.sub dlc.txCredits 1 else .ok dlc.txCredits) >>= fun txCredits =>
      let pF := if rxCreditsNeeded > 0 then 1 else 0
      .ok (.uih dlc.cR dlc.dlci chunk pF, { dlc with txCredits })

def drainGated : Nat → Dlc → Nat → Rust (List RfcommFrame × Dlc)
  | fuel, dlc, rxCreditsNeeded =>
    if (!dlc.txBuffer.isEmpty && dlc.txCredits > 0) || rxCreditsNeeded > 0 then
      match fuel with
      | 0 => .error .diverge
      | fuel + 1 => do
        let (frame, dlc) ← dlc.sendGated rxCreditsNeeded
        let (frames, last) ← drainGated fuel dlc 0
        return (frame :: frames, last)
    else .ok ([], dlc)

/-- The fuel covers every run of either loop that ends: a gated pass spends a
credit unless it is the first, and an ungated one that does not shorten the
buffer never will. -/
def processTx (dlc : Dlc) : Rust (List RfcommFrame × Dlc) :=
  if !dlc.cfc then drainUngated dlc.txBuffer.length dlc
  else do
    let rxCreditsNeeded ← dlc.rxCreditsNeeded
    drainGated (dlc.txCredits + 1) dlc rxCreditsNeeded

end Dlc

namespace RfcommFrame

def payload (frame : RfcommFrame) : Bytes :=
  if frame.pF = 1 then frame.information.drop 1 else frame.information

def creditOctet (frame : RfcommFrame) : Nat :=
  if frame.pF = 1 then (frame.information.head?.getD 0).toNat else 0

@[simp] theorem payload_uih_plain (cR dlci : UInt8) (chunk : Bytes) :
    (uih cR dlci chunk 0).payload = chunk := rfl

@[simp] theorem payload_uih_credits (cR dlci octet : UInt8) (chunk : Bytes) :
    (uih cR dlci (octet :: chunk) 1).payload = chunk := rfl

@[simp] theorem creditOctet_uih_credits (cR dlci octet : UInt8) (chunk : Bytes) :
    (uih cR dlci (octet :: chunk) 1).creditOctet = octet.toNat := rfl

def chunks (frames : List RfcommFrame) : List Bytes :=
  (frames.map payload).filter fun data => !data.isEmpty

def credits (frames : List RfcommFrame) : Nat := (frames.map creditOctet).sum

@[simp] theorem chunks_nil : chunks [] = [] := rfl

@[simp] theorem credits_nil : credits [] = 0 := rfl

theorem chunks_cons (frame : RfcommFrame) (frames : List RfcommFrame) :
    chunks (frame :: frames) =
      if frame.payload = [] then chunks frames else frame.payload :: chunks frames := by
  by_cases empty : frame.payload = [] <;> simp [chunks, empty]

@[simp] theorem credits_cons (frame : RfcommFrame) (frames : List RfcommFrame) :
    credits (frame :: frames) = frame.creditOctet + credits frames := by simp [credits]

@[simp] theorem chunks_append (first second : List RfcommFrame) :
    chunks (first ++ second) = chunks first ++ chunks second := by simp [chunks]

@[simp] theorem credits_append (first second : List RfcommFrame) :
    credits (first ++ second) = credits first + credits second := by simp [credits]

end RfcommFrame

namespace Dlc
open RfcommFrame

/-- The UIH frames a data link connection puts on the wire. -/
def Carries (dlc : Dlc) (frame : RfcommFrame) : Prop :=
  ∃ information pF, (pF = 0 ∨ pF = 1) ∧ frame = .uih dlc.cR dlc.dlci information pF

/-- All of a connection that transmission leaves alone. -/
def settings (dlc : Dlc) : Dlc := { dlc with txBuffer := [], txCredits := 0, rxCredits := 0 }

/-- What a run of the credit-gated loop does: the data it sends leaves the front of the buffer,
one credit for each chunk, and its grants are counted. It stops only with nothing to send or
nothing to send with. -/
structure Transmits (dlc last : Dlc) (frames : List RfcommFrame) : Prop where
  sent : (chunks frames).flatten ++ last.txBuffer = dlc.txBuffer
  spent : (chunks frames).length + last.txCredits = dlc.txCredits
  granted : last.rxCredits = dlc.rxCredits + credits frames
  blocked : last.txBuffer ≠ [] → last.txCredits = 0
  carries : ∀ frame ∈ frames, dlc.Carries frame
  settings : last.settings = dlc.settings

theorem Transmits.idle {dlc : Dlc} (stopped : dlc.txBuffer ≠ [] → dlc.txCredits = 0) :
    Transmits dlc dlc [] :=
  ⟨rfl, by simp, rfl, stopped, by simp, rfl⟩

theorem Transmits.cons {dlc last : Dlc} (mid : Dlc) {frame : RfcommFrame}
    {frames : List RfcommFrame} (carried : dlc.Carries frame) (cut : frame.payload ++ mid.txBuffer = dlc.txBuffer)
    (spent : mid.txCredits + (if frame.payload = [] then 0 else 1) = dlc.txCredits)
    (granted : mid.rxCredits = dlc.rxCredits + frame.creditOctet)
    (settings : mid.settings = dlc.settings)
    (rest : Transmits mid last frames) : Transmits dlc last (frame :: frames) where
  sent := by
    rw [← cut, ← rest.sent, chunks_cons]
    split
    · rename_i empty
      rw [empty, nil_append]
    · rw [flatten_cons, append_assoc]
  spent := by
    have after := rest.spent
    rw [chunks_cons]
    split
    · rename_i empty
      rw [if_pos empty] at spent
      omega
    · rename_i filled
      rw [if_neg filled] at spent
      rw [length_cons]
      omega
  granted := by
    rw [rest.granted, granted, credits_cons, Nat.add_assoc]
  blocked := rest.blocked
  carries := by
    have sameCR : mid.cR = dlc.cR := (congrArg cR settings :)
    have sameDlci : mid.dlci = dlc.dlci := (congrArg dlci settings :)
    intro other member
    rcases mem_cons.mp member with rfl | member
    · exact carried
    · simpa only [Carries, sameCR, sameDlci] using rest.carries other member
  settings := rest.settings.trans settings

theorem drainGated_plain (fuel : Nat) (dlc : Dlc) (room : 1 ≤ dlc.mtu)
    (enough : dlc.txCredits ≤ fuel) :
    ∃ frames last, drainGated fuel dlc 0 = .ok (frames, last) ∧ Transmits dlc last frames ∧
      last.rxCredits = dlc.rxCredits := by
  induction fuel generalizing dlc with
  | zero =>
    have broke : dlc.txCredits = 0 := by omega
    refine ⟨[], dlc, ?_, .idle fun _ => broke, rfl⟩
    simp [drainGated, broke]
  | succ fuel ih =>
    by_cases ready : dlc.txBuffer ≠ [] ∧ 0 < dlc.txCredits
    · obtain ⟨waiting, funded⟩ := ready
      let take := min dlc.mtu dlc.txBuffer.length
      let mid : Dlc :=
        { dlc with txBuffer := dlc.txBuffer.drop take, txCredits := dlc.txCredits - 1 }
      have nonempty : dlc.txBuffer.take take ≠ [] := by
        have := length_pos_iff.mpr waiting
        simp only [ne_eq, take_eq_nil_iff, waiting, or_false, take]
        omega
      have afford : mid.txCredits + 1 = dlc.txCredits := Nat.sub_add_cancel funded
      obtain ⟨frames, last, ran, transmits, kept⟩ := ih mid room (by omega)
      have pushed : dlc.sendGated 0 = .ok (.uih dlc.cR dlc.dlci (dlc.txBuffer.take take) 0, mid) := by
        simp only [sendGated, nextChunk, gt_iff_lt, Nat.lt_irrefl, if_false, Rust.ok_bind, if_true,
          U8.sub_ok funded]
        rfl
      refine ⟨.uih dlc.cR dlc.dlci (dlc.txBuffer.take take) 0 :: frames, last, ?_, ?_, kept⟩
      · unfold drainGated
        simp [waiting, funded, pushed, ran]
      · refine .cons mid ⟨_, _, .inl rfl, rfl⟩ ?_ ?_ rfl rfl transmits
        · exact take_append_drop take dlc.txBuffer
        · rw [payload_uih_plain, if_neg nonempty]
          exact afford
    · have stopped : dlc.txBuffer ≠ [] → dlc.txCredits = 0 := fun waiting =>
        Nat.eq_zero_of_not_pos fun funded => ready ⟨waiting, funded⟩
      refine ⟨[], dlc, ?_, .idle stopped, rfl⟩
      unfold drainGated
      by_cases waiting : dlc.txBuffer = []
      · simp [waiting]
      · simp [stopped waiting]

theorem sendGated_refill (dlc : Dlc) (room : 2 ≤ dlc.mtu)
    (low : dlc.rxCredits ≤ defaultCreditThreshold) :
    ∃ frame mid, dlc.sendGated (defaultMaxCredits - dlc.rxCredits) = .ok (frame, mid) ∧
      dlc.Carries frame ∧ frame.payload ++ mid.txBuffer = dlc.txBuffer ∧
      mid.txCredits + (if frame.payload = [] then 0 else 1) = dlc.txCredits ∧
      mid.rxCredits = dlc.rxCredits + frame.creditOctet ∧ mid.rxCredits = defaultMaxCredits ∧
      mid.settings = dlc.settings := by
  generalize asked : defaultMaxCredits - dlc.rxCredits = needed
  have positive : 0 < needed ∧ dlc.rxCredits + needed = defaultMaxCredits ∧ needed < 256 := by
    have := low
    simp only [defaultCreditThreshold, defaultMaxCredits] at *
    omega
  obtain ⟨positive, full, small⟩ := positive
  have octet : (UInt8.ofNat needed).toNat = needed := by
    rw [UInt8.toNat_ofNat']
    omega
  have refill : U8.add dlc.rxCredits needed = .ok defaultMaxCredits := by
    rw [U8.add_ok (by rw [full]; decide), full]
  by_cases ready : dlc.txBuffer ≠ [] ∧ 0 < dlc.txCredits
  · obtain ⟨waiting, funded⟩ := ready
    let take := min (dlc.mtu - 1) dlc.txBuffer.length
    have nonempty : dlc.txBuffer.take take ≠ [] := by
      have := length_pos_iff.mpr waiting
      simp only [ne_eq, take_eq_nil_iff, waiting, or_false, take]
      omega
    refine ⟨.uih dlc.cR dlc.dlci (UInt8.ofNat needed :: dlc.txBuffer.take take) 1,
      { dlc with txBuffer := dlc.txBuffer.drop take, txCredits := dlc.txCredits - 1,
                 rxCredits := defaultMaxCredits },
      ?_, ⟨_, _, .inr rfl, rfl⟩, take_append_drop take dlc.txBuffer, ?_, ?_, rfl, rfl⟩
    · simp [sendGated, nextChunk, positive, refill, waiting, funded, U8.sub_ok funded, take]
    · rw [payload_uih_credits, if_neg nonempty]
      exact Nat.sub_add_cancel funded
    · rw [creditOctet_uih_credits, octet]
      exact full.symm
  · refine ⟨.uih dlc.cR dlc.dlci [UInt8.ofNat needed] 1,
      { dlc with rxCredits := defaultMaxCredits }, ?_, ⟨_, _, .inr rfl, rfl⟩, rfl, rfl, ?_, rfl, rfl⟩
    · have idle : (!dlc.txBuffer.isEmpty && decide (dlc.txCredits > 0)) = false := by
        simpa using ready
      simp [sendGated, nextChunk, positive, refill, idle]
    · rw [creditOctet_uih_credits, octet]
      exact full.symm

theorem drainUngated_settings {fuel : Nat} {dlc last : Dlc} {frames : List RfcommFrame}
    (ran : drainUngated fuel dlc = .ok (frames, last)) : last.settings = dlc.settings := by
  induction fuel generalizing dlc frames with
  | zero =>
    unfold drainUngated at ran
    split at ran
    · cases ran
      rfl
    · contradiction
  | succ fuel ih =>
    unfold drainUngated at ran
    split at ran
    · cases ran
      rfl
    · obtain ⟨⟨later, final⟩, tail, finished⟩ := Rust.bind_eq_ok.mp ran
      cases finished
      have kept := ih tail
      exact kept

theorem sendGated_settings {dlc mid : Dlc} {needed : Nat} {frame : RfcommFrame}
    (ran : dlc.sendGated needed = .ok (frame, mid)) : mid.settings = dlc.settings := by
  obtain ⟨⟨chunk, spent, funded⟩, chosen, ran⟩ := Rust.bind_eq_ok.mp ran
  obtain ⟨credits, _, finished⟩ := Rust.bind_eq_ok.mp ran
  have same : funded.settings = dlc.settings := by
    unfold nextChunk at chosen
    split at chosen
    · obtain ⟨refilled, _, chosen⟩ := Rust.bind_eq_ok.mp chosen
      split at chosen <;> cases chosen <;> rfl
    · cases chosen
      rfl
  cases finished
  exact same

theorem drainGated_settings {fuel : Nat} {dlc last : Dlc} {needed : Nat}
    {frames : List RfcommFrame} (ran : drainGated fuel dlc needed = .ok (frames, last)) :
    last.settings = dlc.settings := by
  induction fuel generalizing dlc needed frames with
  | zero =>
    unfold drainGated at ran
    split at ran
    · contradiction
    · cases ran
      rfl
  | succ fuel ih =>
    unfold drainGated at ran
    split at ran
    · obtain ⟨⟨frame, mid⟩, pushed, ran⟩ := Rust.bind_eq_ok.mp ran
      obtain ⟨⟨later, final⟩, tail, finished⟩ := Rust.bind_eq_ok.mp ran
      cases finished
      exact (ih tail).trans (sendGated_settings pushed)
    · cases ran
      rfl

/-- Whatever the loop does, it does to the buffer and the two counters. -/
theorem processTx_settings {dlc last : Dlc} {frames : List RfcommFrame}
    (ran : dlc.processTx = .ok (frames, last)) : last.settings = dlc.settings := by
  unfold processTx at ran
  split at ran
  · exact drainUngated_settings ran
  · obtain ⟨needed, _, ran⟩ := Rust.bind_eq_ok.mp ran
    exact drainGated_settings ran

/-- The transmit loop always ends on a connection with room for an octet of
data beside the credit octet, and leaves the peer above its low-water mark.
A connection that was at the mark sends at least the refill. -/
theorem processTx_gated {dlc : Dlc} (gated : dlc.cfc = true) (room : 2 ≤ dlc.mtu)
    (limit : dlc.rxMaxCredits = defaultMaxCredits)
    (mark : dlc.rxCreditsThreshold = defaultCreditThreshold)
    (bounded : dlc.rxCredits ≤ defaultMaxCredits) :
    ∃ frames last, dlc.processTx = .ok (frames, last) ∧ Transmits dlc last frames ∧
      defaultCreditThreshold < last.rxCredits ∧ last.rxCredits ≤ defaultMaxCredits ∧
      (dlc.rxCredits ≤ defaultCreditThreshold → frames ≠ []) := by
  by_cases low : dlc.rxCredits ≤ defaultCreditThreshold
  · have asked : dlc.rxCreditsNeeded = .ok (defaultMaxCredits - dlc.rxCredits) := by
      simp only [rxCreditsNeeded, gated, mark, low, limit]
      exact U8.sub_ok bounded
    obtain ⟨frame, mid, pushed, carried, cut, spent, granted, full, settings⟩ :=
      sendGated_refill dlc room low
    have roomMid : 1 ≤ mid.mtu := by
      have same : mid.mtu = dlc.mtu := (congrArg mtu settings :)
      omega
    obtain ⟨frames, last, ran, transmits, kept⟩ :=
      drainGated_plain dlc.txCredits mid roomMid (by omega)
    refine ⟨frame :: frames, last, ?_, .cons mid carried cut spent granted settings transmits, ?_⟩
    · have positive : 0 < defaultMaxCredits - dlc.rxCredits :=
        Nat.sub_pos_of_lt (Nat.lt_of_le_of_lt low (by decide))
      simp only [processTx, gated, asked, Rust.ok_bind]
      unfold drainGated
      simp [positive, pushed, ran]
    · rw [kept, full]
      exact ⟨by decide, Nat.le_refl _, fun _ => cons_ne_nil _ _⟩
  · have asked : dlc.rxCreditsNeeded = .ok 0 := by
      simp only [rxCreditsNeeded, gated, mark, low]
      rfl
    obtain ⟨frames, last, ran, transmits, kept⟩ :=
      drainGated_plain (dlc.txCredits + 1) dlc (by omega) (by omega)
    refine ⟨frames, last, ?_, transmits, ?_⟩
    · simp only [processTx, gated, asked, Rust.ok_bind]
      exact ran
    · rw [kept]
      exact ⟨Nat.lt_of_not_le low, bounded, fun mark => absurd mark low⟩

end Dlc
end Simble.Rfcomm
