import Simble.Rfcomm.Pair

/-! One end of a connection and what it does with each frame in flight to it. Only UIH frames move
its counters, and each of them runs the transmit loop; the rest is signalling. -/
namespace Simble.Rfcomm
open Simble.Lib RfcommFrame Multiplexer

def uihFrames (dlci : UInt8) (inbox : List Bytes) : List RfcommFrame :=
  (inbox.filterMap RfcommFrame.parse).filter fun frame =>
    frame.frameType == FrameType.uih && frame.dlci == dlci

@[simp] theorem uihFrames_nil (dlci : UInt8) : uihFrames dlci [] = [] := rfl

@[simp] theorem uihFrames_append (dlci : UInt8) (first second : List Bytes) :
    uihFrames dlci (first ++ second) = uihFrames dlci first ++ uihFrames dlci second := by
  simp [uihFrames]

theorem uihFrames_cons (dlci : UInt8) (bytes : Bytes) (inbox : List Bytes) :
    uihFrames dlci (bytes :: inbox) = uihFrames dlci [bytes] ++ uihFrames dlci inbox :=
  uihFrames_append dlci [bytes] inbox

/-- What two multiplexers say to each other about one connection once both have
it. -/
inductive Spoken (dlci : UInt8) : Message → Prop where
  | sabm : Spoken dlci (.sabm dlci)
  | ua : Spoken dlci (.ua dlci)
  | msc (command : Bool) : Spoken dlci (.msc command dlci)
  | data (information : Bytes) (pF : UInt8) : Spoken dlci (.data dlci information pF)

def Message.isData : Message → Bool
  | .data .. => true
  | _ => false

theorem uihFrames_signalling {dlci : UInt8} {message : Message} {bytes : Bytes}
    (valid : ValidDlci dlci) (carried : message.Carried bytes) (other : message.isData = false) :
    uihFrames dlci [bytes] = [] := by
  obtain ⟨cR, parsed⟩ := carried.parse
  have different : (0 : UInt8) ≠ dlci := fun same => valid.data same.symm
  cases message <;>
    simp_all [uihFrames, Message.frame, Message.isData, uih, sabm, ua, dm, FrameType.sabm,
      FrameType.ua, FrameType.dm, FrameType.uih]

/-- Messages about a connection that carry none of its data. -/
def Signalling (dlci : UInt8) (out : List Bytes) : Prop :=
  ∀ bytes ∈ out, ∃ message, message.Carried bytes ∧ Spoken dlci message ∧ message.isData = false

theorem signals_frame {dlci : UInt8} (message : Message) (wellFormed : message.WellFormed)
    (spoken : Spoken dlci message) (other : message.isData = false) {cR : UInt8} (isBit : IsBit cR) :
    ∃ said, said.Carried (message.frame cR).toBytes ∧ Spoken dlci said ∧ said.isData = false :=
  ⟨message, ⟨wellFormed, cR, isBit, rfl⟩, spoken, other⟩

theorem Signalling.uihFrames {dlci : UInt8} {out : List Bytes} (valid : ValidDlci dlci)
    (signalling : Signalling dlci out) : uihFrames dlci out = [] := by
  induction out with
  | nil => rfl
  | cons bytes out ih =>
    obtain ⟨message, carried, _, other⟩ := signalling bytes List.mem_cons_self
    rw [uihFrames_cons, uihFrames_signalling valid carried other,
      ih fun bytes member => signalling bytes (List.mem_cons_of_mem _ member)]
    rfl

theorem uihFrames_data {dlci : UInt8} {information : Bytes} {pF : UInt8} {bytes : Bytes}
    (carried : (Message.data dlci information pF).Carried bytes) :
    ∃ cR, uihFrames dlci [bytes] = [{ uih cR dlci information pF with withCredits := false }] := by
  obtain ⟨cR, parsed⟩ := carried.parse
  exact ⟨cR, by simp [uihFrames, parsed, Message.frame, uih]⟩

theorem credits_uihFrames_data {dlci : UInt8} {information : Bytes} {pF : UInt8} {bytes : Bytes}
    (carried : (Message.data dlci information pF).Carried bytes) :
    credits (uihFrames dlci [bytes]) = (uih 0 dlci information pF).creditOctet := by
  obtain ⟨cR, seen⟩ := uihFrames_data carried
  rw [seen]
  rfl

/-- One end of a connection under credit-based flow control with the credit
limits the code uses. -/
structure Dlc.Gated (dlci : UInt8) (dlc : Dlc) : Prop where
  number : dlc.dlci = dlci
  isBit : IsBit dlc.cR
  running : dlc.state = .connecting ∨ dlc.state = .connected
  gated : dlc.cfc = true
  room : 2 ≤ dlc.mtu
  limit : dlc.rxMaxCredits = defaultMaxCredits
  mark : dlc.rxCreditsThreshold = defaultCreditThreshold

theorem Dlc.Gated.of_settings {dlci : UInt8} {dlc other : Dlc} (gated : dlc.Gated dlci)
    (same : other.settings = dlc.settings) : other.Gated dlci where
  number := (congrArg Dlc.dlci same :).trans gated.number
  isBit := by
    have kept : other.cR = dlc.cR := (congrArg Dlc.cR same :)
    exact kept ▸ gated.isBit
  running := by
    have kept : other.state = dlc.state := (congrArg Dlc.state same :)
    exact kept ▸ gated.running
  gated := (congrArg Dlc.cfc same :).trans gated.gated
  room := by
    have kept : other.mtu = dlc.mtu := (congrArg Dlc.mtu same :)
    exact kept ▸ gated.room
  limit := (congrArg Dlc.rxMaxCredits same :).trans gated.limit
  mark := (congrArg Dlc.rxCreditsThreshold same :).trans gated.mark

theorem uihFrames_transmission {dlci : UInt8} {dlc : Dlc} (valid : ValidDlci dlci)
    (gated : dlc.Gated dlci) {frames : List RfcommFrame} (carries : ∀ frame ∈ frames, dlc.Carries frame) :
    chunks (uihFrames dlci (frames.map toBytes)) = chunks frames ∧
      credits (uihFrames dlci (frames.map toBytes)) = credits frames ∧
      (frames ≠ [] → uihFrames dlci (frames.map toBytes) ≠ []) ∧
      ∀ bytes ∈ frames.map toBytes, ∃ message, message.Carried bytes ∧ Spoken dlci message := by
  induction frames with
  | nil => simp
  | cons frame frames ih =>
    obtain ⟨sameChunks, sameCredits, _, spoken⟩ := ih fun other member =>
      carries other (List.mem_cons_of_mem _ member)
    obtain ⟨information, pF, isBit, rfl⟩ := carries frame List.mem_cons_self
    have carried : (Message.data dlci information pF).Carried
        (uih dlc.cR dlc.dlci information pF).toBytes :=
      ⟨⟨valid, isBit⟩, dlc.cR, gated.isBit, by rw [gated.number]; rfl⟩
    obtain ⟨cR, seen⟩ := uihFrames_data carried
    rw [List.map_cons, uihFrames_cons, seen]
    refine ⟨?_, ?_, fun _ => by simp, ?_⟩
    · rw [List.singleton_append, chunks_cons, chunks_cons, sameChunks]
      rfl
    · rw [List.singleton_append, credits_cons, credits_cons, sameCredits]
      rfl
    · intro bytes member
      rcases List.mem_cons.mp member with rfl | member
      · exact ⟨_, carried, .data information pF⟩
      · exact spoken bytes member

/-- A multiplexer with one connection, which is `dlc`. -/
structure Endpoint (dlci : UInt8) (mux : Multiplexer) (dlc : Dlc) : Prop where
  found : mux.dlcs.lookup dlci = some dlc
  alone : ∀ other, other ≠ dlci → mux.dlcs.lookup other = none
  gated : dlc.Gated dlci

namespace Endpoint
variable {dlci : UInt8} {mux : Multiplexer} {dlc last : Dlc}

/-- The connection is replaced and nothing else is added. -/
theorem insert (endpoint : Endpoint dlci mux dlc) (gated : last.Gated dlci) {after : Multiplexer}
    (dlcs : after.dlcs = mux.dlcs.insert dlci last) : Endpoint dlci after last where
  found := by rw [dlcs, AList.lookup_insert]
  alone other different := by
    rw [dlcs, AList.lookup_insert_ne different]
    exact endpoint.alone other different
  gated := gated

/-- What one run of the transmit loop leaves and puts in flight, given the
connection as the loop finds it. -/
structure Sends (dlci : UInt8) (ready last : Dlc) (out : List Bytes) : Prop where
  sent : (chunks (uihFrames dlci out)).flatten ++ last.txBuffer = ready.txBuffer
  spent : (chunks (uihFrames dlci out)).length + last.txCredits = ready.txCredits
  granted : last.rxCredits = ready.rxCredits + credits (uihFrames dlci out)
  blocked : last.txBuffer ≠ [] → last.txCredits = 0
  above : defaultCreditThreshold < last.rxCredits
  bounded : last.rxCredits ≤ defaultMaxCredits
  refills : ready.rxCredits ≤ defaultCreditThreshold → uihFrames dlci out ≠ []
  spoken : ∀ bytes ∈ out, ∃ message, message.Carried bytes ∧ Spoken dlci message

theorem transmits (valid : ValidDlci dlci) (gated : dlc.Gated dlci)
    (bounded : dlc.rxCredits ≤ defaultMaxCredits) :
    ∃ frames last, dlc.processTx = .ok (frames, last) ∧ last.Gated dlci ∧
      Sends dlci dlc last (frames.map toBytes) := by
  obtain ⟨frames, last, ran, transmits, above, within, refills⟩ :=
    Dlc.processTx_gated gated.gated gated.room gated.limit gated.mark bounded
  obtain ⟨sameChunks, sameCredits, shown, spoken⟩ :=
    uihFrames_transmission valid gated transmits.carries
  refine ⟨frames, last, ran, gated.of_settings transmits.settings, ?_⟩
  exact
    { sent := sameChunks ▸ transmits.sent
      spent := sameChunks ▸ transmits.spent
      granted := sameCredits ▸ transmits.granted
      blocked := transmits.blocked
      above
      bounded := within
      refills := fun low => shown (refills low)
      spoken }

theorem write (valid : ValidDlci dlci) (endpoint : Endpoint dlci mux dlc)
    (bounded : dlc.rxCredits ≤ defaultMaxCredits) (asked : UInt8) (data : Bytes) :
    (∃ error, mux.write asked data = .error (.err error)) ∨
      ∃ out after last, mux.write asked data = .ok (out, after) ∧ Endpoint dlci after last ∧
        Sends dlci (dlc.queue data) last out := by
  by_cases same : asked = dlci
  · subst same
    by_cases state : dlc.state = .connected
    · have queued : (dlc.queue data).Gated asked := endpoint.gated.of_settings rfl
      obtain ⟨frames, last, ran, gated, sends⟩ := transmits valid queued bounded
      refine .inr ⟨frames.map toBytes, { mux with dlcs := mux.dlcs.insert asked last }, last, ?_,
        endpoint.insert gated rfl, sends⟩
      simp [Multiplexer.write, connectedDlc, endpoint.found, state, ran]
    · refine .inl ⟨.deviceError s!"RFCOMM: DLC {asked} is not connected", ?_⟩
      simp [Multiplexer.write, connectedDlc, endpoint.found, state]
  · refine .inl ⟨unknownDlci asked, ?_⟩
    simp [Multiplexer.write, connectedDlc, endpoint.alone asked same]

def taken (dlc : Dlc) (frame : RfcommFrame) : Dlc :=
  { dlc with
    txCredits := dlc.txCredits + frame.creditOctet
    rxCredits := if frame.payload = [] then dlc.rxCredits else dlc.rxCredits - 1 }

theorem takeCredits_eq {frame : RfcommFrame} (gated : dlc.cfc = true)
    (room : dlc.txCredits + frame.creditOctet ≤ 255) :
    takeCredits dlc frame =
      ({ dlc with txCredits := dlc.txCredits + frame.creditOctet }, frame.payload) := by
  unfold takeCredits
  by_cases credited : frame.pF = 1
  · have octet : frame.creditOctet = (frame.information.head?.getD 0).toNat := if_pos credited
    have payload : frame.payload = frame.information.drop 1 := if_pos credited
    rw [octet] at room
    rw [if_pos (by simp [gated, credited]), octet, payload]
    simp only [U8.saturatingAdd_eq room]
  · have octet : frame.creditOctet = 0 := if_neg credited
    have payload : frame.payload = frame.information := if_neg credited
    rw [if_neg (by simp [credited]), octet, payload]
    rfl

theorem takeData_eq (data : Bytes) :
    takeData dlc dlci data =
      ({ dlc with rxCredits := if data = [] then dlc.rxCredits else dlc.rxCredits - 1 },
        if data = [] then [] else [MultiplexerEvent.dataReceived dlci data]) := by
  unfold takeData
  by_cases empty : data = [] <;> simp [empty, U8.saturatingSub]

theorem receive_data (valid : ValidDlci dlci) (endpoint : Endpoint dlci mux dlc)
    (bounded : dlc.rxCredits ≤ defaultMaxCredits) {information : Bytes} {pF : UInt8}
    (room : dlc.txCredits + (uih 0 dlci information pF).creditOctet ≤ 255) :
    ∃ out after last,
      mux.onMessage (.data dlci information pF) =
        .ok ((out, if (uih 0 dlci information pF).payload = [] then []
          else [.dataReceived dlci (uih 0 dlci information pF).payload]), after) ∧
      Endpoint dlci after last ∧ Sends dlci (taken dlc (uih 0 dlci information pF)) last out := by
  have ready : (taken dlc (uih 0 dlci information pF)).Gated dlci := endpoint.gated.of_settings rfl
  have fewer : (taken dlc (uih 0 dlci information pF)).rxCredits ≤ defaultMaxCredits := by
    dsimp only [taken]
    split <;> omega
  obtain ⟨frames, last, ran, gated, sends⟩ := transmits valid ready fewer
  refine ⟨frames.map toBytes, { mux with dlcs := mux.dlcs.insert dlci last }, last, ?_,
    endpoint.insert gated rfl, sends⟩
  dsimp only [taken] at ran
  rw [onMessage_data valid endpoint.found]
  simp only [onDlcUih, endpoint.found, takeCredits_eq endpoint.gated.gated room,
    takeData_eq, ran, Rust.ok_bind]
  rfl

theorem opened (endpoint : Endpoint dlci mux dlc) {after : Multiplexer}
    (dlcs : after.dlcs = mux.dlcs.insert dlci { dlc with state := .connected }) :
    Endpoint dlci after { dlc with state := .connected } := by
  have gated : Dlc.Gated dlci { dlc with state := .connected } :=
    { endpoint.gated with running := .inr rfl }
  exact endpoint.insert gated dlcs

/-- Everything else that is said leaves the counters alone, puts no UIH frame of
the connection in flight and reports no data. -/
theorem receive_signalling (valid : ValidDlci dlci) (endpoint : Endpoint dlci mux dlc)
    {message : Message} (spoken : Spoken dlci message) (other : message.isData = false) :
    ∃ out events after state, mux.onMessage message = .ok ((out, events), after) ∧
      Endpoint dlci after { dlc with state } ∧ Signalling dlci out ∧
      ∀ other data, .dataReceived other data ∉ events := by
  have msc (command : Bool) := signals_frame (.msc command dlci) valid (.msc command) rfl
    endpoint.gated.isBit
  have ua := signals_frame (.ua dlci) valid .ua rfl endpoint.gated.isBit.flip
  cases spoken with
  | sabm =>
    rw [onMessage_sabm valid endpoint.found]
    split
    · exact ⟨_, _, _, _, rfl, endpoint.opened rfl, by simpa [Signalling] using ⟨ua, msc true⟩, by simp⟩
    · exact ⟨_, _, _, dlc.state, rfl, endpoint, by simp [Signalling], by simp⟩
  | ua =>
    rw [onMessage_ua valid endpoint.found endpoint.gated.running]
    split
    · exact ⟨_, _, _, _, rfl, endpoint.opened rfl, by simpa [Signalling] using msc true, by simp⟩
    · exact ⟨_, _, _, dlc.state, rfl, endpoint, by simp [Signalling], by simp⟩
  | msc command =>
    rw [onMessage_msc valid endpoint.found]
    refine ⟨_, _, _, dlc.state, rfl, endpoint, ?_, by simp⟩
    cases command
    · simp [Signalling]
    · simpa [Signalling] using msc false
  | data => simp [Message.isData] at other

end Endpoint

end Simble.Rfcomm
