import Simble.Device.ClassicHost
import Simble.Lib.Outlet

/-! What a host sends, as its peer reassembles it. Output that a handler has
ready goes through the queue that the controller's credits gate; answers and
requests pass it. -/
namespace Simble.Device.ClassicHost
open L2cap Hci ProtocolHandler List

/-! ## Frames in packets -/

def readFragment (packet : Bytes) : Option (UInt16 × Bool × Bytes) :=
  (readAcl packet).map fun read => (read.1.handle, read.1.isFirstFragment, read.2)

def channelOf : Bytes → UInt16
  | _ :: _ :: low :: high :: _ => U16.fromLeBytes low high
  | _ => 0

/-- A frame for a connection, whole in one packet or in packets of a size at most. -/
structure Outgoing where
  handle : UInt16
  frame : Bytes
  size : Option ℕ+
deriving DecidableEq

namespace Outgoing
variable (item : Outgoing)

def packets : List Bytes :=
  match item.size with
  | none => [aclPacket item.handle item.frame]
  | some mtu => aclPackets item.handle item.frame mtu

/-- The length of the frame fits its length field and those of the packets, and
the first packet has room for the frame's header. -/
def Fits : Prop :=
  (∃ cid payload, item.frame = serialize cid payload ∧ payload.length ≤ 65535) ∧
    match item.size with
    | none => item.frame.length ≤ 65535
    | some mtu => 4 ≤ (mtu : Nat) ∧ min (mtu : Nat) item.frame.length ≤ 65535

end Outgoing

theorem readFragment_aclFragment (handle : UInt16) (boundary : AclPacketBoundary) {data : Bytes}
    (small : data.length ≤ 65535) : readFragment (aclFragment handle boundary data) =
      some (handle &&& 0x0FFF, boundary == .firstNonFlushable, data) := by
  rw [readFragment, readAcl_aclFragment _ _ small, Option.map_some, HciAclHeader.new_handle,
    HciAclHeader.new_isFirstFragment]

theorem aclFragments_continuing (handle : UInt16) (mtu : ℕ+) (data : Bytes) :
    ∃ rest : List Bytes, aclFragments handle .continuing data mtu =
        rest.map (aclFragment handle .continuing) ∧ rest.flatten = data ∧
      ∀ piece ∈ rest, piece ≠ [] ∧ piece.length ≤ mtu := by
  have pos := mtu.pos
  induction count : data.length using Nat.strong_induction_on generalizing data with
  | _ count ih =>
    rw [aclFragments]
    by_cases empty : data = []
    · rw [if_pos empty]
      exact ⟨[], rfl, empty.symm, nofun⟩
    · rw [if_neg empty]
      have nonempty := length_pos_iff.mpr empty
      obtain ⟨rest, cut, whole, sized⟩ := ih (data.drop (min data.length mtu)).length
        (by rw [length_drop]; omega) _ rfl
      refine ⟨data.take (min data.length mtu) :: rest, ?_, ?_, ?_⟩
      · rw [cut, map_cons]
      · rw [flatten_cons, whole, take_append_drop]
      · intro piece member
        rcases mem_cons.mp member with rfl | later
        · refine ⟨length_pos_iff.mp ?_, ?_⟩ <;> rw [length_take] <;> omega
        · exact sized piece later

theorem Outgoing.Fits.cut {item : Outgoing} (fits : item.Fits) : ∃ cut : Cut,
    cut.frame = item.frame ∧ item.packets.map readFragment =
      cut.fragments.map fun fragment => some (item.handle &&& 0x0FFF, fragment) := by
  obtain ⟨⟨cid, payload, same, small⟩, sized⟩ := fits
  have length : item.frame.length = 4 + payload.length := by
    rw [same]
    simp [serialize, U16.toLeBytes]
    omega
  have single : item.frame.length ≤ 65535 → ∃ cut : Cut, cut.frame = item.frame ∧
      [aclPacket item.handle item.frame].map readFragment =
        cut.fragments.map fun fragment => some (item.handle &&& 0x0FFF, fragment) := by
    intro short
    have ended : ([] : List Bytes).getLast? ≠ some [] := Option.some_ne_none _ ∘ Eq.symm
    refine ⟨⟨cid, payload, small, item.frame, [], by omega, ?_, ended⟩, same.symm, ?_⟩
    · rw [flatten_nil, append_nil, same]
    · simp only [map_cons, map_nil, Cut.fragments, aclPacket,
        readFragment_aclFragment _ _ short]
      rfl
  unfold packets
  cases size : item.size with
  | none =>
    rw [size] at sized
    exact single sized
  | some mtu =>
    rw [size] at sized
    obtain ⟨headed, short⟩ := sized
    simp only [aclPackets]
    by_cases one : item.frame.length ≤ mtu
    · rw [if_pos one]
      exact single (by omega)
    · rw [if_neg one, aclFragments, if_neg (by rintro empty; rw [empty] at one; simp at one),
        Nat.min_eq_right (by omega)]
      obtain ⟨rest, continuing, whole, pieces⟩ :=
        aclFragments_continuing item.handle mtu (item.frame.drop mtu)
      refine ⟨⟨cid, payload, small, item.frame.take mtu, rest, ?_, ?_, ?_⟩, same.symm, ?_⟩
      · rw [length_take]
        omega
      · rw [whole, take_append_drop, same]
      · intro ended
        exact (pieces [] (mem_of_getLast? ended)).1 rfl
      · have first : (item.frame.take mtu).length ≤ 65535 := by
          rw [length_take]
          omega
        rw [continuing, map_cons, readFragment_aclFragment _ _ first, Cut.fragments,
          map_cons, map_map, map_map]
        refine congrArg (List.cons _) (map_congr_left fun piece member => ?_)
        exact readFragment_aclFragment _ _ ((pieces piece member).2.trans (by omega))

theorem channelOf_first (cut : Cut) : channelOf cut.first = channelOf cut.frame := by
  obtain ⟨low, high, data, first⟩ := cut.first_eq
  have whole : cut.first ++ cut.rest.flatten = cut.frame := cut.whole
  rw [← whole, first]
  rfl

def framing : Lib.Cutting Outgoing Bytes UInt16 UInt16 where
  pieces := Outgoing.packets
  link item := item.handle &&& 0x0FFF
  lane item := channelOf item.frame
  on packet := (readFragment packet).map Prod.fst
  first packet := (readFragment packet).bind fun read =>
    if read.2.1 then some (channelOf read.2.2) else none
  fits := Outgoing.Fits
  told item fits := by
    obtain ⟨cut, same, read⟩ := fits.cut
    rw [Cut.fragments, map_cons, map_map] at read
    obtain ⟨head, tail, packets, first, rest⟩ := map_eq_cons_iff.mp read
    have continuing : ∀ piece ∈ tail, ∃ data,
        readFragment piece = some (item.handle &&& 0x0FFF, false, data) := by
      intro piece member
      obtain ⟨data, -, found⟩ := mem_map.mp (rest ▸ mem_map_of_mem member)
      exact ⟨data, found.symm⟩
    refine ⟨head, tail, packets, ?_, fun piece member => ?_, fun piece member => ?_⟩
    · rw [first, ← same, ← channelOf_first cut]
      rfl
    · obtain ⟨data, found⟩ := continuing piece member
      rw [found]
      rfl
    · rw [packets] at member
      rcases mem_cons.mp member with rfl | later
      · rw [first]
        rfl
      · obtain ⟨data, found⟩ := continuing piece later
        rw [found]
        rfl

/-! ## What a host does to its outlet -/

variable {H : Type} [ProtocolHandler H]

abbrev Act := Lib.Outlet.Action Outgoing Bytes

section Actions
variable (host : ClassicHost H)

def immediate (handle : UInt16) (frames : List Bytes) : List Outgoing :=
  frames.map fun frame => ⟨handle, frame, none⟩

def reassembled (packet : Bytes) : ClassicHost H :=
  match HciAclHeader.parse (packet.drop 1) with
  | none => host
  | some (header, payload) => { host with aclReassembler :=
      (host.aclReassembler.pushFragment header.handle header.isFirstFragment payload).1 }

def answered (packet : Bytes) : List Outgoing :=
  match host.completed packet with
  | none => []
  | some (handle, channelId, body) =>
    immediate handle ((host.reassembled packet).answerFrames channelId body).2

def collected (host : ClassicHost H) (handle : UInt16) :
    List (HandlerChannel × UInt16) → List Outgoing
  | [] => []
  | (channel, peerCid) :: rest =>
    ((host.outputFrames channel peerCid).2.map fun frame =>
        ⟨handle, frame, some (host.outputFrames channel peerCid).1.aclMtu⟩) ++
      collected (host.collect handle [(channel, peerCid)]) handle rest

def requested (psm : UInt16) : List Outgoing :=
  match host.connection with
  | none => []
  | some (handle, _) => immediate handle (host.connectFrame psm).2.toOption.toList

def requestedEach (host : ClassicHost H) : List UInt16 → List Outgoing
  | [] => []
  | psm :: rest => host.requested psm ++ requestedEach (host.openChannel psm).1 rest

def pollActions : List Act :=
  match host.connection with
  | none => []
  | some (handle, _) =>
    let announced := host.announce (host.openChannels.map Prod.fst)
    let queued := announced.collect handle host.openChannels
    let wanted := wantedChannels queued.release.1.handlers
    (announced.collected handle host.openChannels).map .queue ++
      [.release (min (queued.aclCreditsTotal - queued.aclInFlight) queued.pendingAcl.length)] ++
      (({ queued.release.1 with handlers := wanted.1 } : ClassicHost H).requestedEach wanted.2).map
        .urgent

def dispatchActions (packet : Bytes) : List Act :=
  if packet.head? = some H4Type.hciEvent then (host.handleEvent packet).2.map .aside
  else if packet.head? = some H4Type.hciAclData then (host.answered packet).map .urgent
  else []

def actions : Input → List Act
  | .packet bytes => host.dispatchActions bytes ++
      if (host.dispatch bytes).2.toOption.isSome then (host.dispatch bytes).1.pollActions else []
  | .poll => host.pollActions
  | .openChannel psm => (host.requested psm).map .urgent

end Actions

abbrev Port := Lib.Outlet Outgoing Bytes

def Follows (port : Port) (next : Port) (host : ClassicHost H) (out : List Bytes) : Prop :=
  next.queued = host.pendingAcl ∧ next.sent = port.sent ++ out

section Steps
variable {port : Port} {host : ClassicHost H}

omit [ProtocolHandler H] in
theorem immediate_packets (handle : UInt16) (frames : List Bytes) :
    (immediate handle frames).flatMap framing.pieces = frames.map (aclPacket handle) := by
  induction frames with
  | nil => rfl
  | cons frame rest ih => exact congrArg (aclPacket handle frame :: ·) ih

theorem collected_follows (handle : UInt16) (channels : List (HandlerChannel × UInt16))
    (same : port.queued = host.pendingAcl) :
    Follows port (port.run framing ((host.collected handle channels).map .queue))
      (host.collect handle channels) [] := by
  induction channels generalizing host port with
  | nil => exact ⟨same, (append_nil _).symm⟩
  | cons entry rest ih =>
    obtain ⟨channel, peerCid⟩ := entry
    rw [collected, map_append, Lib.Outlet.run_append]
    obtain ⟨sent, queued⟩ := Lib.Outlet.run_queue framing ((host.outputFrames channel peerCid).2.map fun frame =>
        ⟨handle, frame, some (host.outputFrames channel peerCid).1.aclMtu⟩) port
    have kept := (host.outputFrames_keeps channel peerCid).pendingAcl
    rw [same, flatMap_map, ← kept] at queued
    have next := @ih _ (host.collect handle [(channel, peerCid)]) queued
    refine ⟨next.1, next.2.trans ?_⟩
    rw [sent]

omit [ProtocolHandler H] in
theorem requested_follows (psm : UInt16) (same : port.queued = host.pendingAcl) :
    Follows port (port.run framing ((host.requested psm).map .urgent)) (host.openChannel psm).1
      ((host.openChannel psm).2.toOption.getD []) := by
  obtain ⟨queued, sent⟩ := Lib.Outlet.run_urgent framing (host.requested psm) port
  refine ⟨queued.trans (same.trans (host.openChannel_keeps psm).pendingAcl.symm), sent.trans ?_⟩
  unfold requested openChannel
  cases host.connection with
  | none => rfl
  | some link =>
    cases (host.connectFrame psm).2 <;> rfl

omit [ProtocolHandler H] in
theorem requestedEach_follows (wanted : List UInt16) (same : port.queued = host.pendingAcl) :
    Follows port (port.run framing ((host.requestedEach wanted).map .urgent))
      (host.openEach wanted).1 (host.openEach wanted).2 := by
  induction wanted generalizing host port with
  | nil => exact ⟨same, (append_nil _).symm⟩
  | cons psm rest ih =>
    rw [requestedEach, map_append, Lib.Outlet.run_append]
    obtain ⟨queued, sent⟩ := requested_follows psm same
    obtain ⟨lastQueued, lastSent⟩ := ih queued
    refine ⟨lastQueued, lastSent.trans ?_⟩
    rw [sent, append_assoc]
    rfl

theorem poll_follows (same : port.queued = host.pendingAcl) :
    Follows port (port.run framing host.pollActions) host.poll.1 host.poll.2 := by
  unfold pollActions poll
  cases host.connection with
  | none => exact ⟨same, (append_nil _).symm⟩
  | some link =>
    obtain ⟨handle, peer⟩ := link
    simp only
    rw [Lib.Outlet.run_append, Lib.Outlet.run_append]
    have announced := announce_keeps (host.openChannels.map Prod.fst) host
    obtain ⟨queued, sent⟩ := collected_follows handle host.openChannels
      (same.trans announced.pendingAcl.symm)
    generalize port.run framing _ = full at queued sent
    generalize (host.announce (host.openChannels.map Prod.fst)).collect handle
      host.openChannels = ready at queued
    have released : (full.run framing [.release
        (min (ready.aclCreditsTotal - ready.aclInFlight) ready.pendingAcl.length)]).queued =
          ({ ready.release.1 with handlers := (wantedChannels ready.release.1.handlers).1 } :
            ClassicHost H).pendingAcl := congrArg (List.drop _) queued
    obtain ⟨lastQueued, lastSent⟩ :=
      requestedEach_follows (wantedChannels ready.release.1.handlers).2 released
    refine ⟨lastQueued, lastSent.trans ?_⟩
    have left : (full.run framing [.release
        (min (ready.aclCreditsTotal - ready.aclInFlight) ready.pendingAcl.length)]).sent =
          port.sent ++ ready.release.2 := by
      rw [append_nil] at sent
      exact congrArg₂ (· ++ ·) sent (congrArg (List.take _) queued)
    rw [left, append_assoc]
    rfl

section Same
variable (packet : Bytes) (same : port.queued = host.pendingAcl)
include same

theorem handleEvent_follows :
    Follows port (port.run framing ((host.handleEvent packet).2.map .aside))
      (host.handleEvent packet).1 (host.handleEvent packet).2 := by
  obtain ⟨queued, sent⟩ := Lib.Outlet.run_aside framing (host.handleEvent packet).2 port
  refine ⟨queued.trans (same.trans ?_), sent⟩
  unfold handleEvent
  cases HciEvent.parseH4 packet with
  | none => rfl
  | some event =>
    rcases host.onEvent_cases event with ⟨complete, -, ended⟩ | ⟨kept, -⟩
    · simp only [ended]
      rfl
    · exact kept.pendingAcl.symm

theorem handleAcl_follows :
    Follows port (port.run framing ((host.answered packet).map .urgent))
      (host.handleAcl packet).1 ((host.handleAcl packet).2.toOption.getD []) := by
  obtain ⟨queued, sent⟩ := Lib.Outlet.run_urgent framing (host.answered packet) port
  refine ⟨queued.trans (same.trans (host.handleAcl_keeps packet).pendingAcl.symm), sent.trans ?_⟩
  apply congrArg (port.sent ++ ·)
  unfold answered reassembled completed handleAcl
  cases HciAclHeader.parse (packet.drop 1) with
  | none => rfl
  | some parsed =>
    obtain ⟨header, payload⟩ := parsed
    simp only
    generalize host.aclReassembler.pushFragment header.handle header.isFirstFragment payload = pushed
    obtain ⟨aclReassembler, result⟩ := pushed
    match result with
    | .error error => rfl
    | .ok none => rfl
    | .ok (some frame) =>
      simp only
      cases readFrame frame with
      | none => rfl
      | some found =>
        obtain ⟨channelId, body⟩ := found
        simp only [Option.map_some, immediate_packets]
        unfold answerFrames
        by_cases signaling : channelId = brSignaling
        · simp only [if_pos signaling]
          rfl
        · simp only [if_neg signaling]
          rfl

theorem dispatch_follows :
    Follows port (port.run framing (host.dispatchActions packet)) (host.dispatch packet).1
      ((host.dispatch packet).2.toOption.getD []) := by
  unfold dispatchActions dispatch
  split_ifs
  · exact handleEvent_follows packet same
  · exact handleAcl_follows packet same
  · refine ⟨same.trans (host.handleSco_keeps packet).pendingAcl.symm, (append_nil _).symm⟩
  · exact ⟨same, (append_nil _).symm⟩

end Same

theorem step_follows (input : Input) (same : port.queued = host.pendingAcl) :
    Follows port (port.run framing (host.actions input)) (host.step input).1
      (host.step input).2 := by
  cases input with
  | openChannel psm => exact requested_follows psm same
  | poll => exact poll_follows same
  | packet bytes =>
    obtain ⟨queued, sent⟩ := dispatch_follows bytes same
    simp only [actions, step, handlePacket]
    rw [Lib.Outlet.run_append]
    generalize port.run framing (host.dispatchActions bytes) = after at queued sent
    generalize host.dispatch bytes = dispatched at queued sent
    obtain ⟨next, result⟩ := dispatched
    cases result with
    | error => exact ⟨queued, sent⟩
    | ok out =>
      obtain ⟨lastQueued, lastSent⟩ := poll_follows queued
      refine ⟨lastQueued, lastSent.trans ?_⟩
      rw [sent, append_assoc]
      rfl

/-- What is sent beside frames is no ACL data. -/
theorem aside_silent {input : Input} {packet : Bytes}
    (member : Lib.Outlet.Action.aside packet ∈ host.actions input) :
    framing.on packet = none := by
  have commands : ∀ event, ∀ sent ∈ (host.onEvent event).2, readFragment sent = none := by
    intro event sent member
    have silent := filterMap_eq_nil_iff.mp (host.onEvent_sent event) sent member
    unfold readFragment readAcl
    match sent with
    | [] => rfl
    | [h4] => by_cases data : h4 = H4Type.hciAclData <;> simp [data, HciAclHeader.parse]
    | [h4, _] => by_cases data : h4 = H4Type.hciAclData <;> simp [data, HciAclHeader.parse]
    | h4 :: _ :: _ :: _ =>
      by_cases data : h4 = H4Type.hciAclData
      · simp [aclHandle, data] at silent
      · simp [data]
  have polls : ∀ other : ClassicHost H, .aside packet ∉ other.pollActions := by
    intro other member
    unfold pollActions at member
    cases link : other.connection <;> simp [link] at member
  cases input with
  | openChannel psm => simp [actions] at member
  | poll => exact absurd member (polls host)
  | packet bytes =>
    rcases mem_append.mp member with first | second
    · unfold dispatchActions at first
      split_ifs at first
      · obtain ⟨sent, found, same⟩ := mem_map.mp first
        cases same
        unfold handleEvent at found
        cases parsed : HciEvent.parseH4 bytes with
        | none => simp [parsed] at found
        | some event =>
          rw [parsed] at found
          exact congrArg (Option.map Prod.fst) (commands event packet found)
      · simp at first
      · simp at first
    · split_ifs at second
      · exact absurd second (polls _)
      · simp at second

end Steps

/-! ## Runs -/

structure Emitting (H : Type) where
  host : ClassicHost H
  sent : List Bytes
  produced : List Outgoing

namespace Emitting
variable (emitting : Emitting H)

def port : Port := ⟨emitting.sent, emitting.host.pendingAcl, emitting.produced⟩

def delivered (handle : UInt16) (packets : List Bytes) : List Bytes :=
  (Lib.onKey handle (Lib.answers AclReassembler.push .new
    (packets.filterMap readFragment))).filterMap fun answer => answer.toOption.join

/-- What is sent is reassembled without error, and with what is queued it is
the frames that were produced, for each channel in their order. -/
structure Reassemblable : Prop where
  clean : ∀ answer ∈ Lib.answers AclReassembler.push .new (emitting.sent.filterMap readFragment),
    answer.2.toOption.isSome
  ordered : ∀ handle channel,
    (delivered handle (emitting.sent ++ emitting.host.pendingAcl)).filter
        (fun frame => channelOf frame = channel) =
      (emitting.produced.filter fun item =>
        item.handle &&& 0x0FFF = handle ∧ channelOf item.frame = channel).map Outgoing.frame

end Emitting

def Emitting.next (emitting : Emitting H) (input : Input) : Emitting H where
  host := (emitting.host.step input).1
  sent := emitting.sent ++ (emitting.host.step input).2
  produced :=
    emitting.produced ++ (emitting.host.actions input).flatMap Lib.Outlet.Action.items

def Emits (emitting : Emitting H) (input : Input) (after : Emitting H) : Prop :=
  after = emitting.next input

/-- Every frame fits, and what passes the queue finds no frame half sent on its
connection and none of its channel waiting. -/
def Courteous (emitting : Emitting H) (input : Input) : Prop :=
  Lib.Outlet.AllAllowed framing emitting.port (emitting.host.actions input)

theorem emits_port {emitting after : Emitting H} {input : Input}
    (emits : Emits emitting input after) :
    after.port = emitting.port.run framing (emitting.host.actions input) := by
  obtain ⟨queued, sent⟩ := @step_follows H _ emitting.port emitting.host input rfl
  have produced := Lib.Outlet.run_produced framing (emitting.host.actions input)
    emitting.port
  rw [emits, Emitting.next]
  generalize emitting.port.run framing (emitting.host.actions input) = port at queued sent produced
  obtain ⟨sent', queued', produced'⟩ := port
  simp only at queued sent produced
  rw [queued, sent, produced]
  rfl

theorem cuts_of_items (items : List Outgoing) (fit : ∀ item ∈ items, item.Fits) :
    ∃ cuts : List Cut, cuts.map Cut.frame = items.map Outgoing.frame ∧
      ((items.flatMap Outgoing.packets).filterMap fun packet =>
        (readFragment packet).map Prod.snd) = cuts.flatMap Cut.fragments := by
  induction items with
  | nil => exact ⟨[], rfl, rfl⟩
  | cons item rest ih =>
    obtain ⟨cuts, frames, read⟩ := ih fun other member => fit other (.tail _ member)
    obtain ⟨cut, same, packets⟩ := (fit item (.head _)).cut
    refine ⟨cut :: cuts, ?_, ?_⟩
    · rw [map_cons, map_cons, same, frames]
    · have own : (item.packets.filterMap fun packet => (readFragment packet).map Prod.snd) =
          cut.fragments := by
        have whole := congrArg (List.filterMap (Option.map Prod.snd)) packets
        rw [filterMap_map, filterMap_map] at whole
        exact whole.trans (filterMap_some ..)
      rw [flatMap_cons, filterMap_append, own, read, flatMap_cons]

theorem outcome_frames (cuts : List Cut) :
    ((cuts.flatMap Cut.outcome).filterMap fun answer => answer.toOption.join) =
      cuts.map Cut.frame := by
  induction cuts with
  | nil => rfl
  | cons cut rest ih =>
    have own : (cut.outcome.filterMap fun answer => answer.toOption.join) = [cut.frame] := by
      unfold Cut.outcome Lib.once
      rw [map_append, filterMap_append, map_replicate,
        filterMap_eq_nil_iff.mpr fun answer member => by rw [eq_of_mem_replicate member]; rfl]
      rfl
    rw [flatMap_cons, filterMap_append, own, ih]
    rfl

omit [ProtocolHandler H] in
theorem reassemblable_of_whole {emitting : Emitting H}
    (whole : Lib.Outlet.Whole framing emitting.port) : emitting.Reassemblable := by
  have answers : ∀ handle, ∃ items : List Outgoing, ∃ cuts : List Cut,
      cuts.map Cut.frame = items.map Outgoing.frame ∧
      Lib.onKey handle (Lib.answers AclReassembler.push .new
        ((emitting.sent ++ emitting.host.pendingAcl).filterMap readFragment)) =
          cuts.flatMap Cut.outcome ∧
      ∀ channel, framing.inLane channel items =
        framing.inLane channel (framing.forLink handle emitting.produced) := by
    intro handle
    obtain ⟨items, fit, same, lanes⟩ := whole handle
    obtain ⟨cuts, frames, read⟩ := cuts_of_items items fun item member => (fit item member).1
    refine ⟨items, cuts, frames, (AclReassembler.reassembles _).1 handle cuts ?_, lanes⟩
    rw [Lib.onKey_filterMap]
    exact (congrArg (List.filterMap fun packet => (readFragment packet).map Prod.snd) same).trans
      read
  constructor
  · intro answer member
    have later := (Lib.answers_prefix AclReassembler.push (emitting.sent.filterMap readFragment)
      (emitting.host.pendingAcl.filterMap readFragment) .new).subset member
    rw [← filterMap_append] at later
    obtain ⟨items, cuts, -, same, -⟩ := answers answer.1
    have found := Lib.mem_onKey later
    rw [same] at found
    obtain ⟨cut, -, outcome⟩ := mem_flatMap.mp found
    obtain ⟨result, -, ok⟩ := mem_map.mp outcome
    rw [← ok]
    rfl
  · intro handle channel
    obtain ⟨items, cuts, frames, same, lanes⟩ := answers handle
    unfold Emitting.delivered
    rw [same, outcome_frames, frames, filter_map]
    have lane := congrArg (List.map Outgoing.frame) (lanes channel)
    refine Eq.trans ?_ (lane.trans ?_)
    · rfl
    · unfold Lib.Cutting.inLane Lib.Cutting.forLink
      rw [filter_filter]
      refine congrArg (List.map Outgoing.frame) (filter_congr fun item _ => ?_)
      rw [Bool.and_comm, ← Bool.decide_and]
      rfl

/-- A handler that has two SDUs to send when it is first polled, and answers data with a third. -/
instance talker : ProtocolHandler Bool where
  onChannelOpen state _ := state
  onChannelLost state _ := state
  onChannelData state _ _ := (state, [[3]])
  pollChannelOutput state _ := if state then (false, [[1], [2]]) else (false, [])
  pollChannelRequests state := (state, [])
  onChannelClosed state := state

def talking : ClassicHost Bool :=
  (new.registerHandler ⟨[0x0001], true⟩).1.readBufferSize [0x00, 27, 0, 0, 1, 0, 0, 0]

/-- The peer opens a channel, configures it both ways and sends data. -/
def conversation : List Input :=
  [connected 0x40,
    .packet [0x02, 0x40, 0x20, 12, 0, 8, 0, 1, 0, 0x02, 1, 4, 0, 1, 0, 0x41, 0],
    .packet [0x02, 0x40, 0x20, 12, 0, 8, 0, 1, 0, 0x04, 2, 4, 0, 0x40, 0, 0, 0],
    .packet [0x02, 0x40, 0x20, 14, 0, 10, 0, 1, 0, 0x05, 2, 6, 0, 0x40, 0, 0, 0, 0, 0],
    .packet [0x02, 0x40, 0x20, 5, 0, 1, 0, 0x40, 0, 9]]

def halved : ClassicHost Bool := talking.readBufferSize [0x00, 4, 0, 0, 1, 0, 0, 0]

theorem courteous_of_idle {emitting : Emitting H} {input : Input} (idle : emitting.host.pendingAcl = [])
    (now later : List Outgoing) (count : Nat) (same : emitting.host.actions input =
      now.map .urgent ++ (later.map .queue ++ [.release count]))
    (fit : ∀ item ∈ now ++ later, item.Fits) : Courteous emitting input := by
  have silent : emitting.port.queued = [] := idle
  rw [Courteous, same]
  clear same idle
  generalize emitting.port = port at silent
  induction now generalizing port with
  | cons item now ih =>
    obtain ⟨first, rest⟩ := forall_mem_cons.mp fit
    exact ⟨⟨first, by rw [silent]; exact ⟨nofun, nofun⟩⟩, ih rest _ silent⟩
  | nil =>
    clear silent
    induction later generalizing port with
    | nil => exact ⟨trivial, trivial⟩
    | cons item later ih =>
      obtain ⟨first, rest⟩ := forall_mem_cons.mp fit
      exact ⟨first, ih rest _⟩

theorem courteous_of_release {emitting : Emitting H} {input : Input} (count : Nat)
    (same : emitting.host.actions input = [.release count]) : Courteous emitting input := by
  rw [Courteous, same]
  exact ⟨trivial, trivial⟩

theorem courteous_snoc {start emitting : Emitting H} {history : List Input}
    (run : Lib.Run (Lib.Guarded Courteous Emits) start history emitting) (input : Input)
    (courteous : Courteous emitting input) :
    Lib.Run (Lib.Guarded Courteous Emits) start (history ++ [input]) (emitting.next input) :=
  run.snoc ⟨courteous, rfl⟩

end Simble.Device.ClassicHost
