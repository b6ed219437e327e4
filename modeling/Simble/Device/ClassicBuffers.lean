import Simble.Device.ClassicHost

/-! The controller's ACL buffers beside the host's count of them. Only queued output is counted;
answers and requests leave past the count, which is right until the first of them: the first
packet a host can have to send. -/
namespace Simble.Device.ClassicHost
open L2cap Hci ProtocolHandler List

variable {H : Type} [ProtocolHandler H]

/-! ## The controller -/

/-- A controller with what it declared, the connections of the packets that it
holds, and the connections that have ended. -/
structure Controller where
  aclLen : ℕ+
  aclNum : ℕ+
  held : List UInt16
  ended : List UInt16

namespace Controller

/-- The handles and counts of a Number Of Completed Packets event. -/
def returned : Nat → Bytes → List (UInt16 × Nat)
  | pairs + 1, a :: b :: low :: high :: rest =>
    (U16.fromLeBytes a b &&& 0x0FFF, (U16.fromLeBytes low high).toNat) :: returned pairs rest
  | _, _ => []

variable (controller : Controller)

/-- The events of a controller that returns no packet twice, and that has
declared its buffers already. -/
def Sends : HciEvent → Prop
  | .commandComplete header _ => header.commandOpcode ≠ Opcode.readBufferSize
  | .other code (count :: rest) => code = SecurityEvent.numberOfCompletedPackets →
    ∀ handle, (((returned count.toNat rest).filter fun entry => entry.1 = handle).map
      Prod.snd).sum ≤ controller.held.count handle
  | _ => True

/-- What is held when packets have been returned. -/
def give : List (UInt16 × Nat) → List UInt16 :=
  List.foldl (fun held entry => held.diff (List.replicate entry.2 entry.1)) controller.held

def afterEvent : HciEvent → Controller
  | .other code (count :: rest) =>
    if code = SecurityEvent.numberOfCompletedPackets then
      { controller with held := controller.give (returned count.toNat rest) }
    else controller
  | .disconnectionComplete complete =>
    if complete.status = 0x00 then
      { controller with
        held := controller.held.filter fun handle => handle ≠ complete.connectionHandle &&& 0x0FFF
        ended := (complete.connectionHandle &&& 0x0FFF) :: controller.ended }
    else controller
  | .connectionComplete complete =>
    if complete.status = 0x00 then
      { controller with ended :=
        controller.ended.filter fun handle => handle ≠ complete.connectionHandle &&& 0x0FFF }
    else controller
  | _ => controller

def afterInput (input : Input) : Controller := input.event.elim controller controller.afterEvent

end Controller

/-! ## Histories -/

structure Attached (H : Type) where
  host : ClassicHost H
  controller : Controller

structure Exchange (H : Type) where
  before : Attached H
  input : Input

namespace Exchange
variable (exchange : Exchange H)

def sent : List Bytes := (exchange.before.host.step exchange.input).2

def after : Attached H where
  host := (exchange.before.host.step exchange.input).1
  controller :=
    let controller := exchange.before.controller.afterInput exchange.input
    { controller with held := controller.held ++ exchange.sent.filterMap aclHandle }

end Exchange

def Exchanges (attached : Attached H) (exchange : Exchange H) (after : Attached H) : Prop :=
  exchange.before = attached ∧
    (∀ event, exchange.input.event = some event → attached.controller.Sends event) ∧
    after = exchange.after

structure Respectful (history : List (Exchange H)) (attached : Attached H) : Prop where
  sized : ∀ earlier exchange, history = earlier ++ [exchange] → ∀ packet ∈ exchange.sent,
    (aclHandle packet).isSome → packet.length - 5 ≤ (attached.controller.aclLen : Nat)
  bounded : attached.controller.held.length ≤ (attached.controller.aclNum : Nat)
  counted : attached.host.aclInFlight = attached.controller.held.length
  alive : ∀ earlier exchange, history = earlier ++ [exchange] →
    ∀ handle ∈ exchange.sent.filterMap aclHandle, handle ∉ attached.controller.ended

/-! ## What draws a packet -/

/-- A signaling command that is answered whatever channels there are: a
Connection Request or a Disconnection Request that is not too short. -/
def Asks (body : Bytes) : Prop :=
  ∃ header params, L2capSignalingHeader.refFromPrefix body = some (header, params) ∧
    (header.code = SignalingCode.connectionRequest ∨
      header.code = SignalingCode.disconnectionRequest) ∧
    4 ≤ min header.length.toNat params.length

/-- A poll finds no link, or no handler that wants a channel. -/
def Content (host : ClassicHost H) : Prop :=
  host.connection = none ∨ (wantedChannels host.handlers).2 = []

/-- Nobody asks for a channel or for the end of one: no peer, no handler and
no profile. -/
def Unasked (attached : Attached H) (exchange : Exchange H) : Prop :=
  match exchange.input with
  | .openChannel _ => attached.host.connection = none
  | .poll => Content attached.host
  | .packet bytes =>
    (bytes.head? = some H4Type.hciAclData → ∀ handle body,
      attached.host.completed bytes = some (handle, brSignaling, body) → ¬ Asks body) ∧
    ((attached.host.dispatch bytes).2.toOption.isSome →
      Content (attached.host.dispatch bytes).1)

structure Quiet (host : ClassicHost H) : Prop where
  localCids : host.localCids = []
  channels : ∀ cid, host.channels.getChannel cid = none
  pendingAcl : host.pendingAcl = []
  aclInFlight : host.aclInFlight = 0

structure Closed (host : ClassicHost H) : Prop where
  channels : ∀ cid channel, host.channels.getChannel cid = some channel → channel.isOpen = false
  pendingAcl : host.pendingAcl = []
  aclInFlight : host.aclInFlight = 0

omit [ProtocolHandler H] in
theorem Quiet.closed {host : ClassicHost H} (quiet : Quiet host) : Closed host where
  channels cid channel found := by
    rw [quiet.channels cid] at found
    contradiction
  pendingAcl := quiet.pendingAcl
  aclInFlight := quiet.aclInFlight

omit [ProtocolHandler H] in
theorem Closed.keep {host next : ClassicHost H} (closed : Closed host) (kept : Keeps host next)
    (channels : ∀ cid channel, next.channels.getChannel cid = some channel →
      channel.isOpen = false) : Closed next :=
  ⟨channels, kept.pendingAcl.trans closed.pendingAcl, kept.aclInFlight.trans closed.aclInFlight⟩

omit [ProtocolHandler H] in
theorem aclHandle_aclPacket (handle : UInt16) (l2cap : Bytes) :
    aclHandle (aclPacket handle l2cap) = some (handle &&& 0x0FFF) := by
  have same := HciAclHeader.new_handle handle .firstNonFlushable (UInt16.ofNat l2cap.length)
  unfold HciAclHeader.handle at same
  simp only [aclPacket, aclFragment, HciAclHeader.asBytes, U16.toLeBytes, cons_append,
    aclHandle, if_true, U16.fromLeBytes_toLeBytes]
  exact congrArg some same

theorem filterMap_aclPacket (handle : UInt16) (frames : List Bytes) :
    (frames.map (aclPacket handle)).filterMap aclHandle =
      List.replicate frames.length (handle &&& 0x0FFF) := by
  induction frames with
  | nil => rfl
  | cons frame rest ih =>
    rw [map_cons, filterMap_cons_some (aclHandle_aclPacket _ _), ih]
    rfl

/-! ## A host without channels -/

section Tables
variable {channels : ClassicChannelManager} (empty : ∀ cid, channels.getChannel cid = none)
include empty

theorem allocate_empty : ∃ table cid, channels.channels.allocate = (table, some cid) := by
  unfold CidAllocator.allocate CidAllocator.allocateLoop
  have free := empty channels.channels.nextCid
  unfold ClassicChannelManager.getChannel CidAllocator.get at free
  simp [free]

theorem connect_empty (spec : ClassicChannelSpec) :
    ∃ cid request, (channels.connect spec).2 = .ok (cid, request) := by
  obtain ⟨table, cid, allocated⟩ := allocate_empty empty
  unfold ClassicChannelManager.connect
  rw [allocated]
  exact ⟨_, _, rfl⟩

theorem onConnectionRequest_empty (request : ConnectionRequestHeader) (mtu : UInt16) :
    (∃ response, (channels.onConnectionRequest request mtu).2 = .ok response) ∧
    ∀ cid channel, (channels.onConnectionRequest request mtu).1.getChannel cid = some channel →
      channel.isOpen = false := by
  constructor
  · obtain ⟨table, cid, allocated⟩ := allocate_empty empty
    unfold ClassicChannelManager.onConnectionRequest
    split
    · exact ⟨_, rfl⟩
    · rw [allocated]
      exact ⟨_, rfl⟩
  · intro cid channel found
    rcases channels.getChannel_onConnectionRequest request mtu cid with ⟨same, -⟩ | ⟨-, -, entered⟩
    · rw [same, empty cid] at found
      contradiction
    · rw [entered] at found
      cases found
      rfl

end Tables

omit [ProtocolHandler H] in
theorem configure_channels (host : ClassicHost H) (cid : UInt16) :
    (host.configure cid).1.channels = host.channels := by
  unfold configure
  split <;> rfl

section Frames
variable {host : ClassicHost H} (quiet : Quiet host)
include quiet

omit [ProtocolHandler H] in
theorem configure_quiet (cid : UInt16) : host.configure cid = (host, []) := by
  unfold configure ClassicChannelManager.makeConfigurationRequest
  have absent := quiet.channels cid
  unfold ClassicChannelManager.getChannel at absent
  rw [absent]

omit [ProtocolHandler H] in
theorem change_quiet {β : Type} (cid : UInt16)
    (body : ClassicChannel → ClassicChannel × Except SimbleError β) :
    host.channels.change cid body = (host.channels, .error (unknownCid cid)) := by
  have absent := quiet.channels cid
  unfold ClassicChannelManager.getChannel at absent
  unfold ClassicChannelManager.change
  rw [absent]

omit [ProtocolHandler H] in
theorem onConnectionResponse_quiet (response : ConnectionResponseHeader) :
    (host.onConnectionResponse response).2 = [] ∧ Quiet (host.onConnectionResponse response).1 := by
  unfold onConnectionResponse ClassicChannelManager.onConnectionResponse
  simp only
  split_ifs with pending refused
  · simp only [configure_quiet quiet]
    exact ⟨trivial, quiet⟩
  · refine ⟨rfl, ⟨by simp [quiet.localCids], fun cid => ?_, quiet.pendingAcl, quiet.aclInFlight⟩⟩
    change CidAllocator.get _ _ = none
    rw [CidAllocator.get_remove]
    split
    · rfl
    · exact quiet.channels cid
  · rw [change_quiet quiet]
    exact ⟨rfl, ⟨by simp [quiet.localCids], quiet.channels, quiet.pendingAcl, quiet.aclInFlight⟩⟩

theorem signalingFrames_quiet {body : Bytes} (unasked : ¬ Asks body) :
    (host.signalingFrames body).2 = [] ∧ Quiet (host.signalingFrames body).1 := by
  unfold signalingFrames
  cases parsed : L2capSignalingHeader.refFromPrefix body with
  | none => exact ⟨rfl, quiet⟩
  | some found =>
    obtain ⟨header, params⟩ := found
    have short : header.code = SignalingCode.connectionRequest ∨
        header.code = SignalingCode.disconnectionRequest →
        (params.take (min header.length.toNat params.length)).length < 4 := by
      intro asking
      by_contra enough
      apply unasked
      refine ⟨header, params, parsed, asking, ?_⟩
      rw [length_take] at enough
      omega
    simp only
    split_ifs with connect answer configure configured disconnect
    · have few := short (.inl connect)
      match given : params.take (min header.length.toNat params.length) with
      | [] | [_] | [_, _] | [_, _, _] => exact ⟨rfl, quiet⟩
      | _ :: _ :: _ :: _ :: _ =>
        rw [given] at few
        exact absurd few (by simp)
    · split
      · exact ⟨rfl, quiet⟩
      · exact onConnectionResponse_quiet quiet _
    · split
      · exact ⟨rfl, quiet⟩
      · unfold onConfigurationRequest ClassicChannelManager.onConfigurationRequest
        rw [change_quiet quiet]
        exact ⟨rfl, quiet⟩
    · split
      · exact ⟨rfl, quiet⟩
      · unfold onConfigurationResponse ClassicChannelManager.onConfigurationResponse
        rw [change_quiet quiet]
        exact ⟨rfl, quiet⟩
    · have few := short (.inr disconnect)
      match given : params.take (min header.length.toNat params.length) with
      | [] | [_] | [_, _] | [_, _, _] => exact ⟨rfl, quiet⟩
      | _ :: _ :: _ :: _ :: _ =>
        rw [given] at few
        exact absurd few (by simp)
    · exact ⟨rfl, quiet⟩

theorem signalingFrames_asked {body : Bytes} (asked : Asks body) :
    (host.signalingFrames body).2 ≠ [] ∧ Closed (host.signalingFrames body).1 := by
  obtain ⟨header, params, parsed, code, enough⟩ := asked
  have kept := host.signalingFrames_keeps body
  revert kept
  unfold signalingFrames
  rw [parsed]
  simp only
  obtain ⟨a, b, c, d, rest, given⟩ : ∃ a b c d rest,
      params.take (min header.length.toNat params.length) = a :: b :: c :: d :: rest := by
    match given : params.take (min header.length.toNat params.length) with
    | a :: b :: c :: d :: rest => exact ⟨a, b, c, d, rest, rfl⟩
    | [] | [_] | [_, _] | [_, _, _] =>
      have length := congrArg List.length given
      rw [length_take] at length
      simp only [length_cons, length_nil] at length
      omega
  rw [given]
  intro kept
  rcases code with code | code
  · simp only [code, if_true, ConnectionRequestHeader.refFromPrefix] at kept ⊢
    obtain ⟨⟨response, granted⟩, unopened⟩ := onConnectionRequest_empty quiet.channels
      ⟨U16.fromLeBytes a b, U16.fromLeBytes c d⟩ defaultL2capMtu
    revert kept
    unfold onConnectionRequest
    obtain ⟨answer, same⟩ : ∃ answer, host.channels.onConnectionRequest
      ⟨U16.fromLeBytes a b, U16.fromLeBytes c d⟩ defaultL2capMtu = answer := ⟨_, rfl⟩
    rw [same] at granted unopened ⊢
    obtain ⟨table, result⟩ := answer
    subst granted
    simp only
    split_ifs
    · intro kept
      refine ⟨cons_ne_nil _ _, quiet.closed.keep kept ?_⟩
      intro cid channel found
      rw [configure_channels] at found
      exact unopened cid channel found
    · intro kept
      exact ⟨cons_ne_nil _ _, quiet.closed.keep kept unopened⟩
  · have others : header.code ≠ SignalingCode.connectionRequest ∧
        header.code ≠ SignalingCode.connectionResponse ∧
        header.code ≠ SignalingCode.configurationRequest ∧
        header.code ≠ SignalingCode.configurationResponse := by
      rw [code]
      decide
    rw [if_neg others.1, if_neg others.2.1, if_neg others.2.2.1, if_neg others.2.2.2,
      if_pos code] at kept ⊢
    refine ⟨cons_ne_nil _ _, quiet.closed.keep kept ?_⟩
    intro cid channel found
    have removed := host.channels.getChannel_remove (U16.fromLeBytes a b) cid
    rw [quiet.channels cid, ite_self] at removed
    have same : (host.channels.removeChannel (U16.fromLeBytes a b)).1.getChannel cid =
        some channel := found
    rw [removed] at same
    contradiction

theorem dataFrames_quiet (cid : UInt16) (data : Bytes) : host.dataFrames cid data = (host, []) := by
  unfold dataFrames
  rw [quiet.channels cid]

omit [ProtocolHandler H] in
theorem connectFrame_quiet (psm : UInt16) : ∃ frame, (host.connectFrame psm).2 = .ok frame := by
  obtain ⟨cid, request, granted⟩ := connect_empty quiet.channels ⟨psm, defaultL2capMtu⟩
  unfold connectFrame
  obtain ⟨answer, same⟩ : ∃ answer, host.channels.connect ⟨psm, defaultL2capMtu⟩ = answer :=
    ⟨_, rfl⟩
  rw [same] at granted ⊢
  obtain ⟨table, result⟩ := answer
  subst granted
  exact ⟨_, rfl⟩

omit [ProtocolHandler H] in
theorem openChannel_quiet {handle : UInt16} {address : Address}
    (up : host.connection = some (handle, address)) (psm : UInt16) :
    ∃ frame, (host.openChannel psm).2 = .ok [aclPacket handle frame] := by
  obtain ⟨frame, made⟩ := connectFrame_quiet quiet psm
  unfold openChannel
  rw [up]
  exact ⟨frame, by rw [made]; rfl⟩

end Frames

/-! ## Steps -/

theorem Closed.poll {host : ClassicHost H} (closed : Closed host) :
    host.poll = match host.connection with
      | none => (host, [])
      | some _ => host.openRequestedChannels := by
  have none_open : host.openChannels = [] := by
    unfold openChannels
    rw [map_eq_nil_iff, filter_eq_nil_iff]
    intro channel member
    obtain ⟨cid, -, found⟩ := List.mem_filterMap.mp member
    rw [closed.channels cid channel found]
    decide
  have released : host.release = (host, []) := by
    have nothing : min (host.aclCreditsTotal - host.aclInFlight) host.pendingAcl.length = 0 := by
      rw [closed.pendingAcl]
      exact Nat.min_zero _
    simp only [release, nothing, Nat.add_zero, drop_zero, take_zero]
  unfold ClassicHost.poll
  cases host.connection with
  | none => rfl
  | some link =>
    rw [none_open]
    simp only [map_nil, announce, collect, released, nil_append]

theorem Closed.poll_inFlight {host : ClassicHost H} (closed : Closed host) :
    host.poll.1.aclInFlight = 0 := by
  rw [closed.poll]
  split
  · exact closed.aclInFlight
  · exact host.openRequestedChannels_keeps.aclInFlight.trans closed.aclInFlight

section Quiet
variable {host : ClassicHost H} (quiet : Quiet host)
include quiet

theorem poll_content (content : Content host) : host.poll.2 = [] ∧ Quiet host.poll.1 := by
  rw [quiet.closed.poll]
  cases up : host.connection with
  | none => exact ⟨rfl, quiet⟩
  | some link =>
    have unwanted : (wantedChannels host.handlers).2 = [] := by
      refine content.resolve_left fun down => ?_
      rw [up] at down
      contradiction
    simp only [openRequestedChannels, unwanted, openEach]
    exact ⟨trivial, ⟨quiet.localCids, quiet.channels, quiet.pendingAcl, quiet.aclInFlight⟩⟩

theorem poll_wanting (wanting : ¬ Content host) : host.poll.2.filterMap aclHandle ≠ [] := by
  have both := not_or.mp wanting
  obtain ⟨⟨handle, address⟩, up⟩ := Option.ne_none_iff_exists'.mp both.1
  obtain ⟨psm, rest, wanted⟩ := exists_cons_of_ne_nil both.2
  have ready : Quiet { host with handlers := (wantedChannels host.handlers).1 } :=
    ⟨quiet.localCids, quiet.channels, quiet.pendingAcl, quiet.aclInFlight⟩
  obtain ⟨frame, opened⟩ := openChannel_quiet ready up psm
  rw [quiet.closed.poll, up]
  simp only [openRequestedChannels, wanted, openEach, opened, Except.toOption, Option.getD_some,
    filterMap_append]
  rw [filterMap_cons_some (aclHandle_aclPacket _ _)]
  exact cons_ne_nil _ _

theorem onEvent_quiet (event : HciEvent) : Quiet (host.onEvent event).1 := by
  rcases host.onEvent_cases event with ⟨complete, -, ended⟩ | ⟨same, flight⟩
  · rw [ended]
    refine ⟨rfl, fun cid => ?_, quiet.pendingAcl, quiet.aclInFlight⟩
    change (loseChannels host.localCids host.channels host.handlers).1.getChannel cid = none
    rw [quiet.localCids]
    exact quiet.channels cid
  · refine ⟨same.localCids.trans quiet.localCids, fun cid => ?_,
      same.pendingAcl.trans quiet.pendingAcl, ?_⟩
    · rw [same.channels]
      exact quiet.channels cid
    · rw [quiet.aclInFlight] at flight
      exact Nat.le_zero.mp flight

theorem dispatch_quiet {bytes : Bytes}
    (unasked : bytes.head? = some H4Type.hciAclData → ∀ handle body,
      host.completed bytes = some (handle, brSignaling, body) → ¬ Asks body) :
    ((host.dispatch bytes).2.toOption.getD []).filterMap aclHandle = [] ∧
      Quiet (host.dispatch bytes).1 := by
  unfold dispatch
  split_ifs with event acl sco
  · unfold handleEvent
    cases HciEvent.parseH4 bytes with
    | none => exact ⟨rfl, quiet⟩
    | some parsed => exact ⟨host.onEvent_sent parsed, onEvent_quiet quiet parsed⟩
  · obtain ⟨aclReassembler, ⟨-, after, out⟩ | ⟨handle, channelId, body, whole, answered⟩⟩ :=
      host.handleAcl_cases bytes
    · rw [after]
      refine ⟨?_, ⟨quiet.localCids, quiet.channels, quiet.pendingAcl, quiet.aclInFlight⟩⟩
      rcases out with out | ⟨error, out⟩ <;> rw [out] <;> rfl
    · have ready : Quiet { host with aclReassembler } :=
        ⟨quiet.localCids, quiet.channels, quiet.pendingAcl, quiet.aclInFlight⟩
      have silent : (ClassicHost.answerFrames { host with aclReassembler } channelId body).2 = [] ∧
          Quiet (ClassicHost.answerFrames { host with aclReassembler } channelId body).1 := by
        unfold answerFrames
        split
        case isTrue signaling =>
          subst signaling
          exact signalingFrames_quiet ready (unasked acl handle body whole)
        case isFalse =>
          rw [dataFrames_quiet ready]
          exact ⟨rfl, ready⟩
      rw [answered, silent.1]
      exact ⟨rfl, silent.2⟩
  · refine ⟨rfl, ?_⟩
    unfold handleSco
    split
    · split_ifs
      · exact quiet
      · exact quiet
      · exact ⟨quiet.localCids, quiet.channels, quiet.pendingAcl, quiet.aclInFlight⟩
    · exact quiet
  · exact ⟨rfl, quiet⟩

theorem dispatch_asked {bytes : Bytes} (acl : bytes.head? = some H4Type.hciAclData)
    {handle : UInt16} {body : Bytes}
    (whole : host.completed bytes = some (handle, brSignaling, body)) (asked : Asks body) :
    ∃ out, (host.dispatch bytes).2 = .ok out ∧ out.filterMap aclHandle ≠ [] ∧
      Closed (host.dispatch bytes).1 := by
  have other : bytes.head? ≠ some H4Type.hciEvent := by
    rw [acl]
    decide
  unfold dispatch
  rw [if_neg other, if_pos acl]
  obtain ⟨aclReassembler, ⟨nothing, -⟩ | ⟨handle', channelId, body', same, answered⟩⟩ :=
    host.handleAcl_cases bytes
  · rw [whole] at nothing
    contradiction
  · rw [whole] at same
    cases same
    have ready : Quiet { host with aclReassembler } :=
      ⟨quiet.localCids, quiet.channels, quiet.pendingAcl, quiet.aclInFlight⟩
    obtain ⟨some_answer, closed⟩ := signalingFrames_asked ready asked
    rw [answered]
    unfold answerFrames
    rw [if_pos rfl]
    refine ⟨_, rfl, ?_, closed⟩
    rw [filterMap_aclPacket]
    intro empty
    have none_left := congrArg List.length empty
    rw [length_replicate] at none_left
    exact some_answer (List.length_eq_zero_iff.mp none_left)

end Quiet

section Runs

omit [ProtocolHandler H] in
theorem afterInput_held {controller : Controller} (nothing : controller.held = [])
    (input : Input) : (controller.afterInput input).held = [] := by
  have given : ∀ back, controller.give back = [] := by
    intro back
    unfold Controller.give
    rw [nothing]
    induction back with
    | nil => rfl
    | cons entry rest ih => rwa [foldl_cons, nil_diff]
  unfold Controller.afterInput
  cases input.event with
  | none => exact nothing
  | some event =>
    unfold Controller.afterEvent
    simp only [Option.elim_some]
    split
    · split_ifs
      · exact given _
      · exact nothing
    · split_ifs
      · simp only [nothing, filter_nil]
      · exact nothing
    · split_ifs <;> exact nothing
    · exact nothing

/-- Where nobody asks for anything, nothing is sent and nothing is held. -/
theorem quiet_step {exchange : Exchange H} (quiet : Quiet exchange.before.host)
    (unasked : Unasked exchange.before exchange) :
    exchange.sent.filterMap aclHandle = [] ∧ Quiet exchange.after.host := by
  obtain ⟨⟨host, controller⟩, input⟩ := exchange
  unfold Exchange.sent Exchange.after
  cases input with
  | openChannel psm =>
    simp only [step, openChannel] at unasked ⊢
    rw [unasked]
    exact ⟨rfl, quiet⟩
  | poll =>
    obtain ⟨silent, still⟩ := poll_content quiet unasked
    exact ⟨by simp only [step, silent, filterMap_nil], still⟩
  | packet bytes =>
    obtain ⟨silent, still⟩ := dispatch_quiet quiet unasked.1
    have content := unasked.2
    simp only [step, handlePacket]
    generalize host.dispatch bytes = dispatched at silent still content
    obtain ⟨next, result⟩ := dispatched
    cases result with
    | error => exact ⟨rfl, still⟩
    | ok out =>
      obtain ⟨polled, after⟩ := poll_content still (content rfl)
      refine ⟨?_, after⟩
      simp only [Except.toOption, Option.getD_some, polled, append_nil]
      exact silent

/-- And where somebody does, the host sends a packet that it does not count. -/
theorem asked_step {exchange : Exchange H} (quiet : Quiet exchange.before.host)
    (asked : ¬ Unasked exchange.before exchange) :
    exchange.sent.filterMap aclHandle ≠ [] ∧ exchange.after.host.aclInFlight = 0 := by
  obtain ⟨⟨host, controller⟩, input⟩ := exchange
  unfold Exchange.sent Exchange.after
  cases input with
  | openChannel psm =>
    obtain ⟨⟨handle, address⟩, up⟩ := Option.ne_none_iff_exists'.mp asked
    obtain ⟨frame, opened⟩ := openChannel_quiet quiet up psm
    refine ⟨?_, (host.openChannel_keeps psm).aclInFlight.trans quiet.aclInFlight⟩
    simp only [step, opened, Except.toOption, Option.getD_some]
    rw [filterMap_cons_some (aclHandle_aclPacket _ _)]
    exact cons_ne_nil _ _
  | poll => exact ⟨poll_wanting quiet asked, quiet.closed.poll_inFlight⟩
  | packet bytes =>
    by_cases silent : bytes.head? = some H4Type.hciAclData → ∀ handle body,
        host.completed bytes = some (handle, brSignaling, body) → ¬ Asks body
    · obtain ⟨-, still⟩ := dispatch_quiet quiet silent
      obtain ⟨handled, wanting⟩ := Classical.not_imp.mp fun content => asked ⟨silent, content⟩
      simp only [step, handlePacket]
      generalize host.dispatch bytes = dispatched at still handled wanting
      obtain ⟨next, result⟩ := dispatched
      cases result with
      | error => contradiction
      | ok out =>
        refine ⟨?_, still.closed.poll_inFlight⟩
        simp only [Except.toOption, Option.getD_some, filterMap_append]
        exact fun empty => poll_wanting still wanting (List.append_eq_nil_iff.mp empty).2
    · push Not at silent
      obtain ⟨acl, handle, body, whole, asks⟩ := silent
      obtain ⟨out, handled, sent, closed⟩ := dispatch_asked quiet acl whole asks
      simp only [step, handlePacket]
      generalize host.dispatch bytes = dispatched at handled closed
      obtain ⟨next, result⟩ := dispatched
      cases handled
      refine ⟨?_, closed.poll_inFlight⟩
      simp only [Except.toOption, Option.getD_some, filterMap_append]
      exact fun empty => sent (List.append_eq_nil_iff.mp empty).1

/-- A host without channels, and a controller that holds nothing. -/
structure Silent (attached : Attached H) : Prop where
  quiet : Quiet attached.host
  held : attached.controller.held = []

theorem silent_step {attached after : Attached H} {exchange : Exchange H}
    (silent : Silent attached) (unasked : Unasked attached exchange)
    (exchanged : Exchanges attached exchange after) :
    exchange.sent.filterMap aclHandle = [] ∧ Silent after := by
  obtain ⟨rfl, -, rfl⟩ := exchanged
  obtain ⟨sent, quiet⟩ := quiet_step silent.quiet unasked
  refine ⟨sent, quiet, ?_⟩
  unfold Exchange.after
  simp only [sent, append_nil]
  exact afterInput_held silent.held exchange.input

theorem exchanges_deterministic (attached : Attached H) (exchange : Exchange H)
    (t u : Attached H) (first : Exchanges attached exchange t)
    (second : Exchanges attached exchange u) : t = u := first.2.2.trans second.2.2.symm

/-- A host with no channel yet keeps to its controller's buffers throughout a run exactly when
nobody in the run asks for a channel or for the end of one, so that it sends nothing. -/
theorem respectful_iff (start : ClassicHost H) (quiet : Quiet start) (aclLen aclNum : ℕ+)
    (history : List (Exchange H)) (attached : Attached H)
    (run : Lib.Run Exchanges ⟨start, aclLen, aclNum, [], []⟩ history attached) :
    (∀ before earlier, before <+: history →
      Lib.Run Exchanges ⟨start, aclLen, aclNum, [], []⟩ before earlier →
        Respectful before earlier) ↔
    Lib.Run (Lib.Guarded Unasked Exchanges) ⟨start, aclLen, aclNum, [], []⟩ history attached := by
  have silent : ∀ {history : List (Exchange H)} {attached : Attached H},
      Lib.Run (Lib.Guarded Unasked Exchanges) ⟨start, aclLen, aclNum, [], []⟩ history attached →
        Silent attached := fun guarded =>
    guarded.invariant (P := fun _ attached => Silent attached) ⟨quiet, rfl⟩
      fun before stepped => (silent_step before stepped.1 stepped.2).2
  refine Lib.Run.always_iff_guarded (P := Respectful) exchanges_deterministic ?_ ?_ run
  · intro history attached guarded
    have now := silent guarded
    have unsent : ∀ earlier exchange, history = earlier ++ [exchange] →
        exchange.sent.filterMap aclHandle = [] := by
      intro earlier exchange same
      subst same
      obtain ⟨_, before, asked, exchanged⟩ := guarded.last
      exact (silent_step (silent before) asked exchanged).1
    refine ⟨?_, ?_, ?_, ?_⟩
    · intro earlier exchange same packet member acl
      have absent := List.filterMap_eq_nil_iff.mp (unsent earlier exchange same) packet member
      rw [absent] at acl
      contradiction
    · rw [now.held]
      exact Nat.zero_le _
    · rw [now.held]
      exact now.quiet.aclInFlight
    · intro earlier exchange same handle member
      rw [unsent earlier exchange same] at member
      contradiction
  · intro history attached exchange after guarded exchanged asked respectful
    obtain ⟨rfl, -, rfl⟩ := exchanged
    obtain ⟨sent, flight⟩ := asked_step (silent guarded).quiet asked
    have counted := respectful.counted
    rw [flight] at counted
    have empty := List.length_eq_zero_iff.mp counted.symm
    exact sent (List.append_eq_nil_iff.mp empty).2

end Runs

def declared : ClassicHost Unit := new.readBufferSize [0x00, 27, 0, 0, 4, 0, 0, 0]

theorem declared_quiet : Quiet declared := ⟨rfl, fun _ => rfl, rfl, rfl⟩

/-- A link on which nobody opens a channel, until it is gone. -/
theorem respectful_iff_connected : ∃ history attached,
    history.map Exchange.input = [connected 0x40, .packet [0x04, 0x05, 4, 0, 0x40, 0, 0x13]] ∧
    Lib.Run Exchanges (⟨declared, 27, 4, [], []⟩ : Attached Unit) history attached ∧
    ∀ before earlier, before <+: history →
      Lib.Run Exchanges ⟨declared, 27, 4, [], []⟩ before earlier → Respectful before earlier := by
  have first : Lib.Run (Lib.Guarded Unasked Exchanges)
      (⟨declared, 27, 4, [], []⟩ : Attached Unit) [] ⟨declared, 27, 4, [], []⟩ := .nil
  have second := first.snoc (show Lib.Guarded Unasked Exchanges _ ⟨_, connected 0x40⟩ _ from
    ⟨⟨fun acl => absurd acl (by decide), fun _ => .inr rfl⟩, rfl,
      fun event same => by cases same; trivial, rfl⟩)
  have third := second.snoc (show Lib.Guarded Unasked Exchanges _
      ⟨_, .packet [0x04, 0x05, 4, 0, 0x40, 0, 0x13]⟩ _ from
    ⟨⟨fun acl => absurd acl (by decide), fun _ => .inr rfl⟩, rfl,
      fun event same => by cases same; trivial, rfl⟩)
  exact ⟨_, _, rfl, third.unguarded,
    (respectful_iff declared declared_quiet 27 4 _ _ third.unguarded).mpr third⟩

/-- The request for a channel is not counted. -/
theorem respectful_fails : ∃ history attached,
    Lib.Run Exchanges (⟨declared, 27, 4, [], []⟩ : Attached Unit) history attached ∧
      ¬ Respectful history attached := by
  have first : Lib.Run Exchanges (⟨declared, 27, 4, [], []⟩ : Attached Unit) []
      ⟨declared, 27, 4, [], []⟩ := .nil
  have second := first.snoc (show Exchanges _ ⟨_, connected 0x40⟩ _ from
    ⟨rfl, fun event same => by cases same; trivial, rfl⟩)
  have third := second.snoc (show Exchanges _ ⟨_, .openChannel 0x0001⟩ _ from
    ⟨rfl, nofun, rfl⟩)
  refine ⟨_, _, third, fun respectful => ?_⟩
  exact absurd respectful.counted (by decide)

end Simble.Device.ClassicHost
