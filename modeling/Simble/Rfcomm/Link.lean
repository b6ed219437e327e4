import Simble.Rfcomm.Pair

/-! A connection under credit-based flow control between two sides, from the Parameter Negotiation
that opens it to the point where both ends exist. Till then only one frame is in flight and a
write is refused. -/
namespace Simble.Rfcomm
open Simble.Lib

namespace Multiplexer

variable {mux : Multiplexer}

theorem onMccPnCommand_cfc {pn : MccPn} {size : UInt16} {credits : UInt8} (even : pn.dlci &&& 1 = 0)
    (listened : mux.listenConfigs.lookup (pn.dlci >>> 1) = some (size, credits))
    (unknown : mux.cfc = .unknown) (asks : pn.cl = PnCl.cfcCommand) :
    mux.onMccPnCommand pn =
      (([((Message.pn false ⟨pn.dlci, PnCl.cfcResponse, 7, 0, size, 0, credits⟩).frame
          mux.roleCR).toBytes], []),
        { mux with
          cfc := .supported
          dlcs := mux.dlcs.insert pn.dlci
            { Dlc.new pn.dlci mux.roleCR pn.maxFrameSize pn.initialCredits size credits mux.peerMtu
                true with state := .connecting } }) := by
  have agreed : mux.negotiateCfc (pn.cl == PnCl.cfcCommand) = { mux with cfc := .supported } := by
    simp [negotiateCfc, unknown, asks]
  have passes : ¬ pn.dlci &&& 1 ≠ 0 := not_not.mpr even
  simp only [onMccPnCommand, if_neg passes, listened, agreed]
  rfl

theorem onMccPnResponse_cfc {pn requested : MccPn} (state : mux.state = .opening)
    (pending : mux.pendingOpen = some requested) (unknown : mux.cfc = .unknown)
    (agrees : pn.cl = PnCl.cfcResponse) :
    mux.onMccPnResponse pn =
      (([((Message.sabm pn.dlci).frame mux.roleCR).toBytes], []),
        { mux with
          cfc := .supported
          pendingOpen := none
          dlcs := mux.dlcs.insert pn.dlci
            { Dlc.new pn.dlci mux.roleCR pn.maxFrameSize pn.initialCredits requested.maxFrameSize
                requested.initialCredits mux.peerMtu true with state := .connecting } }) := by
  have agreed : { mux with pendingOpen := none }.negotiateCfc (pn.cl == PnCl.cfcResponse) =
      { mux with pendingOpen := none, cfc := .supported } := by
    simp [negotiateCfc, unknown, agrees]
  have passes : ¬ mux.state ≠ .opening := not_not.mpr state
  simp only [onMccPnResponse, if_neg passes, pending, agreed]
  rfl

theorem write_refused {asked : UInt8} (data : Bytes)
    (closed : ∀ dlc, mux.dlcs.lookup asked = some dlc → dlc.state ≠ .connected) :
    ∃ error, mux.write asked data = .error (.err error) := by
  cases found : mux.dlcs.lookup asked with
  | none => exact ⟨unknownDlci asked, by simp [write, connectedDlc, found]⟩
  | some dlc =>
    exact ⟨.deviceError s!"RFCOMM: DLC {asked} is not connected",
      by simp [write, connectedDlc, found, closed dlc found]⟩

end Multiplexer

/-- A started pair and one side's `open_dlc` call for a channel the other listens on. Frame sizes
and L2CAP MTUs leave room for an octet of data beside the credit octet. -/
structure Link where
  initiator : Side
  peerMtu : Side → UInt16
  listens : Side → List (UInt8 × UInt16 × UInt8)
  opener : Side
  channel : UInt8
  maxFrameSize : UInt16
  initialCredits : UInt8
  rxMaxFrameSize : UInt16
  rxInitialCredits : UInt8
  range : 1 ≤ channel ∧ channel ≤ 30
  listened : ((Pair.started initiator peerMtu listens).node opener.peer).listenConfigs.lookup channel =
    some (rxMaxFrameSize, rxInitialCredits)
  room : 2 ≤ maxFrameSize.toNat ∧ 2 ≤ rxMaxFrameSize.toNat ∧ ∀ i, 7 ≤ (peerMtu i).toNat

open Multiplexer

namespace Link
variable (link : Link)

def started : Pair := Pair.started link.initiator link.peerMtu link.listens

def dlci : UInt8 := link.channel <<< 1

/-- The Parameter Negotiation command. -/
def request : MccPn := Multiplexer.openPn link.channel link.maxFrameSize link.initialCredits

/-- The response of the listening side. -/
def response : MccPn where
  dlci := link.dlci
  cl := PnCl.cfcResponse
  priority := 7
  ackTimer := 0
  maxFrameSize := link.rxMaxFrameSize
  maxRetransmissions := 0
  initialCredits := link.rxInitialCredits

def dlc (i : Side) : Dlc :=
  let (mine, theirs) :=
    if i = link.opener then (link.request, link.response) else (link.response, link.request)
  { Dlc.new link.dlci (link.started.node i).roleCR theirs.maxFrameSize theirs.initialCredits
      mine.maxFrameSize mine.initialCredits (link.peerMtu i) true with state := .connecting }

def waiting : Multiplexer :=
  { link.started.node link.opener with pendingOpen := some link.request, state := .opening }

/-- Side `i` with its end of the connection. -/
def joined (i : Side) : Multiplexer :=
  { link.started.node i with
    cfc := .supported
    dlcs := AList.insert link.dlci (link.dlc i) ∅
    state := if i = link.opener then .opening else .connected }

def bytes (i : Side) (message : Message) : Bytes :=
  (message.frame (link.started.node i).roleCR).toBytes

/-- The command is in flight. -/
def opening : Pair := link.started.emit link.opener link.waiting [link.bytes link.opener (.pn true link.request)]

/-- The response is in flight. -/
def answered : Pair :=
  (link.opening.consume link.opener.peer []).emit link.opener.peer (link.joined link.opener.peer)
    [link.bytes link.opener.peer (.pn false link.response)]

/-- Both ends exist and the SABM is in flight. -/
def negotiated : Pair :=
  (link.answered.consume link.opener []).emit link.opener (link.joined link.opener)
    [link.bytes link.opener (.sabm link.dlci)]

theorem validDlci : ValidDlci link.dlci := (validDlci_channel link.range).1

variable (i : Side)

theorem started_node : ∃ listenConfigs, link.started.node i =
      { new (Pair.roleAt link.initiator i) (link.peerMtu i) with
        state := .connected, listenConfigs } ∧
    ∀ channel size credits, listenConfigs.lookup channel = some (size, credits) →
      credits ≤ maxInitialCredits := by
  obtain ⟨listenConfigs, same, few⟩ := Pair.fresh_node link.initiator link.peerMtu link.listens i
  exact ⟨listenConfigs, by simp only [started, Pair.started, same], few⟩

theorem few_request : link.request.initialCredits ≤ maxInitialCredits :=
  min_maxInitialCredits_le link.initialCredits

theorem few_response : link.response.initialCredits ≤ maxInitialCredits := by
  obtain ⟨listenConfigs, node, few⟩ := link.started_node link.opener.peer
  have listened := link.listened
  rw [show Pair.started link.initiator link.peerMtu link.listens = link.started from rfl, node] at listened
  exact few _ _ _ listened

theorem receive_request :
    (link.started.node link.opener.peer).receive (link.bytes link.opener (.pn true link.request)) =
      .ok (([link.bytes link.opener.peer (.pn false link.response)], []),
        link.joined link.opener.peer) := by
  have carried : (Message.pn true link.request).Carried (link.bytes link.opener (.pn true link.request)) :=
    ⟨link.few_request, _, roleCR_isBit _, rfl⟩
  obtain ⟨_, even, back⟩ := validDlci_channel link.range
  obtain ⟨listenConfigs, node, _⟩ := link.started_node link.opener.peer
  have listened : (link.started.node link.opener.peer).listenConfigs.lookup (link.request.dlci >>> 1) =
      some (link.rxMaxFrameSize, link.rxInitialCredits) := by
    rw [show link.request.dlci >>> 1 = link.channel from back]
    exact link.listened
  rw [receive_carried _ carried, onMessage_pn link.few_request, if_pos rfl,
    onMccPnCommand_cfc even listened (by rw [node]; rfl) rfl]
  simp [joined, dlc, bytes, response, request, openPn, dlci, node, new]

theorem receive_response :
    link.waiting.receive (link.bytes link.opener.peer (.pn false link.response)) =
      .ok (([link.bytes link.opener (.sabm link.dlci)], []), link.joined link.opener) := by
  have carried : (Message.pn false link.response).Carried
      (link.bytes link.opener.peer (.pn false link.response)) :=
    ⟨link.few_response, _, roleCR_isBit _, rfl⟩
  obtain ⟨listenConfigs, node, _⟩ := link.started_node link.opener
  rw [receive_carried _ carried, onMessage_pn link.few_response,
    if_neg (by decide), onMccPnResponse_cfc rfl rfl (by rw [waiting, node]; rfl) rfl]
  simp [joined, dlc, bytes, response, request, openPn, dlci, node, new, waiting,
    roleCR]

theorem started_dlcs : (link.started.node i).dlcs = ∅ := by
  obtain ⟨listenConfigs, node, _⟩ := link.started_node i
  rw [node]
  rfl

theorem opening_dlcs : (link.opening.node i).dlcs = ∅ := by
  revert i
  rw [Side.forall_iff link.opener]
  exact ⟨by simpa [opening, waiting] using link.started_dlcs link.opener,
    by simpa [opening] using link.started_dlcs link.opener.peer⟩

theorem answered_dlcs : (link.answered.node link.opener).dlcs = ∅ := by
  have same : link.answered.node link.opener = link.opening.node link.opener := by simp [answered]
  rw [same, opening_dlcs]

theorem opening_write (asked : UInt8) (data : Bytes) :
    ∃ error, (link.opening.node i).write asked data = .error (.err error) :=
  write_refused data fun dlc found => by simp [link.opening_dlcs i] at found

theorem answered_write (asked : UInt8) (data : Bytes) :
    ∃ error, (link.answered.node i).write asked data = .error (.err error) := by
  rcases Side.eq_or_eq_peer link.opener i with rfl | rfl
  · exact write_refused data fun dlc found => by simp [link.answered_dlcs] at found
  · refine write_refused data fun dlc found => ?_
    have node : link.answered.node link.opener.peer = link.joined link.opener.peer := by
      simp [answered]
    rw [node] at found
    by_cases same : asked = link.dlci
    · subst same
      obtain rfl : link.dlc link.opener.peer = dlc :=
        Option.some.inj ((AList.lookup_insert _).symm.trans found)
      exact (by decide : DlcState.connecting ≠ .connected)
    · simp only [joined, AList.lookup_insert_ne same, AList.lookup_empty] at found
      contradiction

@[simp] theorem opening_inbox : link.opening.inbox link.opener = [] ∧
    link.opening.inbox link.opener.peer = [link.bytes link.opener (.pn true link.request)] := by
  simp [opening, started, Pair.started]

@[simp] theorem answered_inbox :
    link.answered.inbox link.opener = [link.bytes link.opener.peer (.pn false link.response)] ∧
      link.answered.inbox link.opener.peer = [] := by
  simp [answered]

end Link

end Simble.Rfcomm
