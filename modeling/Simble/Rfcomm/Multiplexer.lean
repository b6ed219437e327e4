import Simble.Rfcomm.Dlc

/-! The RFCOMM session state machine (`Multiplexer` in `classic/rfcomm.rs`), handler by handler. A
handler answers with the frames to send and the events to report, next to the multiplexer it
leaves. Only a UIH frame on a data link runs the transmit loop, so only there can a call fail to
end. -/
namespace Simble.Rfcomm

def defaultFrameSizeWithoutPn : UInt16 := 127

inductive Role where
  | initiator
  | responder
deriving DecidableEq, Repr

inductive MultiplexerState where
  | init
  | connecting
  | connected
  | opening
  | disconnecting
  | disconnected
deriving DecidableEq, Repr

inductive CreditFlowControl where
  | unknown
  | supported
  | notSupported
deriving DecidableEq, Repr

inductive MultiplexerEvent where
  | started
  | disconnected
  | dlcOpened (dlci : UInt8)
  | dlcOpenRejected (channel : UInt8)
  | dlcClosed (dlci : UInt8)
  | dataReceived (dlci : UInt8) (data : Bytes)
deriving DecidableEq, Repr

structure Multiplexer where
  role : Role
  state : MultiplexerState
  dlcs : Map UInt8 Dlc
  cfc : CreditFlowControl
  peerMtu : UInt16
  pendingOpen : Option MccPn
  /-- Frame size and initial credits by server channel. -/
  listenConfigs : Map UInt8 (UInt16 × UInt8)

/-- Frames to send, then events to report. -/
abbrev Reply := List Bytes × List MultiplexerEvent

def unknownDlci (dlci : UInt8) : SimbleError :=
  .deviceError s!"RFCOMM: unknown DLCI {hexByte dlci}"

def mscCommand (dlcCR dlci : UInt8) : Bytes :=
  let mcc := makeMcc MccType.msc true (MccMsc.defaultResponse dlci).toBytes
  (RfcommFrame.uih dlcCR 0 mcc 0).toBytes

/-- Shared by `Multiplexer::listen` and `RfcommServer::listen`. -/
def reserveListenChannel (listenConfigs : Map UInt8 (UInt16 × UInt8)) (channel : UInt8)
    (maxFrameSize : UInt16) (initialCredits : UInt8) : Bool × Map UInt8 (UInt16 × UInt8) :=
  if channel ∈ listenConfigs then (false, listenConfigs)
  else (true, listenConfigs.insert channel (maxFrameSize, min initialCredits maxInitialCredits))

inductive Call where
  | start
  | listen (channel : UInt8) (maxFrameSize : UInt16) (initialCredits : UInt8)
  | openDlc (channel : UInt8) (maxFrameSize : UInt16) (initialCredits : UInt8)
  | write (dlci : UInt8) (data : Bytes)
  | closeDlc (dlci : UInt8)
  | disconnect
  | receive (bytes : Bytes)

namespace Multiplexer

def new (role : Role) (peerMtu : UInt16) : Multiplexer where
  role
  state := .init
  dlcs := ∅
  cfc := .unknown
  peerMtu
  pendingOpen := none
  listenConfigs := ∅

variable (mux : Multiplexer)

def roleCR : UInt8 := if mux.role = .initiator then 1 else 0

def start : Rust (Bytes × Multiplexer) :=
  if mux.role ≠ .initiator then
    .error (.err (.deviceError "RFCOMM: only the initiator starts the multiplexer"))
  else if mux.state ≠ .init then
    .error (.err (.deviceError "RFCOMM: multiplexer already starting"))
  else .ok ((RfcommFrame.sabm 1 0).toBytes, { mux with state := .connecting })

def listen (channel : UInt8) (maxFrameSize : UInt16) (initialCredits : UInt8) :
    Bool × Multiplexer :=
  let (reserved, listenConfigs) :=
    reserveListenChannel mux.listenConfigs channel maxFrameSize initialCredits
  (reserved, { mux with listenConfigs })

/-- The Parameter Negotiation command that `open_dlc` remembers and sends. -/
def openPn (channel : UInt8) (maxFrameSize : UInt16) (initialCredits : UInt8) : MccPn where
  dlci := channel <<< 1
  cl := PnCl.cfcCommand
  priority := 7
  ackTimer := 0
  maxFrameSize
  maxRetransmissions := 0
  initialCredits := min initialCredits maxInitialCredits

def openDlc (channel : UInt8) (maxFrameSize : UInt16) (initialCredits : UInt8) :
    Rust (Bytes × Multiplexer) :=
  if mux.state ≠ .connected then
    .error (.err (.deviceError "RFCOMM: multiplexer not connected"))
  else
    let pn := openPn channel maxFrameSize initialCredits
    let mcc := makeMcc MccType.pn true pn.toBytes
    .ok ((RfcommFrame.uih mux.roleCR 0 mcc 0).toBytes,
      { mux with pendingOpen := some pn, state := .opening })

/-- The connection at `dlci`, which `write` and `close_dlc` need open. -/
def connectedDlc (dlci : UInt8) : Rust Dlc :=
  match mux.dlcs.lookup dlci with
  | none => .error (.err (unknownDlci dlci))
  | some dlc =>
    if dlc.state ≠ .connected then
      .error (.err (.deviceError s!"RFCOMM: DLC {dlci} is not connected"))
    else .ok dlc

def write (dlci : UInt8) (data : Bytes) : Rust (List Bytes × Multiplexer) := do
  let dlc ← mux.connectedDlc dlci
  let (frames, dlc) ← (dlc.queue data).processTx
  return (frames.map RfcommFrame.toBytes, { mux with dlcs := mux.dlcs.insert dlci dlc })

def closeDlc (dlci : UInt8) : Rust (Bytes × Multiplexer) := do
  let dlc ← mux.connectedDlc dlci
  return ((RfcommFrame.disc mux.roleCR dlci).toBytes,
    { mux with dlcs := mux.dlcs.insert dlci { dlc with state := .disconnecting } })

def disconnect : Rust (Bytes × Multiplexer) :=
  if mux.state ≠ .connected then
    .error (.err (.deviceError "RFCOMM: multiplexer not connected"))
  else .ok ((RfcommFrame.disc mux.roleCR 0).toBytes, { mux with state := .disconnecting })

/-- Drops every connection and reports each closure, in DLCI order. -/
def closeAllDlcs : List MultiplexerEvent × Multiplexer :=
  ((mux.dlcs.keys.insertionSort (· ≤ ·)).map .dlcClosed, { mux with dlcs := ∅ })

def onSabm : Reply × Multiplexer :=
  if mux.state ≠ .init then (([], []), mux)
  else (([(RfcommFrame.ua 1 0).toBytes], [.started]), { mux with state := .connected })

def onUa : Reply × Multiplexer :=
  match mux.state with
  | .connecting => (([], [.started]), { mux with state := .connected })
  | .disconnecting =>
    let (closed, mux) := { mux with state := .disconnected }.closeAllDlcs
    (([], closed ++ [.disconnected]), mux)
  | _ => (([], []), mux)

def onDisc : Reply × Multiplexer :=
  let cR : UInt8 := if mux.role = .initiator then 0 else 1
  let (closed, mux) := { mux with state := .disconnected }.closeAllDlcs
  (([(RfcommFrame.ua cR 0).toBytes], closed ++ [.disconnected]), mux)

def onDmFrame (frame : RfcommFrame) : Reply × Multiplexer :=
  if mux.state = .opening then
    (([], [.dlcOpenRejected (frame.dlci >>> 1)]),
      { mux with state := .connected, pendingOpen := none })
  else (([], []), mux)

/-- The first exchange settles flow control for the session; a later one can
only decline it. -/
def negotiateCfc (peerWantsCfc : Bool) : Multiplexer :=
  if !peerWantsCfc then { mux with cfc := .notSupported }
  else if mux.cfc = .unknown then { mux with cfc := .supported }
  else mux

def onMccPnCommand (pn : MccPn) : Reply × Multiplexer :=
  if pn.dlci &&& 1 ≠ 0 then (([], []), mux)
  else
    match mux.listenConfigs.lookup (pn.dlci >>> 1) with
    | none => (([(RfcommFrame.dm 1 pn.dlci).toBytes], []), mux)
    | some (rxMaxFrameSize, rxInitialCredits) =>
      let mux := mux.negotiateCfc (pn.cl == PnCl.cfcCommand)
      let cfc := mux.cfc == .supported
      let (responseCl, responseCredits) :=
        if cfc then (PnCl.cfcResponse, rxInitialCredits) else (PnCl.noCfc, 0)
      let dlc := Dlc.new pn.dlci mux.roleCR pn.maxFrameSize (if cfc then pn.initialCredits else 0)
        rxMaxFrameSize responseCredits mux.peerMtu cfc
      let responsePn : MccPn :=
        { dlci := pn.dlci
          cl := responseCl
          priority := 7
          ackTimer := 0
          maxFrameSize := rxMaxFrameSize
          maxRetransmissions := 0
          initialCredits := responseCredits }
      let mcc := makeMcc MccType.pn false responsePn.toBytes
      (([(RfcommFrame.uih mux.roleCR 0 mcc 0).toBytes], []),
        { mux with dlcs := mux.dlcs.insert pn.dlci { dlc with state := .connecting } })

def onMccPnResponse (pn : MccPn) : Reply × Multiplexer :=
  if mux.state ≠ .opening then (([], []), mux)
  else
    match mux.pendingOpen with
    | none => (([], []), mux)
    | some requested =>
      let mux := { mux with pendingOpen := none }.negotiateCfc (pn.cl == PnCl.cfcResponse)
      let cfc := mux.cfc == .supported
      let dlc := Dlc.new pn.dlci mux.roleCR pn.maxFrameSize (if cfc then pn.initialCredits else 0)
        requested.maxFrameSize (if cfc then requested.initialCredits else 0) mux.peerMtu cfc
      (([(RfcommFrame.sabm mux.roleCR pn.dlci).toBytes], []),
        { mux with dlcs := mux.dlcs.insert pn.dlci { dlc with state := .connecting } })

def onMccPn (cR : Bool) (value : Bytes) : Reply × Multiplexer :=
  match MccPn.parse value with
  | none => (([], []), mux)
  | some pn => if cR then mux.onMccPnCommand pn else mux.onMccPnResponse pn

def onMccMsc (cR : Bool) (value : Bytes) : Reply × Multiplexer :=
  match MccMsc.parse value with
  | none => (([], []), mux)
  | some msc =>
    match mux.dlcs.lookup msc.dlci with
    | none => (([], []), mux)
    | some dlc =>
      if !cR then (([], []), mux)
      else
        let response := MccMsc.defaultResponse msc.dlci
        let mcc := makeMcc MccType.msc false response.toBytes
        (([(RfcommFrame.uih dlc.cR 0 mcc 0).toBytes], []), mux)

def onUihControl (frame : RfcommFrame) : Reply × Multiplexer :=
  match parseMcc frame.information with
  | none => (([], []), mux)
  | some (mcc, cR, value) =>
    if mcc = MccType.pn then mux.onMccPn cR value
    else if mcc = MccType.msc then mux.onMccMsc cR value
    else if cR then
      let typeOctet := (mcc <<< 2) ||| (bit cR <<< 1) ||| 1
      let nsc := makeMcc MccType.nsc false [typeOctet]
      (([(RfcommFrame.uih mux.roleCR 0 nsc 0).toBytes], []), mux)
    else (([], []), mux)

def onControlFrame (frame : RfcommFrame) : Reply × Multiplexer :=
  if frame.frameType = FrameType.sabm then mux.onSabm
  else if frame.frameType = FrameType.ua then mux.onUa
  else if frame.frameType = FrameType.disc then mux.onDisc
  else if frame.frameType = FrameType.uih then mux.onUihControl frame
  else (([], []), mux)

/-- A frame naming a DLCI without a connection. Negotiation is optional, so a
bare SABM on a channel that is listened on opens it with the defaults. -/
def onFrameForUnknownDlci (frame : RfcommFrame) : Reply × Multiplexer :=
  let dlci := frame.dlci
  if frame.frameType = FrameType.sabm then
    match mux.listenConfigs.lookup (dlci >>> 1) with
    | none => (([(RfcommFrame.dm 1 dlci).toBytes], []), mux)
    | some (rxMaxFrameSize, rxInitialCredits) =>
      let mux := if mux.cfc = .unknown then { mux with cfc := .notSupported } else mux
      let cfc := mux.cfc == .supported
      let dlc := Dlc.new dlci mux.roleCR defaultFrameSizeWithoutPn 0 rxMaxFrameSize
        (if cfc then rxInitialCredits else 0) mux.peerMtu cfc
      (([(RfcommFrame.ua (1 - dlc.cR) dlci).toBytes, mscCommand dlc.cR dlci], [.dlcOpened dlci]),
        { mux with dlcs := mux.dlcs.insert dlci { dlc with state := .connected }
                   state := .connected })
  else if frame.frameType = FrameType.disc then (([(RfcommFrame.dm 1 dlci).toBytes], []), mux)
  else (([], []), mux)

/-- The common end of both ways a handshake completes: the session goes back
to `Connected` whatever it was doing. -/
def opened (dlci : UInt8) (dlc : Dlc) (frames : List Bytes) : Reply × Multiplexer :=
  ((frames, [.dlcOpened dlci]),
    { mux with dlcs := mux.dlcs.insert dlci { dlc with state := .connected }, state := .connected })

/-- The credit octet of a UIH frame, which is there only under credit-based
flow control, and the data after it. -/
def takeCredits (dlc : Dlc) (frame : RfcommFrame) : Dlc × Bytes :=
  if dlc.cfc && frame.pF == 1 then
    let receivedCredits := (frame.information.head?.getD 0).toNat
    ({ dlc with txCredits := U8.saturatingAdd dlc.txCredits receivedCredits },
      frame.information.drop 1)
  else (dlc, frame.information)

/-- Data costs a credit of the peer's grant; a frame without any is free. -/
def takeData (dlc : Dlc) (dlci : UInt8) (data : Bytes) : Dlc × List MultiplexerEvent :=
  if !data.isEmpty then
    ({ dlc with rxCredits := U8.saturatingSub dlc.rxCredits 1 }, [.dataReceived dlci data])
  else (dlc, [])

def onDlcUih (dlci : UInt8) (frame : RfcommFrame) : Rust (Reply × Multiplexer) :=
  match mux.dlcs.lookup dlci with
  | none => .ok (([], []), mux)
  | some dlc => do
    let (dlc, data) := takeCredits dlc frame
    let (dlc, events) := takeData dlc dlci data
    let (frames, dlc) ← dlc.processTx
    return ((frames.map RfcommFrame.toBytes, events),
      { mux with dlcs := mux.dlcs.insert dlci dlc })

def onDlcFrame (frame : RfcommFrame) : Rust (Reply × Multiplexer) :=
  let dlci := frame.dlci
  match mux.dlcs.lookup dlci with
  | none => .ok (mux.onFrameForUnknownDlci frame)
  | some dlc =>
    if frame.frameType = FrameType.sabm then
      if dlc.state ≠ .connecting then .ok (([], []), mux)
      else
        .ok (mux.opened dlci dlc
          [(RfcommFrame.ua (1 - dlc.cR) dlci).toBytes, mscCommand dlc.cR dlci])
    else if frame.frameType = FrameType.ua then
      match dlc.state with
      | .connecting => .ok (mux.opened dlci dlc [mscCommand dlc.cR dlci])
      | .disconnecting =>
        .ok (([], [.dlcClosed dlci]), { mux with dlcs := mux.dlcs.erase dlci })
      | _ => .ok (([], []), mux)
    else if frame.frameType = FrameType.disc then
      .ok (([(RfcommFrame.ua (1 - dlc.cR) dlci).toBytes], [.dlcClosed dlci]),
        { mux with dlcs := mux.dlcs.erase dlci })
    else if frame.frameType = FrameType.uih then mux.onDlcUih dlci frame
    else .ok (([], []), mux)

/-- What `receive` does with a frame it has parsed. -/
def onFrame (frame : RfcommFrame) : Rust (Reply × Multiplexer) :=
  if frame.dlci = 0 then .ok (mux.onControlFrame frame)
  else if frame.frameType = FrameType.dm then .ok (mux.onDmFrame frame)
  else mux.onDlcFrame frame

def receive (bytes : Bytes) : Rust (Reply × Multiplexer) :=
  match RfcommFrame.parse bytes with
  | none => .error (.err (.packetParseError "RFCOMM: malformed frame or FCS mismatch"))
  | some frame => mux.onFrame frame

def perform : Call → Rust (Reply × Multiplexer)
  | .start => mux.start >>= fun (bytes, mux) => .ok (([bytes], []), mux)
  | .listen channel maxFrameSize initialCredits =>
    .ok (([], []), (mux.listen channel maxFrameSize initialCredits).2)
  | .openDlc channel maxFrameSize initialCredits =>
    mux.openDlc channel maxFrameSize initialCredits >>= fun (bytes, mux) => .ok (([bytes], []), mux)
  | .write dlci data => mux.write dlci data >>= fun (frames, mux) => .ok ((frames, []), mux)
  | .closeDlc dlci => mux.closeDlc dlci >>= fun (bytes, mux) => .ok (([bytes], []), mux)
  | .disconnect => mux.disconnect >>= fun (bytes, mux) => .ok (([bytes], []), mux)
  | .receive bytes => mux.receive bytes

end Multiplexer
end Simble.Rfcomm
