import Simble.Controller.Commands

/-! Connections on the simulated medium (`controller/sim.rs`) and what is opened on them:
synchronous links, isochronous streams, encryption and Channel Sounding. Commands are what their
packets parse to; an outbox is everything that a host has been sent. Who is joined to whom, when a
pairing succeeds, and the order of the medium's work are left open: a tick is one order of the
steps here. -/
namespace Simble.Sim

namespace Status
def pinOrKeyMissing : UInt8 := 0x06
def connectionRejectedResources : UInt8 := 0x0D
end Status

export Controller.Status (success unknownConnection commandDisallowed invalidParameters)
export Controller.Commands.Status (connectionAlreadyExists)
export Status (pinOrKeyMissing connectionRejectedResources)
export Controller (reasonRemoteUser reasonLocalHost)

abbrev Ltk := Octets 16

inductive Event where
  | commandStatus (status : UInt8)
  | commandComplete
  | connectionComplete (handle : UInt16) (peer : Address)
  | disconnectionComplete (handle : UInt16) (reason : UInt8)
  | connectionRequest (initiator : Address) (linkType : UInt8)
  | synchronousConnectionComplete (status : UInt8) (handle : UInt16) (peer : Address)
      (linkType airMode : UInt8)
  | encryptionChange (status : UInt8) (handle : UInt16) (enabled : Bool)
  | leLongTermKeyRequest (handle : UInt16) (rand : Octets 8) (ediv : UInt16)
  | leCisRequest (aclHandle cisHandle : UInt16)
  | leCisEstablished (status : UInt8) (cisHandle : UInt16)
  | csConfigComplete (handle : UInt16) (configId role : UInt8) (created : Bool)
  | csProcedureEnableComplete (status : UInt8) (handle : UInt16) (configId : UInt8) (enabled : Bool)
  | csSubeventResult (handle : UInt16) (configId : UInt8) (procedureCounter : UInt16)
deriving DecidableEq

structure Connection where
  handle : UInt16
  peer : Nat
  authenticated : Bool := false
  encrypted : Bool := false
  /-- The key that an LE Enable Encryption named, until the peer's host answers. -/
  pendingLtk : Option Ltk := none
deriving DecidableEq

structure CisLink where
  cisHandle : UInt16
  aclHandle : UInt16
  established : Bool := false
deriving DecidableEq

structure CsSession where
  handle : UInt16
  configId : UInt8
  /-- 0x00 for an initiator. -/
  role : UInt8
  enabled : Bool := false
  procedureCounter : UInt16 := 0
deriving DecidableEq

def CsSession.Names (session : CsSession) (handle : UInt16) (configId : UInt8) : Prop :=
  session.handle = handle ∧ session.configId = configId
deriving Decidable

def CsSession.count (procedureCounter : UInt16) (session : CsSession) : CsSession :=
  { session with procedureCounter := procedureCounter + 1 }

structure ScoLink where
  scoHandle : UInt16
  aclHandle : UInt16
  peer : Nat
deriving DecidableEq

/-- A synchronous connection that a peer's host has asked for. -/
structure InboundSco where
  initiator : Nat
  initiatorAddress : Address
  aclHandle : UInt16
  linkType : UInt8
  airMode : UInt8
deriving DecidableEq

structure SimController where
  address : Address
  connections : List Connection := []
  cs : Option CsSession := none
  cisLinks : List CisLink := []
  scoLinks : List ScoLink := []
  inboundSco : Option InboundSco := none
  outbox : List Event := []

/-- Effects on two controllers, which wait for a later phase. -/
inductive Action where
  | disconnect (sender : Nat) (handle : UInt16)
  | csConfigure (sender : Nat) (handle : UInt16) (configId role : UInt8) (propagateToPeer : Bool)
  | csEnable (sender : Nat) (handle : UInt16) (configId : UInt8) (enable : Bool)
  | scoSetup (sender : Nat) (aclHandle : UInt16) (linkType airMode : UInt8)
  | scoAnswer (sender : Nat) (peer : Address) (reject : Option UInt8)
  | cisRequest (sender : Nat) (aclHandle cisHandle : UInt16)
  | cisAccept (sender : Nat) (cisHandle : UInt16)
  | encrypt (sender : Nat) (handle : UInt16) (enable : Bool)
  | leEnableEncryption (sender : Nat) (handle : UInt16) (ltk : Ltk) (rand : Octets 8) (ediv : UInt16)
  | leLtkReply (sender : Nat) (handle : UInt16) (ltk : Option Ltk)
deriving DecidableEq

inductive Command where
  | reset
  | disconnect (handle : UInt16)
  | setupSynchronous (aclHandle : UInt16) (linkType airMode : UInt8)
  | answerSynchronous (peer : Address) (reject : Option UInt8)
  | setConnectionEncryption (handle : UInt16) (enable : Bool)
  | leEnableEncryption (handle : UInt16) (rand : Octets 8) (ediv : UInt16) (ltk : Ltk)
  | leLtkRequestReply (handle : UInt16) (ltk : Option Ltk)
  | leCreateCis (streams : List (UInt16 × UInt16))
  | leAcceptCisRequest (cisHandle : UInt16)
  | leCsCreateConfig (handle : UInt16) (configId role : UInt8) (propagateToPeer : Bool)
  | leCsProcedureEnable (handle : UInt16) (configId : UInt8) (enable : Bool)
  | leCsRemoveConfig (handle : UInt16) (configId : UInt8)
deriving DecidableEq

namespace SimController
variable (controller : SimController)

def push (event : Event) : SimController := { controller with outbox := controller.outbox ++ [event] }

def isConnected (handle : UInt16) : Bool :=
  controller.connections.any fun connection => connection.handle = handle

def peerOf (handle : UInt16) : Option Nat :=
  (controller.connections.find? fun connection => connection.handle = handle).map Connection.peer

def changeConnection (handle : UInt16) (change : Connection → Connection) : SimController :=
  { controller with connections :=
      match controller.connections.findIdx? fun connection => connection.handle = handle with
      | none => controller.connections
      | some index => controller.connections.modify index change }

def reset : SimController := { controller with
  connections := []
  cs := none
  cisLinks := []
  scoLinks := []
  inboundSco := none }

/-- `handle_command` on one controller, with the actions that it asks for. -/
def handleCommand (i : Nat) : Command → SimController × List Action
  | .reset => (controller.reset.push .commandComplete, [])
  | .disconnect handle =>
    (controller.push (.commandStatus success), [.disconnect i handle])
  | .setupSynchronous aclHandle linkType airMode =>
    if !controller.isConnected aclHandle then
      (controller.push (.commandStatus unknownConnection), [])
    else if controller.scoLinks.any fun link => link.aclHandle = aclHandle then
      (controller.push (.commandStatus connectionAlreadyExists), [])
    else (controller.push (.commandStatus success), [.scoSetup i aclHandle linkType airMode])
  | .answerSynchronous peer reject =>
    if controller.inboundSco.map InboundSco.initiatorAddress ≠ some peer then
      (controller.push (.commandStatus unknownConnection), [])
    else (controller.push (.commandStatus success), [.scoAnswer i peer reject])
  | .setConnectionEncryption handle enable =>
    if !controller.isConnected handle then
      (controller.push (.commandStatus unknownConnection), [])
    else (controller.push (.commandStatus success), [.encrypt i handle enable])
  | .leEnableEncryption handle rand ediv ltk =>
    if !controller.isConnected handle then
      (controller.push (.commandStatus unknownConnection), [])
    else (controller.push (.commandStatus success), [.leEnableEncryption i handle ltk rand ediv])
  | .leLtkRequestReply handle ltk =>
    (controller.push .commandComplete, [.leLtkReply i handle ltk])
  | .leCreateCis streams =>
    if streams = [] then (controller.push (.commandStatus invalidParameters), [])
    else if streams.any fun stream => !controller.isConnected stream.2 then
      (controller.push (.commandStatus unknownConnection), [])
    else
      let controller := controller.push (.commandStatus success)
      ({ controller with cisLinks := controller.cisLinks ++
          (streams.map fun stream => ({ cisHandle := stream.1, aclHandle := stream.2 } : CisLink)) },
        streams.map fun stream => .cisRequest i stream.2 stream.1)
  | .leAcceptCisRequest cisHandle =>
    if controller.cisLinks.any fun link => link.cisHandle = cisHandle then
      (controller.push (.commandStatus success), [.cisAccept i cisHandle])
    else (controller.push (.commandStatus unknownConnection), [])
  | .leCsCreateConfig handle configId role propagateToPeer =>
    if !controller.isConnected handle then
      (controller.push (.commandStatus unknownConnection), [])
    else (controller.push (.commandStatus success),
      [.csConfigure i handle configId role propagateToPeer])
  | .leCsProcedureEnable handle configId enable =>
    (controller.push (.commandStatus success), [.csEnable i handle configId enable])
  | .leCsRemoveConfig _ _ =>
    -- Neither the handle nor the configuration that the command names is looked at.
    let removed := controller.cs
    let controller := ({ controller with cs := none }).push (.commandStatus success)
    match removed with
    | none => (controller, [])
    | some session => (controller.push
        (.csConfigComplete session.handle session.configId session.role false), [])

end SimController

structure Link where
  /-- The controllers by their index, those that are yet to be added in their power-on state. -/
  controllers : Nat → SimController
  nextHandle : UInt16 := 1
  /-- The actions that wait for their phase, oldest first. -/
  actions : List Action := []

namespace Link
variable (link : Link)

def change (i : Nat) (change : SimController → SimController) : Link :=
  { link with controllers := Function.update link.controllers i (change (link.controllers i)) }

def push (i : Nat) (event : Event) : Link := link.change i (·.push event)

/-- `alloc_handle`'s effect on the counter. -/
def takeHandle : Link := { link with nextHandle := max (link.nextHandle + 1) 1 }

def peerOf (i : Nat) (handle : UInt16) : Option Nat := (link.controllers i).peerOf handle

def scoPeerOf (i : Nat) (handle : UInt16) : Option Nat :=
  ((link.controllers i).scoLinks.find? fun sco => sco.scoHandle = handle).map ScoLink.peer

/-! ## Connections -/

/-- What `establish_connection` and an accepted page do. -/
def establishConnection (central peripheral : Nat) : Link :=
  let handle := link.nextHandle
  let joined (i peer : Nat) (link : Link) : Link :=
    link.change i fun controller =>
      ({ controller with connections := controller.connections ++ [({ handle, peer } : Connection)] }).push
        (.connectionComplete handle (link.controllers peer).address)
  joined peripheral central (joined central peripheral link.takeHandle)

/-- What `finish_pairing` does to the connection of a pairing that succeeded. -/
def finishPairing (ends : Nat × Nat) (handle : UInt16) : Link :=
  let marked (i : Nat) (link : Link) : Link := link.change i fun controller =>
    controller.changeConnection handle fun connection => { connection with authenticated := true }
  marked ends.2 (marked ends.1 link)

/-- `route_sco_disconnect`, with whether the handle was one. -/
def routeScoDisconnect (sender : Nat) (handle : UInt16) : Bool × Link :=
  match link.scoPeerOf sender handle with
  | none => (false, link)
  | some peer =>
    let without (i : Nat) (reason : UInt8) (link : Link) : Link := link.change i fun controller =>
      ({ controller with scoLinks := controller.scoLinks.filter fun sco => sco.scoHandle ≠ handle }).push
        (.disconnectionComplete handle reason)
    (true, without peer reasonRemoteUser (without sender reasonLocalHost link))

def dropConnection (handle : UInt16) (controller : SimController) : SimController :=
  { controller with
    connections := controller.connections.filter fun connection => connection.handle ≠ handle
    cs := controller.cs.filter fun session => session.handle ≠ handle
    cisLinks := controller.cisLinks.filter fun cis => cis.aclHandle ≠ handle
    inboundSco := controller.inboundSco.filter fun request => request.aclHandle ≠ handle }

def routeDisconnect (sender : Nat) (handle : UInt16) : Link :=
  let (synchronous, link) := link.routeScoDisconnect sender handle
  if synchronous then link
  else match link.peerOf sender handle with
  | none => link
  | some peer =>
    let scoHandles := ((link.controllers sender).scoLinks.filter fun sco =>
      sco.aclHandle = handle).map ScoLink.scoHandle
    let link := scoHandles.foldl (fun link scoHandle => (link.routeScoDisconnect sender scoHandle).2)
      link
    let link := (link.change sender (dropConnection handle)).change peer (dropConnection handle)
    (link.push sender (.disconnectionComplete handle reasonLocalHost)).push peer
      (.disconnectionComplete handle reasonRemoteUser)

/-! ## Channel Sounding -/

def configureCs (i : Nat) (handle : UInt16) (configId role : UInt8) : Link :=
  link.change i fun controller => ({ controller with cs := some { handle, configId, role } }).push
    (.csConfigComplete handle configId role true)

def routeCsConfigure (sender : Nat) (handle : UInt16) (configId role : UInt8)
    (propagateToPeer : Bool) : Link :=
  let link := link.configureCs sender handle configId role
  if !propagateToPeer then link
  else match link.peerOf sender handle with
  | none => link
  | some peer => link.configureCs peer handle configId (if role = 0x00 then 0x01 else 0x00)

/-- Enables or disables the session of one end if it has the configuration. -/
def enableCs (i : Nat) (handle : UInt16) (configId : UInt8) (enable : Bool) : Link :=
  link.change i fun controller =>
    match controller.cs with
    | none => controller
    | some session =>
      if session.Names handle configId then
        ({ controller with cs := some { session with enabled := enable } }).push
          (.csProcedureEnableComplete success handle configId enable)
      else controller

def routeCsEnable (sender : Nat) (handle : UInt16) (configId : UInt8) (enable : Bool) : Link :=
  if (link.controllers sender).cs.all fun session => ¬ session.Names handle configId then
    link.push sender (.csProcedureEnableComplete commandDisallowed handle configId false)
  else
    let enabled := link.enableCs sender handle configId enable
    match link.peerOf sender handle with
    | none => enabled
    | some peer => enabled.enableCs peer handle configId enable

def procedure (i : Nat) : Option (CsSession × Nat) := do
  let session ← (link.controllers i).cs
  if ¬ session.enabled ∨ session.role ≠ 0x00 then none
  else
    let peer ← link.peerOf i session.handle
    if (link.controllers peer).cs.any CsSession.enabled then some (session, peer) else none

/-- A result at one end. The configuration is that of its own session, whatever it is for. -/
def reportCs (i : Nat) (session : CsSession) : Link :=
  link.change i fun controller =>
    ({ controller with cs := controller.cs.map (CsSession.count session.procedureCounter) }).push
      (.csSubeventResult session.handle ((controller.cs.map CsSession.configId).getD session.configId)
        session.procedureCounter)

/-- One turn of `tick_channel_sounding`. -/
def sound (i : Nat) : Link :=
  match link.procedure i with
  | none => link
  | some (session, peer) => (link.reportCs i session).reportCs peer session

/-! ## Isochronous streams -/

def routeCisRequest (sender : Nat) (aclHandle cisHandle : UInt16) : Link :=
  match link.peerOf sender aclHandle with
  | none => link
  | some peer => link.change peer fun controller =>
      ({ controller with cisLinks := controller.cisLinks ++ [({ cisHandle, aclHandle } : CisLink)] }).push
        (.leCisRequest aclHandle cisHandle)

def markEstablished (cisHandle : UInt16) (links : List CisLink) : List CisLink :=
  match links.findIdx? fun cis => cis.cisHandle = cisHandle with
  | none => links
  | some index => links.modify index fun cis => { cis with established := true }

def establishCis (i : Nat) (cisHandle : UInt16) : Link :=
  link.change i fun controller =>
    ({ controller with cisLinks := markEstablished cisHandle controller.cisLinks }).push
      (.leCisEstablished success cisHandle)

def routeCisAccept (sender : Nat) (cisHandle : UInt16) : Link :=
  match (link.controllers sender).cisLinks.find? fun cis => cis.cisHandle = cisHandle with
  | none => link
  | some cis =>
    match link.peerOf sender cis.aclHandle with
    | none => link
    | some peer => (link.establishCis sender cisHandle).establishCis peer cisHandle

/-! ## Synchronous links -/

def routeScoSetup (sender : Nat) (aclHandle : UInt16) (linkType airMode : UInt8) : Link :=
  let initiatorAddress := (link.controllers sender).address
  match link.peerOf sender aclHandle with
  | none => link.push sender
      (.synchronousConnectionComplete unknownConnection 0 Address.any linkType airMode)
  | some peer =>
    if (link.controllers peer).inboundSco.isSome ∨
        (link.controllers peer).scoLinks.any fun sco => sco.peer = sender then
      link.push sender (.synchronousConnectionComplete connectionRejectedResources 0
        (link.controllers peer).address linkType airMode)
    else link.change peer fun controller =>
      ({ controller with
          inboundSco := some ⟨sender, initiatorAddress, aclHandle, linkType, airMode⟩ }).push
        (.connectionRequest initiatorAddress linkType)

def completeSco (request : InboundSco) (acceptor : Nat) (status : UInt8) (handle : UInt16) : Link :=
  (link.push request.initiator (.synchronousConnectionComplete status handle
    (link.controllers acceptor).address request.linkType request.airMode)).push acceptor
      (.synchronousConnectionComplete status handle request.initiatorAddress request.linkType
        request.airMode)

def routeScoAnswer (sender : Nat) (peer : Address) (reject : Option UInt8) : Link :=
  match (link.controllers sender).inboundSco with
  | none => link
  | some request =>
    if request.initiatorAddress ≠ peer then link
    else
      let link := link.change sender fun controller => { controller with inboundSco := none }
      match reject with
      | some reason => link.completeSco request sender reason 0
      | none =>
        if link.peerOf request.initiator request.aclHandle ≠ some sender then
          link.completeSco request sender unknownConnection 0
        else
          let scoHandle := link.nextHandle
          let joined (i peer : Nat) (link : Link) : Link := link.change i fun controller =>
            { controller with scoLinks := controller.scoLinks ++
                [(⟨scoHandle, request.aclHandle, peer⟩ : ScoLink)] }
          (joined sender request.initiator (joined request.initiator sender
            link.takeHandle)).completeSco request sender success scoHandle

/-! ## Encryption -/

def setEncrypted (i : Nat) (handle : UInt16) (on : Bool) : Link :=
  link.change i fun controller => (controller.changeConnection handle fun connection =>
    { connection with encrypted := on }).push (.encryptionChange success handle on)

def routeSetConnectionEncryption (sender : Nat) (handle : UInt16) (enable : Bool) : Link :=
  match link.peerOf sender handle with
  | none => link
  | some peer =>
    let authenticated := (link.controllers sender).connections.any fun connection =>
      connection.handle = handle ∧ connection.authenticated
    if enable ∧ ¬ authenticated then
      link.push sender (.encryptionChange pinOrKeyMissing handle false)
    else (link.setEncrypted sender handle enable).setEncrypted peer handle enable

def routeLeEnableEncryption (sender : Nat) (handle : UInt16) (ltk : Ltk) (rand : Octets 8)
    (ediv : UInt16) : Link :=
  match link.peerOf sender handle with
  | none => link
  | some peer =>
    (link.change sender fun controller => controller.changeConnection handle fun connection =>
      { connection with pendingLtk := some ltk }).push peer (.leLongTermKeyRequest handle rand ediv)

/-- The key that waits on a connection. -/
def pendingLtk (i : Nat) (handle : UInt16) : Option Ltk :=
  ((link.controllers i).connections.find? fun connection => connection.handle = handle).bind
    Connection.pendingLtk

def routeLeLtkReply (sender : Nat) (handle : UInt16) (ltk : Option Ltk) : Link :=
  match link.peerOf sender handle with
  | none => link
  | some central =>
    match link.pendingLtk central handle with
    | none => link
    | some expected =>
      let link := link.change central fun controller =>
        controller.changeConnection handle fun connection => { connection with pendingLtk := none }
      if ltk ≠ some expected then
        link.push central (.encryptionChange pinOrKeyMissing handle false)
      else (link.setEncrypted central handle true).setEncrypted sender handle true

/-! ## Steps -/

def perform : Action → Link
  | .disconnect sender handle => link.routeDisconnect sender handle
  | .csConfigure sender handle configId role propagateToPeer =>
    link.routeCsConfigure sender handle configId role propagateToPeer
  | .csEnable sender handle configId enable => link.routeCsEnable sender handle configId enable
  | .scoSetup sender aclHandle linkType airMode =>
    link.routeScoSetup sender aclHandle linkType airMode
  | .scoAnswer sender peer reject => link.routeScoAnswer sender peer reject
  | .cisRequest sender aclHandle cisHandle => link.routeCisRequest sender aclHandle cisHandle
  | .cisAccept sender cisHandle => link.routeCisAccept sender cisHandle
  | .encrypt sender handle enable => link.routeSetConnectionEncryption sender handle enable
  | .leEnableEncryption sender handle ltk rand ediv =>
    link.routeLeEnableEncryption sender handle ltk rand ediv
  | .leLtkReply sender handle ltk => link.routeLeLtkReply sender handle ltk

end Link

inductive Step where
  /-- A command of a host (phase A). -/
  | command (i : Nat) (command : Command)
  | connect (central peripheral : Nat)
  | authenticate (ends : Nat × Nat) (handle : UInt16)
  | act
  /-- Channel Sounding at one controller (phase D2). -/
  | sound (i : Nat)
deriving DecidableEq

namespace Link

def step (link : Link) : Step → Link
  | .command i command =>
    let (controller, actions) := (link.controllers i).handleCommand i command
    { link.change i fun _ => controller with actions := link.actions ++ actions }
  | .connect central peripheral => link.establishConnection central peripheral
  | .authenticate ends handle => link.finishPairing ends handle
  | .act =>
    match link.actions with
    | [] => link
    | action :: rest => ({ link with actions := rest } : Link).perform action
  | .sound i => link.sound i

/-- A medium with no device in use. -/
def new (addresses : Nat → Address) : Link := ⟨fun i => { address := addresses i }, 1, []⟩

/-- Addresses that tell devices apart. -/
def numbered (i : Nat) : Address := ⟨⟨List.replicate 6 (UInt8.ofNat i), List.length_replicate⟩⟩

end Link
end Simble.Sim
