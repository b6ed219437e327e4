import Simble.L2cap.Signaling
import Simble.Lib.Run

/-! Basic Mode L2CAP channels (`l2cap/classic.rs`, `l2cap/cid_allocator.rs`): the table of
channels and the handlers of signaling messages, none of which asks for a channel's state before
it changes it. -/
namespace Simble.L2cap
open ConnectionResult

structure CidAllocator (α : Type) where
  minCid : UInt16
  maxCid : UInt16
  nextCid : UInt16
  channels : Map UInt16 α

namespace CidAllocator
variable {α : Type}

def new (minCid maxCid : UInt16) : CidAllocator α := ⟨minCid, maxCid, minCid, ∅⟩

/-- The `for` loop of `allocate`, with the turns it has left. -/
def allocateLoop (table : CidAllocator α) : Nat → CidAllocator α × Option UInt16
  | 0 => (table, none)
  | turns + 1 =>
    let cid := table.nextCid
    let next := { table with
      nextCid := if table.nextCid ≥ table.maxCid then table.minCid else table.nextCid + 1 }
    if (table.channels.lookup cid).isSome then next.allocateLoop turns else (next, some cid)

variable (table : CidAllocator α)

def allocate : CidAllocator α × Option UInt16 :=
  table.allocateLoop (table.maxCid.toNat - table.minCid.toNat + 1)

def insert (cid : UInt16) (channel : α) : CidAllocator α :=
  { table with channels := table.channels.insert cid channel }

def get (cid : UInt16) : Option α := table.channels.lookup cid

def remove (cid : UInt16) : CidAllocator α := { table with channels := table.channels.erase cid }

theorem allocateLoop_spec (turns : Nat) (table : CidAllocator α) :
    (table.allocateLoop turns).1.channels = table.channels ∧
    ∀ cid, (table.allocateLoop turns).2 = some cid → table.get cid = none := by
  induction turns generalizing table with
  | zero => exact ⟨rfl, nofun⟩
  | succ turns ih =>
    simp only [allocateLoop]
    split
    · exact ih _
    · rename_i free
      refine ⟨rfl, fun cid same => ?_⟩
      cases same
      simpa [get] using free

theorem allocate_fresh {cid : UInt16} (allocated : table.allocate.2 = some cid) :
    table.get cid = none := (allocateLoop_spec _ _).2 cid allocated

@[simp] theorem allocate_channels : table.allocate.1.channels = table.channels :=
  (allocateLoop_spec _ _).1

@[simp] theorem allocate_get (cid : UInt16) : table.allocate.1.get cid = table.get cid := by
  rw [get, allocate_channels, get]

theorem get_insert (cid other : UInt16) (channel : α) :
    (table.insert cid channel).get other = if other = cid then some channel else table.get other := by
  unfold get insert
  split
  case isTrue same => rw [same, AList.lookup_insert]
  case isFalse differs => rw [AList.lookup_insert_ne differs]

theorem get_remove (cid other : UInt16) :
    (table.remove cid).get other = if other = cid then none else table.get other := by
  unfold get remove
  split
  case isTrue same => rw [same, AList.lookup_erase]
  case isFalse differs => rw [AList.lookup_erase_ne differs]

end CidAllocator

def minBrEdrMtu : UInt16 := 48

inductive ChannelState where
  | waitConnectRsp
  | waitConfig
  | open
  | waitDisconnect
deriving DecidableEq, Repr

structure ClassicChannelSpec where
  psm : UInt16
  mtu : UInt16
deriving DecidableEq, Repr

structure ClassicChannel where
  cid : UInt16
  peerCid : UInt16
  psm : UInt16
  mtu : UInt16
  peerMtu : UInt16
  state : ChannelState
  localConfigDone : Bool
  remoteConfigDone : Bool
deriving DecidableEq, Repr

namespace ClassicChannel
variable (channel : ClassicChannel)

def isOpen : Bool := channel.state = .open

def maybeOpen : ClassicChannel :=
  if channel.localConfigDone && channel.remoteConfigDone then { channel with state := .open }
  else channel

end ClassicChannel

structure ClassicChannelManager where
  channels : CidAllocator ClassicChannel
  servers : List UInt16

def unknownCid (cid : UInt16) : SimbleError :=
  .deviceError ("L2CAP Classic: unknown CID " ++ hexWord cid)

open CidAllocator

namespace ClassicChannelManager

def minDynamicCid : UInt16 := 0x0040

def maxDynamicCid : UInt16 := 0xFFFF

def new : ClassicChannelManager := ⟨.new minDynamicCid maxDynamicCid, []⟩

variable (mgr : ClassicChannelManager)

def registerServer (psm : UInt16) : ClassicChannelManager × Except SimbleError Unit :=
  if psm ∈ mgr.servers then
    (mgr, .error (.deviceError
      ("L2CAP Classic: PSM " ++ hexWord psm ++ " already registered")))
  else ({ mgr with servers := psm :: mgr.servers }, .ok ())

def unregisterServer (psm : UInt16) : ClassicChannelManager :=
  { mgr with servers := mgr.servers.filter (· ≠ psm) }

def exhausted : SimbleError := .deviceError "L2CAP Classic: All dynamic CIDs exhausted"

/-- A channel as `connect` and `on_connection_request` enter it. -/
def fresh (cid peerCid psm mtu : UInt16) (state : ChannelState) : ClassicChannel :=
  ⟨cid, peerCid, psm, mtu, minBrEdrMtu, state, false, false⟩

def connect (spec : ClassicChannelSpec) :
    ClassicChannelManager × Except SimbleError (UInt16 × ConnectionRequestHeader) :=
  match mgr.channels.allocate with
  | (channels, none) => ({ mgr with channels }, .error exhausted)
  | (channels, some cid) =>
    ({ mgr with channels := channels.insert cid (fresh cid 0 spec.psm spec.mtu .waitConnectRsp) },
      .ok (cid, ⟨spec.psm, cid⟩))

def onConnectionRequest (request : ConnectionRequestHeader) (mtu : UInt16) :
    ClassicChannelManager × Except SimbleError ConnectionResponseHeader :=
  if request.psm ∉ mgr.servers then
    (mgr, .ok ⟨0, request.sourceCid, ConnectionResult.refusedPsmNotSupported, 0⟩)
  else
    match mgr.channels.allocate with
    | (channels, none) => ({ mgr with channels }, .error exhausted)
    | (channels, some cid) =>
      ({ mgr with
          channels := channels.insert cid (fresh cid request.sourceCid request.psm mtu .waitConfig) },
        .ok ⟨cid, request.sourceCid, ConnectionResult.successful, 0⟩)

/-- Applies a change to the channel with an identifier, or reports that there is none. -/
def change {β : Type} (cid : UInt16) (body : ClassicChannel → ClassicChannel × Except SimbleError β) :
    ClassicChannelManager × Except SimbleError β :=
  match mgr.channels.get cid with
  | none => (mgr, .error (unknownCid cid))
  | some channel =>
    ({ mgr with channels := mgr.channels.insert cid (body channel).1 }, (body channel).2)

def onConnectionResponse (localCid : UInt16) (response : ConnectionResponseHeader) :
    ClassicChannelManager × Except SimbleError Unit :=
  if response.result = ConnectionResult.pending then (mgr, .ok ()) else
  if response.result ≠ ConnectionResult.successful then
    ({ mgr with channels := mgr.channels.remove localCid },
      .error (.deviceError ("L2CAP Classic: connection refused, result=" ++ hexWord response.result)))
  else mgr.change localCid fun channel =>
    ({ channel with peerCid := response.destinationCid, state := .waitConfig }, .ok ())

def makeConfigurationRequest (cid : UInt16) :
    Except SimbleError (ConfigurationRequestHeader × Bytes) :=
  match mgr.channels.get cid with
  | none => .error (unknownCid cid)
  | some channel => .ok (⟨channel.peerCid, 0⟩, encodeMtuOption channel.mtu)

def onConfigurationRequest (cid : UInt16) (options : Bytes) :
    ClassicChannelManager × Except SimbleError ConfigurationResponseHeader :=
  mgr.change cid fun channel =>
    let channel := match parseMtuOption options with
      | some mtu => { channel with peerMtu := mtu }
      | none => channel
    (({ channel with remoteConfigDone := true } : ClassicChannel).maybeOpen,
      .ok ⟨channel.peerCid, 0, ConfigurationResult.success⟩)

def onConfigurationResponse (cid : UInt16) (response : ConfigurationResponseHeader) :
    ClassicChannelManager × Except SimbleError Unit :=
  mgr.change cid fun channel =>
    if response.result ≠ ConfigurationResult.success then
      (channel, .error (.deviceError
        ("L2CAP Classic: configuration rejected, result=" ++ hexWord response.result)))
    else (({ channel with localConfigDone := true } : ClassicChannel).maybeOpen, .ok ())

/-- The destination and source identifiers for a Disconnection Request. -/
def disconnect (cid : UInt16) : ClassicChannelManager × Except SimbleError (UInt16 × UInt16) :=
  mgr.change cid fun channel =>
    ({ channel with state := .waitDisconnect }, .ok (channel.peerCid, channel.cid))

def getChannel (cid : UInt16) : Option ClassicChannel := mgr.channels.get cid

def removeChannel (cid : UInt16) : ClassicChannelManager × Option ClassicChannel :=
  ({ mgr with channels := mgr.channels.remove cid }, mgr.channels.get cid)

/-! ### What each handler does to the table -/

theorem getChannel_change {β : Type} (cid other : UInt16)
    (body : ClassicChannel → ClassicChannel × Except SimbleError β) :
    (mgr.change cid body).1.getChannel other =
      if other = cid then (mgr.getChannel cid).map fun channel => (body channel).1
      else mgr.getChannel other := by
  unfold change getChannel
  cases found : mgr.channels.get cid with
  | none =>
    by_cases same : other = cid
    · rw [if_pos same, same, found]
      rfl
    · rw [if_neg same]
  | some channel =>
    simp only [get_insert]
    rfl

theorem getChannel_connect (spec : ClassicChannelSpec) (other : UInt16) :
    ((mgr.connect spec).1.getChannel other = mgr.getChannel other ∧
      ∀ request, (mgr.connect spec).2 ≠ .ok (other, request)) ∨
    mgr.getChannel other = none ∧ (∃ request, (mgr.connect spec).2 = .ok (other, request)) ∧
      (mgr.connect spec).1.getChannel other =
        some (fresh other 0 spec.psm spec.mtu .waitConnectRsp) := by
  have unchanged := mgr.channels.allocate_get other
  have free := @CidAllocator.allocate_fresh _ mgr.channels other
  unfold connect getChannel
  cases allocated : mgr.channels.allocate with
  | mk channels result =>
    rw [allocated] at unchanged free
    cases result with
    | none => exact .inl ⟨unchanged, nofun⟩
    | some cid =>
      by_cases same : other = cid
      · subst same
        exact .inr ⟨free rfl, ⟨_, rfl⟩, by simp [get_insert]⟩
      · refine .inl ⟨by simp only [get_insert, if_neg same]; exact unchanged, ?_⟩
        rintro request claimed
        simp only [Except.ok.injEq, Prod.mk.injEq] at claimed
        exact same claimed.1.symm

def Grants (answer : Except SimbleError ConnectionResponseHeader) (cid : UInt16) : Prop :=
  ∃ response, answer = .ok response ∧ response.result = ConnectionResult.successful ∧
    response.destinationCid = cid

instance (answer : Except SimbleError ConnectionResponseHeader) (cid : UInt16) :
    Decidable (Grants answer cid) :=
  match answer with
  | .error _ => .isFalse nofun
  | .ok response =>
    decidable_of_iff (response.result = ConnectionResult.successful ∧
      response.destinationCid = cid)
      ⟨fun granted => ⟨response, rfl, granted⟩, fun ⟨_, same, granted⟩ => by cases same; exact granted⟩

theorem getChannel_onConnectionRequest (request : ConnectionRequestHeader) (mtu other : UInt16) :
    ((mgr.onConnectionRequest request mtu).1.getChannel other = mgr.getChannel other ∧
      ¬ Grants (mgr.onConnectionRequest request mtu).2 other) ∨
    mgr.getChannel other = none ∧ Grants (mgr.onConnectionRequest request mtu).2 other ∧
      (mgr.onConnectionRequest request mtu).1.getChannel other =
        some (fresh other request.sourceCid request.psm mtu .waitConfig) := by
  have unchanged := mgr.channels.allocate_get other
  have free := @CidAllocator.allocate_fresh _ mgr.channels other
  unfold onConnectionRequest getChannel
  split
  · refine .inl ⟨rfl, ?_⟩
    rintro ⟨response, same, granted, -⟩
    cases same
    exact absurd granted (by simp [refusedPsmNotSupported,
      successful])
  · cases allocated : mgr.channels.allocate with
    | mk channels result =>
      rw [allocated] at unchanged free
      cases result with
      | none => exact .inl ⟨unchanged, nofun⟩
      | some cid =>
        by_cases same : other = cid
        · subst same
          exact .inr ⟨free rfl, ⟨_, rfl, rfl, rfl⟩, by simp [get_insert]⟩
        · refine .inl ⟨by simp only [get_insert, if_neg same]; exact unchanged, ?_⟩
          rintro ⟨response, claimed, -, named⟩
          cases claimed
          exact same named.symm

theorem getChannel_remove (cid other : UInt16) :
    (mgr.removeChannel cid).1.getChannel other =
      if other = cid then none else mgr.getChannel other := get_remove _ _ _

/-! ## Histories -/

inductive Op where
  | registerServer (psm : UInt16)
  | unregisterServer (psm : UInt16)
  | connect (spec : ClassicChannelSpec)
  | connectionRequest (request : ConnectionRequestHeader) (mtu : UInt16)
  | connectionResponse (localCid : UInt16) (response : ConnectionResponseHeader)
  | configurationRequest (cid : UInt16) (options : Bytes)
  | configurationResponse (cid : UInt16) (response : ConfigurationResponseHeader)
  | disconnect (cid : UInt16)
  | removeChannel (cid : UInt16)

def apply (mgr : ClassicChannelManager) : Op → ClassicChannelManager
  | .registerServer psm => (mgr.registerServer psm).1
  | .unregisterServer psm => mgr.unregisterServer psm
  | .connect spec => (mgr.connect spec).1
  | .connectionRequest request mtu => (mgr.onConnectionRequest request mtu).1
  | .connectionResponse localCid response => (mgr.onConnectionResponse localCid response).1
  | .configurationRequest cid options => (mgr.onConfigurationRequest cid options).1
  | .configurationResponse cid response => (mgr.onConfigurationResponse cid response).1
  | .disconnect cid => (mgr.disconnect cid).1
  | .removeChannel cid => (mgr.removeChannel cid).1

structure Call where
  before : ClassicChannelManager
  op : Op

def Calls (mgr : ClassicChannelManager) (call : Call) (after : ClassicChannelManager) : Prop :=
  call.before = mgr ∧ after = mgr.apply call.op

/-- What has been said about a channel since it was made. -/
structure Record where
  /-- The peer's identifier, from its request or its successful response. -/
  learned : Option UInt16 := none
  localConfigDone : Bool := false
  remoteConfigDone : Bool := false
  disconnected : Bool := false

def note (cid : UInt16) (record : Option Record) (call : Call) : Option Record :=
  match call.op with
  | .registerServer _ | .unregisterServer _ => record
  | .connect spec => match (call.before.connect spec).2 with
    | .ok (made, _) => if made = cid then some {} else record
    | .error _ => record
  | .connectionRequest request mtu =>
    if Grants (call.before.onConnectionRequest request mtu).2 cid then
      some { learned := some request.sourceCid }
    else record
  | .connectionResponse localCid response =>
    if localCid ≠ cid ∨ response.result = ConnectionResult.pending then record else
    if response.result = ConnectionResult.successful then
      record.map ({ · with learned := some response.destinationCid })
    else none
  | .configurationRequest named _ =>
    if named = cid then record.map ({ · with remoteConfigDone := true }) else record
  | .configurationResponse named response =>
    if named = cid ∧ response.result = ConfigurationResult.success then
      record.map ({ · with localConfigDone := true })
    else record
  | .disconnect named =>
    if named = cid then record.map ({ · with disconnected := true }) else record
  | .removeChannel named => if named = cid then none else record

def recordOf (cid : UInt16) (history : List Call) : Option Record := history.foldl (note cid) none

theorem recordOf_snoc (cid : UInt16) (history : List Call) (call : Call) :
    recordOf cid (history ++ [call]) = note cid (recordOf cid history) call := by
  simp [recordOf]

structure Lifecycle (history : List Call) (mgr : ClassicChannelManager) : Prop where
  opened : ∀ cid channel, mgr.getChannel cid = some channel → channel.state = .open →
    ∃ record, recordOf cid history = some record ∧ record.learned = some channel.peerCid ∧
      record.localConfigDone ∧ record.remoteConfigDone ∧ ¬ record.disconnected
  closing : ∀ earlier (call : Call), history = earlier ++ [call] → ∀ cid channel,
    call.before.getChannel cid = some channel → channel.state = .waitDisconnect →
      ∀ later, mgr.getChannel cid = some later → later.state = .waitDisconnect
  steady : ∀ earlier (call : Call), history = earlier ++ [call] → ∀ cid channel,
    call.before.getChannel cid = some channel → channel.state = .open →
      ∀ localCid response, call.op = .connectionResponse localCid response →
        ∃ later, mgr.getChannel cid = some later ∧ later.state = .open

/-- A Connection Response comes for no open channel, and a successful one for none that is
closing; the second half of the configuration for a channel that was accepted and is not closing.
-/
def Timely (mgr : ClassicChannelManager) (call : Call) : Prop :=
  match call.op with
  | .connectionResponse localCid response => response.result ≠ ConnectionResult.pending →
    ∀ channel, mgr.getChannel localCid = some channel → channel.state ≠ .open ∧
      (response.result = ConnectionResult.successful → channel.state ≠ .waitDisconnect)
  | .configurationRequest cid _ => ∀ channel, mgr.getChannel cid = some channel →
    channel.localConfigDone → channel.state = .waitConfig ∨ channel.state = .open
  | .configurationResponse cid response => response.result = ConfigurationResult.success →
    ∀ channel, mgr.getChannel cid = some channel →
      channel.remoteConfigDone → channel.state = .waitConfig ∨ channel.state = .open
  | _ => True

structure Backed (channel : ClassicChannel) (record : Record) : Prop where
  localSame : record.localConfigDone = channel.localConfigDone
  remoteSame : record.remoteConfigDone = channel.remoteConfigDone
  waiting : channel.state = .waitConnectRsp → record.learned = none
  accepted : channel.state = .waitConfig ∨ channel.state = .open →
    record.learned = some channel.peerCid
  configured : channel.state = .open → channel.localConfigDone ∧ channel.remoteConfigDone
  kept : record.disconnected → channel.state = .waitDisconnect

def Tracked (history : List Call) (mgr : ClassicChannelManager) : Prop :=
  ∀ cid, Option.Rel Backed (mgr.getChannel cid) (recordOf cid history)

namespace Backed
variable {channel : ClassicChannel} {record : Record} (backed : Backed channel record)
include backed

theorem maybeOpen (able : channel.localConfigDone → channel.remoteConfigDone →
    channel.state = .waitConfig ∨ channel.state = .open) : Backed channel.maybeOpen record := by
  unfold ClassicChannel.maybeOpen
  split
  case isFalse => exact backed
  case isTrue both =>
    obtain ⟨localDone, remoteDone⟩ := (Bool.and_eq_true _ _).mp both
    have state := able localDone remoteDone
    refine ⟨backed.localSame, backed.remoteSame, nofun, fun _ => backed.accepted state,
      fun _ => ⟨localDone, remoteDone⟩, fun gone => ?_⟩
    have closing := backed.kept gone
    rcases state with state | state <;> rw [state] at closing <;> contradiction

theorem remoteDone (mtu : UInt16) :
    Backed { channel with peerMtu := mtu, remoteConfigDone := true }
      { record with remoteConfigDone := true } :=
  ⟨backed.localSame, rfl, backed.waiting, backed.accepted,
    fun opened => ⟨(backed.configured opened).1, rfl⟩, backed.kept⟩

theorem localDone :
    Backed { channel with localConfigDone := true } { record with localConfigDone := true } :=
  ⟨rfl, backed.remoteSame, backed.waiting, backed.accepted,
    fun opened => ⟨rfl, (backed.configured opened).2⟩, backed.kept⟩

theorem answered (open' : channel.state ≠ .waitDisconnect) (peerCid : UInt16) :
    Backed { channel with peerCid, state := .waitConfig }
      { record with learned := some peerCid } :=
  ⟨backed.localSame, backed.remoteSame, nofun, fun _ => rfl, nofun,
    fun gone => absurd (backed.kept gone) open'⟩

theorem disconnected :
    Backed { channel with state := .waitDisconnect } { record with disconnected := true } :=
  ⟨backed.localSame, backed.remoteSame, nofun, nofun, nofun, fun _ => rfl⟩

end Backed

variable {history : List Call}

section Tracked
variable {mgr after : ClassicChannelManager} {call : Call} (tracked : Tracked history mgr)
include tracked

theorem Tracked.change (cid : UInt16) (body : ClassicChannel → ClassicChannel)
    (edit : Record → Record)
    (changed : ∀ other, after.getChannel other =
      if other = cid then (mgr.getChannel cid).map body else mgr.getChannel other)
    (noted : ∀ other record, note other record call =
      if cid = other then record.map edit else record)
    (step : ∀ channel record, mgr.getChannel cid = some channel → Backed channel record →
      Backed (body channel) (edit record)) :
    Tracked (history ++ [call]) after := by
  intro other
  rw [recordOf_snoc, changed, noted]
  by_cases same : other = cid
  · subst same
    rw [if_pos rfl, if_pos rfl]
    have before := tracked other
    cases found : mgr.getChannel other with
    | none =>
      rw [found] at before
      cases said : recordOf other history with
      | none => exact .none
      | some record => rw [said] at before; cases before
    | some channel =>
      rw [found] at before
      cases said : recordOf other history with
      | none => rw [said] at before; cases before
      | some record =>
        rw [said] at before
        cases before with
        | some backed => exact .some (step channel record found backed)
  · rw [if_neg same, if_neg (Ne.symm same)]
    exact tracked other

theorem Tracked.remove (cid : UInt16)
    (removed : ∀ other, after.getChannel other = if other = cid then none else mgr.getChannel other)
    (noted : ∀ other record, note other record call = if cid = other then none else record) :
    Tracked (history ++ [call]) after := by
  intro other
  rw [recordOf_snoc, removed, noted]
  by_cases same : other = cid
  · rw [if_pos same, if_pos same.symm]
    exact .none
  · rw [if_neg same, if_neg (Ne.symm same)]
    exact tracked other

theorem tracked_step (timely : Timely mgr call) (called : Calls mgr call after) :
    Tracked (history ++ [call]) after := by
  obtain ⟨rfl, rfl⟩ := called
  obtain ⟨mgr, op⟩ := call
  cases op with
  | registerServer psm =>
    intro cid
    rw [recordOf_snoc]
    have same : (mgr.registerServer psm).1.getChannel cid = mgr.getChannel cid := by
      unfold registerServer
      split <;> rfl
    exact same ▸ tracked cid
  | unregisterServer psm =>
    intro cid
    rw [recordOf_snoc]
    exact tracked cid
  | connect spec =>
    intro cid
    rw [recordOf_snoc]
    simp only [apply, note]
    rcases mgr.getChannel_connect spec cid with
      ⟨same, other⟩ | ⟨-, ⟨request, made⟩, entered⟩
    · rw [same]
      cases answer : (mgr.connect spec).2 with
      | error => exact tracked cid
      | ok result =>
        obtain ⟨made, request⟩ := result
        have differs : made ≠ cid := by
          rintro rfl
          exact other request answer
        simp only [if_neg differs]
        exact tracked cid
    · rw [entered, made]
      simp only [if_true]
      exact .some ⟨rfl, rfl, fun _ => rfl, nofun, nofun, nofun⟩
  | connectionRequest request mtu =>
    intro cid
    rw [recordOf_snoc]
    simp only [apply, note]
    rcases mgr.getChannel_onConnectionRequest request mtu cid with
      ⟨same, other⟩ | ⟨-, granted, entered⟩
    · rw [same, if_neg other]
      exact tracked cid
    · rw [entered, if_pos granted]
      exact .some ⟨rfl, rfl, nofun, fun _ => rfl, nofun, nofun⟩
  | connectionResponse localCid response =>
    by_cases pending : response.result = ConnectionResult.pending
    · intro cid
      rw [recordOf_snoc]
      simp only [apply, note, onConnectionResponse, pending, or_true, if_true]
      exact tracked cid
    by_cases success : response.result = successful
    · have changed : (mgr.onConnectionResponse localCid response).1 =
          (mgr.change localCid fun channel =>
            ({ channel with peerCid := response.destinationCid, state := .waitConfig },
              Except.ok ())).1 := by
        rw [onConnectionResponse, if_neg pending, if_neg (not_not.mpr success)]
      refine tracked.change localCid
        ({ · with peerCid := response.destinationCid, state := .waitConfig })
        ({ · with learned := some response.destinationCid })
        (fun other => ?_) (fun other record => ?_) ?_
      · rw [apply, changed, getChannel_change]
      · simp only [note]
        by_cases same : localCid = other
        · rw [if_neg (by simp [same, pending]), if_pos success, if_pos same]
        · rw [if_pos (Or.inl same), if_neg same]
      · intro channel record found backed
        exact backed.answered ((timely pending channel found).2 success) _
    · refine tracked.remove localCid (fun other => ?_) fun other record => ?_
      · rw [apply, onConnectionResponse, if_neg pending, if_pos success]
        exact get_remove _ _ _
      · simp only [note]
        by_cases same : localCid = other
        · rw [if_neg (by simp [same, pending]), if_neg success, if_pos same]
        · rw [if_pos (Or.inl same), if_neg same]
  | configurationRequest cid options =>
    refine tracked.change cid _ ({ · with remoteConfigDone := true })
      (mgr.getChannel_change cid · _) (fun _ _ => rfl) ?_
    intro channel record found backed
    have able := timely channel found
    cases parseMtuOption options with
    | none => exact (backed.remoteDone channel.peerMtu).maybeOpen fun done _ => able done
    | some mtu => exact (backed.remoteDone mtu).maybeOpen fun done _ => able done
  | configurationResponse cid response =>
    by_cases success : response.result = ConfigurationResult.success
    · refine tracked.change cid _ ({ · with localConfigDone := true })
        (mgr.getChannel_change cid · _) (fun other record => ?_) ?_
      · simp only [note, success, and_true]
      · intro channel record found backed
        simp only [success, ne_eq, not_true_eq_false, if_false]
        exact backed.localDone.maybeOpen fun _ => timely success channel found
    · refine tracked.change cid _ id (mgr.getChannel_change cid · _) (fun other record => ?_) ?_
      · simp [note, success]
      · intro channel record found backed
        simp only [ne_eq, success, not_false_eq_true, if_true]
        exact backed
  | disconnect cid =>
    exact tracked.change cid _ ({ · with disconnected := true })
      (mgr.getChannel_change cid · _) (fun _ _ => rfl) fun _ _ _ backed => backed.disconnected
  | removeChannel cid => exact tracked.remove cid (mgr.getChannel_remove cid) fun _ _ => rfl

end Tracked

section Step
variable {mgr : ClassicChannelManager} {cid : UInt16} {channel later : ClassicChannel}

theorem change_cases {β : Type} {named : UInt16}
    {body : ClassicChannel → ClassicChannel × Except SimbleError β}
    (found : mgr.getChannel cid = some channel)
    (still : (mgr.change named body).1.getChannel cid = some later) :
    later = channel ∨ named = cid ∧ later = (body channel).1 := by
  rw [getChannel_change] at still
  by_cases same : cid = named
  · subst same
    rw [if_pos rfl, found] at still
    exact .inr ⟨rfl, (Option.some.inj still).symm⟩
  · rw [if_neg same, found] at still
    exact .inl (Option.some.inj still).symm

theorem change_self {β : Type} (body : ClassicChannel → ClassicChannel × Except SimbleError β)
    (found : mgr.getChannel cid = some channel) :
    (mgr.change cid body).1.getChannel cid = some (body channel).1 := by
  rw [getChannel_change, if_pos rfl, found]
  rfl

theorem maybeOpen_state : channel.maybeOpen.state =
    if channel.localConfigDone && channel.remoteConfigDone then .open else channel.state := by
  unfold ClassicChannel.maybeOpen
  split <;> rfl

theorem getChannel_apply {op : Op} (found : mgr.getChannel cid = some channel)
    (still : (mgr.apply op).getChannel cid = some later) :
    later = channel ∨ (∃ response, op = .connectionResponse cid response ∧
      response.result ≠ ConnectionResult.pending ∧
      response.result = successful ∧ later.state = .waitConfig) ∨
    (∃ options, op = .configurationRequest cid options ∧
      later.state = if channel.localConfigDone then .open else channel.state) ∨
    (∃ response, op = .configurationResponse cid response ∧
      response.result = ConfigurationResult.success ∧
      later.state = if channel.remoteConfigDone then .open else channel.state) ∨
    op = .disconnect cid ∧ later.state = .waitDisconnect := by
  have stays : (mgr.apply op).getChannel cid = mgr.getChannel cid → later = channel := fun same =>
    Option.some.inj (still.symm.trans (same.trans found))
  cases op with
  | registerServer psm =>
    refine .inl (stays ?_)
    unfold apply registerServer
    simp only
    split <;> rfl
  | unregisterServer psm => exact .inl (stays rfl)
  | connect spec =>
    rcases mgr.getChannel_connect spec cid with ⟨same, -⟩ | ⟨absent, -⟩
    · exact .inl (stays same)
    · rw [found] at absent
      cases absent
  | connectionRequest request mtu =>
    rcases mgr.getChannel_onConnectionRequest request mtu cid with ⟨same, -⟩ | ⟨absent, -⟩
    · exact .inl (stays same)
    · rw [found] at absent
      cases absent
  | connectionResponse localCid response =>
    unfold apply onConnectionResponse at still
    simp only at still
    split_ifs at still with pending refused
    · exact .inl (Option.some.inj (still.symm.trans found))
    · rw [getChannel, get_remove] at still
      split at still
      · cases still
      · exact .inl (Option.some.inj (still.symm.trans found))
    · rcases change_cases found still with same | ⟨rfl, rfl⟩
      · exact .inl same
      · exact .inr (.inl ⟨response, rfl, pending, not_not.mp refused, rfl⟩)
  | configurationRequest named options =>
    rcases change_cases found still with same | ⟨rfl, rfl⟩
    · exact .inl same
    · refine .inr (.inr (.inl ⟨options, rfl, ?_⟩))
      simp only [maybeOpen_state, Bool.and_true]
      cases parseMtuOption options <;> rfl
  | configurationResponse named response =>
    rcases change_cases found still with same | ⟨rfl, rfl⟩
    · exact .inl same
    · by_cases success : response.result = ConfigurationResult.success
      · refine .inr (.inr (.inr (.inl ⟨response, rfl, success, ?_⟩)))
        simp only [success, ne_eq, not_true_eq_false, if_false, maybeOpen_state, Bool.true_and]
      · exact .inl (by simp only [ne_eq, success, not_false_eq_true, if_true])
  | disconnect named =>
    rcases change_cases found still with same | ⟨rfl, rfl⟩
    · exact .inl same
    · exact .inr (.inr (.inr (.inr ⟨rfl, rfl⟩)))
  | removeChannel named =>
    have gone := mgr.getChannel_remove named cid
    rw [apply] at still
    rw [still] at gone
    split at gone
    · cases gone
    · exact .inl (Option.some.inj (gone.trans found))

theorem closing_step {op : Op} (timely : Timely mgr ⟨mgr, op⟩)
    (found : mgr.getChannel cid = some channel) (closing : channel.state = .waitDisconnect)
    (still : (mgr.apply op).getChannel cid = some later) : later.state = .waitDisconnect := by
  rcases getChannel_apply found still with rfl | ⟨response, rfl, pending, success, -⟩ |
    ⟨options, rfl, state⟩ | ⟨response, rfl, success, state⟩ | ⟨rfl, state⟩
  · exact closing
  · exact absurd closing ((timely pending channel found).2 success)
  · have able := timely channel found
    rw [closing] at able state
    rw [state, if_neg (fun done => by simpa using able done)]
  · have able := timely success channel found
    rw [closing] at able state
    rw [state, if_neg (fun done => by simpa using able done)]
  · exact state

theorem steady_step {localCid : UInt16} {response : ConnectionResponseHeader}
    (timely : Timely mgr ⟨mgr, .connectionResponse localCid response⟩)
    (found : mgr.getChannel cid = some channel) (opened : channel.state = .open) :
    (mgr.apply (.connectionResponse localCid response)).getChannel cid = some channel := by
  unfold apply onConnectionResponse
  simp only
  split_ifs with pending refused
  · exact found
  · rw [getChannel, get_remove]
    split
    case isTrue same => exact absurd opened (timely pending channel (same ▸ found)).1
    case isFalse => exact found
  · rw [getChannel_change]
    split
    case isTrue same => exact absurd opened (timely pending channel (same ▸ found)).1
    case isFalse => exact found

end Step

theorem calls_deterministic (mgr : ClassicChannelManager) (call : Call)
    (t u : ClassicChannelManager) (first : Calls mgr call t) (second : Calls mgr call u) : t = u :=
  first.2.trans second.2.symm

theorem tracked_of_run {mgr : ClassicChannelManager}
    (run : Lib.Run (Lib.Guarded Timely Calls) new history mgr) : Tracked history mgr :=
  run.invariant (P := Tracked) (fun _ => .none) fun tracked stepped =>
    tracked_step tracked stepped.1 stepped.2

theorem lifecycle_of_run {mgr : ClassicChannelManager}
    (run : Lib.Run (Lib.Guarded Timely Calls) new history mgr) : Lifecycle history mgr := by
  have tracked := tracked_of_run run
  constructor
  · intro cid channel found opened
    have related := tracked cid
    rw [found] at related
    cases said : recordOf cid history with
    | none => rw [said] at related; cases related
    | some record =>
      rw [said] at related
      cases related with
      | some backed =>
        refine ⟨record, rfl, backed.accepted (.inr opened), ?_, ?_, fun gone => ?_⟩
        · rw [backed.localSame]
          exact (backed.configured opened).1
        · rw [backed.remoteSame]
          exact (backed.configured opened).2
        · have closing := backed.kept gone
          rw [opened] at closing
          cases closing
  · rintro earlier call rfl cid channel found closing later still
    obtain ⟨_, -, timely, rfl, rfl⟩ := run.last
    exact closing_step timely found closing still
  · rintro earlier call rfl cid channel found opened localCid response named
    obtain ⟨_, -, timely, rfl, rfl⟩ := run.last
    rw [named]
    rw [Timely, named] at timely
    exact ⟨channel, steady_step timely found opened, opened⟩

theorem opens_early {call : Call} {after : ClassicChannelManager} {cid : UInt16}
    {channel later : ClassicChannel} {edit : Record → Record}
    (tracked : Tracked history call.before) (found : call.before.getChannel cid = some channel)
    (early : ¬ (channel.state = .waitConfig ∨ channel.state = .open))
    (still : after.getChannel cid = some later) (opened : later.state = .open)
    (noted : note cid (recordOf cid history) call = (recordOf cid history).map edit)
    (same : ∀ record, (edit record).learned = record.learned) :
    ¬ Lifecycle (history ++ [call]) after := by
  intro lifecycle
  cases state : channel.state with
  | waitConnectRsp =>
    obtain ⟨record, said, learned, -⟩ := lifecycle.opened cid later still opened
    rw [recordOf_snoc, noted] at said
    obtain ⟨earlier, known, rfl⟩ := Option.map_eq_some_iff.mp said
    have related := tracked cid
    rw [found, known] at related
    cases related with
    | some backed =>
      rw [same, backed.waiting state] at learned
      cases learned
  | waitConfig => exact early (.inl state)
  | «open» => exact early (.inr state)
  | waitDisconnect =>
    have closed := lifecycle.closing history call rfl cid channel found state later still
    rw [opened] at closed
    cases closed

theorem untimely {mgr after : ClassicChannelManager} {call : Call} (tracked : Tracked history mgr)
    (called : Calls mgr call after) (late : ¬ Timely mgr call) :
    ¬ Lifecycle (history ++ [call]) after := by
  obtain ⟨rfl, rfl⟩ := called
  obtain ⟨mgr, op⟩ := call
  cases op with
  | connectionResponse localCid response =>
    simp only [Timely, not_forall] at late
    obtain ⟨pending, channel, found, late⟩ := late
    intro lifecycle
    by_cases success : response.result = successful
    · have answered : (mgr.apply (.connectionResponse localCid response)).getChannel localCid =
          some { channel with peerCid := response.destinationCid, state := .waitConfig } := by
        unfold apply onConnectionResponse
        simp only [if_neg pending, if_neg (not_not.mpr success)]
        exact change_self _ found
      by_cases opened : channel.state = .open
      · obtain ⟨later, still, steady⟩ :=
          lifecycle.steady history _ rfl localCid channel found opened _ _ rfl
        obtain rfl := Option.some.inj (answered.symm.trans still)
        cases steady
      · have closing : channel.state = .waitDisconnect := by
          by_contra other
          exact late ⟨opened, fun _ => other⟩
        have closed := lifecycle.closing history _ rfl localCid channel found closing _ answered
        cases closed
    · have opened : channel.state = .open := by
        by_contra other
        exact late ⟨other, fun same => absurd same success⟩
      obtain ⟨later, still, -⟩ :=
        lifecycle.steady history _ rfl localCid channel found opened _ _ rfl
      unfold apply onConnectionResponse at still
      simp only [if_neg pending, ne_eq, success, not_false_eq_true, if_true] at still
      rw [getChannel, get_remove, if_pos rfl] at still
      cases still
  | configurationRequest cid options =>
    simp only [Timely, not_forall] at late
    obtain ⟨channel, found, done, early⟩ := late
    refine opens_early tracked found early (change_self _ found) ?_ (if_pos rfl) fun _ => rfl
    simp only [maybeOpen_state, Bool.and_true]
    cases parseMtuOption options <;> exact if_pos done
  | configurationResponse cid response =>
    simp only [Timely, not_forall] at late
    obtain ⟨success, channel, found, done, early⟩ := late
    refine opens_early tracked found early (change_self _ found) ?_ (if_pos ⟨rfl, success⟩)
      fun _ => rfl
    simp only [success, ne_eq, not_true_eq_false, if_false, maybeOpen_state, Bool.true_and]
    exact if_pos done
  | _ => exact absurd trivial late

/-- The histories in which every channel keeps its lifecycle are the ones
whose calls are all timely. -/
theorem lifecycle_iff {history : List Call} {mgr : ClassicChannelManager}
    (run : Lib.Run Calls new history mgr) :
    (∀ before t, before <+: history → Lib.Run Calls new before t → Lifecycle before t) ↔
      Lib.Run (Lib.Guarded Timely Calls) new history mgr :=
  Lib.Run.always_iff_guarded calls_deterministic (fun guarded => lifecycle_of_run guarded)
    (fun guarded called late => untimely (tracked_of_run guarded) called late) run

/-- The channel of one outgoing connection, configured in both directions. -/
def handshake : List Op := [
  .connect ⟨0x0001, 1024⟩,
  .connectionResponse 0x0040 ⟨0x0055, 0x0040, ConnectionResult.successful, 0⟩,
  .configurationRequest 0x0040 [],
  .configurationResponse 0x0040 ⟨0x0040, 0, ConfigurationResult.success⟩]

def callsOf (mgr : ClassicChannelManager) : List Op → List Call
  | [] => []
  | op :: rest => ⟨mgr, op⟩ :: callsOf (mgr.apply op) rest

theorem run_callsOf {mgr : ClassicChannelManager} (run : Lib.Run Calls new history mgr)
    (ops : List Op) :
    Lib.Run Calls new (history ++ callsOf mgr ops) (ops.foldl apply mgr) := by
  induction ops generalizing history mgr with
  | nil => simpa [callsOf] using run
  | cons op rest ih =>
    have later := ih (run.snoc (show Calls mgr ⟨mgr, op⟩ (mgr.apply op) from ⟨rfl, rfl⟩))
    simpa [callsOf] using later

theorem lifecycle_iff_handshake :
    (∀ before t, before <+: callsOf new handshake → Lib.Run Calls new before t →
      Lifecycle before t) ↔
    Lib.Run (Lib.Guarded Timely Calls) new (callsOf new handshake) (handshake.foldl apply new) :=
  lifecycle_iff (run_callsOf .nil handshake)

/-- Configured in both directions before the connection is answered. -/
def unanswered : List Op := [
  .connect ⟨0x0001, 1024⟩,
  .configurationRequest 0x0040 [],
  .configurationResponse 0x0040 ⟨0x0040, 0, ConfigurationResult.success⟩]

/-- The channel opens without a peer. -/
theorem lifecycle_fails :
    Lib.Run Calls new (callsOf new unanswered) (unanswered.foldl apply new) ∧
    ¬ Lifecycle (callsOf new unanswered) (unanswered.foldl apply new) := by
  refine ⟨run_callsOf .nil unanswered, fun lifecycle => ?_⟩
  have opened : (unanswered.foldl apply new).getChannel 0x0040 =
      some ⟨0x0040, 0, 0x0001, 1024, 48, .open, true, true⟩ := by decide +kernel
  have unknown : (recordOf 0x0040 (callsOf new unanswered)).bind Record.learned = none := by
    decide +kernel
  obtain ⟨record, said, learned, -⟩ := lifecycle.opened _ _ opened rfl
  rw [said] at unknown
  exact absurd (unknown.symm.trans learned) nofun

end ClassicChannelManager
end Simble.L2cap
