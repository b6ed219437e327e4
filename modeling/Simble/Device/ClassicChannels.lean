import Simble.Device.ClassicNotices

/-! The channels of a host over a run: which its handlers are told of, which it lists, and whom
its Configuration Requests name. All handlers keep the sets in step but the one for a refused
Connection Response, which forgets to tell; and data is delivered to channels that are not open
yet. -/
namespace Simble.Device.ClassicHost
open L2cap Hci ProtocolHandler Books Logs List

variable {H : Type} [ProtocolHandler H]

def entry (handler : Handler (Logged H)) : List UInt16 × List Notice :=
  (handler.psms, handler.state.log)

def books (host : ClassicHost (Logged H)) : Books :=
  ⟨host.channels, host.localCids, host.announcedCids, host.handlers.map entry⟩

/-! ## Handlers -/

omit [ProtocolHandler H] in
theorem map_entry_handlerFor {α : Type} (psm : UInt16)
    (method : Logged H → Logged H × α) (notices : List Notice)
    (adds : ∀ handler, (method handler).1.log = handler.log ++ notices)
    (handlers : List (Handler (Logged H))) :
    (handlerFor psm method handlers).1.map entry = say psm notices (handlers.map entry) := by
  induction handlers with
  | nil => rfl
  | cons handler rest ih =>
    unfold handlerFor
    rw [map_cons, say]
    by_cases serves : psm ∈ handler.psms
    · rw [if_pos serves, if_pos (show psm ∈ (entry handler).1 from serves), map_cons]
      simp only [entry, adds]
    · rw [if_neg serves, if_neg (show psm ∉ (entry handler).1 from serves), ← ih]
      rfl

/-! ## Signaling commands -/

/-- The code, identifier and parameters of a signaling packet. -/
def signalingCommand (body : Bytes) : Option (UInt8 × UInt8 × Bytes) :=
  (L2capSignalingHeader.refFromPrefix body).map fun found =>
    (found.1.code, found.1.identifier, found.2.take (min found.1.length.toNat found.2.length))

def connectionRequestIn (body : Bytes) : Option ConnectionRequestHeader :=
  match signalingCommand body with
  | some (code, _, params) => if code = SignalingCode.connectionRequest then
      (ConnectionRequestHeader.refFromPrefix params).map Prod.fst else none
  | none => none

def connectionResponseIn (body : Bytes) : Option ConnectionResponseHeader :=
  match signalingCommand body with
  | some (code, _, params) => if code = SignalingCode.connectionResponse then
      (ConnectionResponseHeader.refFromPrefix params).map Prod.fst else none
  | none => none

/-- Which of the handlers of signaling packets one of them comes to. -/
inductive Handled (host : ClassicHost H) (body : Bytes) : ClassicHost H × List Bytes → Prop where
  | ignored (request : connectionRequestIn body = none)
      (response : connectionResponseIn body = none) : Handled host body (host, [])
  | connectionRequest (identifier : UInt8) (request : ConnectionRequestHeader)
      (found : connectionRequestIn body = some request)
      (response : connectionResponseIn body = none) :
      Handled host body (host.onConnectionRequest identifier request)
  | connectionResponse (response : ConnectionResponseHeader)
      (found : connectionResponseIn body = some response)
      (request : connectionRequestIn body = none) :
      Handled host body (host.onConnectionResponse response)
  | configurationRequest (identifier : UInt8) (configuration : ConfigurationRequestHeader)
      (options : Bytes) (request : connectionRequestIn body = none)
      (response : connectionResponseIn body = none) :
      Handled host body (host.onConfigurationRequest identifier configuration options)
  | configurationResponse (configuration : ConfigurationResponseHeader)
      (request : connectionRequestIn body = none) (response : connectionResponseIn body = none) :
      Handled host body (host.onConfigurationResponse configuration)
  | disconnectionRequest (identifier : UInt8) (params : Bytes) (cid : UInt16)
      (request : connectionRequestIn body = none) (response : connectionResponseIn body = none) :
      Handled host body (host.onDisconnectionRequest identifier params cid)

theorem signalingFrames_handled (host : ClassicHost H) (body : Bytes) :
    Handled host body (host.signalingFrames body) := by
  unfold signalingFrames
  cases parsed : L2capSignalingHeader.refFromPrefix body with
  | none =>
    have absent : signalingCommand body = none := by rw [signalingCommand, parsed]; rfl
    exact .ignored (by rw [connectionRequestIn, absent]) (by rw [connectionResponseIn, absent])
  | some found =>
    obtain ⟨header, rest⟩ := found
    have command : signalingCommand body =
        some (header.code, header.identifier, rest.take (min header.length.toNat rest.length)) := by
      rw [signalingCommand, parsed]
      rfl
    have request : connectionRequestIn body = if header.code = SignalingCode.connectionRequest then
        (ConnectionRequestHeader.refFromPrefix
          (rest.take (min header.length.toNat rest.length))).map Prod.fst else none := by
      rw [connectionRequestIn, command]
    have response : connectionResponseIn body =
        if header.code = SignalingCode.connectionResponse then
          (ConnectionResponseHeader.refFromPrefix
            (rest.take (min header.length.toNat rest.length))).map Prod.fst else none := by
      rw [connectionResponseIn, command]
    simp only
    generalize rest.take (min header.length.toNat rest.length) = params at request response
    by_cases connect : header.code = SignalingCode.connectionRequest
    · have other : header.code ≠ SignalingCode.connectionResponse := by rw [connect]; decide
      rw [if_pos connect] at request ⊢
      rw [if_neg other] at response
      cases given : ConnectionRequestHeader.refFromPrefix params with
      | none => exact .ignored (by rw [request, given]; rfl) response
      | some found => exact .connectionRequest _ found.1 (by rw [request, given]; rfl) response
    rw [if_neg connect] at request ⊢
    by_cases answer : header.code = SignalingCode.connectionResponse
    · rw [if_pos answer] at response ⊢
      cases given : ConnectionResponseHeader.refFromPrefix params with
      | none => exact .ignored request (by rw [response, given]; rfl)
      | some found => exact .connectionResponse found.1 (by rw [response, given]; rfl) request
    rw [if_neg answer] at response ⊢
    split_ifs
    · cases ConfigurationRequestHeader.refFromPrefix params with
      | none => exact .ignored request response
      | some found => exact .configurationRequest _ _ _ request response
    · cases ConfigurationResponseHeader.refFromPrefix params with
      | none => exact .ignored request response
      | some found => exact .configurationResponse _ request response
    · split
      · exact .disconnectionRequest _ _ _ request response
      · exact .ignored request response
    · exact .ignored request response

def configurationTarget (frame : Bytes) : Option UInt16 :=
  match readFrame frame with
  | none => none
  | some (channelId, body) =>
    if channelId = brSignaling then
      match signalingCommand body with
      | some (code, _, params) => if code = SignalingCode.configurationRequest then
          (ConfigurationRequestHeader.refFromPrefix params).map fun found => found.1.destinationCid
        else none
      | none => none
    else none

theorem configurationTarget_signalingPdu {code identifier : UInt8} {payload : Bytes}
    {target : UInt16} (found : configurationTarget (signalingPdu code identifier payload) =
      some target) : code = SignalingCode.configurationRequest ∧
      ∃ low high rest, payload = low :: high :: rest ∧ target = U16.fromLeBytes low high := by
  unfold configurationTarget signalingPdu serialize at found
  simp only [U16.toLeBytes, L2capSignalingHeader.asBytes, cons_append, nil_append,
    readFrame, U16.fromLeBytes_toLeBytes, if_true] at found
  generalize (min _ _ : Nat) = count at found
  rcases count with _ | _ | _ | _ | count
  iterate 4 simp [signalingCommand, L2capSignalingHeader.refFromPrefix] at found
  simp only [take_succ_cons, signalingCommand, L2capSignalingHeader.refFromPrefix,
    Option.map_some] at found
  split at found
  case isTrue asked =>
    refine ⟨asked, ?_⟩
    rw [take_take] at found
    generalize (min (min _ _) _ : Nat) = shown at found
    rcases payload with _ | ⟨low, _ | ⟨high, rest⟩⟩
    · simp [ConfigurationRequestHeader.refFromPrefix] at found
    · cases shown <;> simp [ConfigurationRequestHeader.refFromPrefix] at found
    rcases shown with _ | _ | shown
    · simp [ConfigurationRequestHeader.refFromPrefix] at found
    · simp [ConfigurationRequestHeader.refFromPrefix] at found
    refine ⟨low, high, rest, rfl, ?_⟩
    rw [take_succ_cons, take_succ_cons] at found
    rcases seen : rest.take shown with _ | ⟨first, _ | ⟨second, others⟩⟩
    · simp [ConfigurationRequestHeader.refFromPrefix, seen] at found
    · simp [ConfigurationRequestHeader.refFromPrefix, seen] at found
    · rw [seen] at found
      exact (Option.some.inj found).symm
  case isFalse => contradiction

/-! ## What is learned -/

/-- The peer's identifiers of the channels, after a signaling packet. -/
def learn (host : ClassicHost H) (learned : UInt16 → UInt16) (body : Bytes) : UInt16 → UInt16 :=
  match connectionRequestIn body, connectionResponseIn body with
  | some request, _ =>
    match (host.channels.onConnectionRequest request defaultL2capMtu).2 with
    | .ok response =>
      if response.result = ConnectionResult.successful then
        Function.update learned response.destinationCid request.sourceCid
      else learned
    | .error _ => learned
  | none, some response =>
    if response.result = ConnectionResult.successful ∧
        (host.channels.getChannel response.sourceCid).isSome then
      Function.update learned response.sourceCid response.destinationCid
    else learned
  | none, none => learned

/-- A granted request names the peer's end; of a channel of the host, a pending response comes
when the peer's end is known, a successful one names it, and a refusal comes before the channel is
announced. -/
def Proper (host : ClassicHost H) (body : Bytes) : Prop :=
  (∀ request, connectionRequestIn body = some request → ∀ cid,
    ClassicChannelManager.Grants (host.channels.onConnectionRequest request defaultL2capMtu).2 cid →
      request.sourceCid ≠ 0) ∧
  ∀ response, connectionResponseIn body = some response → ∀ channel,
    host.channels.getChannel response.sourceCid = some channel →
      if response.result = ConnectionResult.pending then channel.peerCid ≠ 0
      else if response.result = ConnectionResult.successful then response.destinationCid ≠ 0
      else response.sourceCid ∉ host.announcedCids

def Named (learned : UInt16 → UInt16) (host : ClassicHost H) (target : UInt16) : Prop :=
  target ≠ 0 ∧ ∃ cid channel, host.channels.getChannel cid = some channel ∧
    channel.peerCid = target ∧ learned cid = target

def present (channels : ClassicChannelManager) (cid : UInt16) : Nat :=
  if (channels.getChannel cid).isSome then 1 else 0

/-- Whether the channel is there and configured in both directions. -/
def settled (channels : ClassicChannelManager) (cid : UInt16) : Bool :=
  (channels.getChannel cid).any fun channel => channel.localConfigDone && channel.remoteConfigDone

theorem settled_eq_true {channels : ClassicChannelManager} {cid : UInt16} :
    settled channels cid = true ↔ ∃ channel, channels.getChannel cid = some channel ∧
      channel.localConfigDone ∧ channel.remoteConfigDone := by
  simp [settled, Option.any_eq_true]

structure Accounts (learned : UInt16 → UInt16) (host : ClassicHost (Logged H)) : Prop where
  tidy : Tidy learned host.books
  ranged : Ranged host.channels

/-- A step that keeps the accounts, tells the loss of a channel once at most and
only when it goes, and names the peer's ends of channels. -/
structure Turn (learned : UInt16 → UInt16) (before after : ClassicHost (Logged H))
    (frames : List Bytes) : Prop where
  accounts : Accounts learned after
  grown : Logs.Grown (fun cid => present before.channels cid - present after.channels cid)
    before.books.logs after.books.logs
  named : ∀ frame ∈ frames, ∀ target, configurationTarget frame = some target →
    Named learned after target

/-! ## Signaling -/

section Signaling
variable {learned : UInt16 → UInt16} {host : ClassicHost (Logged H)}
  (accounts : Accounts learned host)
include accounts

omit accounts [ProtocolHandler H] in
theorem configure_books (cid : UInt16) : (host.configure cid).1.books = host.books := by
  unfold configure
  split <;> rfl

omit [ProtocolHandler H] in
theorem configure_accounts (cid : UInt16) : Accounts learned (host.configure cid).1 := by
  have same := host.configure_books cid
  refine ⟨by rw [same]; exact accounts.tidy, ?_⟩
  exact (congrArg (fun books => Ranged books.channels) same).mpr accounts.ranged

omit [ProtocolHandler H] in
theorem configure_named (cid : UInt16)
    (known : ∀ channel, host.channels.getChannel cid = some channel → channel.peerCid ≠ 0) :
    ∀ frame ∈ (host.configure cid).2, ∀ target, configurationTarget frame = some target →
      Named learned (host.configure cid).1 target := by
  have same : (host.configure cid).1.channels = host.channels :=
    congrArg Books.channels (host.configure_books cid)
  unfold Named
  rw [same]
  unfold configure ClassicChannelManager.makeConfigurationRequest
  cases held : host.channels.channels.get cid with
  | none => exact nofun
  | some channel =>
    intro frame member target found
    obtain rfl := mem_singleton.mp member
    obtain ⟨-, low, high, rest, payload, rfl⟩ := configurationTarget_signalingPdu found
    simp only [ConfigurationRequestHeader.asBytes, U16.toLeBytes, cons_append,
      nil_append, List.cons.injEq] at payload
    obtain ⟨rfl, rfl, -⟩ := payload
    rw [U16.fromLeBytes_toLeBytes]
    exact ⟨known channel held, cid, channel, held, rfl,
      (accounts.tidy.sound cid channel held).learnt (known channel held)⟩

omit accounts [ProtocolHandler H] in
theorem named_of_code {after : ClassicHost (Logged H)} {code identifier : UInt8} {payload : Bytes}
    (other : code ≠ SignalingCode.configurationRequest) :
    ∀ frame ∈ [signalingPdu code identifier payload], ∀ target,
      configurationTarget frame = some target → Named learned after target := by
  intro frame member target found
  obtain rfl := mem_singleton.mp member
  exact absurd (configurationTarget_signalingPdu found).1 other

omit accounts [ProtocolHandler H] in
theorem sound_fresh (learned : UInt16 → UInt16) (cid peerCid psm mtu : UInt16)
    {state : ChannelState} (closed : state ≠ .open) (known : peerCid ≠ 0 → learned cid = peerCid) :
    Sound learned cid (ClassicChannelManager.fresh cid peerCid psm mtu state) :=
  ⟨rfl, fun opened => absurd (of_decide_eq_true opened) closed, known⟩

omit [ProtocolHandler H] in
theorem onConnectionRequest_turn {body : Bytes} {request : ConnectionRequestHeader}
    (found : connectionRequestIn body = some request) (proper : Proper host body)
    (identifier : UInt8) :
    Turn (host.learn learned body) host (host.onConnectionRequest identifier request).1
      (host.onConnectionRequest identifier request).2 := by
  have learns : host.learn learned body =
      match (host.channels.onConnectionRequest request defaultL2capMtu).2 with
      | .ok response => if response.result = ConnectionResult.successful then
          Function.update learned response.destinationCid request.sourceCid else learned
      | .error _ => learned := by
    rw [learn, found]
  have names := proper.1 request found
  have ranged := onConnectionRequest_ranged accounts.ranged request defaultL2capMtu
  have table := host.channels.getChannel_onConnectionRequest request defaultL2capMtu
  rw [learns]
  unfold onConnectionRequest
  generalize host.channels.onConnectionRequest request defaultL2capMtu = answer at *
  obtain ⟨channels, result⟩ := answer
  have untouched : (∀ cid, ¬ ClassicChannelManager.Grants result cid) →
      Accounts learned ({ host with channels } : ClassicHost (Logged H)) := by
    intro refused
    refine ⟨accounts.tidy.congr (fun cid => ?_) rfl rfl rfl, ranged.1⟩
    rcases table cid with ⟨same, -⟩ | ⟨-, granted, -⟩
    · exact same
    · exact absurd granted (refused cid)
  cases result with
  | error error => exact ⟨untouched fun cid => nofun, .rfl _, nofun⟩
  | ok response =>
    have zero := ranged.2 response rfl
    simp only
    by_cases success : response.result = ConnectionResult.successful
    · have nonzero : response.destinationCid ≠ 0 := fun same => zero.mp same success
      have granted : ClassicChannelManager.Grants (.ok response) response.destinationCid :=
        ⟨response, rfl, success, rfl⟩
      have fresh : Sound (Function.update learned response.destinationCid request.sourceCid)
          response.destinationCid (ClassicChannelManager.fresh response.destinationCid
            request.sourceCid request.psm defaultL2capMtu .waitConfig) :=
        sound_fresh _ _ _ _ _ (by decide) fun _ => Function.update_self _ _ _
      obtain ⟨free, entered⟩ : host.channels.getChannel response.destinationCid = none ∧
          channels.getChannel response.destinationCid = some (ClassicChannelManager.fresh
            response.destinationCid request.sourceCid request.psm defaultL2capMtu
            .waitConfig) := by
        rcases table response.destinationCid with ⟨-, other⟩ | ⟨free, -, entered⟩
        · exact absurd granted other
        · exact ⟨free, entered⟩
      have others : ∀ other, channels.getChannel other = if other = response.destinationCid then
          some (ClassicChannelManager.fresh response.destinationCid request.sourceCid request.psm
            defaultL2capMtu .waitConfig) else host.channels.getChannel other := by
        intro other
        by_cases same : other = response.destinationCid
        · rw [if_pos same, same, entered]
        · rw [if_neg same]
          rcases table other with ⟨kept, -⟩ | ⟨-, ⟨response', given, -, named⟩, -⟩
          · exact kept
          · cases given
            exact absurd named.symm same
      have made : Accounts (Function.update learned response.destinationCid request.sourceCid)
          ({ host with channels, localCids := host.localCids ++ [response.destinationCid] } :
            ClassicHost (Logged H)) :=
        ⟨accounts.tidy.create free others rfl rfl rfl
          (fun other differs => Function.update_of_ne differs _ _) fresh, ranged.1⟩
      rw [if_pos nonzero, if_pos success]
      have named := configure_named made response.destinationCid fun channel held => by
        rw [entered] at held
        cases held
        exact names _ granted
      refine ⟨configure_accounts made _, ?_, ?_⟩
      · rw [configure_books]
        exact .rfl _
      · intro frame member target asked
        rcases mem_cons.mp member with rfl | member
        · exact absurd (configurationTarget_signalingPdu asked).1 (by decide)
        · exact named frame member target asked
    · have refused : ∀ cid, ¬ ClassicChannelManager.Grants (.ok response) cid := by
        rintro cid ⟨response', given, granted, -⟩
        cases given
        exact success granted
      rw [if_neg (not_not.mpr (zero.mpr success)), if_neg success]
      exact ⟨untouched refused, .rfl _, named_of_code (by decide)⟩

omit accounts [ProtocolHandler H] in
theorem follow_nothing (cid : UInt16) (log : List Notice) : told cid (log ++ []) = told cid log := by
  rw [append_nil]

omit [ProtocolHandler H] in
/-- A channel that goes without a notice, because its handler was told nothing of it. -/
theorem refuse_accounts {cid : UInt16} {next : ClassicHost (Logged H)}
    (unannounced : cid ∉ host.announcedCids)
    (gone : ∀ other, next.channels.getChannel other =
      if other = cid then none else host.channels.getChannel other)
    (listed : next.localCids = host.localCids.filter (· ≠ cid))
    (announced : ∀ other, other ∈ next.announcedCids ↔ other ∈ host.announcedCids)
    (logs : next.books.logs = host.books.logs) (ranged : Ranged next.channels) :
    Accounts learned next := by
  refine ⟨accounts.tidy.remove 0 [] gone listed
    (fun other => (announced other).mp) (fun other _ => (announced other).mpr)
    (fun member => unannounced ((announced cid).mp member)) ?_ (fun other _ => follow_nothing other)
    (fun log now known told => ?_) fun member => absurd member unannounced, ranged⟩
  · rw [say_nil]
    exact logs
  · rw [follow_nothing, known]
    cases now
    · rfl
    · exact absurd (told rfl) unannounced

omit [ProtocolHandler H] in
theorem unannounced_absent {cid : UInt16} (absent : host.channels.getChannel cid = none) :
    cid ∉ host.announcedCids := by
  intro member
  obtain ⟨channel, held, -⟩ := accounts.tidy.announced cid member
  rw [show host.books.channels = host.channels from rfl, absent] at held
  contradiction

omit [ProtocolHandler H] in
theorem onConnectionResponse_turn {body : Bytes} {response : ConnectionResponseHeader}
    (found : connectionResponseIn body = some response)
    (other : connectionRequestIn body = none) (proper : Proper host body) :
    Turn (host.learn learned body) host (host.onConnectionResponse response).1
      (host.onConnectionResponse response).2 := by
  have learns : host.learn learned body =
      if response.result = ConnectionResult.successful ∧
          (host.channels.getChannel response.sourceCid).isSome then
        Function.update learned response.sourceCid response.destinationCid
      else learned := by
    rw [learn, found, other]
  have proper := proper.2 response found
  rw [learns]
  unfold onConnectionResponse ClassicChannelManager.onConnectionResponse
  by_cases pending : response.result = ConnectionResult.pending
  · have failed : ¬ response.result = ConnectionResult.successful := by
      rw [pending]
      decide
    simp only [if_pos pending, failed, false_and, if_false] at proper ⊢
    exact ⟨configure_accounts accounts _, by rw [configure_books]; exact .rfl _,
      configure_named accounts _ proper⟩
  by_cases success : response.result = ConnectionResult.successful
  · have accepted : ¬ response.result ≠ ConnectionResult.successful := not_not.mpr success
    simp only [if_neg pending, if_neg accepted]
    cases held : host.channels.getChannel response.sourceCid with
    | none =>
      have absent : host.channels.channels.get response.sourceCid = none := held
      simp only [ClassicChannelManager.change, absent, Option.isSome_none, Bool.false_eq_true,
        and_false, if_false]
      refine ⟨refuse_accounts accounts (unannounced_absent accounts held) (fun cid => ?_) rfl
        (fun _ => .rfl) rfl accounts.ranged, .rfl _, nofun⟩
      by_cases same : cid = response.sourceCid
      · rw [if_pos same, same]
        exact held
      · rw [if_neg same]
    | some channel =>
      have nonzero := proper channel held
      rw [if_neg pending, if_pos success] at nonzero
      have there : host.channels.channels.get response.sourceCid = some channel := held
      have changed : Accounts (Function.update learned response.sourceCid response.destinationCid)
          ({ host with channels := (host.channels.change response.sourceCid fun channel =>
            ({ channel with peerCid := response.destinationCid, state := .waitConfig },
              (Except.ok () : Except SimbleError Unit))).1 } : ClassicHost (Logged H)) := by
        refine ⟨accounts.tidy.change response.sourceCid _ rfl rfl rfl rfl
          (fun other differs => Function.update_of_ne differs _ _) ?_,
          change_ranged accounts.ranged _ _⟩
        intro channel _ sound
        exact ⟨⟨sound.named, nofun, fun _ => Function.update_self _ _ _⟩, rfl, id, id⟩
      have self := ClassicChannelManager.change_self (fun channel : ClassicChannel =>
        ({ channel with peerCid := response.destinationCid, state := .waitConfig },
          (Except.ok () : Except SimbleError Unit))) held
      simp only [ClassicChannelManager.change, there] at changed self
      simp only [ClassicChannelManager.change, there, Option.isSome_some, and_true, if_pos success]
      refine ⟨configure_accounts changed _, by rw [configure_books]; exact .rfl _,
        configure_named changed _ fun later still => ?_⟩
      rw [self] at still
      cases still
      exact nonzero
  · simp only [if_neg pending, ne_eq, success, not_false_eq_true, if_true, false_and, if_false]
      at proper ⊢
    have unannounced : response.sourceCid ∉ host.announcedCids := by
      cases held : host.channels.getChannel response.sourceCid with
      | none => exact unannounced_absent accounts held
      | some channel => exact proper channel held
    exact ⟨refuse_accounts accounts unannounced (host.channels.getChannel_remove _) rfl
      (fun _ => .rfl) rfl accounts.ranged, .rfl _, nofun⟩

omit accounts [ProtocolHandler H] in
theorem sound_maybeOpen {cid : UInt16} {channel : ClassicChannel} (sound : Sound learned cid channel) :
    Sound learned cid channel.maybeOpen ∧ channel.maybeOpen.psm = channel.psm ∧
      channel.maybeOpen.localConfigDone = channel.localConfigDone ∧
      channel.maybeOpen.remoteConfigDone = channel.remoteConfigDone := by
  unfold ClassicChannel.maybeOpen
  split
  case isTrue both =>
    exact ⟨⟨sound.named, fun _ => (Bool.and_eq_true _ _).mp both, sound.learnt⟩, rfl, rfl, rfl⟩
  case isFalse => exact ⟨sound, rfl, rfl, rfl⟩

omit [ProtocolHandler H] in
theorem onConfigurationRequest_turn (identifier : UInt8)
    (request : ConfigurationRequestHeader) (options : Bytes) :
    Turn learned host (host.onConfigurationRequest identifier request options).1
      (host.onConfigurationRequest identifier request options).2 := by
  have changed : Accounts learned ({ host with channels :=
      (host.channels.onConfigurationRequest request.destinationCid options).1 } :
        ClassicHost (Logged H)) := by
    refine ⟨accounts.tidy.change request.destinationCid _ rfl rfl rfl rfl (fun _ _ => rfl) ?_,
      change_ranged accounts.ranged _ _⟩
    intro channel _ sound
    have marked : ∀ mtu, Sound learned request.destinationCid
        { channel with peerMtu := mtu, remoteConfigDone := true } := fun mtu =>
      ⟨sound.named, fun opened => ⟨(sound.configured opened).1, rfl⟩, sound.learnt⟩
    cases parseMtuOption options with
    | none =>
      obtain ⟨kept, psm, localDone, remoteDone⟩ := sound_maybeOpen (marked channel.peerMtu)
      exact ⟨kept, psm, fun done => localDone.trans done, fun _ => remoteDone⟩
    | some mtu =>
      obtain ⟨kept, psm, localDone, remoteDone⟩ := sound_maybeOpen (marked mtu)
      exact ⟨kept, psm, fun done => localDone.trans done, fun _ => remoteDone⟩
  unfold onConfigurationRequest
  split
  case h_1 answered =>
    rw [answered] at changed
    exact ⟨changed, .rfl _, nofun⟩
  case h_2 answered =>
    rw [answered] at changed
    exact ⟨changed, .rfl _, named_of_code (by decide)⟩

omit [ProtocolHandler H] in
theorem onConfigurationResponse_turn (response : ConfigurationResponseHeader) :
    Turn learned host (host.onConfigurationResponse response).1
      (host.onConfigurationResponse response).2 := by
  refine ⟨⟨accounts.tidy.change response.sourceCid _ rfl rfl rfl rfl (fun _ _ => rfl) ?_,
    change_ranged accounts.ranged _ _⟩, .rfl _, nofun⟩
  intro channel _ sound
  by_cases success : response.result = ConfigurationResult.success
  · have marked : Sound learned response.sourceCid { channel with localConfigDone := true } :=
      ⟨sound.named, fun opened => ⟨rfl, (sound.configured opened).2⟩, sound.learnt⟩
    obtain ⟨kept, psm, localDone, remoteDone⟩ := sound_maybeOpen marked
    simp only [success, ne_eq, not_true_eq_false, if_false]
    exact ⟨kept, psm, fun _ => localDone, fun done => remoteDone.trans done⟩
  · simp only [ne_eq, success, not_false_eq_true, if_true]
    exact ⟨sound, trivial, id, id⟩

omit accounts [ProtocolHandler H] in
theorem told_lost (cid other : UInt16) (log : List Notice) :
    told other (log ++ [.lost cid]) =
      if cid = other then (told other log).map fun _ => false else told other log := told_snoc _ _ _

omit accounts [ProtocolHandler H] in
theorem told_lost_closed (cid other : UInt16) (log : List Notice) :
    told other (log ++ [.lost cid, .closed]) = told other (log ++ [.lost cid]) := by
  rw [show log ++ [.lost cid, .closed] = (log ++ [Notice.lost cid]) ++ [.closed] by simp,
    told_snoc]
  rfl

omit accounts [ProtocolHandler H] in
theorem grown_lost {cid psm : UInt16} {channel : ClassicChannel} {channels : ClassicChannelManager}
    (held : channels.getChannel cid = some channel) {notices : List Notice} (logs : Logs)
    (once : ∀ other, notices.count (.lost other) ≤ if cid = other then 1 else 0) :
    Logs.Grown (fun other => present channels other - present (channels.removeChannel cid).1 other)
      logs (logs.say psm notices) := by
  refine (logs.grown_say psm notices).mono fun other => (once other).trans ?_
  unfold present
  rw [channels.getChannel_remove]
  by_cases same : cid = other
  · rw [if_pos same, if_pos same.symm, ← same, held]
    exact Nat.le_refl _
  · rw [if_neg same]
    exact Nat.zero_le _

theorem onDisconnectionRequest_turn (identifier : UInt8) (params : Bytes) (cid : UInt16) :
    Turn learned host (host.onDisconnectionRequest identifier params cid).1
      (host.onDisconnectionRequest identifier params cid).2 := by
  have forgotten : cid ∉ host.announcedCids.filter (· ≠ cid) := by simp
  cases held : host.channels.getChannel cid with
  | none =>
    have unannounced := unannounced_absent accounts held
    have absent : (host.channels.removeChannel cid).2 = none := held
    unfold onDisconnectionRequest
    simp only [absent]
    refine ⟨refuse_accounts accounts unannounced (host.channels.getChannel_remove cid) rfl
      (fun other => ?_) rfl accounts.ranged, .rfl _, named_of_code (by decide)⟩
    rw [mem_filter]
    refine and_iff_left_of_imp fun member => ?_
    exact decide_eq_true fun same : other = cid => unannounced (same ▸ member)
  | some channel =>
    have there : (host.channels.removeChannel cid).2 = some channel := held
    obtain ⟨last, same⟩ : ∃ last : Bool, last = !hasChannelServedBy { host with
        channels := (host.channels.removeChannel cid).1
        localCids := host.localCids.filter (· ≠ cid)
        announcedCids := host.announcedCids.filter (· ≠ cid) } channel.psm := ⟨_, rfl⟩
    unfold onDisconnectionRequest
    simp only [there]
    rw [← same]
    have logs := map_entry_handlerFor (H := H) channel.psm (fun handler =>
        (if last then onChannelClosed (onChannelLost handler cid) else onChannelLost handler cid, ()))
      (if last then [.lost cid, .closed] else [.lost cid])
      (fun handler => by
        cases last
        · rfl
        · exact append_assoc handler.log [Notice.lost cid] [Notice.closed]) host.handlers
    have others : ∀ other, other ≠ cid → ∀ log,
        told other (log ++ if last then [.lost cid, .closed] else [.lost cid]) = told other log := by
      intro other differs log
      cases last
      · exact (told_lost cid other log).trans (if_neg differs.symm)
      · exact (told_lost_closed cid other log).trans
          ((told_lost cid other log).trans (if_neg differs.symm))
    have own : ∀ log now, told cid log = some now → (now = true → cid ∈ host.announcedCids) →
        told cid (log ++ if last then [.lost cid, .closed] else [.lost cid]) = some false := by
      intro log now known _
      have lost : told cid (log ++ [.lost cid]) = some false := by
        rw [told_lost, if_pos rfl, known, Option.map_some]
      cases last
      · exact lost
      · exact (told_lost_closed cid cid log).trans lost
    refine ⟨⟨accounts.tidy.remove channel.psm (if last then [.lost cid, .closed] else [.lost cid])
      (host.channels.getChannel_remove cid) rfl (fun other member => ?_) (fun other differs member =>
        ?_) forgotten logs others own fun _ => ⟨channel, held, rfl⟩, accounts.ranged⟩, ?_,
      named_of_code (by decide)⟩
    · exact (mem_filter.mp member).1
    · exact mem_filter.mpr ⟨member, decide_eq_true differs⟩
    · refine (congrArg (Logs.Grown _ host.books.logs) logs).mpr (grown_lost held _ fun other => ?_)
      cases last <;> by_cases same : cid = other <;> simp [same]

theorem signalingFrames_turn {body : Bytes} (proper : Proper host body) :
    Turn (host.learn learned body) host (host.signalingFrames body).1
      (host.signalingFrames body).2 := by
  have handled := host.signalingFrames_handled body
  have unlearned : connectionRequestIn body = none → connectionResponseIn body = none →
      host.learn learned body = learned := by
    intro request response
    rw [learn, request, response]
  generalize host.signalingFrames body = result at handled
  cases handled with
  | ignored request response =>
    rw [unlearned request response]
    exact ⟨accounts, .rfl _, nofun⟩
  | connectionRequest identifier request found response =>
    exact onConnectionRequest_turn accounts found proper identifier
  | connectionResponse response found request =>
    exact onConnectionResponse_turn accounts found request proper
  | configurationRequest identifier configuration options request response =>
    rw [unlearned request response]
    exact onConfigurationRequest_turn accounts identifier configuration options
  | configurationResponse configuration request response =>
    rw [unlearned request response]
    exact onConfigurationResponse_turn accounts configuration
  | disconnectionRequest identifier params cid request response =>
    rw [unlearned request response]
    exact onDisconnectionRequest_turn accounts identifier params cid

end Signaling

/-! ## Data -/

/-- Data for a channel that some handler serves comes when the channel is announced. -/
def Expected (host : ClassicHost H) (cid : UInt16) : Prop :=
  ∀ channel, host.channels.getChannel cid = some channel →
    (∃ handler ∈ host.handlers, channel.psm ∈ handler.psms) → cid ∈ host.announcedCids

omit [ProtocolHandler H] in
theorem handlerFor_some {α : Type} {psm : UInt16} {method : H → H × α}
    {handlers : List (Handler H)} {result : α}
    (served : (handlerFor psm method handlers).2 = some result) :
    ∃ handler ∈ handlers, psm ∈ handler.psms := by
  induction handlers with
  | nil => contradiction
  | cons handler rest ih =>
    unfold handlerFor at served
    by_cases serves : psm ∈ handler.psms
    · exact ⟨handler, .head _, serves⟩
    · rw [if_neg serves] at served
      obtain ⟨other, member, serves⟩ := ih served
      exact ⟨other, .tail _ member, serves⟩

theorem dataFrames_turn {learned : UInt16 → UInt16} {host : ClassicHost (Logged H)}
    (accounts : Accounts learned host) {cid : UInt16} (expected : Expected host cid) (data : Bytes) :
    Turn learned host (host.dataFrames cid data).1 [] := by
  unfold dataFrames
  cases held : host.channels.getChannel cid with
  | none => exact ⟨accounts, .rfl _, nofun⟩
  | some channel =>
    simp only
    have sound := accounts.tidy.sound cid channel held
    have logs := map_entry_handlerFor (H := H) channel.psm (fun handler =>
        onChannelData handler ⟨channel.psm, channel.cid, channel.peerMtu⟩ data)
      [.data ⟨channel.psm, channel.cid, channel.peerMtu⟩ data]
      (fun handler => rfl) host.handlers
    split
    case h_1 => exact ⟨accounts, .rfl _, nofun⟩
    case h_2 handlers replies answered =>
      have served := handlerFor_some (congrArg Prod.snd answered)
      have member := expected channel held served
      rw [answered] at logs
      obtain ⟨channel', held', configured⟩ := accounts.tidy.announced cid member
      rw [show host.books.channels = host.channels from rfl, held] at held'
      cases held'
      refine ⟨⟨accounts.tidy.tell _ held rfl rfl (fun other => ?_) logs configured
        (fun other differs now => if_neg fun same => differs (same.symm.trans sound.named))
        fun i entry routed found => ?_, accounts.ranged⟩, ?_, nofun⟩
      · exact (or_iff_left_of_imp fun same => same ▸ member).symm
      · obtain ⟨now, known, heard⟩ := accounts.tidy.told i entry found cid
        have yes : now = true := heard.mpr ⟨member, channel, held, routed⟩
        rw [known, yes]
        simp [follow, sound.named]
      · refine (congrArg (Logs.Grown _ host.books.logs) logs).mpr
          ((grown_say _ _ _).mono fun other => ?_)
        simp

/-! ## The end of the link -/

theorem map_entry_closed (handlers : List (Handler (Logged H))) :
    (handlers.map fun handler => { handler with state := onChannelClosed handler.state }).map entry =
      (handlers.map entry).map fun entry => (entry.1, entry.2 ++ [.closed]) := by
  rw [map_map, map_map]
  rfl

theorem tidy_closed {learned : UInt16 → UInt16} {books : Books} (tidy : Tidy learned books) :
    Tidy learned { books with
      logs := books.logs.map fun entry => (entry.1, entry.2 ++ [.closed]) } := by
  refine ⟨tidy.nodup, tidy.listed, tidy.sound, tidy.announced, fun i entry found cid => ?_⟩
  rw [List.getElem?_map] at found
  obtain ⟨earlier, held, rfl⟩ := Option.map_eq_some_iff.mp found
  obtain ⟨now, known, heard⟩ := tidy.told i earlier held cid
  refine ⟨now, (told_snoc _ _ _).trans known, heard.trans ?_⟩
  unfold Heard
  simp only [route_eq, map_map]
  exact .rfl

theorem loseChannels_turn {learned : UInt16 → UInt16} (cids : List UInt16)
    {channels : ClassicChannelManager} {handlers : List (Handler (Logged H))}
    {announcedCids : List UInt16}
    (tidy : Tidy learned ⟨channels, cids, announcedCids, handlers.map entry⟩) :
    Tidy learned ⟨(loseChannels cids channels handlers).1, [],
        announcedCids.filter (· ∉ cids), (loseChannels cids channels handlers).2.map entry⟩ ∧
      Logs.Grown (present channels) (handlers.map entry)
        ((loseChannels cids channels handlers).2.map entry) := by
  induction cids generalizing channels handlers announcedCids with
  | nil =>
    refine ⟨?_, .rfl _⟩
    rw [filter_eq_self.mpr fun cid _ => by simp]
    exact tidy
  | cons cid rest ih =>
    have nodup := nodup_cons.mp tidy.nodup
    have listed : (channels.getChannel cid).isSome := (tidy.listed cid).mp (.head _)
    obtain ⟨channel, held⟩ := Option.isSome_iff_exists.mp listed
    have lost : loseChannel channels handlers cid = ((channels.removeChannel cid).1,
        (handlerFor channel.psm (fun state => (onChannelLost state cid, ())) handlers).1) := by
      have there : (channels.removeChannel cid).2 = some channel := held
      unfold loseChannel
      split <;> rename_i same <;> rw [same] at there ⊢ <;> cases there
      rfl
    have logs := map_entry_handlerFor (H := H) channel.psm
      (fun handler => (onChannelLost handler cid, ())) [.lost cid]
      (fun handler => rfl) handlers
    have filtered : rest = (cid :: rest).filter (· ≠ cid) := by
      rw [filter_cons_of_neg (by simp), filter_eq_self.mpr fun other member => ?_]
      exact decide_eq_true fun same : other = cid => nodup.1 (same ▸ member)
    have removed : Tidy learned ⟨(channels.removeChannel cid).1, rest,
        announcedCids.filter (· ≠ cid),
        (handlerFor channel.psm (fun state => (onChannelLost state cid, ())) handlers).1.map
          entry⟩ :=
      tidy.remove channel.psm [.lost cid] (channels.getChannel_remove cid)
        filtered (fun other member => (mem_filter.mp member).1)
        (fun other differs member => mem_filter.mpr ⟨member, decide_eq_true differs⟩)
        (by simp) logs
        (fun other differs log => (told_lost cid other log).trans (if_neg differs.symm))
        (fun log now known _ => by rw [told_lost, if_pos rfl, known, Option.map_some])
        fun _ => ⟨channel, held, rfl⟩
    obtain ⟨after, grown⟩ := ih removed
    rw [loseChannels, lost]
    constructor
    · have same : (announcedCids.filter (· ≠ cid)).filter (· ∉ rest) =
          announcedCids.filter (· ∉ cid :: rest) := by
        rw [filter_filter]
        refine filter_congr fun other _ => ?_
        by_cases first : other = cid <;> by_cases later : other ∈ rest <;> simp [first, later]
      rw [← same]
      exact after
    · have first : Logs.Grown (fun other => if cid = other then 1 else 0) (handlers.map entry)
          ((handlerFor channel.psm (fun state => (onChannelLost state cid, ())) handlers).1.map
            entry) := by
        rw [logs]
        refine (grown_say _ _ _).mono fun other => ?_
        by_cases same : cid = other <;> simp [same]
      refine (first.trans grown).mono fun other => ?_
      unfold present
      rw [channels.getChannel_remove]
      by_cases same : cid = other
      · rw [if_pos same, if_pos same.symm, ← same, held]
        exact Nat.le_refl 1
      · rw [if_neg same, if_neg (Ne.symm same), Nat.zero_add]

theorem onLinkEnded_turn {learned : UInt16 → UInt16} {host : ClassicHost (Logged H)}
    (accounts : Accounts learned host) (handle : UInt16) :
    Turn learned host (host.onLinkEnded handle) [] := by
  obtain ⟨tidy, grown⟩ := loseChannels_turn host.localCids accounts.tidy
  have gone : host.announcedCids.filter (· ∉ host.localCids) = [] := by
    rw [filter_eq_nil_iff]
    intro cid member
    obtain ⟨channel, held, -⟩ := accounts.tidy.announced cid member
    have listed : cid ∈ host.localCids := (accounts.tidy.listed cid).mpr (by rw [held]; rfl)
    simp [listed]
  rw [gone] at tidy
  have books : (host.onLinkEnded handle).books =
      { (⟨(loseChannels host.localCids host.channels host.handlers).1, [], [],
        (loseChannels host.localCids host.channels host.handlers).2.map entry⟩ : Books) with
          logs := ((loseChannels host.localCids host.channels host.handlers).2.map entry).map
            fun entry => (entry.1, entry.2 ++ [.closed]) } := by
    rw [← map_entry_closed]
    rfl
  refine ⟨⟨books ▸ tidy_closed tidy,
    loseChannels_ranged host.localCids host.channels host.handlers accounts.ranged⟩, ?_, nofun⟩
  rw [books]
  have closing : Logs.Grown (fun _ => 0)
      ((loseChannels host.localCids host.channels host.handlers).2.map entry)
      (((loseChannels host.localCids host.channels host.handlers).2.map entry).map
        fun entry => (entry.1, entry.2 ++ [.closed])) := by
    intro i entry found
    refine ⟨[.closed], ?_, fun cid => ?_⟩
    · rw [List.getElem?_map, found]
      rfl
    · simp
  refine (grown.trans closing).mono fun cid => ?_
  have absent : present (host.onLinkEnded handle).channels cid = 0 :=
    if_neg fun held => absurd ((tidy.listed cid).mpr held) not_mem_nil
  rw [absent]
  exact Nat.le_refl _

/-! ## Polling -/

section Poll
variable {learned : UInt16 → UInt16}

theorem announce_turn (channels : List HandlerChannel) {host : ClassicHost (Logged H)}
    (accounts : Accounts learned host)
    (opened : ∀ channel ∈ channels, ∃ held, host.channels.getChannel channel.cid = some held ∧
      held.psm = channel.psm ∧ held.isOpen) :
    Accounts learned (host.announce channels) ∧
      (host.announce channels).channels = host.channels ∧
      (∀ cid, cid ∈ channels.map HandlerChannel.cid ∨ cid ∈ host.announcedCids →
        cid ∈ (host.announce channels).announcedCids) ∧
      Logs.Grown (fun _ => 0) host.books.logs (host.announce channels).books.logs := by
  induction channels generalizing host with
  | nil => exact ⟨accounts, rfl, fun cid member => member.resolve_left not_mem_nil, .rfl _⟩
  | cons channel rest ih =>
    unfold announce
    obtain ⟨held, found, psm, isOpen⟩ := opened channel (.head _)
    by_cases known : channel.cid ∈ host.announcedCids
    · rw [if_pos known]
      obtain ⟨after, same, listed, grown⟩ :=
        ih accounts fun other member => opened other (.tail _ member)
      refine ⟨after, same, fun cid member => listed cid ?_, grown⟩
      rw [map_cons, mem_cons] at member
      rcases member with (rfl | member) | member
      · exact .inr known
      · exact .inl member
      · exact .inr member
    · rw [if_neg known]
      have sound := accounts.tidy.sound channel.cid held found
      have logs := map_entry_handlerFor (H := H) channel.psm
        (fun handler => (onChannelOpen handler channel, ())) [.opened channel] (fun handler => rfl) host.handlers
      have told : Accounts learned { host with
          announcedCids := host.announcedCids ++ [channel.cid]
          handlers := (handlerFor channel.psm
            (fun state => (onChannelOpen state channel, ())) host.handlers).1 } := by
        refine ⟨accounts.tidy.tell (.opened channel) found rfl rfl
          (fun other => ?_) (psm ▸ logs) (sound.configured isOpen)
          (fun other differs now => if_neg differs.symm) fun i entry routed member => ?_,
          accounts.ranged⟩
        · exact mem_append.trans (or_congr .rfl mem_singleton)
        · obtain ⟨now, said, heard⟩ := accounts.tidy.told i entry member channel.cid
          have not_yet : now = false := by
            rw [← Bool.not_eq_true, heard]
            exact fun both => known both.1
          rw [said, not_yet]
          simp [follow]
      obtain ⟨after, same, listed, grown⟩ :=
        ih told fun other member => opened other (.tail _ member)
      refine ⟨after, same, fun cid member => listed cid ?_, ?_⟩
      · simp only [map_cons, mem_cons, mem_append] at member ⊢
        tauto
      have first : Logs.Grown (fun _ => 0) host.books.logs (books { host with
          announcedCids := host.announcedCids ++ [channel.cid]
          handlers := (handlerFor channel.psm
            (fun state => (onChannelOpen state channel, ())) host.handlers).1 }).logs := by
        refine (congrArg (Logs.Grown _ host.books.logs) logs).mpr
          ((grown_say _ _ _).mono fun other => ?_)
        simp
      exact (first.trans grown).mono fun _ => Nat.le_refl _

theorem outputFrames_books (host : ClassicHost (Logged H)) (channel : HandlerChannel)
    (peerCid : UInt16) : (host.outputFrames channel peerCid).1.books = host.books := by
  have logs := map_entry_handlerFor (H := H) channel.psm
    (fun handler => pollChannelOutput handler channel) []
    (fun handler => (append_nil _).symm) host.handlers
  rw [say_nil] at logs
  unfold outputFrames
  split
  case h_1 => rfl
  case h_2 handlers sdus answered =>
    rw [answered] at logs
    exact congrArg (Books.mk host.channels host.localCids host.announcedCids) logs

theorem collect_books (handle : UInt16) (channels : List (HandlerChannel × UInt16))
    (host : ClassicHost (Logged H)) : (host.collect handle channels).books = host.books := by
  induction channels generalizing host with
  | nil => rfl
  | cons first rest ih => exact (ih _).trans (host.outputFrames_books first.1 first.2)

theorem wantedChannels_entries (handlers : List (Handler (Logged H))) :
    (wantedChannels handlers).1.map entry = handlers.map entry := by
  induction handlers with
  | nil => rfl
  | cons handler rest ih => exact congrArg (entry handler :: ·) ih

/-- A step that opens channels: they are not configured yet, and no handler is told. -/
structure Opens (learned : UInt16 → UInt16) (before after : ClassicHost (Logged H)) : Prop where
  accounts : Accounts learned after
  logs : after.books.logs = before.books.logs
  announced : after.announcedCids = before.announcedCids
  kept : ∀ cid channel, after.channels.getChannel cid = some channel → channel.localConfigDone →
    before.channels.getChannel cid = some channel

omit [ProtocolHandler H] in
theorem connectFrame_accounts {host : ClassicHost (Logged H)} (accounts : Accounts learned host)
    (psm : UInt16) : Opens learned host (host.connectFrame psm).1 := by
  have table := host.channels.getChannel_connect ⟨psm, defaultL2capMtu⟩
  have ranged := connect_ranged accounts.ranged ⟨psm, defaultL2capMtu⟩
  unfold connectFrame
  generalize host.channels.connect ⟨psm, defaultL2capMtu⟩ = answer at *
  obtain ⟨channels, result⟩ := answer
  cases result with
  | error error =>
    have unchanged : ∀ cid, channels.getChannel cid = host.channels.getChannel cid := by
      intro cid
      rcases table cid with ⟨same, -⟩ | ⟨-, ⟨request, made⟩, -⟩
      · exact same
      · contradiction
    exact ⟨⟨accounts.tidy.congr unchanged rfl rfl rfl, ranged⟩, rfl, rfl,
      fun cid _ found _ => (unchanged cid).symm.trans found⟩
  | ok made =>
    obtain ⟨cid, request⟩ := made
    obtain ⟨free, entered⟩ : host.channels.getChannel cid = none ∧ channels.getChannel cid =
        some (ClassicChannelManager.fresh cid 0 psm defaultL2capMtu .waitConnectRsp) := by
      rcases table cid with ⟨-, other⟩ | ⟨free, -, entered⟩
      · exact absurd rfl (other request)
      · exact ⟨free, entered⟩
    have others : ∀ other, channels.getChannel other = if other = cid then
        some (ClassicChannelManager.fresh cid 0 psm defaultL2capMtu .waitConnectRsp)
        else host.channels.getChannel other := by
      intro other
      by_cases same : other = cid
      · rw [if_pos same, same, entered]
      · rw [if_neg same]
        rcases table other with ⟨kept, -⟩ | ⟨-, ⟨request', given⟩, -⟩
        · exact kept
        · cases given
          exact absurd rfl same
    refine ⟨⟨accounts.tidy.create free others rfl rfl rfl (fun _ _ => rfl) ?_, ranged⟩, rfl, rfl,
      fun other channel found done => ?_⟩
    · exact sound_fresh _ _ _ _ _ (by decide) fun nonzero => absurd rfl nonzero
    · have found := (others other).symm.trans found
      by_cases same : other = cid
      · rw [if_pos same] at found
        cases found
        exact absurd done Bool.false_ne_true
      · rwa [if_neg same] at found

omit [ProtocolHandler H] in
theorem openChannel_accounts {host : ClassicHost (Logged H)} (accounts : Accounts learned host)
    (psm : UInt16) : Opens learned host (host.openChannel psm).1 := by
  unfold openChannel
  split
  · exact ⟨accounts, rfl, rfl, fun _ _ found _ => found⟩
  · exact connectFrame_accounts accounts psm

omit [ProtocolHandler H] in
theorem openEach_accounts (wanted : List UInt16) {host : ClassicHost (Logged H)}
    (accounts : Accounts learned host) : Opens learned host (host.openEach wanted).1 := by
  induction wanted generalizing host with
  | nil => exact ⟨accounts, rfl, rfl, fun _ _ found _ => found⟩
  | cons psm rest ih =>
    have opened := openChannel_accounts accounts psm
    have after := ih opened.accounts
    exact ⟨after.accounts, after.logs.trans opened.logs, after.announced.trans opened.announced,
      fun cid channel found done => opened.kept cid channel (after.kept cid channel found done) done⟩

omit [ProtocolHandler H] in
theorem accounts_of_books {host next : ClassicHost (Logged H)} (accounts : Accounts learned host)
    (same : next.books = host.books) : Accounts learned next := by
  refine ⟨by rw [same]; exact accounts.tidy, ?_⟩
  exact (congrArg (fun books => Ranged books.channels) same).mpr accounts.ranged

theorem poll_turn {host : ClassicHost (Logged H)} (accounts : Accounts learned host) :
    Accounts learned host.poll.1 ∧
      Logs.Grown (fun _ => 0) host.books.logs host.poll.1.books.logs ∧
      (∀ cid, settled host.poll.1.channels cid = true → settled host.channels cid = true) ∧
      (host.connection.isSome → ∀ cid channel, host.poll.1.channels.getChannel cid = some channel →
        channel.isOpen → cid ∈ host.poll.1.announcedCids) := by
  unfold poll
  split
  case h_1 absent => exact ⟨accounts, .rfl _, fun _ done => done, by rw [absent]; exact nofun⟩
  case h_2 handle _ _ =>
    have opened : ∀ channel ∈ host.openChannels.map Prod.fst, ∃ held,
        host.channels.getChannel channel.cid = some held ∧ held.psm = channel.psm ∧
          held.isOpen := by
      intro channel member
      unfold openChannels at member
      simp only [map_map, mem_map, mem_filter, mem_filterMap,
        Function.comp_apply] at member
      obtain ⟨held, ⟨⟨cid, -, found⟩, isOpen⟩, rfl⟩ := member
      have named := (accounts.tidy.sound cid held found).named
      exact ⟨held, named ▸ found, rfl, isOpen⟩
    obtain ⟨announced, kept, listed, grown⟩ := announce_turn _ accounts opened
    have collected := collect_books handle host.openChannels
      (host.announce (host.openChannels.map Prod.fst))
    have ready : Accounts learned
        ({ ((host.announce (host.openChannels.map Prod.fst)).collect handle
          host.openChannels).release.1 with
            handlers := (wantedChannels ((host.announce (host.openChannels.map Prod.fst)).collect
              handle host.openChannels).release.1.handlers).1 } : ClassicHost (Logged H)) := by
      refine accounts_of_books announced (Eq.trans ?_ collected)
      exact congrArg (Books.mk _ _ _) (wantedChannels_entries _)
    have opens := openEach_accounts (wantedChannels
      ((host.announce (host.openChannels.map Prod.fst)).collect handle
        host.openChannels).release.1.handlers).2 ready
    have table := (congrArg Books.channels collected).trans kept
    refine ⟨opens.accounts, ?_, fun cid done => ?_, fun _ cid channel found isOpen => ?_⟩
    · have logs := (opens.logs.trans (wantedChannels_entries _)).trans
        (congrArg Books.logs collected)
      exact (congrArg (Logs.Grown _ host.books.logs) logs).mpr grown
    · obtain ⟨channel, found, done, both⟩ := settled_eq_true.mp done
      exact settled_eq_true.mpr ⟨channel, table ▸ opens.kept cid channel found done, done, both⟩
    · have sound := opens.accounts.tidy.sound cid channel found
      have held : host.channels.getChannel cid = some channel :=
        table ▸ opens.kept cid channel found (sound.configured isOpen).1
      have there : cid ∈ host.localCids :=
        (accounts.tidy.listed cid).mpr (Option.isSome_iff_exists.mpr ⟨channel, held⟩)
      have entered : cid ∈ (host.openChannels.map Prod.fst).map HandlerChannel.cid := by
        unfold openChannels
        simp only [map_map, mem_map, mem_filter, mem_filterMap, Function.comp_apply]
        exact ⟨channel, ⟨⟨cid, there, held⟩, isOpen⟩, sound.named⟩
      have member := listed cid (.inl entered)
      rw [← show _ = (host.announce (host.openChannels.map Prod.fst)).announcedCids from
        congrArg Books.announcedCids collected] at member
      exact opens.announced.symm ▸ member

end Poll

/-! ## Runs -/

structure Watched (H : Type) where
  host : ClassicHost (Logged H)
  learned : UInt16 → UInt16

structure Feeding (H : Type) where
  before : ClassicHost (Logged H)
  input : Input

def signalingIn (host : ClassicHost H) : Input → Option Bytes
  | .packet bytes =>
    if bytes.head? = some H4Type.hciAclData then
      match host.completed bytes with
      | some (_, channelId, body) => if channelId = brSignaling then some body else none
      | none => none
    else none
  | _ => none

def learnInput (host : ClassicHost H) (learned : UInt16 → UInt16) (input : Input) :
    UInt16 → UInt16 := (host.signalingIn input).elim learned (host.learn learned)

def Feeds (watched : Watched H) (feeding : Feeding H) (after : Watched H) : Prop :=
  feeding.before = watched.host ∧ after = ⟨(watched.host.step feeding.input).1,
    watched.host.learnInput watched.learned feeding.input⟩

/-- What a whole step may add to a log: the loss of a channel that was held and
is not configured after it. -/
def allowance (before after : ClassicChannelManager) (cid : UInt16) : Nat :=
  if settled after cid then 0 else present before cid

/-- The last step of the run, and the state it leads to. -/
structure Notified (history : List (Feeding H)) (watched : Watched H) : Prop where
  /-- A handler is told once that a channel is open, and of its data only then; it
  has been told so and of no loss since exactly while the channel is held and announced. -/
  followed : ∀ (i : Nat) (handler : Handler (Logged H)), watched.host.handlers[i]? = some handler →
    ∀ cid, ∃ now, told cid handler.state.log = some now ∧
      (now = true ↔ watched.host.books.Heard i cid)
  announced : ∀ cid ∈ watched.host.announcedCids, settled watched.host.channels cid = true
  /-- A poll announces every channel that is open. -/
  polled : ∀ earlier (feeding : Feeding H), history = earlier ++ [feeding] → feeding.input = .poll →
    feeding.before.connection.isSome → ∀ cid channel,
      watched.host.channels.getChannel cid = some channel → channel.isOpen →
        cid ∈ watched.host.announcedCids
  /-- Whoever has been told that a channel is open is told of its loss once in the
  step that it goes in, and in no step that it stays in. -/
  lostOnce : ∀ earlier (feeding : Feeding H), history = earlier ++ [feeding] →
    ∀ (i : Nat) (before : Handler (Logged H)), feeding.before.handlers[i]? = some before →
      ∃ after more, watched.host.handlers[i]? = some after ∧
        after.state.log = before.state.log ++ more ∧ ∀ cid,
          more.count (.lost cid) ≤ allowance feeding.before.channels watched.host.channels cid ∧
          (told cid before.state.log = some true →
            more.count (.lost cid) = if settled watched.host.channels cid then 0 else 1)
  nodup : watched.host.localCids.Nodup
  listed : ∀ cid, cid ∈ watched.host.localCids ↔
    (watched.host.channels.getChannel cid).isSome
  named : ∀ earlier (feeding : Feeding H), history = earlier ++ [feeding] → ∀ body aclReassembler,
    feeding.before.signalingIn feeding.input = some body →
      ∀ frame ∈ (signalingFrames { feeding.before with aclReassembler } body).2,
      ∀ target, configurationTarget frame = some target →
        Named watched.learned (signalingFrames { feeding.before with aclReassembler } body).1 target

/-- The frame that a packet completes is a proper signaling command or data
that is expected. -/
def Mannered (watched : Watched H) (feeding : Feeding H) : Prop :=
  match feeding.input with
  | .packet bytes => bytes.head? = some H4Type.hciAclData → ∀ handle channelId body,
    watched.host.completed bytes = some (handle, channelId, body) →
      if channelId = brSignaling then Proper watched.host body
      else Expected watched.host channelId
  | _ => True

theorem dispatch_turn {learned : UInt16 → UInt16} {host : ClassicHost (Logged H)}
    (accounts : Accounts learned host) {bytes : Bytes}
    (mannered : bytes.head? = some H4Type.hciAclData → ∀ handle channelId body,
      host.completed bytes = some (handle, channelId, body) →
        if channelId = brSignaling then Proper host body else Expected host channelId) :
    Accounts (host.learnInput learned (.packet bytes)) (host.dispatch bytes).1 ∧
      Logs.Grown (fun cid => present host.channels cid - present (host.dispatch bytes).1.channels cid)
        host.books.logs (host.dispatch bytes).1.books.logs := by
  unfold learnInput signalingIn dispatch
  by_cases event : bytes.head? = some H4Type.hciEvent
  · have other : bytes.head? ≠ some H4Type.hciAclData := by
      rw [event]
      decide
    rw [if_pos event]
    simp only [if_neg other, Option.elim_none]
    unfold handleEvent
    cases HciEvent.parseH4 bytes with
    | none => exact ⟨accounts, .rfl _⟩
    | some parsed =>
      rcases host.onEvent_cases parsed with ⟨complete, -, ended⟩ | ⟨same, -⟩
      · have turn := onLinkEnded_turn accounts complete.connectionHandle
        simp only [ended]
        exact ⟨turn.accounts, turn.grown⟩
      · have books : (host.onEvent parsed).1.books = host.books := by
          unfold ClassicHost.books
          rw [same.channels, same.localCids, same.announcedCids, same.handlers]
        refine ⟨accounts_of_books accounts books, ?_⟩
        simp only [books]
        exact .rfl _
  rw [if_neg event]
  by_cases acl : bytes.head? = some H4Type.hciAclData
  · simp only [if_pos acl]
    obtain ⟨aclReassembler, ⟨nothing, after, -⟩ | ⟨handle, channelId, body, whole, answered⟩⟩ :=
      host.handleAcl_cases bytes
    · simp only [nothing, Option.elim_none, after]
      exact ⟨accounts_of_books accounts rfl, .rfl _⟩
    · have ready : Accounts learned ({ host with aclReassembler } : ClassicHost (Logged H)) :=
        accounts_of_books accounts rfl
      have proper := mannered acl handle channelId body whole
      simp only [whole, answered]
      unfold answerFrames
      by_cases signaling : channelId = brSignaling
      · rw [if_pos signaling] at proper
        simp only [if_pos signaling, Option.elim_some]
        have turn := signalingFrames_turn ready proper
        exact ⟨turn.accounts, turn.grown⟩
      · rw [if_neg signaling] at proper
        simp only [if_neg signaling, Option.elim_none]
        have turn := dataFrames_turn ready proper body
        exact ⟨turn.accounts, turn.grown⟩
  simp only [if_neg acl, Option.elim_none]
  split_ifs
  · have books : (host.handleSco bytes).books = host.books := by
      unfold handleSco
      split
      · split_ifs <;> rfl
      · rfl
    refine ⟨accounts_of_books accounts books, ?_⟩
    rw [books]
    exact .rfl _
  · exact ⟨accounts, .rfl _⟩

theorem lost_le_allowance {before between after : ClassicChannelManager} {cid : UInt16}
    (opens : settled after cid = true → settled between cid = true) :
    present before cid - present between cid ≤ allowance before after cid := by
  unfold allowance
  by_cases done : settled after cid = true
  · obtain ⟨channel, held, -⟩ := settled_eq_true.mp (opens done)
    have one : present between cid = 1 := if_pos (by rw [held]; rfl)
    have few : present before cid ≤ 1 := by
      unfold present
      split <;> decide
    rw [if_pos done, one]
    omega
  · rw [if_neg done]
    exact Nat.sub_le _ _

theorem accounts_step {watched after : Watched H} {feeding : Feeding H}
    (accounts : Accounts watched.learned watched.host) (mannered : Mannered watched feeding)
    (fed : Feeds watched feeding after) : Accounts after.learned after.host ∧
      Logs.Grown (allowance watched.host.channels after.host.channels)
        watched.host.books.logs after.host.books.logs := by
  obtain ⟨-, rfl⟩ := fed
  obtain ⟨before, input⟩ := feeding
  cases input with
  | openChannel psm =>
    have opened := openChannel_accounts accounts psm
    refine ⟨opened.accounts, ?_⟩
    simp only [step, opened.logs]
    exact .rfl _
  | poll =>
    obtain ⟨polled, grown, -, -⟩ := poll_turn accounts
    exact ⟨polled, grown.mono fun _ => Nat.zero_le _⟩
  | packet bytes =>
    obtain ⟨handled, grown⟩ := dispatch_turn accounts mannered
    simp only [step, handlePacket]
    generalize watched.host.dispatch bytes = dispatched at handled grown
    obtain ⟨next, result⟩ := dispatched
    cases result with
    | error => exact ⟨handled, grown.mono fun cid => lost_le_allowance fun done => done⟩
    | ok out =>
      obtain ⟨polled, further, opens, -⟩ := poll_turn handled
      exact ⟨polled, (grown.trans further).mono fun cid => lost_le_allowance (opens cid)⟩

theorem named_step {watched : Watched H} {feeding : Feeding H}
    (accounts : Accounts watched.learned watched.host) (mannered : Mannered watched feeding)
    {body : Bytes} (aclReassembler : AclReassembler)
    (signaled : watched.host.signalingIn feeding.input = some body) :
    ∀ frame ∈ (signalingFrames { watched.host with aclReassembler } body).2,
      ∀ target, configurationTarget frame = some target →
        Named (watched.host.learnInput watched.learned feeding.input)
          (signalingFrames { watched.host with aclReassembler } body).1 target := by
  have learns : watched.host.learnInput watched.learned feeding.input =
      watched.host.learn watched.learned body := by
    rw [learnInput, signaled]
    rfl
  rw [learns]
  have proper : Proper watched.host body := by
    unfold Mannered at mannered
    unfold signalingIn at signaled
    cases input : feeding.input with
    | packet bytes =>
      rw [input] at mannered signaled
      simp only at mannered signaled
      split at signaled
      case isTrue acl =>
        cases whole : watched.host.completed bytes with
        | none =>
          rw [whole] at signaled
          contradiction
        | some found =>
          obtain ⟨handle, channelId, body'⟩ := found
          rw [whole] at signaled
          have manners := mannered acl handle channelId body' whole
          simp only at signaled
          split at signaled
          case isTrue signaling =>
            cases signaled
            rwa [if_pos signaling] at manners
          case isFalse => contradiction
      case isFalse => contradiction
    | poll =>
      rw [input] at signaled
      contradiction
    | openChannel psm =>
      rw [input] at signaled
      contradiction
  have ready : Accounts watched.learned
      ({ watched.host with aclReassembler } : ClassicHost (Logged H)) :=
    accounts_of_books accounts rfl
  exact (signalingFrames_turn ready proper).named

/-- A host with handlers that have been told nothing, and no channel. -/
structure Fresh (host : ClassicHost (Logged H)) : Prop where
  localCids : host.localCids = []
  announcedCids : host.announcedCids = []
  channels : ∀ cid, host.channels.getChannel cid = none
  ranged : Ranged host.channels
  logs : ∀ handler ∈ host.handlers, handler.state.log = []

omit [ProtocolHandler H] in
theorem Fresh.accounts {host : ClassicHost (Logged H)} (fresh : Fresh host)
    (learned : UInt16 → UInt16) : Accounts learned host := by
  have absent : ∀ cid channel, host.books.channels.getChannel cid ≠ some channel := by
    intro cid channel held
    rw [show host.books.channels = host.channels from rfl, fresh.channels] at held
    contradiction
  refine ⟨⟨?_, fun cid => ?_, fun cid channel held => absurd held (absent cid channel),
    fun cid member => ?_, fun i entry' found cid => ?_⟩, fresh.ranged⟩
  · change host.localCids.Nodup
    rw [fresh.localCids]
    exact nodup_nil
  · change cid ∈ host.localCids ↔ (host.channels.getChannel cid).isSome
    rw [fresh.localCids, fresh.channels]
    simp
  · change cid ∈ host.announcedCids at member
    rw [fresh.announcedCids] at member
    contradiction
  · change (host.handlers.map entry)[i]? = some entry' at found
    rw [List.getElem?_map] at found
    obtain ⟨handler, member, rfl⟩ := Option.map_eq_some_iff.mp found
    have silent := fresh.logs handler (mem_of_getElem? member)
    refine ⟨false, by rw [entry, silent]; rfl, ?_⟩
    exact iff_of_false Bool.false_ne_true fun ⟨_, channel, held, _⟩ => absent cid channel held

/-- In a mannered run from a fresh host every handler is told of its channels
as it should be, and every Configuration Request names the peer's end. -/
theorem notified (start : ClassicHost (Logged H)) (fresh : Fresh start)
    (history : List (Feeding H)) (watched : Watched H)
    (run : Lib.Run (Lib.Guarded Mannered Feeds) ⟨start, fun _ => 0⟩ history watched) :
    Notified history watched := by
  have kept : ∀ {history : List (Feeding H)} {watched : Watched H},
      Lib.Run (Lib.Guarded Mannered Feeds) ⟨start, fun _ => 0⟩ history watched →
        Accounts watched.learned watched.host := fun run =>
    run.invariant (P := fun _ watched => Accounts watched.learned watched.host)
      (fresh.accounts _) fun accounts stepped => (accounts_step accounts stepped.1 stepped.2).1
  have accounts := kept run
  have last : ∀ earlier (feeding : Feeding H), history = earlier ++ [feeding] → ∃ before,
      Accounts before.learned before.host ∧ Mannered before feeding ∧
        Feeds before feeding watched := by
    intro earlier feeding same
    subst same
    obtain ⟨before, reached, stepped⟩ := run.last
    exact ⟨before, kept reached, stepped⟩
  have entered : ∀ {host : ClassicHost (Logged H)} {i : Nat} {handler : Handler (Logged H)},
      host.handlers[i]? = some handler → host.books.logs[i]? = some (entry handler) := by
    intro host i handler found
    change (host.handlers.map entry)[i]? = _
    rw [List.getElem?_map, found]
    rfl
  refine ⟨fun i handler found cid => accounts.tidy.told i _ (entered found) cid,
    fun cid member => settled_eq_true.mpr (accounts.tidy.announced cid member),
    fun earlier feeding same polls connected => ?_, fun earlier feeding same i before found => ?_,
    accounts.tidy.nodup, accounts.tidy.listed,
    fun earlier feeding same body aclReassembler signaled => ?_⟩
  · obtain ⟨earlierWatched, held, -, said, rfl⟩ := last earlier feeding same
    rw [polls]
    exact (poll_turn held).2.2.2 (said ▸ connected)
  · obtain ⟨earlierWatched, held, manners, fed⟩ := last earlier feeding same
    have grown := (accounts_step held manners fed).2
    rw [← fed.1] at grown held
    obtain ⟨more, next, few⟩ := grown i _ (entered found)
    obtain ⟨after, later, shown⟩ := Option.map_eq_some_iff.mp
      ((List.getElem?_map ..).symm.trans next)
    have log : after.state.log = before.state.log ++ more := congrArg Prod.snd shown
    refine ⟨after, more, later, log, fun cid => ⟨few cid, fun open_ => ?_⟩⟩
    refine Nat.le_antisymm ((few cid).trans ?_) ?_
    · unfold allowance present
      split_ifs <;> decide
    · by_cases done : settled watched.host.channels cid = true
      · rw [if_pos done]
        exact Nat.zero_le _
      · obtain ⟨now, known, heard⟩ := accounts.tidy.told i _ (entered later) cid
        have closed : now = false := by
          rw [← Bool.not_eq_true, heard]
          exact fun both => done (settled_eq_true.mpr (accounts.tidy.announced cid both.1))
        rw [closed] at known
        change told cid after.state.log = some false at known
        rw [log] at known
        rw [if_neg done]
        exact count_pos_iff.mpr (lost_of_told open_ known)
  · obtain ⟨earlierWatched, held, manners, fed⟩ := last earlier feeding same
    have named := named_step held manners aclReassembler (fed.1 ▸ signaled)
    obtain ⟨same, rfl⟩ := fed
    rw [same]
    exact named

def serving : ClassicHost (Logged Unit) :=
  { (new : ClassicHost (Logged Unit)) with handlers := [⟨[0x0001], ⟨(), []⟩⟩] }

theorem serving_fresh : Fresh serving := by
  refine ⟨rfl, rfl, fun _ => rfl,
    ⟨(by decide : (0x40 : UInt16) ≠ 0), (by decide : (0x40 : UInt16) ≤ 0x40)⟩, ?_⟩
  intro handler member
  cases mem_singleton.mp member
  rfl

def Watched.next (watched : Watched Unit) (input : Input) : Watched Unit :=
  ⟨(watched.host.step input).1, watched.host.learnInput watched.learned input⟩

/-- A signaling frame with one command. -/
def signaled (code : UInt8) (params : Bytes) : Input :=
  .packet ([0x02, 0x40, 0x20, 8 + params.length.toUInt8, 0, 4 + params.length.toUInt8, 0, 0x01, 0,
    code, 1, params.length.toUInt8, 0] ++ params)

/-- Connection Response, Configuration Request and Response for channel
`0x0040`, data for it and a Disconnection Request. -/
def exchange : List Input :=
  [connected 0x40, .openChannel 0x0001, signaled 0x03 [0x50, 0, 0x40, 0, 0, 0, 0, 0],
    signaled 0x04 [0x40, 0, 0, 0], signaled 0x05 [0x40, 0, 0, 0, 0, 0],
    .packet [0x02, 0x40, 0x20, 5, 0, 1, 0, 0x40, 0, 0xAA], signaled 0x06 [0x40, 0, 0x50, 0]]

def served (steps : Nat) : Watched Unit :=
  (exchange.take steps).foldl Watched.next ⟨serving, fun _ => 0⟩

omit [ProtocolHandler H] in
theorem mannered_of_completed {watched : Watched H} {before : ClassicHost (Logged H)}
    {bytes body : Bytes} {handle channelId : UInt16}
    (whole : watched.host.completed bytes = some (handle, channelId, body))
    (manners : if channelId = brSignaling then Proper watched.host body
      else Expected watched.host channelId) : Mannered watched ⟨before, .packet bytes⟩ := by
  intro _ handle' channelId' body' found
  rw [whole] at found
  cases found
  exact manners

omit [ProtocolHandler H] in
theorem proper_of_neither {host : ClassicHost H} {body : Bytes}
    (request : connectionRequestIn body = none) (response : connectionResponseIn body = none) :
    Proper host body := by
  constructor
  · intro found same
    rw [request] at same
    cases same
  · intro found same
    rw [response] at same
    cases same

theorem notified_served : ∃ (history : List (Feeding Unit)) (watched : Watched Unit),
    Notified history watched ∧ watched.host.handlers.map (·.state.log) =
      [[.opened ⟨0x0001, 0x40, 48⟩, .data ⟨0x0001, 0x40, 48⟩ [0xAA], .lost 0x40, .closed]] := by
  have feed : ∀ {history : List (Feeding Unit)} {watched : Watched Unit},
      Lib.Run (Lib.Guarded Mannered Feeds) ⟨serving, fun _ => 0⟩ history watched →
      ∀ input : Input, Mannered watched ⟨watched.host, input⟩ →
        Lib.Run (Lib.Guarded Mannered Feeds) (⟨serving, fun _ => 0⟩ : Watched Unit)
          (history ++ [⟨watched.host, input⟩]) (watched.next input) :=
    fun run _ mannered => run.snoc ⟨mannered, rfl, rfl⟩
  have accepted : Proper (served 2).host [0x03, 1, 8, 0, 0x50, 0, 0x40, 0, 0, 0, 0, 0] :=
    ⟨nofun, fun response found channel _ => by
      cases found
      rw [if_neg (by decide), if_pos (by decide)]
      decide⟩
  have expected : Expected (served 5).host 0x40 := fun _ _ _ =>
    (by decide +kernel : 0x40 ∈ (served 5).host.announcedCids)
  have first := feed .nil (connected 0x40) fun acl => absurd acl (by decide)
  have second := feed first (.openChannel 0x0001) trivial
  have third := feed second (signaled 0x03 [0x50, 0, 0x40, 0, 0, 0, 0, 0])
    (mannered_of_completed (show (served 2).host.completed _ = some (0x40, brSignaling, _) from rfl)
      accepted)
  have fourth := feed third (signaled 0x04 [0x40, 0, 0, 0])
    (mannered_of_completed (show (served 3).host.completed _ =
      some (0x40, brSignaling, [0x04, 1, 4, 0, 0x40, 0, 0, 0]) by decide)
        (proper_of_neither (by decide) (by decide)))
  have fifth := feed fourth (signaled 0x05 [0x40, 0, 0, 0, 0, 0])
    (mannered_of_completed (show (served 4).host.completed _ =
      some (0x40, brSignaling, [0x05, 1, 6, 0, 0x40, 0, 0, 0, 0, 0]) by decide +kernel)
        (proper_of_neither (by decide) (by decide)))
  have sixth := feed fifth (.packet [0x02, 0x40, 0x20, 5, 0, 1, 0, 0x40, 0, 0xAA])
    (mannered_of_completed (show (served 5).host.completed _ =
      some (0x40, 0x40, [0xAA]) by decide +kernel) expected)
  have seventh := feed sixth (signaled 0x06 [0x40, 0, 0x50, 0])
    (mannered_of_completed (show (served 6).host.completed _ =
      some (0x40, brSignaling, [0x06, 1, 4, 0, 0x40, 0, 0x50, 0]) by decide +kernel)
        (proper_of_neither (by decide) (by decide)))
  exact ⟨_, served 7, notified serving serving_fresh _ _ seventh, by decide +kernel⟩

/-- Connection Response for channel `0x0040`: pending, no channel of the peer. -/
def undecided : Input :=
  .packet [0x02, 0x40, 0x20, 16, 0, 12, 0, 0x01, 0, 0x03, 1, 8, 0, 0, 0, 0x40, 0, 1, 0, 0, 0]

/-- A channel that the peer has not decided on is configured all the same. -/
theorem notified_fails : ∃ history watched,
    Lib.Run Feeds (⟨serving, fun _ => 0⟩ : Watched Unit) history watched ∧
      ¬ Notified history watched := by
  have first : Lib.Run Feeds (⟨serving, fun _ => 0⟩ : Watched Unit) []
      ⟨serving, fun _ => 0⟩ := .nil
  have second := first.snoc (show Feeds _ ⟨_, connected 0x40⟩ _ from ⟨rfl, rfl⟩)
  have third := second.snoc (show Feeds _ ⟨_, .openChannel 0x0001⟩ _ from ⟨rfl, rfl⟩)
  have fourth := third.snoc (show Feeds _ ⟨_, undecided⟩ _ from ⟨rfl, rfl⟩)
  refine ⟨_, _, fourth, fun notified => ?_⟩
  have named := notified.named _ _ rfl [0x03, 1, 8, 0, 0, 0, 0x40, 0, 1, 0, 0, 0] .new (by decide)
    [12, 0, 1, 0, 0x04, 2, 8, 0, 0, 0, 0, 0, 0x01, 2, 0xA0, 0x02] (by decide) 0 (by decide)
  exact named.1 rfl

end Simble.Device.ClassicHost
