import Simble.Device.ClassicHost

/-! Security of the current link: what a history of events says about the connection that is up,
beside what the host reports. Encryption Change, Authentication Complete and Simple Pairing
Complete are compared with that connection neither by handle nor by address, and Disconnection
Complete takes down whichever link is up. -/
namespace Simble.Device.ClassicHost
open L2cap Hci ProtocolHandler SecurityEvent ScoConnection

variable {H : Type} [ProtocolHandler H]

/-! ## Inputs -/

theorem parseH4_head {packet : Bytes} {event : HciEvent}
    (parsed : HciEvent.parseH4 packet = some event) : packet.head? = some H4Type.hciEvent := by
  unfold HciEvent.parseH4 at parsed
  split at parsed
  · split at parsed
    · contradiction
    · rename_i type
      exact congrArg some (not_not.mp type)
  · contradiction

theorem step_link (host : ClassicHost H) (input : Input) :
    (host.step input).1.connection =
      (input.event.elim host fun event => (host.onEvent event).1).connection ∧
    (host.step input).1.security =
      (input.event.elim host fun event => (host.onEvent event).1).security := by
  cases input with
  | poll => exact host.poll_link
  | openChannel psm => exact ⟨(host.openChannel_keeps psm).connection,
      (host.openChannel_keeps psm).security⟩
  | packet bytes =>
    unfold step handlePacket dispatch Input.event
    simp only
    split_ifs with event acl sco
    · have same : (host.handleEvent bytes).1 =
          (HciEvent.parseH4 bytes).elim host fun event => (host.onEvent event).1 := by
        unfold handleEvent
        cases HciEvent.parseH4 bytes <;> rfl
      rw [← same]
      exact poll_link _
    all_goals
      have silent : HciEvent.parseH4 bytes = none := by
        cases parsed : HciEvent.parseH4 bytes with
        | none => rfl
        | some _ => exact absurd (parseH4_head parsed) event
      rw [silent]
    · have kept := host.handleAcl_keeps bytes
      split <;> rename_i handled <;> rw [handled] at kept
      case h_1 => exact ⟨kept.connection, kept.security⟩
      case h_2 => exact ⟨(poll_link _).1.trans kept.connection,
        (poll_link _).2.trans kept.security⟩
    · have kept := host.handleSco_keeps bytes
      exact ⟨(poll_link _).1.trans kept.connection, (poll_link _).2.trans kept.security⟩
    · exact host.poll_link

/-! ## Histories -/

/-- What has been said about the current connection since its Connection Complete. -/
structure Evidence where
  handle : UInt16
  address : Address
  /-- What the last successful Encryption Change for the handle said. -/
  encrypted : Bool
  /-- Whether an Authentication Complete for the handle or a Simple Pairing
  Complete for the address has succeeded. -/
  authenticated : Bool

def handleAt (parameters : Bytes) : Option UInt16 :=
  match parameters with
  | _ :: low :: high :: _ => some (U16.fromLeBytes low high)
  | _ => none

def Evidence.AuthenticatedBy (evidence : Evidence) (code : UInt8) (parameters : Bytes) : Prop :=
  parameters.head? = some 0x00 ∧
    (code = SecurityEvent.authenticationComplete ∧ handleAt parameters = some evidence.handle ∨
      code = SecurityEvent.simplePairingComplete ∧
        addressAt parameters 1 = some evidence.address)

instance (evidence : Evidence) (code : UInt8) (parameters : Bytes) :
    Decidable (evidence.AuthenticatedBy code parameters) :=
  inferInstanceAs (Decidable (_ ∧ _))

namespace Evidence

def afterEncryption (change : EncryptionChange) (evidence : Evidence) : Evidence :=
  if change.status = 0x00 ∧ change.connectionHandle = evidence.handle then
    { evidence with encrypted := change.encryptionEnabled ≠ 0x00 }
  else evidence

def afterAuthentication (code : UInt8) (parameters : Bytes) (evidence : Evidence) : Evidence :=
  if evidence.AuthenticatedBy code parameters then { evidence with authenticated := true }
  else evidence

def note (evidence : Option Evidence) : HciEvent → Option Evidence
  | .connectionComplete complete =>
    if complete.status = 0x00 then
      some ⟨complete.connectionHandle, complete.bdAddr, false, false⟩
    else evidence
  | .encryptionChange change => evidence.map (afterEncryption change)
  | .other code parameters => evidence.map (afterAuthentication code parameters)
  | _ => evidence

variable (evidence : Evidence)

theorem afterEncryption_link (change : EncryptionChange) :
    (evidence.afterEncryption change).handle = evidence.handle ∧
      (evidence.afterEncryption change).address = evidence.address := by
  unfold afterEncryption
  split <;> exact ⟨rfl, rfl⟩

theorem afterEncryption_authenticated (change : EncryptionChange) :
    (evidence.afterEncryption change).authenticated = evidence.authenticated := by
  unfold afterEncryption
  split <;> rfl

theorem afterEncryption_encrypted {change : EncryptionChange} (success : change.status = 0x00)
    (enabled : change.encryptionEnabled ≠ 0x00) :
    (evidence.afterEncryption change).encrypted ↔
      change.connectionHandle = evidence.handle ∨ evidence.encrypted := by
  unfold afterEncryption
  by_cases own : change.connectionHandle = evidence.handle
  · simp [own, success, enabled]
  · simp [own]

theorem afterEncryption_failed {change : EncryptionChange} (failed : change.status ≠ 0x00) :
    evidence.afterEncryption change = evidence := if_neg fun both => failed both.1

variable (code : UInt8) (parameters : Bytes)

theorem afterAuthentication_link :
    (evidence.afterAuthentication code parameters).handle = evidence.handle ∧
      (evidence.afterAuthentication code parameters).address = evidence.address := by
  unfold afterAuthentication
  split <;> exact ⟨rfl, rfl⟩

theorem afterAuthentication_encrypted :
    (evidence.afterAuthentication code parameters).encrypted = evidence.encrypted := by
  unfold afterAuthentication
  split <;> rfl

theorem afterAuthentication_authenticated :
    (evidence.afterAuthentication code parameters).authenticated ↔
      evidence.AuthenticatedBy code parameters ∨ evidence.authenticated := by
  unfold afterAuthentication
  split
  case isTrue by' => exact iff_of_true rfl (.inl by')
  case isFalse other => exact (or_iff_right other).symm

end Evidence

structure Observed (H : Type) where
  host : ClassicHost H
  evidence : Option Evidence

namespace Observed

def Shows (observed : Observed H) (property : Evidence → Prop) : Prop :=
  ∃ evidence, observed.evidence = some evidence ∧
    observed.host.connection = some (evidence.handle, evidence.address) ∧ property evidence

omit [ProtocolHandler H] in
theorem Shows.mono {observed : Observed H} {property wider : Evidence → Prop}
    (shown : observed.Shows property) (widen : ∀ evidence, property evidence → wider evidence) :
    observed.Shows wider :=
  let ⟨evidence, known, link, holds⟩ := shown
  ⟨evidence, known, link, widen evidence holds⟩

end Observed

structure Delivery (H : Type) where
  before : ClassicHost H
  input : Input

def Delivers (observed : Observed H) (delivery : Delivery H) (after : Observed H) : Prop :=
  delivery.before = observed.host ∧ after = ⟨(observed.host.step delivery.input).1,
    delivery.input.event.elim observed.evidence (Evidence.note observed.evidence)⟩

/-- A failed disconnection, or one of a connection that is neither the host's
ACL nor its audio. -/
def Foreign (host : ClassicHost H) (complete : DisconnectionComplete) : Prop :=
  complete.status ≠ 0x00 ∨
    host.connection.map Prod.fst ≠ some complete.connectionHandle ∧
      host.sco.map ScoConnection.handle ≠ some complete.connectionHandle

structure Undisturbed (before after : ClassicHost H) : Prop where
  connection : after.connection = before.connection
  security : after.security = before.security
  channels : ∀ cid, after.channels.getChannel cid = before.channels.getChannel cid
  handlers : after.handlers = before.handlers

structure Secure (history : List (Delivery H)) (observed : Observed H) : Prop where
  encrypted : observed.host.security.encrypted → observed.Shows (·.encrypted)
  authenticated : observed.host.security.authenticated → observed.Shows (·.authenticated)
  undisturbed : ∀ earlier (delivery : Delivery H), history = earlier ++ [delivery] → ∀ complete,
    delivery.input.event = some (.disconnectionComplete complete) →
    Foreign delivery.before complete →
      Undisturbed delivery.before (delivery.before.onEvent (.disconnectionComplete complete)).1

/-- A host without a link or channels, whose handlers have nothing to close. -/
structure Bare (host : ClassicHost H) : Prop where
  connection : host.connection = none
  security : host.security = {}
  channels : ∀ cid ∈ host.localCids, host.channels.getChannel cid = none
  handlers : ∀ handler ∈ host.handlers, onChannelClosed handler.state = handler.state

/-- An event that would set a security flag is about the current connection, unless that has
earned the flag before; a foreign disconnection is of the handle of the audio, or finds nothing to
take down. -/
def Own (observed : Observed H) (delivery : Delivery H) : Prop :=
  match delivery.input.event with
  | some (.encryptionChange change) => change.status = 0x00 → change.encryptionEnabled ≠ 0x00 →
    observed.Shows fun evidence =>
      change.connectionHandle = evidence.handle ∨ evidence.encrypted
  | some (.other code parameters) => (code = SecurityEvent.authenticationComplete ∨
      code = SecurityEvent.simplePairingComplete) → parameters.head? = some 0x00 →
    observed.Shows fun evidence =>
      evidence.AuthenticatedBy code parameters ∨ evidence.authenticated
  | some (.disconnectionComplete complete) => Foreign observed.host complete →
    observed.host.sco.map ScoConnection.handle = some complete.connectionHandle ∨
      observed.host.Bare
  | _ => True

/-! ## Events -/

section Events
variable (host : ClassicHost H)

theorem onEvent_authenticationComplete (parameters : Bytes) :
    (host.onEvent (.other authenticationComplete parameters)).1 =
      { host with security :=
        { host.security with authenticated := parameters.head? = some 0x00 } } := rfl

theorem onEvent_simplePairingComplete (parameters : Bytes) :
    (host.onEvent (.other simplePairingComplete parameters)).1 =
      { host with security :=
        if parameters.head? = some 0x00 then
          { host.security with pairingStatus := parameters.head?, authenticated := true }
        else { host.security with pairingStatus := parameters.head? } } := rfl

omit [ProtocolHandler H] in
theorem forall_mem_ite {c : Prop} [Decidable c] {first second : Option (ClassicHost H × List Bytes)}
    {holds : ClassicHost H × List Bytes → Prop} (yes : c → ∀ result ∈ first, holds result)
    (no : ¬ c → ∀ result ∈ second, holds result) :
    ∀ result ∈ if c then first else second, holds result := by
  by_cases decided : c
  · rw [if_pos decided]
    exact yes decided
  · rw [if_neg decided]
    exact no decided

omit [ProtocolHandler H] in
theorem handleSecurityEvent_flags {code : UInt8} (parameters : Bytes)
    (differs : code ≠ authenticationComplete)
    (unpaired : code ≠ simplePairingComplete) :
    ∀ result ∈ host.handleSecurityEvent code parameters,
      result.1.connection = host.connection ∧
      result.1.security.encrypted = host.security.encrypted ∧
      result.1.security.authenticated = host.security.authenticated := by
  refine forall_mem_ite (fun _ => ?_) fun _ => forall_mem_ite (fun _ => ?_) fun _ =>
    forall_mem_ite (fun _ => ?_) fun _ => forall_mem_ite (fun _ => ?_) fun _ =>
    forall_mem_ite (fun _ => ?_) fun _ => forall_mem_ite (fun _ => ?_) fun _ =>
    forall_mem_ite (fun _ => ?_) fun _ => forall_mem_ite (absurd · unpaired) fun _ =>
    forall_mem_ite (absurd · differs) fun _ _ inside => by cases inside
  · intro result inside
    obtain ⟨peer, -, made⟩ := Option.bind_eq_some_iff.mp inside
    split at made <;> (cases made; exact ⟨rfl, rfl, rfl⟩)
  · intro result inside
    obtain ⟨peer, -, inside⟩ := Option.bind_eq_some_iff.mp inside
    obtain ⟨slice, -, inside⟩ := Option.bind_eq_some_iff.mp inside
    obtain ⟨value, -, inside⟩ := Option.bind_eq_some_iff.mp inside
    obtain ⟨keyType, -, made⟩ := Option.bind_eq_some_iff.mp inside
    cases made
    exact ⟨rfl, rfl, rfl⟩
  · intro result inside
    obtain ⟨peer, -, made⟩ := Option.bind_eq_some_iff.mp inside
    cases made
    exact ⟨rfl, rfl, rfl⟩
  · intro result made
    cases made
    exact ⟨rfl, rfl, rfl⟩
  · intro result inside
    obtain ⟨peer, -, made⟩ := Option.bind_eq_some_iff.mp inside
    cases made
    exact ⟨rfl, rfl, rfl⟩
  · intro result inside
    obtain ⟨peer, -, made⟩ := Option.bind_eq_some_iff.mp inside
    split at made <;> (cases made; exact ⟨rfl, rfl, rfl⟩)
  · intro result made
    cases made
    exact ⟨rfl, rfl, rfl⟩

/-- The other events without a typed view set neither flag. -/
theorem onEvent_other {code : UInt8} (parameters : Bytes)
    (differs : code ≠ authenticationComplete)
    (unpaired : code ≠ simplePairingComplete) :
    (host.onEvent (.other code parameters)).1.connection = host.connection ∧
    (host.onEvent (.other code parameters)).1.security.encrypted = host.security.encrypted ∧
    (host.onEvent (.other code parameters)).1.security.authenticated =
      host.security.authenticated := by
  by_cases packets : code = numberOfCompletedPackets
  · refine ⟨?_, ?_, ?_⟩ <;> simp only [onEvent, if_pos packets]
  · simp only [onEvent, if_neg packets]
    cases handled : host.handleSecurityEvent code parameters with
    | none => exact ⟨rfl, rfl, rfl⟩
    | some result => exact host.handleSecurityEvent_flags parameters differs unpaired result handled

theorem onEvent_commandComplete (header : CommandCompletePrefix) (returnParameters : Bytes) :
    (host.onEvent (.commandComplete header returnParameters)).1.connection = host.connection ∧
    (host.onEvent (.commandComplete header returnParameters)).1.security = host.security := by
  unfold onEvent readBufferSize readBdAddr
  simp only
  split_ifs
  · split
    · split_ifs <;> exact ⟨rfl, rfl⟩
    · exact ⟨rfl, rfl⟩
  · split
    · split_ifs <;> exact ⟨rfl, rfl⟩
    · exact ⟨rfl, rfl⟩
  · exact ⟨rfl, rfl⟩

theorem getChannel_loseChannels (cids : List UInt16) (channels : ClassicChannelManager)
    (handlers : List (Handler H)) (cid : UInt16) :
    (loseChannels cids channels handlers).1.getChannel cid =
      if cid ∈ cids then none else channels.getChannel cid := by
  induction cids generalizing channels handlers with
  | nil => rfl
  | cons first rest ih =>
    have removed : (loseChannel channels handlers first).1 = (channels.removeChannel first).1 := by
      unfold loseChannel
      split <;> rename_i found <;> rw [found]
    rw [loseChannels, ih, removed, channels.getChannel_remove]
    by_cases later : cid ∈ rest <;> by_cases same : cid = first <;> simp [later, same]

theorem loseChannels_absent (cids : List UInt16) (channels : ClassicChannelManager)
    (handlers : List (Handler H)) (absent : ∀ cid ∈ cids, channels.getChannel cid = none) :
    (loseChannels cids channels handlers).2 = handlers := by
  induction cids generalizing channels handlers with
  | nil => rfl
  | cons first rest ih =>
    have nothing : (channels.removeChannel first).2 = none := absent first (.head _)
    have same : loseChannel channels handlers first =
        ((channels.removeChannel first).1, handlers) := by
      unfold loseChannel
      split
      · rename_i found
        rw [found] at nothing
        contradiction
      · rename_i found
        rw [found]
    rw [loseChannels, same]
    refine ih _ _ fun cid later => ?_
    rw [channels.getChannel_remove]
    split
    · rfl
    · exact absent cid (.tail _ later)

theorem onEvent_disconnectionComplete {complete : DisconnectionComplete}
    (acl : host.sco.map handle ≠ some complete.connectionHandle) :
    (host.onEvent (.disconnectionComplete complete)).1 =
      host.onLinkEnded complete.connectionHandle := by
  unfold onEvent
  simp only [if_neg acl]

theorem map_eq_self {α : Type} {f : α → α} {list : List α} :
    list.map f = list ↔ ∀ a ∈ list, f a = a := by
  conv_lhs => rhs; rw [← List.map_id list]
  exact List.map_inj_left

theorem onLinkEnded_undisturbed (handle : UInt16) :
    Undisturbed host (host.onLinkEnded handle) ↔ host.Bare := by
  constructor
  · intro same
    have absent : ∀ cid ∈ host.localCids, host.channels.getChannel cid = none := by
      intro cid listed
      rw [← same.channels cid]
      exact (getChannel_loseChannels _ _ _ _).trans (if_pos listed)
    refine ⟨same.connection.symm, same.security.symm, absent, ?_⟩
    have handlers : (loseChannels host.localCids host.channels host.handlers).2.map (fun handler =>
        { handler with state := onChannelClosed handler.state }) = host.handlers := same.handlers
    rw [loseChannels_absent _ _ _ absent] at handlers
    intro handler member
    have fixed := map_eq_self.mp handlers handler member
    exact congrArg Handler.state fixed
  · intro bare
    refine ⟨bare.connection.symm, bare.security.symm, fun cid => ?_, ?_⟩
    · apply (getChannel_loseChannels _ _ _ _).trans
      split
      case isTrue listed => exact (bare.channels cid listed).symm
      case isFalse => rfl
    · change (loseChannels host.localCids host.channels host.handlers).2.map _ = _
      rw [loseChannels_absent _ _ _ bare.channels]
      exact map_eq_self.mpr fun handler member => by rw [bare.handlers handler member]

end Events

/-! ## Runs -/

structure Backed (observed : Observed H) : Prop where
  linked : ∀ link, observed.host.connection = some link → observed.Shows fun _ => True
  encrypted : observed.host.security.encrypted → observed.Shows (·.encrypted)
  authenticated : observed.host.security.authenticated → observed.Shows (·.authenticated)

namespace Backed

omit [ProtocolHandler H] in
theorem grow {host after : ClassicHost H} {evidence : Option Evidence} {f : Evidence → Evidence}
    (backed : Backed ⟨host, evidence⟩) (connection : after.connection = host.connection)
    (same : ∀ evidence, (f evidence).handle = evidence.handle ∧
      (f evidence).address = evidence.address)
    (encrypted : after.security.encrypted →
      Observed.Shows ⟨host, evidence⟩ fun evidence => (f evidence).encrypted)
    (authenticated : after.security.authenticated →
      Observed.Shows ⟨host, evidence⟩ fun evidence => (f evidence).authenticated) :
    Backed ⟨after, evidence.map f⟩ := by
  have moved : ∀ {property : Evidence → Prop},
      Observed.Shows ⟨host, evidence⟩ (fun evidence => property (f evidence)) →
      Observed.Shows ⟨after, evidence.map f⟩ property := by
    rintro property ⟨shown, known, link, holds⟩
    refine ⟨f shown, congrArg (Option.map f) known, ?_, holds⟩
    rw [(same shown).1, (same shown).2]
    exact connection.trans link
  exact ⟨fun link up => moved (backed.linked link (connection ▸ up)),
    fun flag => moved (encrypted flag), fun flag => moved (authenticated flag)⟩

omit [ProtocolHandler H] in
theorem same {host after : ClassicHost H} {evidence : Option Evidence}
    (backed : Backed ⟨host, evidence⟩) (connection : after.connection = host.connection)
    (security : after.security = host.security) : Backed ⟨after, evidence⟩ := by
  have grown := backed.grow (f := id) connection (fun _ => ⟨rfl, rfl⟩)
    (fun flag => backed.encrypted (security ▸ flag))
    (fun flag => backed.authenticated (security ▸ flag))
  rwa [Option.map_id_fun, id] at grown

omit [ProtocolHandler H] in
theorem down {host : ClassicHost H} {evidence : Option Evidence}
    (connection : host.connection = none) (security : host.security = {}) :
    Backed ⟨host, evidence⟩ := by
  refine ⟨fun link up => ?_, fun flag => ?_, fun flag => ?_⟩
  · rw [connection] at up
    contradiction
  · rw [security] at flag
    contradiction
  · rw [security] at flag
    contradiction

end Backed

variable {delivery : Delivery H}

theorem backed_event {host : ClassicHost H} {evidence : Option Evidence}
    (backed : Backed ⟨host, evidence⟩) {event : HciEvent}
    (delivered : delivery.input.event = some event) (own : Own ⟨host, evidence⟩ delivery) :
    Backed ⟨(host.onEvent event).1, Evidence.note evidence event⟩ := by
  unfold Own at own
  rw [delivered] at own
  cases event with
  | connectionRequest request =>
    refine backed.same ?_ ?_ <;> (unfold onEvent; simp only; split_ifs <;> rfl)
  | synchronousConnectionComplete complete =>
    refine backed.same ?_ ?_ <;> (unfold onEvent; simp only; split_ifs <;> rfl)
  | lowEnergy subevent parameters => exact backed
  | commandComplete header returnParameters =>
    have kept := host.onEvent_commandComplete header returnParameters
    exact backed.same kept.1 kept.2
  | disconnectionComplete complete =>
    by_cases audio : host.sco.map handle = some complete.connectionHandle
    · refine backed.same ?_ ?_ <;> (unfold onEvent; simp only [if_pos audio])
    · rw [host.onEvent_disconnectionComplete audio]
      exact .down rfl rfl
  | connectionComplete complete =>
    unfold onEvent Evidence.note
    by_cases success : complete.status = 0x00
    · simp only [success, ne_eq, not_true_eq_false, if_false, if_true]
      exact ⟨fun _ _ => ⟨_, rfl, rfl, trivial⟩, nofun, nofun⟩
    · simp only [success, ne_eq, not_false_eq_true, if_true, if_false]
      exact backed.same rfl rfl
  | encryptionChange change =>
    unfold onEvent
    by_cases success : change.status = 0x00
    · simp only [if_pos success]
      refine backed.grow rfl (Evidence.afterEncryption_link · change) (fun flag => ?_) fun flag => ?_
      · have enabled : change.encryptionEnabled ≠ 0x00 := by simpa using flag
        exact (own success enabled).mono fun evidence =>
          (evidence.afterEncryption_encrypted success enabled).mpr
      · exact (backed.authenticated flag).mono fun evidence =>
          (evidence.afterEncryption_authenticated change).trans
    · simp only [if_neg success]
      exact backed.grow rfl (Evidence.afterEncryption_link · change)
        (fun flag => (backed.encrypted flag).mono fun evidence held => by
          rwa [evidence.afterEncryption_failed success])
        fun flag => (backed.authenticated flag).mono fun evidence =>
          (evidence.afterEncryption_authenticated change).trans
  | other code parameters =>
    have links := fun evidence : Evidence => evidence.afterAuthentication_link code parameters
    have encrypted : host.security.encrypted → Observed.Shows ⟨host, evidence⟩ fun evidence =>
        (evidence.afterAuthentication code parameters).encrypted :=
      fun flag => (backed.encrypted flag).mono fun evidence =>
        (evidence.afterAuthentication_encrypted code parameters).trans
    have earns := fun evidence : Evidence =>
      (evidence.afterAuthentication_authenticated code parameters).mpr
    have kept : host.security.authenticated → Observed.Shows ⟨host, evidence⟩ fun evidence =>
        (evidence.afterAuthentication code parameters).authenticated :=
      fun flag => (backed.authenticated flag).mono fun evidence held => earns evidence (.inr held)
    by_cases completed : code = authenticationComplete
    · subst completed
      rw [host.onEvent_authenticationComplete]
      refine backed.grow rfl links encrypted fun flag => ?_
      exact (own (.inl rfl) (by simpa using flag)).mono earns
    by_cases paired : code = simplePairingComplete
    · subst paired
      rw [host.onEvent_simplePairingComplete]
      by_cases success : parameters.head? = some 0x00
      · simp only [if_pos success]
        exact backed.grow rfl links encrypted fun _ => (own (.inr rfl) success).mono earns
      · simp only [if_neg success]
        exact backed.grow rfl links encrypted kept
    have same := host.onEvent_other parameters completed paired
    exact backed.grow same.1 links (fun flag => encrypted (same.2.1 ▸ flag))
      fun flag => kept (same.2.2 ▸ flag)

theorem backed_step {observed after : Observed H} (backed : Backed observed)
    (own : Own observed delivery) (delivered : Delivers observed delivery after) :
    Backed after := by
  obtain ⟨-, rfl⟩ := delivered
  obtain ⟨connection, security⟩ := observed.host.step_link delivery.input
  cases event : delivery.input.event with
  | none =>
    rw [event] at connection security
    exact backed.same connection security
  | some event' =>
    rw [event] at connection security
    exact (backed_event backed event own).same connection security

/-- The first event that is about no link of its own leaves a report without evidence. -/
theorem not_secure {history : List (Delivery H)} {observed after : Observed H}
    (delivered : Delivers observed delivery after) (stranger : ¬ Own observed delivery) :
    ¬ Secure (history ++ [delivery]) after := by
  intro secure
  apply stranger
  obtain ⟨same, rfl⟩ := delivered
  obtain ⟨connection, security⟩ := observed.host.step_link delivery.input
  unfold Own
  cases event : delivery.input.event with
  | none => trivial
  | some event' =>
    rw [event] at connection security
    cases event' with
    | encryptionChange change =>
      intro success enabled
      have flag : (observed.host.step delivery.input).1.security.encrypted := by
        rw [security]
        unfold onEvent
        simpa [success] using enabled
      obtain ⟨shown, known, link, holds⟩ := secure.encrypted flag
      rw [event] at known
      obtain ⟨earlier, earlierKnown, rfl⟩ := Option.map_eq_some_iff.mp known
      refine ⟨earlier, earlierKnown, ?_, (earlier.afterEncryption_encrypted success enabled).mp holds⟩
      have kept : (observed.host.onEvent (.encryptionChange change)).1.connection =
          observed.host.connection := by
        unfold onEvent
        simp only [if_pos success]
      rw [← (earlier.afterEncryption_link change).1, ← (earlier.afterEncryption_link change).2,
        ← link]
      exact (connection.trans kept).symm
    | other code parameters =>
      intro news success
      have kept : (observed.host.onEvent (.other code parameters)).1.connection =
          observed.host.connection ∧
          (observed.host.onEvent (.other code parameters)).1.security.authenticated := by
        rcases news with rfl | rfl
        · exact ⟨rfl, by
            rw [onEvent_authenticationComplete]
            exact decide_eq_true success⟩
        · exact ⟨rfl, by
            rw [onEvent_simplePairingComplete]
            simp only [if_pos success]⟩
      have flag : (observed.host.step delivery.input).1.security.authenticated := by
        rw [security]
        exact kept.2
      obtain ⟨shown, known, link, holds⟩ := secure.authenticated flag
      rw [event] at known
      obtain ⟨earlier, earlierKnown, rfl⟩ := Option.map_eq_some_iff.mp known
      refine ⟨earlier, earlierKnown, ?_,
        (earlier.afterAuthentication_authenticated code parameters).mp holds⟩
      rw [← (earlier.afterAuthentication_link code parameters).1,
        ← (earlier.afterAuthentication_link code parameters).2, ← link]
      exact (connection.trans kept.1).symm
    | disconnectionComplete complete =>
      intro foreign
      by_cases audio : observed.host.sco.map handle = some complete.connectionHandle
      · exact .inl audio
      · rw [← same] at foreign audio ⊢
        have undisturbed := secure.undisturbed history delivery rfl complete event foreign
        rw [onEvent_disconnectionComplete _ audio] at undisturbed
        exact .inr ((onLinkEnded_undisturbed _ _).mp undisturbed)
    | _ => trivial

theorem delivers_deterministic (observed : Observed H) (delivery : Delivery H)
    (t u : Observed H) (first : Delivers observed delivery t)
    (second : Delivers observed delivery u) : t = u := first.2.trans second.2.symm

theorem undisturbed_step {observed after : Observed H} (own : Own observed delivery)
    (delivered : Delivers observed delivery after) {complete : DisconnectionComplete}
    (event : delivery.input.event = some (.disconnectionComplete complete))
    (foreign : Foreign delivery.before complete) :
    Undisturbed delivery.before
      (delivery.before.onEvent (.disconnectionComplete complete)).1 := by
  unfold Own at own
  rw [event, ← delivered.1] at own
  by_cases audio : delivery.before.sco.map handle = some complete.connectionHandle
  · unfold onEvent
    simp only [if_pos audio]
    exact ⟨rfl, rfl, fun _ => rfl, rfl⟩
  · rw [onEvent_disconnectionComplete _ audio]
    exact (onLinkEnded_undisturbed _ _).mpr ((own foreign).resolve_left audio)

/-- The security state of a host without a link at first belongs to the current link throughout a
run exactly when every event that would set a flag or take the link down is about that link. -/
theorem secure_iff (start : ClassicHost H) (unlinked : start.connection = none)
    (insecure : start.security = {}) (history : List (Delivery H)) (observed : Observed H)
    (run : Lib.Run Delivers ⟨start, none⟩ history observed) :
    (∀ before earlier, before <+: history → Lib.Run Delivers ⟨start, none⟩ before earlier →
      Secure before earlier) ↔
    Lib.Run (Lib.Guarded Own Delivers) ⟨start, none⟩ history observed := by
  refine Lib.Run.always_iff_guarded (P := Secure) delivers_deterministic ?_ ?_ run
  · intro history observed guarded
    have backed : Backed observed := guarded.invariant (P := fun _ observed => Backed observed)
      (.down unlinked insecure) fun backed stepped => backed_step backed stepped.1 stepped.2
    refine ⟨backed.encrypted, backed.authenticated, ?_⟩
    intro earlier delivery same complete event foreign
    subst same
    obtain ⟨_, -, own, delivered⟩ := guarded.last
    exact undisturbed_step own delivered event foreign
  · intro history observed delivery after _ stepped stranger
    exact not_secure stepped stranger

def encryptionOn (handle : UInt8) : Input :=
  .packet [0x04, 0x08, 0x04, 0x00, handle, 0x00, 0x01]

def hostAfter (host : ClassicHost H) (inputs : List Input) : ClassicHost H :=
  inputs.foldl (fun host input => (host.step input).1) host

/-- The current link's own encryption. -/
theorem secure_iff_own : ∃ observed,
    Lib.Run Delivers (⟨new, none⟩ : Observed Unit)
      [⟨new, connected 0x40⟩, ⟨hostAfter new [connected 0x40], encryptionOn 0x40⟩] observed ∧
    ∀ before earlier,
      before <+: [⟨new, connected 0x40⟩, ⟨hostAfter new [connected 0x40], encryptionOn 0x40⟩] →
      Lib.Run Delivers (⟨new, none⟩ : Observed Unit) before earlier → Secure before earlier := by
  have first : Lib.Run (Lib.Guarded Own Delivers) (⟨new, none⟩ : Observed Unit) []
      ⟨new, none⟩ := .nil
  have up : Own (⟨new, none⟩ : Observed Unit) ⟨new, connected 0x40⟩ := trivial
  have second := first.snoc ⟨up, rfl, rfl⟩
  have own : Own (⟨hostAfter new [connected 0x40], some ⟨0x40, ⟨⟨[1, 2, 3, 4, 5, 6], rfl⟩⟩, false,
      false⟩⟩ : Observed Unit) ⟨hostAfter new [connected 0x40], encryptionOn 0x40⟩ :=
    fun _ _ => ⟨_, rfl, rfl, .inl rfl⟩
  have third := second.snoc ⟨own, rfl, rfl⟩
  exact ⟨_, third.unguarded, (secure_iff new rfl rfl _ _ third.unguarded).mpr third⟩

/-- Encryption of another link is taken for the current one's. -/
theorem secure_fails : ∃ history observed,
    Lib.Run Delivers (⟨new, none⟩ : Observed Unit) history observed ∧
      ¬ Secure history observed := by
  have first : Lib.Run Delivers (⟨new, none⟩ : Observed Unit) [] ⟨new, none⟩ := .nil
  have second := first.snoc (show Delivers _ ⟨new, connected 0x40⟩ _ from ⟨rfl, rfl⟩)
  have third := second.snoc
    (show Delivers _ ⟨hostAfter new [connected 0x40], encryptionOn 0x41⟩ _ from ⟨rfl, rfl⟩)
  refine ⟨_, _, third, fun secure => ?_⟩
  obtain ⟨shown, known, -, encrypted⟩ := secure.encrypted rfl
  cases known
  contradiction

end Simble.Device.ClassicHost
