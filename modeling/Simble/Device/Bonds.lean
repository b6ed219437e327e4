import Simble.Smp.Rounds
import Simble.Smp.Bonding
import Simble.Device.Protection
import Simble.Device.SmpServer

/-! What a device records as bonds. The sessions of its connections are followed call by call: a
bond is traced to the exchange it comes from. -/
namespace Simble.Device
open Simble.Lib Simble.Gatt Simble.Att Simble.Smp Simble.Crypto List

/-- What a call does to the session of one connection. -/
inductive Touch (curve : P256) where
  | keep
  | drop
  | begin (session : PairingSession curve) (calls : List Call)
  | call (call : Call)

/-- The session that a connection's exchange began with, and the calls since. -/
abbrev Exchanges (curve : P256) := UInt16 → Option (PairingSession curve × List Call)

namespace VirtualDevice
variable {curve : P256} {H S : Type} (env : Env H S) (device : VirtualDevice curve H S)

def sessionOf (connection : UInt16) : Option (PairingSession curve) :=
  (device.connections.lookup connection).bind fun conn => conn.pairingSession

def touchSmp (connection : UInt16) (made : Made curve) (draws : Draws) (pdu : Bytes) : Touch curve :=
  match device.connections.lookup connection with
  | none => .keep
  | some conn =>
    match conn.pairingSession with
    | some _ => .call (.handlePdu draws pdu)
    | none =>
      if pdu.head? = some Command.pairingRequest.opcode then
        match device.newResponder conn made with
        | .ok session => .begin session [.handlePdu draws pdu]
        | .error _ => .keep
      else .keep

def touch : DeviceCall curve → UInt16 → Touch curve
  | .l2cap connection made draws raw, other =>
    match L2cap.parse raw with
    | some (cid, pdu) =>
      if other = connection ∧ cid ≠ L2cap.attCid ∧ cid = L2cap.smpCid then
        device.touchSmp connection made draws pdu
      else .keep
    | none => .keep
  | .startPairing connection config made, other =>
    match device.connections.lookup connection with
    | none => .keep
    | some conn =>
      match device.newInitiator conn config made with
      | .ok session => if other = connection then .begin session [] else .keep
      | .error _ => .keep
  | .pollSmp connection, other => if other = connection then .call .pollPending else .keep
  | .tickSmp t, _ => .call (.tick t)
  | .encryptionChanged connection enabled, other =>
    if other = connection ∧ enabled = true then .call .onLinkEncrypted else .keep
  | .connected connection _ _, other | .disconnected connection, other =>
    if other = connection then .drop else .keep
  | .peerAddressType _ _, _ => .keep

end VirtualDevice

def Touch.after {curve : P256} (exchange : Option (PairingSession curve × List Call)) :
    Touch curve → Option (PairingSession curve × List Call)
  | .keep => exchange
  | .drop => none
  | .begin session calls => some (session, calls)
  | .call next => exchange.map fun known => (known.1, known.2 ++ [next])

def Touch.Effect {curve : P256} (before after : Option (PairingSession curve)) : Touch curve → Prop
  | .keep => after = before
  | .drop => after = none
  | .begin session calls => Begun session ∧ ∃ t, after = some t ∧ (calls = [] ∧ t = session ∨
    ∃ draws pdu, calls = [.handlePdu draws pdu] ∧
      pdu.head? = some Command.pairingRequest.opcode ∧ Performs session (.handlePdu draws pdu) t)
  | .call next => ∀ t, after = some t → ∃ s, before = some s ∧ Performs s next t

structure DeviceStep (curve : P256) where
  call : DeviceCall curve
  stored : List Stored

section Steps
variable {curve : P256} {H S : Type} (env : Env H S)

/-- A device with the exchanges of its connections. -/
abbrev Tracked (curve : P256) (H S : Type) := VirtualDevice curve H S × Exchanges curve

/-- A call, and the exchanges it continues. -/
def Tracks (before : Tracked curve H S) (step : DeviceStep curve) (after : Tracked curve H S) :
    Prop :=
  before.1.perform env step.call = .ok (after.1, step.stored) ∧
    ∀ connection, after.2 connection = (before.1.touch step.call connection).after (before.2 connection)

def KeepsBonds (before : Tracked curve H S) (step : DeviceStep curve) : Prop :=
  ∀ connection session call, before.1.sessionOf connection = some session →
    before.1.touch step.call connection = .call call → session.Settles call

def Traceable (after : Tracked curve H S) (stored : Stored) : Prop :=
  ∃ session begun calls, after.1.sessionOf stored.connection = some session ∧
    after.2 stored.connection = some (begun, calls) ∧ Begun begun ∧ Run Performs begun calls session ∧
    stored.security = securityOf session ∧ session.complete = true ∧ session.failed = false ∧
    session.Established begun calls

end Steps

open Device.L2cap

namespace VirtualDevice
variable {curve : P256} {H S : Type} {env : Env H S} {device after : VirtualDevice curve H S}

section Sessions
variable {connection other : UInt16}

theorem sessionOf_insert (device : VirtualDevice curve H S) (connection other : UInt16)
    (conn : ConnectionState curve) :
    { device with connections := device.connections.insert connection conn }.sessionOf other =
      if other = connection then conn.pairingSession else device.sessionOf other := by
  unfold sessionOf
  by_cases same : other = connection
  · subst same
    rw [if_pos rfl, AList.lookup_insert]
    rfl
  · rw [if_neg same, AList.lookup_insert_ne same]

theorem sessionOf_putSession (conn : ConnectionState curve) (session : PairingSession curve) :
    (device.putSession connection conn session).sessionOf other =
      if other = connection then some session else device.sessionOf other := by
  unfold putSession
  rw [sessionOf_insert]

theorem sessionOf_congr (same : after.connections = device.connections) (other : UInt16) :
    after.sessionOf other = device.sessionOf other := by
  unfold sessionOf
  rw [same]

theorem maybeRecordBond_spec (env : Env H S) (device : VirtualDevice curve H S) (connection : UInt16) :
    (device.maybeRecordBond env connection).1.connections = device.connections ∧
    ∀ stored ∈ (device.maybeRecordBond env connection).2, stored.connection = connection ∧
      ∃ session, device.sessionOf connection = some session ∧
        stored.security = securityOf session ∧ session.complete = true ∧ session.bonding = true := by
  have quiet : ∀ stored ∈ ([] : List Stored), stored.connection = connection ∧
      ∃ session, device.sessionOf connection = some session ∧
        stored.security = securityOf session ∧ session.complete = true ∧ session.bonding = true :=
    fun _ listed => absurd listed not_mem_nil
  unfold maybeRecordBond
  cases known : device.connections.lookup connection with
  | none => exact ⟨rfl, quiet⟩
  | some conn =>
    dsimp only
    cases has : conn.pairingSession with
    | none => exact ⟨rfl, quiet⟩
    | some session =>
      dsimp only
      split
      · exact ⟨rfl, quiet⟩
      · rename_i records
        obtain ⟨complete, bonding⟩ := not_or.mp records
        have here : device.sessionOf connection = some session := by
          unfold sessionOf
          rw [known]
          exact has
        split
        · exact ⟨rfl, quiet⟩
        · refine ⟨rfl, ?_⟩
          intro stored listed
          obtain rfl := mem_singleton.mp listed
          exact ⟨rfl, session, here, rfl, Bool.eq_true_of_not_eq_false complete,
            Bool.eq_true_of_not_eq_false bonding⟩

theorem sessionOf_processAttPacket {pdu : Bytes} {response : Option Bytes}
    (processed : device.processAttPacket env connection pdu = .ok (response, after)) :
    after.sessionOf other = device.sessionOf other := by
  unfold processAttPacket at processed
  cases parsed : AttPdu.parse pdu with
  | none =>
    rw [parsed] at processed
    cases processed
    rfl
  | some request =>
    rw [parsed] at processed
    have same := dispatchAtt_sessions processed other
    have sessions := congrArg (fun view => view.bind Prod.snd) same
    rwa [Option.bind_map, Option.bind_map] at sessions

theorem sessionOf_tickSmp (t : Float) : (device.tickSmp t).sessionOf other =
    (device.sessionOf other).map fun session => (session.tick t).2 := by
  have found : (device.tickSmp t).connections.lookup other =
      (device.connections.lookup other).map (tickConnection t) :=
    dlookup_map₂ (f := fun _ => tickConnection t) other
  unfold sessionOf
  rw [found]
  cases device.connections.lookup other with
  | none => rfl
  | some conn =>
    change (tickConnection t conn).pairingSession = conn.pairingSession.map _
    unfold tickConnection
    cases has : conn.pairingSession with
    | none => exact has
    | some session =>
      dsimp only
      split <;> rfl

end Sessions

section Touches
variable {connection : UInt16} {call : DeviceCall curve} {stored : List Stored}

def Records (after : VirtualDevice curve H S) (stored : Stored) : Prop :=
  ∃ session, after.sessionOf stored.connection = some session ∧
    stored.security = securityOf session ∧ session.complete = true ∧ session.bonding = true

theorem maybeRecordBond_records (env : Env H S) (device : VirtualDevice curve H S)
    (connection : UInt16) :
    ∀ stored ∈ (device.maybeRecordBond env connection).2,
      (device.maybeRecordBond env connection).1.Records stored := by
  obtain ⟨same, each⟩ := maybeRecordBond_spec env device connection
  intro stored listed
  obtain ⟨rfl, session, has, security, complete, bonding⟩ := each stored listed
  exact ⟨session, (sessionOf_congr same _).trans has, security, complete, bonding⟩

theorem performs_pollPending_none {session : PairingSession curve}
    (empty : session.pollPending.1 = none) : Performs session .pollPending session := by
  have none_queued : session.pending = [] := List.head?_eq_none_iff.mp empty
  have same : session.pollPending.2 = session := by
    unfold PairingSession.pollPending
    rw [none_queued, tail_nil, ← none_queued]
  exact congrArg Except.ok same

theorem handleSmp_spec {conn : ConnectionState curve} {session : PairingSession curve}
    {draws : Draws} {pdu : Bytes}
    (handled : device.handleSmp env connection conn session draws pdu = .ok (after, stored)) :
    (∃ t, Performs session (.handlePdu draws pdu) t ∧ ∀ other, after.sessionOf other =
      if other = connection then some t else device.sessionOf other) ∧
    ∀ bond ∈ stored, after.Records bond := by
  obtain ⟨reply, handles, made⟩ := Rust.bind_eq_ok.mp handled
  have out : (device.putSession connection conn reply.2).maybeRecordBond env connection =
      (after, stored) := Except.ok.inj made
  have records := maybeRecordBond_records env (device.putSession connection conn reply.2)
    connection
  have same := (maybeRecordBond_spec env (device.putSession connection conn reply.2)
    connection).1
  rw [out] at records same
  refine ⟨⟨reply.2, ?_, ?_⟩, records⟩
  · exact Rust.bind_eq_ok.mpr ⟨reply, handles, rfl⟩
  · intro other
    rw [sessionOf_congr same, sessionOf_putSession]

theorem processSmpPacket_spec {made : Made curve} {draws : Draws} {pdu : Bytes}
    (processed : device.processSmpPacket env connection made draws pdu = .ok (after, stored)) :
    (∀ other, other ≠ connection → after.sessionOf other = device.sessionOf other) ∧
    (device.touchSmp connection made draws pdu).Effect (device.sessionOf connection)
      (after.sessionOf connection) ∧ ∀ bond ∈ stored, after.Records bond := by
  unfold processSmpPacket at processed
  unfold touchSmp
  cases known : device.connections.lookup connection with
  | none =>
    rw [known] at processed
    contradiction
  | some conn =>
    rw [known] at processed
    dsimp only at processed ⊢
    have before : device.sessionOf connection = conn.pairingSession := by
      unfold sessionOf
      rw [known]
      rfl
    rw [before]
    cases has : conn.pairingSession with
    | some session =>
      rw [has] at processed
      obtain ⟨⟨t, performs, sessions⟩, records⟩ := handleSmp_spec processed
      refine ⟨fun other differs => (sessions other).trans (if_neg differs), ?_, records⟩
      intro u after'
      rw [sessions, if_pos rfl] at after'
      exact ⟨session, rfl, Option.some.inj after' ▸ performs⟩
    | none =>
      rw [has] at processed
      by_cases request : pdu.head? = some Command.pairingRequest.opcode
      · rw [if_neg (not_not.mpr request)] at processed
        rw [if_pos request]
        obtain ⟨session, created, handled⟩ := Rust.bind_eq_ok.mp processed
        obtain ⟨⟨t, performs, sessions⟩, records⟩ := handleSmp_spec handled
        refine ⟨fun other differs => (sessions other).trans (if_neg differs), ?_, records⟩
        rw [created]
        exact ⟨.responder created, t, (sessions connection).trans (if_pos rfl),
          .inr ⟨draws, pdu, rfl, request, performs⟩⟩
      · rw [if_pos request] at processed
        rw [if_neg request]
        obtain ⟨rfl, rfl⟩ := Prod.mk.inj (Except.ok.inj processed)
        exact ⟨fun _ _ => rfl, before.trans has, fun _ listed => absurd listed not_mem_nil⟩

theorem connections_onConnectedWithRole (peerAddress : Address) (role : ConnectionRole) :
    (device.onConnectedWithRole env connection peerAddress role).connections =
      device.connections.insert connection (.newWithRole peerAddress device.defaultMtu role) := by
  unfold onConnectedWithRole restoreBondedSubscriptions
  split
  · rfl
  · split <;> rfl

theorem sessionOf_onConnectedWithRole (peerAddress : Address) (role : ConnectionRole)
    (other : UInt16) : (device.onConnectedWithRole env connection peerAddress role).sessionOf other =
      if other = connection then none else device.sessionOf other :=
  (sessionOf_congr (connections_onConnectedWithRole peerAddress role) other).trans
    (sessionOf_insert device connection other (.newWithRole peerAddress device.defaultMtu role))

theorem lookup_onDisconnected (other : UInt16) :
    (device.onDisconnected connection).connections.lookup other =
      if other = connection then none else device.connections.lookup other := by
  unfold onDisconnected
  cases known : device.connections.lookup connection with
  | none =>
    dsimp only
    split
    · rename_i same
      rw [same, known]
    · rfl
  | some conn =>
    change (device.connections.erase connection).lookup other = _
    split
    · rename_i same
      rw [same, AList.lookup_erase]
    · rename_i differs
      rw [AList.lookup_erase_ne differs]

theorem sessionOf_onDisconnected (other : UInt16) :
    (device.onDisconnected connection).sessionOf other =
      if other = connection then none else device.sessionOf other := by
  unfold sessionOf
  rw [lookup_onDisconnected]
  split <;> rfl

theorem sessionOf_modifyConnection (change : ConnectionState curve → ConnectionState curve)
    (view : PairingSession curve → PairingSession curve)
    (changes : ∀ conn, (change conn).pairingSession = conn.pairingSession.map view)
    (other : UInt16) : (device.modifyConnection connection change).sessionOf other =
      if other = connection then (device.sessionOf other).map view else device.sessionOf other := by
  unfold sessionOf
  rw [lookup_modifyConnection]
  split
  · cases device.connections.lookup other with
    | none => rfl
    | some conn => exact changes conn
  · rfl

theorem pollSmpPdu_spec (env : Env H S) (device : VirtualDevice curve H S) (connection : UInt16) :
    (∀ other, other ≠ connection →
      (device.pollSmpPdu env connection).1.sessionOf other = device.sessionOf other) ∧
    (Touch.call .pollPending : Touch curve).Effect (device.sessionOf connection)
      ((device.pollSmpPdu env connection).1.sessionOf connection) ∧
    ∀ bond ∈ (device.pollSmpPdu env connection).2, (device.pollSmpPdu env connection).1.Records bond := by
  unfold pollSmpPdu
  cases known : device.connections.lookup connection with
  | none =>
    refine ⟨fun _ _ => rfl, ?_, fun _ listed => absurd listed not_mem_nil⟩
    intro t has
    unfold sessionOf at has
    rw [known] at has
    contradiction
  | some conn =>
    dsimp only
    have before : device.sessionOf connection = conn.pairingSession := by
      unfold sessionOf
      rw [known]
      rfl
    rw [before]
    cases has : conn.pairingSession with
    | none =>
      refine ⟨fun _ _ => rfl, ?_, fun _ listed => absurd listed not_mem_nil⟩
      intro t held
      exact absurd (held.symm.trans (before.trans has)) nofun
    | some session =>
      dsimp only
      have performs : Performs session .pollPending session.pollPending.2 := rfl
      cases polled : session.pollPending with
      | mk first rest =>
        cases first with
        | none =>
          refine ⟨fun _ _ => rfl, ?_, fun _ listed => absurd listed not_mem_nil⟩
          intro t held
          have same : session = t := Option.some.inj ((before.trans has).symm.trans held)
          refine ⟨session, rfl, ?_⟩
          rw [← same]
          exact performs_pollPending_none (congrArg Prod.fst polled)
        | some pdu =>
          have records := maybeRecordBond_records env
            (device.putSession connection conn rest) connection
          have same := (maybeRecordBond_spec env
            (device.putSession connection conn rest) connection).1
          refine ⟨?_, ?_, records⟩
          · intro other differs
            rw [sessionOf_congr same, sessionOf_putSession, if_neg differs]
          · intro t held
            rw [sessionOf_congr same, sessionOf_putSession, if_pos rfl] at held
            rw [polled] at performs
            exact ⟨session, rfl, Option.some.inj held ▸ performs⟩

theorem startPairingWithConfig_spec {config : PairingConfig} {made : Made curve}
    (started : device.startPairingWithConfig connection config made = .ok after) (other : UInt16) :
    (device.touch (.startPairing connection config made) other).Effect (device.sessionOf other)
      (after.sessionOf other) := by
  unfold startPairingWithConfig at started
  dsimp only [touch]
  cases known : device.connections.lookup connection with
  | none =>
    rw [known] at started
    contradiction
  | some conn =>
    rw [known] at started
    dsimp only at started ⊢
    split at started
    · contradiction
    · obtain ⟨session, created, put⟩ := Rust.bind_eq_ok.mp started
      have out := Except.ok.inj put
      rw [created, ← out]
      dsimp only
      have sessions := sessionOf_insert device connection other
        { conn with pairingSession := some session }
      split
      · rename_i same
        rw [if_pos same] at sessions
        obtain ⟨fresh, made, begins⟩ := Rust.bind_eq_ok.mp created
        obtain ⟨reply, starts, last⟩ := Rust.bind_eq_ok.mp begins
        have last : reply.2 = session := Except.ok.inj last
        have sent : fresh.start = .ok (reply.1, session) := by rw [starts, ← last]
        exact ⟨.initiator made sent, session, sessions, .inl ⟨rfl, rfl⟩⟩
      · rename_i differs
        rw [if_neg differs] at sessions
        exact sessions

theorem onEncryptionChanged_spec (env : Env H S) (device : VirtualDevice curve H S) (connection : UInt16)
    (enabled : Bool) :
    (∀ other, (device.touch (.encryptionChanged connection enabled) other).Effect
      (device.sessionOf other)
      ((device.onEncryptionChanged env connection enabled).1.sessionOf other)) ∧
    ∀ bond ∈ (device.onEncryptionChanged env connection enabled).2,
      (device.onEncryptionChanged env connection enabled).1.Records bond := by
  unfold onEncryptionChanged
  refine ⟨?_, maybeRecordBond_records env _ connection⟩
  intro other
  rw [sessionOf_congr (maybeRecordBond_spec env _ _).1]
  dsimp only [touch]
  cases enabled with
  | false =>
    rw [if_neg (fun wanted => absurd wanted.2 Bool.false_ne_true)]
    rw [sessionOf_modifyConnection _ id fun conn => by simp]
    split
    · exact congrFun Option.map_id _
    · rfl
  | true =>
    rw [sessionOf_modifyConnection _ PairingSession.onLinkEncrypted fun conn => rfl]
    by_cases same : other = connection
    · rw [if_pos same, if_pos ⟨same, rfl⟩]
      intro t held
      obtain ⟨s, has, linked⟩ := Option.map_eq_some_iff.mp held
      exact ⟨s, has, congrArg Except.ok linked⟩
    · rw [if_neg same, if_neg (fun wanted => same wanted.1)]
      rfl

/-- Every call touches each session as `touch` tells, and the bonds it stores
are those of the sessions after it. -/
theorem perform_spec (performed : device.perform env call = .ok (after, stored)) :
    (∀ other, (device.touch call other).Effect (device.sessionOf other) (after.sessionOf other)) ∧
    ∀ bond ∈ stored, after.Records bond := by
  have quiet : ∀ bond ∈ ([] : List Stored), after.Records bond :=
    fun _ listed => absurd listed not_mem_nil
  cases call with
  | l2cap connection made draws raw =>
    change device.processL2capPacket env connection made draws raw = _ at performed
    unfold processL2capPacket at performed
    cases parsed : parse raw with
    | none =>
      rw [parsed] at performed
      contradiction
    | some frame =>
      rw [parsed] at performed
      dsimp only at performed
      by_cases att : frame.1 = attCid
      · rw [if_pos att] at performed
        obtain ⟨⟨response, served⟩, processed, out⟩ := Rust.bind_eq_ok.mp performed
        obtain ⟨rfl, rfl⟩ := Prod.mk.inj (Except.ok.inj out)
        refine ⟨?_, quiet⟩
        intro other
        dsimp only [touch]
        rw [parsed]
        dsimp only
        rw [if_neg (fun smp => smp.2.1 att)]
        exact sessionOf_processAttPacket processed
      · rw [if_neg att] at performed
        by_cases smp : frame.1 = smpCid
        · rw [if_pos smp] at performed
          obtain ⟨others, here, records⟩ := processSmpPacket_spec performed
          refine ⟨?_, records⟩
          intro other
          dsimp only [touch]
          rw [parsed]
          dsimp only
          by_cases same : other = connection
          · rw [if_pos ⟨same, att, smp⟩, same]
            exact here
          · rw [if_neg (fun wanted => same wanted.1)]
            exact others other same
        · rw [if_neg smp] at performed
          obtain ⟨rfl, rfl⟩ := Prod.mk.inj (Except.ok.inj performed)
          refine ⟨?_, quiet⟩
          intro other
          dsimp only [touch]
          rw [parsed]
          dsimp only
          rw [if_neg (fun wanted => smp wanted.2.2)]
          rfl
  | startPairing connection config made =>
    obtain ⟨put, started, out⟩ := Rust.bind_eq_ok.mp performed
    obtain ⟨rfl, rfl⟩ := Prod.mk.inj (Except.ok.inj out)
    exact ⟨startPairingWithConfig_spec started, quiet⟩
  | pollSmp connection =>
    have out : device.pollSmpPdu env connection = (after, stored) := Except.ok.inj performed
    obtain ⟨others, here, records⟩ := pollSmpPdu_spec env device connection
    rw [out] at others here records
    refine ⟨?_, records⟩
    intro other
    dsimp only [touch]
    by_cases same : other = connection
    · rw [if_pos same, same]
      exact here
    · rw [if_neg same]
      exact others other same
  | tickSmp t =>
    obtain ⟨rfl, rfl⟩ := Prod.mk.inj (Except.ok.inj performed)
    refine ⟨?_, quiet⟩
    intro other u held
    rw [sessionOf_tickSmp] at held
    obtain ⟨s, has, ticked⟩ := Option.map_eq_some_iff.mp held
    exact ⟨s, has, congrArg Except.ok ticked⟩
  | encryptionChanged connection enabled =>
    have out : device.onEncryptionChanged env connection enabled = (after, stored) :=
      Except.ok.inj performed
    have spec := onEncryptionChanged_spec env device connection enabled
    rwa [out] at spec
  | connected connection peerAddress role =>
    obtain ⟨rfl, rfl⟩ := Prod.mk.inj (Except.ok.inj performed)
    refine ⟨?_, quiet⟩
    intro other
    rw [sessionOf_onConnectedWithRole]
    dsimp only [touch]
    split <;> rfl
  | disconnected connection =>
    obtain ⟨rfl, rfl⟩ := Prod.mk.inj (Except.ok.inj performed)
    refine ⟨?_, quiet⟩
    intro other
    rw [sessionOf_onDisconnected]
    dsimp only [touch]
    split <;> rfl
  | peerAddressType connection peerAddressType =>
    obtain ⟨rfl, rfl⟩ := Prod.mk.inj (Except.ok.inj performed)
    refine ⟨?_, quiet⟩
    intro other
    unfold setPeerAddressType
    rw [sessionOf_modifyConnection _ id fun conn => by simp]
    split
    · exact congrFun Option.map_id _
    · rfl

end Touches

end VirtualDevice

open VirtualDevice

section Runs
variable {curve : P256} {H S : Type} {env : Env H S}

/-- The exchange of every session, as one that has only settled calls. -/
def Follows (state : Tracked curve H S) : Prop :=
  ∀ connection session, state.1.sessionOf connection = some session →
    ∃ begun calls, state.2 connection = some (begun, calls) ∧ Begun begun ∧
      Run (Guarded PairingSession.Settles Performs) begun calls session

theorem settles_pairingRequest {begun : PairingSession curve} {draws : Draws} {pdu : Bytes}
    (made : Begun begun) (request : pdu.head? = some Command.pairingRequest.opcode) :
    begun.Settles (.handlePdu draws pdu) := by
  have command : commandOf pdu = some .pairingRequest := by
    unfold commandOf
    rw [request]
    rfl
  obtain ⟨incomplete, unencrypted⟩ : begun.complete = false ∧ begun.isEncrypted = false := by
    cases made with
    | responder created =>
      have clean := (PairingSession.new_eq_ok created).1
      exact ⟨clean.incomplete, clean.unencrypted⟩
    | initiator created started =>
      have clean := (PairingSession.new_eq_ok created).1
      obtain ⟨preq, -, sent⟩ := Rust.bind_eq_ok.mp started
      cases sent
      exact ⟨clean.incomplete, clean.unencrypted⟩
  intro _ _
  refine ⟨?_, ?_, ?_, ?_⟩
  · intro complete
    exact absurd (incomplete.symm.trans complete) Bool.false_ne_true
  · intro encrypted
    exact absurd (unencrypted.symm.trans encrypted) Bool.false_ne_true
  · intro _ check
    exact absurd (command.symm.trans check) (by decide)
  · intro _ completes
    rcases completes with ⟨random, _⟩ | ⟨key, known, isKey, _⟩
    · exact absurd (command.symm.trans random) (by decide)
    · obtain rfl := Option.some.inj (command.symm.trans known)
      exact absurd isKey (by decide)

theorem follows_step {before after : Tracked curve H S} {step : DeviceStep curve}
    (follows : Follows before) (keeps : KeepsBonds before step) (tracks : Tracks env before step after) :
    Follows after := by
  intro connection session has
  have effect := (perform_spec tracks.1).1 connection
  have exchange := tracks.2 connection
  have keep := keeps connection
  rw [exchange]
  cases touched : before.1.touch step.call connection with
  | keep =>
    rw [touched] at effect
    exact follows connection session (effect.symm.trans has)
  | drop =>
    rw [touched] at effect
    exact absurd (effect.symm.trans has) nofun
  | begin begun calls =>
    rw [touched] at effect
    obtain ⟨made, t, held, began⟩ := effect
    obtain rfl := Option.some.inj (held.symm.trans has)
    refine ⟨begun, calls, rfl, made, ?_⟩
    rcases began with ⟨rfl, rfl⟩ | ⟨draws, pdu, rfl, request, performs⟩
    · exact .nil
    · exact Run.nil.snoc ⟨settles_pairingRequest made request, performs⟩
  | call call =>
    rw [touched] at effect
    obtain ⟨s, was, performs⟩ := effect session has
    obtain ⟨begun, calls, known, made, run⟩ := follows connection s was
    refine ⟨begun, calls ++ [call], ?_, made, run.snoc ⟨keep s call was touched, performs⟩⟩
    rw [known]
    rfl

end Runs

namespace L2cap

theorem parse_serialize (cid : UInt16) {payload : Bytes} (short : payload.length < 2 ^ 16) :
    parse (serialize cid payload) = some (cid, payload) := by
  have length : (UInt16.ofNat payload.length).toNat = payload.length := UInt16.toNat_ofNat_of_lt' short
  change (if payload.length < (U16.fromLeBytes _ _).toNat then none else some (_, _)) = _
  rw [U16.fromLeBytes_toLeBytes, U16.fromLeBytes_toLeBytes, length, if_neg (Nat.lt_irrefl _)]
  exact congrArg (fun kept => some (cid, kept)) payload.take_length

end L2cap

section Degraded
variable {curve : P256} {H S : Type} {env : Env H S}

def Pairs (device : VirtualDevice curve H S) (connection : UInt16) (session : PairingSession curve) :
    Prop :=
  device.bondStore.isSome ∧ device.sessionOf connection = some session

theorem Pairs.records (env : Env H S) {device : VirtualDevice curve H S} {connection : UInt16}
    {session : PairingSession curve} (pairs : Pairs device connection session) :
    Pairs (device.maybeRecordBond env connection).1 connection session ∧
    (session.complete = true → session.bonding = true →
      ∃ bond ∈ (device.maybeRecordBond env connection).2, bond.connection = connection) := by
  obtain ⟨keeps, has⟩ := pairs
  have same := sessionOf_congr
    (maybeRecordBond_spec env device connection).1 connection
  obtain ⟨store, kept⟩ := Option.isSome_iff_exists.mp keeps
  obtain ⟨conn, known, held⟩ := Option.bind_eq_some_iff.mp has
  refine ⟨⟨?_, same.trans has⟩, ?_⟩ <;> unfold maybeRecordBond <;>
    rw [known] <;> dsimp only <;> rw [held] <;> dsimp only
  · split
    · exact keeps
    · rw [kept]
      rfl
  · intro complete bonding
    rw [if_neg (by simp [complete, bonding]), kept]
    exact ⟨_, mem_singleton_self _, rfl⟩

theorem Pairs.handlePdu (env : Env H S) {device : VirtualDevice curve H S} {connection : UInt16}
    {session t : PairingSession curve} {draws : Draws} {pdu : Bytes}
    (pairs : Pairs device connection session) (made : Made curve)
    (performs : Performs session (.handlePdu draws pdu) t) (short : pdu.length < 2 ^ 16) :
    ∃ after stored, device.perform env (.l2cap connection made draws
        (serialize smpCid pdu)) = .ok (after, stored) ∧ Pairs after connection t ∧
      (∃ conn, device.connections.lookup connection = some conn ∧
        after.connections = (device.putSession connection conn t).connections) ∧
      (t.complete = true → t.bonding = true → ∃ bond ∈ stored, bond.connection = connection) := by
  obtain ⟨keeps, has⟩ := pairs
  obtain ⟨store, kept⟩ := Option.isSome_iff_exists.mp keeps
  obtain ⟨conn, known, held⟩ := Option.bind_eq_some_iff.mp has
  obtain ⟨reply, handles, out⟩ := Rust.bind_eq_ok.mp performs
  have out : reply.2 = t := Except.ok.inj out
  have handled : device.handleSmp env connection conn session draws pdu =
      .ok ((device.putSession connection conn t).maybeRecordBond env connection) := by
    unfold handleSmp
    rw [handles, ← out]
    rfl
  have performed : device.perform env (.l2cap connection made draws
      (serialize smpCid pdu)) =
        .ok ((device.putSession connection conn t).maybeRecordBond env connection) := by
    change device.processL2capPacket env connection made draws _ = _
    unfold processL2capPacket
    rw [parse_serialize _ short]
    change device.processSmpPacket env connection made draws pdu = _
    unfold processSmpPacket
    rw [known]
    dsimp only
    rw [held]
    exact handled
  have put : Pairs (device.putSession connection conn t) connection t :=
    ⟨keeps, (sessionOf_putSession conn t).trans (if_pos rfl)⟩
  obtain ⟨pairs, records⟩ := put.records env
  exact ⟨_, _, performed.trans (congrArg Except.ok Prod.mk.eta.symm), pairs,
    ⟨conn, known, (maybeRecordBond_spec env _ connection).1⟩, records⟩

theorem performs_of_step {session after : PairingSession curve} {draws : Draws} {pdu : Bytes}
    (stepped : session.step draws pdu = .ok after) :
    Performs session (.handlePdu draws pdu) after.pollPending.2 :=
  Rust.bind_eq_ok.mpr ⟨_, Rust.bind_eq_ok.mpr ⟨_, stepped, rfl⟩, rfl⟩

theorem performs_empty {session : PairingSession curve} (alive : session.failed = false)
    (draws : Draws) : ∃ t, Performs session (.handlePdu draws []) t ∧ t.failed = true ∧
      t.complete = session.complete ∧ t.bonding = session.bonding := by
  refine ⟨(session.fail ErrorCode.invalidParameters).pollPending.2, ?_, rfl, rfl, rfl⟩
  have stepped : session.step draws [] = .ok (session.fail ErrorCode.invalidParameters) := by
    unfold PairingSession.step
    rw [if_neg (fun failed => Bool.false_ne_true (alive.symm.trans failed))]
  exact performs_of_step stepped

/-- A responder that has answered a request for legacy pairing in which no key is asked of the
peer. -/
structure LegacyResponder (session : PairingSession curve) : Prop where
  alive : session.failed = false
  legacy : session.sc = false
  role : session.role = .responder
  eager : session.deferKeyDistribution = false
  unencrypted : session.isEncrypted = false
  none : session.initiatorKeyDistribution = 0
  nobody : session.peerIdentityAddress = .none
  awaiting : Awaiting session session.initiatorKeyDistribution

/-- The peer's confirm and random value complete the pairing, and settle the bond if the responder
has an LTK to send. -/
theorem LegacyResponder.performs {r : PairingSession curve} (waits : LegacyResponder r)
    (draws : Draws) (random : Octets 16) : ∃ s t,
      Performs r (.handlePdu draws (build16 Command.pairingConfirm.opcode (r.legacyConfirm random))) s ∧
      Performs s (.handlePdu draws (build16 Command.pairingRandom.opcode random)) t ∧
      t.failed = false ∧ t.complete = true ∧ t.bonding = r.bonding ∧
      s.peerIdentityAddress = .none ∧ t.peerIdentityAddress = .none ∧
      (r.ownFlags &&& KeyDistribution.encKey ≠ 0 →
        r.Settles (.handlePdu draws
          (build16 Command.pairingConfirm.opcode (r.legacyConfirm random))) ∧
        s.Settles (.handlePdu draws (build16 Command.pairingRandom.opcode random))) := by
  have confirmed := (PairingSession.step_command waits.alive draws .pairingConfirm _).trans
    (congrArg Except.ok (PairingSession.onPairingConfirm_responder draws
      (parse16_build16 _ (r.legacyConfirm random)) waits.legacy waits.role))
  obtain ⟨s, confirms, opened, next, flags, bonding⟩ : ∃ s, Performs r (.handlePdu draws
        (build16 Command.pairingConfirm.opcode (r.legacyConfirm random))) s ∧
      s.peerConfirm = some (s.legacyConfirm random) ∧ LegacyResponder s ∧
      s.ownFlags = r.ownFlags ∧ s.bonding = r.bonding :=
    ⟨_, performs_of_step confirmed, rfl, ⟨waits.alive, waits.legacy, waits.role, waits.eager,
      waits.unencrypted, waits.none, waits.nobody, waits.awaiting.unsent, waits.awaiting.incomplete,
      waits.awaiting.expected⟩, rfl, rfl⟩
  have completes := performs_of_step ((PairingSession.step_command next.alive draws .pairingRandom
    _).trans (PairingSession.onPairingRandom_legacy draws (parse16_build16 _ random) next.legacy opened))
  obtain ⟨complete, timer, encrypts, whether⟩ := onEncrypted_responder
    (r := s.keyedLegacy draws random) next.role next.eager
    ⟨next.awaiting.unsent, next.awaiting.incomplete, next.awaiting.expected⟩
  have over' : complete = true := by
    apply whether.mpr
    change keyCommands s.sc s.initiatorKeyDistribution = []
    rw [next.legacy, next.none]
    rfl
  refine ⟨s, _, confirms, completes, ?_⟩
  rw [encrypts]
  refine ⟨next.alive, over', bonding, next.nobody, next.nobody, fun sends => ⟨fun _ _ => ?_, fun _ _ => ?_⟩⟩
  · refine ⟨fun done => absurd (waits.awaiting.incomplete.symm.trans done) nofun,
      fun on => absurd (waits.unencrypted.symm.trans on) nofun, nofun, ?_⟩
    rintro - (⟨random, -⟩ | ⟨command, named, isKey, -⟩) -
    · cases random
    · cases named
      cases isKey
  · refine ⟨fun done => absurd (next.awaiting.incomplete.symm.trans done) nofun,
      fun on => absurd (next.unencrypted.symm.trans on) nofun, nofun, fun _ _ _ => ?_⟩
    exact ⟨flags ▸ sends, .inr (.inr ⟨rfl, .inl next.eager⟩)⟩

theorem tracks_of_perform (before : Tracked curve H S) {after : VirtualDevice curve H S}
    {call : DeviceCall curve} {stored : List Stored}
    (performed : before.1.perform env call = .ok (after, stored)) :
    ∃ exchanges, Tracks env before ⟨call, stored⟩ (after, exchanges) :=
  ⟨_, performed, fun _ => rfl⟩

end Degraded

def bondingDevice : VirtualDevice noCurve Unit Unit :=
  { controlDevice with connections := ∅, bondStore := some () }

def noMade : Made noCurve := ⟨⟨(), .zero, .zero⟩, .zero⟩

def smpCall (pdu : Bytes) : DeviceCall noCurve :=
  .l2cap 0x40 noMade noDraws (L2cap.serialize L2cap.smpCid pdu)

/-- A Pairing Request for legacy pairing with bonding, which asks for no key of the peer's. -/
def legacyRequest (keys : UInt8) : Bytes := [0x01, 0x03, 0x00, 0x01, 0x10, 0x00, keys]

/-- The peer connects and asks for pairing. -/
theorem legacy_pairing {keys : UInt8} (known : keys = 0 ∨ keys = KeyDistribution.encKey) :
    ∃ connected requested : Tracked noCurve Unit Unit,
    (∀ connection, connected.1.sessionOf connection = none) ∧
    Tracks controlPoint (bondingDevice, fun _ => none)
      ⟨.connected 0x40 Address.any .peripheral, []⟩ connected ∧
    Tracks controlPoint connected ⟨smpCall (legacyRequest keys), []⟩ requested ∧
    ∃ r, Pairs requested.1 0x40 r ∧ LegacyResponder r ∧ r.ownFlags = 0x03 &&& keys ∧
      r.bonding = true := by
  rcases known with rfl | rfl <;>
  refine ⟨(bondingDevice.onConnectedWithRole controlPoint 0x40 Address.any .peripheral, _), (_, _),
    fun connection => ?_, ⟨rfl, fun _ => rfl⟩, ⟨rfl, fun _ => rfl⟩, _, ⟨rfl, rfl⟩,
    ⟨rfl, rfl, rfl, rfl, rfl, rfl, rfl, rfl, rfl, rfl⟩, rfl, rfl⟩ <;>
  · rw [sessionOf_onConnectedWithRole]
    split <;> rfl

theorem keepsBonds_smpCall {before : Tracked noCurve Unit Unit} {session : PairingSession noCurve}
    {pdu : Bytes} {stored : List Stored} (pairs : Pairs before.1 0x40 session)
    (settles : session.Settles (.handlePdu noDraws pdu)) (short : pdu.length < 2 ^ 16) :
    KeepsBonds before ⟨smpCall pdu, stored⟩ := by
  intro connection other call has touched
  obtain ⟨conn, known, held⟩ := Option.bind_eq_some_iff.mp pairs.2
  simp only [smpCall, VirtualDevice.touch, VirtualDevice.touchSmp, L2cap.parse_serialize _ short,
    known, held] at touched
  split at touched
  case isTrue here =>
    obtain rfl := Touch.call.inj touched
    rw [here.1] at has
    obtain rfl := Option.some.inj (pairs.2.symm.trans has)
    exact settles
  case isFalse => cases touched

end Simble.Device
