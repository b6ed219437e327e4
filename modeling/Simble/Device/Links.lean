import Simble.Device.LeHost

/-! Which links and streams an LE host takes to be up, against what its controller reported. A
Disconnection Complete is taken for the end of the one link there is, whatever its status and
whether or not it is for a stream. -/
namespace Simble.Device
open Simble.Lib Simble.Gatt Simble.Att Simble.Smp Simble.Crypto Simble.Hci Simble.L2cap Hci.HciEvent

structure Booked (curve : P256) (H S : Type) where
  station : LeStation curve H S
  up : List UInt16

def linksAfter (up : List UInt16) : Hci.HciEvent → List UInt16
  | .disconnectionComplete complete =>
    if complete.status = 0x00 then up.filter (· ≠ complete.connectionHandle &&& 0x0FFF) else up
  | event =>
    match leConnectionComplete event with
    | some complete =>
      if complete.status = 0x00 then (complete.connectionHandle &&& 0x0FFF) :: up else up
    | none => up

def EndsLink (packet : Bytes) (status : UInt8) (handle : UInt16) : Prop :=
  ∃ complete, Hci.HciEvent.parseH4 packet = some (.disconnectionComplete complete) ∧
    complete.status = status ∧ complete.connectionHandle &&& 0x0FFF = handle

namespace VirtualDevice
variable {curve : P256} {H S : Type}

def peerOf (device : VirtualDevice curve H S) (handle : UInt16) : Option Address :=
  (device.connections.lookup handle).map ConnectionState.peerAddress

def SamePeers (device after : VirtualDevice curve H S) : Prop :=
  ∀ handle, after.peerOf handle = device.peerOf handle

end VirtualDevice

open VirtualDevice

section Books
variable {curve : P256} {H S : Type} (env : Env H S)

/-- One packet of the controller. -/
def HostHandles (w : Booked curve H S) (input : H4Input curve) (t : Booked curve H S) : Prop :=
  w.station.handlePacket env input = .ok t.station ∧
    t.up = ((Hci.HciEvent.parseH4 input.packet).map (linksAfter w.up)).getD w.up

/-- The handle that media data may come on: the stream's, or a link's where there is
no stream. -/
def Booked.Addresses (w : Booked curve H S) (handle : UInt16) : Prop :=
  w.station.cisHandle = some handle ∨ w.station.cisHandle = none ∧ handle ∈ w.up

structure Booked.Sound (w : Booked curve H S) : Prop where
  linked : ∀ handle peer, w.station.connection = some (handle, peer) →
    w.station.device.peerOf handle = some peer
  unlinked : w.station.connection = none → w.up = []

structure BooksKept (w : Booked curve H S) (input : H4Input curve) (t : Booked curve H S) : Prop where
  sound : t.Sound
  streamEnds : ∀ handle, EndsLink input.packet 0x00 handle → w.station.cisHandle = some handle →
    t.station.cisHandle = none ∧ t.station.deviceCisHandle = none ∧
      t.station.connection = w.station.connection ∧ t.station.device = w.station.device ∧
      t.station.isAdvertising = w.station.isAdvertising
  linkEnds : ∀ handle, EndsLink input.packet 0x00 handle → handle ∈ w.up →
    t.station.cisHandle = none ∧ t.station.deviceCisHandle = none
  fails : ∀ status handle, status ≠ 0x00 → EndsLink input.packet status handle →
    t.station = w.station
  media : ∀ sdu, parseIsoPacket input.packet = some sdu → ¬ w.Addresses sdu.handle →
    t.station.audioRx = w.station.audioRx

/-- The stream never ends before the last link, and never outlives it; no
disconnection fails while the host knows of the handle; and no media data comes on
another handle. -/
structure Orderly (w : Booked curve H S) (input : H4Input curve) : Prop where
  ends : ∀ handle, EndsLink input.packet 0x00 handle → (∀ link ∈ w.up, link = handle) ∧
    w.station.cisHandle ≠ some handle ∧
    (handle ∈ w.up → w.station.cisHandle = none ∧ w.station.deviceCisHandle = none)
  fails : ∀ status handle, status ≠ 0x00 → EndsLink input.packet status handle →
    w.station.connection = none ∧ w.station.device.connections.lookup handle = none ∧
      w.station.reassembler.buffers.lookup handle = none
  media : ∀ sdu, parseIsoPacket input.packet = some sdu → w.Addresses sdu.handle ∨
    enqueueSdu w.station.audioRx sdu.payload = w.station.audioRx

end Books

namespace VirtualDevice
variable {curve : P256} {H S : Type} {env : Env H S} {device after : VirtualDevice curve H S}
  {connection : UInt16}

section Peers

theorem SamePeers.trans {between : VirtualDevice curve H S} (first : device.SamePeers between)
    (second : between.SamePeers after) : device.SamePeers after :=
  fun handle => (second handle).trans (first handle)

theorem samePeers_of_connections (same : after.connections = device.connections) :
    device.SamePeers after := by
  intro handle
  unfold peerOf
  rw [same]

theorem modifyConnection_samePeers {change : ConnectionState curve → ConnectionState curve}
    (keeps : ∀ conn, (change conn).peerAddress = conn.peerAddress) :
    device.SamePeers (device.modifyConnection connection change) := by
  intro handle
  unfold peerOf
  rw [lookup_modifyConnection]
  split
  · rw [Option.map_map]
    exact congrArg (fun view => Option.map view _) (funext keeps)
  · rfl

theorem putSession_samePeers {conn : ConnectionState curve}
    (known : device.connections.lookup connection = some conn) (session : PairingSession curve) :
    device.SamePeers (device.putSession connection conn session) := by
  intro handle
  unfold peerOf putSession
  by_cases same : handle = connection
  · rw [same, AList.lookup_insert, known]
    rfl
  · rw [AList.lookup_insert_ne same]

theorem maybeRecordBond_samePeers (env : Env H S) (device : VirtualDevice curve H S)
    (connection : UInt16) : device.SamePeers (device.maybeRecordBond env connection).1 :=
  samePeers_of_connections (maybeRecordBond_spec env device connection).1

theorem processAttPacket_samePeers {pdu : Bytes} {response : Option Bytes}
    (processed : device.processAttPacket env connection pdu = .ok (response, after)) :
    device.SamePeers after := by
  unfold processAttPacket at processed
  cases parsed : AttPdu.parse pdu with
  | none =>
    rw [parsed] at processed
    cases processed
    exact fun _ => rfl
  | some request =>
    rw [parsed] at processed
    have connections := dispatchAtt_connections processed
    unfold connectionsAfter at connections
    cases update : (connectionUpdate request : Option (ConnectionState curve → _)) with
    | none =>
      rw [update] at connections
      exact samePeers_of_connections connections
    | some change =>
      rw [update] at connections
      have keeps (conn : ConnectionState curve) : (change conn).peerAddress = conn.peerAddress := by
        cases request with
        | exchangeMtuReq | prepareWriteReq | executeWriteReq | handleValueCfm =>
          cases update
          rfl
        | _ => contradiction
      exact (modifyConnection_samePeers keeps).trans (samePeers_of_connections connections)

/-- What a call on the session of a connection comes to: a session takes its place, and its bond
may be recorded. -/
inductive Puts (env : Env H S) (device : VirtualDevice curve H S) (connection : UInt16) :
    VirtualDevice curve H S → Prop
  | same : Puts env device connection device
  | put {conn : ConnectionState curve} (session : PairingSession curve)
    (known : device.connections.lookup connection = some conn) : Puts env device connection
      ((device.putSession connection conn session).maybeRecordBond env connection).1

theorem Puts.samePeers (puts : Puts env device connection after) : device.SamePeers after := by
  cases puts with
  | same => exact fun _ => rfl
  | put session known =>
    exact (putSession_samePeers known session).trans (maybeRecordBond_samePeers _ _ _)

theorem processSmpPacket_puts {made : Made curve} {draws : Draws} {pdu : Bytes}
    {stored : List Stored}
    (processed : device.processSmpPacket env connection made draws pdu = .ok (after, stored)) :
    Puts env device connection after := by
  have handles {conn : ConnectionState curve} {session : PairingSession curve}
      (known : device.connections.lookup connection = some conn)
      (handled : device.handleSmp env connection conn session draws pdu = .ok (after, stored)) :
      Puts env device connection after := by
    obtain ⟨reply, -, made⟩ := Rust.bind_eq_ok.mp handled
    have out : ((device.putSession connection conn reply.2).maybeRecordBond env connection).1 =
        after := congrArg Prod.fst (Except.ok.inj made)
    exact out ▸ .put reply.2 known
  unfold processSmpPacket at processed
  split at processed
  · contradiction
  · rename_i conn known
    split at processed
    · exact handles known processed
    · split at processed
      · cases processed
        exact .same
      · obtain ⟨session, -, handled⟩ := Rust.bind_eq_ok.mp processed
        exact handles known handled

theorem pollSmpPdu_puts (env : Env H S) (device : VirtualDevice curve H S) (connection : UInt16) :
    Puts env device connection (device.pollSmpPdu env connection).1 := by
  unfold pollSmpPdu
  split
  · exact .same
  · rename_i conn known
    split
    · exact .same
    · split
      · exact .same
      · exact .put _ known

theorem processL2capPacket_samePeers {made : Made curve} {draws : Draws} {raw : Bytes}
    {out : VirtualDevice curve H S × List Stored}
    (processed : device.processL2capPacket env connection made draws raw = .ok out) :
    device.SamePeers out.1 := by
  unfold processL2capPacket at processed
  split at processed
  · contradiction
  · split at processed
    · obtain ⟨answered, processes, result⟩ := Rust.bind_eq_ok.mp processed
      cases result
      exact processAttPacket_samePeers processes
    · split at processed
      · exact (processSmpPacket_puts processed).samePeers
      · cases processed
        exact fun _ => rfl

theorem drainSmp_samePeers (env : Env H S) (device : VirtualDevice curve H S) (connection : UInt16) :
    device.SamePeers (device.drainSmp env connection) := by
  unfold drainSmp
  generalize device.pendingSmp connection = n
  induction n generalizing device with
  | zero => exact fun _ => rfl
  | succ n ih =>
    rw [Function.iterate_succ_apply]
    exact (pollSmpPdu_puts env device connection).samePeers.trans (ih _)

theorem onEncryptionChanged_samePeers (env : Env H S) (device : VirtualDevice curve H S)
    (connection : UInt16) (enabled : Bool) :
    device.SamePeers (device.onEncryptionChanged env connection enabled).1 := by
  refine SamePeers.trans ?_ (maybeRecordBond_samePeers _ _ _)
  exact modifyConnection_samePeers fun _ => rfl

theorem peerOf_connected (env : Env H S) (device : VirtualDevice curve H S) (connection : UInt16)
    (peer : Address) (peerType : AddressType) :
    ((device.onConnectedWithRole env connection peer .peripheral).setPeerAddressType connection
      peerType).peerOf connection = some peer := by
  have same := @modifyConnection_samePeers curve H S
    (device.onConnectedWithRole env connection peer .peripheral) connection
    (fun conn => { conn with peerAddressType := peerType }) (fun _ => rfl) connection
  apply same.trans
  have connections : (device.onConnectedWithRole env connection peer .peripheral).connections =
      device.connections.insert connection (.newWithRole peer device.defaultMtu .peripheral) := by
    unfold onConnectedWithRole restoreBondedSubscriptions
    split
    · rfl
    · split <;> rfl
  unfold peerOf
  rw [connections, AList.lookup_insert]
  rfl

end Peers
end VirtualDevice

open LeStation

section Steps
variable {curve : P256} {H S : Type} {env : Env H S} {station : LeStation curve H S}
  {w t : Booked curve H S} {input : H4Input curve}

def LeStation.Carries (station after : LeStation curve H S) : Prop :=
  ∃ reassembler device audioRx, after = { station with reassembler, device, audioRx } ∧
    station.device.SamePeers device

theorem LeStation.Carries.refl (station : LeStation curve H S) : station.Carries station :=
  ⟨_, _, _, rfl, fun _ => rfl⟩

theorem handleAcl_carries {after : LeStation curve H S}
    (handled : station.handleAcl env input = .ok after) :
    station.Carries after ∧ after.audioRx = station.audioRx := by
  unfold handleAcl at handled
  split at handled
  · cases handled
    exact ⟨.refl _, rfl⟩
  · dsimp only at handled
    split at handled
    · unfold handleFrame at handled
      split at handled
      · rename_i processes
        cases handled
        exact ⟨⟨_, _, _, rfl, (processL2capPacket_samePeers processes).trans
          (drainSmp_samePeers _ _ _)⟩, rfl⟩
      · cases handled
        exact ⟨⟨_, _, _, rfl, fun _ => rfl⟩, rfl⟩
      · cases handled
    · cases handled
      exact ⟨⟨_, _, _, rfl, fun _ => rfl⟩, rfl⟩

/-- What a packet that is not an event does, and what an event that ends nothing and
makes no link does. -/
theorem handleEvent_cases (env : Env H S) (station : LeStation curve H S) (event : Hci.HciEvent)
    (up : List UInt16) :
    (∃ complete, event = .disconnectionComplete complete) ∨
    (∃ complete, leConnectionComplete event = some complete ∧ complete.status = 0x00 ∧
      station.handleEvent env event = station.handleConnected env complete ∧
      linksAfter up event = (complete.connectionHandle &&& 0x0FFF) :: up) ∨
    (∀ complete, event ≠ .disconnectionComplete complete) ∧ linksAfter up event = up ∧
      ∃ device cisHandle deviceCisHandle,
        station.handleEvent env event = { station with device, cisHandle, deviceCisHandle } ∧
        station.device.SamePeers device := by
  have others (plain : ∀ complete, event ≠ .disconnectionComplete complete)
      (silent : leConnectionComplete event = none) (same : linksAfter up event = up)
      (handles : station.handleEvent env event = (leCisEstablished event).elim station fun made =>
        if made.1 = 0x00 then
          { station with cisHandle := some made.2, deviceCisHandle := some made.2 }
        else station) :
      (∀ complete, event ≠ .disconnectionComplete complete) ∧ linksAfter up event = up ∧
        ∃ device cisHandle deviceCisHandle,
          station.handleEvent env event = { station with device, cisHandle, deviceCisHandle } ∧
          station.device.SamePeers device := by
    refine ⟨plain, same, ?_⟩
    rw [handles]
    cases leCisEstablished event with
    | none => exact ⟨_, _, _, rfl, fun _ => rfl⟩
    | some made =>
      rw [Option.elim_some]
      split
      · exact ⟨_, _, _, rfl, fun _ => rfl⟩
      · exact ⟨_, _, _, rfl, fun _ => rfl⟩
  cases event with
  | disconnectionComplete complete => exact .inl ⟨complete, rfl⟩
  | encryptionChange change =>
    refine .inr (.inr ⟨nofun, rfl, ?_⟩)
    unfold handleEvent
    dsimp only
    split
    · exact ⟨_, _, _, rfl, (onEncryptionChanged_samePeers _ _ _ _).trans (drainSmp_samePeers _ _ _)⟩
    · exact ⟨_, _, _, rfl, fun _ => rfl⟩
  | lowEnergy subevent parameters =>
    cases made : leConnectionComplete (.lowEnergy subevent parameters) with
    | none =>
      refine .inr (.inr (others nofun made ?_ ?_))
      · simp only [linksAfter, made]
      · unfold handleEvent
        dsimp only
        rewrite [made]
        cases leCisEstablished (.lowEnergy subevent parameters) <;> rfl
    | some complete =>
      by_cases succeeded : complete.status = 0x00
      · refine .inr (.inl ⟨complete, rfl, succeeded, ?_, ?_⟩)
        · simp only [handleEvent, made, if_pos succeeded]
        · simp only [linksAfter, made, if_pos succeeded]
      · refine .inr (.inr ⟨nofun, ?_, station.device, station.cisHandle, station.deviceCisHandle, ?_,
          fun _ => rfl⟩)
        · simp only [linksAfter, made, if_neg succeeded]
        · simp only [handleEvent, made, if_neg succeeded]
  | _ => exact .inr (.inr (others nofun rfl rfl rfl))

theorem parseH4_head {packet : Bytes} {event : Hci.HciEvent}
    (parsed : parseH4 packet = some event) :
    packet.head? = some 0x04 := by
  unfold parseH4 at parsed
  split at parsed
  · split at parsed
    · contradiction
    · rename_i event
      exact congrArg some (not_not.mp event)
  · contradiction

theorem parseIsoPacket_head {packet : Bytes} {sdu : IsoSdu} (parsed : parseIsoPacket packet = some sdu) :
    packet.head? = some 0x05 := by
  unfold parseIsoPacket at parsed
  split at parsed
  · dsimp only at parsed
    split at parsed
    · contradiction
    · rename_i data
      exact congrArg some (not_not.mp (not_or.mp data).1)
  · contradiction

theorem handlePacket_cases {after : LeStation curve H S}
    (handled : station.handlePacket env input = .ok after) :
    (∃ event, parseH4 input.packet = some event ∧ parseIsoPacket input.packet = none ∧
      after = station.handleEvent env event) ∨
    parseH4 input.packet = none ∧ station.Carries after ∧
      after.audioRx = ((parseIsoPacket input.packet).map
        fun sdu => enqueueSdu station.audioRx sdu.payload).getD station.audioRx := by
  have quiet (head : input.packet.head? ≠ some 0x05) : parseIsoPacket input.packet = none := by
    cases data : parseIsoPacket input.packet with
    | none => rfl
    | some sdu => exact absurd (parseIsoPacket_head data) head
  have still (head : input.packet.head? ≠ some 0x04) : parseH4 input.packet = none := by
    cases parsed : parseH4 input.packet with
    | none => rfl
    | some event => exact absurd (parseH4_head parsed) head
  unfold handlePacket at handled
  split at handled
  · rename_i head
    have silent := quiet (by rw [head]; decide)
    cases parsed : parseH4 input.packet with
    | none =>
      rw [parsed] at handled
      cases handled
      refine .inr ⟨rfl, .refl _, ?_⟩
      rw [silent]
      rfl
    | some event =>
      rw [parsed] at handled
      exact .inl ⟨event, rfl, silent, (Except.ok.inj handled).symm⟩
  · rename_i head
    obtain ⟨carries, same⟩ := handleAcl_carries handled
    refine .inr ⟨still (by rw [head]; decide), carries, ?_⟩
    rw [quiet (by rw [head]; decide)]
    exact same
  · rename_i head
    cases handled
    refine .inr ⟨still (by rw [head]; decide), ?_⟩
    unfold handleIso
    split
    · rename_i none
      rw [none]
      exact ⟨.refl _, rfl⟩
    · rename_i sdu data
      rw [data]
      exact ⟨⟨_, _, _, rfl, fun _ => rfl⟩, rfl⟩
  · rename_i other₁ other₂ other₃
    cases handled
    refine .inr ⟨still other₁, .refl _, ?_⟩
    rw [quiet other₃]
    rfl

theorem disconnection_event {status : UInt8} {handle : UInt16} {event : Hci.HciEvent}
    (ends : EndsLink input.packet status handle)
    (parsed : parseH4 input.packet = some event) :
    ∃ complete, event = .disconnectionComplete complete ∧ complete.status = status ∧
      complete.connectionHandle &&& 0x0FFF = handle := by
  obtain ⟨complete, reads, rfl, rfl⟩ := ends
  exact ⟨complete, Option.some.inj (parsed.symm.trans reads), rfl, rfl⟩

theorem up_of_event {event : Hci.HciEvent} (handles : HostHandles env w input t)
    (parsed : parseH4 input.packet = some event) : t.up = linksAfter w.up event := by
  obtain ⟨-, up⟩ := handles
  rw [parsed] at up
  exact up

theorem Booked.Sound.carries (sound : w.Sound) (carries : w.station.Carries t.station)
    (up : t.up = w.up) : t.Sound := by
  obtain ⟨reassembler, device, audioRx, after, peers⟩ := carries
  constructor
  · intro handle peer connected
    rw [after] at connected ⊢
    exact (peers handle).trans (sound.linked handle peer connected)
  · intro alone
    rw [after] at alone
    exact up.trans (sound.unlinked alone)

/-- What `AList.erase` leaves of a map that does not have the key. -/
theorem erase_of_absent {reassembler : AclReassembler} {handle : UInt16}
    (absent : reassembler.buffers.lookup handle = none) :
    reassembler.onDisconnected handle = reassembler := by
  have missing : handle ∉ reassembler.buffers.keys :=
    fun listed => absurd absent (by rwa [AList.lookup_eq_none, not_not, AList.mem_keys])
  unfold AclReassembler.onDisconnected
  have same : reassembler.buffers.erase handle = reassembler.buffers :=
    AList.ext (List.kerase_of_notMem_keys missing)
  rw [same]

theorem onDisconnected_absent {device : VirtualDevice curve H S} {handle : UInt16}
    (absent : device.connections.lookup handle = none) : device.onDisconnected handle = device := by
  unfold onDisconnected
  rw [absent]

theorem kept_of_orderly (sound : w.Sound) (orderly : Orderly w input)
    (handles : HostHandles env w input t) : BooksKept w input t := by
  rcases handlePacket_cases handles.1 with ⟨event, parsed, silent, after⟩ | ⟨none, carries, inbox⟩
  · have up := up_of_event handles parsed
    have unheard (sdu : IsoSdu) (data : parseIsoPacket input.packet = some sdu) : False := by
      cases silent.symm.trans data
    rcases handleEvent_cases env w.station event w.up with
      ⟨complete, rfl⟩ | ⟨complete, made, succeeded, handled, links⟩ |
      ⟨plain, links, device, cisHandle, deviceCisHandle, handled, peers⟩
    · by_cases succeeded : complete.status = 0x00
      · have ended : EndsLink input.packet 0x00 (complete.connectionHandle &&& 0x0FFF) :=
          ⟨complete, parsed, succeeded, rfl⟩
        obtain ⟨only, -, streamless⟩ := orderly.ends _ ended
        have left : t.up = w.up.filter (· ≠ complete.connectionHandle &&& 0x0FFF) :=
          up.trans (if_pos succeeded)
        have none : t.up = [] := by
          rw [left, List.filter_eq_nil_iff]
          intro link listed
          simp [only link listed]
        refine ⟨⟨?_, fun _ => none⟩, ?_, ?_, ?_, fun sdu data => (unheard sdu data).elim⟩
        · intro handle peer connected
          rw [after] at connected
          cases connected
        · intro handle ends stream
          exact absurd stream (orderly.ends handle ends).2.1
        · intro handle ends listed
          rw [after]
          exact (orderly.ends handle ends).2.2 listed
        · intro status handle failed ends
          obtain ⟨other, same, rfl, -⟩ := disconnection_event ends parsed
          cases same
          exact absurd succeeded failed
      · have failed : EndsLink input.packet complete.status (complete.connectionHandle &&& 0x0FFF) :=
          ⟨complete, parsed, rfl, rfl⟩
        obtain ⟨alone, absent, empty⟩ := orderly.fails _ _ succeeded failed
        have same : t.station = w.station := by
          rw [after]
          show w.station.handleDisconnected complete = w.station
          unfold handleDisconnected
          dsimp only
          rw [onDisconnected_absent absent, erase_of_absent empty, ← alone]
        have links : t.up = w.up := up.trans (if_neg succeeded)
        refine ⟨⟨?_, ?_⟩, ?_, ?_, fun _ _ _ _ => same, fun sdu data => (unheard sdu data).elim⟩
        · rw [same]
          exact sound.linked
        · rw [same, links]
          exact sound.unlinked
        · intro handle ends _
          obtain ⟨other, equal, zero, -⟩ := disconnection_event ends parsed
          cases equal
          exact absurd zero succeeded
        · intro handle ends _
          obtain ⟨other, equal, zero, -⟩ := disconnection_event ends parsed
          cases equal
          exact absurd zero succeeded
    · -- A new link: the host takes it for its own.
      have not (status : UInt8) (handle : UInt16) (ends : EndsLink input.packet status handle) : False := by
        obtain ⟨other, rfl, -⟩ := disconnection_event ends parsed
        cases made
      rw [handled] at after
      refine ⟨⟨?_, ?_⟩, fun handle ends => (not _ _ ends).elim, fun handle ends => (not _ _ ends).elim,
        fun status handle _ ends => (not _ _ ends).elim, fun sdu data => (unheard sdu data).elim⟩
      · intro handle peer connected
        rw [after] at connected ⊢
        cases connected
        exact peerOf_connected _ _ _ _ _
      · intro alone
        rw [after] at alone
        cases alone
    · have not (status : UInt8) (handle : UInt16) (ends : EndsLink input.packet status handle) : False := by
        obtain ⟨other, rfl, -⟩ := disconnection_event ends parsed
        exact plain other rfl
      rw [handled] at after
      refine ⟨⟨?_, ?_⟩, fun handle ends => (not _ _ ends).elim, fun handle ends => (not _ _ ends).elim,
        fun status handle _ ends => (not _ _ ends).elim, fun sdu data => (unheard sdu data).elim⟩
      · intro handle peer connected
        rw [after] at connected ⊢
        exact (peers handle).trans (sound.linked handle peer connected)
      · intro alone
        rw [after] at alone
        exact (up.trans links).trans (sound.unlinked alone)
  · have not (status : UInt8) (handle : UInt16) (ends : EndsLink input.packet status handle) : False := by
      obtain ⟨complete, reads, -⟩ := ends
      cases none.symm.trans reads
    have up : t.up = w.up := by
      rw [handles.2, none]
      rfl
    refine ⟨sound.carries carries up, fun handle ends => (not _ _ ends).elim,
      fun handle ends => (not _ _ ends).elim, fun status handle _ ends => (not _ _ ends).elim, ?_⟩
    intro sdu data stray
    rw [inbox, data]
    exact (orderly.media sdu data).resolve_left stray

theorem orderly_of_kept (handles : HostHandles env w input t) (kept : BooksKept w input t) :
    Orderly w input := by
  constructor
  · intro handle ended
    obtain ⟨complete, parsed, succeeded, rfl⟩ := id ended
    have after : t.station = w.station.handleDisconnected complete := by
      rcases handlePacket_cases handles.1 with ⟨event, reads, -, after⟩ | ⟨none, -⟩
      · cases parsed.symm.trans reads
        exact after
      · cases parsed.symm.trans none
    have up : t.up = w.up.filter (· ≠ complete.connectionHandle &&& 0x0FFF) :=
      (up_of_event handles parsed).trans (if_pos succeeded)
    have none : t.up = [] := kept.sound.unlinked (by rw [after]; rfl)
    refine ⟨?_, ?_, ?_⟩
    · intro link listed
      have gone := List.filter_eq_nil_iff.mp (up.symm.trans none) link listed
      simpa using gone
    · intro stream
      have stopped := (kept.streamEnds _ ended stream).1
      rw [after] at stopped
      cases stream.symm.trans stopped
    · intro listed
      have stopped := kept.linkEnds _ ended listed
      rw [after] at stopped
      exact stopped
  · intro status handle failed refused
    obtain ⟨complete, parsed, rfl, rfl⟩ := id refused
    have after : t.station = w.station.handleDisconnected complete := by
      rcases handlePacket_cases handles.1 with ⟨event, reads, -, after⟩ | ⟨none, -⟩
      · cases parsed.symm.trans reads
        exact after
      · cases parsed.symm.trans none
    have same := after.symm.trans (kept.fails _ _ failed refused)
    have alone := congrArg connection same
    have device := congrArg (fun station => station.device.connections.lookup
      (complete.connectionHandle &&& 0x0FFF)) same
    have buffers := congrArg (fun station => station.reassembler.buffers.lookup
      (complete.connectionHandle &&& 0x0FFF)) same
    refine ⟨alone.symm, ?_, ?_⟩
    · rw [← device]
      show (w.station.device.onDisconnected _).connections.lookup _ = none
      unfold onDisconnected
      split
      · assumption
      · exact AList.lookup_erase _ _
    · rw [← buffers]
      exact AList.lookup_erase _ _
  · intro sdu data
    by_cases addressed : w.Addresses sdu.handle
    · exact .inl addressed
    · refine .inr ?_
      have inbox := kept.media sdu data addressed
      rcases handlePacket_cases handles.1 with ⟨-, -, silent, -⟩ | ⟨-, -, after⟩
      · cases silent.symm.trans data
      · rw [data] at after
        exact after.symm.trans inbox

end Steps

section Runs
variable {curve : P256} {H S : Type}

/-- A new host for a device without connections or streams. -/
def Booked.new (device : VirtualDevice curve H S) : Booked curve H S where
  station := ⟨.new, none, none, device, false, [], none⟩
  up := []

theorem sound_of_run {env : Env H S} {device : VirtualDevice curve H S} {inputs : List (H4Input curve)}
    {w : Booked curve H S}
    (run : Run (Guarded Orderly (HostHandles env)) (.new device) inputs w) : w.Sound := by
  refine run.invariant (P := fun _ w => w.Sound) ?_ ?_
  · exact ⟨nofun, fun _ => rfl⟩
  · rintro _ s input t sound ⟨orderly, handles⟩
    exact (kept_of_orderly sound orderly handles).sound

/-- The packets of a run all leave the books in order exactly if they all meet the
condition. -/
theorem link_books_iff (env : Env H S) (device : VirtualDevice curve H S)
    (inputs : List (H4Input curve)) (w : Booked curve H S) :
    Run (fun s input t => HostHandles env s input t ∧ BooksKept s input t) (.new device) inputs w ↔
      Run (Guarded Orderly (HostHandles env)) (.new device) inputs w := by
  constructor
  · intro run
    apply run.mono
    rintro s input t ⟨handles, kept⟩
    exact ⟨orderly_of_kept handles kept, handles⟩
  · intro run
    induction run with
    | nil => exact .nil
    | snoc earlier stepped ih =>
      exact ih.snoc ⟨stepped.2, kept_of_orderly (sound_of_run earlier) stepped.1 stepped.2⟩

end Runs
/-- A packet whose handling draws nothing. -/
def plainInput (packet : Bytes) : H4Input noCurve := ⟨packet, ⟨⟨(), .zero, .zero⟩, .zero⟩, noDraws⟩

def connectedPacket : Bytes :=
  [0x04, 0x3E, 0x13, 0x01, 0x00, 0x40, 0x00, 0x01, 0x01, 0x11, 0x22, 0x33, 0x44, 0x55, 0x66,
    0x18, 0x00, 0x00, 0x00, 0x48, 0x00, 0x00]

def streamPacket : Bytes := [0x04, 0x3E, 0x05, 0x19, 0x00, 0x60, 0x00, 0x00]

/-- The end of the stream, whose handle is not the link's. -/
def streamEndsPacket : Bytes := [0x04, 0x05, 0x04, 0x00, 0x60, 0x00, 0x13]

/-- The stream ends: the host forgets the link, which is up, and keeps the stream. -/
theorem stream_end_loses_link : ∃ (inputs : List (H4Input noCurve)) (w t : Booked noCurve Unit Unit),
    Run (HostHandles controlPoint) (.new { controlDevice with connections := ∅ }) inputs w ∧
    HostHandles controlPoint w (plainInput streamEndsPacket) t ∧
    t.station.connection = none ∧ t.up = [0x40] ∧ t.station.cisHandle = some 0x60 ∧
    ¬ BooksKept w (plainInput streamEndsPacket) t := by
  obtain ⟨linked, w, t, first, second, third, alone, up, stream⟩ :
      ∃ linked w t : Booked noCurve Unit Unit,
        HostHandles controlPoint (.new { controlDevice with connections := ∅ })
          (plainInput connectedPacket) linked ∧
        HostHandles controlPoint linked (plainInput streamPacket) w ∧
        HostHandles controlPoint w (plainInput streamEndsPacket) t ∧
        t.station.connection = none ∧ t.up = [0x40] ∧ t.station.cisHandle = some 0x60 :=
    ⟨⟨_, _⟩, ⟨_, _⟩, ⟨_, _⟩, ⟨rfl, rfl⟩, ⟨rfl, rfl⟩, ⟨rfl, rfl⟩, rfl, rfl, rfl⟩
  refine ⟨_, w, t, (Run.nil.snoc first).snoc second, third, alone, up, stream, fun kept => ?_⟩
  cases up.symm.trans (kept.sound.unlinked alone)

end Simble.Device
