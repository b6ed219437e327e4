import Simble.Rfcomm.Session
import Simble.Rfcomm.Pair

/-! How one side sees the opening of each channel, and what each frame of the exchange does to
that view. A side has one slot for the awaited answer and one session state for all its channels;
a SABM or UA that completes a connection resets that state, so it must not come while the slot is
taken. -/
namespace Simble.Rfcomm
open Simble.Lib Message

def Channel (channel : UInt8) : Prop := 1 ≤ channel ∧ channel ≤ 30

instance (channel : UInt8) : Decidable (Channel channel) :=
  inferInstanceAs (Decidable (1 ≤ channel ∧ channel ≤ 30))

theorem Channel.eq_of_dlci {c d : UInt8} (first : Channel c) (second : Channel d)
    (same : c <<< 1 = d <<< 1) : c = d := by
  rw [← (validDlci_channel first).2.2, same, (validDlci_channel second).2.2]

/-- What one side knows of a channel. -/
structure View where
  /-- Its Parameter Negotiation command has no answer yet. -/
  awaiting : Bool
  unresolved : Bool
  dlc : Option DlcState
  rejected : Bool
deriving DecidableEq, Repr

namespace View

def blank : View := ⟨false, false, none, false⟩

/-- How many `DlcOpened` events the side has reported. -/
def openings (view : View) : Nat := if view.dlc = some .connected then 1 else 0

def rejections (view : View) : Nat := if view.rejected then 1 else 0

theorem proj_update {β : Type} (proj : View → β) {views : UInt8 → View} {c : UInt8} {view : View}
    (same : proj view = proj (views c)) (d : UInt8) :
    proj (Function.update views c view d) = proj (views d) := by
  by_cases equal : d = c
  · subst equal
    rw [Function.update_self, same]
  · rw [Function.update_of_ne equal]

end View

open View

namespace Multiplexer

theorem negotiateCfc_eq (mux : Multiplexer) (wants : Bool) :
    ∃ cfc, mux.negotiateCfc wants = { mux with cfc } := by
  unfold negotiateCfc
  split
  · exact ⟨_, rfl⟩
  · split
    · exact ⟨_, rfl⟩
    · exact ⟨mux.cfc, rfl⟩

theorem onMccPnCommand_listened {mux : Multiplexer} {params : MccPn} {size : UInt16}
    {credits : UInt8} (even : params.dlci &&& 1 = 0)
    (listened : mux.listenConfigs.lookup (params.dlci >>> 1) = some (size, credits))
    (few : credits ≤ maxInitialCredits) :
    ∃ response dlc cfc, mux.onMccPnCommand params =
        (([((pn false response).frame mux.roleCR).toBytes], []),
          { mux with cfc, dlcs := mux.dlcs.insert params.dlci dlc }) ∧
      response.dlci = params.dlci ∧ response.initialCredits ≤ maxInitialCredits ∧
      dlc.state = .connecting ∧ dlc.cR = mux.roleCR := by
  have passes : ¬ params.dlci &&& 1 ≠ 0 := not_not.mpr even
  obtain ⟨cfc, agreed⟩ := mux.negotiateCfc_eq (params.cl == PnCl.cfcCommand)
  simp only [onMccPnCommand, if_neg passes, listened, agreed]
  refine ⟨_, _, cfc, rfl, rfl, ?_, rfl, rfl⟩
  split
  · exact few
  · exact (by decide : (0 : UInt8) ≤ maxInitialCredits)

theorem onMccPnResponse_pending {mux : Multiplexer} (params : MccPn)
    (state : mux.state = .opening) (pending : mux.pendingOpen.isSome) :
    ∃ dlc cfc, mux.onMccPnResponse params =
        (([((sabm params.dlci).frame mux.roleCR).toBytes], []),
          { mux with cfc, pendingOpen := none, dlcs := mux.dlcs.insert params.dlci dlc }) ∧
      dlc.state = .connecting ∧ dlc.cR = mux.roleCR := by
  have passes : ¬ mux.state ≠ .opening := not_not.mpr state
  obtain ⟨requested, pending⟩ := Option.isSome_iff_exists.mp pending
  obtain ⟨cfc, agreed⟩ :=
    { mux with pendingOpen := none }.negotiateCfc_eq (params.cl == PnCl.cfcResponse)
  simp only [onMccPnResponse, if_neg passes, pending, agreed]
  exact ⟨_, cfc, rfl, rfl, rfl⟩

/-- The multiplexer of a side in a started session and the events it reported,
against its view of every channel. -/
structure Settles (views : UInt8 → View) (mux : Multiplexer) (events : List MultiplexerEvent) :
    Prop where
  session : mux.state = .connected ∨ mux.state = .opening
  waits : mux.pendingOpen.isSome → mux.state = .opening
  pending : mux.pendingOpen.isSome ↔ ∃ c, (views c).awaiting
  single : ∀ c d, (views c).awaiting → (views d).awaiting → c = d
  opening : mux.state = .opening → ∃ c, (views c).unresolved
  dlcs : ∀ c, Channel c → (mux.dlcs.lookup (c <<< 1)).map Dlc.state = (views c).dlc
  isBit : ∀ dlci dlc, mux.dlcs.lookup dlci = some dlc → IsBit dlc.cR
  few : ∀ channel size credits, mux.listenConfigs.lookup channel = some (size, credits) →
    credits ≤ maxInitialCredits
  opened : ∀ c, Channel c → events.count (.dlcOpened (c <<< 1)) = (views c).openings
  rejected : ∀ c, events.count (.dlcOpenRejected c) = (views c).rejections

namespace Settles
variable {views : UInt8 → View} {mux : Multiplexer} {events : List MultiplexerEvent} {c : UInt8}

section Settles
variable (settles : Settles views mux events)
include settles

theorem found (channel : Channel c) {state : DlcState} (known : (views c).dlc = some state) :
    ∃ dlc, mux.dlcs.lookup (c <<< 1) = some dlc ∧ dlc.state = state ∧ IsBit dlc.cR := by
  have seen := settles.dlcs c channel
  rw [known, Option.map_eq_some_iff] at seen
  obtain ⟨dlc, present, state⟩ := seen
  exact ⟨dlc, present, state, settles.isBit _ _ present⟩

theorem dlcs_insert (channel : Channel c) {dlc : Dlc} {view : View}
    (same : some dlc.state = view.dlc) (d : UInt8) (other : Channel d) :
    ((mux.dlcs.insert (c <<< 1) dlc).lookup (d <<< 1)).map Dlc.state =
      (Function.update views c view d).dlc := by
  by_cases equal : d = c
  · subst equal
    rw [AList.lookup_insert, Function.update_self]
    exact same
  · have apart : d <<< 1 ≠ c <<< 1 := fun clash => equal (other.eq_of_dlci channel clash)
    rw [AList.lookup_insert_ne apart, Function.update_of_ne equal]
    exact settles.dlcs d other

theorem isBit_insert (dlc : Dlc) (fits : IsBit dlc.cR) (at' dlci : UInt8) (other : Dlc)
    (present : (mux.dlcs.insert at' dlc).lookup dlci = some other) :
    IsBit other.cR := by
  by_cases equal : dlci = at'
  · subst equal
    rw [AList.lookup_insert] at present
    cases present
    exact fits
  · rw [AList.lookup_insert_ne equal] at present
    exact settles.isBit dlci other present

theorem free (none : mux.pendingOpen = none) (d : UInt8) :
    (views d).awaiting = false := by
  by_contra taken
  have pending := settles.pending.mpr ⟨d, by simpa using taken⟩
  simp [none] at pending

theorem openDlc (blank : views c = .blank) {size : UInt16} {credits : UInt8} {bytes : Bytes}
    {after : Multiplexer} (called : mux.openDlc c size credits = .ok (bytes, after)) :
    Settles (Function.update views c ⟨true, true, none, false⟩) after events ∧
      ∃ params, params.dlci = c <<< 1 ∧ (pn true params).Carried bytes := by
  unfold Multiplexer.openDlc at called
  split at called
  · contradiction
  · rename_i state
    have state := not_not.mp state
    have none : mux.pendingOpen = none := by
      by_contra taken
      have opening := settles.waits (Option.isSome_iff_ne_none.mpr taken)
      simp [state] at opening
    cases called
    refine ⟨?_, openPn c size credits, rfl,
      (min_maxInitialCredits_le credits : (openPn c size credits).initialCredits ≤ _),
      _, mux.roleCR_isBit, rfl⟩
    constructor
    case session => exact .inr rfl
    case waits => exact fun _ => rfl
    case pending => exact ⟨fun _ => ⟨c, by simp⟩, fun _ => rfl⟩
    case single =>
      have only (d : UInt8) (waits : (Function.update views c ⟨true, true, .none, false⟩ d).awaiting) :
          d = c := by
        by_contra other
        simp [Function.update_of_ne other, settles.free none d] at waits
      exact fun d e first second => (only d first).trans (only e second).symm
    case opening => exact fun _ => ⟨c, by simp⟩
    case dlcs =>
      intro d channel
      rw [proj_update dlc (by rw [blank]; rfl)]
      exact settles.dlcs d channel
    case isBit => exact settles.isBit
    case few => exact settles.few
    case opened =>
      intro d channel
      rw [proj_update openings (by rw [blank]; rfl)]
      exact settles.opened d channel
    case rejected =>
      intro d
      rw [proj_update rejections (by rw [blank]; rfl)]
      exact settles.rejected d

theorem pending_update (view : View) (before : (views c).awaiting = false)
    (after : view.awaiting = false) :
    (mux.pendingOpen.isSome ↔ ∃ d, (Function.update views c view d).awaiting) ∧
      ∀ d e, (Function.update views c view d).awaiting →
        (Function.update views c view e).awaiting → d = e := by
  have same (d : UInt8) : (Function.update views c view d).awaiting = (views d).awaiting := by
    by_cases equal : d = c
    · subst equal
      rw [Function.update_self, before, after]
    · rw [Function.update_of_ne equal]
  simp only [same]
  exact ⟨settles.pending, settles.single⟩

/-- Only one channel awaits an answer, so once it has it none does. -/
theorem nobody_awaits (view : View) (waits : (views c).awaiting) (after : view.awaiting = false)
    (d : UInt8) :
    (Function.update views c view d).awaiting = false := by
  by_cases equal : d = c
  · subst equal
    rw [Function.update_self, after]
  · rw [Function.update_of_ne equal]
    by_contra other
    exact equal (settles.single d c (by simpa using other) waits)

theorem onMccPnCommand (channel : Channel c) (blank : views c = .blank) {params : MccPn}
    (dlci : params.dlci = c <<< 1) :
    (∃ bytes, mux.onMccPnCommand params = (([bytes], []), mux) ∧
        (dm (c <<< 1)).Carried bytes) ∨
      ∃ bytes response after, mux.onMccPnCommand params = (([bytes], []), after) ∧
        response.dlci = c <<< 1 ∧ (pn false response).Carried bytes ∧
        Settles (Function.update views c ⟨false, false, some .connecting, false⟩) after events := by
  obtain ⟨valid, even, back⟩ := validDlci_channel channel
  have passes : ¬ params.dlci &&& 1 ≠ 0 := by
    rw [dlci]
    exact not_not.mpr even
  cases listened : mux.listenConfigs.lookup (params.dlci >>> 1) with
  | none =>
    refine .inl ⟨((dm (c <<< 1)).frame 1).toBytes, ?_, valid, 1, .inr rfl, rfl⟩
    simp only [Multiplexer.onMccPnCommand, if_neg passes, listened]
    rw [dlci]
    rfl
  | some config =>
    obtain ⟨size, credits⟩ := config
    obtain ⟨response, dlc, cfc, accepted, named, few, state, cR⟩ :=
      onMccPnCommand_listened (not_not.mp passes) listened (settles.few _ _ _ listened)
    refine .inr ⟨_, response, _, accepted, named.trans dlci, ⟨few, _, mux.roleCR_isBit, rfl⟩, ?_⟩
    rw [dlci]
    obtain ⟨pending, single⟩ := settles.pending_update ⟨false, false, some .connecting, false⟩
      (by rw [blank]; rfl) rfl
    constructor
    case session => exact settles.session
    case waits => exact settles.waits
    case pending => exact pending
    case single => exact single
    case opening =>
      intro state
      obtain ⟨d, unresolved⟩ := settles.opening state
      refine ⟨d, ?_⟩
      rwa [proj_update View.unresolved (by rw [blank]; rfl)]
    case dlcs => exact settles.dlcs_insert channel (by rw [state])
    case isBit => exact settles.isBit_insert dlc (cR ▸ mux.roleCR_isBit) _
    case few => exact settles.few
    case opened =>
      intro d other
      rw [proj_update openings (by rw [blank]; rfl)]
      exact settles.opened d other
    case rejected =>
      intro d
      rw [proj_update rejections (by rw [blank]; rfl)]
      exact settles.rejected d

theorem onMccPnResponse (channel : Channel c) (waits : views c = ⟨true, true, none, false⟩)
    {params : MccPn} (dlci : params.dlci = c <<< 1) :
    ∃ bytes after, mux.onMccPnResponse params = (([bytes], []), after) ∧
      (sabm (c <<< 1)).Carried bytes ∧
      Settles (Function.update views c ⟨false, true, some .connecting, false⟩) after events := by
  have taken : mux.pendingOpen.isSome := settles.pending.mpr ⟨c, by rw [waits]⟩
  obtain ⟨dlc, cfc, accepted, state, cR⟩ := onMccPnResponse_pending params (settles.waits taken) taken
  rw [dlci] at accepted
  have valid := (validDlci_channel channel).1
  have calm := settles.nobody_awaits ⟨false, true, some .connecting, false⟩ (by rw [waits]) rfl
  refine ⟨_, _, accepted, ⟨valid, _, mux.roleCR_isBit, rfl⟩, ?_⟩
  constructor
  case session => exact settles.session
  case waits => simp
  case pending => simpa using calm
  case single =>
    intro d e first
    simp [calm d] at first
  case opening => exact fun _ => ⟨c, by simp⟩
  case dlcs => exact settles.dlcs_insert channel (by rw [state])
  case isBit => exact settles.isBit_insert dlc (cR ▸ mux.roleCR_isBit) _
  case few => exact settles.few
  case opened =>
    intro d other
    rw [proj_update openings (by rw [waits]; rfl)]
    exact settles.opened d other
  case rejected =>
    intro d
    rw [proj_update rejections (by rw [waits]; rfl)]
    exact settles.rejected d

theorem onDmFrame (channel : Channel c) (waits : views c = ⟨true, true, none, false⟩) :
    ∃ after, mux.onDmFrame (.dm 0 (c <<< 1)) = (([], [.dlcOpenRejected c]), after) ∧
      Settles (Function.update views c ⟨false, false, none, true⟩) after
        (events ++ [.dlcOpenRejected c]) := by
  have taken : mux.pendingOpen.isSome := settles.pending.mpr ⟨c, by rw [waits]⟩
  have back : (RfcommFrame.dm 0 (c <<< 1)).dlci >>> 1 = c := (validDlci_channel channel).2.2
  have calm := settles.nobody_awaits ⟨false, false, none, true⟩ (by rw [waits]) rfl
  refine ⟨_, by rw [Multiplexer.onDmFrame, if_pos (settles.waits taken), back], ?_⟩
  constructor
  case session => exact .inl rfl
  case waits => simp
  case pending => simpa using calm
  case single =>
    intro d e first
    simp [calm d] at first
  case opening => simp
  case dlcs =>
    intro d other
    rw [proj_update dlc (by rw [waits])]
    exact settles.dlcs d other
  case isBit => exact settles.isBit
  case few => exact settles.few
  case opened =>
    intro d other
    rw [proj_update openings (by rw [waits]; rfl), List.count_append]
    simpa using settles.opened d other
  case rejected =>
    rw [Function.forall_update_iff views fun d view =>
      (events ++ [MultiplexerEvent.dlcOpenRejected c]).count (.dlcOpenRejected d) = view.rejections]
    have seen := settles.rejected
    constructor
    · simpa [waits, rejections] using seen c
    · intro d other
      simpa [other.symm] using seen d

/-- The SABM or UA of a connection opens it, and costs the session state, which
nothing waits on as long as the slot is free. -/
theorem complete (channel : Channel c) {unresolved : Bool}
    (waits : views c = ⟨false, unresolved, some .connecting, false⟩) (none : mux.pendingOpen = none)
    {dlc : Dlc} (isBit : IsBit dlc.cR) (frames : List Bytes) :
    Settles (Function.update views c ⟨false, false, some .connected, false⟩)
      (mux.opened (c <<< 1) dlc frames).2 (events ++ [.dlcOpened (c <<< 1)]) := by
  obtain ⟨pending, single⟩ := settles.pending_update ⟨false, false, some .connected, false⟩
    (by rw [waits]) rfl
  constructor
  case session => exact .inl rfl
  case waits => simp [Multiplexer.opened, none]
  case pending => exact pending
  case single => exact single
  case opening => simp [Multiplexer.opened]
  case dlcs => exact settles.dlcs_insert channel rfl
  case isBit => exact settles.isBit_insert { dlc with state := .connected } isBit _
  case few => exact settles.few
  case opened =>
    intro d other
    have seen := settles.opened d other
    by_cases equal : d = c
    · subst equal
      simpa [waits, openings] using seen
    · have apart : c <<< 1 ≠ d <<< 1 := fun clash => equal (other.eq_of_dlci channel clash.symm)
      simpa [Function.update_of_ne equal, apart] using seen
  case rejected =>
    intro d
    rw [proj_update rejections (by rw [waits]; rfl), List.count_append]
    simpa using settles.rejected d

end Settles

end Settles
end Multiplexer
end Simble.Rfcomm
