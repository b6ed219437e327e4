import Simble.Rfcomm.Handshake

/-! Every open resolves, as long as openings do not cross. Each opened channel is at one stage of
its exchange, which says what each side knows of it and which single frame about it is in flight.
A run on which no connection completes at a side that waits for its own answer keeps it so; opens
that cross otherwise lose one. -/
namespace Simble.Rfcomm
open Simble.Lib Multiplexer View List

inductive Stage where
  | asked
  | refused
  | answered
  | requested
  | acknowledged
  | opened
  | rejected
deriving DecidableEq, Repr

inductive Kind where
  | ask
  | refuse
  | answer
  | sabm
  | ua
deriving DecidableEq, Repr

/-- Who opens a channel, and how far that is. -/
abbrev Entry := Side × Stage

namespace Entry

def inFlight : Entry → Option (Side × Kind)
  | (caller, .asked) => some (caller.peer, .ask)
  | (caller, .refused) => some (caller, .refuse)
  | (caller, .answered) => some (caller, .answer)
  | (caller, .requested) => some (caller.peer, .sabm)
  | (caller, .acknowledged) => some (caller, .ua)
  | (_, .opened) | (_, .rejected) => none

def callerView : Stage → View
  | .asked | .refused | .answered => ⟨true, true, none, false⟩
  | .requested | .acknowledged => ⟨false, true, some .connecting, false⟩
  | .opened => ⟨false, false, some .connected, false⟩
  | .rejected => ⟨false, false, none, true⟩

def calleeView : Stage → View
  | .asked | .refused | .rejected => .blank
  | .answered | .requested => ⟨false, false, some .connecting, false⟩
  | .acknowledged | .opened => ⟨false, false, some .connected, false⟩

def view (i : Side) : Option Entry → View
  | none => .blank
  | some (caller, stage) => if caller = i then callerView stage else calleeView stage

end Entry

inductive About : Message → Option (Kind × UInt8) → Prop where
  | ask {params : MccPn} {c : UInt8} (dlci : params.dlci = c <<< 1) :
    About (.pn true params) (some (.ask, c))
  | answer {params : MccPn} {c : UInt8} (dlci : params.dlci = c <<< 1) :
    About (.pn false params) (some (.answer, c))
  | refuse (c : UInt8) : About (.dm (c <<< 1)) (some (.refuse, c))
  | sabm (c : UInt8) : About (.sabm (c <<< 1)) (some (.sabm, c))
  | ua (c : UInt8) : About (.ua (c <<< 1)) (some (.ua, c))
  | msc (command : Bool) (dlci : UInt8) : About (.msc command dlci) none

def Conveys (bytes : Bytes) (item : Option (Kind × UInt8)) : Prop :=
  ∃ message : Message, message.Carried bytes ∧ About message item

open Entry

namespace Pair

/-- The channels side `i` asked for with an `open_dlc` that returned `Ok`. -/
def opens (i : Side) (signals : List Signal) : List UInt8 :=
  signals.filterMap fun
    | .called j (.openDlc channel _ _) => if j = i then some channel else none
    | _ => none

def asked (signals : List Signal) : List UInt8 :=
  signals.filterMap fun
    | .called _ (.openDlc channel _ _) => some channel
    | _ => none

def events (i : Side) (signals : List Signal) : List MultiplexerEvent :=
  signals.flatMap (Signal.events i)

/-- Calls of `open_dlc` for a server channel, and deliveries. -/
def isOpening (_ : Pair) : Signal → Bool
  | .called _ (.openDlc channel _ _) => decide (Channel channel)
  | .refused _ (.openDlc ..) | .received .. | .dropped _ => true
  | _ => false

def OpensOnly (net : Pair) (signal : Signal) : Prop := net.isOpening signal = true

/-- No connection completes at a side that still waits for its own answer. -/
def Uncrossed (net : Pair) : Signal → Prop
  | .received i _ => ∀ frame ∈ (net.inbox i).head?.bind RfcommFrame.parse,
      (net.node i).Opens frame → (net.node i).pendingOpen = none
  | _ => True

instance (net : Pair) : (signal : Signal) → Decidable (net.Uncrossed signal)
  | .received i _ => inferInstanceAs (Decidable (∀ frame ∈ (net.inbox i).head?.bind RfcommFrame.parse,
      (net.node i).Opens frame → (net.node i).pendingOpen = none))
  | .called .. | .refused .. | .dropped .. => isTrue trivial

structure Resolved (signals : List Signal) (net : Pair) : Prop where
  answered : ∀ i, ∀ c ∈ opens i signals,
    (events i signals).count (.dlcOpened (c <<< 1)) +
      (events i signals).count (.dlcOpenRejected c) = 1
  settled : ∀ i, (net.node i).state ≠ .opening
  rejected : ∀ (i : Side) (c : UInt8), .dlcOpenRejected c ∈ events i signals →
    ∀ j, (net.node j).dlcs.lookup (c <<< 1) = none

/-- The stage of every channel, against what is in flight and both sides. -/
structure Resolving (signals : List Signal) (net : Pair) (log : UInt8 → Option Entry)
    (items : Side → List (Option (Kind × UInt8))) : Prop where
  logged : ∀ i c, c ∈ opens i signals ↔ ∃ stage, log c = some (i, stage)
  channel : ∀ c entry, log c = some entry → Channel c
  conveys : ∀ i, List.Forall₂ Conveys (net.inbox i) (items i)
  flight : ∀ i kind c, (items i).count (some (kind, c)) =
    if (log c).bind Entry.inFlight = some (i, kind) then 1 else 0
  settles : ∀ i, (net.node i).Settles (fun c => Entry.view i (log c)) (events i signals)

namespace Resolving
variable {signals : List Signal} {net : Pair} {log : UInt8 → Option Entry}
  {items : Side → List (Option (Kind × UInt8))}

theorem inFlight_of_mem (resolving : Resolving signals net log items) {i : Side} {kind : Kind}
    {c : UInt8} (member : some (kind, c) ∈ items i) :
    (log c).bind inFlight = some (i, kind) := by
  by_contra other
  have absent := resolving.flight i kind c
  rw [if_neg other, count_eq_zero] at absent
  exact absent member

/-- Channel `c` goes from one stage to the next by the frame side `i` takes. -/
structure Moves (i : Side) (c : UInt8) (caller : Side) (stage next : Stage)
    (out : List (Option (Kind × UInt8))) : Prop where
  left : ∀ kind, Entry.inFlight (caller, next) ≠ some (i, kind)
  sent : ∀ kind d, out.count (some (kind, d)) =
    if d = c ∧ Entry.inFlight (caller, next) = some (i.peer, kind) then 1 else 0
  unseen : Entry.view i.peer (some (caller, next)) = Entry.view i.peer (some (caller, stage))

theorem view_update (i : Side) (log : UInt8 → Option Entry) (c : UInt8) (entry : Entry) :
    (fun d => view i (Function.update log c (some entry) d)) =
      Function.update (fun d => view i (log d)) c (view i (some entry)) :=
  Function.comp_update (view i) log c (some entry)

theorem advance (resolving : Resolving signals net log items) {i caller : Side} {bytes : Bytes}
    {rest out : List Bytes} {kind : Kind} {c : UInt8} {stage next : Stage}
    {later sent : List (Option (Kind × UInt8))} {reported : List MultiplexerEvent}
    {mux : Multiplexer} (arrived : net.inbox i = bytes :: rest)
    (first : items i = some (kind, c) :: later) (entry : log c = some (caller, stage))
    (moves : Moves i c caller stage next sent) (conveys : List.Forall₂ Conveys out sent)
    (settles : mux.Settles
      (Function.update (fun d => view i (log d)) c (view i (some (caller, next))))
      (events i signals ++ reported)) :
    Resolving (signals ++ [.received i reported]) ((net.consume i rest).emit i mux out)
      (Function.update log c (some (caller, next))) fun k =>
        if k = i then later else items k ++ sent := by
  have flying : inFlight (caller, stage) = some (i, kind) := by
    have seen := resolving.inFlight_of_mem (first ▸ mem_cons_self : some (kind, c) ∈ items i)
    rwa [entry, Option.bind_some] at seen
  constructor
  case logged =>
    intro j d
    have same : opens j (signals ++ [.received i reported]) = opens j signals := by simp [opens]
    rw [same, resolving.logged j d]
    by_cases equal : d = c
    · subst equal
      simp [entry]
    · rw [Function.update_of_ne equal]
  case channel =>
    intro d other known
    by_cases equal : d = c
    · subst equal
      exact resolving.channel d _ entry
    · rw [Function.update_of_ne equal] at known
      exact resolving.channel d other known
  case conveys =>
    have whole := resolving.conveys
    rw [Side.forall_iff i]
    constructor
    · have seen := whole i
      rw [arrived, first, forall₂_cons] at seen
      simpa using seen.2
    · simpa using rel_append (whole i.peer) conveys
  case flight =>
    have before := resolving.flight
    rw [Side.forall_iff i]
    constructor
    · intro other d
      have seen := before i other d
      rw [first, count_cons] at seen
      rw [if_pos rfl]
      by_cases equal : d = c
      · subst equal
        rw [Function.update_self, Option.bind_some, if_neg (moves.left other)]
        rw [entry, Option.bind_some, flying] at seen
        by_cases same : kind = other <;> simp_all
      · rw [Function.update_of_ne equal]
        simpa [equal, Ne.symm equal] using seen
    · intro other d
      have seen := before i.peer other d
      rw [if_neg (Side.peer_ne i), count_append, seen, moves.sent]
      by_cases equal : d = c
      · subst equal
        simp [entry, flying]
      · simp [equal]
  case settles =>
    have before := resolving.settles
    rw [Side.forall_iff i]
    constructor
    · rw [view_update]
      simpa [events, Signal.events] using settles
    · rw [view_update, moves.unseen]
      have same : view i.peer (some (caller, stage)) = view i.peer (log c) := by rw [entry]
      rw [same]
      simpa [events, Signal.events] using before i.peer

theorem entry_of_inFlight {i : Side} {kind : Kind} {entry : Option Entry}
    (flying : entry.bind inFlight = some (i, kind)) :
    entry = match kind with
      | .ask => some (i.peer, .asked)
      | .refuse => some (i, .refused)
      | .answer => some (i, .answered)
      | .sabm => some (i.peer, .requested)
      | .ua => some (i, .acknowledged) := by
  cases entry with
  | none => simp at flying
  | some entry =>
    obtain ⟨caller, stage⟩ := entry
    cases stage <;> simp [inFlight] at flying <;> obtain ⟨rfl, rfl⟩ := flying <;> simp

theorem count_silent {sent : List (Option (Kind × UInt8))} (silent : ∀ item ∈ sent, item = none)
    (about : Kind × UInt8) : sent.count (some about) = 0 :=
  count_eq_zero.mpr fun member => by simpa using silent _ member

theorem moves_sending {i caller : Side} {c : UInt8} {stage : Stage} (next : Stage) (kind : Kind)
    (flies : inFlight (caller, next) = some (i.peer, kind))
    (unseen : view i.peer (some (caller, next)) = view i.peer (some (caller, stage)))
    (signals : List (Option (Kind × UInt8))) (silent : ∀ item ∈ signals, item = none) :
    Moves i c caller stage next (some (kind, c) :: signals) where
  left other := by simp [flies]
  sent other d := by
    rw [count_cons, count_silent silent, Nat.zero_add, flies]
    refine if_congr ?_ rfl rfl
    simp only [beq_iff_eq, Option.some.injEq, Prod.mk.injEq, true_and]
    exact ⟨fun ⟨same, equal⟩ => ⟨equal.symm, same⟩, fun ⟨equal, same⟩ => ⟨same, equal.symm⟩⟩
  unseen := unseen

theorem moves_ending {i caller : Side} {c : UInt8} {stage : Stage} (next : Stage)
    (lands : inFlight (caller, next) = none)
    (unseen : view i.peer (some (caller, next)) = view i.peer (some (caller, stage)))
    (signals : List (Option (Kind × UInt8))) (silent : ∀ item ∈ signals, item = none) :
    Moves i c caller stage next signals where
  left other := by simp [lands]
  sent other d := by
    rw [lands, count_silent silent]
    simp
  unseen := unseen

/-- Modem status signalling changes nothing. -/
theorem signalled (resolving : Resolving signals net log items) {i : Side} {bytes : Bytes}
    {rest out : List Bytes} {later sent : List (Option (Kind × UInt8))}
    (arrived : net.inbox i = bytes :: rest) (first : items i = none :: later)
    (conveys : List.Forall₂ Conveys out sent) (silent : ∀ item ∈ sent, item = none) :
    Resolving (signals ++ [.received i []]) ((net.consume i rest).emit i (net.node i) out) log
      fun k => if k = i then later else items k ++ sent := by
  have heard : ∀ j, events j (signals ++ [.received i []]) = events j signals := by
    simp [events, Signal.events]
  constructor
  case logged => simpa [opens] using resolving.logged
  case channel => exact resolving.channel
  case conveys =>
    have whole := resolving.conveys
    rw [Side.forall_iff i]
    constructor
    · have seen := whole i
      rw [arrived, first, forall₂_cons] at seen
      simpa using seen.2
    · simpa using rel_append (whole i.peer) conveys
  case flight =>
    have before := resolving.flight
    rw [Side.forall_iff i]
    constructor
    · intro kind d
      simpa [first] using before i kind d
    · intro kind d
      simpa [count_silent silent] using before i.peer kind d
  case settles =>
    rw [Side.forall_iff i]
    exact ⟨by simpa [heard] using resolving.settles i, by simpa [heard] using resolving.settles i.peer⟩

theorem called (resolving : Resolving signals net log items) {i : Side} {c : UInt8} {size : UInt16}
    {credits : UInt8} {bytes : Bytes} {after : Multiplexer} (channel : Channel c)
    (fresh : c ∉ asked signals) (ran : (net.node i).openDlc c size credits = .ok (bytes, after)) :
    Resolving (signals ++ [.called i (.openDlc c size credits)]) (net.emit i after [bytes])
      (Function.update log c (some (i, .asked))) fun k =>
        if k = i then items k else items k ++ [some (.ask, c)] := by
  have unknown : log c = none := by
    by_contra known
    obtain ⟨⟨j, stage⟩, known⟩ := Option.ne_none_iff_exists'.mp known
    have member := (resolving.logged j c).mpr ⟨stage, known⟩
    simp only [opens, mem_filterMap] at member
    obtain ⟨signal, present, named⟩ := member
    refine fresh (mem_filterMap.mpr ⟨signal, present, ?_⟩)
    split at named
    · split at named
      · exact named
      · contradiction
    · contradiction
  have heard : ∀ j, events j (signals ++ [.called i (.openDlc c size credits)]) = events j signals := by
    simp [events, Signal.events]
  obtain ⟨settles, params, dlci, carried⟩ :=
    (resolving.settles i).openDlc (by rw [unknown]; rfl) ran
  constructor
  case logged =>
    intro j d
    have grown : opens j (signals ++ [.called i (.openDlc c size credits)]) =
        opens j signals ++ if i = j then [c] else [] := by
      by_cases same : i = j <;> simp [opens, same]
    rw [grown, mem_append, resolving.logged j d]
    by_cases equal : d = c
    · subst equal
      by_cases same : i = j <;> simp [unknown, same]
    · by_cases same : i = j <;> simp [equal, same]
  case channel =>
    intro d other known
    by_cases equal : d = c
    · exact equal ▸ channel
    · rw [Function.update_of_ne equal] at known
      exact resolving.channel d other known
  case conveys =>
    have whole := resolving.conveys
    rw [Side.forall_iff i]
    constructor
    · simpa using whole i
    · have asks : List.Forall₂ Conveys [bytes] [some (.ask, c)] :=
        .cons ⟨_, carried, .ask dlci⟩ .nil
      simpa using rel_append (whole i.peer) asks
  case flight =>
    have before := resolving.flight
    rw [Side.forall_iff i]
    constructor
    · intro kind d
      rw [if_pos rfl, before]
      by_cases equal : d = c
      · subst equal
        simp [unknown, inFlight]
      · simp [equal]
    · intro kind d
      rw [if_neg (Side.peer_ne i), count_append, before]
      by_cases equal : d = c
      · subst equal
        simp [unknown, inFlight, count_singleton]
      · simp [equal, Ne.symm equal]
  case settles =>
    rw [Side.forall_iff i]
    constructor
    · rw [view_update]
      simpa [heard, view, callerView] using settles
    · have unseen : view i.peer (some (i, .asked)) = view i.peer (log c) := by
        simp [view, calleeView, unknown]
      rw [view_update, unseen]
      simpa [heard] using resolving.settles i.peer

section Receive
variable {i : Side} {c : UInt8} {bytes : Bytes} {rest : List Bytes}
  {later : List (Option (Kind × UInt8))}

/-- The frame is taken and, if that crosses nothing, the stages move on. -/
def Takes (signals : List Signal) (net : Pair) (i : Side) (rest : List Bytes) (message : Message) :
    Prop :=
  ∃ out reported after, (net.node i).onMessage message = .ok ((out, reported), after) ∧
    (Uncrossed net (.received i reported) → ∃ log items,
      Resolving (signals ++ [.received i reported]) ((net.consume i rest).emit i after out) log items)

section Arrived
variable (resolving : Resolving signals net log items) (arrived : net.inbox i = bytes :: rest)
include resolving arrived

theorem receive_ask (first : items i = some (.ask, c) :: later)
    (entry : log c = some (i.peer, .asked)) {params : MccPn}
    (few : params.initialCredits ≤ maxInitialCredits) (dlci : params.dlci = c <<< 1) :
    Takes signals net i rest (.pn true params) := by
  have channel := resolving.channel c _ entry
  have blank : view i (log c) = .blank := by simp [entry, view, calleeView]
  have settles := resolving.settles i
  rcases settles.onMccPnCommand channel blank dlci with
    ⟨answer, refused, carried⟩ | ⟨answer, response, after, accepted, named, carried, settled⟩
  · have moves : Moves i c i.peer .asked .refused [some (.refuse, c)] :=
      moves_sending .refused .refuse rfl (by simp [view, callerView]) [] (by simp)
    refine ⟨[answer], [], net.node i, ?_, fun _ => ⟨_, _, resolving.advance arrived first entry moves
      (.cons ⟨_, carried, .refuse c⟩ .nil) ?_⟩⟩
    · rw [onMessage_pn few, if_pos rfl, refused]
    · have same : view i (some (i.peer, .refused)) = view i (log c) := by
        rw [blank]
        simp [view, calleeView]
      rw [same, Function.update_eq_self, append_nil]
      exact settles
  · have moves : Moves i c i.peer .asked .answered [some (.answer, c)] :=
      moves_sending .answered .answer rfl (by simp [view, callerView]) [] (by simp)
    refine ⟨[answer], [], after, ?_, fun _ => ⟨_, _, resolving.advance arrived first entry moves
      (.cons ⟨_, carried, .answer named⟩ .nil) ?_⟩⟩
    · rw [onMessage_pn few, if_pos rfl, accepted]
    · simpa [view, calleeView] using settled

theorem receive_refuse (first : items i = some (.refuse, c) :: later)
    (entry : log c = some (i, .refused)) : Takes signals net i rest (.dm (c <<< 1)) := by
  have channel := resolving.channel c _ entry
  have waits : view i (log c) = ⟨true, true, none, false⟩ := by
    simp [entry, view, callerView]
  obtain ⟨after, rejected, settled⟩ := (resolving.settles i).onDmFrame channel waits
  have moves : Moves i c i .refused .rejected [] :=
    moves_ending .rejected rfl (by simp [view, calleeView]) [] (by simp)
  refine ⟨[], [.dlcOpenRejected c], after, ?_, fun _ => ⟨_, _, resolving.advance arrived first entry
    moves .nil ?_⟩⟩
  · rw [onMessage_dm (validDlci_channel channel).1, rejected]
  · simpa [view, callerView] using settled

theorem receive_answer (first : items i = some (.answer, c) :: later)
    (entry : log c = some (i, .answered)) {params : MccPn}
    (few : params.initialCredits ≤ maxInitialCredits) (dlci : params.dlci = c <<< 1) :
    Takes signals net i rest (.pn false params) := by
  have channel := resolving.channel c _ entry
  have waits : view i (log c) = ⟨true, true, none, false⟩ := by
    simp [entry, view, callerView]
  obtain ⟨request, after, accepted, carried, settled⟩ :=
    (resolving.settles i).onMccPnResponse channel waits dlci
  have moves : Moves i c i .answered .requested [some (.sabm, c)] :=
    moves_sending .requested .sabm rfl (by simp [view, calleeView]) [] (by simp)
  refine ⟨[request], [], after, ?_, fun _ => ⟨_, _, resolving.advance arrived first entry moves
    (.cons ⟨_, carried, .sabm c⟩ .nil) ?_⟩⟩
  · rw [onMessage_pn few, if_neg (by decide), accepted]
  · simpa [view, callerView] using settled

end Arrived

theorem opens_connecting {mux : Multiplexer} {message : Message} {dlci : UInt8} {dlc : Dlc}
    (carried : message.Carried bytes) (names : message = .sabm dlci ∨ message = .ua dlci)
    (present : mux.dlcs.lookup dlci = some dlc) (state : dlc.state = .connecting) :
    ∃ frame, RfcommFrame.parse bytes = some frame ∧ mux.Opens frame := by
  obtain ⟨cR, parsed⟩ := carried.parse
  refine ⟨_, parsed, ?_⟩
  rcases names with rfl | rfl
  · exact ⟨carried.wellFormed.data, .inl ⟨dlc, present, state, .inl rfl⟩⟩
  · exact ⟨carried.wellFormed.data, .inl ⟨dlc, present, state, .inr rfl⟩⟩

theorem receive_sabm (resolving : Resolving signals net log items)
    (arrived : net.inbox i = bytes :: rest) (first : items i = some (.sabm, c) :: later)
    (entry : log c = some (i.peer, .requested)) (carried : (Message.sabm (c <<< 1)).Carried bytes) :
    Takes signals net i rest (.sabm (c <<< 1)) := by
  have channel := resolving.channel c _ entry
  have valid := (validDlci_channel channel).1
  have waits : view i (log c) = ⟨false, false, some .connecting, false⟩ := by
    simp [entry, view, calleeView]
  obtain ⟨dlc, present, state, isBit⟩ := (resolving.settles i).found channel (by rw [waits])
  obtain ⟨frame, parsed, opens⟩ := opens_connecting carried (.inl rfl) present state
  have moves : Moves i c i.peer .requested .acknowledged [some (.ua, c), none] :=
    moves_sending .acknowledged .ua rfl (by simp [view, callerView]) [none] (by simp)
  have ran := onMessage_sabm valid present
  rw [if_pos state] at ran
  refine ⟨_, _, _, ran, fun uncrossed => ⟨_, _, resolving.advance arrived first entry moves
    (.cons ⟨.ua (c <<< 1), ⟨valid, _, isBit.flip, rfl⟩, .ua c⟩
      (.cons ⟨.msc true (c <<< 1), ⟨valid, _, isBit, rfl⟩, .msc true _⟩ .nil)) ?_⟩⟩
  have free := uncrossed frame (by simp [arrived, parsed]) opens
  have shown : view i (some (i.peer, .acknowledged)) =
      ⟨false, false, some .connected, false⟩ := by simp [view, calleeView]
  rw [shown]
  exact (resolving.settles i).complete channel waits free isBit []

theorem receive_ua (resolving : Resolving signals net log items)
    (arrived : net.inbox i = bytes :: rest) (first : items i = some (.ua, c) :: later)
    (entry : log c = some (i, .acknowledged)) (carried : (Message.ua (c <<< 1)).Carried bytes) :
    Takes signals net i rest (.ua (c <<< 1)) := by
  have channel := resolving.channel c _ entry
  have valid := (validDlci_channel channel).1
  have waits : view i (log c) = ⟨false, true, some .connecting, false⟩ := by
    simp [entry, view, callerView]
  obtain ⟨dlc, present, state, isBit⟩ := (resolving.settles i).found channel (by rw [waits])
  obtain ⟨frame, parsed, opens⟩ := opens_connecting carried (.inr rfl) present state
  have moves : Moves i c i .acknowledged .opened [none] :=
    moves_ending .opened rfl (by simp [view, calleeView]) [none] (by simp)
  have ran := onMessage_ua valid present (.inl state)
  rw [if_pos state] at ran
  refine ⟨_, _, _, ran, fun uncrossed => ⟨_, _, resolving.advance arrived first entry moves
    (.cons ⟨.msc true (c <<< 1), ⟨valid, _, isBit, rfl⟩, .msc true _⟩ .nil) ?_⟩⟩
  have free := uncrossed frame (by simp [arrived, parsed]) opens
  have shown : view i (some (i, .opened)) = ⟨false, false, some .connected, false⟩ := by
    simp [view, callerView]
  rw [shown]
  exact (resolving.settles i).complete channel waits free isBit []

end Receive

theorem receive (resolving : Resolving signals net log items) {i : Side} {bytes : Bytes}
    {rest : List Bytes} (arrived : net.inbox i = bytes :: rest) :
    ∃ out reported after, (net.node i).receive bytes = .ok ((out, reported), after) ∧
      (Uncrossed net (.received i reported) → ∃ log items,
        Resolving (signals ++ [.received i reported]) ((net.consume i rest).emit i after out)
          log items) := by
  obtain ⟨item, later, ⟨message, carried, about⟩, _, first⟩ :=
    forall₂_cons_left_iff.mp (arrived ▸ resolving.conveys i)
  rw [receive_carried _ carried]
  cases item with
  | none =>
    cases about with
    | msc command dlci =>
      have valid : ValidDlci dlci := carried.wellFormed
      cases found : (net.node i).dlcs.lookup dlci with
      | none =>
        exact ⟨[], [], _, onMessage_msc_absent valid found, fun _ =>
          ⟨log, _, resolving.signalled arrived first .nil (by simp)⟩⟩
      | some dlc =>
        refine ⟨_, [], _, onMessage_msc valid found, fun _ => ?_⟩
        cases command
        · exact ⟨log, _, resolving.signalled arrived first .nil (by simp)⟩
        · have isBit := (resolving.settles i).isBit dlci dlc found
          have answer : Conveys ((Message.msc false dlci).frame dlc.cR).toBytes none :=
            ⟨.msc false dlci, ⟨valid, _, isBit, rfl⟩, .msc false dlci⟩
          exact ⟨log, _, resolving.signalled arrived first (.cons answer .nil) (by simp)⟩
  | some item =>
    obtain ⟨kind, c⟩ := item
    have flying := resolving.inFlight_of_mem (first ▸ mem_cons_self : some (kind, c) ∈ items i)
    have entry := entry_of_inFlight flying
    cases about with
    | ask dlci => exact resolving.receive_ask arrived first entry carried.wellFormed dlci
    | answer dlci => exact resolving.receive_answer arrived first entry carried.wellFormed dlci
    | refuse => exact resolving.receive_refuse arrived first entry
    | sabm => exact resolving.receive_sabm arrived first entry carried
    | ua => exact resolving.receive_ua arrived first entry carried

theorem refused (resolving : Resolving signals net log items) (i : Side) (call : Call) :
    Resolving (signals ++ [.refused i call]) net log items :=
  { resolving with
    logged := by simpa [opens] using resolving.logged
    settles := by simpa [events, Signal.events] using resolving.settles }

theorem step (resolving : Resolving signals net log items) {signal : Signal} {next : Pair}
    (distinct : (asked (signals ++ [signal])).Nodup) (only : net.OpensOnly signal)
    (uncrossed : net.Uncrossed signal) (stepped : Step net signal next) :
    ∃ log items, Resolving (signals ++ [signal]) next log items := by
  cases stepped with
  | @call i call frames reported mux ran =>
    cases call with
    | openDlc c size credits =>
      obtain ⟨⟨bytes, after⟩, called, finished⟩ := Rust.bind_eq_ok.mp ran
      cases finished
      have grown : asked (signals ++ [.called i (.openDlc c size credits)]) = asked signals ++ [c] := by
        simp [asked]
      rw [grown, nodup_append] at distinct
      have fresh : c ∉ asked signals := fun member =>
        distinct.2.2 c member c (mem_singleton_self c) rfl
      exact ⟨_, _, resolving.called (of_decide_eq_true only) fresh called⟩
    | _ => exact nomatch only
  | refuse => exact ⟨log, items, resolving.refused _ _⟩
  | receive arrived ran =>
    obtain ⟨out, reported, after, received, goes⟩ := resolving.receive arrived
    rw [received] at ran
    cases ran
    exact goes uncrossed
  | drop arrived failed =>
    obtain ⟨out, reported, after, received, _⟩ := resolving.receive arrived
    rw [received] at failed
    contradiction

/-- Nothing has been asked of a started pair. -/
theorem started (initiator : Side) (peerMtu : Side → UInt16)
    (listens : Side → List (UInt8 × UInt16 × UInt8)) :
    Resolving [] (started initiator peerMtu listens) (fun _ => none) fun _ => [] where
  logged i c := by simp [opens]
  channel c entry known := by contradiction
  conveys i := .nil
  flight i kind c := by simp
  settles i := by
    obtain ⟨listenConfigs, node, few⟩ := fresh_node initiator peerMtu listens i
    have same : (Pair.started initiator peerMtu listens).node i =
        { new (roleAt initiator i) (peerMtu i) with
          state := .connected, listenConfigs } := by simp only [Pair.started, node]
    rw [same]
    exact
      { session := .inl rfl
        waits := by simp [new]
        pending := by simp [new, view, blank]
        single := by simp [view, blank]
        opening := by simp
        dlcs := by simp [new, view, blank]
        isBit := by simp [new]
        few
        opened := by simp [events, view, blank, openings]
        rejected := by simp [events, view, blank, rejections] }

/-- With nothing in flight every channel is opened or rejected. -/
theorem resolved (resolving : Resolving signals net log items) (quiescent : net.Quiescent) :
    Resolved signals net := by
  have landed (c : UInt8) : (log c).bind inFlight = none := by
    by_contra flying
    obtain ⟨⟨i, kind⟩, flying⟩ := Option.ne_none_iff_exists'.mp flying
    have empty : items i = [] := forall₂_nil_left_iff.mp (quiescent i ▸ resolving.conveys i)
    have count := resolving.flight i kind c
    simp [empty, flying] at count
  have landedStage {i : Side} {c : UInt8} {stage : Stage} (entry : log c = some (i, stage)) :
      stage = .opened ∨ stage = .rejected := by
    have none := landed c
    rw [entry, Option.bind_some] at none
    cases stage <;> simp [inFlight] at none ⊢
  constructor
  case answered =>
    intro i c asked
    obtain ⟨stage, entry⟩ := (resolving.logged i c).mp asked
    have settles := resolving.settles i
    rw [settles.opened c (resolving.channel c _ entry), settles.rejected c]
    rcases landedStage entry with rfl | rfl <;>
      simp [entry, view, callerView, openings, rejections]
  case settled =>
    intro i state
    obtain ⟨c, unresolved⟩ := (resolving.settles i).opening state
    cases entry : log c with
    | none => simp [entry, view, blank] at unresolved
    | some known =>
      obtain ⟨caller, stage⟩ := known
      rcases landedStage entry with rfl | rfl <;> by_cases same : caller = i <;>
        simp [entry, view, callerView, calleeView, blank, same] at unresolved
  case rejected =>
    intro i c reported j
    have count := (resolving.settles i).rejected c
    have positive := count_pos_iff.mpr reported
    have refused : (view i (log c)).rejected := by
      by_contra other
      simp [rejections, other] at count
      omega
    cases entry : log c with
    | none => simp [entry, view, blank] at refused
    | some known =>
      obtain ⟨caller, stage⟩ := known
      have gone : (view j (log c)).dlc = none := by
        rcases landedStage entry with rfl | rfl
        · by_cases same : caller = i <;>
            simp [entry, view, callerView, calleeView, same] at refused
        · by_cases here : caller = j <;>
            simp [entry, view, callerView, calleeView, blank, here]
      have seen := (resolving.settles j).dlcs c (resolving.channel c _ entry)
      rw [gone, Option.map_eq_none_iff] at seen
      exact seen

end Resolving

/-- Every frame in flight is taken without an error. -/
def Receives (net : Pair) : Prop :=
  ∀ i bytes rest, net.inbox i = bytes :: rest → ∃ answer, (net.node i).receive bytes = .ok answer

/-- In a run that asks for each channel once and lets no connection complete at
a side that waits for its own answer, every open is resolved once nothing is in
flight. -/
theorem opens_resolve {initiator : Side} {peerMtu : Side → UInt16}
    {listens : Side → List (UInt8 × UInt16 × UInt8)} {signals : List Signal} {net : Pair}
    (ran : Run (Guarded (fun net signal => net.OpensOnly signal ∧ net.Uncrossed signal) Step)
      (started initiator peerMtu listens) signals net)
    (distinct : (asked signals).Nodup) :
    net.Receives ∧ (net.Quiescent → Resolved signals net) := by
  have resolving : ∃ log items, Resolving signals net log items := by
    refine ran.invariant (P := fun signals net => (asked signals).Nodup →
      ∃ log items, Resolving signals net log items) (fun _ => ⟨_, _, .started _ _ _⟩) ?_ distinct
    intro signals net signal next resolving stepped distinct
    have earlier : (asked signals).Nodup := by
      refine distinct.sublist ?_
      rw [asked, asked, filterMap_append]
      exact sublist_append_left _ _
    obtain ⟨log, items, resolving⟩ := resolving earlier
    exact resolving.step distinct stepped.1.1 stepped.1.2 stepped.2
  obtain ⟨log, items, resolving⟩ := resolving
  refine ⟨fun i bytes rest arrived => ?_, resolving.resolved⟩
  obtain ⟨out, reported, after, received, _⟩ := resolving.receive arrived
  exact ⟨_, received⟩

/-- Each side listens on the channel the other one opens. -/
def crossed : Pair :=
  started .left (fun _ => 1000) fun
    | .left => [(2, 1000, 7)]
    | .right => [(1, 1000, 7)]

/-- Both sides ask before either is answered. -/
def crossingMoves : List Move :=
  [.call .left (.openDlc 1 1000 7), .call .right (.openDlc 2 1000 7), .deliver .right, .deliver .left,
    .deliver .left, .deliver .right, .deliver .right, .deliver .left, .deliver .left, .deliver .left,
    .deliver .right, .deliver .right, .deliver .right, .deliver .right, .deliver .left,
    .deliver .left, .deliver .left, .deliver .right]

theorem opens_resolve_crossing : ∃ signals net,
    Run (Guarded (fun net signal => net.OpensOnly signal ∧ net.Uncrossed signal) Step) crossed
        signals net ∧
      asked signals = [1, 2] ∧ Resolved signals net := by
  let allowed (net : Pair) (signal : Signal) : Bool := net.isOpening signal && decide (net.Uncrossed signal)
  obtain ⟨⟨signals, net⟩, played, outcome⟩ := Option.map_eq_some_iff.mp
    (show (play allowed crossed crossingMoves).map
        (fun last => (asked last.1, last.2.inbox .left, last.2.inbox .right)) =
      some ([1, 2], [], []) by decide +kernel)
  obtain ⟨both, left, right⟩ : _ ∧ _ ∧ _ := by simpa using outcome
  have ran : Run (Guarded (fun net signal => net.OpensOnly signal ∧ net.Uncrossed signal) Step) crossed
      signals net := (play_run .nil played).mono fun ⟨met, stepped⟩ =>
    ⟨by simpa [allowed, OpensOnly] using met, stepped⟩
  have quiescent : net.Quiescent := by
    rintro (_ | _)
    · exact left
    · exact right
  exact ⟨signals, net, ran, both, (opens_resolve ran (by rw [both]; decide)).2 quiescent⟩

/-- The right side asks after it has answered, so the SABM it waits for comes
while its own command is unanswered. -/
def cancellingMoves : List Move :=
  [.call .left (.openDlc 1 1000 7), .deliver .right, .call .right (.openDlc 2 1000 7), .deliver .left,
    .deliver .left, .deliver .right, .deliver .right, .deliver .left, .deliver .left, .deliver .right,
    .deliver .right, .deliver .left]

/-- Its own open is then never resolved. -/
theorem not_opens_resolve :
    ¬ ∀ (initiator : Side) (peerMtu : Side → UInt16) (listens : Side → List (UInt8 × UInt16 × UInt8))
        (signals : List Signal) (net : Pair),
      Run (Guarded OpensOnly Step) (started initiator peerMtu listens) signals net →
        (asked signals).Nodup → net.Quiescent → Resolved signals net := by
  intro resolves
  obtain ⟨⟨signals, net⟩, played, outcome⟩ := Option.map_eq_some_iff.mp
    (show (play isOpening crossed cancellingMoves).map
        (fun last => (asked last.1, opens .right last.1, last.2.inbox .left ++ last.2.inbox .right,
          (events .right last.1).count (.dlcOpened ((2 : UInt8) <<< 1)) +
            (events .right last.1).count (.dlcOpenRejected 2))) =
      some ([1, 2], [2], [], 0) by decide +kernel)
  obtain ⟨both, right, empty, unresolved⟩ : _ ∧ _ ∧ _ ∧ _ := by simpa using outcome
  have quiescent : net.Quiescent := by
    rintro (_ | _)
    · exact empty.1
    · exact empty.2
  have resolved := resolves _ _ _ signals net (play_run .nil played) (by rw [both]; decide) quiescent
  have answered := resolved.answered .right 2 (by rw [right]; decide)
  omega

end Pair
end Simble.Rfcomm
