import Simble.Device.ClassicHost

/-! What the protocol handlers of a host are told about their channels: each handler with a log of
its calls, beside the host's three sets of channels (the manager's table, `local_cids` and
`announced_cids`). -/
namespace Simble.Device
open L2cap Hci ProtocolHandler List

inductive Notice where
  | opened (channel : HandlerChannel)
  | lost (cid : UInt16)
  | data (channel : HandlerChannel) (bytes : Bytes)
  | closed
deriving DecidableEq

structure Logged (H : Type) where
  state : H
  log : List Notice

variable {H : Type} [ProtocolHandler H]

instance : ProtocolHandler (Logged H) where
  onChannelOpen handler channel :=
    ⟨onChannelOpen handler.state channel, handler.log ++ [.opened channel]⟩
  onChannelLost handler cid := ⟨onChannelLost handler.state cid, handler.log ++ [.lost cid]⟩
  onChannelData handler channel bytes :=
    (⟨(onChannelData handler.state channel bytes).1, handler.log ++ [.data channel bytes]⟩,
      (onChannelData handler.state channel bytes).2)
  pollChannelOutput handler channel :=
    ({ handler with state := (pollChannelOutput handler.state channel).1 },
      (pollChannelOutput handler.state channel).2)
  pollChannelRequests handler :=
    ({ handler with state := (pollChannelRequests handler.state).1 },
      (pollChannelRequests handler.state).2)
  onChannelClosed handler := ⟨onChannelClosed handler.state, handler.log ++ [.closed]⟩

/-! ## Logs -/

/-- Follows one channel identifier through a log: whether the handler has been told that it is
open, as long as it is told so once, of its data only then, and of nothing after it is lost. -/
def follow (cid : UInt16) (told : Option Bool) (notice : Notice) : Option Bool :=
  match notice with
  | .opened channel =>
    if channel.cid = cid then if told = some false then some true else none else told
  | .data channel _ =>
    if channel.cid = cid then if told = some true then some true else none else told
  | .lost lost => if lost = cid then told.map fun _ => false else told
  | .closed => told

def told (cid : UInt16) (log : List Notice) : Option Bool := log.foldl (follow cid) (some false)

theorem told_snoc (cid : UInt16) (log : List Notice) (notice : Notice) :
    told cid (log ++ [notice]) = follow cid (told cid log) notice := by
  rw [told, foldl_append]
  rfl

theorem follow_refused (cid : UInt16) (notices : List Notice) :
    notices.foldl (follow cid) none = none := by
  induction notices with
  | nil => rfl
  | cons notice rest ih =>
    have still : follow cid none notice = none := by
      cases notice <;> simp [follow]
    rw [foldl_cons, still, ih]

/-- Nothing but a loss closes a channel. -/
theorem lost_of_told {cid : UInt16} {log more : List Notice} (before : told cid log = some true)
    (after : told cid (log ++ more) = some false) : .lost cid ∈ more := by
  rw [told, foldl_append] at after
  change more.foldl (follow cid) (told cid log) = some false at after
  rw [before] at after
  clear before
  induction more with
  | nil => cases after
  | cons notice rest ih =>
    rw [foldl_cons] at after
    have kept : follow cid (some true) notice = some true ∨
        follow cid (some true) notice = none ∨ notice = .lost cid := by
      cases notice with
      | opened channel => by_cases same : channel.cid = cid <;> simp [follow, same]
      | lost other => by_cases same : other = cid <;> simp [follow, same]
      | data channel bytes => by_cases same : channel.cid = cid <;> simp [follow, same]
      | closed => exact .inl rfl
    rcases kept with still | refused | rfl
    · rw [still] at after
      exact .tail _ (ih after)
    · rw [refused, follow_refused] at after
      contradiction
    · exact .head _

abbrev Logs := List (List UInt16 × List Notice)

namespace Logs

def route (logs : Logs) (psm : UInt16) : Option Nat := logs.findIdx? fun entry => psm ∈ entry.1

def say (psm : UInt16) (notices : List Notice) : Logs → Logs
  | [] => []
  | entry :: rest =>
    if psm ∈ entry.1 then (entry.1, entry.2 ++ notices) :: rest else entry :: say psm notices rest

variable (logs : Logs) (psm : UInt16) (notices : List Notice)

theorem say_nil : logs.say psm [] = logs := by
  induction logs with
  | nil => rfl
  | cons entry rest ih =>
    unfold say
    split
    · rw [append_nil]
    · rw [ih]

theorem map_fst_say : (logs.say psm notices).map Prod.fst = logs.map Prod.fst := by
  induction logs with
  | nil => rfl
  | cons entry rest ih =>
    unfold say
    split
    · rfl
    · rw [map_cons, map_cons, ih]

theorem route_eq (other : UInt16) :
    logs.route other = (logs.map Prod.fst).findIdx? fun psms => other ∈ psms := by
  rw [route, List.findIdx?_map]
  rfl

theorem route_say (other : UInt16) : (logs.say psm notices).route other = logs.route other := by
  rw [route_eq, map_fst_say, ← route_eq]

theorem getElem?_say (i : Nat) :
    (logs.say psm notices)[i]? =
      if logs.route psm = some i then (logs[i]?).map fun entry => (entry.1, entry.2 ++ notices)
      else logs[i]? := by
  induction logs generalizing i with
  | nil => simp [say]
  | cons entry rest ih =>
    unfold say route
    rw [List.findIdx?_cons]
    by_cases serves : psm ∈ entry.1
    · simp only [serves, if_true, decide_true]
      cases i with
      | zero => simp
      | succ i => simp
    · simp only [serves, if_false, decide_false, Bool.false_eq_true]
      cases i with
      | zero => simp
      | succ i =>
        rw [List.getElem?_cons_succ, ih, List.getElem?_cons_succ]
        unfold route
        cases rest.findIdx? fun entry => psm ∈ entry.1 <;> simp

/-- Every log goes on, with so many losses of each channel at most. -/
def Grown (allowed : UInt16 → Nat) (before after : Logs) : Prop :=
  ∀ (i : Nat) (entry : List UInt16 × List Notice), before[i]? = some entry →
    ∃ more, after[i]? = some (entry.1, entry.2 ++ more) ∧
      ∀ cid, more.count (.lost cid) ≤ allowed cid

theorem Grown.rfl {logs : Logs} (allowed : UInt16 → Nat) : Grown allowed logs logs :=
  fun _ entry found => ⟨[], by rw [append_nil]; exact found, fun _ => Nat.zero_le _⟩

theorem Grown.trans {first second third : Logs} {allowed more : UInt16 → Nat}
    (before : Grown allowed first second) (after : Grown more second third) :
    Grown (fun cid => allowed cid + more cid) first third := by
  intro i entry found
  obtain ⟨some, next, few⟩ := before i entry found
  obtain ⟨others, final, further⟩ := after i _ next
  refine ⟨some ++ others, by rw [← append_assoc]; exact final, fun cid => ?_⟩
  rw [count_append]
  exact Nat.add_le_add (few cid) (further cid)

theorem Grown.mono {before after : Logs} {allowed more : UInt16 → Nat}
    (grown : Grown allowed before after) (fewer : ∀ cid, allowed cid ≤ more cid) :
    Grown more before after := by
  intro i entry found
  obtain ⟨notices, next, few⟩ := grown i entry found
  exact ⟨notices, next, fun cid => (few cid).trans (fewer cid)⟩

theorem grown_say : Grown (fun cid => notices.count (.lost cid)) logs (logs.say psm notices) := by
  intro i entry found
  rw [getElem?_say, found]
  split
  · exact ⟨notices, rfl, fun _ => Nat.le_refl _⟩
  · exact ⟨[], by rw [append_nil], fun _ => Nat.zero_le _⟩

end Logs

/-! ## The sets of channels -/

structure Books where
  channels : ClassicChannelManager
  localCids : List UInt16
  announcedCids : List UInt16
  logs : Logs

/-- A channel is entered under its own identifier, is open only when it is
configured in both directions, and has its peer's identifier from the peer. -/
structure Sound (learned : UInt16 → UInt16) (cid : UInt16) (channel : ClassicChannel) : Prop where
  named : channel.cid = cid
  configured : channel.isOpen → channel.localConfigDone ∧ channel.remoteConfigDone
  learnt : channel.peerCid ≠ 0 → learned cid = channel.peerCid

namespace Books

/-- The handler has been told that the channel is open, and it still is there. -/
def Heard (books : Books) (i : Nat) (cid : UInt16) : Prop :=
  cid ∈ books.announcedCids ∧ ∃ channel, books.channels.getChannel cid = some channel ∧
    books.logs.route channel.psm = some i

structure Tidy (learned : UInt16 → UInt16) (books : Books) : Prop where
  nodup : books.localCids.Nodup
  listed : ∀ cid, cid ∈ books.localCids ↔ (books.channels.getChannel cid).isSome
  sound : ∀ cid channel, books.channels.getChannel cid = some channel → Sound learned cid channel
  announced : ∀ cid ∈ books.announcedCids, ∃ channel,
    books.channels.getChannel cid = some channel ∧
      channel.localConfigDone ∧ channel.remoteConfigDone
  told : ∀ i entry, books.logs[i]? = some entry → ∀ cid, ∃ now,
    told cid entry.2 = some now ∧ (now = true ↔ books.Heard i cid)

namespace Tidy
variable {learned later : UInt16 → UInt16} {books after : Books} (tidy : Tidy learned books)
include tidy

/-- The table is read by its entries only. -/
theorem congr (channels : ∀ cid, after.channels.getChannel cid = books.channels.getChannel cid)
    (listed : after.localCids = books.localCids)
    (announced : after.announcedCids = books.announcedCids) (logs : after.logs = books.logs) :
    Tidy learned after := by
  refine ⟨by rw [listed]; exact tidy.nodup, fun cid => ?_, fun cid channel found => ?_,
    fun cid member => ?_, fun i entry found cid => ?_⟩
  · rw [listed, channels]
    exact tidy.listed cid
  · rw [channels] at found
    exact tidy.sound cid channel found
  · rw [announced] at member
    rw [channels]
    exact tidy.announced cid member
  · rw [logs] at found
    unfold Heard
    rw [announced, channels, logs]
    exact tidy.told i entry found cid

variable {cid : UInt16}

theorem create {channel : ClassicChannel} (free : books.channels.getChannel cid = none)
    (entered : ∀ other, after.channels.getChannel other =
      if other = cid then some channel else books.channels.getChannel other)
    (listed : after.localCids = books.localCids ++ [cid])
    (announced : after.announcedCids = books.announcedCids) (logs : after.logs = books.logs)
    (learning : ∀ other, other ≠ cid → later other = learned other)
    (sound : Sound later cid channel) : Tidy later after := by
  have unlisted : cid ∉ books.localCids := by
    rw [tidy.listed, free]
    decide
  have unannounced : cid ∉ books.announcedCids := by
    intro member
    obtain ⟨channel, found, -⟩ := tidy.announced cid member
    rw [free] at found
    contradiction
  refine ⟨?_, fun other => ?_, fun other found same => ?_, fun other member => ?_,
    fun i entry found other => ?_⟩
  · rw [listed]
    exact nodup_append_comm.mp (nodup_cons.mpr ⟨unlisted, tidy.nodup⟩)
  · rw [listed, mem_append, mem_singleton, tidy.listed, entered]
    by_cases same : other = cid <;> simp [same]
  · rw [entered] at same
    split at same
    case isTrue here =>
      cases same
      exact here ▸ sound
    case isFalse differs =>
      have before := tidy.sound other found same
      exact ⟨before.named, before.configured, fun known =>
        (learning other differs).trans (before.learnt known)⟩
  · rw [announced] at member
    have differs : other ≠ cid := fun same => unannounced (same ▸ member)
    rw [entered, if_neg differs]
    exact tidy.announced other member
  · rw [logs] at found
    obtain ⟨now, known, heard⟩ := tidy.told i entry found other
    refine ⟨now, known, heard.trans ?_⟩
    unfold Heard
    rw [announced, entered, logs]
    by_cases same : other = cid
    · subst same
      exact iff_of_false (fun both => unannounced both.1) fun both => unannounced both.1
    · rw [if_neg same]

theorem change {β : Type} (cid : UInt16)
    (body : ClassicChannel → ClassicChannel × Except SimbleError β)
    (changed : after.channels = (books.channels.change cid body).1)
    (listed : after.localCids = books.localCids)
    (announced : after.announcedCids = books.announcedCids) (logs : after.logs = books.logs)
    (learning : ∀ other, other ≠ cid → later other = learned other)
    (keeps : ∀ channel, books.channels.getChannel cid = some channel →
      Sound learned cid channel → Sound later cid (body channel).1 ∧
      (body channel).1.psm = channel.psm ∧
      (channel.localConfigDone → (body channel).1.localConfigDone) ∧
      (channel.remoteConfigDone → (body channel).1.remoteConfigDone)) : Tidy later after := by
  have entered : ∀ other, after.channels.getChannel other =
      if other = cid then (books.channels.getChannel cid).map fun channel => (body channel).1
      else books.channels.getChannel other := fun other => by
    rw [changed, books.channels.getChannel_change]
  refine ⟨by rw [listed]; exact tidy.nodup, fun other => ?_, fun other found same => ?_,
    fun other member => ?_, fun i entry found other => ?_⟩
  · rw [listed, tidy.listed, entered]
    by_cases same : other = cid
    · rw [if_pos same, same, Option.isSome_map]
    · rw [if_neg same]
  · rw [entered] at same
    split at same
    case isTrue here =>
      subst here
      obtain ⟨channel, held, rfl⟩ := Option.map_eq_some_iff.mp same
      exact (keeps channel held (tidy.sound other channel held)).1
    case isFalse differs =>
      have before := tidy.sound other found same
      exact ⟨before.named, before.configured, fun known =>
        (learning other differs).trans (before.learnt known)⟩
  · rw [announced] at member
    obtain ⟨channel, held, localDone, remoteDone⟩ := tidy.announced other member
    rw [entered]
    by_cases same : other = cid
    · subst same
      obtain ⟨-, -, first, second⟩ := keeps channel held (tidy.sound other channel held)
      exact ⟨_, by rw [if_pos rfl, held, Option.map_some], first localDone, second remoteDone⟩
    · rw [if_neg same]
      exact ⟨channel, held, localDone, remoteDone⟩
  · rw [logs] at found
    obtain ⟨now, known, heard⟩ := tidy.told i entry found other
    refine ⟨now, known, heard.trans ?_⟩
    unfold Heard
    rw [announced, entered, logs]
    by_cases same : other = cid
    · subst same
      rw [if_pos rfl]
      cases held : books.channels.getChannel other with
      | none => simp
      | some channel =>
        have psm := (keeps channel held (tidy.sound other channel held)).2.1
        simp [psm]
    · rw [if_neg same]

theorem remove (psm : UInt16) (notices : List Notice)
    (gone : ∀ other, after.channels.getChannel other =
      if other = cid then none else books.channels.getChannel other)
    (listed : after.localCids = books.localCids.filter (· ≠ cid))
    (announced : ∀ other ∈ after.announcedCids, other ∈ books.announcedCids)
    (still : ∀ other, other ≠ cid → other ∈ books.announcedCids → other ∈ after.announcedCids)
    (forgotten : cid ∉ after.announcedCids) (logs : after.logs = books.logs.say psm notices)
    (others : ∀ other, other ≠ cid → ∀ log, Device.told other (log ++ notices) = Device.told other log)
    (own : ∀ log now, Device.told cid log = some now →
      (now = true → cid ∈ books.announcedCids) → Device.told cid (log ++ notices) = some false)
    (served : cid ∈ books.announcedCids → ∃ channel,
      books.channels.getChannel cid = some channel ∧ channel.psm = psm) :
    Tidy learned after := by
  refine ⟨?_, fun other => ?_, fun other channel found => ?_, fun other member => ?_,
    fun i entry found other => ?_⟩
  · rw [listed]
    exact tidy.nodup.filter _
  · rw [listed, mem_filter, tidy.listed, gone]
    by_cases same : other = cid <;> simp [same]
  · rw [gone] at found
    split at found
    · contradiction
    · exact tidy.sound other channel found
  · have differs : other ≠ cid := fun same => forgotten (same ▸ member)
    rw [gone, if_neg differs]
    exact tidy.announced other (announced other member)
  · have route := books.logs.route_say psm notices
    rw [← logs] at route
    rw [logs, Logs.getElem?_say] at found
    unfold Heard
    rw [gone]
    simp only [route]
    by_cases same : other = cid
    · subst same
      refine ⟨false, ?_, ?_⟩
      · split at found
        case isTrue =>
          obtain ⟨earlier, held, rfl⟩ := Option.map_eq_some_iff.mp found
          obtain ⟨now, known, heard⟩ := tidy.told i earlier held other
          exact own _ now known fun yes => (heard.mp yes).1
        case isFalse elsewhere =>
          obtain ⟨now, known, heard⟩ := tidy.told i entry found other
          have unheard : now = false := by
            rw [← Bool.not_eq_true, heard]
            rintro ⟨member, channel, held, routed⟩
            obtain ⟨channel', held', rfl⟩ := served member
            rw [held] at held'
            cases held'
            exact elsewhere routed
          rw [known, unheard]
      · simp [forgotten]
    · have same_log : ∃ earlier : List UInt16 × List Notice, books.logs[i]? = some earlier ∧
          Device.told other entry.2 = Device.told other earlier.2 := by
        split at found
        · obtain ⟨earlier, held, rfl⟩ := Option.map_eq_some_iff.mp found
          exact ⟨earlier, held, others other same _⟩
        · exact ⟨entry, found, rfl⟩
      obtain ⟨earlier, held, known⟩ := same_log
      obtain ⟨now, before, heard⟩ := tidy.told i earlier held other
      refine ⟨now, known.trans before, heard.trans ?_⟩
      rw [if_neg same]
      exact and_congr_left' ⟨still other same, announced other⟩

theorem tell {channel : ClassicChannel} (notice : Notice)
    (held : books.channels.getChannel cid = some channel)
    (channels : after.channels = books.channels) (listed : after.localCids = books.localCids)
    (announced : ∀ other, other ∈ after.announcedCids ↔ other ∈ books.announcedCids ∨ other = cid)
    (logs : after.logs = books.logs.say channel.psm [notice])
    (configured : channel.localConfigDone ∧ channel.remoteConfigDone)
    (others : ∀ other, other ≠ cid → ∀ now, follow other now notice = now)
    (own : ∀ i entry, books.logs.route channel.psm = some i → books.logs[i]? = some entry →
      follow cid (Device.told cid entry.2) notice = some true) :
    Tidy learned after := by
  refine ⟨by rw [listed]; exact tidy.nodup, fun other => ?_, fun other found same => ?_,
    fun other member => ?_, fun i entry found other => ?_⟩
  · rw [listed, channels]
    exact tidy.listed other
  · rw [channels] at same
    exact tidy.sound other found same
  · rw [channels]
    rcases (announced other).mp member with member | rfl
    · exact tidy.announced other member
    · exact ⟨channel, held, configured⟩
  · have route := books.logs.route_say channel.psm [notice]
    rw [← logs] at route
    rw [logs, Logs.getElem?_say] at found
    unfold Heard
    rw [channels]
    simp only [route, announced]
    by_cases same : other = cid
    · subst same
      split at found
      case isTrue here =>
        obtain ⟨earlier, before, rfl⟩ := Option.map_eq_some_iff.mp found
        refine ⟨true, ?_, iff_of_true rfl ⟨.inr rfl, channel, held, here⟩⟩
        rw [told_snoc]
        exact own i earlier here before
      case isFalse elsewhere =>
        obtain ⟨now, known, heard⟩ := tidy.told i entry found other
        refine ⟨now, known, heard.trans (iff_of_false ?_ ?_)⟩
        all_goals
          rintro ⟨-, channel', held', routed⟩
          rw [held] at held'
          cases held'
          exact elsewhere routed
    · have same_log : ∃ earlier : List UInt16 × List Notice, books.logs[i]? = some earlier ∧
          Device.told other entry.2 = Device.told other earlier.2 := by
        split at found
        · obtain ⟨earlier, before, rfl⟩ := Option.map_eq_some_iff.mp found
          exact ⟨earlier, before, (told_snoc _ _ _).trans (others other same _)⟩
        · exact ⟨entry, found, rfl⟩
      obtain ⟨earlier, before, known⟩ := same_log
      obtain ⟨now, was, heard⟩ := tidy.told i earlier before other
      refine ⟨now, known.trans was, heard.trans ?_⟩
      unfold Heard
      simp [same]

end Tidy
end Books

/-! ## Identifiers -/

/-- The allocator hands out no identifier zero. -/
def RangedTable {α : Type} (table : CidAllocator α) : Prop :=
  table.minCid ≠ 0 ∧ table.minCid ≤ table.nextCid

def Ranged (channels : ClassicChannelManager) : Prop := RangedTable channels.channels

theorem allocateLoop_ranged {α : Type} (turns : Nat) (table : CidAllocator α)
    (ranged : RangedTable table) : RangedTable (table.allocateLoop turns).1 ∧
      ∀ cid, (table.allocateLoop turns).2 = some cid → cid ≠ 0 := by
  induction turns generalizing table with
  | zero => exact ⟨ranged, nofun⟩
  | succ turns ih =>
    have below := UInt16.le_iff_toNat_le.mp ranged.2
    have next : RangedTable { table with
        nextCid := if table.nextCid ≥ table.maxCid then table.minCid else table.nextCid + 1 } := by
      refine ⟨ranged.1, ?_⟩
      simp only
      split
      · exact UInt16.le_iff_toNat_le.mpr (Nat.le_refl _)
      case isFalse room =>
        have under := UInt16.lt_iff_toNat_lt.mp (UInt16.not_le.mp room)
        have small := table.maxCid.toNat_lt
        rw [UInt16.le_iff_toNat_le, UInt16.toNat_add, UInt16.toNat_one]
        omega
    rw [CidAllocator.allocateLoop]
    by_cases taken : (table.channels.lookup table.nextCid).isSome
    · simp only [if_pos taken]
      exact ih _ next
    · simp only [if_neg taken]
      refine ⟨next, fun cid same zero => ?_⟩
      rw [Option.some.inj same, zero, UInt16.toNat_zero, Nat.le_zero] at below
      exact ranged.1 (UInt16.toNat_inj.mp below)

theorem allocate_ranged {α : Type} {table : CidAllocator α} (ranged : RangedTable table) :
    RangedTable table.allocate.1 ∧ ∀ cid, table.allocate.2 = some cid → cid ≠ 0 :=
  allocateLoop_ranged _ table ranged

section Ranged
variable {channels : ClassicChannelManager} (ranged : Ranged channels)
include ranged

theorem connect_ranged (spec : ClassicChannelSpec) : Ranged (channels.connect spec).1 := by
  have kept := (allocate_ranged ranged).1
  unfold ClassicChannelManager.connect
  split <;> rename_i same <;> rw [same] at kept <;> exact kept

theorem onConnectionRequest_ranged (request : ConnectionRequestHeader) (mtu : UInt16) :
    Ranged (channels.onConnectionRequest request mtu).1 ∧
    ∀ response, (channels.onConnectionRequest request mtu).2 = .ok response →
      (response.destinationCid = 0 ↔ ¬ response.result = ConnectionResult.successful) := by
  have kept := allocate_ranged ranged
  unfold ClassicChannelManager.onConnectionRequest
  split
  · refine ⟨ranged, fun response same => ?_⟩
    cases same
    simp [ConnectionResult.refusedPsmNotSupported, ConnectionResult.successful]
  · split <;> rename_i same <;> rw [same] at kept
    · refine ⟨kept.1, fun response failed => ?_⟩
      contradiction
    · refine ⟨kept.1, fun response answered => ?_⟩
      cases answered
      exact iff_of_false (kept.2 _ rfl) (not_not.mpr rfl)

theorem change_ranged {β : Type} (cid : UInt16)
    (body : ClassicChannel → ClassicChannel × Except SimbleError β) :
    Ranged (channels.change cid body).1 := by
  unfold ClassicChannelManager.change
  split <;> exact ranged

end Ranged

theorem loseChannels_ranged (cids : List UInt16) (channels : ClassicChannelManager)
    (handlers : List (Handler H)) (ranged : Ranged channels) :
    Ranged (ClassicHost.loseChannels cids channels handlers).1 := by
  induction cids generalizing channels handlers with
  | nil => exact ranged
  | cons cid rest ih =>
    apply ih
    have removed : (ClassicHost.loseChannel channels handlers cid).1 =
        (channels.removeChannel cid).1 := by
      unfold ClassicHost.loseChannel
      split <;> rename_i same <;> rw [same]
    rw [removed]
    exact ranged

end Simble.Device
