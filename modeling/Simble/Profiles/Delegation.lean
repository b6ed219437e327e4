import Simble.Lib.Along
import Simble.Profiles.Bass

/-! Runs of a Scan Delegator: what the Assistant may take from the identifier of a source, and
from the characteristics, after any writes and reports. -/
namespace Simble.Bass
open Simble.Lib Simble.Gatt Simble.Device List

inductive Call where
  | write (value : Bytes)
  | reportSyncOutcome (sourceId : UInt8) (paSyncState : PeriodicAdvertisingSyncState)
      (bisSync : UInt32)
  | requireBroadcastCode (sourceId : UInt8)

open ControlPointOperation

namespace Delegator
variable {H : Type}

def call (delegator : Delegator H) : Call → Except UInt8 Unit × Delegator H
  | .write value => delegator.onWrite value
  | .reportSyncOutcome sourceId paSyncState bisSync =>
    delegator.reportSyncOutcome sourceId paSyncState bisSync
  | .requireBroadcastCode sourceId => delegator.requireBroadcastCode sourceId

/-- A source is added only where no slot has its identifier, as far as there is a slot. -/
def Fresh (delegator : Delegator H) : Call → Prop
  | .write value =>
    match ControlPointOperation.parse value with
    | some (.addSource ..) => none ∈ delegator.state.sources → ∀ source,
      some source ∈ delegator.state.sources → source.sourceId ≠ delegator.state.nextSourceId
    | _ => True
  | _ => True

/-- What a call comes to: nothing, or a slot that is stored after these changes to the state.
A source that is added takes the next identifier; one that is changed keeps its own. -/
inductive Outcome (before : Delegator H) : Call → Except UInt8 Unit × Delegator H → Prop where
  | refused {call : Call} (code : UInt8) (fresh : before.Fresh call) :
    Outcome before call (.error code, before)
  | scanning {value : Bytes} {operation : ControlPointOperation}
    (parsed : ControlPointOperation.parse value = some operation)
    (plain : operation = .remoteScanStopped ∨ operation = .remoteScanStarted) (flag : Bool) :
    Outcome before (.write value)
      (.ok (), { before with state := { before.state with assistantScanning := flag } })
  | added {value : Bytes} {addressType : UInt8} {address : Address} {advertisingSid : UInt8}
    {broadcastId : UInt32} {paSync : PeriodicAdvertisingSyncParams} {paInterval : UInt16}
    {subgroups : List SubgroupInfo} {index : Nat}
    (parsed : ControlPointOperation.parse value = some (.addSource addressType address
      advertisingSid broadcastId paSync paInterval subgroups))
    (free : before.state.sources.findIdx? Option.isNone = some index) :
    Outcome before (.write value) (.ok (), store { before with
      state := { before.state with nextSourceId := before.state.nextSourceId + 1 } } index
      (some ⟨before.state.nextSourceId, addressType, address, advertisingSid, broadcastId,
        (syncStates paSync subgroups).1, .notEncrypted, [], (syncStates paSync subgroups).2⟩))
  | modified {value : Bytes} {sourceId : UInt8} {paSync : PeriodicAdvertisingSyncParams}
    {paInterval : UInt16} {subgroups : List SubgroupInfo} {index : Nat}
    {source : BroadcastReceiveState}
    (parsed : ControlPointOperation.parse value = some (.modifySource sourceId paSync paInterval
      subgroups))
    (there : before.slotOf sourceId = some (index, source)) :
    Outcome before (.write value) (.ok (), before.store index (some { source with
      paSyncState := (syncStates paSync subgroups).1
      subgroups := (syncStates paSync subgroups).2 }))
  | removed {value : Bytes} {sourceId : UInt8} {index : Nat} {source : BroadcastReceiveState}
    (parsed : ControlPointOperation.parse value = some (.removeSource sourceId))
    (there : before.slotOf sourceId = some (index, source)) :
    Outcome before (.write value) (.ok (), before.store index none)
  | unchanged {value : Bytes} {sourceId : UInt8} {broadcastCode : Octets 16}
    (parsed : ControlPointOperation.parse value = some (.setBroadcastCode sourceId broadcastCode)) :
    Outcome before (.write value) (.ok (), before)
  | decrypting {value : Bytes} {sourceId : UInt8} {broadcastCode : Octets 16} {index : Nat}
    {source : BroadcastReceiveState}
    (parsed : ControlPointOperation.parse value = some (.setBroadcastCode sourceId broadcastCode))
    (there : before.slotOf sourceId = some (index, source)) :
    Outcome before (.write value)
      (.ok (), before.store index (some { source with bigEncryption := .decrypting }))
  | reported {sourceId : UInt8} {paSyncState : PeriodicAdvertisingSyncState} {bisSync : UInt32}
    {index : Nat} {source : BroadcastReceiveState}
    (there : before.slotOf sourceId = some (index, source)) :
    Outcome before (.reportSyncOutcome sourceId paSyncState bisSync)
      (.ok (), before.store index (some { source with
        paSyncState
        subgroups := source.subgroups.map fun subgroup =>
          { subgroup with bisSync := if paSyncState = .synchronizedToPa then bisSync else 0 } }))
  | required {sourceId : UInt8} {index : Nat} {source : BroadcastReceiveState}
    (there : before.slotOf sourceId = some (index, source)) :
    Outcome before (.requireBroadcastCode sourceId)
      (.ok (), before.store index (some { source with bigEncryption := .broadcastCodeRequired }))

theorem fresh_of_parse {before : Delegator H} {value : Bytes}
    (other : ∀ addressType address advertisingSid broadcastId paSync paInterval subgroups,
      parse value ≠ some (.addSource addressType address advertisingSid
        broadcastId paSync paInterval subgroups)) : before.Fresh (.write value) := by
  rw [Fresh]
  split
  · rename_i parsed
    exact absurd parsed (other _ _ _ _ _ _ _)
  · trivial

theorem call_outcome (before : Delegator H) (call : Call) :
    Outcome before call (before.call call) := by
  cases call with
  | write value =>
    rw [Delegator.call, onWrite]
    split
    · rename_i none
      obtain rfl := List.head?_eq_none_iff.mp none
      exact .refused _ trivial
    · rename_i op first
      split
      · rename_i unknown
        refine .refused _ (fresh_of_parse ?_)
        intros
        rw [parse_of_unknown first unknown]
        nofun
      · split
        · rename_i none
          refine .refused _ (fresh_of_parse ?_)
          intros
          rw [none]
          nofun
        · rename_i operation parsed
          cases operation with
          | remoteScanStopped => exact .scanning parsed (.inl rfl) false
          | remoteScanStarted => exact .scanning parsed (.inr rfl) true
          | addSource addressType address advertisingSid broadcastId paSync paInterval subgroups =>
            rw [operate]
            split
            · rename_i full
              refine .refused _ ?_
              rw [Fresh, parsed]
              intro free
              have taken := List.findIdx?_eq_none_iff.mp full none free
              cases taken
            · exact .added parsed ‹_›
          | modifySource sourceId paSync paInterval subgroups =>
            rw [operate, onSource]
            split
            · exact .refused _ (by rw [Fresh, parsed]; trivial)
            · exact .modified parsed ‹_›
          | setBroadcastCode sourceId broadcastCode =>
            rw [operate, onSource]
            split
            · exact .refused _ (by rw [Fresh, parsed]; trivial)
            · split
              · exact .decrypting parsed ‹_›
              · exact .unchanged parsed
          | removeSource sourceId =>
            rw [operate, onSource]
            split
            · exact .refused _ (by rw [Fresh, parsed]; trivial)
            · exact .removed parsed ‹_›
  | reportSyncOutcome sourceId paSyncState bisSync =>
    rw [Delegator.call, reportSyncOutcome, onSource]
    split
    · exact .refused _ trivial
    · exact .reported ‹_›
  | requireBroadcastCode sourceId =>
    rw [Delegator.call, requireBroadcastCode, onSource]
    split
    · exact .refused _ trivial
    · exact .required ‹_›

variable {delegator : Delegator H}

variable {sourceId : UInt8} {source : BroadcastReceiveState}

theorem slotOf_eq_some {index : Nat} (found : delegator.slotOf sourceId = some (index, source)) :
    delegator.state.sources[index]? = some (some source) ∧ source.sourceId = sourceId := by
  simp only [slotOf, Option.bind_eq_bind, Option.bind_eq_some_iff, Option.pure_def,
    Option.some.injEq, Prod.mk.injEq, Option.join_eq_some_iff] at found
  obtain ⟨_, first, _, there, rfl, rfl⟩ := found
  refine ⟨there, ?_⟩
  obtain ⟨inside, holds, -⟩ := List.findIdx?_eq_some_iff_getElem.mp first
  rw [List.getElem?_eq_getElem inside, Option.some.injEq] at there
  rw [there] at holds
  simpa using holds

/-- No two slots have sources with one identifier. -/
def Distinct (sources : List (Option BroadcastReceiveState)) : Prop :=
  ∀ (i j : Nat) (s t : BroadcastReceiveState), sources[i]? = some (some s) →
    sources[j]? = some (some t) → s.sourceId = t.sourceId → i = j

theorem slotOf_of_distinct (distinct : Distinct delegator.state.sources) {index : Nat}
    {source : BroadcastReceiveState}
    (there : delegator.state.sources[index]? = some (some source)) :
    delegator.slotOf source.sourceId = some (index, source) := by
  have inside : index < delegator.state.sources.length := (List.getElem?_eq_some_iff.mp there).1
  have found : delegator.state.sources.findIdx?
      (fun slot => slot.any (·.sourceId = source.sourceId)) = some index := by
    refine List.findIdx?_eq_some_iff_getElem.mpr ⟨inside, ?_, ?_⟩
    · rw [List.getElem?_eq_getElem inside, Option.some.injEq] at there
      rw [there]
      simp
    · intro earlier before
      cases slot : delegator.state.sources[earlier] with
      | none => simp
      | some other =>
        have here : delegator.state.sources[earlier]? = some (some other) := by
          rw [List.getElem?_eq_getElem (before.trans inside), slot]
        intro same
        have same : other.sourceId = source.sourceId := by simpa using same
        exact absurd (distinct earlier index other source here there same) (Nat.ne_of_lt before)
  rw [slotOf, found, Option.bind_eq_bind, Option.bind_some, there]
  rfl

variable {sources : List (Option BroadcastReceiveState)} {slot : Option BroadcastReceiveState}

theorem getElem?_set_cases {index i : Nat} {s : BroadcastReceiveState}
    (here : (sources.set index slot)[i]? = some (some s)) :
    (index = i ∧ slot = some s) ∨ (index ≠ i ∧ sources[i]? = some (some s)) := by
  rw [List.getElem?_set] at here
  split_ifs at here with same inside
  · exact .inl ⟨same, Option.some.inj here⟩
  · exact .inr ⟨same, here⟩

theorem Distinct.set_none (distinct : Distinct sources) (index : Nat) :
    Distinct (sources.set index none) := by
  intro i j s t first second same
  obtain ⟨-, ⟨⟩⟩ | ⟨-, first⟩ := getElem?_set_cases first
  obtain ⟨-, ⟨⟩⟩ | ⟨-, second⟩ := getElem?_set_cases second
  exact distinct i j s t first second same

/-- A source that keeps its identifier keeps the others apart. -/
theorem Distinct.set_same (distinct : Distinct sources) {index : Nat} {old : BroadcastReceiveState}
    (there : sources[index]? = some (some old)) {new : BroadcastReceiveState}
    (same : new.sourceId = old.sourceId) :
    Distinct (sources.set index (some new)) := by
  have seen : ∀ (i : Nat) (s : BroadcastReceiveState),
      (sources.set index (some new))[i]? = some (some s) →
      ∃ s', sources[i]? = some (some s') ∧ s'.sourceId = s.sourceId := by
    intro i s here
    rcases getElem?_set_cases here with ⟨rfl, ⟨⟩⟩ | ⟨-, here⟩
    · exact ⟨old, there, same.symm⟩
    · exact ⟨s, here, rfl⟩
  intro i j s t first second equal
  obtain ⟨s', first, named⟩ := seen i s first
  obtain ⟨t', second, named'⟩ := seen j t second
  exact distinct i j s' t' first second (by rw [named, named', equal])

/-- A source in an empty slot keeps them apart exactly if its identifier is not taken. -/
theorem Distinct.set_iff (distinct : Distinct sources) {index : Nat}
    (free : sources[index]? = some none) (new : BroadcastReceiveState) :
    Distinct (sources.set index (some new)) ↔
      ∀ source, some source ∈ sources → source.sourceId ≠ new.sourceId := by
  have inside : index < sources.length := (List.getElem?_eq_some_iff.mp free).1
  have placed : (sources.set index (some new))[index]? = some (some new) := by
    rw [List.getElem?_set, if_pos rfl, if_pos inside]
  constructor
  · intro apart source among same
    obtain ⟨i, there⟩ := mem_iff_getElem?.mp among
    have differs : index ≠ i := by
      rintro rfl
      rw [free] at there
      cases there
    have stays : (sources.set index (some new))[i]? = some (some source) := by
      rw [List.getElem?_set, if_neg differs, there]
    exact differs (apart index i new source placed stays same.symm)
  · intro untaken i j s t first second same
    rcases getElem?_set_cases first with ⟨rfl, ⟨⟩⟩ | ⟨-, first⟩ <;>
      rcases getElem?_set_cases second with ⟨rfl, ⟨⟩⟩ | ⟨-, second⟩
    · rfl
    · exact absurd same.symm (untaken t (mem_of_getElem? second))
    · exact absurd same (untaken s (mem_of_getElem? first))
    · exact distinct i j s t first second same

/-- The values of the characteristics are those of the slots, and every source has room in
its own. -/
structure Sound (delegator : Delegator H) : Prop where
  mirrors : delegator.db.Mirrors slotValue delegator.receiveStateValueHandles
    delegator.state.sources
  fits : ∀ source, some source ∈ delegator.state.sources →
    source.Fits ∧ source.bigEncryption ≠ .badCode

theorem Sound.store (sound : Sound delegator) {index : Nat}
    (inside : index < delegator.state.sources.length)
    (fits : ∀ source, slot = some source → source.Fits ∧ source.bigEncryption ≠ .badCode) :
    Sound (delegator.store index slot) := by
  have enough : index < delegator.receiveStateValueHandles.length := by
    rw [sound.mirrors.values.length_eq]
    exact inside
  have named : delegator.receiveStateValueHandles[index]? =
      some (delegator.receiveStateValueHandles.getD index 0) := by
    rw [getD_eq_getElem?_getD, List.getElem?_eq_getElem enough]
    rfl
  refine ⟨sound.mirrors.put named slot, ?_⟩
  intro source among
  rcases mem_or_eq_of_mem_set among with old | rfl
  · exact sound.fits source old
  · exact fits source rfl

variable {subgroups : List SubgroupInfo}

theorem countable_syncStates (paSync : PeriodicAdvertisingSyncParams)
    (countable : Countable subgroups) :
    Countable (syncStates paSync subgroups).2 := by
  refine ⟨by simpa [syncStates] using countable.1, ?_⟩
  intro subgroup among
  obtain ⟨asked, inside, rfl⟩ := mem_map.mp among
  exact countable.2 asked inside

theorem lt_of_slotOf {index : Nat} (found : delegator.slotOf sourceId = some (index, source)) :
    index < delegator.state.sources.length :=
  (List.getElem?_eq_some_iff.mp (slotOf_eq_some found).1).1

theorem Sound.slotOf (sound : Sound delegator) {index : Nat}
    (found : delegator.slotOf sourceId = some (index, source)) :
    source.Fits ∧ source.bigEncryption ≠ .badCode :=
  sound.fits source (mem_of_getElem? (slotOf_eq_some found).1)

theorem Sound.store_changed (sound : Sound delegator) {index : Nat}
    (found : delegator.slotOf sourceId = some (index, source)) {bigEncryption : BigEncryption}
    (plain : bigEncryption ≠ .badCode) (countable : Countable subgroups)
    (paSyncState : PeriodicAdvertisingSyncState) :
    Sound (delegator.store index (some { source with paSyncState, bigEncryption, subgroups })) := by
  obtain ⟨fits, other⟩ := sound.slotOf found
  apply sound.store (lt_of_slotOf found)
  rintro _ ⟨⟩
  refine ⟨⟨fits.broadcast, ?_, countable⟩, plain⟩
  rw [if_neg plain, fits.code, if_neg other]

theorem Sound.call (sound : Sound delegator) (call : Call) : Sound (delegator.call call).2 := by
  have outcome := call_outcome delegator call
  revert outcome
  generalize delegator.call call = result
  intro outcome
  cases outcome with
  | refused => exact sound
  | scanning => exact ⟨sound.mirrors, sound.fits⟩
  | @added _ _ _ _ _ paSync _ _ _ parsed free =>
    obtain ⟨small, countable⟩ := fits_of_parse parsed
    obtain ⟨inside, -, -⟩ := List.findIdx?_eq_some_iff_getElem.mp free
    have counted : Sound { delegator with
        state := { delegator.state with nextSourceId := delegator.state.nextSourceId + 1 } } :=
      ⟨sound.mirrors, sound.fits⟩
    apply counted.store inside
    rintro _ ⟨⟩
    exact ⟨⟨small, rfl, countable_syncStates paSync countable⟩, nofun⟩
  | @modified _ _ paSync _ _ _ _ parsed there =>
    have countable := fits_of_parse parsed
    exact sound.store_changed there (sound.slotOf there).2 (countable_syncStates paSync countable) _
  | removed _ there => exact sound.store (lt_of_slotOf there) nofun
  | unchanged => exact sound
  | decrypting _ there =>
    exact sound.store_changed there (by decide : BigEncryption.decrypting ≠ .badCode)
      (sound.slotOf there).1.subgroups _
  | reported there =>
    have countable := (sound.slotOf there).1.subgroups
    refine sound.store_changed there (sound.slotOf there).2 ⟨?_, ?_⟩ _
    · rw [length_map]
      exact countable.1
    · intro subgroup among
      obtain ⟨old, inside, rfl⟩ := mem_map.mp among
      exact countable.2 old inside
  | required there =>
    exact sound.store_changed there (by decide : BigEncryption.broadcastCodeRequired ≠ .badCode)
      (sound.slotOf there).1.subgroups _

theorem distinct_call_iff (distinct : Distinct delegator.state.sources) (call : Call) :
    Distinct (delegator.call call).2.state.sources ↔ delegator.Fresh call := by
  have outcome := call_outcome delegator call
  revert outcome
  generalize delegator.call call = result
  intro outcome
  cases outcome with
  | refused _ fresh => exact iff_of_true distinct fresh
  | scanning parsed plain =>
    refine iff_of_true distinct (fresh_of_parse ?_)
    intros
    rw [parsed]
    rcases plain with rfl | rfl <;> nofun
  | added parsed free =>
    obtain ⟨inside, none, -⟩ := List.findIdx?_eq_some_iff_getElem.mp free
    have there := List.getElem?_eq_getElem inside
    rw [Option.isNone_iff_eq_none.mp none] at there
    apply (distinct.set_iff there _).trans
    rw [Fresh, parsed]
    exact ⟨fun untaken _ => untaken, fun fresh => fresh (mem_of_getElem? there)⟩
  | modified parsed there =>
    exact iff_of_true (distinct.set_same (slotOf_eq_some there).1 rfl)
      (by rw [Fresh, parsed]; trivial)
  | removed parsed there => exact iff_of_true (distinct.set_none _) (by rw [Fresh, parsed]; trivial)
  | unchanged parsed => exact iff_of_true distinct (by rw [Fresh, parsed]; trivial)
  | decrypting parsed there =>
    exact iff_of_true (distinct.set_same (slotOf_eq_some there).1 rfl)
      (by rw [Fresh, parsed]; trivial)
  | reported there =>
    exact iff_of_true (distinct.set_same (slotOf_eq_some there).1 rfl) trivial
  | required there =>
    exact iff_of_true (distinct.set_same (slotOf_eq_some there).1 rfl) trivial

/-- A BIS is reported of a source only if this was the last that was said of its identifier. -/
def Bits (sources : List (Option BroadcastReceiveState))
    (outcome : UInt8 → Option PeriodicAdvertisingSyncState) : Prop :=
  ∀ (i : Nat) (s : BroadcastReceiveState), sources[i]? = some (some s) →
    ∀ subgroup ∈ s.subgroups, subgroup.bisSync ≠ 0 → outcome s.sourceId = some .synchronizedToPa

theorem Bits.set {outcome next : UInt8 → Option PeriodicAdvertisingSyncState}
    (bits : Bits sources outcome) {index : Nat}
    (here : ∀ s, slot = some s → ∀ subgroup ∈ s.subgroups, subgroup.bisSync ≠ 0 →
      next s.sourceId = some .synchronizedToPa)
    (others : ∀ (i : Nat) (s : BroadcastReceiveState), index ≠ i → sources[i]? = some (some s) →
      next s.sourceId = outcome s.sourceId) :
    Bits (sources.set index slot) next := by
  intro i s there subgroup among bit
  rcases getElem?_set_cases there with ⟨-, rfl⟩ | ⟨differs, there⟩
  · exact here s rfl subgroup among bit
  · rw [others i s differs there]
    exact bits i s there subgroup among bit

theorem bisSync_syncStates (paSync : PeriodicAdvertisingSyncParams) {subgroup : SubgroupInfo}
    (among : subgroup ∈ (syncStates paSync subgroups).2) : subgroup.bisSync = 0 := by
  obtain ⟨asked, -, rfl⟩ := mem_map.mp among
  rfl

/-- What has been said of each identifier since a source was last added with it or modified. -/
def note (delegator : Delegator H) (outcome : UInt8 → Option PeriodicAdvertisingSyncState) :
    Call → UInt8 → Option PeriodicAdvertisingSyncState
  | .write value =>
    match ControlPointOperation.parse value with
    | some (.addSource ..) => Function.update outcome delegator.state.nextSourceId none
    | some (.modifySource sourceId ..) => Function.update outcome sourceId none
    | _ => outcome
  | .reportSyncOutcome sourceId paSyncState _ =>
    Function.update outcome sourceId (some paSyncState)
  | .requireBroadcastCode _ => outcome

/-- What has been said after a call, which counts if it was not refused. -/
def noted (delegator : Delegator H) (outcome : UInt8 → Option PeriodicAdvertisingSyncState)
    (call : Call) (result : Except UInt8 Unit) : UInt8 → Option PeriodicAdvertisingSyncState :=
  match result with
  | .ok _ => delegator.note outcome call
  | .error _ => outcome

theorem ne_of_slotOf (distinct : Distinct delegator.state.sources) {sourceId : UInt8} {index i : Nat}
    {source s : BroadcastReceiveState} (found : delegator.slotOf sourceId = some (index, source))
    (differs : index ≠ i) (there : delegator.state.sources[i]? = some (some s)) :
    s.sourceId ≠ sourceId := by
  obtain ⟨here, rfl⟩ := slotOf_eq_some found
  exact fun same => differs (distinct index i source s here there same.symm)

theorem Bits.call {outcome : UInt8 → Option PeriodicAdvertisingSyncState}
    (bits : Bits delegator.state.sources outcome) (distinct : Distinct delegator.state.sources)
    {call : Call} (fresh : delegator.Fresh call) :
    Bits (delegator.call call).2.state.sources
      (delegator.noted outcome call (delegator.call call).1) := by
  have outcomes := call_outcome delegator call
  revert outcomes
  generalize delegator.call call = result
  intro outcomes
  cases outcomes with
  | refused => exact bits
  | scanning parsed plain =>
    rw [noted, note, parsed]
    rcases plain with rfl | rfl <;> exact bits
  | @added _ _ _ _ _ paSync _ _ _ parsed free =>
    rw [noted, note, parsed]
    apply bits.set
    · rintro _ ⟨⟩ subgroup among bit
      exact absurd (bisSync_syncStates paSync among) bit
    · intro i s _ there
      obtain ⟨inside, none, -⟩ := List.findIdx?_eq_some_iff_getElem.mp free
      have empty := List.getElem?_eq_getElem inside
      rw [Option.isNone_iff_eq_none.mp none] at empty
      rw [Fresh, parsed] at fresh
      have untaken := fresh (mem_of_getElem? empty) s (mem_of_getElem? there)
      exact Function.update_of_ne untaken _ outcome
  | @modified _ _ paSync _ _ _ _ parsed there =>
    rw [noted, note, parsed]
    apply bits.set
    · rintro _ ⟨⟩ subgroup among bit
      exact absurd (bisSync_syncStates paSync among) bit
    · intro i s differs here
      exact Function.update_of_ne (ne_of_slotOf distinct there differs here) none outcome
  | removed parsed there =>
    rw [noted, note, parsed]
    exact bits.set nofun fun _ _ _ _ => rfl
  | unchanged parsed =>
    rw [noted, note, parsed]
    exact bits
  | decrypting parsed there =>
    rw [noted, note, parsed]
    refine bits.set ?_ fun _ _ _ _ => rfl
    have kept := bits _ _ (slotOf_eq_some there).1
    rintro _ ⟨⟩
    exact kept
  | @reported _ paSyncState _ _ _ there =>
    rw [noted, note]
    apply bits.set
    · rintro _ ⟨⟩ subgroup among bit
      obtain ⟨old, -, rfl⟩ := mem_map.mp among
      have synced : paSyncState = .synchronizedToPa := by
        by_contra other
        exact bit (if_neg other)
      rw [← (slotOf_eq_some there).2, Function.update_self, synced]
    · intro i s differs here
      exact Function.update_of_ne (ne_of_slotOf distinct there differs here) _ outcome
  | required there =>
    rw [noted, note]
    refine bits.set ?_ fun _ _ _ _ => rfl
    have kept := bits _ _ (slotOf_eq_some there).1
    rintro _ ⟨⟩
    exact kept

end Delegator

def ControlPointOperation.names : ControlPointOperation → Option UInt8
  | .modifySource sourceId .. | .setBroadcastCode sourceId _ | .removeSource sourceId =>
    some sourceId
  | _ => none

def Call.names : Call → Option UInt8
  | .write value => (ControlPointOperation.parse value).bind ControlPointOperation.names
  | .reportSyncOutcome sourceId _ _ | .requireBroadcastCode sourceId => some sourceId

/-- The service, and what it has been told of each identifier. -/
structure Watched (H : Type) where
  delegator : Delegator H
  outcome : UInt8 → Option PeriodicAdvertisingSyncState

open Delegator

namespace Watched
variable {H : Type}

def after (watched : Watched H) (call : Call) : Watched H :=
  let (result, delegator) := watched.delegator.call call
  ⟨delegator, watched.delegator.noted watched.outcome call result⟩

/-- What every call keeps: the characteristics say what the slots do, a call that is refused
changes nothing, and one that names a source leaves the slots without it. -/
structure Kept (watched : Watched H) (call : Call) : Prop where
  published : ∀ (index : Nat) (slot : Option BroadcastReceiveState),
    (watched.after call).delegator.state.sources[index]? = some slot →
    ∃ handle value, (watched.after call).delegator.receiveStateValueHandles[index]? = some handle ∧
      (watched.after call).delegator.db.value handle = some value ∧ (value = [] ↔ slot = none) ∧
      ∀ receiveState, slot = some receiveState →
        BroadcastReceiveState.parse value = some receiveState
  refused : ∀ code, (watched.delegator.call call).1 = .error code → watched.after call = watched
  others : ∀ sourceId, call.names = some sourceId →
    ∀ (index : Nat) (slot : Option BroadcastReceiveState),
      watched.delegator.state.sources[index]? = some slot →
      (∀ source, slot = some source → source.sourceId ≠ sourceId) →
      (watched.after call).delegator.state.sources[index]? = some slot

/-- What the Assistant may take from an identifier: it is of one slot, on which the operations
act, and a BIS is reported of it only where a synchronization was. -/
structure Told (watched : Watched H) (call : Call) : Prop where
  distinct : Delegator.Distinct (watched.after call).delegator.state.sources
  exact : ∀ (index : Nat) (source : BroadcastReceiveState),
    (watched.after call).delegator.state.sources[index]? = some (some source) →
    (watched.after call).delegator.slotOf source.sourceId = some (index, source)
  bits : Delegator.Bits (watched.after call).delegator.state.sources (watched.after call).outcome

theorem others_of_outcome {before : Delegator H} {call : Call}
    {result : Except UInt8 Unit × Delegator H} (outcome : Delegator.Outcome before call result)
    {sourceId : UInt8} (named : call.names = some sourceId) {index : Nat}
    {slot : Option BroadcastReceiveState} (there : before.state.sources[index]? = some slot)
    (other : ∀ source, slot = some source → source.sourceId ≠ sourceId) :
    result.2.state.sources[index]? = some slot := by
  have stored : ∀ {at_index : Nat} {source : BroadcastReceiveState}
      (found : before.slotOf sourceId = some (at_index, source))
      (changed : Option BroadcastReceiveState),
      (before.store at_index changed).state.sources[index]? = some slot := by
    intro at_index source found changed
    obtain ⟨here, same⟩ := slotOf_eq_some found
    have differs : at_index ≠ index := by
      rintro rfl
      rw [here] at there
      cases there
      exact other source rfl same
    rw [store, List.getElem?_set, if_neg differs]
    exact there
  cases outcome with
  | refused => exact there
  | scanning => exact there
  | added parsed free =>
    rw [Call.names, parsed] at named
    cases named
  | modified parsed found =>
    rw [Call.names, parsed] at named
    cases named
    exact stored found _
  | removed parsed found =>
    rw [Call.names, parsed] at named
    cases named
    exact stored found _
  | unchanged => exact there
  | decrypting parsed found =>
    rw [Call.names, parsed] at named
    cases named
    exact stored found _
  | reported found =>
    cases named
    exact stored found _
  | required found =>
    cases named
    exact stored found _

theorem published_of_sound {delegator : Delegator H} (sound : delegator.Sound) {index : Nat}
    {slot : Option BroadcastReceiveState} (there : delegator.state.sources[index]? = some slot) :
    ∃ handle value, delegator.receiveStateValueHandles[index]? = some handle ∧
      delegator.db.value handle = some value ∧ (value = [] ↔ slot = none) ∧
      ∀ receiveState, slot = some receiveState →
        BroadcastReceiveState.parse value = some receiveState := by
  obtain ⟨inside, there⟩ := List.getElem?_eq_some_iff.mp there
  have enough : index < delegator.receiveStateValueHandles.length := by
    rw [sound.mirrors.values.length_eq]
    exact inside
  have stands := sound.mirrors.values.get enough inside
  rw [get_eq_getElem, get_eq_getElem, there] at stands
  refine ⟨_, _, List.getElem?_eq_getElem enough, stands, ?_, ?_⟩
  · cases slot with
    | none => exact iff_of_true rfl rfl
    | some source => exact iff_of_false nofun nofun
  · rintro source rfl
    exact BroadcastReceiveState.parse_toBytes (sound.fits source (there ▸ getElem_mem inside)).1

theorem kept_of_sound {watched : Watched H} (sound : watched.delegator.Sound) (call : Call) :
    watched.Kept call := by
  have outcome := call_outcome watched.delegator call
  refine ⟨fun index slot there => published_of_sound (sound.call call) there, ?_, ?_⟩
  · intro code refused
    rw [after]
    revert outcome refused
    generalize watched.delegator.call call = result
    intro outcome refused
    cases outcome <;> cases refused
    rfl
  · intro sourceId named index slot there other
    exact others_of_outcome outcome named there other

/-- What a run starts with, and what every call keeps whose source is fresh. -/
structure Ready (watched : Watched H) : Prop where
  distinct : Delegator.Distinct watched.delegator.state.sources
  bits : Delegator.Bits watched.delegator.state.sources watched.outcome

theorem Ready.after {watched : Watched H} (ready : watched.Ready) {call : Call}
    (fresh : watched.delegator.Fresh call) : (watched.after call).Ready :=
  ⟨(distinct_call_iff ready.distinct call).mpr fresh, ready.bits.call ready.distinct fresh⟩

theorem Ready.told_iff {watched : Watched H} (ready : watched.Ready) (call : Call) :
    watched.Told call ↔ watched.delegator.Fresh call := by
  constructor
  · intro told
    exact (distinct_call_iff ready.distinct call).mp told.distinct
  · intro fresh
    have after := ready.after fresh
    exact ⟨after.distinct,
      fun index source there => slotOf_of_distinct after.distinct there, after.bits⟩

end Watched

/-! ## Registered services -/

section Registered
variable {H : Type} {db : GattDatabase H} {numReceiveStates : Nat} {handler : H}
  {delegator : Delegator H}

theorem register_spec (below : HandlesBelow db)
    (registered : register db numReceiveStates handler = .ok delegator) :
    delegator.Sound ∧ delegator.state = ⟨false, List.replicate numReceiveStates none, 0⟩ := by
  obtain ⟨⟨_, declared⟩, service, registered⟩ := Rust.bind_eq_ok.mp registered
  obtain ⟨⟨⟨_, controlPoint⟩, pointed⟩, point, registered⟩ := Rust.bind_eq_ok.mp registered
  obtain ⟨⟨handles, listed⟩, each, registered⟩ := Rust.bind_eq_ok.mp registered
  have first : HandlesBelow declared := below.add service
  have second : HandlesBelow pointed := first.addCharacteristic point
  have all := GattDatabase.registeredEach second each
  dsimp only at registered
  split at registered
  · cases registered
  · rename_i last attached
    cases registered
    refine ⟨⟨⟨all.ascending.imp fun less => less.ne, ?_⟩, ?_⟩, rfl⟩
    · have values := all.values
      rw [map_replicate] at values
      have empties : List.replicate numReceiveStates ([] : Bytes) =
          (List.replicate numReceiveStates none).map slotValue := by
        rw [map_replicate]
        rfl
      rw [empties, forall₂_map_right_iff] at values
      refine values.imp fun handle slot stands => ?_
      rw [GattDatabase.value_setHandler attached]
      exact stands
    · intro source among
      cases eq_of_mem_replicate among

/-- In every run the characteristics are those of the slots and what is refused changes nothing;
and the identifiers tell the sources apart, with the BISes really joined, exactly as long as no
source is added under an identifier that another still has. -/
theorem sources_told_apart (below : HandlesBelow db)
    (registered : Delegator.register db numReceiveStates handler = .ok delegator)
    (calls : List Call) :
    Along Watched.after Watched.Kept ⟨delegator, fun _ => none⟩ calls ∧
    (Along Watched.after Watched.Told ⟨delegator, fun _ => none⟩ calls ↔
      Along Watched.after (fun watched => watched.delegator.Fresh) ⟨delegator, fun _ => none⟩
        calls) := by
  obtain ⟨sound, state⟩ := register_spec below registered
  have keeps : ∀ (watched : Watched H) (call : Call), watched.delegator.Sound →
      (watched.after call).delegator.Sound := fun watched call sound => sound.call call
  have initial : (⟨delegator, fun _ => none⟩ : Watched H).Ready := by
    refine ⟨?_, ?_⟩
    · intro i j s t there
      rw [state] at there
      cases eq_of_mem_replicate (mem_of_getElem? there)
    · intro i s there
      rw [state] at there
      cases eq_of_mem_replicate (mem_of_getElem? there)
  constructor
  · clear initial state registered
    generalize (fun _ => none : UInt8 → Option PeriodicAdvertisingSyncState) = outcome
    induction calls generalizing delegator outcome with
    | nil => trivial
    | cons call calls ih => exact ⟨Watched.kept_of_sound sound call, ih (keeps _ call sound) _⟩
  · exact Along.iff (fun watched call (ready : watched.Ready) => ready.told_iff call)
      (fun watched call ready fresh => ready.after fresh) initial

end Registered

/-- An operation that adds a source without subgroups. -/
def addOne : Bytes := [0x02, 0, 1, 2, 3, 4, 5, 6, 0, 7, 0, 0, 0, 0, 0, 0]

/-- Two sources are added, and the first is synchronized to, modified and removed. -/
def twoAdded : List Call :=
  [.write addOne, .write addOne, .reportSyncOutcome 0 .synchronizedToPa 1,
    .write [0x03, 0, 0, 0, 0, 0], .write [0x05, 0]]

theorem two_sources : ∃ delegator : Delegator Unit, Delegator.register .new 2 () = .ok delegator ∧
    Along Watched.after Watched.Kept ⟨delegator, fun _ => none⟩ twoAdded ∧
    Along Watched.after Watched.Told ⟨delegator, fun _ => none⟩ twoAdded ∧
    (twoAdded.foldl Watched.after ⟨delegator, fun _ => none⟩).delegator.state.sources.map
      (Option.map BroadcastReceiveState.sourceId) = [none, some 1] := by
  have apart := @sources_told_apart Unit .new 2 () _ (.of_built .new) rfl twoAdded
  refine ⟨_, rfl, apart.1, apart.2.mpr ⟨?_, ?_, trivial, trivial, trivial, trivial⟩, rfl⟩
  · rintro - source inside
    cases eq_of_mem_replicate (n := 2) inside
  · rintro - source inside
    rcases mem_pair.mp inside with same | same
    · cases same
      decide
    · cases same

/-- What adding a source to an empty slot leaves. -/
theorem call_addOne {H : Type} {delegator : Delegator H} {index : Nat}
    (free : delegator.state.sources.findIdx? Option.isNone = some index) :
    ∃ new : BroadcastReceiveState, new.sourceId = delegator.state.nextSourceId ∧
      (delegator.call (.write addOne)).2.state.sources =
        delegator.state.sources.set index (some new) ∧
      (delegator.call (.write addOne)).2.state.nextSourceId = delegator.state.nextSourceId + 1 := by
  have asked : delegator.call (.write addOne) = delegator.operate (.addSource 0
      ⟨⟨[1, 2, 3, 4, 5, 6], rfl⟩⟩ 0 7 .doNotSynchronizeToPa 0 []) := rfl
  rw [asked, operate, free]
  exact ⟨_, rfl, rfl, rfl⟩

/-- A second source comes and goes while the first one stays: only the counter has moved. -/
theorem churn {H : Type} {delegator : Delegator H} {source : BroadcastReceiveState}
    (slots : delegator.state.sources = [some source, none])
    (differs : source.sourceId ≠ delegator.state.nextSourceId) :
    let after := ((delegator.call (.write addOne)).2.call
      (.write [0x05, delegator.state.nextSourceId])).2
    after.state.sources = [some source, none] ∧
      after.state.nextSourceId = delegator.state.nextSourceId + 1 := by
  have free : delegator.state.sources.findIdx? Option.isNone = some 1 := by
    rw [slots]
    rfl
  obtain ⟨new, named, placed, counted⟩ := call_addOne free
  rw [slots] at placed
  have found : (delegator.call (.write addOne)).2.slotOf delegator.state.nextSourceId =
      some (1, new) := by
    simp [slotOf, placed, List.findIdx?_cons, differs, named]
  have removes : ∀ (delegator : Delegator H) (sourceId : UInt8),
      delegator.call (.write [0x05, sourceId]) =
        delegator.onSource sourceId fun index _ => delegator.store index none := fun _ _ => rfl
  rw [removes, onSource, found]
  refine ⟨?_, counted⟩
  show List.set _ 1 none = _
  rw [placed]
  rfl

/-- So many times a second source comes and goes. -/
def churned : Nat → List Call
  | 0 => []
  | count + 1 => churned count ++ [.write addOne, .write [0x05, UInt8.ofNat (count + 1)]]

theorem foldl_churned {H : Type} {delegator : Delegator H} {source : BroadcastReceiveState}
    (slots : delegator.state.sources = [some source, none])
    (counter : delegator.state.nextSourceId = 1) (first : source.sourceId = 0) {count : Nat}
    (few : count ≤ 255) :
    let after := (churned count).foldl (fun delegator call => (delegator.call call).2) delegator
    after.state.sources = [some source, none] ∧
      after.state.nextSourceId = UInt8.ofNat (count + 1) := by
  induction count with
  | zero => exact ⟨slots, counter⟩
  | succ count ih =>
    obtain ⟨before, next⟩ := ih (by omega)
    have differs : source.sourceId ≠ UInt8.ofNat (count + 1) := by
      rw [first]
      intro same
      have zero := congrArg UInt8.toNat same
      rw [UInt8.toNat_ofNat', Nat.mod_eq_of_lt (by omega)] at zero
      cases zero
    have step := churn before (by rwa [next])
    rw [next] at step
    rw [churned, foldl_append]
    refine ⟨step.1, step.2.trans ?_⟩
    apply UInt8.toNat_inj.mp
    rw [UInt8.toNat_add, UInt8.toNat_ofNat', UInt8.toNat_ofNat']
    simp

/-- One source stays while 255 others come and go: the next one gets its identifier. -/
theorem identifier_given_twice : ∃ delegator : Delegator Unit,
    Delegator.register .new 2 () = .ok delegator ∧ ∃ calls : List Call,
      ¬ Delegator.Distinct (calls.foldl (fun delegator call => (delegator.call call).2)
        delegator).state.sources := by
  obtain ⟨delegator, registered, sources, next⟩ : ∃ delegator : Delegator Unit,
      Delegator.register .new 2 () = .ok delegator ∧ delegator.state.sources = [none, none] ∧
        delegator.state.nextSourceId = 0 := ⟨_, rfl, rfl, rfl⟩
  refine ⟨delegator, registered, .write addOne :: (churned 255 ++ [.write addOne]), ?_⟩
  have free : delegator.state.sources.findIdx? Option.isNone = some 0 := by
    rw [sources]
    rfl
  obtain ⟨first, named, slots, counter⟩ := call_addOne free
  rw [sources] at slots
  rw [next] at named counter
  obtain ⟨kept, last⟩ := foldl_churned slots counter named (Nat.le_refl 255)
  rw [foldl_cons, foldl_append]
  revert kept last
  generalize (churned 255).foldl (fun (delegator : Delegator Unit) call =>
    (delegator.call call).2) (delegator.call (.write addOne)).2 = before
  intro kept last distinct
  have again : before.state.sources.findIdx? Option.isNone = some 1 := by
    rw [kept]
    rfl
  obtain ⟨second, same, placed, -⟩ := call_addOne again
  rw [kept] at placed
  rw [last] at same
  rw [foldl_cons, foldl_nil, placed] at distinct
  have equal := distinct 0 1 first second rfl rfl (by rw [named, same]; rfl)
  cases equal

end Simble.Bass
