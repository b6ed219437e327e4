import Simble.Lib.Along
import Simble.Medium.Reports
import Simble.Medium.WellFormed

/-! Every event of the simulated medium is well formed in a run exactly if there is room for
what each step of it reports: the length octet is cut short as soon as there is not. -/
namespace Simble.Medium
open List

open Controller (PaSync)
open Controller.Status (success)

namespace Link
variable {link next : Link} {P : Prop}

def HasRoom (link : Link) : Step → Prop
  | .advertise i _ => ∀ scanner ∈ link.controllers[i]?, scanner.scanning →
      ∀ advertiser ∈ link.controllers, advertiser.advertising →
        advertiser.address ≠ scanner.address → advertiser.advData.length ≤ 243
  | .advertiseExtended i _ => ∀ scanner ∈ link.controllers[i]?, scanner.extScanning →
      ∀ advertiser ∈ link.controllers, advertiser.address ≠ scanner.address →
        ∀ set ∈ advertiser.extAdvSets, set.enabled → set.data.length ≤ 229
  | .advertisePeriodic i => ∀ listener ∈ link.controllers[i]?, ∀ sync ∈ listener.paSyncs,
      ∀ train ∈ link.train sync, train.2.periodicData.length ≤ 247
  | .inquire i => ∀ inquirer ∈ link.controllers[i]?, ∀ inquiry ∈ inquirer.inquiry,
      ¬ inquiry.resultsSent →
        link.controllers.countP (fun controller =>
          controller.isDiscoverable ∧ controller.address ≠ inquirer.address) ≤ 18
  | .act => match link.actions.head? with
      | some (.createBig _ _ numBis) => numBis.toNat ≤ 118
      | some (.bigCreateSync sender _ syncHandle encryption broadcastCode indices) =>
        (link.admits sender syncHandle encryption broadcastCode indices).isOk → indices.length ≤ 120
      | _ => True
  | _ => True

/-- What a step adds to the events is well formed exactly if a condition holds. -/
def Adds (link next : Link) (P : Prop) : Prop :=
  ∃ added, next.sent = link.sent ++ added ∧ ((∀ sent ∈ added, sent.2.Fits) ↔ P)

namespace Adds

theorem of_sent (same : next.sent = link.sent) (always : P) : Adds link next P :=
  ⟨[], same.trans (append_nil _).symm, iff_of_true (fun _ => not_mem_nil.elim) always⟩

theorem of_fixed {i : Nat} {event : FixedEvent}
    (pushed : next.sent = link.sent ++ [(i, .fixed event)]) (always : P) : Adds link next P := by
  refine ⟨_, pushed, iff_of_true (fun sent held => ?_) always⟩
  rw [mem_singleton.mp held]
  trivial

theorem of_push {i : Nat} {event : Event} (pushed : next.sent = link.sent ++ [(i, event)])
    (room : event.Fits ↔ P) : Adds link next P :=
  ⟨_, pushed, forall_mem_singleton.trans room⟩

theorem of_pushAll {i : Nat} {events : List Event}
    (pushed : next.sent = link.sent ++ events.map (Prod.mk i))
    (room : (∀ event ∈ events, event.Fits) ↔ P) : Adds link next P :=
  ⟨_, pushed, forall_mem_map.trans room⟩

theorem sound (adds : Adds link next P) : next.Sound ↔ link.Sound ∧ P := by
  obtain ⟨added, pushed, room⟩ := adds
  simp only [Sound, Event.wellFormed_iff, pushed, forall_mem_append, room]

end Adds

@[simp] theorem allocHandles_length (link : Link) (count : Nat) :
    (link.allocHandles count).1.length = count := by
  induction count generalizing link with
  | zero => rfl
  | succ count ih => exact congrArg Nat.succ (ih _)

@[simp] theorem allocHandles_sent (link : Link) (count : Nat) :
    (link.allocHandles count).2.sent = link.sent := by
  induction count generalizing link with
  | zero => rfl
  | succ count ih => exact ih _

/-! ## Steps -/

theorem fits_zipIdx {α : Type} {items : List α} {report : α × Nat → Event} (room : α → Prop)
    (each : ∀ entry, (report entry).Fits ↔ room entry.1) :
    (∀ event ∈ items.zipIdx.map report, event.Fits) ↔ ∀ item ∈ items, room item := by
  rw [forall_mem_map]
  constructor
  · intro all item held
    obtain ⟨n, here⟩ := mem_iff_getElem?.mp held
    exact (each (item, n)).mp (all _ (mem_zipIdx_iff_getElem?.mpr here))
  · intro all entry listed
    exact (each entry).mpr (all entry.1 (fst_mem_of_mem_zipIdx listed))

variable (i : Nat)

theorem advertise_adds (rssi : Nat → UInt8) :
    Adds link (link.advertise i rssi) (link.HasRoom (.advertise i rssi)) := by
  rw [advertise]
  cases here : link.controllers[i]? with
  | none => exact .of_sent rfl (by simp [HasRoom, here])
  | some scanner =>
    by_cases scanning : scanner.scanning
    · simp only [scanning, Bool.not_true, Bool.false_eq_true, if_false]
      refine .of_pushAll rfl ((fits_zipIdx (fun advertiser : SimController =>
        advertiser.advData.length ≤ 243) fun _ => Iff.rfl).trans ?_)
      simp [HasRoom, here, scanning, advertisers]
    · simp only [scanning, Bool.not_false, if_true]
      exact .of_sent rfl (by simp [HasRoom, here, scanning])

theorem advertiseExtended_adds (rssi : Nat → UInt8) :
    Adds link (link.advertiseExtended i rssi) (link.HasRoom (.advertiseExtended i rssi)) := by
  rw [advertiseExtended]
  cases here : link.controllers[i]? with
  | none => exact .of_sent rfl (by simp [HasRoom, here])
  | some scanner =>
    by_cases scanning : scanner.extScanning
    · simp only [scanning, Bool.not_true, Bool.false_eq_true, if_false]
      refine .of_pushAll rfl ((fits_zipIdx (fun entry : Address × ExtAdvSet =>
        entry.2.data.length ≤ 229) fun _ => Iff.rfl).trans ?_)
      simp only [HasRoom, here, scanning, extAdvertisers, Option.mem_some_iff, forall_eq',
        forall_const, mem_filter, mem_flatMap, mem_map, decide_eq_true_eq]
      constructor
      · intro all advertiser held apart set kept enabled
        exact all (advertiser.address, set) ⟨⟨advertiser, held, set, ⟨kept, enabled⟩, rfl⟩, apart⟩
      · rintro all entry ⟨⟨advertiser, held, set, ⟨kept, enabled⟩, rfl⟩, apart⟩
        exact all advertiser held apart set kept enabled
    · simp only [scanning, Bool.not_false, if_true]
      exact .of_sent rfl (by simp [HasRoom, here, scanning])

theorem periodicReports_fits (sync : PaSync) :
    (∀ event ∈ link.periodicReports sync, event.Fits) ↔
      ∀ train ∈ link.train sync, train.2.periodicData.length ≤ 247 := by
  rw [periodicReports]
  cases link.train sync with
  | none => simp
  | some train =>
    have known : ∀ event ∈ (bigInfo sync train.1).toList, event.Fits := by
      intro event held
      obtain ⟨big, -, rfl⟩ := Option.map_eq_some_iff.mp (Option.mem_toList.mp held)
      trivial
    rw [forall_mem_append, and_iff_left known]
    by_cases empty : train.2.periodicData = []
    · simp [empty]
    · simp [empty, Event.Fits]

theorem advertisePeriodic_adds :
    Adds link (link.advertisePeriodic i) (link.HasRoom (.advertisePeriodic i)) := by
  rw [advertisePeriodic]
  cases here : link.controllers[i]? with
  | none => exact .of_sent rfl (by simp [HasRoom, here])
  | some listener =>
    refine .of_pushAll rfl ?_
    simp only [forall_mem_flatMap, periodicReports_fits]
    simp [HasRoom, here]

theorem found_length (link : Link) (inquirer : SimController) :
    (link.found inquirer).length = link.controllers.countP fun controller =>
      controller.isDiscoverable ∧ controller.address ≠ inquirer.address := by
  rw [found, filter_map, length_map, filter_filter, countP_eq_length_filter]
  congr 2
  funext controller
  simp [and_comm]

theorem hasRoom_inquire {i : Nat} {inquirer : SimController} {inquiry : Inquiry}
    (here : link.controllers[i]? = some inquirer) (running : inquirer.inquiry = some inquiry) :
    link.HasRoom (.inquire i) ↔ ¬ inquiry.resultsSent → (link.found inquirer).length ≤ 18 := by
  simp only [HasRoom, here, running, Option.mem_some_iff, forall_eq', found_length]

theorem inquire_adds : Adds link (link.inquire i) (link.HasRoom (.inquire i)) := by
  rw [inquire]
  cases here : link.controllers[i]? with
  | none => exact .of_sent rfl (by simp [HasRoom, here])
  | some inquirer =>
    dsimp only
    cases running : inquirer.inquiry with
    | none => exact .of_sent rfl (by simp [HasRoom, here, running])
    | some inquiry =>
      rw [hasRoom_inquire here running]
      by_cases quiet : inquiry.resultsSent ∨ (link.found inquirer).isEmpty
      · have always : ¬ inquiry.resultsSent → (link.found inquirer).length ≤ 18 := by
          intro fresh
          rw [isEmpty_iff.mp (quiet.resolve_left fresh)]
          exact Nat.zero_le _
        simp only [if_pos quiet]
        split_ifs
        · exact .of_fixed rfl always
        · exact .of_sent rfl always
      · have room : (Event.inquiryResult (link.found inquirer)).Fits ↔
            (¬ inquiry.resultsSent → (link.found inquirer).length ≤ 18) :=
          (imp_iff_right (not_or.mp quiet).1).symm
        simp only [if_neg quiet]
        split_ifs
        · refine ⟨[(i, .inquiryResult (link.found inquirer)),
            (i, .fixed (.inquiryComplete success))], by simp [push, change], ?_⟩
          rw [← room, forall_mem_cons, forall_mem_singleton]
          exact and_iff_left trivial
        · exact .of_push rfl room

variable (sender : Nat)

theorem routeTerminateBig_adds (bigHandle : UInt8) :
    Adds link (link.routeTerminateBig sender bigHandle) True := by
  refine ⟨_, append_assoc .., iff_true_intro ?_⟩
  rw [forall_mem_append, forall_mem_singleton]
  refine ⟨trivial, fun sent held => ?_⟩
  obtain ⟨entry, -, lost⟩ := mem_flatMap.mp held
  obtain ⟨sink, -, rfl⟩ := mem_map.mp lost
  trivial

theorem routeCreateBig_adds (source : BigSource) (numBis : UInt8) :
    Adds link (link.routeCreateBig sender source numBis) (numBis.toNat ≤ 118) := by
  refine .of_push (congrArg (· ++ _) (link.allocHandles_sent numBis.toNat)) ?_
  rw [Event.Fits, allocHandles_length]

theorem routeBigCreateSync_adds (bigHandle : UInt8) (syncHandle : UInt16) (encryption : UInt8)
    (broadcastCode : Bytes) (indices : List UInt8) :
    Adds link (link.routeBigCreateSync sender bigHandle syncHandle encryption broadcastCode indices)
      ((link.admits sender syncHandle encryption broadcastCode indices).isOk →
        indices.length ≤ 120) := by
  rw [routeBigCreateSync]
  cases link.admits sender syncHandle encryption broadcastCode indices with
  | error status => exact .of_push rfl (iff_of_true (Nat.zero_le _) nofun)
  | ok source =>
    refine .of_push (congrArg (· ++ _) (link.allocHandles_sent indices.length)) ?_
    rw [Event.Fits, allocHandles_length]
    exact (imp_iff_right rfl).symm

theorem act_adds : Adds link (link.step .act) (link.HasRoom .act) := by
  cases waiting : link.actions with
  | nil =>
    rw [Link.step, HasRoom, waiting]
    exact .of_sent rfl trivial
  | cons action rest =>
    rw [Link.step, HasRoom, waiting]
    cases action with
    | createBig sender source numBis => exact routeCreateBig_adds ..
    | terminateBig sender bigHandle => exact routeTerminateBig_adds ..
    | bigCreateSync sender bigHandle syncHandle encryption broadcastCode indices =>
      exact routeBigCreateSync_adds ..

theorem step_adds (link : Link) (step : Step) : Adds link (link.step step) (link.HasRoom step) := by
  cases step with
  | command i command =>
    rw [Link.step]
    cases link.controllers[i]? with
    | none => exact .of_sent rfl trivial
    | some controller => exact .of_fixed rfl trivial
  | send i event => exact .of_fixed rfl trivial
  | connect count => exact .of_sent (allocHandles_sent link count) trivial
  | advertise i rssi => exact advertise_adds i rssi
  | advertiseExtended i rssi => exact advertiseExtended_adds i rssi
  | synchronize i =>
    rw [Link.step, synchronize]
    cases link.controllers[i]?.bind SimController.pendingPaSync with
    | none => exact .of_sent rfl trivial
    | some pending =>
      cases found : link.findTrain pending with
      | none => simp only [found]; exact .of_sent rfl trivial
      | some train => simp only [found]; exact .of_fixed rfl trivial
  | inquire i => exact inquire_adds i
  | act => exact act_adds
  | advertisePeriodic i => exact advertisePeriodic_adds i
  | addDevice address => exact .of_sent rfl trivial
  | removeDevice address => exact .of_sent rfl trivial

end Link

/-- Every event of a run is well formed exactly if every step has the room that it needs. -/
theorem run_sound (link : Link) (steps : List Step) :
    (steps.foldl Link.step link).Sound ↔
      link.Sound ∧ Lib.Along Link.step Link.HasRoom link steps := by
  induction steps generalizing link with
  | nil => exact (and_iff_left trivial).symm
  | cons step steps ih =>
    rw [foldl_cons, ih, (link.step_adds step).sound, Lib.Along, and_assoc]

/-- One device advertises the greatest number of octets that LE Set Extended Advertising Data can
carry, and another one scans. -/
def advertiseLong (data : Octets 251) : List Step :=
  [.addDevice ⟨.zero⟩, .addDevice ⟨⟨[1, 0, 0, 0, 0, 0], rfl⟩⟩,
    .command 0 (.leSetExtAdvData (0 :: 0x03 :: 0x00 :: 251 :: data.toList)),
    .command 0 (.leSetExtAdvEnable true [0]), .command 1 (.leSetExtScanEnable true),
    .advertiseExtended 1 fun _ => 0xC4]

theorem advertiseLong_reports (data : Octets 251) :
    (1, .leExtendedAdvertisingReport ⟨.zero⟩ 0 data.toList 0xC4) ∈
      ((advertiseLong data).foldl Link.step {}).sent := by
  have whole : data.toList.take 251 = data.toList := data.take_toList
  have apart : (⟨.zero⟩ : Address) ≠ ⟨⟨[1, 0, 0, 0, 0, 0], rfl⟩⟩ := by decide
  simp [advertiseLong, Link.step, Link.push, Link.change, SimController.handleCommand,
    SimController.setExtAdvData, SimController.changeSet, Link.advertiseExtended, Link.extAdvertisers,
    Link.pushAll, whole, apart]

/-- What a run pushes is well formed exactly if every report in it has room for its data. -/
theorem events_are_well_formed (steps : List Step) :
    (steps.foldl Link.step {}).Sound ↔ Lib.Along Link.step Link.HasRoom {} steps :=
  (run_sound {} steps).trans (and_iff_right fun _ => not_mem_nil.elim)

theorem report_too_long : ¬ ((advertiseLong .zero).foldl Link.step {}).Sound := by
  intro sound
  have fits := (Event.wellFormed_iff _).mp (sound _ (advertiseLong_reports .zero))
  rw [Event.Fits, List.Vector.toList_length] at fits
  omega

end Simble.Medium
