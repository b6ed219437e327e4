import Simble.Medium.Events

/-! When the events of the simulated medium are well formed. -/
namespace Simble.Medium
open List

@[simp] theorem toLeBytes_length (value : UInt16) : (U16.toLeBytes value).length = 2 := rfl

@[simp] theorem PbrStep.bytes_length (step : PbrStep) : step.bytes.length = 12 := by
  simp [PbrStep.bytes]

theorem flatMap_length {α : Type} (bytes : α → Bytes) (size : Nat) (items : List α)
    (each : ∀ item, (bytes item).length = size) :
    (items.flatMap bytes).length = size * items.length := by
  induction items with
  | nil => simp
  | cons item items ih =>
    rw [flatMap_cons, length_append, each, ih, length_cons, Nat.mul_succ, Nat.add_comm]

namespace Event

def Fits : Event → Prop
  | .fixed _ => True
  | .inquiryResult devices => devices.length ≤ 18
  | .leAdvertisingReport _ _ _ data _ => data.length ≤ 243
  | .leExtendedAdvertisingReport _ _ data _ => data.length ≤ 229
  | .lePeriodicAdvertisingReport _ data => data.length ≤ 247
  | .leCreateBigComplete _ _ handles => handles.length ≤ 118
  | .leBigSyncEstablished _ _ handles => handles.length ≤ 120

theorem inquiryResult_length (devices : List (Address × Octets 3)) :
    (body (.inquiryResult devices)).length = 1 + 14 * devices.length := by
  rw [body, length_cons, flatMap_length _ 14 devices (fun _ => by simp)]
  omega

theorem leCreateBigComplete_length (status bigHandle : UInt8) (handles : List UInt16) :
    (body (.leCreateBigComplete status bigHandle handles)).length = 19 + 2 * handles.length := by
  simp only [body, length_append, flatMap_length _ 2 handles toLeBytes_length,
    length_cons, length_nil, toLeBytes_length]

theorem leBigSyncEstablished_length (status bigHandle : UInt8) (handles : List UInt16) :
    (body (.leBigSyncEstablished status bigHandle handles)).length = 15 + 2 * handles.length := by
  simp only [body, length_append, flatMap_length _ 2 handles toLeBytes_length,
    length_cons, length_nil, toLeBytes_length]

end Event

theorem FixedEvent.body_length (event : FixedEvent) : event.body.length ≤ 255 := by
  cases event with
  | commandComplete opcode returned => cases returned <;> simp [body, Returned.bytes]
  | leCsSubeventResult handle configId procedureCounter referencePowerLevel steps =>
    have count : steps.toList.length = 19 := steps.2
    simp [body, flatMap_length _ 12 _ PbrStep.bytes_length, count]
  | _ => simp [body, delay]

theorem FixedEvent.innerCounts (event : FixedEvent) : InnerCounts event.code event.body := by
  cases event with
  | leCsSubeventResult handle configId procedureCounter referencePowerLevel steps =>
    have count : steps.toList.length = 19 := steps.2
    simp [InnerCounts, code, body, leMeta, octet, U16.toLeBytes,
      flatMap_length _ 12 _ PbrStep.bytes_length, count]
  | _ => simp [InnerCounts, code, body, leMeta]

theorem ofNat_toNat_iff (count : Nat) : (UInt8.ofNat count).toNat = count ↔ count ≤ 255 := by
  rw [UInt8.toNat_ofNat']
  omega

theorem octet_append (front rest : Bytes) (value : UInt8) :
    octet (front ++ value :: rest) front.length = value.toNat := by
  simp [octet, getD_eq_getElem?_getD]

theorem octet_of_eq {body : Bytes} (front rest : Bytes) (value : UInt8) {i : Nat}
    (same : body = front ++ value :: rest) (behind : front.length = i) :
    octet body i = value.toNat := by
  rw [same, ← behind, octet_append]

namespace Event

theorem body_length_iff (event : Event) : event.body.length ≤ 255 ↔ event.Fits := by
  cases event with
  | fixed event => exact iff_of_true event.body_length trivial
  | inquiryResult devices =>
    rw [inquiryResult_length, Fits]
    omega
  | leAdvertisingReport eventType addrType address data rssi =>
    simp [body, Fits]
    omega
  | leExtendedAdvertisingReport address sid data rssi =>
    simp [body, Fits]
    omega
  | lePeriodicAdvertisingReport syncHandle data =>
    simp [body, Fits]
    omega
  | leCreateBigComplete status bigHandle handles =>
    rw [leCreateBigComplete_length, Fits]
    omega
  | leBigSyncEstablished status bigHandle handles =>
    rw [leBigSyncEstablished_length, Fits]
    omega

/-- A count that leaves room for what it counts is not cut short. -/
theorem innerCounts {event : Event} (fits : event.Fits) : InnerCounts event.code event.body := by
  cases event with
  | fixed event => exact event.innerCounts
  | inquiryResult devices =>
    have whole := (ofNat_toNat_iff devices.length).mpr (by rw [Fits] at fits; omega)
    rw [InnerCounts, code, if_pos rfl, inquiryResult_length]
    simp only [octet, body, getD_cons_zero, whole]
  | leAdvertisingReport eventType addrType address data rssi =>
    have whole := (ofNat_toNat_iff data.length).mpr (by rw [Fits] at fits; omega)
    have count : octet (body (.leAdvertisingReport eventType addrType address data rssi)) 10 =
        data.length := by
      rw [octet_of_eq (0x02 :: 1 :: eventType :: addrType :: address.bytes.toList)
        (data ++ [rssi]) (UInt8.ofNat data.length) (by simp [body]) (by simp), whole]
    exact ⟨rfl, by rw [count]; simp [body]; omega⟩
  | leExtendedAdvertisingReport address sid data rssi =>
    have whole := (ofNat_toNat_iff data.length).mpr (by rw [Fits] at fits; omega)
    have count : octet (body (.leExtendedAdvertisingReport address sid data rssi)) 25 =
        data.length := by
      rw [octet_of_eq (0x0D :: 1 :: U16.toLeBytes 0 ++ [0x00] ++ address.bytes.toList ++
        [0x01, 0x02, sid, 0x7F, rssi] ++ U16.toLeBytes 0 ++ [0x00] ++ List.replicate 6 0) data
        (UInt8.ofNat data.length) (by simp [body]) (by simp), whole]
    exact ⟨rfl, by rw [count]; simp [body]; omega⟩
  | lePeriodicAdvertisingReport syncHandle data =>
    have whole := (ofNat_toNat_iff data.length).mpr (by rw [Fits] at fits; omega)
    have count : octet (body (.lePeriodicAdvertisingReport syncHandle data)) 7 = data.length := whole
    change (body (.lePeriodicAdvertisingReport syncHandle data)).length = 8 + octet _ 7
    rw [count]
    simp [body]
    omega
  | leCreateBigComplete status bigHandle handles =>
    have whole := (ofNat_toNat_iff handles.length).mpr (by rw [Fits] at fits; omega)
    have count : octet (body (.leCreateBigComplete status bigHandle handles)) 18 =
        handles.length := whole
    change (body (.leCreateBigComplete status bigHandle handles)).length = 19 + 2 * octet _ 18
    rw [count, leCreateBigComplete_length]
  | leBigSyncEstablished status bigHandle handles =>
    have whole := (ofNat_toNat_iff handles.length).mpr (by rw [Fits] at fits; omega)
    have count : octet (body (.leBigSyncEstablished status bigHandle handles)) 14 =
        handles.length := whole
    change (body (.leBigSyncEstablished status bigHandle handles)).length = 15 + 2 * octet _ 14
    rw [count, leBigSyncEstablished_length]

theorem wellFormed_iff (event : Event) : WellFormed event.packet ↔ event.Fits := by
  rw [← body_length_iff]
  constructor
  · rintro ⟨code, length, body, same, sized, -⟩
    obtain ⟨-, -, rfl, rfl⟩ := same
    exact (ofNat_toNat_iff _).mp sized
  · intro short
    exact ⟨event.code, _, event.body, rfl, (ofNat_toNat_iff _).mpr short,
      innerCounts (event.body_length_iff.mp short)⟩

end Event
end Simble.Medium
