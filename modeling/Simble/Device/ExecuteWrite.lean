import Simble.Device.HandledWrites

/-! What an Execute Write makes of the queue. The results of the single writes are
dropped, so the answer is the same whether or not they could be made. -/
namespace Simble.Device
open Simble.Lib Simble.Gatt Simble.Att Simble.Crypto

namespace VirtualDevice
variable {curve : P256} {H S : Type}

/-- The chunk can be written: its attribute is there, may be written, and is at
least as long as the offset says. -/
def Writable (db : GattDatabase H) (chunk : PrepareWriteChunk) : Prop :=
  ∃ attr, db.get chunk.handle = some attr ∧ attr.permissions.write = true ∧
    chunk.offset.toNat ≤ attr.value.length

def written (db : GattDatabase H) (chunk : PrepareWriteChunk) : GattDatabase H :=
  db.modify chunk.handle fun attr =>
    { attr with value := GattDatabase.patch attr.value chunk.offset.toNat chunk.data }

def AllWritable (db : GattDatabase H) : List PrepareWriteChunk → Prop
  | [] => True
  | chunk :: rest => Writable db chunk ∧ AllWritable (written db chunk) rest

def queueOf (device : VirtualDevice curve H S) (connection : UInt16) : List PrepareWriteChunk :=
  ((device.connections.lookup connection).map ConnectionState.prepareWriteQueue).getD []

/-- An Execute Write is answered with success after all the chunks have been
written, or with an error after none has, and takes the connection's queue only. -/
structure AllOrNothing (device : VirtualDevice curve H S) (connection : UInt16) (flags : UInt8)
    (response : Option Bytes) (after : VirtualDevice curve H S) : Prop where
  all : flags = 0x01 → AllWritable device.gattDb (device.queueOf connection) →
    after.gattDb = (device.queueOf connection).foldl written device.gattDb ∧
      response = some [Opcode.executeWriteRsp.byte]
  none : flags = 0x01 → ¬ AllWritable device.gattDb (device.queueOf connection) →
    (∀ handle, after.storedValue handle = device.storedValue handle) ∧
      ∃ handle code, response = some (errorRsp Opcode.executeWriteReq.byte handle code)
  emptied : after.queueOf connection = []
  others : ∀ other, other ≠ connection → after.queueOf other = device.queueOf other

variable {env : Env H S} {device : VirtualDevice curve H S}

theorem Writable.writeOffset {db : GattDatabase H} {chunk : PrepareWriteChunk} (fits : Writable db chunk) :
    (db.writeOffset chunk.handle chunk.offset.toNat chunk.data).2 = written db chunk := by
  obtain ⟨attr, present, permitted, -⟩ := fits
  unfold GattDatabase.writeOffset
  rw [GattDatabase.checkWritePermitted_eq_ok.mpr ⟨present, permitted⟩]
  rfl

theorem AllWritable.commit {db : GattDatabase H} {queue : List PrepareWriteChunk} (fit : AllWritable db queue) :
    commit db queue = queue.foldl written db := by
  induction queue generalizing db with
  | nil => rfl
  | cons chunk rest ih =>
    obtain ⟨fits, others⟩ := fit
    rw [List.foldl_cons, ← ih others, ← fits.writeOffset]
    rfl

theorem queueOf_modifyConnection_self (connection : UInt16)
    (change : ConnectionState curve → ConnectionState curve)
    (emptied : ∀ conn, (change conn).prepareWriteQueue = []) :
    (device.modifyConnection connection change).queueOf connection = [] := by
  unfold queueOf modifyConnection
  cases found : device.connections.lookup connection with
  | none => simp [found]
  | some conn => simp [emptied]

theorem queueOf_modifyConnection_of_ne {connection other : UInt16} (differs : other ≠ connection)
    (change : ConnectionState curve → ConnectionState curve) :
    (device.modifyConnection connection change).queueOf other = device.queueOf other := by
  unfold queueOf modifyConnection
  cases found : device.connections.lookup connection with
  | none => rfl
  | some conn => simp [AList.lookup_insert_ne differs]

theorem onExecuteWriteReq_spec (connection : UInt16) (flags : UInt8) :
    ∃ after, device.onExecuteWriteReq connection flags = (some [Opcode.executeWriteRsp.byte], after) ∧
      (flags = 0x01 → after.gattDb = commit device.gattDb (device.queueOf connection)) ∧
      after.queueOf connection = [] ∧
      ∀ other, other ≠ connection → after.queueOf other = device.queueOf other := by
  unfold onExecuteWriteReq
  cases found : device.connections.lookup connection with
  | none =>
    have nothing : device.queueOf connection = [] := by simp [queueOf, found]
    refine ⟨device, rfl, fun _ => ?_, nothing, fun _ _ => rfl⟩
    rw [nothing]
    rfl
  | some conn =>
    have waiting : device.queueOf connection = conn.prepareWriteQueue := by simp [queueOf, found]
    have taken := @queueOf_modifyConnection_self curve H S device connection
      (fun conn => { conn with prepareWriteQueue := [] }) fun _ => rfl
    have left (other : UInt16) (differs : other ≠ connection) :=
      @queueOf_modifyConnection_of_ne curve H S device connection other differs
        fun conn => { conn with prepareWriteQueue := [] }
    dsimp only
    split
    · exact ⟨_, rfl, fun _ => by rw [waiting], taken, left⟩
    · rename_i cancelled
      exact ⟨_, rfl, fun commits => absurd commits cancelled, taken, left⟩

end VirtualDevice

/-- A chunk for the attribute at handle 1, and one for an attribute that is not there. -/
def mixedQueue : List PrepareWriteChunk := [⟨1, 0, [0xAA]⟩, ⟨9, 0, [0xBB]⟩]

/-- A device on whose connection these chunks wait. -/
def mixedDevice : VirtualDevice noCurve Unit Unit :=
  controlDevice.modifyConnection 0x40 fun conn => { conn with prepareWriteQueue := mixedQueue }

open VirtualDevice

end Simble.Device
