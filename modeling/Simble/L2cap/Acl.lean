import Mathlib.Tactic.IntervalCases
import Simble.L2cap.Reassembler

/-! HCI ACL data packets (`packets/l2cap_frame.rs`): the header that carries a
connection handle and a packet boundary, and L2CAP frames behind it. -/
namespace Simble.L2cap

def brSignaling : UInt16 := 0x0001

namespace H4Type
def hciCommand : UInt8 := 0x01
def hciAclData : UInt8 := 0x02
def hciScoData : UInt8 := 0x03
def hciEvent : UInt8 := 0x04
end H4Type

/-- The packet boundary flags that the code sends. -/
inductive AclPacketBoundary where
  | firstNonFlushable
  | continuing
deriving DecidableEq, Repr

def AclPacketBoundary.flag : AclPacketBoundary → UInt16
  | .firstNonFlushable => 0
  | .continuing => 1

structure HciAclHeader where
  handleAndFlags : UInt16
  dataLength : UInt16
deriving DecidableEq, Repr

namespace HciAclHeader

def new (handle : UInt16) (boundary : AclPacketBoundary) (dataLen : UInt16) : HciAclHeader :=
  ⟨(handle &&& (0x0FFF : UInt16)) ||| ((boundary.flag &&& (0x03 : UInt16)) <<< (12 : UInt16)),
    dataLen⟩

variable (header : HciAclHeader)

def handle : UInt16 := header.handleAndFlags &&& 0x0FFF

/-- The boundary flag says first, flushable or not. -/
def isFirstFragment : Bool :=
  let flag := (header.handleAndFlags >>> 12) &&& 0x03
  flag == 0 || flag == 2

def asBytes : Bytes := U16.toLeBytes header.handleAndFlags ++ U16.toLeBytes header.dataLength

def parse : Bytes → Option (HciAclHeader × Bytes)
  | a :: b :: c :: d :: payload =>
    let header : HciAclHeader := ⟨U16.fromLeBytes a b, U16.fromLeBytes c d⟩
    if payload.length < header.dataLength.toNat then none
    else some (header, payload.take header.dataLength.toNat)
  | _ => none

theorem new_handle (handle : UInt16) (boundary : AclPacketBoundary) (dataLen : UInt16) :
    (new handle boundary dataLen).handle = handle &&& 0x0FFF := by
  apply UInt16.toBitVec_inj.mp
  ext i bound
  cases boundary <;> interval_cases i <;>
    simp [new, HciAclHeader.handle, AclPacketBoundary.flag]

theorem new_isFirstFragment (handle : UInt16) (boundary : AclPacketBoundary) (dataLen : UInt16) :
    (new handle boundary dataLen).isFirstFragment = (boundary == .firstNonFlushable) := by
  have flag : ((new handle boundary dataLen).handleAndFlags >>> 12) &&& 0x03 = boundary.flag := by
    apply UInt16.toBitVec_inj.mp
    ext i bound
    cases boundary <;> interval_cases i <;> simp [new, AclPacketBoundary.flag]
  unfold isFirstFragment
  rw [flag]
  cases boundary <;> rfl

end HciAclHeader

def aclFragment (handle : UInt16) (boundary : AclPacketBoundary) (data : Bytes) : Bytes :=
  H4Type.hciAclData ::
    ((HciAclHeader.new handle boundary (UInt16.ofNat data.length)).asBytes ++ data)

def readAcl : Bytes → Option (HciAclHeader × Bytes)
  | [] => none
  | h4 :: rest => if h4 = H4Type.hciAclData then HciAclHeader.parse rest else none

theorem readAcl_aclFragment (handle : UInt16) (boundary : AclPacketBoundary) {data : Bytes}
    (small : data.length ≤ 65535) :
    readAcl (aclFragment handle boundary data) =
      some (.new handle boundary (UInt16.ofNat data.length), data) := by
  have length : (UInt16.ofNat data.length).toNat = data.length := by
    rw [UInt16.toNat_ofNat', Nat.mod_eq_of_lt (by omega)]
  simp only [readAcl, aclFragment, HciAclHeader.asBytes, U16.toLeBytes, List.cons_append,
    List.nil_append, if_true, HciAclHeader.parse, U16.fromLeBytes_toLeBytes]
  have same : (HciAclHeader.new handle boundary (UInt16.ofNat data.length)).dataLength =
      UInt16.ofNat data.length := rfl
  rw [same, length, if_neg (Nat.lt_irrefl _), List.take_length]
  rfl

def readFrame : Bytes → Option (UInt16 × Bytes)
  | a :: b :: c :: d :: body =>
    some (U16.fromLeBytes c d, body.take (min (U16.fromLeBytes a b).toNat body.length))
  | _ => none

end Simble.L2cap
