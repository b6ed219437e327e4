import Simble.Octets

/-! L2CAP signaling headers and the MTU option (`packets/l2cap_signaling.rs`). -/
namespace Simble.L2cap

namespace ConnectionResult
def successful : UInt16 := 0x0000
def pending : UInt16 := 0x0001
def refusedPsmNotSupported : UInt16 := 0x0002
end ConnectionResult

namespace ConfigurationResult
def success : UInt16 := 0x0000
end ConfigurationResult

namespace ConfigurationOption
def mtu : UInt8 := 0x01
end ConfigurationOption

structure ConnectionRequestHeader where
  psm : UInt16
  sourceCid : UInt16
deriving DecidableEq, Repr

structure ConnectionResponseHeader where
  destinationCid : UInt16
  sourceCid : UInt16
  result : UInt16
  status : UInt16
deriving DecidableEq, Repr

structure ConfigurationRequestHeader where
  destinationCid : UInt16
  flags : UInt16
deriving DecidableEq, Repr

structure ConfigurationResponseHeader where
  sourceCid : UInt16
  flags : UInt16
  result : UInt16
deriving DecidableEq, Repr

def encodeMtuOption (mtu : UInt16) : Bytes := [ConfigurationOption.mtu, 2] ++ U16.toLeBytes mtu

/-- The first MTU option; other options are skipped. -/
def parseMtuOption : Bytes → Option UInt16
  | optionType :: len :: rest =>
    if rest.length < len.toNat then none else
    if optionType = ConfigurationOption.mtu ∧ len = 2 then
      match rest with
      | low :: high :: _ => some (U16.fromLeBytes low high)
      | _ => none
    else parseMtuOption (rest.drop len.toNat)
  | _ => none
termination_by options => options.length
decreasing_by simp only [List.length_drop, List.length_cons]; omega

/-! The headers as the octets of a signaling packet. -/

namespace SignalingCode
def connectionRequest : UInt8 := 0x02
def connectionResponse : UInt8 := 0x03
def configurationRequest : UInt8 := 0x04
def configurationResponse : UInt8 := 0x05
def disconnectionRequest : UInt8 := 0x06
def disconnectionResponse : UInt8 := 0x07
end SignalingCode

/-- Ahead of every command in a signaling PDU. -/
structure L2capSignalingHeader where
  code : UInt8
  identifier : UInt8
  length : UInt16
deriving DecidableEq, Repr

def L2capSignalingHeader.asBytes (header : L2capSignalingHeader) : Bytes :=
  [header.code, header.identifier] ++ U16.toLeBytes header.length

def L2capSignalingHeader.refFromPrefix : Bytes → Option (L2capSignalingHeader × Bytes)
  | code :: identifier :: low :: high :: rest =>
    some (⟨code, identifier, U16.fromLeBytes low high⟩, rest)
  | _ => none

def ConnectionRequestHeader.asBytes (header : ConnectionRequestHeader) : Bytes :=
  U16.toLeBytes header.psm ++ U16.toLeBytes header.sourceCid

def ConnectionRequestHeader.refFromPrefix : Bytes → Option (ConnectionRequestHeader × Bytes)
  | a :: b :: c :: d :: rest => some (⟨U16.fromLeBytes a b, U16.fromLeBytes c d⟩, rest)
  | _ => none

def ConnectionResponseHeader.asBytes (header : ConnectionResponseHeader) : Bytes :=
  U16.toLeBytes header.destinationCid ++ U16.toLeBytes header.sourceCid ++
    U16.toLeBytes header.result ++ U16.toLeBytes header.status

def ConnectionResponseHeader.refFromPrefix : Bytes → Option (ConnectionResponseHeader × Bytes)
  | a :: b :: c :: d :: e :: f :: g :: h :: rest =>
    some (⟨U16.fromLeBytes a b, U16.fromLeBytes c d, U16.fromLeBytes e f, U16.fromLeBytes g h⟩,
      rest)
  | _ => none

def ConfigurationRequestHeader.asBytes (header : ConfigurationRequestHeader) : Bytes :=
  U16.toLeBytes header.destinationCid ++ U16.toLeBytes header.flags

def ConfigurationRequestHeader.refFromPrefix : Bytes → Option (ConfigurationRequestHeader × Bytes)
  | a :: b :: c :: d :: rest => some (⟨U16.fromLeBytes a b, U16.fromLeBytes c d⟩, rest)
  | _ => none

def ConfigurationResponseHeader.asBytes (header : ConfigurationResponseHeader) : Bytes :=
  U16.toLeBytes header.sourceCid ++ U16.toLeBytes header.flags ++ U16.toLeBytes header.result

def ConfigurationResponseHeader.refFromPrefix :
    Bytes → Option (ConfigurationResponseHeader × Bytes)
  | a :: b :: c :: d :: e :: f :: rest =>
    some (⟨U16.fromLeBytes a b, U16.fromLeBytes c d, U16.fromLeBytes e f⟩, rest)
  | _ => none

end Simble.L2cap
