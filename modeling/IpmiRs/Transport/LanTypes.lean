import IpmiRs.Library.Bytes
import IpmiRs.Library.Checked

/-! Values of LAN configuration parameters as they are on the wire,
`ipmi-rs-core/src/transport/lan_types.rs` and the types of the parameters that
can be read. -/
namespace IpmiRs.Transport
open Library Library.Bytes Library.Checked

/-- `[u8; n]` -/
abbrev Octets (n : Nat) := { bytes : List UInt8 // bytes.length = n }

inductive LanConfigError where
  | missingRevision
  | unsupportedRevision (revision : UInt8)
  | invalidLength (expected actual : Nat)
  | invalidValue (value : UInt8)
  | invalidPrefix (value : UInt8)
  | mismatchedParameter
  | invalidBlockSequence
  | selectorMismatch
  | truncated
  deriving DecidableEq

/-- Code that fails with an error of a LAN parameter, or panics. -/
abbrev Lan (α : Type) := Checked LanConfigError α

/-- `length` -/
def checkLength (data : List UInt8) (expected : Nat) : Lan Unit :=
  if data.length = expected then pure () else throw (.invalidLength expected data.length)

@[simp] theorem checkLength_eq {data : List UInt8} {n : Nat} (long : data.length = n) :
    checkLength data n = pure () := if_pos long

/-- `prefix` -/
def checkPrefix (value : UInt8) : Lan Unit :=
  if value ≤ 128 then pure () else throw (.invalidPrefix value)

@[simp] theorem checkPrefix_eq {value : UInt8} (short : value ≤ 128) : checkPrefix value = pure () :=
  if_pos short

/-- `from_slice`: the first `n` bytes. -/
def Octets.fromSlice (n : Nat) (data : List UInt8) : Lan (Octets n) :=
  if short : data.length < n then throw .truncated
  else pure ⟨data.take n, by rw [List.length_take]; omega⟩

@[simp] theorem Octets.fromSlice_eq {n : Nat} (octets : Octets n) :
    Octets.fromSlice n octets.1 = pure octets := by
  obtain ⟨bytes, rfl⟩ := octets
  unfold Octets.fromSlice
  rw [dif_neg (Nat.lt_irrefl _)]
  simp only [List.take_length]

/-- `data.try_into().expect("checked length")` -/
def Octets.expect (n : Nat) (data : List UInt8) : Lan (Octets n) :=
  if exact : data.length = n then pure ⟨data, exact⟩ else panicked

@[simp] theorem Octets.expect_eq {n : Nat} (octets : Octets n) :
    Octets.expect n octets.1 = pure octets :=
  dif_pos octets.2

abbrev Ipv4Address := Octets 4
abbrev MacAddress := Octets 6
abbrev Ipv6Address := Octets 16
abbrev LanIpv4Header := Octets 3

/-- `u8::from(flag)` -/
def bit (flag : Bool) : UInt8 := if flag then 1 else 0

inductive LanSetInProgress where
  | complete
  | inProgress
  | commitWrite
  deriving DecidableEq

namespace LanSetInProgress

def byte : LanSetInProgress → UInt8
  | .complete => 0
  | .inProgress => 1
  | .commitWrite => 2

def parse (value : UInt8) : Lan LanSetInProgress :=
  match (value &&& 3).toNat with
  | 0 => pure .complete
  | 1 => pure .inProgress
  | 2 => pure .commitWrite
  | _ => throw (.invalidValue value)

end LanSetInProgress

structure LanArpControl where
  arpResponses : Bool
  gratuitousArp : Bool
  deriving DecidableEq

def LanArpControl.byte (control : LanArpControl) : UInt8 :=
  bit control.arpResponses <<< 1 ||| bit control.gratuitousArp

structure LanVlanId where
  enabled : Bool
  id : UInt16
  deriving DecidableEq

namespace LanVlanId

def bytes (vlan : LanVlanId) : Lan (Octets 2) :=
  if (vlan.enabled ∧ vlan.id = 0) ∨ 4094 < vlan.id then
    throw (.invalidValue (vlan.id &&& 0xFF).toUInt8)
  else
    pure ⟨[vlan.id.toUInt8, (vlan.id >>> 8).toUInt8 ||| if vlan.enabled then 0x80 else 0], rfl⟩

def parse (data : List UInt8) : Lan LanVlanId := do
  checkLength data 2
  let low ← index data 0
  let high ← index data 1
  let enabled := high &&& 0x80 != 0
  let id := UInt16.ofNat (ofLe [low, high &&& 0x0F])
  if (enabled ∧ ¬(1 ≤ id ∧ id ≤ 4094)) ∨ 4094 < id then throw (.invalidValue high)
  else return ⟨enabled, id⟩

end LanVlanId

structure LanBadPasswordThreshold where
  generateAuditEvent : Bool
  threshold : UInt8
  resetInterval : UInt16
  lockoutInterval : UInt16
  deriving DecidableEq

namespace LanBadPasswordThreshold

def bytes (policy : LanBadPasswordThreshold) : Octets 6 :=
  ⟨bit policy.generateAuditEvent :: policy.threshold ::
    (toLe 2 policy.resetInterval.toNat ++ toLe 2 policy.lockoutInterval.toNat), rfl⟩

def parse (data : List UInt8) : Lan LanBadPasswordThreshold := do
  checkLength data 6
  return {
    generateAuditEvent := (← index data 0) &&& 1 != 0
    threshold := ← index data 1
    resetInterval := UInt16.ofNat (ofLe [← index data 2, ← index data 3])
    lockoutInterval := UInt16.ofNat (ofLe [← index data 4, ← index data 5]) }

end LanBadPasswordThreshold

structure LanAlertDestinationType where
  setSelector : UInt8
  acknowledged : Bool
  destinationType : UInt8
  timeout : UInt8
  retries : UInt8
  deriving DecidableEq

namespace LanAlertDestinationType

def parse (data : List UInt8) : Lan LanAlertDestinationType := do
  checkLength data 4
  let setSelector ← index data 0
  if 15 < setSelector then throw (.invalidValue setSelector)
  else
    let kind ← index data 1
    return {
      setSelector
      acknowledged := kind &&& 0x80 != 0
      destinationType := kind &&& 7
      timeout := ← index data 2
      retries := (← index data 3) &&& 7 }

/-- The byte of the acknowledgement and the type. -/
def kind (destination : LanAlertDestinationType) : UInt8 :=
  bit destination.acknowledged <<< 7 ||| destination.destinationType

def bytes (destination : LanAlertDestinationType) : Lan (Octets 4) :=
  if 15 < destination.setSelector ∨ 7 < destination.destinationType ∨ 7 < destination.retries then
    throw (.invalidValue
      (max (max destination.setSelector destination.destinationType) destination.retries))
  else pure ⟨[destination.setSelector, destination.kind, destination.timeout, destination.retries], rfl⟩

end LanAlertDestinationType

/-- An address of a format that is not known stays as it is. -/
inductive LanAlertDestinationAddress where
  | ipv4 (setSelector : UInt8) (backupGateway : Bool) (address : Ipv4Address) (mac : MacAddress)
  | other (bytes : List UInt8)
  deriving DecidableEq

namespace LanAlertDestinationAddress

def parse (data : List UInt8) : Lan LanAlertDestinationAddress :=
  if data.length < 2 then throw (.invalidLength 2 data.length)
  else do
    if (← index data 1) &&& 0xF0 ≠ 0 then return .other data
    else
      checkLength data 13
      let bytes ← Octets.expect 13 data
      let setSelector ← index bytes.1 0
      if 15 < setSelector then throw (.invalidValue setSelector)
      else
        return .ipv4 setSelector ((← index bytes.1 2) &&& 1 != 0)
          (← Octets.expect 4 (← slice bytes.1 3 7)) (← Octets.expect 6 (← slice bytes.1 7 13))

def bytes : LanAlertDestinationAddress → List UInt8
  | .other bytes => bytes
  | .ipv4 setSelector backupGateway address mac =>
    [setSelector, 0, bit backupGateway] ++ address.1 ++ mac.1

end LanAlertDestinationAddress

structure Ipv6RouterControl where
  staticRouters : Bool
  dynamicRouters : Bool
  deriving DecidableEq

def Ipv6RouterControl.byte (control : Ipv6RouterControl) : UInt8 :=
  bit control.staticRouters ||| bit control.dynamicRouters <<< 1

inductive Ipv6TimingSupport where
  | notSupported
  | global
  | perInterface
  deriving DecidableEq

/-- `Ipv6TimingSupport::try_from` -/
def Ipv6TimingSupport.ofByte (value : UInt8) : Lan Ipv6TimingSupport :=
  match value.toNat with
  | 0 => pure .notSupported
  | 1 => pure .global
  | 2 => pure .perInterface
  | _ => throw (.invalidValue value)

/-- One block of a parameter of several, possibly short. -/
structure Ipv6LanBlock where
  setSelector : UInt8
  blockSelector : UInt8
  bytes : List UInt8
  deriving DecidableEq

namespace Ipv6LanBlock

def new (setSelector blockSelector : UInt8) (bytes : List UInt8) : Lan Ipv6LanBlock :=
  if 16 < bytes.length then throw (.invalidLength 16 bytes.length)
  else pure ⟨setSelector, blockSelector, bytes⟩

def parse (data : List UInt8) : Lan Ipv6LanBlock :=
  if data.length < 2 ∨ 18 < data.length then throw (.invalidLength 18 data.length)
  else do
    new (← index data 0) (← index data 1) (← slice data 2 data.length)

def wire (block : Ipv6LanBlock) : List UInt8 :=
  [block.setSelector, block.blockSelector] ++ block.bytes

end Ipv6LanBlock

/-! ### Types of parameters that can be read -/

inductive IpAddressSource where
  | unspecified
  | static
  | dhcp
  | biosOrSystemSoftware
  | other
  | reserved (value : UInt8)
  deriving DecidableEq

namespace IpAddressSource

def ofByte (value : UInt8) : IpAddressSource :=
  match (value &&& 0x0F).toNat with
  | 0x00 => .unspecified
  | 0x01 => .static
  | 0x02 => .dhcp
  | 0x03 => .biosOrSystemSoftware
  | 0x04 => .other
  | _ => .reserved (value &&& 0x0F)

def toByte : IpAddressSource → UInt8
  | .unspecified => 0x00
  | .static => 0x01
  | .dhcp => 0x02
  | .biosOrSystemSoftware => 0x03
  | .other => 0x04
  | .reserved value => value &&& 0x0F

end IpAddressSource

structure Ipv6Ipv4Support where
  ipv6AlertingSupported : Bool
  dualStackSupported : Bool
  ipv6OnlySupported : Bool
  deriving DecidableEq

def Ipv6Ipv4Support.ofByte (value : UInt8) : Ipv6Ipv4Support :=
  ⟨value &&& 0x04 == 0x04, value &&& 0x02 == 0x02, value &&& 0x01 == 0x01⟩

inductive Ipv6Ipv4Enables where
  | ipv6Disabled
  | ipv6Only
  | ipv6Ipv4Simultaneous
  | reserved (value : UInt8)
  deriving DecidableEq

namespace Ipv6Ipv4Enables

def ofByte (value : UInt8) : Ipv6Ipv4Enables :=
  match value.toNat with
  | 0x00 => .ipv6Disabled
  | 0x01 => .ipv6Only
  | 0x02 => .ipv6Ipv4Simultaneous
  | _ => .reserved value

def toByte : Ipv6Ipv4Enables → UInt8
  | .ipv6Disabled => 0x00
  | .ipv6Only => 0x01
  | .ipv6Ipv4Simultaneous => 0x02
  | .reserved value => value

end Ipv6Ipv4Enables

structure Ipv6HeaderFlowLabel where
  label : UInt32
  deriving DecidableEq

def Ipv6HeaderFlowLabel.fromSlice (data : List UInt8) : Lan Ipv6HeaderFlowLabel :=
  if data.length < 3 then throw .truncated
  else do
    let raw := (← index data 0).toUInt32 <<< 16 ||| (← index data 1).toUInt32 <<< 8 |||
      (← index data 2).toUInt32
    return ⟨raw &&& 0x000FFFFF⟩

/-- The three bytes of a label, most significant first. -/
def Ipv6HeaderFlowLabel.bytes (flow : Ipv6HeaderFlowLabel) : List UInt8 :=
  [(flow.label >>> 16).toUInt8, (flow.label >>> 8).toUInt8, flow.label.toUInt8]

structure Ipv6Status where
  staticAddressMax : UInt8
  dynamicAddressMax : UInt8
  slaacSupported : Bool
  dhcpv6Supported : Bool
  deriving DecidableEq

def Ipv6Status.fromSlice (data : List UInt8) : Lan Ipv6Status :=
  if data.length < 3 then throw .truncated
  else do
    return ⟨← index data 0, ← index data 1, (← index data 2) &&& 0x02 == 0x02,
      (← index data 2) &&& 0x01 == 0x01⟩

structure Ipv6StaticAddress where
  setSelector : UInt8
  enabled : Bool
  sourceType : UInt8
  address : Ipv6Address
  prefixLength : UInt8
  status : UInt8
  deriving DecidableEq

namespace Ipv6StaticAddress

def fromSlice (data : List UInt8) : Lan Ipv6StaticAddress := do
  checkLength data 20
  let setSelector ← index data 0
  let sourceRaw ← index data 1
  let address ← Octets.fromSlice 16 (← slice data 2 18)
  let prefixLength ← index data 18
  checkPrefix prefixLength
  return {
    setSelector, address, prefixLength
    enabled := sourceRaw &&& 0x80 == 0x80
    sourceType := sourceRaw &&& 0x0F
    status := ← index data 19 }

end Ipv6StaticAddress

structure Ipv6DynamicAddress where
  setSelector : UInt8
  sourceType : UInt8
  address : Ipv6Address
  prefixLength : UInt8
  status : UInt8
  deriving DecidableEq

def Ipv6DynamicAddress.fromSlice (data : List UInt8) : Lan Ipv6DynamicAddress := do
  checkLength data 20
  let setSelector ← index data 0
  let sourceType := (← index data 1) &&& 0x0F
  let address ← Octets.fromSlice 16 (← slice data 2 18)
  let prefixLength ← index data 18
  checkPrefix prefixLength
  return { setSelector, sourceType, address, prefixLength, status := ← index data 19 }

/-- A component of a dynamic router, with the set it is in. -/
structure Ipv6DynamicRouter (α : Type) where
  setSelector : UInt8
  value : α
  deriving DecidableEq

end IpmiRs.Transport
