import IpmiRs.App.DeviceId
import IpmiRs.Library.Stateful

/-! Checked dispatch of OEM commands, `oem.rs`: the device ID of the
destination is read before every one of them. -/
namespace IpmiRs
open Connection App Library

/-- `OemCommand`: a command, and the devices it may be sent to. -/
structure OemCommand (α β : Type) extends IpmiCommand α β where
  manufacturerId : UInt32
  productId : Option UInt16 := none
  supports : DeviceId → Bool := fun device =>
    device.manufacturerId == manufacturerId && productId.all (· == device.productId)

inductive OemError (ε β : Type) where
  | identity (error : IpmiError ε NotEnoughData)
  | unsupportedDevice (manufacturerId : UInt32) (productId : UInt16) (expectedManufacturerId : UInt32)
      (expectedProductId : Option UInt16)
  | command (error : IpmiError ε β)
  deriving DecidableEq

/-- What is done over a link, failing with `γ`. -/
abbrev OverLink (ε γ α : Type) := Stateful (Link ε) γ α

namespace OverLink
variable {ε α β : Type}

/-- `Ipmi::send_recv`. -/
def sendRecv (command : IpmiCommand α β) : OverLink ε (IpmiError ε β) α :=
  ExceptT.mk fun link => link.sendRecv command

/-- `Ipmi::oem_device_id`. -/
def oemDeviceId (target : Option (Address × Channel)) :
    OverLink ε (IpmiError ε NotEnoughData) DeviceId :=
  sendRecv (targetDeviceId target)

/-- `Ipmi::send_oem`. -/
def sendOem (command : OemCommand α β) : OverLink ε (OemError ε β) α := do
  let device ← ExceptT.adapt .identity (oemDeviceId command.target)
  if device.manufacturerId ≠ command.manufacturerId ∨
      command.productId.any (device.productId != ·) ∨ ¬command.supports device then
    throw (.unsupportedDevice device.manufacturerId device.productId command.manufacturerId
      command.productId)
  else ExceptT.adapt .command (sendRecv command.toIpmiCommand)

end OverLink
end IpmiRs
