import IpmiRs.Ipmi
import IpmiRs.Library.Bytes

/-! Get Device ID, `ipmi-rs-core/src/app/get_device_id.rs`: the identity,
firmware revision and abilities of a device. -/
namespace IpmiRs.App
open Connection Library.Bytes

/-- The response did not contain enough data. -/
inductive NotEnoughData where
  | notEnoughData
  deriving DecidableEq

structure DeviceId where
  deviceId : UInt8
  deviceRevision : UInt8
  providesDeviceSdrs : Bool
  deviceAvailable : Bool
  majorFwRevision : UInt8
  minorFwRevision : UInt8
  majorVersion : UInt8
  minorVersion : UInt8
  chassisSupport : Bool
  bridgeSupport : Bool
  ipmbEventGeneratorSupport : Bool
  ipmbEventReceiverSupport : Bool
  fruInventorySupport : Bool
  selDeviceSupport : Bool
  sdrRepositorySupport : Bool
  sensorDeviceSupport : Bool
  manufacturerId : UInt32
  productId : UInt16
  auxRevision : Option (Vector UInt8 4)
  deriving DecidableEq

def DeviceId.fromData (data : List UInt8) : Option DeviceId :=
  if data.length < 11 then none
  else
    -- The minor revision is two decimal digits.
    let minNibLow : UInt8 := data[3]! &&& 0xF
    let minNibHigh : UInt8 := data[3]! >>> 4
    some {
      deviceId := data[0]!
      deviceRevision := data[1]! &&& 0xF
      providesDeviceSdrs := data[1]! &&& 0x80 == 0x80
      deviceAvailable := data[2]! &&& 0x80 != 0x80
      majorFwRevision := data[2]! &&& 0x7F
      minorFwRevision := minNibLow + minNibHigh * 10
      majorVersion := data[4]! &&& 0xF
      minorVersion := data[4]! >>> 4
      chassisSupport := data[5]! &&& 0x80 == 0x80
      bridgeSupport := data[5]! &&& 0x40 == 0x40
      ipmbEventGeneratorSupport := data[5]! &&& 0x20 == 0x20
      ipmbEventReceiverSupport := data[5]! &&& 0x10 == 0x10
      fruInventorySupport := data[5]! &&& 0x08 == 0x08
      selDeviceSupport := data[5]! &&& 0x04 == 0x04
      sdrRepositorySupport := data[5]! &&& 0x02 == 0x02
      sensorDeviceSupport := data[5]! &&& 0x01 == 0x01
      manufacturerId := UInt32.ofNat (ofLe [data[6]!, data[7]!, data[8]!])
      productId := UInt16.ofNat (ofLe [data[9]!, data[10]!])
      auxRevision :=
        if data.length < 15 then none else some #v[data[11]!, data[12]!, data[13]!, data[14]!] }

def getDeviceId : IpmiCommand DeviceId NotEnoughData where
  message := .newRequest .app 0x01 []
  parse data := (DeviceId.fromData data).elim (.error .notEnoughData) .ok

/-- `TargetDeviceId`: the device ID of a destination other than the BMC. -/
def targetDeviceId (target : Option (Address × Channel)) : IpmiCommand DeviceId NotEnoughData :=
  { getDeviceId with target }

end IpmiRs.App
