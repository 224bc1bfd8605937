import IpmiRs.Storage.FruTransfer
import IpmiRs.Storage.SdrRecord

/-! The locator records with the addresses in them,
`sdr/record/fru_device_locator.rs` and `sdr/record/mc_device_locator.rs`. -/
namespace IpmiRs.Storage
open Connection

/-- The FRU device of a locator: one with an ID, or an EEPROM on a bus. -/
inductive SdrFruDevice where
  | logical (fruDeviceId : UInt8)
  | physical (i2cAddress : UInt8)
  deriving DecidableEq

structure FruRecordKey where
  deviceAccessAddress : UInt8
  fruDevice : SdrFruDevice
  lun : LogicalUnit
  privateBusId : UInt8
  channelNumber : UInt8
  deriving DecidableEq

structure FruDeviceLocator where
  recordKey : FruRecordKey
  deviceType : UInt8
  deviceTypeModifier : UInt8
  fruEntityId : UInt8
  fruEntityInstance : UInt8
  oemReserved : UInt8
  idString : SensorId
  deriving DecidableEq

/-- `FruDeviceLocator::parse`, which takes the device for a logical one by the
high bit of its ID. -/
def FruDeviceLocator.parse (recordData : List UInt8) : Except RecordParseError FruDeviceLocator := do
  if recordData.length < 11 then throw .notEnoughData
  let fruDevice :=
    if recordData[1]! &&& 0x80 = 0x80 then SdrFruDevice.physical (recordData[1]! >>> 1)
    else .logical recordData[1]!
  let recordKey : FruRecordKey := {
    deviceAccessAddress := recordData[0]! >>> 1
    fruDevice
    lun := .fromLowBits (recordData[2]! >>> 3)
    privateBusId := recordData[2]! &&& 0b111
    channelNumber := recordData[3]! }
  let idString ← SensorId.parse recordData[10]! (recordData.drop 11)
  return {
    recordKey
    deviceType := recordData[5]!
    deviceTypeModifier := recordData[6]!
    fruEntityId := recordData[7]!
    fruEntityInstance := recordData[8]!
    oemReserved := recordData[9]!
    idString }

structure McRecordKey where
  i2cAddress : UInt8
  channel : UInt8
  deriving DecidableEq

inductive GlobalInitialization where
  | enableEventMessageGeneration
  | disableEventMessageGeneration
  | doNotInitialize
  | reserved
  deriving DecidableEq

structure DeviceCapabilities where
  chassisDevice : Bool
  bridge : Bool
  ipmiEventGenerator : Bool
  ipmiEventReceiver : Bool
  fruInventoryDevice : Bool
  selDevice : Bool
  sdrRepositoryDevice : Bool
  sensorDevice : Bool
  deriving DecidableEq

structure McDeviceLocatorRecord where
  key : McRecordKey
  acpiSystemPowerStateNotificationRequired : Bool
  acpiDevicePowerStateNotificationRequired : Bool
  staticController : Bool
  controllerLogsInitializationErrors : Bool
  logInitializationErrorsAccessingController : Bool
  globalInitialization : GlobalInitialization
  deviceCapabilities : DeviceCapabilities
  entityId : UInt8
  entityInstance : UInt8
  oemReserved : UInt8
  idString : SensorId
  deriving DecidableEq

/-- `(value & bit) == bit` -/
def hasBit (value bit : UInt8) : Bool := value &&& bit == bit

/-- `McDeviceLocatorRecord::parse` -/
def McDeviceLocatorRecord.parse (recordData : List UInt8) :
    Except RecordParseError McDeviceLocatorRecord := do
  if recordData.length < 11 then throw .notEnoughData
  let psnAndGi := recordData[2]!
  let dcByte := recordData[3]!
  let idString ← SensorId.parse recordData[10]! (recordData.drop 11)
  return {
    key := { i2cAddress := recordData[0]! >>> 1, channel := recordData[1]! &&& 0b1111 }
    acpiSystemPowerStateNotificationRequired := hasBit psnAndGi 0b10000000
    acpiDevicePowerStateNotificationRequired := hasBit psnAndGi 0b01000000
    staticController := hasBit psnAndGi 0b00100000
    controllerLogsInitializationErrors := hasBit psnAndGi 0b00001000
    logInitializationErrorsAccessingController := hasBit psnAndGi 0b00000100
    globalInitialization := match (psnAndGi &&& 0b00000011).toNat with
      | 0b00 => .enableEventMessageGeneration
      | 0b01 => .disableEventMessageGeneration
      | 0b10 => .doNotInitialize
      | _ => .reserved
    deviceCapabilities := {
      chassisDevice := hasBit dcByte 0b10000000
      bridge := hasBit dcByte 0b01000000
      ipmiEventGenerator := hasBit dcByte 0b00100000
      ipmiEventReceiver := hasBit dcByte 0b00010000
      fruInventoryDevice := hasBit dcByte 0b00001000
      selDevice := hasBit dcByte 0b00000100
      sdrRepositoryDevice := hasBit dcByte 0b00000010
      sensorDevice := hasBit dcByte 0b00000001 }
    entityId := recordData[7]!
    entityInstance := recordData[8]!
    oemReserved := recordData[9]!
    idString }

/-- A record's contents, the two kinds of locator that name a FRU in full. -/
inductive LocatorContents where
  | fruDeviceLocator (locator : FruDeviceLocator)
  | mcDeviceLocator (locator : McDeviceLocatorRecord)
  | other (contents : RecordContents)
  deriving DecidableEq

namespace LocatorContents

def parse (ty : UInt8) (body : List UInt8) : Except RecordParseError LocatorContents :=
  match ty.toNat with
  | 0x11 => (FruDeviceLocator.parse body).map .fruDeviceLocator
  | 0x12 => (McDeviceLocatorRecord.parse body).map .mcDeviceLocator
  | _ => (RecordContents.parse ty body).map .other

/-- A FRU locator is refused or accepted as by the record parser. -/
theorem parse_fruDeviceLocator (body : List UInt8) :
    (FruDeviceLocator.parse body).map (fun locator => .fruDeviceLocator locator.idString) =
      RecordContents.parseLocator .fruDeviceLocator body := by
  unfold FruDeviceLocator.parse RecordContents.parseLocator
  by_cases short : body.length < 11
  · rw [if_pos short, if_pos short]
    rfl
  · rw [if_neg short, if_neg short]
    cases SensorId.parse body[10]! (body.drop 11) with
    | error error => rfl
    | ok id => rfl

theorem parse_mcDeviceLocator (body : List UInt8) :
    (McDeviceLocatorRecord.parse body).map (fun locator => .mcDeviceLocator locator.idString) =
      RecordContents.parseLocator .mcDeviceLocator body := by
  unfold McDeviceLocatorRecord.parse RecordContents.parseLocator
  by_cases short : body.length < 11
  · rw [if_pos short, if_pos short]
    rfl
  · rw [if_neg short, if_neg short]
    cases SensorId.parse body[10]! (body.drop 11) with
    | error error => rfl
    | ok id => rfl

end LocatorContents

end IpmiRs.Storage
