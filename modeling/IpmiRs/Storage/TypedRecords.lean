import IpmiRs.Library.Checked
import IpmiRs.Storage.FruLocators
import IpmiRs.Storage.FullSensorRecord

/-! Sensor data records with all their fields, and the parsers as they index
their bytes: each access may be out of range, and each match may lack an arm. -/
namespace IpmiRs.Storage.Typed
open Connection Library Library.Bytes Library.Checked

/-- What a parser comes to, unless it panics. -/
abbrev Parsed (α : Type) := Checked RecordParseError α

/-- `NonMaxU8::new` -/
def nonMax (value : UInt8) : Option { number : UInt8 // number ≠ 0xFF } :=
  if known : value ≠ 0xFF then some ⟨value, known⟩ else none

def SensorKey.parse (recordData : List UInt8) : Parsed SensorKey :=
  if recordData.length ≠ 3 then throw .notEnoughData
  else do
    let ownerId := SensorOwner.ofByte (← index recordData 0)
    let ownerChannelFruLun ← index recordData 1
    let ownerChannel ← okOr (Channel.new ((ownerChannelFruLun &&& 0xF0) >>> 4)) .invalidOwnerChannel
    let fruInvDeviceOwnerLun := LogicalUnit.fromLowBits (ownerChannelFruLun >>> 2)
    let ownerLun := LogicalUnit.fromLowBits (ownerChannelFruLun &&& 0b11)
    let sensorNumber ← okOr (nonMax (← index recordData 2)) .invalidSensorNumber
    pure {
      ownerId
      ownerChannel
      fruInvDeviceOwnerLun
      ownerLun
      sensorNumber }

/-- An ID string from its type and length byte and the bytes after it. -/
def SensorId.parse (value : UInt8) (data : List UInt8) : Parsed SensorId :=
  let typeCode := (value >>> 6) &&& 0b11
  let length := value &&& 0x1F
  if data.length < length.toNat then throw .notEnoughData
  else do
    let data ← slice data 0 length.toNat
    match typeCode.toNat with
    | 0b00 => (okOr (String.fromUTF8? ⟨data.toArray⟩) .invalidSensorId) >>= fun text => pure (.unicode text)
    | 0b01 => pure (.bcdPlus data)
    | 0b10 => pure (.ascii6BPacked data)
    | 0b11 => pure (.ascii8BAndLatin1 (String.ofList (data.map fun byte => Char.ofNat byte.toNat)))
    | _ => panicked

/-- `EntityInstance::from`, whose numbers of instances are told apart by two ranges. -/
def EntityInstance.ofByte (value : UInt8) : Parsed EntityInstance := do
  covered (value &&& 0x7F).toNat 0x80
  pure (Storage.EntityInstance.ofByte value)

/-- `SensorCapabilities::new` -/
def SensorCapabilities.new (caps : UInt8) (assertLower deassertUpper discrete : UInt16) : Parsed SensorCapabilities := do
  covered ((caps &&& 0x30) >>> 4).toNat 4
  covered ((caps &&& 0xC) >>> 2).toNat 4
  pure (Storage.SensorCapabilities.new caps assertLower deassertUpper discrete)

/-- `SensorUnits::from` -/
def SensorUnits.ofBytes (sensorUnits1 baseUnit modifierUnit : UInt8) : Parsed SensorUnits := do
  covered ((sensorUnits1 >>> 3) &&& 0b111).toNat 8
  covered ((sensorUnits1 >>> 1) &&& 0b11).toNat 4
  pure (Storage.SensorUnits.ofBytes sensorUnits1 baseUnit modifierUnit)

/-- The word of two bytes at a place. -/
def wordAt (recordData : List UInt8) (low : Nat) : Parsed UInt16 := do
  let first ← index recordData low
  let second ← index recordData (low + 1)
  pure (wordFromLe first second)

/-- The common data, without an ID yet, and the data after it. -/
def SensorRecordCommon.parseWithoutId (recordData : List UInt8) : Parsed (SensorRecordCommon × List UInt8) :=
  if recordData.length < 18 then throw .notEnoughData
  else do
    let key ← SensorKey.parse (← slice recordData 0 3)
    let entityId ← index recordData 3
    let entityInstance ← EntityInstance.ofByte (← index recordData 4)
    let initialization := SensorInitialization.ofByte (← index recordData 5)
    let sensorCapabilities ← index recordData 6
    let ty ← index recordData 7
    let eventReadingTypeCode := EventReadingTypeCodes.ofByte (← index recordData 8)
    let assertionLower ← wordAt recordData 9
    let deassertionUpper ← wordAt recordData 11
    let settableReadable ← wordAt recordData 13
    let capabilities ← SensorCapabilities.new sensorCapabilities assertionLower deassertionUpper settableReadable
    let sensorUnits1 ← index recordData 15
    let baseUnit ← index recordData 16
    let modifierUnit ← index recordData 17
    let sensorUnits ← SensorUnits.ofBytes sensorUnits1 baseUnit modifierUnit
    let rest ← slice recordData 18 recordData.length
    pure ({
      key
      entityId
      entityInstance
      initialization
      capabilities
      discreteReadingMask := settableReadable &&& 0x7FFF
      ty
      eventReadingTypeCode
      sensorUnits
      sensorId := .unicode "" }, rest)

/-- `FullSensorRecord::parse` -/
def FullSensorRecord.parse (recordData : List UInt8) : Parsed FullSensorRecord :=
  if recordData.length < 43 then throw .notEnoughData
  else do
    let sensorUnits1 ← index recordData 15
    covered ((sensorUnits1 >>> 6) &&& 0x03).toNat 4
    let analogDataFormat := DataFormat.ofUnits sensorUnits1
    let (common, data) ← SensorRecordCommon.parseWithoutId recordData
    if data.length < 25 then throw .notEnoughData
    else do
      let linearization := Linearization.ofByte ((← index data 0) &&& 0x7F)
      let mLsb ← index data 1
      let mMsbTolerance ← index data 2
      let bLsb ← index data 3
      let bMsbAccuracyLsb ← index data 4
      let accuracyDirection ← index data 5
      let direction ← total (Direction.ofBits (accuracyDirection &&& 0b11))
      let exponents ← index data 6
      let analogCharacteristics ← index data 7
      let nominalReading ← index data 8
      let normalMaximum ← index data 9
      let normalMinimum ← index data 10
      let maxReading ← index data 11
      let minReading ← index data 12
      let upperNonRecoverableThreshold ← index data 13
      let upperCriticalThreshold ← index data 14
      let upperNonCriticalThreshold ← index data 15
      let lowerNonRecoverableThreshold ← index data 16
      let lowerCriticalThreshold ← index data 17
      let lowerNonCriticalThreshold ← index data 18
      let positiveGoing ← index data 19
      let negativeGoing ← index data 20
      let oemData ← index data 23
      let idStringTypeLen ← index data 24
      let idStringBytes ← slice data 25 data.length
      let sensorId ← SensorId.parse idStringTypeLen idStringBytes
      pure {
        common := { common with sensorId }
        analogDataFormat
        linearization
        m := (wordFromLe mLsb (signBits mMsbTolerance ||| ((mMsbTolerance >>> 6) &&& 0x3))).toInt16
        tolerance := mMsbTolerance &&& 0x3F
        b := (wordFromLe bLsb (signBits bMsbAccuracyLsb ||| (bMsbAccuracyLsb >>> 6))).toInt16
        accuracy := wordFromLe ((accuracyDirection >>> 4) &&& 0xF) (bMsbAccuracyLsb &&& 0x3F)
        accuracyExponent := (accuracyDirection >>> 2) &&& 0x3
        direction
        resultExponent := (nibbleSign exponents 0x80 ||| ((exponents >>> 4) &&& 0x7)).toInt8
        bExponent := (nibbleSign exponents 0x8 ||| (exponents &&& 0x7)).toInt8
        nominalReading := if analogCharacteristics &&& 0x1 = 0x1 then some nominalReading else none
        normalMaximum := if analogCharacteristics &&& 0x2 = 0x2 then some normalMaximum else none
        normalMinimum := if analogCharacteristics &&& 0x4 = 0x4 then some normalMinimum else none
        maxReading
        minReading
        upperNonRecoverableThreshold
        upperCriticalThreshold
        upperNonCriticalThreshold
        lowerNonRecoverableThreshold
        lowerCriticalThreshold
        lowerNonCriticalThreshold
        positiveGoingThresholdHysteresisValue := nonZero positiveGoing
        negativeGoingThresholdHysteresisValue := nonZero negativeGoing
        oemData }

structure RecordSharing where
  idStringModifier : IdStringModifier
  shareCount : UInt8
  entityInstanceIncrements : Bool
  modifierOffset : UInt8
  deriving DecidableEq

structure CompactSensorRecord where
  common : SensorRecordCommon
  direction : Direction
  recordSharing : RecordSharing
  positiveGoingThresholdHysteresisValue : UInt8
  negativeGoingThresholdHysteresisValue : UInt8
  oemData : UInt8
  deriving DecidableEq

structure EventOnlySensorRecord where
  key : SensorKey
  entityId : UInt8
  entityInstance : EntityInstance
  idString : SensorId
  ty : UInt8
  eventReadingTypeCode : EventReadingTypeCodes
  direction : Direction
  recordSharing : RecordSharing
  oemReserved : UInt8
  deriving DecidableEq

/-- The direction and the sharing of a record, which compact and event-only records have in two bytes. -/
def directionSharing (directionSharing1 directionSharing2 : UInt8) : Parsed (Direction × RecordSharing) := do
  let direction ← total (Direction.ofBits ((directionSharing1 &&& 0xC0) >>> 6))
  let idStringModifier ← total (IdStringModifier.ofBits ((directionSharing1 &&& 0x30) >>> 4))
  pure (direction, {
    idStringModifier
    shareCount := directionSharing1 &&& 0xF
    entityInstanceIncrements := directionSharing2 &&& 0x80 == 0x80
    modifierOffset := directionSharing2 &&& 0x3F })

/-- `CompactSensorRecord::parse` -/
def CompactSensorRecord.parse (recordData : List UInt8) : Parsed CompactSensorRecord :=
  if recordData.length < 27 then throw .notEnoughData
  else do
    let (common, data) ← SensorRecordCommon.parseWithoutId recordData
    let directionSharing1 ← index data 0
    let directionSharing2 ← index data 1
    let (direction, recordSharing) ← directionSharing directionSharing1 directionSharing2
    let positiveGoingThresholdHysteresisValue ← index data 2
    let negativeGoingThresholdHysteresisValue ← index data 3
    let oemData ← index data 7
    let idStringTypeLen ← index data 8
    let idStringBytes ← slice data 9 data.length
    let sensorId ← SensorId.parse idStringTypeLen idStringBytes
    pure {
      common := { common with sensorId }
      direction
      recordSharing
      positiveGoingThresholdHysteresisValue
      negativeGoingThresholdHysteresisValue
      oemData }

/-- `EventOnlySensorRecord::parse` -/
def EventOnlySensorRecord.parse (recordData : List UInt8) : Parsed EventOnlySensorRecord :=
  if recordData.length < 12 then throw .notEnoughData
  else do
    let key ← SensorKey.parse (← slice recordData 0 3)
    let entityId ← index recordData 3
    let entityInstance ← EntityInstance.ofByte (← index recordData 4)
    let ty ← index recordData 5
    let eventReadingTypeCode := EventReadingTypeCodes.ofByte (← index recordData 6)
    let directionSharing1 ← index recordData 7
    let directionSharing2 ← index recordData 8
    let (direction, recordSharing) ← directionSharing directionSharing1 directionSharing2
    let oemReserved ← index recordData 10
    let idStringTypeLen ← index recordData 11
    let idStringBytes ← slice recordData 12 recordData.length
    let idString ← SensorId.parse idStringTypeLen idStringBytes
    pure {
      key
      entityId
      entityInstance
      idString
      ty
      eventReadingTypeCode
      direction
      recordSharing
      oemReserved }

structure GenericDeviceRecordKey where
  deviceAccessAddress : UInt8
  deviceSlaveAddress : UInt8
  channelNumber : UInt8
  accessLun : LogicalUnit
  privateBusId : Option { value : UInt8 // value ≠ 0 }
  deriving DecidableEq

structure GenericDeviceLocator where
  recordKey : GenericDeviceRecordKey
  addressSpan : UInt8
  deviceType : UInt8
  deviceTypeModifier : UInt8
  entityId : UInt8
  entityInstance : UInt8
  oemReserved : UInt8
  idString : SensorId
  deriving DecidableEq

/-- `GenericDeviceLocator::parse` -/
def GenericDeviceLocator.parse (recordData : List UInt8) : Parsed GenericDeviceLocator :=
  if recordData.length < 11 then throw .notEnoughData
  else do
    let deviceAccessAddress := (← index recordData 0) >>> 1
    let slave ← index recordData 1
    let deviceSlaveAddress := slave >>> 1
    let bus ← index recordData 2
    let accessLun := LogicalUnit.fromLowBits (bus >>> 3)
    let privateBusId := nonZero (bus &&& 0b111)
    let channelNumber := ((slave &&& 0b1) <<< 3) ||| (bus >>> 5)
    let addressSpan := (← index recordData 3) &&& 0b111
    let deviceType ← index recordData 5
    let deviceTypeModifier ← index recordData 6
    let entityId ← index recordData 7
    let entityInstance ← index recordData 8
    let oemReserved ← index recordData 9
    let idStringTypeLen ← index recordData 10
    let idStringBytes ← slice recordData 11 recordData.length
    let idString ← SensorId.parse idStringTypeLen idStringBytes
    pure {
      recordKey := {
        deviceAccessAddress
        deviceSlaveAddress
        channelNumber
        accessLun
        privateBusId }
      addressSpan
      deviceType
      deviceTypeModifier
      entityId
      entityInstance
      oemReserved
      idString }

/-- `FruDeviceLocator::parse` -/
def FruDeviceLocator.parse (recordData : List UInt8) : Parsed FruDeviceLocator :=
  if recordData.length < 11 then throw .notEnoughData
  else do
    let deviceAccessAddress := (← index recordData 0) >>> 1
    let device ← index recordData 1
    let fruDevice := if device &&& 0x80 = 0x80 then SdrFruDevice.physical (device >>> 1) else .logical device
    let bus ← index recordData 2
    let lun := LogicalUnit.fromLowBits (bus >>> 3)
    let privateBusId := bus &&& 0b111
    let channelNumber ← index recordData 3
    let deviceType ← index recordData 5
    let deviceTypeModifier ← index recordData 6
    let fruEntityId ← index recordData 7
    let fruEntityInstance ← index recordData 8
    let oemReserved ← index recordData 9
    let idStringTypeLen ← index recordData 10
    let idStringBytes ← slice recordData 11 recordData.length
    let idString ← SensorId.parse idStringTypeLen idStringBytes
    pure {
      recordKey := {
        deviceAccessAddress
        fruDevice
        lun
        privateBusId
        channelNumber }
      deviceType
      deviceTypeModifier
      fruEntityId
      fruEntityInstance
      oemReserved
      idString }

def GlobalInitialization.ofBits (value : UInt8) : Parsed GlobalInitialization :=
  match value.toNat with
  | 0b00 => pure .enableEventMessageGeneration
  | 0b01 => pure .disableEventMessageGeneration
  | 0b10 => pure .doNotInitialize
  | 0b11 => pure .reserved
  | _ => panicked

/-- `McDeviceLocatorRecord::parse` -/
def McDeviceLocatorRecord.parse (recordData : List UInt8) : Parsed McDeviceLocatorRecord :=
  if recordData.length < 11 then throw .notEnoughData
  else do
    let i2cAddress := (← index recordData 0) >>> 1
    let channel := (← index recordData 1) &&& 0b1111
    let psnAndGi ← index recordData 2
    let globalInitialization ← GlobalInitialization.ofBits (psnAndGi &&& 0b00000011)
    let dcByte ← index recordData 3
    let entityId ← index recordData 7
    let entityInstance ← index recordData 8
    let oemReserved ← index recordData 9
    let idStringTypeLen ← index recordData 10
    let idStringBytes ← slice recordData 11 recordData.length
    let idString ← SensorId.parse idStringTypeLen idStringBytes
    pure {
      key := {
        i2cAddress
        channel }
      acpiSystemPowerStateNotificationRequired := hasBit psnAndGi 0b10000000
      acpiDevicePowerStateNotificationRequired := hasBit psnAndGi 0b01000000
      staticController := hasBit psnAndGi 0b00100000
      controllerLogsInitializationErrors := hasBit psnAndGi 0b00001000
      logInitializationErrorsAccessingController := hasBit psnAndGi 0b00000100
      globalInitialization
      deviceCapabilities := {
        chassisDevice := hasBit dcByte 0b10000000
        bridge := hasBit dcByte 0b01000000
        ipmiEventGenerator := hasBit dcByte 0b00100000
        ipmiEventReceiver := hasBit dcByte 0b00010000
        fruInventoryDevice := hasBit dcByte 0b00001000
        selDevice := hasBit dcByte 0b00000100
        sdrRepositoryDevice := hasBit dcByte 0b00000010
        sensorDevice := hasBit dcByte 0b00000001 }
      entityId
      entityInstance
      oemReserved
      idString }

inductive RecordContents where
  | fullSensor (record : FullSensorRecord)
  | compactSensor (record : CompactSensorRecord)
  | eventOnlySensor (record : EventOnlySensorRecord)
  | genericDeviceLocator (locator : GenericDeviceLocator)
  | fruDeviceLocator (locator : FruDeviceLocator)
  | mcDeviceLocator (locator : McDeviceLocatorRecord)
  | unknown (ty : UInt8) (data : List UInt8)
  deriving DecidableEq

structure Record where
  header : RecordHeader
  contents : RecordContents
  deriving DecidableEq

def RecordContents.parse (recordType : UInt8) (recordData : List UInt8) : Parsed RecordContents :=
  if recordType = 0x01 then .fullSensor <$> FullSensorRecord.parse recordData
  else if recordType = 0x02 then .compactSensor <$> CompactSensorRecord.parse recordData
  else if recordType = 0x03 then .eventOnlySensor <$> EventOnlySensorRecord.parse recordData
  else if recordType = 0x10 then .genericDeviceLocator <$> GenericDeviceLocator.parse recordData
  else if recordType = 0x11 then .fruDeviceLocator <$> FruDeviceLocator.parse recordData
  else if recordType = 0x12 then .mcDeviceLocator <$> McDeviceLocatorRecord.parse recordData
  else pure (.unknown recordType recordData)

/-- `RecordContents::id` -/
def RecordContents.id : RecordContents → Option SensorId
  | .fullSensor full => some full.common.sensorId
  | .compactSensor compact => some compact.common.sensorId
  | .eventOnlySensor event => some event.idString
  | .genericDeviceLocator generic => some generic.idString
  | .fruDeviceLocator fru => some fru.idString
  | .mcDeviceLocator mc => some mc.idString
  | .unknown _ _ => none

/-- `Record::parse` -/
def Record.parse (data : List UInt8) : Parsed Record :=
  if data.length < 5 then throw .notEnoughData
  else do
    let low ← index data 0
    let high ← index data 1
    let version ← index data 2
    let recordType ← index data 3
    let recordLength ← index data 4
    let recordData ← slice data 5 data.length
    if recordData.length ≠ recordLength.toNat then throw .incorrectRecordLength
    else do
      let contents ← RecordContents.parse recordType recordData
      pure ⟨⟨.ofBytes low high, version &&& 0x0F, (version &&& 0xF0) >>> 4⟩, contents⟩

end IpmiRs.Storage.Typed
