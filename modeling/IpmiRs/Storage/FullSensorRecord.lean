import IpmiRs.Storage.SdrRecord

/-! The body of a full sensor record with the fields it is decoded into,
`sdr/record/full_sensor_record.rs`. Sensor types and units stay the bytes they
are named after. -/
namespace IpmiRs.Storage
open Connection Library Library.Bytes

inductive EntityRelativeTo where
  | system
  | device
  deriving DecidableEq

inductive EntityInstance where
  | physical (relative : EntityRelativeTo) (instanceNumber : UInt8)
  | logicalContainer (relative : EntityRelativeTo) (instanceNumber : UInt8)
  deriving DecidableEq

def EntityInstance.ofByte (value : UInt8) : EntityInstance :=
  let instanceNumber := value &&& 0x7F
  let relative := if instanceNumber ≤ 0x5F then EntityRelativeTo.system else .device
  if value &&& 0x80 = 0x80 then .logicalContainer relative instanceNumber
  else .physical relative instanceNumber

structure SensorInitialization where
  settable : Bool
  scanning : Bool
  events : Bool
  thresholds : Bool
  hysteresis : Bool
  sensorType : Bool
  eventGenerationEnabledOnStartup : Bool
  sensorScanningEnabledOnStartup : Bool
  deriving DecidableEq

namespace SensorInitialization

def SETTABLE : UInt8 := (1 : UInt8) <<< 7
def SCANNING : UInt8 := (1 : UInt8) <<< 6
def EVENTS : UInt8 := (1 : UInt8) <<< 5
def THRESHOLDS : UInt8 := (1 : UInt8) <<< 4
def HYSTERESIS : UInt8 := (1 : UInt8) <<< 3
def TYPE : UInt8 := (1 : UInt8) <<< 2
def EVENTGEN_ON_STARTUP : UInt8 := (1 : UInt8) <<< 1
def SCANNING_ON_STARTUP : UInt8 := (1 : UInt8) <<< 0

/-- `flags.contains(flag)` -/
def contains (flags flag : UInt8) : Bool := flags &&& flag == flag

/-- `SensorInitialization::from`, which reads the flag of the hysteresis from
that of the thresholds. -/
def ofByte (flags : UInt8) : SensorInitialization where
  settable := contains flags SETTABLE
  scanning := contains flags SCANNING
  events := contains flags EVENTS
  thresholds := contains flags THRESHOLDS
  hysteresis := contains flags THRESHOLDS
  sensorType := contains flags TYPE
  eventGenerationEnabledOnStartup := contains flags EVENTGEN_ON_STARTUP
  sensorScanningEnabledOnStartup := contains flags SCANNING_ON_STARTUP

end SensorInitialization

inductive HysteresisCapability where
  | noneOrUnspecified
  | readable
  | readableAndSettable
  | fixedAndUnreadable
  deriving DecidableEq

structure Thresholds where
  lowerNonRecoverable : Bool
  lowerCritical : Bool
  lowerNonCritical : Bool
  upperNonRecoverable : Bool
  upperCritical : Bool
  upperNonCritical : Bool
  deriving DecidableEq

inductive ThresholdAccessCapability where
  | none
  | readable (readable values : Thresholds)
  | readableAndSettable (readable values settable : Thresholds)
  | fixedAndUnreadable (supported : Thresholds)
  deriving DecidableEq

structure SensorCapabilities where
  ignore : Bool
  autoRearm : Bool
  eventMessageControl : UInt8
  hysteresis : HysteresisCapability
  thresholdAccess : ThresholdAccessCapability
  assertionThresholdEvents : UInt16
  deassertionThresholdEvents : UInt16
  deriving DecidableEq

/-- `(word >> shift) & 1 == 1` -/
def wordBit (word : UInt16) (shift : UInt16) : Bool := (word >>> shift) &&& 1 == 1

/-- The events that a mask of threshold events has names for. -/
def thresholdAssertEventMask (word : UInt16) : UInt16 := word &&& 0x0FFF

def SensorCapabilities.new (caps : UInt8) (assertLower deassertUpper discrete : UInt16) :
    SensorCapabilities :=
  let values : Thresholds := {
    lowerNonRecoverable := wordBit assertLower 14
    lowerCritical := wordBit assertLower 13
    lowerNonCritical := wordBit assertLower 12
    upperNonRecoverable := wordBit deassertUpper 14
    upperCritical := wordBit deassertUpper 13
    upperNonCritical := wordBit deassertUpper 12 }
  let settable : Thresholds := {
    upperNonRecoverable := wordBit discrete 13
    upperCritical := wordBit discrete 12
    upperNonCritical := wordBit discrete 11
    lowerNonRecoverable := wordBit discrete 10
    lowerCritical := wordBit discrete 9
    lowerNonCritical := wordBit discrete 8 }
  let readable : Thresholds := {
    upperNonRecoverable := wordBit discrete 5
    upperCritical := wordBit discrete 4
    upperNonCritical := wordBit discrete 3
    lowerNonRecoverable := wordBit discrete 2
    lowerCritical := wordBit discrete 1
    lowerNonCritical := wordBit discrete 0 }
  { ignore := caps &&& 0x80 == 0x80
    autoRearm := caps &&& 0x40 == 0x40
    eventMessageControl := caps &&& 0b11
    hysteresis := match ((caps &&& 0x30) >>> 4).toNat with
      | 0b00 => .noneOrUnspecified
      | 0b01 => .readable
      | 0b10 => .readableAndSettable
      | _ => .fixedAndUnreadable
    thresholdAccess := match ((caps &&& 0xC) >>> 2).toNat with
      | 0b00 => .none
      | 0b01 => .readable readable values
      | 0b10 => .readableAndSettable readable values settable
      | _ => .fixedAndUnreadable readable
    assertionThresholdEvents := thresholdAssertEventMask assertLower
    deassertionThresholdEvents := thresholdAssertEventMask deassertUpper }

inductive DataFormat where
  | unsigned
  | onesComplement
  | twosComplement
  deriving DecidableEq

/-- The format of the reading, in the two high bits of the sensor's units. -/
def DataFormat.ofUnits (sensorUnits1 : UInt8) : Option DataFormat :=
  match ((sensorUnits1 >>> 6) &&& 0x03).toNat with
  | 0b00 => some .unsigned
  | 0b01 => some .onesComplement
  | 0b10 => some .twosComplement
  | _ => none

inductive RateUnit where
  | microsecond
  | millisecond
  | second
  | minute
  | hour
  | day
  deriving DecidableEq

inductive ModifierUnit where
  | basUnitDivByModifier (unit : UInt8)
  | baseUnitMulByModifier (unit : UInt8)
  deriving DecidableEq

structure SensorUnits where
  rate : Option RateUnit
  modifier : Option ModifierUnit
  isPercentage : Bool
  baseUnit : UInt8
  deriving DecidableEq

def SensorUnits.ofBytes (sensorUnits1 baseUnit modifierUnit : UInt8) : SensorUnits where
  rate := match ((sensorUnits1 >>> 3) &&& 0b111).toNat with
    | 0b001 => some .microsecond
    | 0b010 => some .millisecond
    | 0b011 => some .second
    | 0b100 => some .minute
    | 0b101 => some .hour
    | 0b110 => some .day
    | _ => none
  modifier := match ((sensorUnits1 >>> 1) &&& 0b11).toNat with
    | 0b01 => some (.basUnitDivByModifier modifierUnit)
    | 0b10 => some (.baseUnitMulByModifier modifierUnit)
    | _ => none
  isPercentage := sensorUnits1 &&& 0x1 == 0x1
  baseUnit := baseUnit

inductive EventReadingTypeCodes where
  | unspecified
  | threshold
  | discreteGeneric (value : UInt8)
  | sensorSpecific
  | oem (value : UInt8)
  | reserved (value : UInt8)
  deriving DecidableEq

def EventReadingTypeCodes.ofByte (value : UInt8) : EventReadingTypeCodes :=
  if value = 0x00 then .unspecified
  else if value = 0x01 then .threshold
  else if 0x02 ≤ value ∧ value ≤ 0x0C then .discreteGeneric value
  else if value = 0x6F then .sensorSpecific
  else if 0x70 ≤ value ∧ value ≤ 0x7F then .oem value
  else .reserved value

/-- The word of two bytes, as `from_le_bytes` reads it. -/
def wordFromLe (low high : UInt8) : UInt16 := UInt16.ofNat (ofLe [low, high])

structure SensorRecordCommon where
  key : SensorKey
  entityId : UInt8
  entityInstance : EntityInstance
  initialization : SensorInitialization
  capabilities : SensorCapabilities
  discreteReadingMask : UInt16
  ty : UInt8
  eventReadingTypeCode : EventReadingTypeCodes
  sensorUnits : SensorUnits
  sensorId : SensorId
  deriving DecidableEq

/-- The common data, without an ID yet, and the data after it. -/
def SensorRecordCommon.parseWithoutId (recordData : List UInt8) :
    Except RecordParseError (SensorRecordCommon × List UInt8) := do
  if recordData.length < 18 then throw .notEnoughData
  let key ← SensorKey.parse (recordData.take 3)
  let settableReadable := wordFromLe recordData[13]! recordData[14]!
  let common : SensorRecordCommon := {
    key
    entityId := recordData[3]!
    entityInstance := .ofByte recordData[4]!
    initialization := .ofByte recordData[5]!
    capabilities := .new recordData[6]! (wordFromLe recordData[9]! recordData[10]!)
      (wordFromLe recordData[11]! recordData[12]!) settableReadable
    discreteReadingMask := settableReadable &&& 0x7FFF
    ty := recordData[7]!
    eventReadingTypeCode := .ofByte recordData[8]!
    sensorUnits := .ofBytes recordData[15]! recordData[16]! recordData[17]!
    sensorId := .unicode "" }
  return (common, recordData.drop 18)

inductive Linearization where
  | linear
  | ln
  | log10
  | log2
  | e
  | exp10
  | exp2
  | oneOverX
  | sqr
  | cube
  | sqrt
  | cubeRoot
  | oem (value : UInt8)
  | unknown (value : UInt8)
  deriving DecidableEq

/-- `Linearization::from` -/
def Linearization.ofByte (value : UInt8) : Linearization :=
  match value.toNat with
  | 0 => .linear
  | 1 => .ln
  | 2 => .log10
  | 3 => .log2
  | 4 => .e
  | 5 => .exp10
  | 6 => .exp2
  | 7 => .oneOverX
  | 8 => .sqr
  | 9 => .sqrt
  | 10 => .cube
  | 11 => .sqrt
  | 12 => .cubeRoot
  | _ => if 0x71 ≤ value ∧ value ≤ 0x7F then .oem value else .unknown value

/-- `NonZeroU8::new` -/
def nonZero (value : UInt8) : Option { value : UInt8 // value ≠ 0 } :=
  if some_ : value ≠ 0 then some ⟨value, some_⟩ else none

structure FullSensorRecord where
  common : SensorRecordCommon
  analogDataFormat : Option DataFormat
  linearization : Linearization
  m : Int16
  tolerance : UInt8
  b : Int16
  accuracy : UInt16
  accuracyExponent : UInt8
  direction : Direction
  resultExponent : Int8
  bExponent : Int8
  nominalReading : Option UInt8
  normalMaximum : Option UInt8
  normalMinimum : Option UInt8
  maxReading : UInt8
  minReading : UInt8
  upperNonRecoverableThreshold : UInt8
  upperCriticalThreshold : UInt8
  upperNonCriticalThreshold : UInt8
  lowerNonRecoverableThreshold : UInt8
  lowerCriticalThreshold : UInt8
  lowerNonCriticalThreshold : UInt8
  positiveGoingThresholdHysteresisValue : Option { value : UInt8 // value ≠ 0 }
  negativeGoingThresholdHysteresisValue : Option { value : UInt8 // value ≠ 0 }
  oemData : UInt8
  deriving DecidableEq

/-- The sign of a number whose two highest bits are at the top of a byte. -/
def signBits (value : UInt8) : UInt8 := if value &&& 0x80 = 0x80 then 0b11111100 else 0

/-- The sign of the number in a nibble with its sign bit in `bit`. -/
def nibbleSign (value bit : UInt8) : UInt8 := if value &&& bit = bit then 0b11111000 else 0

/-- `FullSensorRecord::parse` -/
def FullSensorRecord.parse (recordData : List UInt8) : Except RecordParseError FullSensorRecord := do
  if recordData.length < 43 then throw .notEnoughData
  let analogDataFormat := DataFormat.ofUnits recordData[15]!
  let (common, data) ← SensorRecordCommon.parseWithoutId recordData
  if data.length < 25 then throw .notEnoughData
  let direction ← Direction.ofBits (data[5]! &&& 0b11)
  let sensorId ← SensorId.parse data[24]! (data.drop 25)
  return {
    common := { common with sensorId }
    analogDataFormat
    linearization := .ofByte (data[0]! &&& 0x7F)
    m := (wordFromLe data[1]! (signBits data[2]! ||| ((data[2]! >>> 6) &&& 0x3))).toInt16
    tolerance := data[2]! &&& 0x3F
    b := (wordFromLe data[3]! (signBits data[4]! ||| (data[4]! >>> 6))).toInt16
    -- the low bits of the accuracy become the high byte of the word
    accuracy := wordFromLe ((data[5]! >>> 4) &&& 0xF) (data[4]! &&& 0x3F)
    accuracyExponent := (data[5]! >>> 2) &&& 0x3
    direction
    resultExponent := (nibbleSign data[6]! 0x80 ||| ((data[6]! >>> 4) &&& 0x7)).toInt8
    bExponent := (nibbleSign data[6]! 0x8 ||| (data[6]! &&& 0x7)).toInt8
    nominalReading := if data[7]! &&& 0x1 = 0x1 then some data[8]! else none
    normalMaximum := if data[7]! &&& 0x2 = 0x2 then some data[9]! else none
    normalMinimum := if data[7]! &&& 0x4 = 0x4 then some data[10]! else none
    maxReading := data[11]!
    minReading := data[12]!
    upperNonRecoverableThreshold := data[13]!
    upperCriticalThreshold := data[14]!
    upperNonCriticalThreshold := data[15]!
    lowerNonRecoverableThreshold := data[16]!
    lowerCriticalThreshold := data[17]!
    lowerNonCriticalThreshold := data[18]!
    positiveGoingThresholdHysteresisValue := nonZero data[19]!
    negativeGoingThresholdHysteresisValue := nonZero data[20]!
    oemData := data[23]! }

end IpmiRs.Storage
