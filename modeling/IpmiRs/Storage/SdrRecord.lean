import IpmiRs.Connection
import IpmiRs.Library.Bytes

/-! Sensor data records, `ipmi-rs-core/src/storage/sdr/record`: the header and,
of each kind of body, what its parser can refuse. The plain numbers beside it
are left out. -/
namespace IpmiRs.Storage
open Connection Library.Bytes

structure RecordId where
  value : UInt16
  deriving DecidableEq

namespace RecordId

def FIRST : RecordId := ⟨0⟩
def LAST : RecordId := ⟨0xFFFF⟩

def isFirst (id : RecordId) : Bool := id.value == FIRST.value
def isLast (id : RecordId) : Bool := id.value == LAST.value

/-- The record ID in two bytes, least significant first. -/
def ofBytes (low high : UInt8) : RecordId := ⟨UInt16.ofNat (ofLe [low, high])⟩

@[simp] theorem isFirst_iff (id : RecordId) : id.isFirst = true ↔ id = FIRST := by
  cases id; simp [isFirst, FIRST]

@[simp] theorem isLast_iff (id : RecordId) : id.isLast = true ↔ id = LAST := by
  cases id; simp [isLast, LAST]

end RecordId

/-- `ParseError` of the record parsers. -/
inductive RecordParseError where
  | notEnoughData
  | incorrectRecordLength
  | invalidSensorId
  | invalidIdStringModifier (value : UInt8)
  | invalidSensorNumber
  | invalidSensorDirection
  | invalidOwnerChannel
  deriving DecidableEq

inductive SensorOwner where
  | i2c (id : UInt8)
  | system (id : UInt8)
  deriving DecidableEq

def SensorOwner.ofByte (value : UInt8) : SensorOwner :=
  let id := (value &&& 0xFE) >>> 1
  if value &&& 1 = 1 then .system id else .i2c id

structure SensorKey where
  ownerId : SensorOwner
  ownerChannel : Channel
  fruInvDeviceOwnerLun : LogicalUnit
  ownerLun : LogicalUnit
  sensorNumber : { number : UInt8 // number ≠ 0xFF }
  deriving DecidableEq

def SensorKey.parse (recordData : List UInt8) : Except RecordParseError SensorKey :=
  match recordData with
  | [owner, channelLun, number] =>
    match Channel.new ((channelLun &&& 0xF0) >>> 4) with
    | none => .error .invalidOwnerChannel
    | some ownerChannel =>
      if known : number ≠ 0xFF then
        .ok {
          ownerId := .ofByte owner
          ownerChannel
          fruInvDeviceOwnerLun := .fromLowBits (channelLun >>> 2)
          ownerLun := .fromLowBits (channelLun &&& 0b11)
          sensorNumber := ⟨number, known⟩ }
      else .error .invalidSensorNumber
  | _ => .error .notEnoughData

inductive Direction where
  | unspecifiedNotApplicable
  | input
  | output
  deriving DecidableEq

def Direction.ofBits (value : UInt8) : Except RecordParseError Direction :=
  match value.toNat with
  | 0b00 => .ok .unspecifiedNotApplicable
  | 0b01 => .ok .input
  | 0b10 => .ok .output
  | _ => .error .invalidSensorDirection

inductive IdStringModifier where
  | numeric
  | alpha
  deriving DecidableEq

def IdStringModifier.ofBits (value : UInt8) : Except RecordParseError IdStringModifier :=
  match value.toNat with
  | 0b00 => .ok .numeric
  | 0b01 => .ok .alpha
  | _ => .error (.invalidIdStringModifier value)

inductive SensorId where
  | unicode (text : String)
  | bcdPlus (data : List UInt8)
  | ascii6BPacked (data : List UInt8)
  | ascii8BAndLatin1 (text : String)
  deriving DecidableEq

/-- An ID string from its type and length byte and the bytes after it. -/
def SensorId.parse (typeLength : UInt8) (rest : List UInt8) : Except RecordParseError SensorId :=
  let length := (typeLength &&& 0x1F).toNat
  if rest.length < length then .error .notEnoughData
  else
    let data := rest.take length
    match (typeLength >>> 6).toNat with
    | 0b00 =>
      match String.fromUTF8? ⟨data.toArray⟩ with
      | some text => .ok (.unicode text)
      | none => .error .invalidSensorId
    | 0b01 => .ok (.bcdPlus data)
    | 0b10 => .ok (.ascii6BPacked data)
    | _ => .ok (.ascii8BAndLatin1 (String.ofList (data.map fun byte => Char.ofNat byte.toNat)))

inductive RecordContents where
  | fullSensor (key : SensorKey) (direction : Direction) (idString : SensorId)
  | compactSensor (key : SensorKey) (direction : Direction) (modifier : IdStringModifier)
      (idString : SensorId)
  | eventOnlySensor (key : SensorKey) (direction : Direction) (modifier : IdStringModifier)
      (idString : SensorId)
  | genericDeviceLocator (idString : SensorId)
  | fruDeviceLocator (idString : SensorId)
  | mcDeviceLocator (idString : SensorId)
  | unknown (ty : UInt8) (data : List UInt8)
  deriving DecidableEq

namespace RecordContents

/-- `FullSensorRecord::parse`. -/
def parseFullSensor (body : List UInt8) : Except RecordParseError RecordContents := do
  if body.length < 43 then throw .notEnoughData
  let key ← SensorKey.parse (body.take 3)
  let direction ← Direction.ofBits (body[23]! &&& 0b11)
  let idString ← SensorId.parse body[42]! (body.drop 43)
  return .fullSensor key direction idString

/-- `CompactSensorRecord::parse`. -/
def parseCompactSensor (body : List UInt8) : Except RecordParseError RecordContents := do
  if body.length < 27 then throw .notEnoughData
  let key ← SensorKey.parse (body.take 3)
  let direction ← Direction.ofBits ((body[18]! &&& 0xC0) >>> 6)
  let modifier ← IdStringModifier.ofBits ((body[18]! &&& 0x30) >>> 4)
  let idString ← SensorId.parse body[26]! (body.drop 27)
  return .compactSensor key direction modifier idString

/-- `EventOnlySensorRecord::parse`. -/
def parseEventOnlySensor (body : List UInt8) : Except RecordParseError RecordContents := do
  if body.length < 12 then throw .notEnoughData
  let key ← SensorKey.parse (body.take 3)
  let direction ← Direction.ofBits ((body[7]! &&& 0xC0) >>> 6)
  let modifier ← IdStringModifier.ofBits ((body[7]! &&& 0x30) >>> 4)
  let idString ← SensorId.parse body[11]! (body.drop 12)
  return .eventOnlySensor key direction modifier idString

/-- The three locator records keep their ID string in the same place. -/
def parseLocator (locator : SensorId → RecordContents) (body : List UInt8) :
    Except RecordParseError RecordContents := do
  if body.length < 11 then throw .notEnoughData
  let idString ← SensorId.parse body[10]! (body.drop 11)
  return locator idString

def parse (ty : UInt8) (body : List UInt8) : Except RecordParseError RecordContents :=
  match ty.toNat with
  | 0x01 => parseFullSensor body
  | 0x02 => parseCompactSensor body
  | 0x03 => parseEventOnlySensor body
  | 0x10 => parseLocator .genericDeviceLocator body
  | 0x11 => parseLocator .fruDeviceLocator body
  | 0x12 => parseLocator .mcDeviceLocator body
  | _ => .ok (.unknown ty body)

end RecordContents

structure RecordHeader where
  id : RecordId
  sdrVersionMajor : UInt8
  sdrVersionMinor : UInt8
  deriving DecidableEq

structure Record where
  header : RecordHeader
  contents : RecordContents
  deriving DecidableEq

/-- `Record::parse`. -/
def Record.parse (data : List UInt8) : Except RecordParseError Record :=
  match data with
  | idLow :: idHigh :: version :: ty :: length :: body =>
    if body.length ≠ length.toNat then .error .incorrectRecordLength
    else
      match RecordContents.parse ty body with
      | .error error => .error error
      | .ok contents =>
        .ok ⟨⟨.ofBytes idLow idHigh, version &&& 0x0F, (version &&& 0xF0) >>> 4⟩, contents⟩
  | _ => .error .notEnoughData

/-- A record is read under the ID in its first two bytes. -/
theorem Record.parse_id {low high : UInt8} {rest : List UInt8} {record : Record}
    (parsed : Record.parse (low :: high :: rest) = .ok record) :
    record.header.id = .ofBytes low high := by
  match rest, parsed with
  | version :: ty :: length :: body, parsed =>
    unfold Record.parse at parsed
    simp only at parsed
    split at parsed
    · cases parsed
    · split at parsed
      · cases parsed
      · cases parsed
        rfl

end IpmiRs.Storage
