import IpmiRs.Storage.SdrCommands

/-! System event log records and the commands that read the log,
`ipmi-rs-core/src/storage/sel`. -/
namespace IpmiRs.Storage.Sel
open Connection App Library.Bytes

structure RecordId where
  value : UInt16
  deriving DecidableEq

namespace RecordId

def FIRST : RecordId := ⟨0x0000⟩
def LAST : RecordId := ⟨0xFFFF⟩

/-- `new_raw`, from two bytes, least significant first. -/
def newRaw (low high : UInt8) : RecordId := ⟨UInt16.ofNat (ofLe [low, high])⟩

def isFirst (id : RecordId) : Bool := id == FIRST
def isLast (id : RecordId) : Bool := id == LAST

@[simp] theorem isFirst_iff (id : RecordId) : id.isFirst = true ↔ id = FIRST := by
  simp [isFirst]

@[simp] theorem isLast_iff (id : RecordId) : id.isLast = true ↔ id = LAST := by
  simp [isLast]

end RecordId

inductive SelRecordType where
  | system
  | timestampedOem (value : UInt8)
  | nonTimestampedOem (value : UInt8)
  | unknown (value : UInt8)
  deriving DecidableEq

def SelRecordType.ofByte (value : UInt8) : SelRecordType :=
  if value = 0x02 then .system
  else if 0xC0 ≤ value ∧ value ≤ 0xDF then .timestampedOem value
  else if 0xE0 ≤ value then .nonTimestampedOem value
  else .unknown value

inductive ParseEntryError where
  | notEnoughData
  | invalidLength (length : Nat)
  | invalidChannel (value : UInt8)
  deriving DecidableEq

inductive EventGenerator where
  | rqSaAndLun (i2cAddr : UInt8) (channelNumber : Channel) (lun : LogicalUnit)
  | softwareId (softwareId : UInt8) (channelNumber : Channel)
  deriving DecidableEq

def EventGenerator.ofBytes (first second : UInt8) : Except ParseEntryError EventGenerator :=
  let isSoftwareId := first &&& 0x1 == 0x1
  let i2cOrSid := (first >>> 1) &&& 0x7F
  let channelValue := (second >>> 4) &&& 0xF
  match Channel.new channelValue with
  | none => .error (.invalidChannel channelValue)
  | some channelNumber =>
    if isSoftwareId then .ok (.softwareId i2cOrSid channelNumber)
    else .ok (.rqSaAndLun i2cOrSid channelNumber (.fromLowBits second))

inductive EventMessageRevision where
  | v2_0
  | v1_0
  | unknown (value : UInt8)
  deriving DecidableEq

def EventMessageRevision.ofByte (value : UInt8) : EventMessageRevision :=
  if value = 0x04 then .v2_0 else if value = 0x03 then .v1_0 else .unknown value

inductive EventDirection where
  | assert
  | deassert
  deriving DecidableEq

/-- The second and the third event data byte: what two bits say it is, unless
it holds no value. The second one's trigger is a reading, the third one's a
threshold. -/
inductive EventDataType where
  | unspecified
  | trigger (value : UInt8)
  | oemCode (value : UInt8)
  | sensorSpecific (value : UInt8)
  deriving DecidableEq

def EventDataType.parse (kind value : UInt8) : EventDataType :=
  if value = 0xFF then .unspecified
  else if kind = 0b01 then .trigger value
  else if kind = 0b10 then .oemCode value
  else if kind = 0b11 then .sensorSpecific value
  else .unspecified

structure EventData where
  offset : UInt8
  data2Type : EventDataType
  data3Type : EventDataType
  deriving DecidableEq

def EventData.parse (first second third : UInt8) : EventData where
  offset := first &&& 0x0F
  data2Type := .parse ((first >>> 6) &&& 0x03) second
  data3Type := .parse ((first >>> 4) &&& 0x03) third

inductive Entry where
  | system (recordId : RecordId) (timestamp : UInt32) (generatorId : EventGenerator)
      (eventMessageFormat : EventMessageRevision) (sensorType sensorNumber : UInt8)
      (eventDirection : EventDirection) (eventType : UInt8) (eventData : EventData)
  | oemTimestamped (recordId : RecordId) (ty : UInt8) (timestamp manufacturerId : UInt32)
      (data : List UInt8)
  | oemNotTimestamped (recordId : RecordId) (ty : UInt8) (data : List UInt8)
  | unknown (recordId : RecordId) (ty : UInt8) (data : List UInt8)
  deriving DecidableEq

namespace Entry

def recordId : Entry → RecordId
  | system recordId .. => recordId
  | oemTimestamped recordId .. => recordId
  | oemNotTimestamped recordId .. => recordId
  | unknown recordId .. => recordId

def parse (data : List UInt8) : Except ParseEntryError Entry :=
  if data.length < 16 then .error .notEnoughData
  else if data.length ≠ 16 then .error (.invalidLength data.length)
  else
    let recordId := RecordId.newRaw data[0]! data[1]!
    let timestamp := UInt32.ofNat (ofLe [data[3]!, data[4]!, data[5]!, data[6]!])
    match SelRecordType.ofByte data[2]! with
    | .system =>
      match EventGenerator.ofBytes data[7]! data[8]! with
      | .error error => .error error
      | .ok generatorId =>
        .ok (.system recordId timestamp generatorId (.ofByte data[9]!) data[10]! data[11]!
          (if data[12]! &&& 0x80 == 0x80 then .deassert else .assert) (data[12]! &&& 0x7F)
          (.parse data[13]! data[14]! data[15]!))
    | .timestampedOem ty =>
      .ok (.oemTimestamped recordId ty timestamp
        (UInt32.ofNat (ofLe [data[7]!, data[8]!, data[9]!, 0])) (data.drop 10))
    | .nonTimestampedOem ty => .ok (.oemNotTimestamped recordId ty (data.drop 3))
    | .unknown ty => .ok (.unknown recordId ty (data.drop 3))

end Entry

/-- A record with the record after it, and its own sixteen bytes. -/
structure EntryInfo where
  nextEntry : RecordId
  entry : Entry
  raw : List UInt8
  deriving DecidableEq

def EntryInfo.parse (data : List UInt8) : Except ParseEntryError EntryInfo :=
  if data.length < 2 then .error .notEnoughData
  else
    match Entry.parse (data.drop 2) with
    | .error error => .error error
    | .ok entry => .ok ⟨.newRaw data[0]! data[1]!, entry, data.drop 2⟩

/-- `GetEntry`: every byte of a record is read at once. -/
def getSelEntry (reservation : Option NonZeroU16) (recordId : RecordId) :
    IpmiCommand EntryInfo ParseEntryError where
  message := .newRequest .storage 0x43 <|
    toLe 2 (reservation.elim 0 fun id => id.1.toNat) ++ toLe 2 recordId.value.toNat ++ [0, 0xFF]
  parse := EntryInfo.parse

inductive SelCommand where
  | delete
  | partialAddEntry
  | reserve
  | getAllocInfo
  deriving DecidableEq

/-- The optional commands the last byte of the log's information names. -/
def SelCommand.ofByte (value : UInt8) : List SelCommand :=
  ([(.delete, 0x08), (.partialAddEntry, 0x04), (.reserve, 0x02), (.getAllocInfo, 0x01)].filter
    fun (_, bit) => value &&& bit == bit).map Prod.fst

structure SelInfo where
  versionMaj : UInt8
  versionMin : UInt8
  entries : UInt16
  bytesFree : UInt16
  lastAddTime : UInt32
  lastDelTime : UInt32
  overflow : Bool
  supportedCmds : List SelCommand
  deriving DecidableEq

def SelInfo.fromData (data : List UInt8) : Option SelInfo :=
  if data.length ≠ 14 then none
  else some {
    versionMaj := data[0]! &&& 0xF
    versionMin := (data[0]! >>> 4) &&& 0xF
    entries := UInt16.ofNat (ofLe [data[1]!, data[2]!])
    bytesFree := UInt16.ofNat (ofLe [data[3]!, data[4]!])
    lastAddTime := UInt32.ofNat (ofLe [data[5]!, data[6]!, data[7]!, data[8]!])
    lastDelTime := UInt32.ofNat (ofLe [data[9]!, data[10]!, data[11]!, data[12]!])
    overflow := data[13]! &&& 0x80 == 0x80
    supportedCmds := SelCommand.ofByte data[13]! }

def getSelInfo : IpmiCommand SelInfo NotEnoughData where
  message := .newRequest .storage 0x40 []
  parse data := (SelInfo.fromData data).elim (.error .notEnoughData) .ok

def reserveSel : IpmiCommand NonZeroU16 NotEnoughData where
  message := .newRequest .storage 0x42 []
  parse
    | low :: high :: _ =>
      let reservationId := UInt16.ofNat (ofLe [low, high])
      if nonzero : reservationId ≠ 0 then .ok ⟨reservationId, nonzero⟩ else .error .notEnoughData
    | _ => .error .notEnoughData

end IpmiRs.Storage.Sel
