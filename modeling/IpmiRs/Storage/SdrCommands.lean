import IpmiRs.App.DeviceId
import IpmiRs.Storage.SdrRecord

/-! The commands an SDR traversal sends. The repository and the device answer
the same questions under their own network functions. -/
namespace IpmiRs.Storage
open Connection App Library.Bytes

abbrev NonZeroU16 := { value : UInt16 // value ≠ 0 }

inductive SdrSource where
  | repository
  | device
  deriving DecidableEq

inductive SdrOperation where
  | modalityUnspecified
  | nonModalUpdate
  | modalUpdate
  | nonModalAndModalUpdate
  | delete
  | partialAdd
  | reserve
  | getAllocInfo
  deriving DecidableEq

structure RepositoryInfo where
  recordCount : UInt16
  supportedOps : List SdrOperation
  deriving DecidableEq

/-- The operations the last byte of the repository information names. -/
def SdrOperation.ofByte (value : UInt8) : List SdrOperation :=
  let modality : SdrOperation := match ((value &&& 0x60) >>> 5).toNat with
    | 0b00 => .modalityUnspecified
    | 0b01 => .nonModalUpdate
    | 0b10 => .modalUpdate
    | _ => .nonModalAndModalUpdate
  modality :: ([(SdrOperation.getAllocInfo, (1 : UInt8)), (.reserve, 2), (.partialAdd, 4), (.delete, 8)].filter
    fun (_, bit) => value &&& bit == bit).map Prod.fst

def RepositoryInfo.parse (v : List UInt8) : Option RepositoryInfo :=
  if v.length < 14 then none
  else some ⟨UInt16.ofNat (ofLe [v[1]!, v[2]!]), SdrOperation.ofByte v[13]!⟩

def getSdrRepositoryInfo : IpmiCommand RepositoryInfo NotEnoughData where
  message := .newRequest .storage 0x20 []
  parse data := (RepositoryInfo.parse data).elim (.error .notEnoughData) .ok

structure DeviceSdrInfo where
  operationValue : UInt8
  dynamicPopulation : Bool
  deriving DecidableEq

/-- A dynamically populated device adds a three-byte change indicator. -/
def DeviceSdrInfo.parse (data : List UInt8) : Option DeviceSdrInfo :=
  if data.length < 2 then none
  else
    let dynamicPopulation := data[1]! &&& 0x80 == 0x80
    if dynamicPopulation ∧ data.length < 5 then none
    else some ⟨data[0]!, dynamicPopulation⟩

def getDeviceSdrInfo : IpmiCommand DeviceSdrInfo NotEnoughData where
  message := .newRequest .sensorEvent 0x20 [0x01]
  parse data := (DeviceSdrInfo.parse data).elim (.error .notEnoughData) .ok

inductive ReservationError where
  | notEnoughData
  | invalidId
  deriving DecidableEq

def parseReservation : List UInt8 → Except ReservationError NonZeroU16
  | low :: high :: _ =>
    let value := UInt16.ofNat (ofLe [low, high])
    if nonzero : value ≠ 0 then .ok ⟨value, nonzero⟩ else .error .invalidId
  | _ => .error .notEnoughData

/-- `ReserveSdrRepository` and `ReserveDeviceSdr`. -/
def reserveSdr (source : SdrSource) : IpmiCommand NonZeroU16 ReservationError where
  message := match source with
    | .repository => .newRequest .storage 0x22 []
    | .device => .newRequest .sensorEvent 0x22 []
  parse := parseReservation

structure SdrChunk where
  nextEntry : RecordId
  data : List UInt8
  deriving DecidableEq

def parseChunk : List UInt8 → Except NotEnoughData SdrChunk
  | low :: high :: data => .ok ⟨.ofBytes low high, data⟩
  | _ => .error .notEnoughData

/-- `ReadSdr` and `ReadDeviceSdr`: a range of the bytes of a record. -/
def readSdr (source : SdrSource) (reservation : Option NonZeroU16) (recordId : RecordId)
    (offset length : UInt8) : IpmiCommand SdrChunk NotEnoughData where
  message :=
    let data := toLe 2 (reservation.elim 0 fun id => id.1.toNat) ++ toLe 2 recordId.value.toNat ++
      [offset, length]
    match source with
    | .repository => .newRequest .storage 0x23 data
    | .device => .newRequest .sensorEvent 0x21 data
  parse := parseChunk

end IpmiRs.Storage
