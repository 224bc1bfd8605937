import IpmiRs.Ipmi
import IpmiRs.Library.Bytes
import Mathlib.Tactic.IntervalCases

/-! PICMG HPM.1 commands, `ipmi-rs-core/src/hpm.rs`: the reads that report
status, and the writes that change firmware. -/
namespace IpmiRs.Hpm
open Connection Library.Bytes

def HPM_NETFN : NetFn := .reserved 0x2C

def request (cmd : UInt8) (data : List UInt8) : Message := .newRequest HPM_NETFN cmd data

inductive HpmResponseError where
  | length (expected actual : Nat)
  | identifier (value : UInt8)
  | selector (value : UInt8)
  | rollbackFailed (mask : UInt8)
  deriving DecidableEq

/-- `reply`: a response of exactly `size` bytes, behind a zero identifier. -/
def reply (data : List UInt8) (size : Nat) : Except HpmResponseError (List UInt8) :=
  if data.length ≠ size then .error (.length size data.length)
  else if data[0]! ≠ 0 then .error (.identifier data[0]!)
  else .ok data.tail

/-- Component index, from zero to seven. -/
structure ComponentId where
  value : UInt8
  bounds : value < 8
  deriving DecidableEq

def ComponentId.new (value : UInt8) : Option ComponentId :=
  if bounds : value < 8 then some ⟨value, bounds⟩ else none

/-- The bit of a component in a mask. -/
def ComponentId.bit (id : ComponentId) : UInt8 := 1 <<< id.value

/-- Nonempty component mask. -/
structure ComponentMask where
  bits : UInt8
  nonempty : bits ≠ 0
  deriving DecidableEq

def ComponentMask.new (bits : UInt8) : Option ComponentMask :=
  if nonempty : bits ≠ 0 then some ⟨bits, nonempty⟩ else none

theorem ComponentId.bit_ne_zero (id : ComponentId) : id.bit ≠ 0 := by
  obtain ⟨value, bounds⟩ := id
  have small : value.toNat < 8 := UInt8.lt_iff_toNat_lt.mp bounds
  obtain ⟨n, rfl⟩ : ∃ n, value = UInt8.ofNat n := ⟨value.toNat, by simp⟩
  intro zero
  replace zero := congrArg UInt8.toNat zero
  simp only [bit, UInt8.toNat_shiftLeft, UInt8.toNat_ofNat'] at zero small
  generalize n % 2 ^ 8 = m at zero small
  interval_cases m <;> simp at zero

/-- The mask of one component alone. -/
def ComponentId.mask (id : ComponentId) : ComponentMask := ⟨id.bit, id.bit_ne_zero⟩

structure UpgradeStatus where
  command : UInt8
  completionCode : UInt8
  deriving DecidableEq

def getUpgradeStatus : IpmiCommand UpgradeStatus HpmResponseError where
  message := request 0x34 [0]
  parse data := (reply data 3).map fun d => ⟨d[0]!, d[1]!⟩

structure RollbackStatus where
  components : UInt8
  deriving DecidableEq

/-- A rollback that failed reports the components it failed for. -/
def queryRollbackStatus : IpmiCommand RollbackStatus HpmResponseError where
  message := request 0x37 [0]
  parse data := (reply data 2).map fun d => ⟨d[0]!⟩
  handleCompletionCode code data :=
    if code = .commandSpecific 0x81 then
      match reply data 2 with
      | .ok d => some (.rollbackFailed d[0]!)
      | .error error => some error
    else none

structure SelfTestResult where
  result1 : UInt8
  result2 : UInt8
  deriving DecidableEq

def querySelfTestResult : IpmiCommand SelfTestResult HpmResponseError where
  message := request 0x36 [0]
  parse data := (reply data 3).map fun d => ⟨d[0]!, d[1]!⟩

inductive UpgradeAction where
  | backup
  | prepare
  | upgrade
  deriving DecidableEq

def UpgradeAction.value : UpgradeAction → UInt8
  | .backup => 0
  | .prepare => 1
  | .upgrade => 2

/-- A write acknowledged by a zero identifier alone, as `simple_write!` makes it. -/
def simpleWrite (cmd : UInt8) (data : List UInt8) : IpmiCommand Unit HpmResponseError where
  message := request cmd data
  parse data := (reply data 1).map fun _ => ()

def initiateUpgradeAction (components : ComponentMask) (action : UpgradeAction) :
    IpmiCommand Unit HpmResponseError :=
  simpleWrite 0x31 [0, components.bits, action.value]

/-- `UploadFirmwareBlock`: 1 to 23 bytes of an image. -/
structure UploadFirmwareBlock where
  number : UInt8
  data : List UInt8
  bounded : data ≠ [] ∧ data.length ≤ 23

structure UploadAcknowledgement where
  nextSection : Option (UInt32 × UInt32)
  deriving DecidableEq

def UploadAcknowledgement.parse (data : List UInt8) :
    Except HpmResponseError UploadAcknowledgement :=
  if data.length = 1 then (reply data 1).map fun _ => ⟨none⟩
  else
    (reply data 9).map fun d =>
      ⟨some (UInt32.ofNat (ofLe (d.take 4)), UInt32.ofNat (ofLe (d.drop 4)))⟩

def UploadFirmwareBlock.command (block : UploadFirmwareBlock) :
    IpmiCommand UploadAcknowledgement HpmResponseError where
  message := request 0x32 ([0, block.number] ++ block.data)
  parse := UploadAcknowledgement.parse

def finishFirmwareUpload (component : ComponentId) (length : UInt32) :
    IpmiCommand Unit HpmResponseError :=
  simpleWrite 0x33 ([0, component.value] ++ toLe 4 length.toNat)

def activateFirmware : IpmiCommand Unit HpmResponseError := simpleWrite 0x35 [0]

def manualFirmwareRollback : IpmiCommand Unit HpmResponseError := simpleWrite 0x38 [0]

end IpmiRs.Hpm
