import IpmiRs.Oem

/-! The Intel Manageability Engine at a selected IPMB address,
`ipmi-rs-core/src/oem/ime.rs`, and the mutations of `oem/ime.rs`. -/
namespace IpmiRs.Ime
open Connection App Library.Bytes

def INTEL_IANA : UInt32 := 343
def ME_PRODUCT : UInt16 := 0x0B00

/-- An even, nonzero slave address on a numbered channel. -/
structure ImeTarget where
  address : Address
  channel : Channel
  selected : address ≠ 0 ∧ address &&& 1 = 0 ∧ ∃ number, channel = .numbered number
  deriving DecidableEq

def ImeTarget.route (target : ImeTarget) : Address × Channel := (target.address, target.channel)

inductive ImageType where
  | recovery
  | operational1
  | operational2
  | unknown
  deriving DecidableEq

structure Version where
  major : UInt8
  minorDigits : UInt8 × UInt8
  buildDigits : (UInt8 × UInt8) × (UInt8 × UInt8)
  commandDigits : UInt8 × UInt8
  imageType : ImageType
  imageFlags : UInt8
  deriving DecidableEq

/-- The two hexadecimal digits of a byte. -/
def hexDigits (byte : UInt8) : UInt8 × UInt8 := (byte >>> 4, byte &&& 15)

/-- `Version::from_device_id` -/
def Version.fromDeviceId (device : DeviceId) : Option Version :=
  device.auxRevision.map fun aux => {
    major := device.majorFwRevision
    minorDigits := (device.minorFwRevision / 10, device.minorFwRevision % 10)
    buildDigits := (hexDigits aux[1]!, hexDigits aux[2]!)
    commandDigits := hexDigits aux[0]!
    imageType := match (aux[3]! &&& 3).toNat with
      | 0 => .recovery
      | 1 => .operational1
      | 2 => .operational2
      | _ => .unknown
    imageFlags := aux[3]! }

inductive UpdateState where
  | idle
  | requested
  | inProgress
  | success
  | failed
  | rolledBack
  | aborted
  | initFailed
  deriving DecidableEq

inductive ResponseError where
  | invalidLength (length : Nat)
  | unknownState (value : UInt8)
  | invalidWideState
  deriving DecidableEq

def UpdateState.tryFrom (value : UInt8) : Except ResponseError UpdateState :=
  match value.toNat with
  | 0 => .ok .idle
  | 1 => .ok .requested
  | 2 => .ok .inProgress
  | 3 => .ok .success
  | 4 => .ok .failed
  | 5 => .ok .rolledBack
  | 6 => .ok .aborted
  | 7 => .ok .initFailed
  | _ => .error (.unknownState value)

structure Status where
  imageStatus : UInt8
  updateState : UpdateState
  updateAttemptStatus : UInt8
  rollbackAttemptStatus : UInt8
  updateType : UInt8
  dependentFlag : UInt8
  freeAreaSize : UInt32
  deriving DecidableEq

namespace Status

/-- Ten bytes, or thirteen with the state in four of them. -/
def fromBytes (data : List UInt8) : Except ResponseError Status := do
  let offset ←
    if data.length = 10 then pure 2
    else if data.length = 13 then
      if (data.take 5).drop 2 = [0, 0, 0] then pure 5 else throw .invalidWideState
    else throw (.invalidLength data.length)
  let updateState ← UpdateState.tryFrom data[1]!
  return {
    imageStatus := data[0]!
    updateState
    updateAttemptStatus := data[offset]!
    rollbackAttemptStatus := data[offset + 1]!
    updateType := data[offset + 2]!
    dependentFlag := data[offset + 3]!
    freeAreaSize := UInt32.ofNat (ofLe ((data.drop (offset + 4)).take 4)) }

def stagedImageValid (status : Status) : Bool := status.imageStatus &&& 0x02 != 0

def runningArea (status : Status) : UInt8 := (status.imageStatus >>> 3) &&& 0x03

end Status

structure Capabilities where
  areaSupported : UInt8
  specialCaps : UInt8
  deriving DecidableEq

namespace Capabilities

def fromBytes (data : List UInt8) : Except ResponseError Capabilities :=
  match data with
  | [areaSupported, specialCaps] => .ok { areaSupported, specialCaps }
  | _ => .error (.invalidLength data.length)

def operationalArea (capabilities : Capabilities) : Bool := capabilities.areaSupported &&& 0x02 != 0

end Capabilities

/-- `is_ime`: all four identifiers of the ME. -/
def isIme (device : DeviceId) : Bool :=
  device.manufacturerId == INTEL_IANA && device.productId == ME_PRODUCT && device.deviceId == 0 &&
    device.deviceRevision == 0

/-- A command to the selected ME. -/
def ImeTarget.command {α : Type} (target : ImeTarget) (cmd : UInt8) (data : List UInt8)
    (parse : List UInt8 → Except ResponseError α) : OemCommand α ResponseError where
  message := .newRequest (.reserved 0x30) cmd data
  parse
  target := some target.route
  manufacturerId := INTEL_IANA
  productId := some ME_PRODUCT
  supports := isIme

/-- `GetStatus` -/
def getStatus (target : ImeTarget) : OemCommand Status ResponseError :=
  target.command 0xA6 [] Status.fromBytes

/-- `GetCapabilities` -/
def getCapabilities (target : ImeTarget) : OemCommand Capabilities ResponseError :=
  target.command 0xA7 [] Capabilities.fromBytes

inductive Action where
  | prepare
  | «open»
  | write (sequence : UInt8) (bytes : List UInt8)
  | close (size : UInt32) (crc8 : UInt8)
  | register (rollback : Bool)
  deriving DecidableEq

/-- The command and the data of an action. -/
def Action.cmd : Action → UInt8
  | .prepare => 0xA0
  | .open => 0xA1
  | .write _ _ => 0xA2
  | .close _ _ => 0xA3
  | .register _ => 0xA4

def Action.data : Action → List UInt8
  | .prepare => []
  | .open => [0x01, 0x00]
  | .write sequence bytes => sequence :: bytes
  | .close size crc8 => toLe 4 size.toNat ++ [crc8, 0]
  | .register rollback => [if rollback then 3 else 1, 0]

/-- A mutation is acknowledged with no data. -/
def acknowledgement (data : List UInt8) : Except ResponseError Unit :=
  if data.isEmpty then .ok () else .error (.invalidLength data.length)

/-- `Mutation` -/
def mutation (target : ImeTarget) (action : Action) : OemCommand Unit ResponseError :=
  target.command action.cmd action.data acknowledgement

end IpmiRs.Ime
