import IpmiRs.Ime.Commands
import IpmiRs.Library.Chunks

/-! The checked update of an Intel ME, `oem/ime.rs`: every mutation is sent once
and followed by a read of the update state. -/
namespace IpmiRs.Ime
open Connection App Library Library.Chunks OverLink

def MAX_IMAGE_BYTES : Nat := 16 * 1024 * 1024
def WRITE_BYTES : Nat := 22

/-- One bit of the division by the polynomial 0x07. -/
def crc8Bit (crc : UInt8) : UInt8 := if crc &&& 0x80 ≠ 0 then (crc <<< 1) ^^^ 0x07 else crc <<< 1

def crc8 (bytes : List UInt8) : UInt8 := bytes.foldl (fun crc byte => crc8Bit^[8] (crc ^^^ byte)) 0

inductive ImageError where
  | invalidSize (size : Nat)
  | sizeMismatch (expected : UInt32) (actual : Nat)
  | crcMismatch (expected actual : UInt8)
  deriving DecidableEq

/-- An image of an accepted size with the checksum of its bytes. -/
structure ValidatedImage where
  bytes : List UInt8
  crc8 : UInt8
  sized : bytes ≠ [] ∧ bytes.length ≤ MAX_IMAGE_BYTES
  checked : Ime.crc8 bytes = crc8

namespace ValidatedImage

/-- `ValidatedImage::new` -/
def new (bytes : List UInt8) (expectedSize : UInt32) (expectedCrc8 : UInt8) :
    Except ImageError ValidatedImage :=
  if sized : bytes ≠ [] ∧ bytes.length ≤ MAX_IMAGE_BYTES then
    if bytes.length ≠ expectedSize.toNat then .error (.sizeMismatch expectedSize bytes.length)
    else if Ime.crc8 bytes ≠ expectedCrc8 then .error (.crcMismatch expectedCrc8 (Ime.crc8 bytes))
    else .ok ⟨bytes, Ime.crc8 bytes, sized, rfl⟩
  else .error (.invalidSize bytes.length)

def len (image : ValidatedImage) : UInt32 := UInt32.ofNat image.bytes.length

end ValidatedImage

structure Inventory where
  device : DeviceId
  version : Version
  status : Status
  capabilities : Capabilities

inductive Stage where
  | identity
  | status
  | capabilities
  | prepare
  | «open»
  | write (index : UInt32)
  | close
  | activate
  deriving DecidableEq

inductive WorkflowError (ε : Type) where
  | read (stage : Stage) (error : OemError ε ResponseError)
  | notSent (stage : Stage) (error : OemError ε ResponseError)
  | outcomeUnknown (stage : Stage) (error : IpmiError ε ResponseError)
  | missingVersion
  | deviceUnavailable
  | unsafeImageType
  | unsupportedCapability
  | invalidImageStatus
  | insufficientSpace (available needed : UInt32)
  | unexpectedState (stage : Stage) (expected actual : UpdateState)

section workflow
variable {ε : Type} (target : ImeTarget)

/-- What a failed lookup of the identity is told as. -/
def readIdentity (error : IpmiError ε NotEnoughData) : WorkflowError ε := .read .identity (.identity error)

def imeStatus : OverLink ε (WorkflowError ε) Status :=
  ExceptT.adapt (.read .status) (sendOem (getStatus target))

def imeInfo : OverLink ε (WorkflowError ε) Inventory := do
  let device ← ExceptT.adapt readIdentity (sendRecv (targetDeviceId (some target.route)))
  if ¬isIme device then
    throw (.read .identity
      (.unsupportedDevice device.manufacturerId device.productId INTEL_IANA (some ME_PRODUCT)))
  else
    match Version.fromDeviceId device with
    | none => throw .missingVersion
    | some version =>
      let status ← imeStatus target
      let capabilities ← ExceptT.adapt (.read .capabilities) (sendOem (getCapabilities target))
      return { device, version, status, capabilities }

/-- What a failed mutation is told as: not sent, or of an unknown outcome. -/
def mutationError (stage : Stage) : OemError ε ResponseError → WorkflowError ε
  | .command error => .outcomeUnknown stage error
  | error => .notSent stage error

def imeMutate (stage : Stage) (action : Action) : OverLink ε (WorkflowError ε) Unit :=
  ExceptT.adapt (mutationError stage) (sendOem (mutation target action))

def imeExpect (stage : Stage) (expected : UpdateState) : OverLink ε (WorkflowError ε) Status := do
  let status ← imeStatus target
  if status.updateState ≠ expected then throw (.unexpectedState stage expected status.updateState)
  else return status

/-- The loop of `ime_update` that writes the chunks. -/
def writeChunks : List (List UInt8 × Nat) → OverLink ε (WorkflowError ε) Unit
  | [] => pure ()
  | (chunk, index) :: rest => do
    imeMutate target (.write (UInt32.ofNat index)) (.write (UInt8.ofNat index) chunk)
    let _ ← imeExpect target (.write (UInt32.ofNat index)) .inProgress
    writeChunks rest

/-- `ime_update`, once the preflight is over. -/
def stageAndActivate (image : ValidatedImage) : OverLink ε (WorkflowError ε) Status := do
  imeMutate target .prepare .prepare
  let _ ← imeExpect target .prepare .requested
  imeMutate target .open .open
  let _ ← imeExpect target .open .inProgress
  writeChunks target (chunks WRITE_BYTES image.bytes).zipIdx
  imeMutate target .close (.close image.len image.crc8)
  let status ← imeExpect target .close .requested
  if ¬status.stagedImageValid then throw .invalidImageStatus
  else
    imeMutate target .activate (.register false)
    imeExpect target .activate .success

/-- `ime_update` -/
def imeUpdate (image : ValidatedImage) : OverLink ε (WorkflowError ε) Status := do
  let info ← imeInfo target
  if ¬info.device.deviceAvailable then throw .deviceUnavailable
  else if (info.version.imageType ≠ .operational1 ∧ info.version.imageType ≠ .operational2) ∨
      info.status.runningArea = 3 then
    throw .unsafeImageType
  else if ¬info.capabilities.operationalArea then throw .unsupportedCapability
  else if info.status.updateState ≠ .idle then
    throw (.unexpectedState .status .idle info.status.updateState)
  else if info.status.stagedImageValid then throw .invalidImageStatus
  else if info.status.freeAreaSize < image.len then
    throw (.insufficientSpace info.status.freeAreaSize image.len)
  else stageAndActivate target image

end workflow

end IpmiRs.Ime
