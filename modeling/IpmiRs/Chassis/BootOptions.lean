import IpmiRs.Library.Bytes
import IpmiRs.Library.Checked

/-! System boot options, `ipmi-rs-core/src/chassis/boot_options.rs`: the fixed-size
parameters, how they are read back, and the writes of them. -/
namespace IpmiRs.Chassis
open Library Library.Bytes Library.Checked

inductive BootOptionSelector where
  | setInProgress
  | servicePartitionSelector
  | servicePartitionScan
  | validBitClearing
  | bootInfoAcknowledge
  | bootFlags
  | bootInitiatorInfo
  | bootMailbox
  deriving DecidableEq

def BootOptionSelector.value : BootOptionSelector → UInt8
  | .setInProgress => 0
  | .servicePartitionSelector => 1
  | .servicePartitionScan => 2
  | .validBitClearing => 3
  | .bootInfoAcknowledge => 4
  | .bootFlags => 5
  | .bootInitiatorInfo => 6
  | .bootMailbox => 7

/-- `BootOptionError`, as far as a payload that is parsed fails with it. -/
inductive BootOptionError where
  | unsupportedSelector (selector : UInt8)
  | invalidLength (expected actual : Nat)
  | invalidValue (selector value : UInt8)
  | unsupportedBootDevice (value : UInt8)
  | unsupportedBootFlags (byte : Nat) (value : UInt8)
  deriving DecidableEq

/-- What parsing leads to. -/
abbrev Parsing (α : Type) := Checked BootOptionError α

def BootOptionSelector.ofByte (value : UInt8) : Parsing BootOptionSelector :=
  match value.toNat with
  | 0 => pure .setInProgress
  | 1 => pure .servicePartitionSelector
  | 2 => pure .servicePartitionScan
  | 3 => pure .validBitClearing
  | 4 => pure .bootInfoAcknowledge
  | 5 => pure .bootFlags
  | 6 => pure .bootInitiatorInfo
  | 7 => pure .bootMailbox
  | _ => throw (.unsupportedSelector value)

/-- A parameter of a fixed length, without revision and selector. -/
structure BootParameter (α : Type) where
  selector : BootOptionSelector
  length : Nat
  parse : List UInt8 → Parsing α

def checkParameterLength (length : Nat) (data : List UInt8) : Parsing Unit :=
  if data.length ≠ length then throw (.invalidLength length data.length) else pure ()

def parseParameter {α : Type} (parameter : BootParameter α) (data : List UInt8) : Parsing α := do
  checkParameterLength parameter.length data
  parameter.parse data

/-! ### Parameters -/

/-- Parameter 0. -/
inductive SetInProgress where
  | complete
  | inProgress
  | commitWrite
  deriving DecidableEq

def SetInProgress.value : SetInProgress → UInt8
  | .complete => 0
  | .inProgress => 1
  | .commitWrite => 2

def SetInProgress.parameter : BootParameter SetInProgress where
  selector := .setInProgress
  length := 1
  parse data := do
    checkParameterLength 1 data
    let value ← index data 0
    match value.toNat with
    | 0 => pure .complete
    | 1 => pure .inProgress
    | 2 => pure .commitWrite
    | _ => throw (.invalidValue 0 value)

/-- Parameter 1: zero means unspecified. -/
structure ServicePartitionSelector where
  partition : UInt8
  deriving DecidableEq

def ServicePartitionSelector.parameter : BootParameter ServicePartitionSelector where
  selector := .servicePartitionSelector
  length := 1
  parse data := do
    checkParameterLength 1 data
    pure ⟨← index data 0⟩

/-- Parameter 2. -/
inductive ServicePartitionScan where
  | none
  | scanRequested
  | discovered
  | scanRequestedAndDiscovered
  | unknown (value : UInt8)
  deriving DecidableEq

def ServicePartitionScan.parameter : BootParameter ServicePartitionScan where
  selector := .servicePartitionScan
  length := 1
  parse data := do
    checkParameterLength 1 data
    let value ← index data 0
    match value.toNat with
    | 0 => pure .none
    | 1 => pure .scanRequested
    | 2 => pure .discovered
    | 3 => pure .scanRequestedAndDiscovered
    | _ => pure (.unknown value)

/-- A set of flags, each one of the low five bits. -/
structure Flags where
  bits : UInt8
  known : bits &&& 0x1F = bits
  deriving DecidableEq

/-- `from_bits`: no bit may be unknown. -/
def Flags.fromBits (bits : UInt8) : Option Flags :=
  if known : bits &&& 0x1F = bits then some ⟨bits, known⟩ else none

/-- Parameter 3: PEF, timeout, watchdog, reset and power. -/
abbrev BootValidBitClearing := Flags

def BootValidBitClearing.parameter : BootParameter BootValidBitClearing where
  selector := .validBitClearing
  length := 1
  parse data := do
    checkParameterLength 1 data
    let value ← index data 0
    okOr (Flags.fromBits value) (.invalidValue 3 value)

/-- BIOS, OS loader, OS or service partition, system management software, and OEM. -/
abbrev BootInfoActors := Flags

/-- Parameter 4. -/
structure BootInfoAcknowledge where
  writeMask : BootInfoActors
  flags : BootInfoActors
  deriving DecidableEq

def BootInfoAcknowledge.parameter : BootParameter BootInfoAcknowledge where
  selector := .bootInfoAcknowledge
  length := 2
  parse data := do
    checkParameterLength 2 data
    let mask ← index data 0
    let writeMask ← okOr (Flags.fromBits mask) (.invalidValue 4 mask)
    let value ← index data 1
    let flags ← okOr (Flags.fromBits value) (.invalidValue 4 value)
    pure ⟨writeMask, flags⟩

/-- Parameter 6, as it is read back. -/
structure BootInitiatorInfo where
  rawChannel : UInt8
  sessionId : UInt32
  timestamp : UInt32
  deriving DecidableEq

/-- Four bytes from an offset on, least significant first. -/
def u32At (data : List UInt8) (offset : Nat) : Parsing UInt32 := do
  let first ← index data offset
  let second ← index data (offset + 1)
  let third ← index data (offset + 2)
  let fourth ← index data (offset + 3)
  pure (UInt32.ofNat (ofLe [first, second, third, fourth]))

def BootInitiatorInfo.parameter : BootParameter BootInitiatorInfo where
  selector := .bootInitiatorInfo
  length := 9
  parse data := do
    checkParameterLength 9 data
    pure ⟨← index data 0, ← u32At data 1, ← u32At data 5⟩

/-- `BootInitiatorInfoWrite`, of a channel of four bits. -/
structure BootInitiatorInfoWrite where
  channel : UInt8
  sessionId : UInt32
  timestamp : UInt32
  valid : channel ≤ 0x0F
  deriving DecidableEq

def BootInitiatorInfoWrite.new (channel : UInt8) (sessionId timestamp : UInt32) :
    Parsing BootInitiatorInfoWrite :=
  if valid : channel ≤ 0x0F then pure ⟨channel, sessionId, timestamp, valid⟩
  else throw (.invalidValue 6 channel)

def BootInitiatorInfoWrite.toBytes (info : BootInitiatorInfoWrite) : List UInt8 :=
  info.channel :: toLe 4 info.sessionId.toNat ++ toLe 4 info.timestamp.toNat

inductive BootDevice where
  | noOverride
  | pxe
  | hardDrive
  | safeMode
  | diagnosticPartition
  | cdRom
  | biosSetup
  | remoteFloppy
  | remoteCdRom
  | remotePrimaryMedia
  | remoteHardDrive
  | floppy
  deriving DecidableEq

def BootDevice.value : BootDevice → UInt8
  | .noOverride => 0
  | .pxe => 1
  | .hardDrive => 2
  | .safeMode => 3
  | .diagnosticPartition => 4
  | .cdRom => 5
  | .biosSetup => 6
  | .remoteFloppy => 7
  | .remoteCdRom => 8
  | .remotePrimaryMedia => 9
  | .remoteHardDrive => 11
  | .floppy => 15

def BootDevice.ofByte (value : UInt8) : Except BootOptionError BootDevice :=
  match value.toNat with
  | 0 => .ok .noOverride
  | 1 => .ok .pxe
  | 2 => .ok .hardDrive
  | 3 => .ok .safeMode
  | 4 => .ok .diagnosticPartition
  | 5 => .ok .cdRom
  | 6 => .ok .biosSetup
  | 7 => .ok .remoteFloppy
  | 8 => .ok .remoteCdRom
  | 9 => .ok .remotePrimaryMedia
  | 11 => .ok .remoteHardDrive
  | 15 => .ok .floppy
  | _ => .error (.unsupportedBootDevice value)

inductive BootOverrideDuration where
  | oneTime
  | persistent
  deriving DecidableEq

structure BootOverride where
  device : BootDevice
  duration : BootOverrideDuration
  efi : Bool
  clearCmos : Bool
  deriving DecidableEq

/-- The five bytes of an override, which is always marked valid. -/
def BootOverride.toBytes (override : BootOverride) : List UInt8 :=
  let first : UInt8 := 0x80 ||| (if override.duration = .persistent then 0x40 else 0) |||
    (if override.efi then 0x20 else 0)
  let second : UInt8 := (override.device.value <<< 2) ||| (if override.clearCmos then 0x80 else 0)
  [first, second, 0, 0, 0]

/-- Parameter 5, as it is read back. -/
inductive BootFlags where
  | invalid
  | valid (override : BootOverride)
  | unknown (raw : List UInt8)
  deriving DecidableEq

/-- The bits of boot flags that have a meaning. -/
def allowedFlags : List UInt8 := [0xE0, 0xBC, 0x00, 0x00, 0x00]

/-- The first byte with a bit of no meaning, and its place. -/
def unmodelled (data : List UInt8) : Option ((UInt8 × UInt8) × Nat) :=
  (data.zip allowedFlags).zipIdx.find? fun entry => entry.1.1 &&& ~~~entry.1.2 != 0

def BootFlags.parameter : BootParameter BootFlags where
  selector := .bootFlags
  length := 5
  parse data := do
    checkParameterLength 5 data
    let raw ← fixed 5 data
    if (unmodelled data).isSome then pure (.unknown raw)
    else
      let second ← index data 1
      match BootDevice.ofByte ((second >>> 2) &&& 0x0F) with
      | .error _ => pure (.unknown raw)
      | .ok device =>
        let first ← index data 0
        if first &&& 0x80 = 0 then pure .invalid
        else
          pure (.valid {
            device
            duration := if first &&& 0x40 = 0 then .oneTime else .persistent
            efi := first &&& 0x20 != 0
            clearCmos := second &&& 0x80 != 0 })

/-! ### Writes -/

inductive BootOptionWrite where
  | setInProgress (value : SetInProgress)
  | servicePartitionSelector (value : ServicePartitionSelector)
  | servicePartitionScanRequest (scan : Bool)
  | validBitClearing (value : BootValidBitClearing)
  | bootInfoAcknowledge (value : BootInfoAcknowledge)
  | bootFlags (value : BootOverride)
  | bootInitiatorInfo (value : BootInitiatorInfoWrite)
  deriving DecidableEq

/-- `BootOptionWrite::try_from_raw`. -/
def BootOptionWrite.tryFromRaw (selector : UInt8) (data : List UInt8) : Parsing BootOptionWrite := do
  match ← BootOptionSelector.ofByte selector with
  | .setInProgress => return .setInProgress (← parseParameter SetInProgress.parameter data)
  | .servicePartitionSelector =>
    return .servicePartitionSelector (← parseParameter ServicePartitionSelector.parameter data)
  | .servicePartitionScan =>
    checkParameterLength ServicePartitionScan.parameter.length data
    let value ← index data 0
    match value.toNat with
    | 0 | 1 => return .servicePartitionScanRequest (value != 0)
    | _ => throw (.invalidValue 2 value)
  | .validBitClearing => return .validBitClearing (← parseParameter BootValidBitClearing.parameter data)
  | .bootInfoAcknowledge =>
    return .bootInfoAcknowledge (← parseParameter BootInfoAcknowledge.parameter data)
  | .bootFlags =>
    match ← parseParameter BootFlags.parameter data with
    | .valid value => return .bootFlags value
    | .invalid => throw (.invalidValue 5 (← index data 0))
    | .unknown _ =>
      match unmodelled data with
      | some ((value, _), byte) => throw (.unsupportedBootFlags byte value)
      | none => throw (.unsupportedBootDevice (((← index data 1) >>> 2) &&& 0x0F))
  | .bootInitiatorInfo =>
    checkParameterLength BootInitiatorInfo.parameter.length data
    let channel ← index data 0
    let sessionId ← u32At data 1
    let timestamp ← u32At data 5
    return .bootInitiatorInfo (← BootInitiatorInfoWrite.new channel sessionId timestamp)
  | .bootMailbox => throw (.unsupportedSelector 7)

/-- The selector and the data of a write, `BootOptionWrite::to_bytes`. -/
def BootOptionWrite.toBytes : BootOptionWrite → List UInt8
  | .setInProgress value => [0, value.value]
  | .servicePartitionSelector value => [1, value.partition]
  | .servicePartitionScanRequest scan => [2, if scan then 1 else 0]
  | .validBitClearing value => [3, value.bits]
  | .bootInfoAcknowledge value => [4, value.writeMask.bits, value.flags.bits]
  | .bootFlags value => 5 :: value.toBytes
  | .bootInitiatorInfo value => 6 :: value.toBytes

end IpmiRs.Chassis
