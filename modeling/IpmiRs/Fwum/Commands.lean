import IpmiRs.Oem

/-! Commands of the Kontron firmware update manager and the firmware image they
carry, `ipmi-rs-core/src/oem/fwum.rs`. -/
namespace IpmiRs.Fwum
open Connection App Library.Bytes

/-- A destination and an explicitly selected board product. -/
structure FwumTarget where
  address : Option (Address × Channel)
  productId : UInt16
  deriving DecidableEq

inductive FwumParseError where
  | truncated (expected actual : Nat)
  | tooLong (actual : Nat)
  | invalidValue (value : UInt8)
  deriving DecidableEq

/-- `length`: a response of at least `min` and at most `max` bytes. -/
def length (data : List UInt8) (min max : Nat) : Except FwumParseError Unit :=
  if data.length < min then .error (.truncated min data.length)
  else if max < data.length then .error (.tooLong data.length)
  else .ok ()

def request (cmd : UInt8) (data : List UInt8) : Message := .newRequest .firmware cmd data

structure Revision where
  major : UInt8
  minor : UInt8
  subminor : UInt8
  sdr : Option UInt8
  deriving DecidableEq

def revision (major minor : UInt8) (sdr : Option UInt8) : Revision :=
  ⟨major, minor >>> 4, minor &&& 0x0F, sdr⟩

/-- A command for a target, which must be the selected Kontron board. -/
def FwumTarget.command {α : Type} (target : FwumTarget) (message : Message)
    (parse : List UInt8 → Except FwumParseError α) : OemCommand α FwumParseError where
  message
  parse
  target := target.address
  manufacturerId := 15000
  supports device := device.manufacturerId == 15000 && device.productId == target.productId

structure Info where
  protocolRevision : UInt8
  controllerDeviceId : UInt8
  debugBuild : Bool
  sequenceAddress : Bool
  revision : Revision
  bankCount : UInt8
  sequenceFormat : Bool
  deriving DecidableEq

def Info.parse (data : List UInt8) : Except FwumParseError Info := do
  length data 6 32
  return {
    protocolRevision := data[0]!
    controllerDeviceId := data[1]!
    debugBuild := data[2]! &&& 1 != 0
    sequenceAddress := data[2]! &&& 2 != 0
    revision := Fwum.revision data[3]! data[4]! none
    bankCount := data[5]!
    sequenceFormat := decide ((5 : UInt8) < data[0]!) && decide (7 ≤ data.length) }

def getInfo (target : FwumTarget) : OemCommand Info FwumParseError :=
  target.command (request 0x00 []) Info.parse

inductive BankState where
  | empty
  | newFirmware
  | waitingForValidation
  | lastKnownGood
  | previousGood
  deriving DecidableEq

/-- `BankState::try_from` -/
def BankState.ofByte (value : UInt8) : Except FwumParseError BankState :=
  match value.toNat with
  | 0 => .ok .empty
  | 1 => .ok .newFirmware
  | 2 => .ok .waitingForValidation
  | 3 => .ok .lastKnownGood
  | 4 => .ok .previousGood
  | _ => .error (.invalidValue value)

structure BankStatus where
  state : BankState
  length : UInt32
  revision : Revision
  deriving DecidableEq

/-- An empty bank has no length, whatever the unused bytes of the reply say. -/
def BankStatus.parse (data : List UInt8) : Except FwumParseError BankStatus := do
  Fwum.length data 7 32
  let state ← BankState.ofByte data[0]!
  if state = .empty then return ⟨state, 0, Fwum.revision 0 0 none⟩
  else
    return ⟨state, UInt32.ofNat (ofLe [data[1]!, data[2]!, data[3]!]),
      Fwum.revision data[4]! data[5]! (some data[6]!)⟩

def getStatus (target : FwumTarget) (bank : UInt8) : OemCommand BankStatus FwumParseError :=
  target.command (request 0x07 [bank]) BankStatus.parse

def MAX_BANKS : UInt8 := 16

/-! ### Firmware image -/

inductive ImageError where
  | truncated
  | tooLarge
  | sizeMismatch
  | checksumMismatch
  deriving DecidableEq

def HEADER : Nat := 0x5A0

/-- A parsed image: complete, and within the image buffer. -/
structure FirmwareImage where
  bytes : List UInt8
  boardId : UInt16
  iana : UInt32
  deviceId : UInt8
  tableVersion : UInt8
  implementationRevision : UInt8
  revision : Revision
  sized : HEADER + 20 ≤ bytes.length ∧ bytes.length ≤ 512 * 1024
  deriving DecidableEq

/-- The sum of the bytes of an image but the two of its checksum. -/
def imageSum (bytes : List UInt8) : UInt16 :=
  bytes.zipIdx.foldl
    (fun sum (byte, index) =>
      if index = HEADER + 4 ∨ index = HEADER + 5 then sum else sum + byte.toUInt16) 0

namespace FirmwareImage

def parse (bytes : List UInt8) : Except ImageError FirmwareImage :=
  if short : bytes.length < HEADER + 20 then .error .truncated
  else if large : 512 * 1024 < bytes.length ∨ 0x00FFFFFF < bytes.length then .error .tooLarge
  else
    let h := (bytes.drop HEADER).take 20
    let size := ofLe [h[3]!, h[2]!, h[1]!, h[0]!]
    let checksum := UInt16.ofNat (ofLe [h[5]!, h[4]!])
    if size ≠ bytes.length then .error .sizeMismatch
    else if checksum ≠ 0 - imageSum bytes then .error .checksumMismatch
    else
      .ok {
        bytes
        boardId := UInt16.ofNat (ofLe [h[7]!, h[6]!])
        iana := UInt32.ofNat (ofLe [h[14]!, h[15]!, h[16]!])
        deviceId := h[8]!
        tableVersion := h[9]!
        implementationRevision := h[10]!
        revision := Fwum.revision (h[11]! &&& 0x0F) h[12]! (some h[13]!)
        sized := ⟨Nat.le_of_not_lt short, Nat.le_of_not_lt fun long => large (.inl long)⟩ }

def len (image : FirmwareImage) : Nat := image.bytes.length

/-- The number that makes the bytes of an image sum to zero. -/
def padding (image : FirmwareImage) : UInt16 :=
  0 - image.bytes.foldl (fun sum byte => sum + byte.toUInt16) 0

theorem parse_bytes {bytes : List UInt8} {image : FirmwareImage}
    (parsed : parse bytes = .ok image) : image.bytes = bytes := by
  simp only [parse] at parsed
  repeat' split at parsed
  all_goals cases parsed
  rfl

end FirmwareImage

/-! ### Mutations -/

inductive DownloadMode where
  | address
  | sequence
  deriving DecidableEq

/-- `no_data` -/
def noData (data : List UInt8) : Except FwumParseError Unit := length data 0 0

/-- The bank selected by Start Firmware Image. -/
def StartedBank.parse (data : List UInt8) : Except FwumParseError UInt8 := do
  length data 1 1
  return data[0]!

def startImage (target : FwumTarget) (size : UInt32) (padding : UInt16) (mode : DownloadMode) :
    OemCommand UInt8 FwumParseError :=
  target.command
    (request 0x0A (toLe 3 size.toNat ++ toLe 2 padding.toNat ++
      match mode with
      | .address => []
      | .sequence => [1]))
    StartedBank.parse

def saveImage (target : FwumTarget) (offset : UInt32) (sequence : UInt8) (bytes : List UInt8)
    (mode : DownloadMode) : OemCommand Unit FwumParseError :=
  target.command
    (request 0x0B ((match mode with
      | .address => toLe 3 offset.toNat ++ [UInt8.ofNat bytes.length]
      | .sequence => [sequence]) ++ bytes))
    noData

def finishImage (target : FwumTarget) (revision : Revision) : OemCommand Unit FwumParseError :=
  target.command
    (request 0x0C
      [revision.major, revision.minor <<< 4 ||| revision.subminor, revision.sdr.getD 0, 0])
    noData

def startUpdate (target : FwumTarget) : OemCommand Unit FwumParseError :=
  target.command (request 0x09 [0]) noData

def manualRollback (target : FwumTarget) : OemCommand Unit FwumParseError :=
  target.command (request 0x0E [0]) noData

/-- The two buffer channels of the Kontron setup. -/
inductive BufferChannel where
  | current
  | ipmb
  deriving DecidableEq

def BufferChannel.value : BufferChannel → UInt8
  | .current => 0x0E
  | .ipmb => 0

/-- Size zero restores the default of the controller. -/
def setChannelBuffer (target : FwumTarget) (channel : BufferChannel) (size : UInt8) :
    OemCommand Unit FwumParseError :=
  target.command (.newRequest (.reserved 0x3E) 0x82 [channel.value, size]) noData

end IpmiRs.Fwum
