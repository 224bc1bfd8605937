import IpmiRs.IpmiConnection
import IpmiRs.Library.Bytes

/-! Reading FRU images, `ipmi-rs/src/fru.rs` over the commands of
`storage/fru/commands.rs`. A read is cut into chunks, which shrink when the
device finds them too long. -/
namespace IpmiRs.Storage
open Connection Library Library.Bytes Library.Stateful

/-- Maximum transfer bytes used by the high-level bounded transfer helpers. -/
def DEFAULT_CHUNK_BYTES : Nat := 16

inductive FruAccess where
  | byte
  | word
  deriving DecidableEq

def FruAccess.unit : FruAccess → Nat
  | .byte => 1
  | .word => 2

structure FruInfo where
  size : UInt16
  access : FruAccess
  deriving DecidableEq

inductive FruCommandError where
  | malformedResponse
  | emptyInventory
  | invalidLength
  | outOfBounds
  | unaligned
  | unexpectedCount
  deriving DecidableEq

structure FruDevice where
  id : UInt8
  target : Option (Address × Channel)
  lun : LogicalUnit
  deriving DecidableEq

/-- `validate`: where a transfer starts, in the units of the device. -/
def FruInfo.validate (info : FruInfo) (offset : UInt16) (len : Nat) :
    Except FruCommandError UInt16 :=
  if len = 0 ∨ 0xFF < len then .error .invalidLength
  else if info.size.toNat < offset.toNat + len then .error .outOfBounds
  else if offset.toNat % info.access.unit ≠ 0 ∨ len % info.access.unit ≠ 0 then .error .unaligned
  else .ok (offset / UInt16.ofNat info.access.unit)

/-! ### Commands -/

/-- `GetFruInventoryAreaInfo`. -/
def getFruInventoryAreaInfo (device : FruDevice) : IpmiCommand FruInfo FruCommandError where
  message := .newRequest .storage 0x10 [device.id]
  parse data :=
    if data.length ≠ 3 then .error .malformedResponse
    else
      let size := UInt16.ofNat (ofLe [data[0]!, data[1]!])
      if size = 0 then .error .emptyInventory
      else .ok ⟨size, if data[2]! &&& 1 = 1 then .word else .byte⟩
  target := device.target
  targetLun := device.lun

structure ReadFruDataResponse where
  count : UInt8
  data : List UInt8
  deriving DecidableEq

structure ReadFruData where
  device : FruDevice
  offset : UInt16
  count : UInt8
  access : FruAccess
  deriving DecidableEq

namespace ReadFruData

def new (device : FruDevice) (info : FruInfo) (offset : UInt16) (count : UInt8) :
    Except FruCommandError ReadFruData :=
  (info.validate offset count.toNat).map fun _ => ⟨device, offset, count, info.access⟩

def command (read : ReadFruData) : IpmiCommand ReadFruDataResponse FruCommandError where
  message := .newRequest .storage 0x11 (read.device.id ::
    toLe 2 (read.offset / UInt16.ofNat read.access.unit).toNat ++ [read.count])
  parse
    | [] => .error .malformedResponse
    | count :: bytes =>
      if count = 0 ∨ bytes = [] then .error .unexpectedCount else .ok ⟨count, bytes⟩
  target := read.device.target
  targetLun := read.device.lun

/-- `verify`: the bytes of a response that answers this very request. -/
def verify (read : ReadFruData) (response : ReadFruDataResponse) :
    Except FruCommandError (List UInt8) :=
  if response.count.toNat * read.access.unit ≠ read.count.toNat then .error .unexpectedCount
  else if response.data.length ≠ read.count.toNat then .error .malformedResponse
  else .ok response.data

end ReadFruData

structure WriteFruData where
  device : FruDevice
  offset : UInt16
  data : List UInt8
  access : FruAccess
  deriving DecidableEq

namespace WriteFruData

def new (device : FruDevice) (info : FruInfo) (offset : UInt16) (data : List UInt8) :
    Except FruCommandError WriteFruData :=
  (info.validate offset data.length).map fun _ => ⟨device, offset, data, info.access⟩

def command (write : WriteFruData) : IpmiCommand UInt8 FruCommandError where
  message := .newRequest .storage 0x12 (write.device.id ::
    toLe 2 (write.offset / UInt16.ofNat write.access.unit).toNat ++ write.data)
  parse
    | [count] => .ok count
    | _ => .error .malformedResponse
  target := write.device.target
  targetLun := write.device.lun

def verify (write : WriteFruData) (count : UInt8) : Except FruCommandError Unit :=
  if count.toNat * write.access.unit ≠ write.data.length then .error .unexpectedCount else .ok ()

end WriteFruData

/-! ### Reading an image -/

inductive FruReadError (ε : Type) where
  | command (error : IpmiError ε FruCommandError)
  | transfer (error : FruCommandError)
  deriving DecidableEq

/-- `shrinkable`: the device finds the request too long. -/
def shrinkable {ε : Type} (error : IpmiError ε FruCommandError) : Bool :=
  let completion := match error with
    | .failed _ _ code _ => some code
    | .command _ _ _ code _ => code
    | _ => none
  match completion with
  | some .requestDataLenInvalid | some .requestDataLengthLimitExceeded
  | some .cannotReturnNumOfRequestedBytes => true
  | _ => false

section
variable {σ ε : Type} (con : IpmiConnection σ ε) (device : FruDevice)

/-- `Ipmi::fru_info`. -/
def fruInfo : Stateful σ (IpmiError ε FruCommandError) FruInfo :=
  con.sendRecv (getFruInventoryAreaInfo device)

/-- The loop of `read_fru_image`. Each turn reads more of the image or shrinks
the chunks, so their sum is a bound on the turns. -/
def readFruChunks (info : FruInfo) : Nat → Nat → List UInt8 → Stateful σ (FruReadError ε) (List UInt8)
  | 0, _, bytes => return bytes
  | turns + 1, chunkSize, bytes =>
    if bytes.length < info.size.toNat then do
      let count := min chunkSize (info.size.toNat - bytes.length)
      let read ← MonadExcept.ofExcept ((ReadFruData.new device info (UInt16.ofNat bytes.length)
        (UInt8.ofNat count)).mapError .transfer)
      match ← (con.sendRecv read.command).attempt with
      | .ok response =>
        let more ← MonadExcept.ofExcept ((read.verify response).mapError .transfer)
        readFruChunks info turns chunkSize (bytes ++ more)
      | .error error =>
        if shrinkable error ∧ info.access.unit < chunkSize then
          readFruChunks info turns (max (chunkSize / 2) info.access.unit) bytes
        else throw (.command error)
    else return bytes

/-- `Ipmi::read_fru_image`. -/
def readFruImage : Stateful σ (FruReadError ε) (List UInt8) := do
  let info ← ExceptT.adapt .command (fruInfo con device)
  if info.access = .word ∧ info.size.toNat % 2 ≠ 0 then throw (.transfer .unaligned)
  else readFruChunks con device info (info.size.toNat + DEFAULT_CHUNK_BYTES) DEFAULT_CHUNK_BYTES []

/-! ### An image is read whole -/

theorem FruInfo.validate_pos {info : FruInfo} {offset start : UInt16} {len : Nat}
    (valid : info.validate offset len = .ok start) : 0 < len := by
  unfold FruInfo.validate at valid
  split at valid
  · cases valid
  · omega

theorem ReadFruData.new_eq {info : FruInfo} {offset : UInt16} {count : UInt8} {read : ReadFruData}
    (made : ReadFruData.new device info offset count = .ok read) :
    read = ⟨device, offset, count, info.access⟩ ∧ 0 < count.toNat := by
  unfold ReadFruData.new at made
  cases valid : info.validate offset count.toNat with
  | error error =>
    rw [valid] at made
    cases made
  | ok start =>
    rw [valid] at made
    exact ⟨(Except.ok.inj made).symm, FruInfo.validate_pos valid⟩

end
end IpmiRs.Storage
