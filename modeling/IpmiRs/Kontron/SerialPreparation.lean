import IpmiRs.Kontron.FruChange

/-! Preparing the change of a Kontron FRU's serial numbers, `kontron_workflow.rs`:
the image is read, and the serial number of the device is put into the board and
the product area of a copy. Nothing is written. -/
namespace IpmiRs.Kontron
open Connection App Library Library.Checked Library.Stateful Storage

/-! ### The serial number of the device -/

inductive SerialError where
  | length
  | nonPrintable
  deriving DecidableEq

def OEM_PREFIX : List UInt8 := [0xB4, 0x90, 0x91, 0x8B]

/-- `GetSerialNumber`, at a destination. -/
def getSerialNumber (target : Option (Address × Channel)) : OemCommand (List UInt8) SerialError where
  message := .newRequest (.reserved 0x3E) 0x0C OEM_PREFIX
  parse data :=
    if data = [] ∨ 63 < data.length then .error .length
    else if ¬data.all fun byte => 0x20 ≤ byte && byte ≤ 0x7e then .error .nonPrintable
    else .ok data
  target
  targetLun := .three
  manufacturerId := 15000

/-- `Ipmi::send_oem`. -/
def sendOem {σ ε α β : Type} (con : IpmiConnection σ ε) (command : OemCommand α β) : Stateful σ (OemError ε β) α := do
  let device ← ExceptT.adapt .identity (con.oemDeviceId command.target)
  if device.manufacturerId ≠ command.manufacturerId ∨
      command.productId.any (device.productId != ·) ∨ ¬command.supports device then
    throw (.unsupportedDevice device.manufacturerId device.productId command.manufacturerId command.productId)
  else ExceptT.adapt .command (con.sendRecv command.toIpmiCommand)

/-! ### The areas of an image -/

/-- A range within an image. -/
abbrev SpanIn (image : List UInt8) := { span : Span // span.stop ≤ image.length }

def areaRange (image : List UInt8) (start : Nat) : Except FruParseError (SpanIn image) :=
  match image[start + 1]? with
  | none => .error .truncated
  | some length =>
    let stop := start + length.toNat * 8
    if bad : image.length < stop ∨ stop < start + 8 then .error .layout
    else .ok ⟨⟨start, stop, Nat.le_add_right _ _⟩, Nat.le_of_not_lt (not_or.mp bad).1⟩

/-- `backup`: an image with the two areas that are changed, if it has them. -/
def backup (image : List UInt8) : Except FruParseError (Option KontronFruBackup) := do
  let inventory ← parseInventory image
  match inventory.header.board, inventory.header.product with
  | some board, some product =>
    let board ← areaRange image board
    let product ← areaRange image product
    return some ⟨image, board, product, board.property, product.property⟩
  | _, _ => return none

/-! ### Changing bytes in place -/

/-- `&mut [u8]`: bytes that are changed, and whose number stays as it is. -/
abbrev Buffer (size : Nat) := { bytes : List UInt8 // bytes.length = size }

variable {γ : Type} {size : Nat}

/-- `image[index] = byte` -/
def setByte (image : Buffer size) (index : Nat) (byte : UInt8) : Checked γ (Buffer size) :=
  if index < size then pure ⟨image.val.set index byte, List.length_set.trans image.property⟩ else panicked

theorem length_copied {image bytes : List UInt8} {start stop : Nat}
    (fits : start ≤ stop ∧ stop ≤ image.length ∧ bytes.length = stop - start) :
    (image.take start ++ (bytes ++ image.drop stop)).length = image.length := by
  rw [List.length_append, List.length_append, List.length_take, List.length_drop]
  omega

/-- `image[start..stop].copy_from_slice(bytes)` -/
def copyFromSlice (image : Buffer size) (start stop : Nat) (bytes : List UInt8) : Checked γ (Buffer size) :=
  if fits : start ≤ stop ∧ stop ≤ image.val.length ∧ bytes.length = stop - start then
    pure ⟨image.val.take start ++ (bytes ++ image.val.drop stop), (length_copied fits).trans image.property⟩
  else panicked

/-- `checksum`: the last byte of an area makes its sum zero. -/
def checksum (image : Buffer size) (area : Span) : Checked γ (Buffer size) := do
  let last ← sub area.stop 1
  let summed ← slice image.val area.start last
  setByte image last (-Checksum.total summed)

/-- `image.get(pos).filter(|_| pos < area.end - 1)` -/
def descriptorAt (image : List UInt8) (area : Span) (pos : Nat) : Checked γ (Option UInt8) :=
  match image[pos]? with
  | none => pure none
  | some descriptor => do
    let last ← sub area.stop 1
    pure (if pos < last then some descriptor else none)

/-- The loop over the preceding fields: where the next one is, if they are all there. -/
def skipFields (image : List UInt8) (area : Span) : Nat → Nat → Checked γ (Option Nat)
  | 0, pos => pure (some pos)
  | left + 1, pos => do
    match ← descriptorAt image area pos with
    | none => pure none
    | some descriptor =>
      let pos := pos + (1 + (descriptor &&& 0x3f).toNat)
      if area.stop ≤ pos then pure none else skipFields image area left pos

/-- `replace_serial`: whether the field was replaced, and the image. -/
def replaceSerial (image : Buffer size) (area : Span) (precedingFields : Nat) (serial : List UInt8) :
    Checked γ (Bool × Buffer size) := do
  let fields := area.start + if precedingFields = 2 then 6 else 3
  match ← skipFields image.val area precedingFields fields with
  | none => pure (false, image)
  | some pos =>
    match ← descriptorAt image.val area pos with
    | none => pure (false, image)
    | some descriptor =>
      let length := (descriptor &&& 0x3f).toNat
      if descriptor >>> 6 ≠ 3 ∨ length ≠ serial.length ∨ area.stop ≤ pos + 1 + length then pure (false, image)
      else do
        let image ← copyFromSlice image (pos + 1) (pos + 1 + length) serial
        let image ← checksum image area
        pure (true, image)

/-! ### The preparation -/

/-- `KontronFruError`, with what only the preparation of a change fails with, and a panic. -/
inductive KontronPreparationError (ε : Type) where
  | fru (error : KontronFruError ε)
  | serial (error : OemError ε SerialError)
  | unsupportedFru
  | missingArea
  | serialField (area : KontronArea)
  | panicked

/-- A panic ends everything. -/
def unwinding {σ ε α : Type} (x : Checked (KontronPreparationError ε) α) :
    Stateful σ (KontronPreparationError ε) α :=
  match x.run with
  | none => throw .panicked
  | some result => MonadExcept.ofExcept result

/-- A serial field is replaced, or the preparation fails. -/
def replaceSerialField {ε : Type} (image : Buffer size) (area : KontronArea) (range : Span) (skipped : Nat)
    (serial : List UInt8) : Checked (KontronPreparationError ε) (Buffer size) := do
  let (replaced, image) ← replaceSerial image range skipped serial
  if ¬replaced then throw (.serialField area) else pure image

/-- The loop of `prepare_kontron_serial` over the two areas. -/
def replaceSerials {ε : Type} (board product : Span) (serial : List UInt8) (image : Buffer size) :
    Checked (KontronPreparationError ε) (Buffer size) := do
  let image ← replaceSerialField image .board board 2 serial
  replaceSerialField image .product product 4 serial

section
variable {σ ε : Type} (con : IpmiConnection σ ε)

/-- `prepare_kontron_fru`. -/
def prepareKontronFru (device : FruDevice) (identity : DeviceId) :
    Stateful σ (KontronPreparationError ε) KontronFruChange := do
  let info ← ExceptT.adapt (fun error => .fru (.info error)) (fruInfo con device)
  let image ← ExceptT.adapt (fun error => .fru (.read error)) (readFruImage con device)
  if image.length ≠ info.size.toNat then throw (.fru .targetChanged)
  else
    match ← MonadExcept.ofExcept ((backup image).mapError fun error => .fru (.inventory error)) with
    | none => throw .missingArea
    | some original =>
      let _ ← ExceptT.adapt .fru (kontronIdentity con device.target (some identity))
      return ⟨device, identity, info, original, original.image, rfl⟩

/-- `prepare_kontron_serial`. -/
def prepareKontronSerial (device : FruDevice) : Stateful σ (KontronPreparationError ε) KontronFruChange := do
  if device.id ≠ 0 ∨ device.lun ≠ .zero then throw .unsupportedFru
  else
    let identity ← ExceptT.adapt .fru (kontronIdentity con device.target none)
    let serial ← ExceptT.adapt .serial (sendOem con (getSerialNumber device.target))
    let change ← prepareKontronFru con device identity
    let proposed ← unwinding
      (replaceSerials change.backup.board change.backup.product serial ⟨change.proposed, change.sameLength⟩)
    let _ ← MonadExcept.ofExcept ((parseInventory proposed.val).mapError fun error => .fru (.inventory error))
    return { change with proposed := proposed.val, sameLength := proposed.property }

end
end IpmiRs.Kontron
