import IpmiRs.Library.Chunks
import IpmiRs.Oem
import IpmiRs.Storage.FruLossless
import IpmiRs.Storage.FruTransfer

/-! Checked changes of a Kontron FRU, `kontron_workflow.rs`: a prepared change
is applied once, after the identity, the size and the whole image have been
checked again, and only while enough sequences are held back to finish it. -/
namespace IpmiRs.Kontron
open Connection App Library Library.Chunks Library.Stateful Storage

inductive KontronArea where
  | board
  | product
  deriving DecidableEq

/-- `Range<usize>`, of an image that has the bytes. -/
structure Span where
  start : Nat
  stop : Nat
  ordered : start ≤ stop
  deriving DecidableEq

/-- `image[span]` -/
def Span.of (span : Span) (image : List UInt8) : List UInt8 :=
  (image.drop span.start).take (span.stop - span.start)

structure KontronFruBackup where
  image : List UInt8
  board : Span
  product : Span
  boardInside : board.stop ≤ image.length
  productInside : product.stop ≤ image.length

/-- `KontronFruChange`: what a change was prepared for, and what it makes of it. -/
structure KontronFruChange where
  device : FruDevice
  identity : DeviceId
  info : FruInfo
  backup : KontronFruBackup
  proposed : List UInt8
  sameLength : proposed.length = backup.image.length

inductive KontronWriteFailure (ε : Type) where
  | command (error : IpmiError ε FruCommandError)
  | count (error : FruCommandError)
  deriving DecidableEq

/-- `KontronFruError`, less what only the preparation of a change fails with. -/
inductive KontronFruError (ε : Type) where
  | identity (error : OemError ε NotEnoughData)
  | info (error : IpmiError ε FruCommandError)
  | read (error : FruReadError ε)
  | inventory (error : FruParseError)
  | targetChanged
  | unverifiedSequenceBudget
  | sequenceBudget (needed available : Nat)
  | inventoryChanged
  | invalidTransfer (error : FruCommandError)
  | write (area : KontronArea) (offset bytesConfirmed : Nat) (reason : KontronWriteFailure ε)
      (observed : Except (FruReadError ε) (List UInt8))
  | readback (error : FruReadError ε)
  | readbackMismatch (image : List UInt8)

namespace KontronFruChange

/-- The sequences a command takes on its way to the target. -/
def perCommand (change : KontronFruChange) : Nat := if change.device.target.isSome then 2 else 1

/-- The chunks an area is written in, if it changes. -/
def areaChunks (before desired : List UInt8) (span : Span) : List (List UInt8) :=
  if span.of before = span.of desired then [] else chunks DEFAULT_CHUNK_BYTES (span.of desired)

/-- `fru_sequence_cost`. -/
def fruSequenceCost (change : KontronFruChange) (before desired : List UInt8) (preflight : Bool)
    (readbackCommands : Nat) : Nat :=
  let imageChunks := divCeil change.backup.image.length DEFAULT_CHUNK_BYTES
  let writes := (([change.backup.board, change.backup.product].filter fun span =>
    span.of before ≠ span.of desired).map fun span =>
      divCeil (span.stop - span.start) DEFAULT_CHUNK_BYTES).sum
  let commands := writes + readbackCommands + (if preflight then 1 else 0) * (4 + imageChunks)
  commands * change.perCommand

end KontronFruChange

section
variable {σ ε : Type} (con : IpmiConnection σ ε)

/-- `reserve_kontron_fru_budget`. -/
def reserveKontronFruBudget (needed : Nat) : Stateful σ (KontronFruError ε) Bool := do
  let s ← get
  match con.ipmbSequenceBudget s with
  | none =>
    if con.supportsLongMutationWorkflows s then return false else throw .unverifiedSequenceBudget
  | some available =>
    if available < needed then throw (.sequenceBudget needed available)
    else
      let granted ← modifyGet (con.reserveIpmbSequences needed)
      if granted then return true else throw (.sequenceBudget needed available)

/-- `kontron_identity`. -/
def kontronIdentity (target : Option (Address × Channel)) (expected : Option DeviceId) :
    Stateful σ (KontronFruError ε) DeviceId := do
  let identity ← ExceptT.adapt (fun error => .identity (.identity error)) (con.oemDeviceId target)
  if identity.manufacturerId ≠ 15000 then
    throw (.identity (.unsupportedDevice identity.manufacturerId identity.productId 15000 none))
  else if expected.any (· ≠ identity) then throw .targetChanged
  else return identity

variable (change : KontronFruChange)

/-- One write, confirmed by the count the device reports. -/
def confirmedWrite (write : WriteFruData) : Stateful σ (KontronWriteFailure ε) Unit := do
  let count ← ExceptT.adapt .command (con.sendRecv write.command)
  MonadExcept.ofExcept ((write.verify count).mapError .count)

/-- The inner loop of `write_kontron_areas`: the chunks of one area, from the
`index`-th on. The first that is not confirmed is the last. -/
def writeKontronChunks (info : FruInfo) (area : KontronArea) (start : Nat) :
    Nat → List (List UInt8) → Stateful σ (KontronFruError ε) Unit
  | _, [] => return
  | index, part :: parts => do
    let offset := start + index * DEFAULT_CHUNK_BYTES
    let write ← MonadExcept.ofExcept ((WriteFruData.new change.device info (UInt16.ofNat offset)
      part).mapError .invalidTransfer)
    match ← (confirmedWrite con write).attempt with
    | .ok () => writeKontronChunks info area start (index + 1) parts
    | .error reason =>
      let observed ← (readFruImage con change.device).attempt
      throw (.write area offset (index * DEFAULT_CHUNK_BYTES) reason observed)

/-- `write_kontron_areas`. -/
def writeKontronAreas (before desired : List UInt8) (info : FruInfo) :
    Stateful σ (KontronFruError ε) Unit := do
  let board := change.backup.board
  let product := change.backup.product
  writeKontronChunks con change info .board board.start 0
    (KontronFruChange.areaChunks before desired board)
  writeKontronChunks con change info .product product.start 0
    (KontronFruChange.areaChunks before desired product)
  let readback ← ExceptT.adapt .readback (readFruImage con change.device)
  if readback ≠ desired then throw (.readbackMismatch readback)
  else
    match parseInventory readback with
    | .error error => throw (.inventory error)
    | .ok _ => return

/-- What is held back is given up for what is still needed. -/
def reserveAgain (reserved : Bool) (stillNeeded : Nat) : Stateful σ (KontronFruError ε) Unit :=
  if reserved then do
    modify con.releaseIpmbSequences
    let _ ← reserveKontronFruBudget con stillNeeded
  else return

/-- What `apply_kontron_fru_change` does between reserving and releasing. -/
def applyReserved (readback : Nat) (reserved : Bool) : Stateful σ (KontronFruError ε) Unit := do
  let _ ← kontronIdentity con change.device.target (some change.identity)
  let info ← ExceptT.adapt .info (fruInfo con change.device)
  if info ≠ change.info then throw .targetChanged
  else
    let beforeRead ← get
    let current ← ExceptT.adapt .read (readFruImage con change.device)
    if current ≠ change.backup.image then throw .inventoryChanged
    else
      let afterRead ← get
      let readbackCost :=
        match con.ipmbSequenceBudget beforeRead, con.ipmbSequenceBudget afterRead with
        | some before, some after => max readback (divCeil (before - after) change.perCommand)
        | _, _ => readback
      let stillNeeded :=
        change.fruSequenceCost current change.proposed false readbackCost + change.perCommand
      reserveAgain con reserved stillNeeded
      let _ ← kontronIdentity con change.device.target (some change.identity)
      writeKontronAreas con change current change.proposed info

/-- `apply_kontron_fru_change`. -/
def applyKontronFruChange : Stateful σ (KontronFruError ε) Unit := do
  let readback := 1 + divCeil change.backup.image.length DEFAULT_CHUNK_BYTES
  let needed :=
    change.fruSequenceCost change.backup.image change.proposed true readback
  let reserved ← reserveKontronFruBudget con needed
  let result ← (applyReserved con change readback reserved).attempt
  if reserved then
    modify con.releaseIpmbSequences
    MonadExcept.ofExcept result
  else MonadExcept.ofExcept result

/-- The range holds the index. -/
def Span.contains (span : Span) (index : Nat) : Bool := decide (span.start ≤ index ∧ index < span.stop)

/-- A byte outside of both areas is not the one of the backup. -/
def changedOutside (current : List UInt8) : Bool :=
  (current.zip change.backup.image).zipIdx.any fun ((actual, original), index) =>
    !change.backup.board.contains index && !change.backup.product.contains index && actual != original

/-- `restore_kontron_fru_backup`. -/
def restoreKontronFruBackup : Stateful σ (KontronFruError ε) Unit := do
  let _ ← kontronIdentity con change.device.target (some change.identity)
  let info ← ExceptT.adapt .info (fruInfo con change.device)
  if info ≠ change.info then throw .targetChanged
  else
    let current ← ExceptT.adapt .read (readFruImage con change.device)
    if current.length ≠ change.backup.image.length ∨ changedOutside change current then throw .inventoryChanged
    else
      let readback := 1 + divCeil change.backup.image.length DEFAULT_CHUNK_BYTES
      let needed :=
        change.fruSequenceCost current change.backup.image false readback + change.perCommand
      let reserved ← reserveKontronFruBudget con needed
      let result ← (do
        let _ ← kontronIdentity con change.device.target (some change.identity)
        writeKontronAreas con change current change.backup.image info : Stateful σ (KontronFruError ε) Unit).attempt
      if reserved then
        modify con.releaseIpmbSequences
        MonadExcept.ofExcept result
      else MonadExcept.ofExcept result

end
end IpmiRs.Kontron
