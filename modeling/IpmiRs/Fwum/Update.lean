import IpmiRs.Fwum.Read

/-! Firmware staging, activation and rollback, `fwum/update.rs`. A session holds
the link it was prepared over; its methods keep the state they reached when
they fail. The progress callback answers from all it has been shown. -/
namespace IpmiRs.Fwum
open Connection App Library OverLink

/-- `char::is_whitespace` -/
def isWhitespace (c : Char) : Bool :=
  let n := c.toNat
  (decide (0x09 ≤ n) && decide (n ≤ 0x0D)) || n == 0x20 || n == 0x85 || n == 0xA0 || n == 0x1680 ||
    (decide (0x2000 ≤ n) && decide (n ≤ 0x200A)) || n == 0x2028 || n == 0x2029 || n == 0x202F ||
    n == 0x205F || n == 0x3000

/-- `text.trim().is_empty()` -/
def blank (text : String) : Bool := text.toList.all isWhitespace

inductive PrepareError where
  | image (error : ImageError)
  | missingProcedure
  | recoveryNotAlternative
  | imageTargetMismatch
  | noRollbackBank
  | existingUpdate
  | invalidTransport
  | unsupportedLongTransferTransport
  deriving DecidableEq

structure UpdateAuthorization where
  maintenanceWindow : String
  recoveryImage : FirmwareImage
  interruptionPlan : String
  rollbackPlan : String

/-- `UpdateAuthorization::new` -/
def UpdateAuthorization.new (maintenanceWindow : String) (recoveryBytes : List UInt8)
    (interruptionPlan rollbackPlan : String) : Except PrepareError UpdateAuthorization :=
  if blank maintenanceWindow ∨ blank interruptionPlan ∨ blank rollbackPlan then
    .error .missingProcedure
  else
    match FirmwareImage.parse recoveryBytes with
    | .error error => .error (.image error)
    | .ok recoveryImage =>
      .ok { maintenanceWindow, recoveryImage, interruptionPlan, rollbackPlan }

inductive TransportKind where
  | local
  | network
  | bridged
  deriving DecidableEq

/-- Upper bounds for request data, which leave room for what an upload adds. -/
structure TransportLimits where
  kind : TransportKind
  maxRequestBytes : UInt8
  negotiatedBufferBytes : Option UInt8
  bounds : 8 ≤ maxRequestBytes.toNat ∧ maxRequestBytes.toNat ≤ 32 ∧
    ∀ buffer ∈ negotiatedBufferBytes, 8 ≤ buffer.toNat ∧ buffer.toNat ≤ maxRequestBytes.toNat

namespace TransportLimits

def standard (kind : TransportKind) : TransportLimits := ⟨kind, 32, none, by simp, by simp, nofun⟩

def negotiated (kind : TransportKind) (maxRequestBytes bufferBytes : UInt8) :
    Except PrepareError TransportLimits :=
  if bad : ¬(8 ≤ bufferBytes.toNat ∧ bufferBytes.toNat ≤ 32) ∨
      maxRequestBytes.toNat < bufferBytes.toNat ∨ 32 < maxRequestBytes.toNat then
    .error .invalidTransport
  else
    .ok ⟨kind, maxRequestBytes, some bufferBytes, by
      rw [not_or, not_or, not_not] at bad
      refine ⟨by omega, by omega, fun buffer same => ?_⟩
      rw [← Option.some.inj same]
      omega⟩

def overhead : DownloadMode → Nat
  | .address => 6
  | .sequence => 4

def capacity (limits : TransportLimits) (mode : DownloadMode) : Nat :=
  min (limits.negotiatedBufferBytes.getD 32).toNat limits.maxRequestBytes.toNat - overhead mode

def check (limits : TransportLimits) (target : FwumTarget) : Except PrepareError Unit :=
  if limits.maxRequestBytes < 8 ∨
      decide (limits.kind = .bridged) ≠ target.address.isSome then .error .invalidTransport
  else .ok ()

/-- There is always room for a byte. -/
theorem capacity_pos (limits : TransportLimits) (mode : DownloadMode) :
    0 < limits.capacity mode := by
  obtain ⟨kind, most, buffer, low, _, inside⟩ := limits
  have wide : 8 ≤ (buffer.getD 32).toNat := by
    cases buffer with
    | none => decide
    | some buffer => exact (inside buffer rfl).1
  have small : overhead mode ≤ 6 := by cases mode <;> decide
  simp only [capacity]
  omega

end TransportLimits

inductive MutationOutcome where
  | notSent
  | rejected
  | unknown
  deriving DecidableEq

structure MutationError (ε : Type) where
  action : UpdateAction
  outcome : MutationOutcome
  error : OemError ε FwumParseError
  deriving DecidableEq

inductive UpdatePhase where
  | prepared
  | uploading (bank : UInt8) (confirmedBytes : Nat)
  | staged (bank : UInt8)
  | activationRequested (bank : UInt8)
  | activated (bank : UInt8)
  | rollbackRequested (bank : UInt8)
  | rolledBack (bank : UInt8)
  | interrupted
  deriving DecidableEq

structure UploadProgress where
  confirmedBytes : Nat
  totalBytes : Nat
  bank : UInt8
  deriving DecidableEq

inductive UpdateCause (ε : Type) where
  | preflight (error : PrepareError)
  | mutation (error : MutationError ε)
  | read (error : FwumReadError ε)
  | verification
  | operatorInterrupted
  | cleanup
  | invalidPhase
  | pending
  deriving DecidableEq

structure UpdateError (ε : Type) where
  phase : UpdatePhase
  confirmedBytes : Nat
  cause : UpdateCause ε
  cleanup : List (MutationError ε)
  deriving DecidableEq

variable {ε : Type}

/-- `mutation`: whether the device rejected, may have acted, or was not asked. -/
def mutation (action : UpdateAction) (error : OemError ε FwumParseError) : MutationError ε :=
  { action, error
    outcome :=
      match error with
      | .identity _ => .notSent
      | .unsupportedDevice .. => .notSent
      | .command (.failed ..) => .rejected
      | .command (.command _ _ _ (some _) _) => .rejected
      | _ => .unknown }

/-- What a session never changes. -/
structure UpdatePlan where
  image : FirmwareImage
  target : FwumTarget
  limits : TransportLimits
  mode : DownloadMode
  oldGoodBank : UInt8
  oldGood : BankStatus
  baselineCount : UInt8
  baselineInfo : Info
  baselineBanks : List BankStatus

/-- A single update, with the link it has to itself. The buffer armed last is
the first of those armed. -/
structure UpdateSession (ε : Type) extends UpdatePlan where
  link : Link ε
  phase : UpdatePhase
  confirmedBytes : Nat
  armedBuffers : List (FwumTarget × BufferChannel)

/-! ### Preparation -/

/-- The checks of a preparation that need no device. -/
def checkPlan (target : FwumTarget) (image : FirmwareImage) (authorization : UpdateAuthorization) :
    Except PrepareError Unit :=
  let recovery := authorization.recoveryImage
  if image.bytes = recovery.bytes then .error .recoveryNotAlternative
  else if target.productId = 0 ∨ image.iana ≠ 15000 ∨ image.iana ≠ recovery.iana ∨
      image.boardId ≠ target.productId ∨ recovery.boardId ≠ target.productId ∨
      image.deviceId ≠ recovery.deviceId then .error .imageTargetMismatch
  else .ok ()

/-- The bank to keep: the only one known good, of at least two. -/
def rollbackBank (banks : List BankStatus) : Except PrepareError UInt8 :=
  if banks.any fun bank => bank.state = .newFirmware ∨ bank.state = .waitingForValidation then
    .error .existingUpdate
  else
    match banks.findIdx? (·.state = .lastKnownGood) with
    | none => .error .noRollbackBank
    | some index =>
      if banks.length < 2 ∨ banks.countP (·.state = .lastKnownGood) ≠ 1 ∨
          (banks[index]?.map (·.length)) = some 0 then .error .noRollbackBank
      else .ok (UInt8.ofNat index)

/-- A failure before anything was written. -/
def unprepared (cause : UpdateCause ε) : UpdateError ε := ⟨.prepared, 0, cause, []⟩

/-- A check of a preparation. -/
def preflight {α : Type} (result : Except PrepareError α) : OverLink ε (UpdateError ε) α :=
  match result with
  | .ok value => return value
  | .error error => throw (unprepared (.preflight error))

/-- `fwum_prepare_update`, over a connection that does or does not support
long mutation workflows. -/
def fwumPrepareUpdate (supportsLongMutationWorkflows : Bool) (target : FwumTarget)
    (bytes : List UInt8) (authorization : UpdateAuthorization) (limits : TransportLimits) :
    OverLink ε (UpdateError ε) (UpdateSession ε) := do
  if blank authorization.maintenanceWindow ∨ blank authorization.interruptionPlan ∨
      blank authorization.rollbackPlan then
    throw (unprepared (.preflight .missingProcedure))
  else
    let image ← preflight ((FirmwareImage.parse bytes).mapError .image)
    preflight (checkPlan target image authorization)
    preflight (limits.check target)
    if ¬supportsLongMutationWorkflows then
      throw (unprepared (.preflight .unsupportedLongTransferTransport))
    else
      let baseline ← ExceptT.adapt (unprepared ∘ .read) (fwumBanks target)
      if image.deviceId ≠ baseline.inventory.device.deviceId then
        throw (unprepared (.preflight .imageTargetMismatch))
      else
        let oldGoodBank ← preflight (rollbackBank baseline.banks)
        let link ← get
        return {
          link, image, target, limits, oldGoodBank
          mode := if baseline.inventory.firmware.sequenceFormat then .sequence else .address
          oldGood := baseline.banks[oldGoodBank.toNat]?.getD ⟨.empty, 0, revision 0 0 none⟩
          baselineCount := baseline.inventory.firmware.bankCount
          baselineInfo := baseline.inventory.firmware
          baselineBanks := baseline.banks
          phase := .prepared
          confirmedBytes := 0
          armedBuffers := [] }

/-! ### Session -/

/-- A method of a session that fails with `γ`. -/
abbrev InSession (ε γ α : Type) := Stateful (UpdateSession ε) γ α

/-- The progress callback, from all it was shown to whether to go on. -/
abbrev OnProgress := List UploadProgress → Bool

namespace UpdateSession
variable {γ α : Type}

/-- What is done over the link of the session. -/
def onLink (x : OverLink ε γ α) : InSession ε γ α :=
  x.zoom UpdateSession.link fun link s => { s with link }

/-- `Err(self.error(cause, Vec::new()))` -/
def refuse (cause : UpdateCause ε) : InSession ε (UpdateError ε) α := do
  let s ← get
  throw ⟨s.phase, s.confirmedBytes, cause, []⟩

/-- `write`: one mutation, sent once. -/
def write (command : OemCommand α FwumParseError) (action : UpdateAction) :
    InSession ε (MutationError ε) α :=
  ExceptT.adapt (mutation action) (onLink (sendOem command))

/-- `set_buffer`: a buffer that may have been set is one to clear. -/
def setBuffer (target : FwumTarget) (channel : BufferChannel) (size : UInt8) :
    InSession ε (MutationError ε) Unit := do
  match ← (write (setChannelBuffer target channel size) .setBuffer).attempt with
  | .ok () => modify fun s => { s with armedBuffers := (target, channel) :: s.armedBuffers }
  | .error error =>
    if error.outcome = .unknown then
      modify fun s => { s with armedBuffers := (target, channel) :: s.armedBuffers }
      throw error
    else throw error

/-- The controller a bridged target is reached through, or the target. -/
def localTarget : InSession ε (UpdateCause ε) FwumTarget := do
  let s ← get
  if s.target.address.isSome then
    let device ← ExceptT.adapt (.read ∘ .device) (onLink (sendRecv (targetDeviceId none)))
    if device.manufacturerId ≠ 15000 ∨ device.productId = 0 ∨ ¬device.deviceAvailable then
      throw (.read (.unsupportedDevice device.manufacturerId device.productId))
    else return ⟨none, device.productId⟩
  else return s.target

def setupBuffers : InSession ε (UpdateCause ε) Unit := do
  let s ← get
  match s.limits.negotiatedBufferBytes with
  | none => return
  | some size =>
    let controller ← localTarget
    ExceptT.adapt .mutation (setBuffer controller .current size)
    if s.target.address.isSome then
      ExceptT.adapt .mutation (setBuffer controller .ipmb size)
      ExceptT.adapt .mutation (setBuffer s.target .current size)
    else return

/-- The loop of `clear_buffers`, over the buffers still armed. -/
def clearArmed : List (FwumTarget × BufferChannel) → InSession ε γ (List (MutationError ε))
  | [] => return []
  | (target, channel) :: rest => do
    modify fun s => { s with armedBuffers := rest }
    match ← (write (setChannelBuffer target channel 0) .clearBuffer).attempt with
    | .ok () => clearArmed rest
    | .error error => return error :: (← clearArmed rest)

def clearBuffers : InSession ε γ (List (MutationError ε)) := do
  let s ← get
  clearArmed s.armedBuffers

/-- `Err(self.stop(cause))`: nothing may be written from here on but the
cleanup of the buffers. -/
def stop (cause : UpdateCause ε) : InSession ε (UpdateError ε) α := do
  modify fun s => { s with phase := .interrupted }
  let cleanup ← clearBuffers
  let s ← get
  throw ⟨s.phase, s.confirmedBytes, cause, cleanup⟩

/-- Go on with what `x` returns; stop at a failure of it. -/
def orStop (cause : γ → UpdateCause ε) (x : InSession ε γ α) : InSession ε (UpdateError ε) α := do
  match ← x.attempt with
  | .ok value => return value
  | .error error => stop (cause error)

/-- Go on with what `x` returns; a failure of it changes nothing. -/
def orRefuse (cause : γ → UpdateCause ε) (x : InSession ε γ α) : InSession ε (UpdateError ε) α := do
  match ← x.attempt with
  | .ok value => return value
  | .error error => refuse (cause error)

/-- A bank is in a state, with the length and revision of an earlier status. -/
def holds (status : BankInventory) (bank : UInt8) (state : BankState) (length : Nat)
    (revision : Revision) : Bool :=
  status.banks[bank.toNat]?.any fun value =>
    value.state = state ∧ value.length.toNat = length ∧ value.revision = revision

def oldBankMatches (s : UpdateSession ε) (status : BankInventory) (expected : BankState) : Bool :=
  status.inventory.firmware.bankCount == s.baselineCount &&
    holds status s.oldGoodBank expected s.oldGood.length.toNat s.oldGood.revision

/-- The bank holds the image, in a state. -/
def imageMatches (s : UpdateSession ε) (status : BankInventory) (bank : UInt8)
    (expected : BankState) : Bool :=
  holds status bank expected s.image.len s.image.revision

def verifyStaged (bank : UInt8) : InSession ε (FwumReadError ε) Bool := do
  let s ← get
  let status ← onLink (fwumBanks s.target)
  return s.oldBankMatches status .lastKnownGood && s.imageMatches status bank .newFirmware

/-- Stop unless the staged bank can be read as such. -/
def requireStaged (bank : UInt8) : InSession ε (UpdateError ε) Unit := do
  let staged ← orStop .read (verifyStaged bank)
  if staged then return else stop .verification

/-- `on_progress`, with what it has been shown so far. -/
def report (onProgress : OnProgress) (shown : List UploadProgress) (progress : UploadProgress) :
    InSession ε (UpdateError ε) (List UploadProgress) :=
  if onProgress (shown ++ [progress]) then return shown ++ [progress]
  else stop .operatorInterrupted

/-- How many bytes the next Save Image carries. -/
def nextCount (s : UpdateSession ε) : Nat :=
  let pageRemaining := 256 - s.confirmedBytes % 256
  min (min (s.limits.capacity s.mode) pageRemaining) (s.image.len - s.confirmedBytes)

/-- The bytes the next Save Image carries. -/
def nextPart (s : UpdateSession ε) : List UInt8 :=
  (s.image.bytes.drop s.confirmedBytes).take s.nextCount

/-- One Save Image, and what it confirms. -/
def saveNext (bank sequence : UInt8) : InSession ε (UpdateError ε) Unit := do
  let s ← get
  orStop .mutation
    (write (saveImage s.target (UInt32.ofNat s.confirmedBytes) sequence s.nextPart s.mode) .saveImage)
  modify fun after =>
    { after with
      confirmedBytes := s.confirmedBytes + s.nextCount
      phase := .uploading bank (s.confirmedBytes + s.nextCount) }

/-- The upload loop, for at most so many turns. -/
def saveImages (onProgress : OnProgress) (bank : UInt8) :
    Nat → UInt8 → List UploadProgress → InSession ε (UpdateError ε) Unit
  | 0, _, _ => return
  | turns + 1, sequence, shown => do
    let s ← get
    if s.confirmedBytes < s.image.len then
      saveNext bank sequence
      let s ← get
      let shown ← report onProgress shown ⟨s.confirmedBytes, s.image.len, bank⟩
      saveImages onProgress bank turns (sequence + 1) shown
    else return

/-- `stage`, up to the bank Start Image selects. -/
def selectBank : InSession ε (UpdateError ε) UInt8 := do
  let s ← get
  let fresh ← orStop .read (onLink (fwumBanks s.target))
  if fresh.inventory.firmware ≠ s.baselineInfo ∨ fresh.banks ≠ s.baselineBanks then
    stop .verification
  else
    orStop id setupBuffers
    let bank ← orStop .mutation
      (write (startImage s.target (UInt32.ofNat s.image.len) s.image.padding s.mode) .startImage)
    if s.baselineCount ≤ bank ∨ bank = s.oldGoodBank then stop .verification
    else
      modify fun s => { s with phase := .uploading bank 0 }
      return bank

/-- `stage`, from the end of the upload on. -/
def finish (bank : UInt8) : InSession ε (UpdateError ε) Unit := do
  let s ← get
  orStop .mutation (write (finishImage s.target s.image.revision) .finishImage)
  requireStaged bank
  let cleanup ← clearBuffers
  if cleanup.isEmpty then modify fun s => { s with phase := .staged bank }
  else
    modify fun s => { s with phase := .interrupted }
    let s ← get
    throw ⟨s.phase, s.confirmedBytes, .cleanup, cleanup⟩

def stage (onProgress : OnProgress) : InSession ε (UpdateError ε) UInt8 := do
  let s ← get
  if s.phase ≠ .prepared then refuse .invalidPhase
  else
    let bank ← selectBank
    let shown ← report onProgress [] ⟨0, s.image.len, bank⟩
    saveImages onProgress bank s.image.len 0 shown
    finish bank
    return bank

def activate : InSession ε (UpdateError ε) Unit := do
  let s ← get
  match s.phase with
  | .staged bank =>
    requireStaged bank
    orStop .mutation (write (startUpdate s.target) .activate)
    modify fun s => { s with phase := .activationRequested bank }
  | _ => refuse .invalidPhase

def verifyActivation : InSession ε (UpdateError ε) Unit := do
  let s ← get
  match s.phase with
  | .activationRequested bank =>
    let status ← orRefuse .read (onLink (fwumBanks s.target))
    let newBankIsGood := s.imageMatches status bank .lastKnownGood
    if newBankIsGood && s.oldBankMatches status .previousGood then
      modify fun s => { s with phase := .activated bank }
    else if newBankIsGood then stop .verification
    else refuse .pending
  | _ => refuse .invalidPhase

def rollback : InSession ε (UpdateError ε) Unit := do
  let s ← get
  match s.phase with
  | .activated bank =>
    let status ← orRefuse .read (onLink (fwumBanks s.target))
    if !s.oldBankMatches status .previousGood || !s.imageMatches status bank .lastKnownGood then
      stop .verification
    else
      orStop .mutation (write (manualRollback s.target) .rollback)
      modify fun s => { s with phase := .rollbackRequested bank }
  | _ => refuse .invalidPhase

def verifyRollback : InSession ε (UpdateError ε) Unit := do
  let s ← get
  match s.phase with
  | .rollbackRequested bank =>
    let status ← orRefuse .read (onLink (fwumBanks s.target))
    if holds status s.oldGoodBank .lastKnownGood s.oldGood.length.toNat s.oldGood.revision &&
        status.banks[bank.toNat]?.any (fun value => value.state ≠ .lastKnownGood) then
      modify fun s => { s with phase := .rolledBack bank }
    else refuse .pending
  | _ => refuse .invalidPhase

def inspect : InSession ε (FwumReadError ε) BankInventory := do
  let s ← get
  onLink (fwumBanks s.target)

/-- A call of one method of the session. -/
inductive Call where
  | stage (onProgress : OnProgress)
  | activate
  | verifyActivation
  | rollback
  | verifyRollback
  | inspect

/-- What a call does; what it returns is not kept. -/
def Call.run : Call → InSession ε (UpdateError ε) Unit
  | .stage onProgress => do let _ ← UpdateSession.stage onProgress; return
  | .activate => UpdateSession.activate
  | .verifyActivation => UpdateSession.verifyActivation
  | .rollback => UpdateSession.rollback
  | .verifyRollback => UpdateSession.verifyRollback
  | .inspect => do let _ ← UpdateSession.inspect.attempt; return

/-- A call on a session: whether it failed, and the session it leaves. -/
def step (s : UpdateSession ε) (call : Call) : Except (UpdateError ε) Unit × UpdateSession ε :=
  call.run.eval s

end UpdateSession
end IpmiRs.Fwum
