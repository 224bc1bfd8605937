import IpmiRs.App.DeviceId
import IpmiRs.Hpm.Package
import IpmiRs.Library.Chunks

/-! `Updater` of `hpm/update.rs`. Its methods may stop with an error at any
point and keep the state they reached; the progress callback of an upload
answers from all the states it was shown. -/
namespace IpmiRs.Hpm
open Connection App Library.Bytes Library.Chunks

structure TargetCapabilities where
  upgradeUndesirable : Bool
  servicesAffected : Bool
  manualRollback : Bool
  components : UInt8
  deriving DecidableEq

structure GeneralProperties where
  rollbackBackup : UInt8
  preparation : Bool
  deriving DecidableEq

structure ComponentInventory where
  id : ComponentId
  general : GeneralProperties
  deriving DecidableEq

structure Inventory where
  device : DeviceId
  capabilities : TargetCapabilities
  components : List ComponentInventory
  deriving DecidableEq

inductive Phase where
  | prepared
  | uploading
  | uploaded
  | activationAcknowledged
  | rollbackAcknowledged
  deriving DecidableEq

inductive Operation where
  | initiate (action : UpgradeAction) (components : UInt8)
  | upload (block : UInt8) (offset : UInt32) (length : UInt8)
  | finish (component : ComponentId)
  | activate
  | rollback
  deriving DecidableEq

structure TransferState where
  phase : Phase
  actionIndex : Nat
  component : Option ComponentId
  confirmedBytes : UInt32
  totalBytes : UInt32
  finishedImages : Nat
  uncertain : Option Operation
  deriving DecidableEq

structure UpdateOptions where
  chunkSize : UInt8
  maxBlocks : UInt32
  allowServiceDisruption : Bool
  deriving DecidableEq

inductive UpdateError (ε : Type) where
  | incompatible (reason : String)
  | limit
  | invalidState (state : TransferState)
  | cancelled (state : TransferState)
  | unsupportedSection (state : TransferState)
  | uncertain (state : TransferState) (source : IpmiError ε HpmResponseError)
  | read (error : IpmiError ε HpmResponseError)
  deriving DecidableEq

/-- The updater, with the connection it holds. Its block size was checked. -/
structure Updater (ε : Type) where
  link : Link ε
  package : Package
  inventory : Inventory
  options : UpdateOptions
  state : TransferState
  bounded : 0 < options.chunkSize.toNat ∧ options.chunkSize.toNat ≤ 23

namespace Updater
variable {ε : Type}

/-- What `new` requires of one action, with the number of blocks so far. -/
def checkAction (inventory : Inventory) (options : UpdateOptions) (blocks : UInt32) :
    PackageAction → Except (UpdateError ε) UInt32
  | .backup mask =>
    if inventory.components.all fun component =>
        mask.bits &&& component.id.bit == 0 || component.general.rollbackBackup != 0 then .ok blocks
    else .error (.incompatible "backup or prepare unsupported by component")
  | .prepare mask =>
    if inventory.components.all fun component =>
        mask.bits &&& component.id.bit == 0 || component.general.preparation then .ok blocks
    else .error (.incompatible "backup or prepare unsupported by component")
  | .upload component _ _ data =>
    if inventory.components.all fun found => found.id != component then
      .error (.incompatible "component inventory missing")
    else
      let count := UInt32.ofNat (divCeil data.length options.chunkSize.toNat)
      if 2 ^ 32 ≤ blocks.toNat + count.toNat then .error .limit
      else if options.maxBlocks < blocks + count then .error .limit
      else .ok (blocks + count)

/-- The state nothing has been written in. -/
def initial : TransferState where
  phase := .prepared
  actionIndex := 0
  component := none
  confirmedBytes := 0
  totalBytes := 0
  finishedImages := 0
  uncertain := none

/-- The compatibility checks of `new`, before the transfer limits. -/
def compatible (package : Package) (inventory : Inventory) (options : UpdateOptions) :
    Except (UpdateError ε) Unit :=
  let h := package.header
  let d := inventory.device
  let caps := inventory.capabilities
  let major := h.earliestRevision[0]
  let minor := h.earliestRevision[1]
  if h.deviceId ≠ d.deviceId ∨ UInt32.ofNat (ofLe h.manufacturer.toList) ≠ d.manufacturerId ∨
      h.product ≠ d.productId then
    .error (.incompatible "device/manufacturer/product mismatch")
  else if (9 : UInt8) < minor >>> 4 ∨ (9 : UInt8) < minor &&& 0x0F then
    .error (.incompatible "invalid BCD compatible revision")
  else
    let minor := (minor >>> 4) * 10 + (minor &&& 0x0F)
    if d.majorFwRevision < major ∨ (major = d.majorFwRevision ∧ d.minorFwRevision < minor) then
      .error (.incompatible "device firmware is too old")
    else if caps.upgradeUndesirable then
      .error (.incompatible "upgrade is currently undesirable")
    else if h.components.bits &&& ~~~caps.components ≠ 0 then
      .error (.incompatible "component absent from target")
    else if (caps.servicesAffected ∨ h.capabilities &&& 0x10 ≠ 0) ∧
        ¬options.allowServiceDisruption then
      .error (.incompatible "service disruption not acknowledged")
    else .ok ()

/-- `new`. -/
def new (link : Link ε) (package : Package) (inventory : Inventory) (options : UpdateOptions) :
    Except (UpdateError ε) (Updater ε) :=
  match compatible package inventory options with
  | .error error => .error error
  | .ok () =>
    if bounded : 0 < options.chunkSize.toNat ∧ options.chunkSize.toNat ≤ 23 then
      if options.maxBlocks = 0 then .error .limit
      else
        match package.actions.foldlM (checkAction inventory options) 0 with
        | .error error => .error error
        | .ok _ => .ok ⟨link, package, inventory, options, initial, bounded⟩
    else .error .limit

end Updater

/-- A method of the updater: it ends with a result or an error, and in either
case with the state it reached. -/
abbrev UpdateM (ε : Type) := ExceptT (UpdateError ε) (StateM (Updater ε))

/-- The callback of an upload, from the states it was shown to whether the
upload goes on. -/
abbrev Progress := List TransferState → Bool

namespace Updater
variable {ε : Type}

def modifyState (f : TransferState → TransferState) : UpdateM ε Unit :=
  modify fun s => { s with state := f s.state }

def sendRecv {α β : Type} (command : IpmiCommand α β) : UpdateM ε (Except (IpmiError ε β) α) :=
  modifyGet fun s =>
    ((s.link.sendRecv command).1, { s with link := (s.link.sendRecv command).2 })

/-- `send_write`: the operation stays uncertain until its reply is validated. -/
def sendWrite (operation : Operation) (command : IpmiCommand Unit HpmResponseError) :
    UpdateM ε Unit := do
  modifyState fun state =>
    { state with phase := if state.phase = .prepared then .uploading else state.phase }
  modifyState ({ · with uncertain := some operation })
  match ← sendRecv command with
  | .ok () => modifyState ({ · with uncertain := none })
  | .error source => throw (.uncertain (← get).state source)

/-- `checkpoint`, with the states the callback has been shown. -/
def checkpoint (progress : Progress) (shown : List TransferState) :
    UpdateM ε (List TransferState) := do
  let s ← get
  if progress (shown ++ [s.state]) then return shown ++ [s.state]
  else throw (.cancelled s.state)

/-- Whether following a section directive would skip or resend bytes. -/
def redirects (state : TransferState) : Option (UInt32 × UInt32) → Bool
  | none => false
  | some (offset, length) =>
    !(offset == 0 && length == 0) &&
      (offset != state.confirmedBytes || length != state.totalBytes - state.confirmedBytes)

/-- Send one block; its bytes are confirmed once its reply is validated. -/
def sendBlock (block : UploadFirmwareBlock) : UpdateM ε UploadAcknowledgement := do
  modifyState fun state =>
    { state with
      uncertain := some (.upload block.number state.confirmedBytes (UInt8.ofNat block.data.length)) }
  match ← sendRecv block.command with
  | .error source => throw (.uncertain (← get).state source)
  | .ok acknowledgement =>
    modifyState fun state =>
      { state with
        uncertain := none
        confirmedBytes := state.confirmedBytes + UInt32.ofNat block.data.length }
    return acknowledgement

/-- One block of an image, from its checkpoint to the one after it. -/
def uploadBlock (progress : Progress) (shown : List TransferState) (block : UploadFirmwareBlock) :
    UpdateM ε (List TransferState) := do
  let shown ← checkpoint progress shown
  let acknowledgement ← sendBlock block
  let s ← get
  if redirects s.state acknowledgement.nextSection then throw (.unsupportedSection s.state)
  checkpoint progress shown

def uploadBlocks (progress : Progress) :
    List TransferState → List UploadFirmwareBlock → UpdateM ε (List TransferState)
  | shown, [] => return shown
  | shown, block :: rest => do
    let shown ← uploadBlock progress shown block
    uploadBlocks progress shown rest

/-- The blocks of an image, numbered from zero and wrapping after 255. -/
def blocks (size : Nat) (bounded : 0 < size ∧ size ≤ 23) (data : List UInt8) :
    List UploadFirmwareBlock :=
  (chunks size data).attach.zipIdx.map fun (chunk, index) =>
    ⟨UInt8.ofNat index, chunk.1, by
      have length := length_of_mem_chunks bounded.1 chunk.2
      exact ⟨List.ne_nil_of_length_pos length.1, by omega⟩⟩

/-- Every block of an image. -/
def uploadData (progress : Progress) (shown : List TransferState) (data : List UInt8) :
    UpdateM ε (List TransferState) := do
  let s ← get
  uploadBlocks progress shown (blocks s.options.chunkSize.toNat s.bounded data)

/-- Finish an image at the length that was confirmed. -/
def finishImage (component : ComponentId) : UpdateM ε Unit := do
  let s ← get
  sendWrite (.finish component) (finishFirmwareUpload component s.state.confirmedBytes)
  modifyState fun state => { state with finishedImages := state.finishedImages + 1 }

/-- Upload one image, whose component is now the one in hand. -/
def uploadImage (progress : Progress) (shown : List TransferState) (component : ComponentId)
    (data : List UInt8) : UpdateM ε (List TransferState) := do
  modifyState fun state =>
    { state with
      component := some component
      confirmedBytes := 0
      totalBytes := UInt32.ofNat data.length }
  let shown ← checkpoint progress shown
  sendWrite (.initiate .upgrade component.bit) (initiateUpgradeAction component.mask .upgrade)
  let shown ← uploadData progress shown data
  let shown ← checkpoint progress shown
  finishImage component
  return shown

def runAction (progress : Progress) (shown : List TransferState) :
    PackageAction → UpdateM ε (List TransferState)
  | .backup mask => do
    let shown ← checkpoint progress shown
    sendWrite (.initiate .backup mask.bits) (initiateUpgradeAction mask .backup)
    return shown
  | .prepare mask => do
    let shown ← checkpoint progress shown
    sendWrite (.initiate .prepare mask.bits) (initiateUpgradeAction mask .prepare)
    return shown
  | .upload component _ _ data => uploadImage progress shown component data

/-- After the last action, the package is uploaded. -/
def endAction (index : Nat) : UpdateM ε Unit := do
  let s ← get
  if index + 1 = s.package.actions.length then modifyState ({ · with phase := .uploaded })

/-- The actions from `index` on. -/
def runActions (progress : Progress) :
    List TransferState → Nat → List PackageAction → UpdateM ε (List TransferState)
  | shown, _, [] => return shown
  | shown, index, action :: rest => do
    modifyState ({ · with actionIndex := index })
    let shown ← runAction progress shown action
    endAction index
    let shown ← checkpoint progress shown
    runActions progress shown (index + 1) rest

def upload (progress : Progress) : UpdateM ε TransferState := do
  let s ← get
  if s.state.phase ≠ .prepared ∨ s.state.uncertain.isSome then throw (.invalidState s.state)
  let shown ← checkpoint progress []
  let _ ← runActions progress shown 0 s.package.actions
  modifyState ({ · with phase := .uploaded })
  return (← get).state

def activate : UpdateM ε TransferState := do
  let s ← get
  if s.state.phase ≠ .uploaded ∨ s.state.uncertain.isSome then throw (.invalidState s.state)
  sendWrite .activate activateFirmware
  modifyState ({ · with phase := .activationAcknowledged })
  return (← get).state

def rollback : UpdateM ε TransferState := do
  let s ← get
  if s.state.uncertain.isSome ∨ s.state.phase = .rollbackAcknowledged then
    throw (.invalidState s.state)
  if !s.inventory.capabilities.manualRollback then
    throw (.incompatible "manual rollback unsupported")
  sendWrite .rollback manualFirmwareRollback
  modifyState ({ · with phase := .rollbackAcknowledged })
  return (← get).state

/-- `upgrade_status`, `rollback_status` and `self_test_result`: one read. -/
def readStatus {α : Type} (command : IpmiCommand α HpmResponseError) : UpdateM ε α := do
  match ← sendRecv command with
  | .ok status => return status
  | .error error => throw (.read error)

def upgradeStatus : UpdateM ε UpgradeStatus := readStatus getUpgradeStatus
def rollbackStatus : UpdateM ε RollbackStatus := readStatus queryRollbackStatus
def selfTestResult : UpdateM ε SelfTestResult := readStatus querySelfTestResult

/-- A call of one method of the updater. -/
inductive Call where
  | upload (progress : Progress)
  | activate
  | rollback
  | upgradeStatus
  | rollbackStatus
  | selfTestResult

/-- What a call does; its result is not kept. -/
def Call.run : Call → UpdateM ε Unit
  | .upload progress => do let _ ← Updater.upload progress; return
  | .activate => do let _ ← Updater.activate; return
  | .rollback => do let _ ← Updater.rollback; return
  | .upgradeStatus => do let _ ← Updater.upgradeStatus; return
  | .rollbackStatus => do let _ ← Updater.rollbackStatus; return
  | .selfTestResult => do let _ ← Updater.selfTestResult; return

/-- A call on an updater: whether it failed, and the updater it leaves. -/
def step (s : Updater ε) (call : Call) : Except (UpdateError ε) Unit × Updater ε :=
  call.run.run.run s

end Updater
end IpmiRs.Hpm
