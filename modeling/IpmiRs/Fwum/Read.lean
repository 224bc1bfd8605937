import IpmiRs.Fwum.Commands
import IpmiRs.OemExchanges

/-! Checked reads of the firmware update manager, `fwum.rs`. What is done over
a link is told from the exchanges it made: a value read is the answer to a
request that was sent, and a read sends nothing that changes a device. -/
namespace IpmiRs.Fwum
open Connection App Library Library.Stateful OverLink

structure Inventory where
  device : DeviceId
  firmware : Info
  kontron5002SdrRevision : Option UInt8
  deriving DecidableEq

structure BankInventory where
  inventory : Inventory
  banks : List BankStatus
  deriving DecidableEq

inductive FwumReadError (ε : Type) where
  | device (error : IpmiError ε NotEnoughData)
  | unsupportedDevice (manufacturer : UInt32) (product : UInt16)
  | controllerMismatch (deviceId firmwareDeviceId : UInt8)
  | bankLimit (count : UInt8)
  | command (error : OemError ε FwumParseError)
  deriving DecidableEq

variable {ε : Type}

def retryable {β : Type} : IpmiError ε β → Bool
  | .connection _ => true
  | .failed _ _ .nodeBusy _ => true
  | _ => false

def retryOem {β : Type} : OemError ε β → Bool
  | .identity error => retryable error
  | .command error => retryable error
  | .unsupportedDevice .. => false

/-- An attempt, and up to `more` others after failures worth another. -/
def retried {σ γ α : Type} (retry : γ → Bool) (x : Stateful σ γ α) : Nat → Stateful σ γ α
  | 0 => x
  | more + 1 => do
    match ← x.attempt with
    | .ok value => return value
    | .error error => if retry error then retried retry x more else throw error

/-- `fwum_read`: only reads are sent again. -/
def fwumRead {α : Type} (command : OemCommand α FwumParseError) :
    OverLink ε (OemError ε FwumParseError) α :=
  retried retryOem (sendOem command) 2

def fwumInventory (target : FwumTarget) : OverLink ε (FwumReadError ε) Inventory := do
  let device ← ExceptT.adapt .device
    (retried retryable (sendRecv (targetDeviceId target.address)) 2)
  if device.manufacturerId ≠ 15000 ∨ target.productId = 0 ∨ device.productId ≠ target.productId ∨
      ¬device.deviceAvailable then
    throw (.unsupportedDevice device.manufacturerId device.productId)
  else
    let firmware ← ExceptT.adapt .command (fwumRead (getInfo target))
    if firmware.controllerDeviceId ≠ device.deviceId then
      throw (.controllerMismatch device.deviceId firmware.controllerDeviceId)
    else if firmware.bankCount = 0 ∨ MAX_BANKS < firmware.bankCount then
      throw (.bankLimit firmware.bankCount)
    else
      return ⟨device, firmware,
        if device.productId = 5002 then device.auxRevision.map (·[0]!) else none⟩

/-- The statuses of some banks, in order. -/
def readBanks (target : FwumTarget) : List UInt8 → OverLink ε (FwumReadError ε) (List BankStatus)
  | [] => return []
  | bank :: rest => do
    let status ← ExceptT.adapt .command (fwumRead (getStatus target bank))
    return status :: (← readBanks target rest)

/-- The numbers of the banks there are. -/
def bankNumbers (count : UInt8) : List UInt8 := (List.range count.toNat).map UInt8.ofNat

def fwumBanks (target : FwumTarget) : OverLink ε (FwumReadError ε) BankInventory := do
  let inventory ← fwumInventory target
  let banks ← readBanks target (bankNumbers inventory.firmware.bankCount)
  return ⟨inventory, banks⟩

/-! ### What was exchanged -/

inductive UpdateAction where
  | setBuffer
  | clearBuffer
  | startImage
  | saveImage
  | finishImage
  | activate
  | rollback
  deriving DecidableEq

/-- The action a command of the manager is, if it is one that changes a device. -/
def UpdateAction.ofCommand (cmd : UInt8) : Option UpdateAction :=
  match cmd.toNat with
  | 0x0A => some .startImage
  | 0x0B => some .saveImage
  | 0x0C => some .finishImage
  | 0x09 => some .activate
  | 0x0E => some .rollback
  | _ => none

/-- The action a request is, if it is one that changes a device. -/
def UpdateAction.ofRequest (request : Request) : Option UpdateAction :=
  if request.netfnRaw = 0x08 then UpdateAction.ofCommand request.cmd
  else if request.netfnRaw = 0x3E ∧ request.cmd = 0x82 then
    if request.data[1]! = 0 then some .clearBuffer else some .setBuffer
  else none

/-- Among some exchanges, a command was answered with a value. -/
def Answered {α β : Type} (command : IpmiCommand α β) (value : α) (log : List (Exchange ε)) : Prop :=
  ∃ exchange ∈ log, exchange.request = command.request ∧
    (command.readReply exchange.reply : Except (IpmiError ε β) α) = .ok value

theorem Answered.mono {α β : Type} {command : IpmiCommand α β} {value : α}
    {log more : List (Exchange ε)} (answered : Answered command value log) (sub : log ⊆ more) :
    Answered command value more := by
  obtain ⟨exchange, member, same, read⟩ := answered
  exact ⟨exchange, sub member, same, read⟩

/-- From one link to another, and nothing sent that changes a device. -/
structure ReadOnly (start link : Link ε) : Prop where
  extended : start.Extends link
  quiet : ∀ exchange ∈ link.since start, UpdateAction.ofRequest exchange.request = none

variable {start mid link : Link ε}

theorem ReadOnly.refl (link : Link ε) : ReadOnly link link :=
  ⟨.refl link, by simp [Link.since_self]⟩

theorem ReadOnly.trans (first : ReadOnly start mid) (second : ReadOnly mid link) :
    ReadOnly start link where
  extended := first.extended.trans second.extended
  quiet exchange member := by
    rw [Link.since_trans first.extended second.extended] at member
    rcases List.mem_append.mp member with earlier | later
    · exact first.quiet exchange earlier
    · exact second.quiet exchange later

theorem since_subset_left (first : start.Extends mid) (second : mid.Extends link) :
    mid.since start ⊆ link.since start := by
  rw [Link.since_trans first second]
  exact List.subset_append_left _ _

theorem since_subset_right (first : start.Extends mid) (second : mid.Extends link) :
    link.since mid ⊆ link.since start := by
  rw [Link.since_trans first second]
  exact List.subset_append_right _ _

section specifications
variable {α β γ : Type}

/-- A command that changes nothing is a read. -/
theorem sendRecv_ends (command : IpmiCommand α β) (link : Link ε)
    (quiet : UpdateAction.ofRequest command.request = none) :
    Ends (sendRecv command) link
      (fun value after => ReadOnly link after ∧ Answered command value (after.since link))
      (fun _ after => ReadOnly link after) := by
  have read : ReadOnly link (link.sendRecv command).2 := by
    refine ⟨.sendRecv (.refl link) command, fun one member => ?_⟩
    rw [since_sendRecv_self, List.mem_singleton] at member
    rw [member]
    exact quiet
  refine Ends.call (fun value returned => ⟨read, exchange link command, ?_, rfl, ?_⟩)
    (fun _ _ => read)
  · rw [since_sendRecv_self]
    exact List.mem_singleton_self _
  · rw [← returned]
    exact (link.sendRecv_result command).symm

theorem targetDeviceId_quiet (target : Option (Address × Channel)) :
    UpdateAction.ofRequest (targetDeviceId target).request = none := by
  simp [UpdateAction.ofRequest, targetDeviceId, getDeviceId, IpmiCommand.request, Request.netfnRaw,
    Message.newRequest, NetFn.requestValue]

theorem oemDeviceId_ends (target : Option (Address × Channel)) (link : Link ε) :
    Ends (oemDeviceId target) link
      (fun device after => ReadOnly link after ∧
        Answered (targetDeviceId target) device (after.since link))
      (fun _ after => ReadOnly link after) :=
  sendRecv_ends _ link (targetDeviceId_quiet target)

/-- What an OEM command does after its identity check: it was sent, or nothing
but a read was. -/
theorem sendOem_ends (command : OemCommand α β) (link : Link ε) :
    Ends (sendOem command) link
      (fun value after => ∃ checked, ReadOnly link checked ∧
        after = (checked.sendRecv command.toIpmiCommand).2 ∧
        command.readReply (exchange checked command.toIpmiCommand).reply =
          (.ok value : Except (IpmiError ε β) α))
      (fun _ after => ReadOnly link after ∨
        ∃ checked, ReadOnly link checked ∧
          after = (checked.sendRecv command.toIpmiCommand).2) := by
  refine Ends.bind (Ends.adapt (oemDeviceId_ends command.target link))
    (fun _ _ read => Or.inl read) (fun device checked ⟨read, _⟩ => ?_)
  split
  · exact Ends.throw (Or.inl read)
  · refine Ends.adapt (Ends.call (fun value returned => ⟨checked, read, rfl, ?_⟩)
      (fun _ _ => Or.inr ⟨checked, read, rfl⟩))
    rw [← returned]
    exact (checked.sendRecv_result command.toIpmiCommand).symm

/-- Attempts that change nothing, together, change nothing. -/
theorem retried_ends {retry : γ → Bool} {x : OverLink ε γ α} (fact : α → List (Exchange ε) → Prop)
    (once : ∀ link, Ends x link
      (fun value after => ReadOnly link after ∧ fact value (after.since link))
      (fun _ after => ReadOnly link after))
    (more_ : ∀ value earlier later, fact value later → fact value (earlier ++ later))
    (more : Nat) (link : Link ε) :
    Ends (retried retry x more) link
      (fun value after => ReadOnly link after ∧ fact value (after.since link))
      (fun _ after => ReadOnly link after) := by
  induction more generalizing link with
  | zero => exact once link
  | succ more ih =>
    refine Ends.bind (E := fun _ after => ReadOnly link after)
      (P := fun result after => ReadOnly link after ∧
        ∀ value, result = .ok value → fact value (after.since link)) (F := fun _ _ => False)
      (Ends.attempt (Ends.mono (once link) ?_ ?_)) (fun _ _ never => never.elim) ?_
    · rintro value after ⟨read, holds⟩
      exact ⟨read, fun _ same => Except.ok.inj same ▸ holds⟩
    · intro error after read
      exact ⟨read, fun _ other => nomatch other⟩
    · rintro result after ⟨read, holds⟩
      cases result with
      | ok value => exact Ends.pure ⟨read, holds value rfl⟩
      | error error =>
        dsimp only
        split
        · refine Ends.mono (ih after) ?_ fun _ last later => read.trans later
          rintro value last ⟨later, shown⟩
          refine ⟨read.trans later, ?_⟩
          rw [Link.since_trans read.extended later.extended]
          exact more_ _ _ _ shown
        · exact Ends.throw read

/-- A command of the manager that changes nothing is a read. -/
theorem fwumRead_ends (command : OemCommand α FwumParseError)
    (quiet : UpdateAction.ofRequest command.request = none) (link : Link ε) :
    Ends (fwumRead command) link
      (fun value after => ReadOnly link after ∧
        Answered command.toIpmiCommand value (after.since link))
      (fun _ after => ReadOnly link after) := by
  have sent : ∀ checked : Link ε, ReadOnly checked (checked.sendRecv command.toIpmiCommand).2 := by
    refine fun checked => ⟨.sendRecv (.refl checked) _, fun one member => ?_⟩
    rw [since_sendRecv_self, List.mem_singleton] at member
    rw [member]
    exact quiet
  refine retried_ends _ (fun link => Ends.mono (sendOem_ends command link) ?_ ?_)
    (fun _ _ _ shown => shown.mono (List.subset_append_right _ _)) 2 link
  · rintro value after ⟨checked, read, rfl, answer⟩
    refine ⟨read.trans (sent checked), ?_⟩
    rw [Link.since_trans read.extended (sent checked).extended, since_sendRecv_self]
    exact ⟨_, List.mem_append_right _ (List.mem_singleton_self _), rfl, answer⟩
  · rintro error after (read | ⟨checked, read, rfl⟩)
    · exact read
    · exact read.trans (sent checked)

/-- A request to the manager is told by its command number. -/
theorem ofRequest_command (target : FwumTarget) (cmd : UInt8) (data : List UInt8)
    (parse : List UInt8 → Except FwumParseError α) :
    UpdateAction.ofRequest (target.command (request cmd data) parse).request =
      UpdateAction.ofCommand cmd :=
  if_pos rfl

theorem getInfo_quiet (target : FwumTarget) :
    UpdateAction.ofRequest (getInfo target).request = none :=
  ofRequest_command target 0x00 _ _

theorem getStatus_quiet (target : FwumTarget) (bank : UInt8) :
    UpdateAction.ofRequest (getStatus target bank).request = none :=
  ofRequest_command target 0x07 _ _

theorem fwumInventory_ends (target : FwumTarget) (link : Link ε) :
    Ends (fwumInventory target) link
      (fun _ after => ReadOnly link after) (fun _ after => ReadOnly link after) := by
  have once (link : Link ε) : Ends (sendRecv (targetDeviceId target.address)) link
      (fun _ after => ReadOnly link after ∧ True) (fun _ after => ReadOnly link after) :=
    Ends.mono (sendRecv_ends _ link (targetDeviceId_quiet target.address))
      (fun _ _ read => ⟨read.1, trivial⟩) (fun _ _ read => read)
  refine Ends.bind (Ends.adapt (retried_ends (fun _ _ => True) once (fun _ _ _ _ => trivial) 2 link))
    (fun _ _ read => read) (fun device mid ⟨first, _⟩ => ?_)
  split
  · exact Ends.throw first
  · refine Ends.bind (Ends.adapt (fwumRead_ends _ (getInfo_quiet target) mid))
      (fun _ _ read => first.trans read) (fun firmware last ⟨second, _⟩ => ?_)
    split
    · exact Ends.throw (first.trans second)
    · split
      · exact Ends.throw (first.trans second)
      · exact Ends.pure (first.trans second)

/-- Every status read is the answer for the bank at its place. -/
def Statuses (target : FwumTarget) (numbers : List UInt8) (banks : List BankStatus)
    (log : List (Exchange ε)) : Prop :=
  List.Forall₂ (fun number status => Answered (getStatus target number).toIpmiCommand status log)
    numbers banks

theorem readBanks_ends (target : FwumTarget) (numbers : List UInt8) (link : Link ε) :
    Ends (readBanks target numbers) link
      (fun banks after => ReadOnly link after ∧ Statuses target numbers banks (after.since link))
      (fun _ after => ReadOnly link after) := by
  induction numbers generalizing link with
  | nil => exact Ends.pure ⟨.refl link, List.Forall₂.nil⟩
  | cons bank rest ih =>
    refine Ends.bind (Ends.adapt (fwumRead_ends _ (getStatus_quiet target bank) link))
      (fun _ _ read => read) (fun status mid ⟨first, own⟩ => ?_)
    refine Ends.bind (ih mid) (fun _ _ read => first.trans read)
      (fun banks last ⟨second, others⟩ => Ends.pure ⟨first.trans second, ?_⟩)
    refine List.Forall₂.cons (own.mono (since_subset_left first.extended second.extended)) ?_
    exact others.imp fun _ _ shown =>
      shown.mono (since_subset_right first.extended second.extended)

/-- A snapshot of the banks is read from the device, and changes nothing. -/
theorem fwumBanks_ends (target : FwumTarget) (link : Link ε) :
    Ends (fwumBanks target) link
      (fun status after => ReadOnly link after ∧
        Statuses target (bankNumbers status.inventory.firmware.bankCount) status.banks
          (after.since link))
      (fun _ after => ReadOnly link after) := by
  refine Ends.bind (fwumInventory_ends target link) (fun _ _ read => read)
    (fun inventory mid first => ?_)
  refine Ends.bind (readBanks_ends target _ mid) (fun _ _ read => first.trans read)
    (fun banks last ⟨second, shown⟩ => Ends.pure ⟨first.trans second, ?_⟩)
  exact shown.imp fun _ _ one => one.mono (since_subset_right first.extended second.extended)

/-- The status at a place was read for the bank with that number. -/
theorem Statuses.get {target : FwumTarget} {count bank : UInt8} {banks : List BankStatus}
    {log : List (Exchange ε)} (shown : Statuses target (bankNumbers count) banks log)
    {status : BankStatus} (found : banks[bank.toNat]? = some status) :
    Answered (getStatus target bank).toIpmiCommand status log := by
  obtain ⟨inside, same⟩ := List.getElem?_eq_some_iff.mp found
  have long := shown.length_eq
  have read := List.forall₂_iff_get.mp shown
  have own := read.2 bank.toNat (by omega) inside
  simpa [bankNumbers, same] using own

end specifications

end IpmiRs.Fwum
