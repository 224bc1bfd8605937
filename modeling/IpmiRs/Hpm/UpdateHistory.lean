import Mathlib
import IpmiRs.Hpm.UpdateScript
import IpmiRs.Library.Runs

/-! Every history of an updater follows the script of its package: whatever
is called, in whatever order, and whatever the controller and the callbacks
answer. -/
namespace IpmiRs.Hpm
open Connection Library.Bytes Library.Chunks Library.Runs Std.Do

set_option mvcgen.warning false

variable {ε : Type}

/-! ### Invariants -/

namespace Updater

/-- The commands that changed firmware since `origin`, with their replies. -/
def writes (origin s : Updater ε) : List (Exchange ε) :=
  (s.link.since origin.link).filter fun exchange => mutates exchange.request

def script (origin : Updater ε) : List Write :=
  origin.package.script origin.options.chunkSize.toNat

/-- What never changes, and that only the link records what was sent. -/
structure Frame (origin s : Updater ε) : Prop where
  reply : s.link.reply = origin.link.reply
  sent : origin.link.sent <+: s.link.sent
  package : s.package = origin.package
  inventory : s.inventory = origin.inventory
  options : s.options = origin.options

/-- The exchanges made are the start of a script, at most one activation after
all of it, and at most one rollback; all but the last were acknowledged. -/
structure FollowsScript (script : List Write) (made : List (Exchange ε)) (sent : List Write)
    (activated rolledBack : Bool) : Prop where
  upTo : sent <+: script
  requests : made.map (·.request) =
    sent.map Write.request ++ (if activated then [activateFirmware.request] else []) ++
      (if rolledBack then [manualFirmwareRollback.request] else [])
  activation : activated = true → sent = script
  answered : ∀ exchange ∈ made.dropLast, acknowledged exchange

/-- The component in hand is that of the last image begun, and as many bytes
of it are confirmed as the acknowledged blocks of it carried. -/
structure Accounted (package : Package) (held : List Write) (state : TransferState) : Prop where
  confirmedBytes : state.confirmedBytes.toNat =
    bytesOf (package.lastImage (state.actionIndex + 1)) held
  component : ∀ component, state.component = some component →
    ∃ image version description data, package.lastImage (state.actionIndex + 1) = some image ∧
      package.actions[image]? = some (.upload component version description data)

/-- What each phase says of what was sent, while no operation is uncertain. -/
def Admits (script : List Write) (state : TransferState) (sent : List Write)
    (activated rolledBack : Bool) : Prop :=
  match state.phase with
  | .prepared => sent = [] ∧ activated = false ∧ rolledBack = false ∧ state.actionIndex = 0
  | .uploading => activated = false ∧ rolledBack = false
  | .uploaded => sent = script ∧ activated = false ∧ rolledBack = false
  | .activationAcknowledged => sent = script ∧ activated = true ∧ rolledBack = false
  | .rollbackAcknowledged => rolledBack = true

/-- The invariant of every history that began with `origin`. -/
structure Sound (origin s : Updater ε) (sent : List Write) (activated rolledBack : Bool) : Prop where
  frame : Frame origin s
  follows : FollowsScript (script origin) (writes origin s) sent activated rolledBack
  accounted : Accounted origin.package (confirmed sent (writes origin s)) s.state
  certain : s.state.uncertain = none →
    (∀ exchange ∈ writes origin s, acknowledged exchange) ∧
      Admits (script origin) s.state sent activated rolledBack

/-- During an upload: the commands in `past` were sent, and all acknowledged. -/
structure Underway (origin : Updater ε) (past : List Write) (s : Updater ε) : Prop where
  frame : Frame origin s
  upTo : past <+: script origin
  requests : (writes origin s).map (·.request) = past.map Write.request
  answered : ∀ exchange ∈ writes origin s, acknowledged exchange
  certain : s.state.uncertain = none
  phase : s.state.phase = if past = [] then .prepared else .uploading
  started : past = [] → s.state.actionIndex = 0

variable {origin s : Updater ε}

theorem Frame.refl (origin : Updater ε) : Frame origin origin :=
  ⟨rfl, List.prefix_rfl, rfl, rfl, rfl⟩

theorem Frame.state (frame : Frame origin s) (state : TransferState) :
    Frame origin { s with state } :=
  ⟨frame.reply, frame.sent, frame.package, frame.inventory, frame.options⟩

/-- Sending changes the link, and only by what it records. -/
theorem Frame.sendRecv {α β : Type} (frame : Frame origin s) (command : IpmiCommand α β)
    (state : TransferState) :
    Frame origin { s with link := (s.link.sendRecv command).2, state } where
  reply := by rw [Link.sendRecv_link]; exact frame.reply
  sent := by rw [Link.sendRecv_link]; exact frame.sent.trans (List.prefix_append _ _)
  package := frame.package
  inventory := frame.inventory
  options := frame.options

theorem writes_sendRecv {α β : Type} (frame : Frame origin s) (command : IpmiCommand α β)
    (state : TransferState) :
    writes origin { s with link := (s.link.sendRecv command).2, state } =
      writes origin s ++
        [(⟨command.request, s.link.reply (s.link.sent ++ [command.request])⟩ : Exchange ε)].filter
          fun exchange => mutates exchange.request := by
  have extended : origin.link.Extends s.link := ⟨frame.reply, frame.sent⟩
  simp only [writes]
  rw [Link.since_sendRecv extended, List.filter_append]

/-- A mutation adds one exchange; its reply is validated if and only if that
exchange is acknowledged. -/
theorem sendRecv_mutation {α : Type} {command : IpmiCommand α HpmResponseError}
    (mutation : @Mutation ε _ command) (frame : Frame origin s) :
    ∃ exchange : Exchange ε, exchange.request = command.request ∧
      ((∃ output, (s.link.sendRecv command).1 = .ok output) ↔ acknowledged exchange) ∧
      ∀ state, writes origin { s with link := (s.link.sendRecv command).2, state } =
        writes origin s ++ [exchange] := by
  refine ⟨⟨command.request, s.link.reply (s.link.sent ++ [command.request])⟩, rfl, ?_, ?_⟩
  · rw [Link.sendRecv_result]
    exact mutation.answered _
  · intro state
    rw [writes_sendRecv frame]
    simp [mutation.mutates]

/-- An updater some script accounts for. -/
def Kept (origin s : Updater ε) : Prop :=
  ∃ sent activated rolledBack, Sound origin s sent activated rolledBack

/-- During an upload, at an action, with the bytes accounted for. -/
structure At (origin : Updater ε) (past : List Write) (index : Nat) (s : Updater ε) : Prop
    extends Underway origin past s where
  accounted : Accounted origin.package past s.state
  index : s.state.actionIndex = index

variable {past : List Write} {index : Nat}

theorem Underway.length (underway : Underway origin past s) :
    past.length = (writes origin s).length := by
  simpa using (congrArg List.length underway.requests).symm

theorem Underway.confirmed (underway : Underway origin past s) :
    confirmed past (writes origin s) = past :=
  confirmed_of_all underway.length underway.answered

/-- An upload goes on whatever becomes of the account it keeps. -/
theorem Underway.state (underway : Underway origin past s) {state : TransferState}
    (certain : state.uncertain = s.state.uncertain) (phase : state.phase = s.state.phase)
    (index : state.actionIndex = s.state.actionIndex) : Underway origin past { s with state } where
  frame := underway.frame.state state
  upTo := underway.upTo
  requests := underway.requests
  answered := underway.answered
  certain := certain.trans underway.certain
  phase := phase.trans underway.phase
  started nothing := index.trans (underway.started nothing)

theorem Underway.follows (underway : Underway origin past s) :
    FollowsScript (script origin) (writes origin s) past false false where
  upTo := underway.upTo
  requests := by simpa using underway.requests
  activation := by simp
  answered exchange member := underway.answered exchange (List.dropLast_subset _ member)

/-- An upload may be left at any checkpoint. -/
theorem At.kept (at_ : At origin past index s) : Kept origin s := by
  refine ⟨past, false, false, at_.frame, at_.follows, ?_, fun _ => ⟨at_.answered, ?_⟩⟩
  · rw [at_.confirmed]
    exact at_.accounted
  · unfold Admits
    rw [at_.phase]
    by_cases none_ : past = []
    · simp [none_, at_.started none_]
    · simp [none_]

/-- One more command of the script, acknowledged. -/
theorem Underway.step {after : Updater ε} {write : Write} {exchange : Exchange ε}
    (underway : Underway origin past s) (next : past ++ [write] <+: script origin)
    (same : exchange.request = write.request) (answered : acknowledged exchange)
    (frame : Frame origin after) (made : writes origin after = writes origin s ++ [exchange])
    (certain : after.state.uncertain = none) (phase : after.state.phase = .uploading) :
    Underway origin (past ++ [write]) after where
  frame
  upTo := next
  requests := by simp [made, underway.requests, same]
  answered one member := by
    rw [made] at member
    rcases List.mem_append.mp member with earlier | last
    · exact underway.answered one earlier
    · rw [List.mem_singleton.mp last]
      exact answered
  certain
  phase := by simp [phase]
  started := by simp

/-- One more command of the script, left uncertain. -/
theorem Underway.attempt {after : Updater ε} {write : Write} {exchange : Exchange ε}
    (underway : Underway origin past s) (next : past ++ [write] <+: script origin)
    (same : exchange.request = write.request) (unanswered : ¬acknowledged exchange)
    (frame : Frame origin after) (made : writes origin after = writes origin s ++ [exchange])
    (accounted : Accounted origin.package past after.state)
    (uncertain : after.state.uncertain ≠ none) : Kept origin after := by
  refine ⟨past ++ [write], false, false, frame, ⟨next, ?_, by simp, ?_⟩, ?_,
    fun certain => absurd certain uncertain⟩
  · simp [made, underway.requests, same]
  · rw [made, List.dropLast_concat]
    exact underway.answered
  · have nothing : IpmiRs.Hpm.confirmed [write] [exchange] = [] := by
      simp [IpmiRs.Hpm.confirmed, unanswered]
    rw [made, confirmed_append underway.length, underway.confirmed, nothing, List.append_nil]
    exact accounted

/-! ### One method at a time -/

theorem modifyState_spec (f : TransferState → TransferState) {P Q : Updater ε → Prop}
    {E : Updater ε → Prop} (kept : ∀ s, P s → Q { s with state := f s.state }) :
    ⦃fun s => ⌜P s⌝⦄ modifyState f ⦃post⟨fun _ s => ⌜Q s⌝, fun _ s => ⌜E s⌝⟩⦄ := by
  mvcgen [modifyState]
  exact kept _ ‹_›

theorem checkpoint_spec (progress : Progress) (shown : List TransferState)
    {P E : Updater ε → Prop} (stopped : ∀ s, P s → E s) :
    ⦃fun s => ⌜P s⌝⦄ checkpoint progress shown
    ⦃post⟨fun _ s => ⌜P s⌝, fun _ s => ⌜E s⌝⟩⦄ := by
  mvcgen [checkpoint]
  exact stopped _ ‹_›

/-- What a mutation leaves behind: one more exchange, with the reply it got. -/
structure Wrote {α : Type} (origin before : Updater ε) (command : IpmiCommand α HpmResponseError)
    (answer : Bool) (after : Updater ε) : Prop where
  frame : Frame origin after
  made : ∃ exchange : Exchange ε, exchange.request = command.request ∧
    acknowledged exchange = answer ∧ writes origin after = writes origin before ++ [exchange]

/-- The state a mutation is sent in. -/
def started (state : TransferState) : TransferState :=
  { state with phase := if state.phase = .prepared then .uploading else state.phase }

theorem sendWrite_spec (origin : Updater ε) {command : IpmiCommand Unit HpmResponseError}
    (mutation : @Mutation ε _ command) (operation : Operation) (before : Updater ε)
    (frame : Frame origin before) :
    ⦃fun s => ⌜s = before⌝⦄ sendWrite operation command
    ⦃post⟨fun _ s => ⌜Wrote origin before command true s ∧
        s.state = { started before.state with uncertain := none }⌝,
      fun _ s => ⌜Wrote origin before command false s ∧
        s.state = { started before.state with uncertain := some operation }⌝⟩⦄ := by
  obtain ⟨exchange, same, validated, made⟩ := sendRecv_mutation mutation frame
  mvcgen [sendWrite, sendRecv, modifyState]
  case vc1.h_1 =>
    rename_i same_ _ _ _ success _
    subst same_
    refine ⟨⟨frame.sendRecv _ _, exchange, same, validated.mp ⟨_, success⟩, made _⟩, rfl⟩
  case vc2.h_2 =>
    rename_i same_ _ _ _ _ failed
    subst same_
    refine ⟨⟨frame.sendRecv _ _, exchange, same, ?_, made _⟩, rfl⟩
    by_contra answered
    obtain ⟨output, success⟩ := validated.mpr (by simpa using answered)
    exact absurd (failed.symm.trans success) (by simp)

/-- Accounting reads three fields of the state. -/
theorem Accounted.congr {package : Package} {held : List Write} {state after : TransferState}
    (accounted : Accounted package held state) (index : after.actionIndex = state.actionIndex)
    (bytes : after.confirmedBytes = state.confirmedBytes)
    (component : after.component = state.component) : Accounted package held after := by
  refine ⟨?_, ?_⟩
  · rw [index, bytes]
    exact accounted.confirmedBytes
  · rw [index, component]
    exact accounted.component

/-- A command that carries nothing changes no account. -/
theorem Accounted.plain {package : Package} {held : List Write} {state : TransferState}
    (accounted : Accounted package held state) {write : Write} (plain : write.carried = []) :
    Accounted package (held ++ [write]) state := by
  refine ⟨?_, accounted.component⟩
  rw [bytesOf_append, accounted.confirmedBytes, bytesOf_plain _ plain]
  rfl

theorem sendWrite_script_spec {write : Write} (next : past ++ [write] <+: script origin)
    {command : IpmiCommand Unit HpmResponseError} (mutation : @Mutation ε _ command)
    (same : command.request = write.request) (plain : write.carried = []) (operation : Operation) :
    ⦃fun s => ⌜At origin past index s⌝⦄ sendWrite operation command
    ⦃post⟨fun _ s => ⌜At origin (past ++ [write]) index s⌝, fun _ s => ⌜Kept origin s⌝⟩⦄ := by
  mintro held ∀s
  mpure held
  mspec (sendWrite_spec origin mutation operation s held.frame)
  case post.success =>
    mleave
    intro after wrote state
    obtain ⟨frame, exchange, sent, answered, made⟩ := wrote
    have phase : (started s.state).phase = .uploading := by
      simp only [started, held.phase]
      by_cases nothing : past = [] <;> simp [nothing]
    have certain : after.state.uncertain = none := by rw [state]
    have uploading : after.state.phase = .uploading := by rw [state, ← phase]
    refine ⟨held.step next (sent.trans same) answered frame made certain uploading, ?_, ?_⟩
    · rw [state]
      exact (held.accounted.plain plain).congr rfl rfl rfl
    · rw [state]
      exact held.index
  case post.except.handle =>
    mleave
    intro after wrote state
    obtain ⟨frame, exchange, sent, answered, made⟩ := wrote
    refine held.attempt next (sent.trans same) (by simp [answered]) frame made ?_ (by simp [state])
    rw [state]
    exact held.accounted.congr rfl rfl rfl

/-- The confirmed bytes advance by the block. -/
theorem Accounted.block {package : Package} {held : List Write} {state after : TransferState}
    (accounted : Accounted package held state) (block : UploadFirmwareBlock)
    (image : package.lastImage (state.actionIndex + 1) = some state.actionIndex)
    (fits : bytesOf (some state.actionIndex) (held ++ [block.write state.actionIndex]) < 2 ^ 32)
    (index : after.actionIndex = state.actionIndex)
    (bytes : after.confirmedBytes = state.confirmedBytes + UInt32.ofNat block.data.length)
    (component : after.component = state.component) :
    Accounted package (held ++ [block.write state.actionIndex]) after := by
  have carried : bytesOf (some state.actionIndex) [block.write state.actionIndex] =
      block.data.length := by
    simp [bytesOf, UploadFirmwareBlock.write]
  rw [bytesOf_append, carried] at fits
  refine ⟨?_, ?_⟩
  · have before := accounted.confirmedBytes
    rw [image] at before
    rw [index, bytes, image, bytesOf_append, carried, UInt32.toNat_add, UInt32.toNat_ofNat', before]
    omega
  · rw [index, component]
    exact accounted.component

theorem sendBlock_spec (block : UploadFirmwareBlock)
    (next : past ++ [block.write index] <+: script origin) (begun : past ≠ [])
    (image : origin.package.lastImage (index + 1) = some index)
    (fits : bytesOf (some index) (script origin) < 2 ^ 32) :
    ⦃fun s => ⌜At origin past index s⌝⦄ sendBlock block
    ⦃post⟨fun _ s => ⌜At origin (past ++ [block.write index]) index s⌝,
      fun _ s => ⌜Kept origin s⌝⟩⦄ := by
  mvcgen [sendBlock, sendRecv, modifyState]
  case vc1.h_1 =>
    rename_i s held _ _ source failed
    obtain ⟨exchange, same, validated, made⟩ := sendRecv_mutation block.mutation held.frame
    have unanswered : ¬acknowledged exchange := by
      intro answered
      obtain ⟨output, success⟩ := validated.mpr answered
      exact absurd (failed.symm.trans success) (by simp)
    exact held.attempt next same unanswered (held.frame.sendRecv _ _) (made _)
      (held.accounted.congr rfl rfl rfl) (by simp)
  case vc2.h_2 =>
    rename_i s held _ _ output success _
    obtain ⟨exchange, same, validated, made⟩ := sendRecv_mutation block.mutation held.frame
    have phase : s.state.phase = .uploading := by simp [held.phase, begun]
    have bytes := bytesOf_le_of_prefix (some index) next
    have index_ := held.index
    subst index_
    exact ⟨held.step next same (validated.mp ⟨_, success⟩) (held.frame.sendRecv _ _) (made _) rfl phase,
      held.accounted.block block image (by omega) rfl rfl rfl, rfl⟩

/-- During an upload, a checkpoint passes or leaves the upload. -/
theorem checkpoint_at_spec (origin : Updater ε) (past : List Write) (index : Nat)
    (progress : Progress) (shown : List TransferState) :
    ⦃fun s => ⌜At origin past index s⌝⦄ checkpoint progress shown
    ⦃post⟨fun _ s => ⌜At origin past index s⌝, fun _ s => ⌜Kept origin s⌝⟩⦄ :=
  checkpoint_spec progress shown fun _ held => held.kept

theorem uploadBlock_spec (progress : Progress) (shown : List TransferState)
    (block : UploadFirmwareBlock) (next : past ++ [block.write index] <+: script origin)
    (begun : past ≠ []) (image : origin.package.lastImage (index + 1) = some index)
    (fits : bytesOf (some index) (script origin) < 2 ^ 32) :
    ⦃fun s => ⌜At origin past index s⌝⦄ uploadBlock progress shown block
    ⦃post⟨fun _ s => ⌜At origin (past ++ [block.write index]) index s⌝,
      fun _ s => ⌜Kept origin s⌝⟩⦄ := by
  mintro held
  unfold uploadBlock
  mspec (checkpoint_at_spec origin past index progress shown)
  mspec (sendBlock_spec block next begun image fits)
  have after := checkpoint_at_spec origin (past ++ [block.write index]) index progress
  mvcgen [after]
  exact At.kept ‹_›

theorem uploadBlocks_spec (progress : Progress) (shown : List TransferState)
    (blocks : List UploadFirmwareBlock)
    (next : past ++ blocks.map (·.write index) <+: script origin)
    (begun : past ≠ []) (image : origin.package.lastImage (index + 1) = some index)
    (fits : bytesOf (some index) (script origin) < 2 ^ 32) :
    ⦃fun s => ⌜At origin past index s⌝⦄ uploadBlocks progress shown blocks
    ⦃post⟨fun _ s => ⌜At origin (past ++ blocks.map (·.write index)) index s⌝,
      fun _ s => ⌜Kept origin s⌝⟩⦄ := by
  induction blocks generalizing past shown with
  | nil =>
    mvcgen [uploadBlocks]
    simpa
  | cons block rest ih =>
    have split : past ++ (block :: rest).map (·.write index) =
        past ++ [block.write index] ++ rest.map (·.write index) := by simp
    rw [split] at next ⊢
    mintro held
    unfold uploadBlocks
    mspec (uploadBlock_spec progress shown block ((List.prefix_append _ _).trans next) begun image fits)
    mspec (ih _ next (by simp))

/-- An action about to be run, with the bytes accounted for unless it begins an
image of its own. -/
structure Entering (origin : Updater ε) (past : List Write) (index : Nat) (one : PackageAction)
    (s : Updater ε) : Prop extends Underway origin past s where
  accounted : one.isUpload = false → Accounted origin.package past s.state
  index : s.state.actionIndex = index

/-- The facts an action's commands are sent under. -/
structure Place (origin : Updater ε) (past : List Write) (index : Nat) (one : PackageAction) :
    Prop where
  found : origin.package.actions[index]? = some one
  earlier : ∀ write ∈ past, write.action < index
  next : past ++ one.script origin.options.chunkSize.toNat index <+: script origin
  fits : bytesOf (some index) (script origin) < 2 ^ 32

theorem Place.image {component : ComponentId} {version : FirmwareVersion}
    {description : Vector UInt8 21} {data : List UInt8}
    (place : Place origin past index (.upload component version description data)) :
    origin.package.lastImage (index + 1) = some index := by
  simp [Package.lastImage, place.found, PackageAction.isUpload]

theorem Place.bytesOf_past {one : PackageAction} (place : Place origin past index one) :
    bytesOf (some index) past = 0 := by
  apply bytesOf_eq_zero
  intro write member
  left
  have before := place.earlier write member
  simp only [ne_eq, Option.some.injEq]
  omega

/-- An image begins with none of its bytes sent. -/
theorem Place.begin {component : ComponentId} {version : FirmwareVersion}
    {description : Vector UInt8 21} {data : List UInt8}
    (place : Place origin past index (.upload component version description data))
    (underway : Underway origin past s) (at_ : s.state.actionIndex = index) (total : UInt32) :
    At origin past index
      { s with
        state := { s.state with
          component := some component
          confirmedBytes := 0
          totalBytes := total } } := by
  refine ⟨underway.state rfl rfl rfl, ⟨?_, ?_⟩, at_⟩
  · simp [at_, place.image, place.bytesOf_past]
  · rintro _ ⟨⟩
    exact ⟨index, version, description, data, by simpa [at_] using place.image, place.found⟩

/-- The blocks of an image, as the commands of its script. -/
def imageBlocks (origin : Updater ε) (index : Nat) (data : List UInt8) : List Write :=
  (blocks origin.options.chunkSize.toNat origin.bounded data).map (·.write index)

theorem imageBlocks_eq (frame : Frame origin s) (index : Nat) (data : List UInt8) :
    (blocks s.options.chunkSize.toNat s.bounded data).map (·.write index) =
      imageBlocks origin index data := by
  rw [imageBlocks, blocks_write, blocks_write, frame.options]

theorem imageBlocks_script (origin : Updater ε) (index : Nat) (component : ComponentId)
    (version : FirmwareVersion) (description : Vector UInt8 21) (data : List UInt8) :
    PackageAction.script origin.options.chunkSize.toNat index
        (.upload component version description data) =
      [initiateWrite index (1 <<< component.value) 2] ++ imageBlocks origin index data ++
        [finishWrite index component.value data.length] := by
  rw [imageBlocks, blocks_write]
  rfl

theorem uploadData_spec (progress : Progress) (shown : List TransferState) (data : List UInt8)
    (next : past ++ imageBlocks origin index data <+: script origin) (begun : past ≠ [])
    (image : origin.package.lastImage (index + 1) = some index)
    (fits : bytesOf (some index) (script origin) < 2 ^ 32) :
    ⦃fun s => ⌜At origin past index s⌝⦄ uploadData progress shown data
    ⦃post⟨fun _ s => ⌜At origin (past ++ imageBlocks origin index data) index s⌝,
      fun _ s => ⌜Kept origin s⌝⟩⦄ := by
  mvcgen [uploadData]
  rename_i s held
  rw [← imageBlocks_eq held.frame] at next ⊢
  exact uploadBlocks_spec progress shown _ next begun image fits s held

/-- The blocks of an image carry all of it. -/
theorem bytesOf_imageBlocks (origin : Updater ε) (index : Nat) (data : List UInt8) :
    bytesOf (some index) (imageBlocks origin index data) = data.length := by
  have whole := PackageAction.bytesOf_script origin.bounded.1 index
    (.upload ⟨0, by decide⟩ (.replicate 6 0) (.replicate 21 0) data)
  rw [imageBlocks_script, bytesOf_append, bytesOf_append] at whole
  simpa [PackageAction.image] using whole

/-- An image is finished at its full length, when all of it was confirmed. -/
theorem finishImage_spec (component : ComponentId) (data : List UInt8)
    (image : origin.package.lastImage (index + 1) = some index)
    (bytes : bytesOf (some index) past = data.length)
    (next : past ++ [finishWrite index component.value data.length] <+: script origin) :
    ⦃fun s => ⌜At origin past index s⌝⦄ finishImage component
    ⦃post⟨fun _ s => ⌜At origin (past ++ [finishWrite index component.value data.length]) index s⌝,
      fun _ s => ⌜Kept origin s⌝⟩⦄ := by
  have sends (length : UInt32) (whole : length = UInt32.ofNat data.length) :
      ⦃fun s => ⌜At origin past index s⌝⦄
      sendWrite (.finish component) (finishFirmwareUpload component length)
      ⦃post⟨fun _ s => ⌜At origin (past ++ [finishWrite index component.value data.length]) index s⌝,
        fun _ s => ⌜Kept origin s⌝⟩⦄ := by
    subst whole
    have same := finishFirmwareUpload_request index component data.length
    exact sendWrite_script_spec next (simpleWrite_mutation _ (by decide)) same rfl _
  mvcgen [finishImage, sends, modifyState]
  case vc1.whole s held =>
    have account := held.accounted.confirmedBytes
    rw [held.index, image, bytes] at account
    rw [← account, UInt32.ofNat_toNat]
  case vc3.post.success held _ =>
    exact ⟨held.state rfl rfl rfl, held.accounted.congr rfl rfl rfl, held.index⟩

theorem uploadImage_spec (progress : Progress) (shown : List TransferState)
    (component : ComponentId) (version : FirmwareVersion) (description : Vector UInt8 21)
    (data : List UInt8)
    (place : Place origin past index (.upload component version description data)) :
    ⦃fun s => ⌜Entering origin past index (.upload component version description data) s⌝⦄
    uploadImage progress shown component data
    ⦃post⟨fun _ s => ⌜At origin (past ++ PackageAction.script origin.options.chunkSize.toNat index
        (.upload component version description data)) index s⌝,
      fun _ s => ⌜Kept origin s⌝⟩⦄ := by
  have next := place.next
  rw [imageBlocks_script, ← List.append_assoc, ← List.append_assoc] at next ⊢
  have nextBlocks := (List.prefix_append _ _).trans next
  have nextInitiate := (List.prefix_append _ _).trans nextBlocks
  have begins : ⦃fun s => ⌜Entering origin past index (.upload component version description data) s⌝⦄
      modifyState fun state => { state with
        component := some component
        confirmedBytes := 0
        totalBytes := UInt32.ofNat data.length }
      ⦃post⟨fun _ s => ⌜At origin past index s⌝, fun _ s => ⌜Kept origin s⌝⟩⦄ :=
    modifyState_spec _ fun s held => place.begin held.toUnderway held.index _
  mintro held
  unfold uploadImage
  mspec begins
  mspec (checkpoint_at_spec origin past index progress shown)
  mspec (sendWrite_script_spec nextInitiate (simpleWrite_mutation _ (by decide)) rfl rfl
    (.initiate .upgrade component.bit))
  mspec (uploadData_spec progress _ data nextBlocks (by simp) place.image place.fits)
  have whole : bytesOf (some index) (past ++ [initiateWrite index (1 <<< component.value) 2] ++
      imageBlocks origin index data) = data.length := by
    rw [bytesOf_append, bytesOf_append, place.bytesOf_past, bytesOf_initiateWrite,
      bytesOf_imageBlocks, Nat.zero_add]
  mspec (checkpoint_at_spec origin (past ++ [initiateWrite index (1 <<< component.value) 2] ++
    imageBlocks origin index data) index progress _)
  mspec (finishImage_spec component data place.image whole next)

theorem runAction_spec (progress : Progress) (shown : List TransferState) (one : PackageAction)
    (place : Place origin past index one) :
    ⦃fun s => ⌜Entering origin past index one s⌝⦄ runAction progress shown one
    ⦃post⟨fun _ s => ⌜At origin (past ++ one.script origin.options.chunkSize.toNat index) index s⌝,
      fun _ s => ⌜Kept origin s⌝⟩⦄ := by
  have next := place.next
  cases one with
  | backup mask =>
    mintro held ∀s
    mpure held
    have entered : At origin past index s := ⟨held.toUnderway, held.accounted rfl, held.index⟩
    unfold runAction
    mspec (checkpoint_at_spec origin past index progress shown)
    mspec (sendWrite_script_spec next (simpleWrite_mutation _ (by decide)) rfl rfl
      (.initiate .backup mask.bits))
  | prepare mask =>
    mintro held ∀s
    mpure held
    have entered : At origin past index s := ⟨held.toUnderway, held.accounted rfl, held.index⟩
    unfold runAction
    mspec (checkpoint_at_spec origin past index progress shown)
    mspec (sendWrite_script_spec next (simpleWrite_mutation _ (by decide)) rfl rfl
      (.initiate .prepare mask.bits))
  | upload component version description data =>
    exact uploadImage_spec progress shown component version description data place

/-- Every action was acknowledged, and nothing else was sent. -/
structure Finished (origin s : Updater ε) : Prop where
  frame : Frame origin s
  requests : (writes origin s).map (·.request) = (script origin).map Write.request
  answered : ∀ exchange ∈ writes origin s, acknowledged exchange
  certain : s.state.uncertain = none
  accounted : Accounted origin.package (script origin) s.state

/-- What was finished may be called uploaded. -/
theorem Finished.uploaded (finished : Finished origin s) :
    Finished origin { s with state := { s.state with phase := .uploaded } } where
  frame := finished.frame.state _
  requests := finished.requests
  answered := finished.answered
  certain := finished.certain
  accounted := finished.accounted.congr rfl rfl rfl

theorem Finished.kept (finished : Finished origin s) (uploaded : s.state.phase = .uploaded) :
    Kept origin s := by
  have length : (script origin).length = (writes origin s).length := by
    simpa using (congrArg List.length finished.requests).symm
  refine ⟨script origin, false, false, finished.frame, ⟨List.prefix_rfl, ?_, by simp, ?_⟩, ?_,
    fun _ => ⟨finished.answered, ?_⟩⟩
  · simpa using finished.requests
  · exact fun exchange member => finished.answered exchange (List.dropLast_subset _ member)
  · rw [confirmed_of_all length finished.answered]
    exact finished.accounted
  · simp [Admits, uploaded]

theorem At.finished (held : At origin (script origin) index s) : Finished origin s :=
  ⟨held.frame, held.requests, held.answered, held.certain, held.accounted⟩

/-- The commands of the first actions of a package. -/
def scriptOf (origin : Updater ε) (front : List PackageAction) : List Write :=
  scriptFrom origin.options.chunkSize.toNat 0 front

/-- Between two actions: all before `rest` were acknowledged. -/
def Between (origin : Updater ε) (past : List Write) (index : Nat) (rest : List PackageAction)
    (s : Updater ε) : Prop :=
  (rest = [] → Finished origin s) ∧
    (rest ≠ [] → Underway origin past s ∧ Accounted origin.package past s.state ∧
      s.state.actionIndex = index - 1)

/-- Entering an action keeps the account, unless it begins an image. -/
theorem Between.enter {one : PackageAction} {rest : List PackageAction}
    (between : Between origin past index (one :: rest) s) (first : past = [] → index = 0)
    (found : origin.package.actions[index]? = some one) :
    Entering origin past index one { s with state := { s.state with actionIndex := index } } := by
  obtain ⟨underway, accounted, at_⟩ := between.2 (by simp)
  refine ⟨⟨underway.frame.state _, underway.upTo, underway.requests, underway.answered,
    underway.certain, underway.phase, first⟩, ?_, rfl⟩
  intro plain
  have same : origin.package.lastImage (index + 1) =
      origin.package.lastImage (s.state.actionIndex + 1) := by
    rw [at_]
    cases index with
    | zero => rfl
    | succ index => simp [Package.lastImage, found, plain]
  exact ⟨by rw [same]; exact accounted.confirmedBytes, by rw [same]; exact accounted.component⟩

theorem endAction_spec (origin : Updater ε) (past : List Write) (index : Nat)
    (rest : List PackageAction)
    (left : origin.package.actions.length = index + 1 + rest.length)
    (last : rest = [] → past = script origin) :
    ⦃fun s => ⌜At origin past index s⌝⦄ endAction index
    ⦃post⟨fun _ s => ⌜Between origin past (index + 1) rest s ∧ Kept origin s⌝,
      fun _ s => ⌜Kept origin s⌝⟩⦄ := by
  mvcgen [endAction, modifyState]
  case vc1.isTrue s held end_ _ =>
    rw [held.frame.package, left] at end_
    obtain rfl : rest = [] := List.eq_nil_of_length_eq_zero (by omega)
    have past_ := last rfl
    subst past_
    exact ⟨⟨fun _ => held.finished.uploaded, by simp⟩, held.finished.uploaded.kept rfl⟩
  case vc2.isFalse s held more =>
    rw [held.frame.package, left] at more
    refine ⟨⟨fun nothing => absurd more (by simp [nothing]), fun _ => ?_⟩, held.kept⟩
    exact ⟨held.toUnderway, held.accounted, held.index⟩

/-- The actions left are sent in order, and when none is left all were. -/
theorem runActions_spec (progress : Progress) (shown : List TransferState)
    (front rest : List PackageAction) (whole : origin.package.actions = front ++ rest)
    (fits : ∀ image, bytesOf (some image) (script origin) < 2 ^ 32) :
    ⦃fun s => ⌜Between origin (scriptOf origin front) front.length rest s⌝⦄
    runActions progress shown front.length rest
    ⦃post⟨fun _ s => ⌜Finished origin s⌝, fun _ s => ⌜Kept origin s⌝⟩⦄ := by
  induction rest generalizing front shown with
  | nil =>
    mvcgen [runActions]
    rename_i between
    exact between.1 rfl
  | cons one rest ih =>
    have found : origin.package.actions[front.length]? = some one := by simp [whole]
    have front_ : scriptOf origin (front ++ [one]) =
        scriptOf origin front ++ one.script origin.options.chunkSize.toNat front.length := by
      simp [scriptOf, scriptFrom_append, scriptFrom]
    have split : origin.package.actions = (front ++ [one]) ++ rest := by simp [whole]
    have cut : script origin = scriptOf origin (front ++ [one]) ++
        scriptFrom origin.options.chunkSize.toNat (0 + (front ++ [one]).length) rest := by
      rw [script, Package.script, split, scriptFrom_append, scriptOf]
    have place : Place origin (scriptOf origin front) front.length one :=
      { found
        earlier := fun write member => by simpa using action_lt_of_mem_scriptFrom member
        next := by rw [← front_, cut]; exact List.prefix_append _ _
        fits := fits front.length }
    have enters : ⦃fun s => ⌜Between origin (scriptOf origin front)
          front.length (one :: rest) s⌝⦄
        modifyState ({ · with actionIndex := front.length })
        ⦃post⟨fun _ s => ⌜Entering origin (scriptOf origin front)
          front.length one s⌝, fun _ s => ⌜Kept origin s⌝⟩⦄ :=
      modifyState_spec _ fun s between =>
        between.enter (fun nothing => by simpa [scriptOf, scriptFrom_eq_nil] using nothing) found
    have ends := endAction_spec origin (scriptOf origin (front ++ [one])) front.length rest
      (by simp [whole]; omega) (fun nothing => by simp [cut, nothing, scriptFrom])
    have acts := runAction_spec progress shown one place
    have later := fun shown => ih shown (front ++ [one]) split
    rw [← front_] at acts
    rw [List.length_append, List.length_singleton] at later
    mintro between
    unfold runActions
    mspec enters
    mspec acts
    mspec ends
    mspec (checkpoint_spec progress _ fun s (held : Between origin
      (scriptOf origin (front ++ [one])) (front.length + 1) rest s ∧
      Kept origin s) => held.2)
    mspec (later _)
    mleave
    exact fun _ between _ => between

/-- Before anything was written, the whole script is left. -/
theorem Sound.prepared {sent : List Write} {activated rolledBack : Bool}
    (sound : Sound origin s sent activated rolledBack) (prepared : s.state.phase = .prepared)
    (certain : s.state.uncertain = none) : At origin [] 0 s := by
  obtain ⟨answered, admits⟩ := sound.certain certain
  rw [Admits, prepared] at admits
  obtain ⟨rfl, rfl, rfl, index⟩ := admits
  have requests := sound.follows.requests
  exact ⟨⟨sound.frame, List.nil_prefix, by simpa using requests, answered, certain, by simp [prepared],
    fun _ => index⟩, sound.accounted, index⟩

theorem At.between (held : At origin [] 0 s) : Between origin [] 0 origin.package.actions s := by
  refine ⟨fun nothing => ?_, fun _ => ⟨held.toUnderway, held.accounted, held.index⟩⟩
  have empty : script origin = [] := by rw [script, Package.script, nothing]; rfl
  exact (show At origin (script origin) 0 s from empty ▸ held).finished

theorem upload_spec (origin : Updater ε) (progress : Progress)
    (fits : ∀ image, bytesOf (some image) (script origin) < 2 ^ 32) :
    ⦃fun s => ⌜Kept origin s⌝⦄ upload progress
    ⦃post⟨fun _ s => ⌜Kept origin s⌝, fun _ s => ⌜Kept origin s⌝⟩⦄ := by
  have runs (shown : List TransferState) (actions : List PackageAction)
      (whole : actions = origin.package.actions) :
      ⦃fun s => ⌜At origin [] 0 s⌝⦄ runActions progress shown 0 actions
      ⦃post⟨fun _ s => ⌜Finished origin s⌝, fun _ s => ⌜Kept origin s⌝⟩⦄ := by
    have all := runActions_spec progress shown [] actions (by simp [whole]) fits
    mintro held ∀s
    mpure held
    have between : Between origin (scriptOf origin []) 0 actions s := whole ▸ held.between
    mspec all
  have checks := checkpoint_at_spec origin [] 0 progress []
  mvcgen [upload, modifyState, checks, runs]
  case vc2.isFalse.pre s kept _ ready =>
    obtain ⟨sent, activated, rolledBack, sound⟩ := kept
    push Not at ready
    exact sound.prepared ready.1 (by simpa using ready.2)
  case vc3.whole kept _ _ _ _ _ =>
    obtain ⟨sent, activated, rolledBack, sound⟩ := kept
    rw [sound.frame.package]
  case vc5 finished _ => exact finished.uploaded.kept rfl

/-- The commands of a script are no more than the exchanges. -/
theorem FollowsScript.length_le {script sent : List Write} {made : List (Exchange ε)}
    {activated rolledBack : Bool} (follows : FollowsScript script made sent activated rolledBack) :
    sent.length ≤ made.length := by
  have length := congrArg List.length follows.requests
  simp only [List.length_map, List.length_append] at length
  omega

/-- A command after the script, sent while nothing is uncertain. -/
theorem Sound.last {sent : List Write} {activated rolledBack : Bool}
    (sound : Sound origin s sent activated rolledBack) (certain : s.state.uncertain = none)
    {after : Updater ε} {exchange : Exchange ε} (frame : Frame origin after)
    (made : writes origin after = writes origin s ++ [exchange]) {activated_ rolledBack_ : Bool}
    (requests : (writes origin after).map (·.request) = sent.map Write.request ++
      (if activated_ then [activateFirmware.request] else []) ++
        (if rolledBack_ then [manualFirmwareRollback.request] else []))
    (activation : activated_ = true → sent = script origin)
    (accounted : ∀ held, Accounted origin.package held s.state →
      Accounted origin.package held after.state)
    (admits : after.state.uncertain = none →
      acknowledged exchange ∧ Admits (script origin) after.state sent activated_ rolledBack_) :
    Kept origin after := by
  obtain ⟨answered, _⟩ := sound.certain certain
  refine ⟨sent, activated_, rolledBack_, frame,
    ⟨sound.follows.upTo, requests, activation, ?_⟩, ?_, fun certain_ => ⟨?_, (admits certain_).2⟩⟩
  · rw [made, List.dropLast_concat]
    exact answered
  · rw [made, confirmed_of_le sound.follows.length_le]
    exact accounted _ sound.accounted
  · intro one member
    rw [made] at member
    rcases List.mem_append.mp member with earlier | last
    · exact answered one earlier
    · rw [List.mem_singleton.mp last]
      exact (admits certain_).1

/-- An activation is the last command but one at most. -/
theorem Sound.activate (sound : Sound origin s (script origin) false false)
    (certain : s.state.uncertain = none) {after : Updater ε} {exchange : Exchange ε}
    (frame : Frame origin after) (made : writes origin after = writes origin s ++ [exchange])
    (same : exchange.request = activateFirmware.request)
    (accounted : ∀ held, Accounted origin.package held s.state →
      Accounted origin.package held after.state)
    (admits : after.state.uncertain = none →
      acknowledged exchange ∧ after.state.phase = .activationAcknowledged) : Kept origin after := by
  apply sound.last certain frame made
  · rw [made, List.map_append, sound.follows.requests]
    show _ = _ ++ (if true then _ else _) ++ (if false then _ else _)
    simp [same]
  · exact fun _ => rfl
  · exact accounted
  · intro certain_
    obtain ⟨answered, phase⟩ := admits certain_
    exact ⟨answered, by simp [Admits, phase]⟩

/-- A rollback is the last command. -/
theorem Sound.rollback {sent : List Write} {activated : Bool}
    (sound : Sound origin s sent activated false)
    (certain : s.state.uncertain = none) {after : Updater ε} {exchange : Exchange ε}
    (frame : Frame origin after) (made : writes origin after = writes origin s ++ [exchange])
    (same : exchange.request = manualFirmwareRollback.request)
    (accounted : ∀ held, Accounted origin.package held s.state →
      Accounted origin.package held after.state)
    (admits : after.state.uncertain = none →
      acknowledged exchange ∧ after.state.phase = .rollbackAcknowledged) : Kept origin after := by
  apply sound.last certain frame made
  · rw [made, List.map_append, sound.follows.requests]
    show _ = _ ++ (if activated then _ else _) ++ (if true then _ else _)
    simp [same]
  · exact sound.follows.activation
  · exact accounted
  · intro certain_
    obtain ⟨answered, phase⟩ := admits certain_
    exact ⟨answered, by simp [Admits, phase]⟩

theorem activate_spec (origin : Updater ε) :
    ⦃fun s => ⌜Kept origin s⌝⦄ activate
    ⦃post⟨fun _ s => ⌜Kept origin s⌝, fun _ s => ⌜Kept origin s⌝⟩⦄ := by
  have sends := sendWrite_spec origin activateFirmware_mutation .activate
  have ready (s : Updater ε) (kept : Kept origin s)
      (ready : ¬(s.state.phase ≠ .uploaded ∨ s.state.uncertain.isSome)) :
      s.state.uncertain = none ∧ Sound origin s (script origin) false false := by
    push Not at ready
    have certain : s.state.uncertain = none := by simpa using ready.2
    obtain ⟨sent, activated, rolledBack, sound⟩ := kept
    have admits := (sound.certain certain).2
    rw [Admits, ready.1] at admits
    obtain ⟨rfl, rfl, rfl⟩ := admits
    exact ⟨certain, sound⟩
  mvcgen [activate, modifyState, sends]
  case vc2.frame s kept _ open_ => exact (ready s kept open_).2.frame
  case vc3.isFalse.post.success s kept _ open_ _ middle outcome _ =>
    obtain ⟨⟨frame, exchange, same, answered, made⟩, state⟩ := outcome
    obtain ⟨certain, sound⟩ := ready s kept open_
    refine sound.activate certain (frame.state _) made same ?_ fun _ => ⟨answered, rfl⟩
    intro held accounted
    have sent : Accounted origin.package held middle.state := by
      rw [state]
      exact accounted.congr rfl rfl rfl
    exact sent.congr rfl rfl rfl
  case vc4.isFalse.post.except.handle s kept _ open_ _ after =>
    rintro ⟨frame, exchange, same, answered, made⟩ state
    obtain ⟨certain, sound⟩ := ready s kept open_
    refine sound.activate certain frame made same ?_ fun certain_ => ?_
    · intro held accounted
      rw [state]
      exact accounted.congr rfl rfl rfl
    · simp [state] at certain_

theorem rollback_spec (origin : Updater ε) :
    ⦃fun s => ⌜Kept origin s⌝⦄ rollback
    ⦃post⟨fun _ s => ⌜Kept origin s⌝, fun _ s => ⌜Kept origin s⌝⟩⦄ := by
  have sends := sendWrite_spec origin manualFirmwareRollback_mutation .rollback
  have ready (s : Updater ε) (kept : Kept origin s)
      (ready : ¬(s.state.uncertain.isSome ∨ s.state.phase = .rollbackAcknowledged)) :
      s.state.uncertain = none ∧ ∃ sent activated, Sound origin s sent activated false := by
    push Not at ready
    have certain : s.state.uncertain = none := by simpa using ready.1
    obtain ⟨sent, activated, rolledBack, sound⟩ := kept
    have admits := (sound.certain certain).2
    refine ⟨certain, sent, activated, ?_⟩
    obtain rfl : rolledBack = false := by
      unfold Admits at admits
      split at admits <;> simp_all
    exact sound
  mvcgen [rollback, modifyState, sends]
  case vc3.frame s kept _ open_ _ _ =>
    obtain ⟨_, sent, activated, sound⟩ := ready s kept open_
    exact sound.frame
  case vc4.isFalse.isFalse.post.success s kept _ open_ _ _ _ middle outcome _ =>
    obtain ⟨⟨frame, exchange, same, answered, made⟩, state⟩ := outcome
    obtain ⟨certain, sent, activated, sound⟩ := ready s kept open_
    refine sound.rollback certain (frame.state _) made same ?_ fun _ => ⟨answered, rfl⟩
    intro held accounted
    have sent : Accounted origin.package held middle.state := by
      rw [state]
      exact accounted.congr rfl rfl rfl
    exact sent.congr rfl rfl rfl
  case vc5.isFalse.isFalse.post.except.handle s kept _ open_ _ _ _ after =>
    rintro ⟨frame, exchange, same, answered, made⟩ state
    obtain ⟨certain, sent, activated, sound⟩ := ready s kept open_
    refine sound.rollback certain frame made same ?_ fun certain_ => ?_
    · intro held accounted
      rw [state]
      exact accounted.congr rfl rfl rfl
    · simp [state] at certain_

theorem readStatus_spec {α : Type} (origin : Updater ε) (command : IpmiCommand α HpmResponseError)
    (harmless : mutates command.request = false) :
    ⦃fun s => ⌜Kept origin s⌝⦄ readStatus command
    ⦃post⟨fun _ s => ⌜Kept origin s⌝, fun _ s => ⌜Kept origin s⌝⟩⦄ := by
  have kept (s : Updater ε) (kept : Kept origin s) :
      Kept origin { s with link := (s.link.sendRecv command).2 } := by
    obtain ⟨sent, activated, rolledBack, sound⟩ := kept
    have same := writes_sendRecv sound.frame command s.state
    simp only [harmless, List.filter_cons, List.filter_nil, Bool.false_eq_true, if_false,
      List.append_nil] at same
    exact ⟨sent, activated, rolledBack, sound.frame.sendRecv command s.state, same ▸ sound.follows,
      same ▸ sound.accounted, same ▸ sound.certain⟩
  mvcgen [readStatus, sendRecv]
  all_goals exact kept _ ‹_›

/-- Whatever is called, the invariant is kept. -/
theorem run_spec (call : Call) (fits : ∀ image, bytesOf (some image) (script origin) < 2 ^ 32) :
    ⦃fun s => ⌜Kept origin s⌝⦄ call.run
    ⦃post⟨fun _ s => ⌜Kept origin s⌝, fun _ s => ⌜Kept origin s⌝⟩⦄ := by
  cases call with
  | upload progress =>
    have uploads := upload_spec origin progress fits
    mvcgen [Call.run, uploads]
  | activate =>
    have activates := activate_spec origin
    mvcgen [Call.run, activates]
  | rollback =>
    have rollbacks := rollback_spec origin
    mvcgen [Call.run, rollbacks]
  | upgradeStatus =>
    have reads := readStatus_spec origin getUpgradeStatus rfl
    mvcgen [Call.run, upgradeStatus, reads]
  | rollbackStatus =>
    have reads := readStatus_spec origin queryRollbackStatus rfl
    mvcgen [Call.run, rollbackStatus, reads]
  | selfTestResult =>
    have reads := readStatus_spec origin querySelfTestResult rfl
    mvcgen [Call.run, selfTestResult, reads]

/-! ### Whole histories -/

/-- What a method guarantees of every end holds of the updater it leaves. -/
theorem step_of_triple {P : Updater ε → Prop} {Q : Updater ε → Prop} {call : Call}
    (kept : ⦃fun s => ⌜P s⌝⦄ call.run ⦃post⟨fun _ s => ⌜Q s⌝, fun _ s => ⌜Q s⌝⟩⦄)
    (held : P s) : Q (step s call).2 := by
  have outcome := kept s held
  simp only [wp, PredTrans.apply, PredTrans.pushExcept, PredTrans.pushArg, pure, PredTrans.pure,
    Id.run, StateT.run, ExceptT.run] at outcome
  unfold step
  rcases ran : call.run.run.run s with ⟨_ | _, after⟩ <;>
    simp only [StateT.run, ExceptT.run] at ran <;> simp_all

/-- Every history keeps the invariant it began with. -/
theorem kept_after (origin : Updater ε)
    (fits : ∀ image, bytesOf (some image) (script origin) < 2 ^ 32)
    (start : Kept origin origin) (calls : List Call) : Kept origin (after step origin calls) :=
  invariant step start (fun _ call held => step_of_triple (run_spec call fits) held) calls

/-- What no call changes once an operation is uncertain. -/
structure Frozen (origin before s : Updater ε) : Prop where
  frame : Frame origin s
  state : s.state = before.state
  writes : writes origin s = writes origin before

theorem Frozen.refl (frame : Frame origin s) : Frozen origin s s := ⟨frame, rfl, rfl⟩

theorem Frozen.trans {first second third : Updater ε} (a : Frozen origin first second)
    (b : Frozen origin second third) : Frozen origin first third :=
  ⟨b.frame, b.state.trans a.state, b.writes.trans a.writes⟩

/-- A read writes nothing. -/
theorem Frozen.read {α : Type} (frame : Frame origin s) {command : IpmiCommand α HpmResponseError}
    (harmless : mutates command.request = false) :
    Frozen origin s { s with link := (s.link.sendRecv command).2 } := by
  refine ⟨frame.sendRecv command s.state, rfl, ?_⟩
  have same := writes_sendRecv frame command s.state
  simpa [harmless] using same

theorem readStatus_frozen {α : Type} (before : Updater ε) (frame : Frame origin before)
    (command : IpmiCommand α HpmResponseError) (harmless : mutates command.request = false) :
    ⦃fun s => ⌜s = before⌝⦄ readStatus command
    ⦃post⟨fun _ s => ⌜Frozen origin before s⌝, fun _ s => ⌜Frozen origin before s⌝⟩⦄ := by
  mvcgen [readStatus, sendRecv]
  all_goals
    rename_i same _ _ _
    subst same
    exact .read frame harmless

/-- Once an operation is uncertain, no call writes again. -/
theorem frozen_spec (call : Call) (before : Updater ε) (frame : Frame origin before)
    (uncertain : before.state.uncertain.isSome) :
    ⦃fun s => ⌜s = before⌝⦄ call.run
    ⦃post⟨fun _ s => ⌜Frozen origin before s⌝, fun _ s => ⌜Frozen origin before s⌝⟩⦄ := by
  cases call with
  | upload progress =>
    mvcgen [Call.run, upload]
    case vc1.upload.isTrue same _ _ =>
      subst same
      exact .refl frame
    case vc2.upload.isFalse same _ more =>
      subst same
      exact absurd (Or.inr uncertain) more
  | activate =>
    mvcgen [Call.run, activate]
    case vc1.activate.isTrue same _ _ =>
      subst same
      exact .refl frame
    case vc2.activate.isFalse same _ more =>
      subst same
      exact absurd (Or.inr uncertain) more
  | rollback =>
    mvcgen [Call.run, rollback]
    case vc1.rollback.isTrue same _ _ =>
      subst same
      exact .refl frame
    all_goals
      rename_i same _ more _ _
      subst same
      exact absurd (Or.inl uncertain) more
  | upgradeStatus =>
    have reads := readStatus_frozen before frame getUpgradeStatus rfl
    mvcgen [Call.run, upgradeStatus, reads]
  | rollbackStatus =>
    have reads := readStatus_frozen before frame queryRollbackStatus rfl
    mvcgen [Call.run, rollbackStatus, reads]
  | selfTestResult =>
    have reads := readStatus_frozen before frame querySelfTestResult rfl
    mvcgen [Call.run, selfTestResult, reads]

theorem frozen_after (before : Updater ε) (frame : Frame origin before)
    (uncertain : before.state.uncertain.isSome) (calls : List Call) :
    Frozen origin before (after step before calls) := by
  refine invariant (P := Frozen origin before) step (.refl frame) ?_ calls
  intro s call frozen
  have still : s.state.uncertain.isSome := by rw [frozen.state]; exact uncertain
  exact frozen.trans (step_of_triple (frozen_spec call s frozen.frame still) rfl)

/-! ### What `new` accepts -/

theorem checkAction_blocks {inventory : Inventory} {options : UpdateOptions} {one : PackageAction}
    {blocks after : UInt32} (fits : divCeil one.image.length options.chunkSize.toNat < 2 ^ 32)
    (within : blocks ≤ options.maxBlocks)
    (accepted : @checkAction ε inventory options blocks one = .ok after) :
    after.toNat = blocks.toNat + divCeil one.image.length options.chunkSize.toNat ∧
      after ≤ options.maxBlocks := by
  have nothing : divCeil 0 options.chunkSize.toNat = 0 := by
    rw [divCeil, Nat.zero_add]
    exact Nat.div_eq_zero_iff.mpr (by omega)
  cases one with
  | backup mask =>
    simp only [checkAction] at accepted
    split at accepted <;> cases accepted
    exact ⟨by simp [PackageAction.image, nothing], within⟩
  | prepare mask =>
    simp only [checkAction] at accepted
    split at accepted <;> cases accepted
    exact ⟨by simp [PackageAction.image, nothing], within⟩
  | upload component version description data =>
    simp only [checkAction] at accepted
    simp only [PackageAction.image] at fits ⊢
    split at accepted
    · cases accepted
    · split at accepted
      · cases accepted
      · split at accepted
        · cases accepted
        · rename_i small limit
          cases accepted
          rw [UInt32.toNat_ofNat', Nat.mod_eq_of_lt fits] at small
          refine ⟨?_, UInt32.not_lt.mp limit⟩
          rw [UInt32.toNat_add, UInt32.toNat_ofNat', Nat.mod_eq_of_lt fits,
            Nat.mod_eq_of_lt (by omega)]

theorem foldlM_checkAction_blocks {inventory : Inventory} {options : UpdateOptions}
    {actions : List PackageAction} {blocks after : UInt32}
    (fits : ∀ one ∈ actions, divCeil one.image.length options.chunkSize.toNat < 2 ^ 32)
    (within : blocks ≤ options.maxBlocks)
    (accepted : actions.foldlM (@checkAction ε inventory options) blocks = .ok after) :
    blocks.toNat + (actions.map fun one => divCeil one.image.length options.chunkSize.toNat).sum ≤
      options.maxBlocks.toNat := by
  induction actions generalizing blocks with
  | nil => simpa using UInt32.le_iff_toNat_le.mp within
  | cons one rest ih =>
    rw [List.foldlM_cons] at accepted
    cases checked : @checkAction ε inventory options blocks one with
    | error error => simp [checked, bind, Except.bind] at accepted
    | ok middle =>
      simp only [checked, bind, Except.bind] at accepted
      obtain ⟨count, still⟩ := checkAction_blocks (fits one List.mem_cons_self) within checked
      have rest_ := ih (fun later member => fits later (List.mem_cons_of_mem _ member)) still accepted
      rw [List.map_cons, List.sum_cons]
      omega

/-- What `new` accepted: an untouched updater, within its limit of blocks. -/
theorem new_accepted {link : Link ε} {package : Package} {inventory : Inventory}
    {options : UpdateOptions} {updater : Updater ε}
    (accepted : new link package inventory options = .ok updater) :
    updater.link = link ∧ updater.package = package ∧ updater.options = options ∧
      updater.state = initial ∧
      ∃ blocks, package.actions.foldlM (@checkAction ε inventory options) 0 = .ok blocks := by
  unfold new at accepted
  split at accepted
  · cases accepted
  · split at accepted
    · split at accepted
      · cases accepted
      · split at accepted
        · cases accepted
        · rename_i blocks checked
          cases accepted
          exact ⟨rfl, rfl, rfl, rfl, blocks, checked⟩
    · cases accepted

theorem writes_refl (origin : Updater ε) : writes origin origin = [] := by
  simp [writes, Link.since, exchanges]

/-- An untouched updater has written nothing. -/
theorem kept_initial (origin : Updater ε) (untouched : origin.state = initial) :
    Kept origin origin := by
  refine ⟨[], false, false, .refl origin, ⟨List.nil_prefix, ?_, by simp, ?_⟩, ⟨?_, ?_⟩, fun _ => ⟨?_, ?_⟩⟩
  · simp [writes_refl]
  · simp [writes_refl]
  · simp [untouched, initial, confirmed]
  · simp [untouched, initial]
  · simp [writes_refl]
  · simp [Admits, untouched, initial]

/-- For a package that was parsed and accepted, every history of calls sends a
prefix of the package's script, then at most one activation, once all of it was
acknowledged, and at most one rollback. What is uncertain stays the last
command, and the confirmed bytes are those of the acknowledged blocks. -/
theorem mutations_follow_script (md5 : List UInt8 → List UInt8) (bytes : List UInt8)
    (package : Package) (parsed : Package.parse md5 bytes = .ok package) (inventory : Inventory)
    (options : UpdateOptions) (link : Link ε) (updater : Updater ε)
    (accepted : new link package inventory options = .ok updater) (calls : List Call) :
    let s := after step updater calls
    let script := package.script options.chunkSize.toNat
    let made := writes updater s
    (∃ (sent : List Write) (activated rolledBack : Bool),
      sent <+: script ∧
      made.map (·.request) = sent.map Write.request ++
        (if activated then [activateFirmware.request] else []) ++
          (if rolledBack then [manualFirmwareRollback.request] else []) ∧
      (activated = true → sent = script ∧
        ∀ exchange ∈ made.take script.length, acknowledged exchange) ∧
      (∀ exchange ∈ made.dropLast, acknowledged exchange) ∧
      Accounted package (confirmed sent made) s.state) ∧
    (∀ index one, package.actions[index]? = some one →
      (script.filter (·.action = index)) = one.script options.chunkSize.toNat index ∧
        (one.script options.chunkSize.toNat index).flatMap Write.carried = one.image) ∧
    blockCount script ≤ options.maxBlocks.toNat ∧
    (s.state.uncertain.isSome → ∀ more, writes updater (after step s more) = made) := by
  obtain ⟨-, rfl, rfl, untouched, blocks, checked⟩ := new_accepted accepted
  have positive := updater.bounded.1
  have images := Package.parse_image_le parsed
  have fits (image : Nat) : bytesOf (some image) (script updater) < 2 ^ 32 := by
    have limit := bytesOf_scriptFrom_le positive images 0 image
    rw [MAX_IMAGE_SIZE] at limit
    exact Nat.lt_of_le_of_lt limit (by norm_num)
  obtain ⟨sent, activated, rolledBack, sound⟩ :=
    kept_after updater fits (kept_initial updater untouched) calls
  refine ⟨⟨sent, activated, rolledBack, sound.follows.upTo, sound.follows.requests, ?_,
    sound.follows.answered, sound.accounted⟩, ?_, ?_, ?_⟩
  · intro active
    have whole := sound.follows.activation active
    have length := congrArg List.length sound.follows.requests
    simp only [List.length_map, List.length_append, active, if_true, List.length_singleton, whole]
      at length
    have script_ : updater.package.script updater.options.chunkSize.toNat = script updater := rfl
    refine ⟨whole, fun exchange member => sound.follows.answered exchange ?_⟩
    rw [List.dropLast_eq_take]
    exact (List.take_sublist_take_left (by rw [script_]; omega)).subset member
  · intro index one found
    refine ⟨?_, one.carried_script positive index⟩
    have own := @filter_scriptFrom updater.options.chunkSize.toNat 0 index _ one found
    simp only [Nat.zero_add] at own
    exact own
  · have small : ∀ one ∈ updater.package.actions,
        divCeil one.image.length updater.options.chunkSize.toNat < 2 ^ 32 := by
      intro one member
      have limit := (divCeil_le positive one.image.length).trans (images one member)
      rw [MAX_IMAGE_SIZE] at limit
      exact Nat.lt_of_le_of_lt limit (by norm_num)
    have counts := foldlM_checkAction_blocks small UInt32.zero_le checked
    rw [Package.script, blockCount_scriptFrom]
    simpa using counts
  · intro uncertain more
    exact (frozen_after _ sound.frame uncertain more).writes

/-- A package with one image of three bytes, for component 0. -/
private def smallFile : List UInt8 :=
  PICMGFWU ++ [0, 2, 1, 2, 3, 2, 1, 0, 0, 0, 0, 0, 1, 0, 0, 0, 1, 0, 1, 0, 0, 0, 0, 0, 0, 0, 144] ++
    [2, 1, 253, 1, 0, 0, 0, 0, 0] ++ List.replicate 21 0 ++ [3, 0, 0, 0] ++ [10, 20, 30]

private def smallDigest : List UInt8 :=
  [216, 27, 160, 167, 168, 51, 152, 242, 236, 156, 48, 30, 250, 180, 63, 125]

private theorem small_component : (0 : UInt8) < 8 := by decide

/-- Revision 1.0, with no auxiliary bytes set. -/
private def smallRevision : Vector UInt8 6 := .ofFn fun place => if place.val = 0 then 1 else 0

private def smallPackage : Package where
  header := {
    deviceId := 2
    manufacturer := #v[1, 2, 3]
    product := 0x0102
    capabilities := 0
    components := ⟨1, by decide⟩
    selfTestTimeout := 0
    rollbackTimeout := 0
    inaccessibleTimeout := 0
    earliestRevision := #v[1, 0]
    firmwareRevision := smallRevision }
  actions := [.upload ⟨0, small_component⟩ smallRevision (.replicate 21 0) [10, 20, 30]]

private def smallInventory : Inventory where
  device := {
    deviceId := 2
    deviceRevision := 1
    providesDeviceSdrs := false
    deviceAvailable := true
    majorFwRevision := 1
    minorFwRevision := 2
    majorVersion := 2
    minorVersion := 0
    chassisSupport := false
    bridgeSupport := false
    ipmbEventGeneratorSupport := false
    ipmbEventReceiverSupport := false
    fruInventorySupport := true
    selDeviceSupport := false
    sdrRepositorySupport := false
    sensorDeviceSupport := true
    manufacturerId := 0x030201
    productId := 0x0102
    auxRevision := none }
  capabilities := ⟨false, false, true, 1⟩
  components := [⟨⟨0, small_component⟩, ⟨1, true⟩⟩]

/-- A controller that acknowledges everything. -/
private def obedient : Link Unit where
  reply sent := .ok ⟨0, ⟨0x2D, ((sent.getLast?.map Request.cmd).getD 0), [0, 0]⟩, by simp⟩
  sent := []

private def smallUpdater : Updater Unit :=
  ⟨obedient, smallPackage, smallInventory, ⟨2, 2, false⟩, initial, by decide⟩

/-- The small package, uploaded in two blocks, activated and rolled back. -/
theorem mutations_follow_script_small_package :
    Package.parse (fun _ => smallDigest) (smallFile ++ smallDigest) = .ok smallPackage ∧
    new obedient smallPackage smallInventory ⟨2, 2, false⟩ = .ok smallUpdater ∧
    (let s := after step smallUpdater [.upload fun _ => true, .activate, .rollback]
     ∃ (sent : List Write) (activated rolledBack : Bool),
      sent <+: smallPackage.script 2 ∧
      (writes smallUpdater s).map (·.request) = sent.map Write.request ++
        (if activated then [activateFirmware.request] else []) ++
          (if rolledBack then [manualFirmwareRollback.request] else [])) := by
  have parsed : Package.parse (fun _ => smallDigest) (smallFile ++ smallDigest) =
      .ok smallPackage := by decide +kernel
  have accepted : new obedient smallPackage smallInventory ⟨2, 2, false⟩ = .ok smallUpdater := rfl
  obtain ⟨⟨sent, activated, rolledBack, upTo, requests, _⟩, _⟩ :=
    mutations_follow_script (fun _ => smallDigest) (smallFile ++ smallDigest) smallPackage parsed
      smallInventory ⟨2, 2, false⟩ obedient smallUpdater accepted
      [.upload fun _ => true, .activate, .rollback]
  exact ⟨parsed, accepted, sent, activated, rolledBack, upTo, requests⟩

end Updater

end IpmiRs.Hpm
