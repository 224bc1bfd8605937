import IpmiRs.Hpm.Update

/-! What an update should send: the mutating commands of a package, in order,
and what it is for one of them to be acknowledged. -/
namespace IpmiRs.Hpm
open Connection Library.Bytes Library.Chunks

/-- The commands that change firmware: abort, initiate, upload, finish,
activate and roll back. -/
def mutates (request : Request) : Bool :=
  request.netfnRaw == HPM_NETFN.requestValue &&
    [0x30, 0x31, 0x32, 0x33, 0x35, 0x38].contains request.cmd

/-- A reply that confirms a mutating command: from that command, successful,
and with nothing but the identifier, or for a block a section directive. -/
def acknowledged {ε : Type} (exchange : Exchange ε) : Bool :=
  match exchange.reply with
  | .error _ => false
  | .ok response =>
    response.netfnRaw == exchange.request.netfn.responseValue &&
      response.cmd == exchange.request.cmd && response.cc == 0 &&
      (response.data == [0] ||
        (exchange.request.cmd == 0x32 && response.data.length == 9 && response.data[0]! == 0))

/-- One command of a script: the action it is for, and the bytes of the image
it carries. -/
structure Write where
  action : Nat
  message : Message
  carried : List UInt8

/-- Every command is sent to the controller itself. -/
def Write.request (write : Write) : Request := ⟨.bmc .zero, write.message⟩

/-- The start of an upgrade action: 0 backs up, 1 prepares and 2 uploads. -/
def initiateWrite (action : Nat) (components kind : UInt8) : Write :=
  ⟨action, Hpm.request 0x31 [0, components, kind], []⟩

/-- The end of an image of `length` bytes, which it gives from the lowest byte on. -/
def finishWrite (action : Nat) (component : UInt8) (length : Nat) : Write :=
  ⟨action, Hpm.request 0x33 [0, component, UInt8.ofNat length, UInt8.ofNat (length / 256),
    UInt8.ofNat (length / 65536), UInt8.ofNat (length / 16777216)], []⟩

/-- The block of a script that carries `chunk`. -/
def blockWrite (action number : Nat) (chunk : List UInt8) : Write :=
  ⟨action, Hpm.request 0x32 ([0, UInt8.ofNat number] ++ chunk), chunk⟩

/-- The command of a script that a block is. -/
def UploadFirmwareBlock.write (action : Nat) (block : UploadFirmwareBlock) : Write :=
  ⟨action, block.command.message, block.data⟩

/-- The commands of one action, for blocks of `size` bytes. -/
def PackageAction.script (size action : Nat) : PackageAction → List Write
  | .backup mask => [initiateWrite action mask.bits 0]
  | .prepare mask => [initiateWrite action mask.bits 1]
  | .upload component _ _ data =>
    [initiateWrite action (1 <<< component.value) 2] ++
      (chunks size data).zipIdx.map (fun (chunk, number) => blockWrite action number chunk) ++
      [finishWrite action component.value data.length]

/-- The commands of some actions, the first of which has the number `action`. -/
def scriptFrom (size : Nat) : Nat → List PackageAction → List Write
  | _, [] => []
  | action, first :: rest => first.script size action ++ scriptFrom size (action + 1) rest

/-- The canonical script of a package. -/
def Package.script (package : Package) (size : Nat) : List Write :=
  scriptFrom size 0 package.actions

def PackageAction.isUpload : PackageAction → Bool
  | .upload .. => true
  | _ => false

/-- The last action with an image among the first `count` of a package. -/
def Package.lastImage (package : Package) : Nat → Option Nat
  | 0 => none
  | count + 1 =>
    if package.actions[count]?.any PackageAction.isUpload then some count
    else package.lastImage count

/-- How many bytes of an image some commands carry. -/
def bytesOf (image : Option Nat) (writes : List Write) : Nat :=
  ((writes.filter fun write => some write.action == image).map (·.carried.length)).sum

/-- The commands of a script that were acknowledged, where the exchanges made
are those of the script in order. -/
def confirmed {ε : Type} (sent : List Write) (made : List (Exchange ε)) : List Write :=
  ((sent.zip made).filter fun (_, exchange) => acknowledged exchange).map Prod.fst

@[simp] theorem bytesOf_nil (image : Option Nat) : bytesOf image [] = 0 := rfl

@[simp] theorem bytesOf_append (image : Option Nat) (first second : List Write) :
    bytesOf image (first ++ second) = bytesOf image first + bytesOf image second := by
  simp [bytesOf]

theorem bytesOf_eq_zero {image : Option Nat} {writes : List Write}
    (other : ∀ write ∈ writes, some write.action ≠ image ∨ write.carried = []) :
    bytesOf image writes = 0 := by
  simp only [bytesOf, List.sum_eq_zero_iff_forall_eq_nat, List.mem_map, List.mem_filter, beq_iff_eq]
  rintro _ ⟨write, ⟨member, same⟩, rfl⟩
  rcases other write member with different | empty
  · exact absurd same different
  · simp [empty]

theorem bytesOf_plain (image : Option Nat) {write : Write} (plain : write.carried = []) :
    bytesOf image [write] = 0 := by
  apply bytesOf_eq_zero
  intro one member
  rw [List.mem_singleton.mp member]
  exact Or.inr plain

@[simp] theorem bytesOf_initiateWrite (image : Option Nat) (action : Nat) (components kind : UInt8) :
    bytesOf image [initiateWrite action components kind] = 0 :=
  bytesOf_plain image rfl

@[simp] theorem bytesOf_finishWrite (image : Option Nat) (action : Nat) (component : UInt8)
    (length : Nat) : bytesOf image [finishWrite action component length] = 0 :=
  bytesOf_plain image rfl

/-- An image is finished with the command of its script. -/
theorem finishFirmwareUpload_request (action : Nat) (component : ComponentId) (length : Nat) :
    (finishFirmwareUpload component (UInt32.ofNat length)).request =
      (finishWrite action component.value length).request := by
  have bytes : toLe 4 (UInt32.ofNat length).toNat = [UInt8.ofNat length, UInt8.ofNat (length / 256),
      UInt8.ofNat (length / 65536), UInt8.ofNat (length / 16777216)] := by
    have low := toLe_mod (Nat.le_refl 4) length
    simp only [toLe, Nat.div_div_eq_div_mul] at low ⊢
    exact low
  rw [IpmiCommand.request, finishFirmwareUpload, simpleWrite, bytes]
  rfl

theorem bytesOf_le_of_prefix (image : Option Nat) {first second : List Write}
    (start : first <+: second) : bytesOf image first ≤ bytesOf image second := by
  obtain ⟨rest, rfl⟩ := start
  simp

theorem confirmed_append {ε : Type} {first second : List Write} {made more : List (Exchange ε)}
    (same : first.length = made.length) :
    confirmed (first ++ second) (made ++ more) = confirmed first made ++ confirmed second more := by
  simp [confirmed, List.zip_append same]

/-- What comes after the script confirms nothing of it. -/
theorem confirmed_of_le {ε : Type} {sent : List Write} {made : List (Exchange ε)}
    (covered : sent.length ≤ made.length) (more : List (Exchange ε)) :
    confirmed sent (made ++ more) = confirmed sent made := by
  induction sent generalizing made with
  | nil => rfl
  | cons write sent ih =>
    cases made with
    | nil => simp at covered
    | cons exchange made =>
      have later := ih (Nat.le_of_succ_le_succ covered)
      simp only [confirmed, List.cons_append, List.zip_cons_cons, List.filter_cons] at later ⊢
      split <;> simp [later]

/-- What was all acknowledged is all confirmed. -/
theorem confirmed_of_all {ε : Type} {sent : List Write} {made : List (Exchange ε)}
    (same : sent.length = made.length) (all : ∀ exchange ∈ made, acknowledged exchange) :
    confirmed sent made = sent := by
  rw [confirmed, List.filter_eq_self.mpr, List.map_fst_zip (by omega)]
  intro pair member
  exact all _ (List.of_mem_zip member).2

/-- The writes of an action all belong to it. -/
theorem PackageAction.action_of_mem_script {size action : Nat} {one : PackageAction} {write : Write}
    (member : write ∈ one.script size action) : write.action = action := by
  cases one with
  | backup mask => exact List.mem_singleton.mp member ▸ rfl
  | prepare mask => exact List.mem_singleton.mp member ▸ rfl
  | upload component version description data =>
    simp only [script, List.mem_append, List.mem_singleton, List.mem_map] at member
    rcases member with (rfl | ⟨⟨chunk, number⟩, _, rfl⟩) | rfl <;> rfl

theorem action_of_mem_scriptFrom {size action : Nat} {actions : List PackageAction} {write : Write}
    (member : write ∈ scriptFrom size action actions) : action ≤ write.action := by
  induction actions generalizing action with
  | nil => simp [scriptFrom] at member
  | cons one rest ih =>
    rcases List.mem_append.mp member with own | later
    · rw [PackageAction.action_of_mem_script own]
    · exact Nat.le_of_succ_le (ih later)

/-- The bytes an action's commands carry, in order, are its image. -/
theorem PackageAction.carried_script {size : Nat} (positive : 0 < size) (action : Nat)
    (one : PackageAction) : (one.script size action).flatMap Write.carried = one.image := by
  cases one with
  | backup mask => rfl
  | prepare mask => rfl
  | upload component version description data =>
    have blocks : ((chunks size data).zipIdx.map fun (chunk, number) =>
        blockWrite action number chunk).flatMap Write.carried = data := by
      have carried : (Write.carried ∘ fun (pair : List UInt8 × Nat) =>
          blockWrite action pair.2 pair.1) = Prod.fst := rfl
      rw [List.flatMap_def, List.map_map, carried, List.zipIdx_map_fst, flatten_chunks positive]
    simp [script, image, List.flatMap_append, blocks, initiateWrite, finishWrite]

/-- The blocks of an image are those of its script. -/
theorem Updater.blocks_write {size : Nat} (bounded : 0 < size ∧ size ≤ 23) (action : Nat)
    (data : List UInt8) :
    (Updater.blocks size bounded data).map (·.write action) =
      (chunks size data).zipIdx.map fun (chunk, number) => blockWrite action number chunk := by
  have plain : (chunks size data).zipIdx =
      (chunks size data).attach.zipIdx.map (Prod.map Subtype.val id) := by
    rw [← List.zipIdx_map, List.attach_map_subtype_val]
  rw [plain, Updater.blocks, List.map_map, List.map_map]
  rfl

/-- The bytes of an action's own image. -/
theorem PackageAction.bytesOf_script {size : Nat} (positive : 0 < size) (action : Nat)
    (one : PackageAction) : bytesOf (some action) (one.script size action) = one.image.length := by
  rw [← one.carried_script positive action, List.length_flatMap, bytesOf, List.filter_eq_self.mpr]
  intro write member
  simp [action_of_mem_script member]

/-- Commands of earlier or later actions carry nothing of an image. -/
theorem bytesOf_scriptFrom_of_lt {size action image : Nat} (actions : List PackageAction)
    (before : image < action) : bytesOf (some image) (scriptFrom size action actions) = 0 := by
  apply bytesOf_eq_zero
  intro write member
  left
  have later := action_of_mem_scriptFrom member
  simp only [ne_eq, Option.some.injEq]
  omega

/-- A script carries no more of an image than the longest one has. -/
theorem bytesOf_scriptFrom_le {size limit : Nat} (positive : 0 < size)
    {actions : List PackageAction} (bounded : ∀ one ∈ actions, one.image.length ≤ limit)
    (action : Nat) (image : Nat) : bytesOf (some image) (scriptFrom size action actions) ≤ limit := by
  induction actions generalizing action with
  | nil => simp [scriptFrom]
  | cons one rest ih =>
    rw [scriptFrom, bytesOf_append]
    by_cases same : image = action
    · subst same
      rw [one.bytesOf_script positive, bytesOf_scriptFrom_of_lt rest (Nat.lt_succ_self _)]
      exact bounded one List.mem_cons_self
    · have other : bytesOf (some image) (one.script size action) = 0 := by
        apply bytesOf_eq_zero
        intro write member
        left
        rw [PackageAction.action_of_mem_script member]
        simpa using Ne.symm same
      rw [other, Nat.zero_add]
      exact ih (fun later member => bounded later (List.mem_cons_of_mem _ member)) (action + 1)

/-- The commands of a script for one action are its own, in order. -/
theorem filter_scriptFrom {size first index : Nat} {actions : List PackageAction}
    {one : PackageAction} (found : actions[index]? = some one) :
    (scriptFrom size first actions).filter (fun write => write.action = first + index) =
      one.script size (first + index) := by
  induction actions generalizing first index with
  | nil => simp at found
  | cons head rest ih =>
    rw [scriptFrom, List.filter_append]
    cases index with
    | zero =>
      obtain rfl : head = one := by simpa using found
      have own : (head.script size first).filter (fun write => write.action = first + 0) =
          head.script size first := by
        rw [List.filter_eq_self]
        intro write member
        simp [PackageAction.action_of_mem_script member]
      have later : (scriptFrom size (first + 1) rest).filter
          (fun write => write.action = first + 0) = [] := by
        rw [List.filter_eq_nil_iff]
        intro write member
        have after := action_of_mem_scriptFrom member
        simp only [decide_eq_true_eq]
        omega
      rw [own, later, List.append_nil, Nat.add_zero]
    | succ index =>
      have own : (head.script size first).filter (fun write => write.action = first + (index + 1)) =
          [] := by
        rw [List.filter_eq_nil_iff]
        intro write member
        simp [PackageAction.action_of_mem_script member]
      rw [own, List.nil_append, show first + (index + 1) = first + 1 + index by omega]
      exact ih (by simpa using found)

/-- The blocks among some commands. -/
def blockCount (writes : List Write) : Nat := writes.countP fun write => write.message.cmd == 0x32

theorem blockCount_append (first second : List Write) :
    blockCount (first ++ second) = blockCount first + blockCount second := List.countP_append

/-- An action has as many blocks as its image is cut into. -/
theorem PackageAction.blockCount_script (size action : Nat) (one : PackageAction) :
    blockCount (one.script size action) = divCeil one.image.length size := by
  have nothing : divCeil 0 size = 0 := by
    rw [divCeil, Nat.zero_add]
    exact Nat.div_eq_zero_iff.mpr (by omega)
  cases one with
  | backup mask => simp [image, nothing, script, blockCount, initiateWrite, Hpm.request,
      Message.newRequest]
  | prepare mask => simp [image, nothing, script, blockCount, initiateWrite, Hpm.request,
      Message.newRequest]
  | upload component version description data =>
    have initiate : blockCount [initiateWrite action (1 <<< component.value) 2] = 0 := rfl
    have finish : blockCount [finishWrite action component.value data.length] = 0 := rfl
    have blocks : blockCount ((chunks size data).zipIdx.map fun (chunk, number) =>
        blockWrite action number chunk) = divCeil data.length size := by
      rw [blockCount, List.countP_eq_length.mpr]
      · simp
      · intro write member
        obtain ⟨_, _, rfl⟩ := List.mem_map.mp member
        rfl
    rw [script, blockCount_append, blockCount_append, initiate, finish, blocks, image]
    omega

theorem blockCount_scriptFrom (size action : Nat) (actions : List PackageAction) :
    blockCount (scriptFrom size action actions) =
      (actions.map fun one => divCeil one.image.length size).sum := by
  induction actions generalizing action with
  | nil => rfl
  | cons one rest ih => rw [scriptFrom, blockCount_append, one.blockCount_script, ih]; rfl

/-- Every action has a command. -/
theorem scriptFrom_eq_nil {size action : Nat} {actions : List PackageAction} :
    scriptFrom size action actions = [] ↔ actions = [] := by
  cases actions with
  | nil => simp [scriptFrom]
  | cons one rest => cases one <;> simp [scriptFrom, PackageAction.script]

/-- The script of a package, cut where an action begins. -/
theorem scriptFrom_append (size action : Nat) (first second : List PackageAction) :
    scriptFrom size action (first ++ second) =
      scriptFrom size action first ++ scriptFrom size (action + first.length) second := by
  induction first generalizing action with
  | nil => rfl
  | cons one first ih =>
    simp [scriptFrom, ih, Nat.add_assoc, Nat.add_comm 1]

theorem action_lt_of_mem_scriptFrom {size action : Nat} {actions : List PackageAction}
    {write : Write} (member : write ∈ scriptFrom size action actions) :
    write.action < action + actions.length := by
  induction actions generalizing action with
  | nil => simp [scriptFrom] at member
  | cons one rest ih =>
    rw [List.length_cons]
    rcases List.mem_append.mp member with own | later
    · rw [PackageAction.action_of_mem_script own]
      omega
    · have bound := ih later
      omega

variable {ε : Type}

theorem reply_isOk_iff (data : List UInt8) (size : Nat) :
    (∃ rest, reply data size = .ok rest) ↔ data.length = size ∧ data[0]! = 0 := by
  unfold reply
  split
  · simp_all
  · split <;> simp_all

theorem eq_singleton_zero_iff (data : List UInt8) :
    data = [0] ↔ data.length = 1 ∧ data[0]! = 0 := by
  constructor
  · rintro rfl
    exact ⟨rfl, rfl⟩
  · rintro ⟨one, zero⟩
    obtain ⟨byte, rfl⟩ := List.length_eq_one_iff.mp one
    rw [show byte = 0 from zero]

/-- A command that changes firmware, and succeeds on an acknowledgement alone. -/
structure Mutation {α : Type} (command : IpmiCommand α HpmResponseError) : Prop where
  mutates : mutates command.request
  answered : ∀ (reply : Except ε Response),
    (∃ output, command.readReply reply = .ok output) ↔ acknowledged ⟨command.request, reply⟩

theorem map_isOk {α β γ : Type} (result : Except β α) (f : α → γ) :
    (∃ output, result.map f = .ok output) ↔ ∃ output, result = .ok output := by
  cases result <;> simp [Except.map]

theorem simpleWrite_parse_isOk (cmd : UInt8) (data response : List UInt8) :
    (∃ output, (simpleWrite cmd data).parse response = .ok output) ↔ response = [0] := by
  rw [eq_singleton_zero_iff, ← reply_isOk_iff]
  exact map_isOk _ _

theorem UploadAcknowledgement.parse_isOk (data : List UInt8) :
    (∃ output, parse data = .ok output) ↔ data = [0] ∨ (data.length = 9 ∧ data[0]! = 0) := by
  rw [eq_singleton_zero_iff]
  unfold parse
  split
  · rename_i one
    rw [map_isOk, reply_isOk_iff]
    simp [one]
  · rename_i more
    rw [map_isOk, reply_isOk_iff]
    simp [more]

/-- The commands are told apart by what they parse. -/
theorem mutation_of_parse {α : Type} {command : IpmiCommand α HpmResponseError}
    (changes : mutates command.request)
    (parses : ∀ data, (∃ output, command.parse data = .ok output) ↔
      data = [0] ∨ (command.message.cmd = 0x32 ∧ data.length = 9 ∧ data[0]! = 0)) :
    @Mutation ε _ command where
  mutates := changes
  answered reply := by
    simp only [IpmiCommand.readReply_eq_ok]
    cases reply with
    | error error => simp [acknowledged]
    | ok response =>
      have parsed := parses response.data
      simp only [acknowledged, IpmiCommand.request, Request.netfn, Request.cmd, Bool.and_eq_true,
        Bool.or_eq_true, beq_iff_eq]
      constructor
      · rintro ⟨output, _, ⟨⟩, netfn, cmd, cc, read⟩
        exact ⟨⟨⟨netfn, cmd⟩, cc⟩, by simpa only [and_assoc] using parsed.mp ⟨output, read⟩⟩
      · rintro ⟨⟨⟨netfn, cmd⟩, cc⟩, shape⟩
        obtain ⟨output, read⟩ := parsed.mpr (by simpa only [and_assoc] using shape)
        exact ⟨output, _, rfl, netfn, cmd, cc, read⟩

theorem simpleWrite_mutation {cmd : UInt8} (data : List UInt8)
    (write : cmd ∈ [0x30, 0x31, 0x33, 0x35, 0x38]) :
    @Mutation ε _ (simpleWrite cmd data) := by
  apply mutation_of_parse
  · simp only [List.mem_cons, List.not_mem_nil, or_false] at write
    rcases write with rfl | rfl | rfl | rfl | rfl <;> rfl
  · intro response
    have other : (simpleWrite cmd data).message.cmd ≠ 0x32 := by
      change cmd ≠ 0x32
      rintro rfl
      revert write
      decide
    simp only [simpleWrite_parse_isOk, other, false_and, or_false]

theorem activateFirmware_mutation : @Mutation ε _ activateFirmware :=
  simpleWrite_mutation _ (by decide)

theorem manualFirmwareRollback_mutation : @Mutation ε _ manualFirmwareRollback :=
  simpleWrite_mutation _ (by decide)

theorem UploadFirmwareBlock.mutation (block : UploadFirmwareBlock) :
    @Mutation ε _ block.command := by
  apply mutation_of_parse
  · rfl
  · intro response
    have cmd : block.command.message.cmd = 0x32 := rfl
    simp only [cmd, true_and]
    exact UploadAcknowledgement.parse_isOk response

end IpmiRs.Hpm
