import IpmiRs.Ime.Update
import IpmiRs.Library.Script
import IpmiRs.OemExchanges

/-! What an ME update exchanges: one script of reads and mutations, each sent
only after the one before it passed. -/
namespace IpmiRs.Ime
open Connection App Library Library.Chunks Library.Stateful Library.Script OverLink

/-- The update state that an action leads to. -/
def Action.required : Action → UpdateState
  | .prepare => .requested
  | .open => .inProgress
  | .write _ _ => .inProgress
  | .close _ _ => .requested
  | .register rollback => if rollback then .rolledBack else .success

/-- The status that is asked for after an action: its state, and after a close a valid image. -/
def Action.Accepts (action : Action) (status : Status) : Prop :=
  status.updateState = action.required ∧
    (action.cmd = 0xA3 → status.stagedImageValid = true)

/-- The write of a chunk, by its place in the image. -/
def writeOf (chunk : List UInt8 × Nat) : Action := .write (UInt8.ofNat chunk.2) chunk.1

/-- The actions of an update, each once. -/
def plan (image : ValidatedImage) : List Action :=
  [.prepare, .open] ++ (chunks WRITE_BYTES image.bytes).zipIdx.map writeOf ++
    [.close image.len image.crc8, .register false]

section script
variable {ε α β γ : Type}

/-- A command that is answered with a value that is accepted. -/
def commandStep (command : IpmiCommand α β) (accept : α → Prop) : Step (Exchange ε) where
  expected one := one.request = command.request
  passed one := ∃ value,
    command.readReply one.reply = (.ok value : Except (IpmiError ε β) α) ∧ accept value

variable (target : ImeTarget)

/-- The selected device is an ME. -/
def identity : Step (Exchange ε) :=
  commandStep (targetDeviceId (some target.route)) fun device => isIme device = true

def statusStep (accept : Status → Prop) : Step (Exchange ε) :=
  commandStep (getStatus target).toIpmiCommand accept

def mutationStep (action : Action) : Step (Exchange ε) :=
  commandStep (mutation target action).toIpmiCommand fun _ => True

/-- An action with the reads around it. -/
def block (action : Action) : List (Step (Exchange ε)) :=
  [identity target, mutationStep target action, identity target, statusStep target action.Accepts]

/-- The reads before the first action. -/
def preflight : List (Step (Exchange ε)) :=
  [identity target, identity target, statusStep target fun _ => True, identity target,
    commandStep (getCapabilities target).toIpmiCommand fun _ => True]

/-- The script of an update. -/
def script (image : ValidatedImage) : List (Step (Exchange ε)) :=
  preflight target ++ (plan image).flatMap (block target)

variable {target}

/-- A computation does the steps if it returns, and keeps to them if it fails. -/
def Follows (x : OverLink ε γ α) (steps : List (Step (Exchange ε))) (P : α → Prop) : Prop :=
  Tells x (fun value log => Completed steps log ∧ P value) (fun _ log => Along steps log)

theorem Follows.pure {value : α} {P : α → Prop} (holds : P value) :
    Follows (pure value : OverLink ε γ α) [] P :=
  Tells.pure ⟨.nil, holds⟩

theorem Follows.throw (error : γ) (steps : List (Step (Exchange ε))) (P : α → Prop) :
    Follows (throw error : OverLink ε γ α) steps P :=
  Tells.throw (.stopped steps)

/-- Steps after steps. -/
theorem Follows.bind {x : OverLink ε γ α} {f : α → OverLink ε γ β} {steps more : List (Step (Exchange ε))}
    {P : α → Prop} {Q : β → Prop} (first : Follows x steps P)
    (next : ∀ value, P value → Follows (f value) more Q) : Follows (x >>= f) (steps ++ more) Q := by
  refine Tells.bind first (fun _ _ along => along.extend more) ?_
  rintro value log ⟨completed, holds⟩
  refine Tells.mono (next value holds) ?_ ?_
  · rintro result later ⟨others, holds⟩
    exact ⟨List.rel_append completed others, holds⟩
  · intro error later along
    exact along.after completed

/-- A command to the ME follows a look at its identity. -/
theorem sendOem_follows (cmd : UInt8) (data : List UInt8) (parse : List UInt8 → Except ResponseError α)
    (accept : α → Prop) :
    Tells (sendOem (target.command cmd data parse) : OverLink ε (OemError ε ResponseError) α)
      (fun value log => ∃ check one, log = [check, one] ∧ (identity target).Done check ∧
        one.request = (target.command cmd data parse).request ∧
        (target.command cmd data parse).readReply one.reply =
          (.ok value : Except (IpmiError ε ResponseError) α))
      (fun _ log =>
        Along [identity target, commandStep (target.command cmd data parse).toIpmiCommand accept] log) := by
  have known : ∀ check : Exchange ε, identified (target.command cmd data parse) check = true ↔
      (identity target).passed check := by
    intro check
    unfold identified identity commandStep
    cases read : ((targetDeviceId (target.command cmd data parse).target).readReply check.reply :
        Except (IpmiError ε NotEnoughData) DeviceId) with
    | error error =>
      simp only [Bool.false_eq_true, false_iff]
      rintro ⟨device, other, -⟩
      cases read.symm.trans other
    | ok device =>
      constructor
      · intro same
        exact ⟨device, read, (Bool.and_eq_true_iff.mp same).2⟩
      · rintro ⟨_, other, same⟩
        cases read.symm.trans other
        have ids := same
        simp only [isIme, Bool.and_eq_true] at ids
        simp only [ImeTarget.command, Option.all_some, Bool.and_eq_true]
        exact ⟨⟨ids.1.1.1, ids.1.1.2⟩, same⟩
  intro link
  refine Ends.mono (sendOem_told (target.command cmd data parse) link) ?_ ?_
  · rintro value after ⟨extended, check, one, since, asked, same, sent, read⟩
    exact ⟨extended, check, one, since, ⟨asked, (known check).mp same⟩, sent, read⟩
  · rintro error after ⟨extended, check, asked, ⟨other, since, -⟩ | ⟨one, failure, same, since, sent, -, read⟩⟩
    · rw [since]
      refine ⟨extended, .failed _ asked fun passed => ?_⟩
      rw [(known check).mpr passed] at other
      cases other
    · rw [since]
      refine ⟨extended, .passed ⟨asked, (known check).mp same⟩ (.failed _ sent ?_)⟩
      rintro ⟨value, returned, -⟩
      rw [read] at returned
      cases returned

/-- A command whose values are all accepted. -/
theorem command_follows (cmd : UInt8) (data : List UInt8) (parse : List UInt8 → Except ResponseError α)
    (told : OemError ε ResponseError → WorkflowError ε) :
    Follows (ExceptT.adapt told (sendOem (target.command cmd data parse)))
      [identity target, commandStep (target.command cmd data parse).toIpmiCommand fun _ => True]
      fun _ => True := by
  refine Tells.adapt (Tells.mono (sendOem_follows cmd data parse fun _ => True) ?_ fun _ _ along => along)
  rintro value log ⟨check, one, rfl, known, sent, read⟩
  exact ⟨.cons known (.cons ⟨sent, value, read, trivial⟩ .nil), trivial⟩

theorem imeMutate_follows (stage : Stage) (action : Action) :
    Follows (imeMutate target stage action : OverLink ε (WorkflowError ε) Unit)
      [identity target, mutationStep target action] fun _ => True :=
  command_follows _ _ _ _

theorem imeStatus_tells (accept : Status → Prop) :
    Tells (imeStatus target : OverLink ε (WorkflowError ε) Status)
      (fun status log => ∃ check one, log = [check, one] ∧ (identity target).Done check ∧
        one.request = (getStatus target).request ∧
        (getStatus target).readReply one.reply = (.ok status : Except (IpmiError ε ResponseError) Status))
      (fun _ log => Along [identity target, statusStep target accept] log) :=
  Tells.adapt (sendOem_follows _ _ _ accept)

/-- A read of the status that returns is of the expected state, and passes where it is accepted. -/
theorem imeExpect_tells (stage : Stage) (expected : UpdateState) {accept : Status → Prop}
    (state : ∀ status, accept status → status.updateState = expected) :
    Tells (imeExpect target stage expected : OverLink ε (WorkflowError ε) Status)
      (fun status log => status.updateState = expected ∧
        (accept status → Completed [identity target, statusStep target accept] log) ∧
        (¬accept status → Along [identity target, statusStep target accept] log))
      (fun _ log => Along [identity target, statusStep target accept] log) := by
  refine Tells.bind (imeStatus_tells accept) (fun _ _ along => along) ?_
  rintro status log ⟨check, one, rfl, known, sent, read⟩
  have refused : ¬accept status → Along [identity target, statusStep target accept] [check, one] := by
    intro refused
    refine .passed known (.failed _ sent ?_)
    rintro ⟨other, again, accepted⟩
    cases read.symm.trans again
    exact refused accepted
  split
  · rename_i other
    exact Tells.throw (by simpa using refused fun accepted => other (state _ accepted))
  · rename_i same
    refine Tells.pure ⟨not_not.mp same, fun accepted => ?_, fun no => by simpa using refused no⟩
    exact .cons known (.cons ⟨sent, status, read, accepted⟩ .nil)

/-- The read after an action whose outcome is its state alone. -/
theorem imeExpect_follows (stage : Stage) {action : Action} (plain : action.cmd ≠ 0xA3) :
    Follows (imeExpect target stage action.required : OverLink ε (WorkflowError ε) Status)
      [identity target, statusStep target action.Accepts] fun _ => True :=
  Tells.mono (imeExpect_tells stage action.required fun _ accepted => accepted.1)
    (fun _ _ told => ⟨told.2.1 ⟨told.1, fun close => absurd close plain⟩, trivial⟩) (fun _ _ along => along)

theorem block_follows (stage : Stage) {action : Action} (plain : action.cmd ≠ 0xA3)
    {f : Status → OverLink ε (WorkflowError ε) α} {more : List (Step (Exchange ε))} {P : α → Prop}
    (next : ∀ status, Follows (f status) more P) :
    Follows (do
      imeMutate target stage action
      let status ← imeExpect target stage action.required
      f status) (block target action ++ more) P := by
  change Follows _ ([identity target, mutationStep target action] ++
    ([identity target, statusStep target action.Accepts] ++ more)) P
  refine Follows.bind (imeMutate_follows stage action) fun _ _ => ?_
  exact Follows.bind (imeExpect_follows stage plain) fun status _ => next status

theorem writeChunks_follows (pieces : List (List UInt8 × Nat)) :
    Follows (writeChunks target pieces : OverLink ε (WorkflowError ε) Unit)
      ((pieces.map writeOf).flatMap (block target)) fun _ => True := by
  induction pieces with
  | nil => exact Follows.pure trivial
  | cons piece rest ih =>
    rw [List.map_cons, List.flatMap_cons]
    have plain : (writeOf piece).cmd ≠ 0xA3 := show (0xA2 : UInt8) ≠ 0xA3 by decide
    exact block_follows _ plain fun _ => ih

/-- The last two actions, where a close that leaves no valid image is the end. -/
theorem closing_follows (image : ValidatedImage) :
    Follows (do
        imeMutate target .close (.close image.len image.crc8)
        let status ← imeExpect target .close .requested
        if ¬status.stagedImageValid then throw WorkflowError.invalidImageStatus
        else
          imeMutate target .activate (.register false)
          imeExpect target .activate .success : OverLink ε (WorkflowError ε) Status)
      (block target (.close image.len image.crc8) ++ block target (.register false)) fun _ => True := by
  have activated : Follows (do
      imeMutate target .activate (.register false)
      imeExpect target .activate .success : OverLink ε (WorkflowError ε) Status)
      (block target (.register false)) fun _ => True :=
    Follows.bind (imeMutate_follows _ _) fun _ _ =>
      imeExpect_follows _ (show (Action.register false).cmd ≠ 0xA3 by decide)
  change Follows _ ([identity target, mutationStep target (.close image.len image.crc8)] ++
    ([identity target, statusStep target (Action.close image.len image.crc8).Accepts] ++
      block target (.register false))) _
  refine Follows.bind (imeMutate_follows _ _) fun _ _ => ?_
  have state : ∀ status, (Action.close image.len image.crc8).Accepts status →
      status.updateState = .requested := fun _ accepted => accepted.1
  refine Tells.bind (imeExpect_tells .close .requested state) (fun _ _ along => along.extend _) ?_
  rintro status log ⟨state, passes, fails⟩
  split
  · rename_i invalid
    refine Tells.throw ?_
    rw [List.append_nil]
    exact (fails fun accepted => invalid (accepted.2 rfl)).extend _
  · rename_i valid
    have completed := passes ⟨state, fun _ => not_not.mp valid⟩
    exact Tells.mono activated (fun _ _ told => ⟨List.rel_append completed told.1, trivial⟩)
      (fun _ _ along => along.after completed)

/-- The actions of an update, once the preflight is over. -/
theorem stageAndActivate_follows (image : ValidatedImage) :
    Follows (stageAndActivate target image : OverLink ε (WorkflowError ε) Status)
      ((plan image).flatMap (block target)) fun _ => True := by
  have blocks : (plan image).flatMap (block target) = block target .prepare ++ (block target .open ++
      ((((chunks WRITE_BYTES image.bytes).zipIdx.map writeOf).flatMap (block target)) ++
        (block target (.close image.len image.crc8) ++ block (ε := ε) target (.register false)))) := by
    simp [plan]
  rw [blocks]
  refine block_follows _ (show Action.prepare.cmd ≠ 0xA3 by decide) fun _ => ?_
  refine block_follows _ (show Action.open.cmd ≠ 0xA3 by decide) fun _ => ?_
  exact Follows.bind (writeChunks_follows _) fun _ _ => closing_follows image

/-- The inventory is read before anything is changed. -/
theorem imeInfo_follows :
    Follows (imeInfo target : OverLink ε (WorkflowError ε) Inventory) (preflight target) fun _ => True := by
  have looked : Tells (ExceptT.adapt readIdentity (sendRecv (targetDeviceId (some target.route))) :
      OverLink ε (WorkflowError ε) DeviceId)
      (fun device log => (isIme device = true → Completed [identity target] log) ∧
        (isIme device ≠ true → Along [identity target] log))
      (fun _ log => Along [identity target] log) := by
    refine Tells.adapt (Tells.mono (sendRecv_tells _) ?_ ?_)
    · rintro device log ⟨one, rfl, sent, read⟩
      refine ⟨fun same => .cons ⟨sent, device, read, same⟩ .nil, fun other => .failed _ sent ?_⟩
      rintro ⟨_, again, same⟩
      cases read.symm.trans again
      exact other same
    · rintro error log ⟨one, rfl, sent, read⟩
      refine .failed _ sent ?_
      rintro ⟨_, again, -⟩
      cases read.symm.trans again
  refine Tells.bind looked (fun _ _ along => along.extend _) ?_
  rintro device log ⟨same, other⟩
  split
  · rename_i unsupported
    refine Tells.throw ?_
    rw [List.append_nil]
    exact (other unsupported).extend _
  · rename_i supported
    have first : Completed [identity target] log := same (not_not.mp supported)
    suffices reads : Follows _ (preflight target).tail fun _ : Inventory => True from
      Tells.mono reads (fun _ _ told => ⟨List.rel_append first told.1, trivial⟩)
        (fun _ _ along => along.after first)
    split
    · exact .throw _ _ _
    · exact Follows.bind (command_follows _ _ _ _) fun _ _ =>
        Follows.bind (command_follows _ _ _ _) fun _ _ => Follows.pure trivial

/-- An update keeps to its script. -/
theorem imeUpdate_follows (image : ValidatedImage) :
    Follows (imeUpdate target image : OverLink ε (WorkflowError ε) Status) (script target image)
      fun _ => True := by
  refine Follows.bind imeInfo_follows fun info _ => ?_
  split
  · exact .throw _ _ _
  split
  · exact .throw _ _ _
  split
  · exact .throw _ _ _
  split
  · exact .throw _ _ _
  split
  · exact .throw _ _ _
  split
  · exact .throw _ _ _
  · exact stageAndActivate_follows image

end script

end IpmiRs.Ime
