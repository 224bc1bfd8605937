import IpmiRs.Fwum.Attempts
import IpmiRs.Fwum.UpdateSafety

/-! Channel buffers are put back: staging arms up to three of them, and every
way out of it clears those that may have been set, the last one first. -/
namespace IpmiRs.Fwum
open Connection App Library Library.Stateful Library.Runs OverLink

variable {ε : Type}

namespace UpdateSession
variable {s t u : UpdateSession ε}

/-! ### What staging does before it clears -/

/-- From one state to another no buffer was cleared, those that may have been
set were armed, and the mutations of some exchanges were acknowledged. -/
structure Worked (s t : UpdateSession ε) (settled : List (Exchange ε)) : Prop where
  extended : s.link.Extends t.link
  armed : t.armedBuffers.map armedPlace =
    pending (t.link.since s.link) ++ s.armedBuffers.map armedPlace
  uncleared : ∀ one ∈ t.link.since s.link, action one ≠ some .clearBuffer
  acknowledged : ∀ one ∈ settled, (action one).isSome = true → acknowledged one = true

/-- Whatever was sent was acknowledged. -/
abbrev Working (s t : UpdateSession ε) : Prop := Worked s t (t.link.since s.link)

/-- Whatever was sent was acknowledged, but for what was sent last. -/
abbrev Failing (s t : UpdateSession ε) : Prop := Worked s t (t.link.since s.link).dropLast

theorem Worked.refl (s : UpdateSession ε) : Working s s where
  extended := .refl _
  armed := by rw [Link.since_self]; rfl
  uncleared := by simp [Link.since_self]
  acknowledged := by simp [Link.since_self]

theorem Worked.mono {settled less : List (Exchange ε)} (worked : Worked s t settled)
    (fewer : less ⊆ settled) : Worked s t less :=
  ⟨worked.extended, worked.armed, worked.uncleared,
    fun one member => worked.acknowledged one (fewer member)⟩

theorem Worked.failing (working : Working s t) : Failing s t :=
  working.mono (List.dropLast_subset _)

theorem Worked.trans {settled : List (Exchange ε)} (first : Working s t)
    (second : Worked t u settled) : Worked s u (t.link.since s.link ++ settled) where
  extended := first.extended.trans second.extended
  armed := by
    rw [Link.since_trans first.extended second.extended, pending_append, second.armed, first.armed,
      List.append_assoc]
  uncleared one member := by
    rw [Link.since_trans first.extended second.extended] at member
    rcases List.mem_append.mp member with earlier | later
    · exact first.uncleared one earlier
    · exact second.uncleared one later
  acknowledged one member := by
    rcases List.mem_append.mp member with earlier | later
    · exact first.acknowledged one earlier
    · exact second.acknowledged one later

theorem Worked.working (first : Working s t) (second : Working t u) : Working s u := by
  have both := first.trans second
  rwa [← Link.since_trans first.extended second.extended] at both

theorem Worked.thenFailing (first : Working s t) (second : Failing t u) : Failing s u := by
  refine (first.trans second).mono fun one member => ?_
  rw [Link.since_trans first.extended second.extended] at member
  cases last : u.link.since t.link with
  | nil =>
    rw [last, List.append_nil] at member
    exact List.mem_append_left _ (List.dropLast_subset _ member)
  | cons head tail =>
    rw [last, List.dropLast_append_cons] at member
    exact member

/-- Reads arm nothing. -/
theorem Looked.working (looked : Looked s t) : Working s t where
  extended := looked.read.extended
  armed := by
    have unset : ∀ one ∈ t.link.since s.link, action one ≠ some .setBuffer := by
      intro one member
      rw [action, looked.read.quiet one member]
      simp
    rw [pending_quiet unset, looked.same]
    rfl
  uncleared one member := by
    rw [action, looked.read.quiet one member]
    simp
  acknowledged one member acts := by
    rw [action, looked.read.quiet one member] at acts
    cases acts

/-! ### Staging without its cleanup

`stage`, with every failure of it left to its caller. -/

namespace Staging

def selectBank : InSession ε (UpdateCause ε) UInt8 := do
  let s ← get
  let fresh ← ExceptT.adapt .read (onLink (fwumBanks s.target))
  if fresh.inventory.firmware ≠ s.baselineInfo ∨ fresh.banks ≠ s.baselineBanks then
    throw .verification
  else
    setupBuffers
    let bank ← ExceptT.adapt .mutation
      (write (startImage s.target (UInt32.ofNat s.image.len) s.image.padding s.mode) .startImage)
    if s.baselineCount ≤ bank ∨ bank = s.oldGoodBank then throw .verification
    else
      modify fun s => { s with phase := .uploading bank 0 }
      return bank

def report (onProgress : OnProgress) (shown : List UploadProgress) (progress : UploadProgress) :
    InSession ε (UpdateCause ε) (List UploadProgress) :=
  if onProgress (shown ++ [progress]) then return shown ++ [progress]
  else throw .operatorInterrupted

def saveNext (bank sequence : UInt8) : InSession ε (UpdateCause ε) Unit := do
  let s ← get
  ExceptT.adapt .mutation
    (write (saveImage s.target (UInt32.ofNat s.confirmedBytes) sequence s.nextPart s.mode) .saveImage)
  modify fun after =>
    { after with
      confirmedBytes := s.confirmedBytes + s.nextCount
      phase := .uploading bank (s.confirmedBytes + s.nextCount) }

def saveImages (onProgress : OnProgress) (bank : UInt8) :
    Nat → UInt8 → List UploadProgress → InSession ε (UpdateCause ε) Unit
  | 0, _, _ => return
  | turns + 1, sequence, shown => do
    let s ← get
    if s.confirmedBytes < s.image.len then
      saveNext bank sequence
      let s ← get
      let shown ← report onProgress shown ⟨s.confirmedBytes, s.image.len, bank⟩
      saveImages onProgress bank turns (sequence + 1) shown
    else return

def finish (bank : UInt8) : InSession ε (UpdateCause ε) Unit := do
  let s ← get
  ExceptT.adapt .mutation (write (finishImage s.target s.image.revision) .finishImage)
  let staged ← ExceptT.adapt .read (verifyStaged bank)
  if staged then return else throw .verification

def run (onProgress : OnProgress) : InSession ε (UpdateCause ε) UInt8 := do
  let s ← get
  let bank ← selectBank
  let shown ← report onProgress [] ⟨0, s.image.len, bank⟩
  saveImages onProgress bank s.image.len 0 shown
  finish bank
  return bank

end Staging

/-- What `stage` ends with once the image was found staged. -/
def settle (bank : UInt8) : InSession ε (UpdateError ε) Unit := do
  let cleanup ← clearBuffers
  if cleanup.isEmpty then modify fun s => { s with phase := .staged bank }
  else
    modify fun s => { s with phase := .interrupted }
    let s ← get
    throw ⟨s.phase, s.confirmedBytes, .cleanup, cleanup⟩

section stopping
variable {α β γ : Type}

/-- Stopping returns nothing to go on with. -/
theorem stop_bind (cause : UpdateCause ε) (f : α → InSession ε (UpdateError ε) β) :
    (stop cause >>= f) = stop cause := by
  simp only [stop, bind_assoc]
  rfl

theorem eval_orStop (cause : γ → UpdateCause ε) (x : InSession ε γ α) (s : UpdateSession ε) :
    (orStop cause x).eval s = match x.eval s with
      | (.ok value, t) => (.ok value, t)
      | (.error error, t) => (stop (cause error) : InSession ε (UpdateError ε) α).eval t := by
  have attempted : (x.attempt : InSession ε (UpdateError ε) _).eval s =
      (.ok (x.eval s).1, (x.eval s).2) := rfl
  rw [orStop, eval_bind, attempted]
  cases x.eval s with
  | mk result t => cases result <;> rfl

theorem orStop_bind (x : InSession ε (UpdateCause ε) α) (f : α → InSession ε (UpdateCause ε) β) :
    orStop id (x >>= f) = orStop id x >>= fun value => orStop id (f value) := by
  refine Stateful.ext fun s => ?_
  rw [eval_orStop, eval_bind, eval_bind, eval_orStop]
  cases ended : x.eval s with
  | mk result t =>
    cases result with
    | ok value => exact (eval_orStop id (f value) t).symm
    | error error =>
      have stopped := congrArg (eval · t) (stop_bind error fun value => orStop id (f value))
      simp only [eval_bind] at stopped
      exact stopped.symm

theorem orStop_pure (value : α) : orStop id (pure value : InSession ε (UpdateCause ε) α) = pure value :=
  Stateful.ext fun _ => rfl

theorem orStop_throw (cause : UpdateCause ε) :
    orStop id (throw cause : InSession ε (UpdateCause ε) α) = stop cause :=
  Stateful.ext fun _ => rfl

theorem orStop_get : orStop id (get : InSession ε (UpdateCause ε) (UpdateSession ε)) = get :=
  Stateful.ext fun _ => rfl

theorem orStop_modify (f : UpdateSession ε → UpdateSession ε) :
    orStop id (modify f : InSession ε (UpdateCause ε) PUnit) = modify f :=
  Stateful.ext fun _ => rfl

theorem orStop_adapt (cause : γ → UpdateCause ε) (x : InSession ε γ α) :
    orStop id (ExceptT.adapt cause x) = orStop cause x := by
  refine Stateful.ext fun s => ?_
  have adapted : Stateful.eval (ExceptT.adapt cause x) s = ((x.eval s).1.mapError cause, (x.eval s).2) := rfl
  rw [eval_orStop, eval_orStop, adapted]
  cases x.eval s with
  | mk result t => cases result <;> rfl

theorem orStop_ite {p : Prop} [Decidable p] (x y : InSession ε (UpdateCause ε) α) :
    orStop id (if p then x else y) = if p then orStop id x else orStop id y := by
  split <;> rfl

/-! Each part of staging is its part without the cleanup, and stopping where
that fails. -/

theorem selectBank_eq : (selectBank : InSession ε (UpdateError ε) UInt8) = orStop id Staging.selectBank := by
  simp only [selectBank, Staging.selectBank, orStop_bind, orStop_get, orStop_adapt, orStop_ite,
    orStop_throw, orStop_modify, orStop_pure]

theorem report_eq (onProgress : OnProgress) (shown : List UploadProgress) (progress : UploadProgress) :
    (report onProgress shown progress : InSession ε (UpdateError ε) _) =
      orStop id (Staging.report onProgress shown progress) := by
  simp only [report, Staging.report, orStop_ite, orStop_throw, orStop_pure]

theorem saveNext_eq (bank sequence : UInt8) :
    (saveNext bank sequence : InSession ε (UpdateError ε) Unit) =
      orStop id (Staging.saveNext bank sequence) := by
  simp only [saveNext, Staging.saveNext, orStop_bind, orStop_get, orStop_adapt, orStop_modify]

theorem saveImages_eq (onProgress : OnProgress) (bank : UInt8) (turns : Nat) (sequence : UInt8)
    (shown : List UploadProgress) :
    (saveImages onProgress bank turns sequence shown : InSession ε (UpdateError ε) Unit) =
      orStop id (Staging.saveImages onProgress bank turns sequence shown) := by
  induction turns generalizing sequence shown with
  | zero => rfl
  | succ turns ih =>
    simp only [saveImages, Staging.saveImages, orStop_bind, orStop_get, orStop_ite, orStop_pure,
      saveNext_eq, report_eq, ih]

theorem finish_eq (bank : UInt8) :
    (finish bank : InSession ε (UpdateError ε) Unit) =
      orStop id (Staging.finish bank) >>= fun _ => settle bank := by
  simp only [finish, Staging.finish, requireStaged, settle, orStop_bind, orStop_get, orStop_adapt,
    orStop_ite, orStop_throw, orStop_pure, bind_assoc]

/-- Staging is all of it without the cleanup, and the cleanup after. -/
theorem stage_eq (onProgress : OnProgress) :
    (stage onProgress : InSession ε (UpdateError ε) UInt8) = (do
      let s ← get
      if s.phase ≠ .prepared then refuse .invalidPhase
      else
        let bank ← orStop id (Staging.run onProgress)
        settle bank
        return bank) := by
  simp only [stage, Staging.run, selectBank_eq, report_eq, saveImages_eq, finish_eq, orStop_bind,
    orStop_get, orStop_pure, bind_assoc]
  refine Stateful.ext fun s => ?_
  rw [eval_bind, eval_bind]
  change Stateful.eval (ite _ _ _) s = Stateful.eval (ite _ _ _) s
  by_cases unprepared : s.phase ≠ .prepared
  · rw [if_pos unprepared, if_pos unprepared]
  · rw [if_neg unprepared, if_neg unprepared]
    rfl

end stopping

/-! ### What each part of staging arms -/

section working
variable {α β γ : Type}

/-- Buffers that may be set are armed, whatever is done. -/
def Works (x : InSession ε γ α) : Prop :=
  ∀ s, Ends x s (fun _ t => Working s t) (fun _ t => Failing s t)

theorem Works.pure (value : α) : Works (pure value : InSession ε γ α) :=
  fun s => Ends.pure (.refl s)

theorem Works.throw (error : γ) : Works (throw error : InSession ε γ α) :=
  fun s => Ends.throw (Worked.refl s).failing

theorem Works.bind {x : InSession ε γ α} {f : α → InSession ε γ β} (first : Works x)
    (next : ∀ value, Works (f value)) : Works (x >>= f) :=
  fun s => Ends.bind (first s) (fun _ _ failing => failing) fun value t working =>
    Ends.mono (next value t) (fun _ _ more => working.working more)
      (fun _ _ more => working.thenFailing more)

theorem Works.get_bind {f : UpdateSession ε → InSession ε γ α} (next : ∀ s, Works (f s)) :
    Works (get >>= f) :=
  fun s => Ends.get_bind (next s s)

theorem Works.adapt {f : β → γ} {x : InSession ε β α} (works : Works x) :
    Works (ExceptT.adapt f x) :=
  fun s => Ends.adapt (works s)

/-- What neither sends nor arms anything. -/
theorem Works.modify {f : UpdateSession ε → UpdateSession ε} (link : ∀ s, (f s).link = s.link)
    (armed : ∀ s, (f s).armedBuffers = s.armedBuffers) :
    Works (modify f : InSession ε γ PUnit) := by
  refine fun s => Ends.modify ⟨?_, ?_, ?_, ?_⟩
  · rw [link]
    exact .refl _
  · rw [link, armed, Link.since_self]
    rfl
  · simp [link, Link.since_self]
  · simp [link, Link.since_self]

theorem Works.look {x : InSession ε γ α}
    (looks : ∀ s, Ends x s (fun _ t => Looked s t) (fun _ t => Looked s t)) : Works x :=
  fun s => Ends.mono (looks s) (fun _ _ looked => looked.working)
    (fun _ _ looked => looked.working.failing)

/-- A mutation that is not about buffers arms none. -/
theorem Works.write {command : OemCommand α FwumParseError} {kind : UpdateAction}
    (mutates : Mutates command kind) (set : kind ≠ .setBuffer) (clear : kind ≠ .clearBuffer) :
    Works (write command kind : InSession ε (MutationError ε) α) := by
  have unarmed : ∀ {part : List (Exchange ε)} {failure : Option (MutationError ε)},
      Attempted command kind part failure → pending part = [] := by
    intro part failure attempted
    obtain ⟨check, rest, rfl, quiet, -, sent⟩ := attempted.read
    refine pending_quiet fun one member => ?_
    rcases List.mem_cons.mp member with rfl | member
    · rw [quiet]
      simp
    · rw [action, sent one member, mutates.acts]
      simpa using set
  refine fun s => Ends.mono (write_attempted mutates s) ?_ ?_
  · rintro value t ⟨same, extended, attempted⟩
    obtain ⟨uncleared, -, all⟩ := attempted.shown mutates clear
    refine ⟨extended, ?_, uncleared, all rfl⟩
    rw [unarmed attempted, same]
    rfl
  · rintro error t ⟨same, extended, attempted⟩
    obtain ⟨uncleared, most, -⟩ := attempted.shown mutates clear
    refine ⟨extended, ?_, uncleared, most⟩
    rw [unarmed attempted, same]
    rfl

theorem Works.setBuffer (target : FwumTarget) (channel : BufferChannel) {size : UInt8}
    (some_ : size ≠ 0) : Works (setBuffer target channel size : InSession ε (MutationError ε) Unit) := by
  have mutates := mutates_set target channel some_
  intro s
  refine Ends.attempt_bind (write_attempted mutates s) ?_ ?_
  · rintro value t ⟨same, extended, attempted⟩
    obtain ⟨uncleared, -, all⟩ := attempted.shown mutates (by decide)
    refine Ends.modify ⟨extended, ?_, uncleared, all rfl⟩
    change armedPlace (target, channel) :: t.armedBuffers.map armedPlace = pending _ ++ _
    rw [pending_attempted some_ attempted, same]
    rfl
  · rintro error t ⟨same, extended, attempted⟩
    obtain ⟨uncleared, most, -⟩ := attempted.shown mutates (by decide)
    have armed := pending_attempted some_ attempted
    rw [Option.all_some] at armed
    dsimp only
    split
    · rename_i unknown
      rw [if_pos (by simpa using unknown)] at armed
      refine Ends.modify_bind (Ends.throw ⟨extended, ?_, uncleared, most⟩)
      change armedPlace (target, channel) :: t.armedBuffers.map armedPlace = pending (t.link.since s.link) ++ _
      rw [armed, same]
      rfl
    · rename_i known
      rw [if_neg (by simpa using known)] at armed
      refine Ends.throw ⟨extended, ?_, uncleared, most⟩
      rw [armed, same]
      rfl

theorem localTarget_works : Works (localTarget : InSession ε (UpdateCause ε) FwumTarget) := by
  refine Works.get_bind fun s => ?_
  split
  · refine Works.bind (Works.adapt (Works.look fun t => Ends.mono
      (onLink_ends (sendRecv_ends _ t.link (targetDeviceId_quiet none)))
      (fun _ _ looked => looked.1) (fun _ _ looked => looked))) fun device => ?_
    split
    · exact Works.throw _
    · exact Works.pure _
  · exact Works.pure _

theorem setupBuffers_works : Works (setupBuffers : InSession ε (UpdateCause ε) Unit) := by
  refine Works.get_bind fun s => ?_
  cases negotiated : s.limits.negotiatedBufferBytes with
  | none => exact Works.pure _
  | some size =>
    have some_ : size ≠ 0 := by
      have bounds := (s.limits.bounds.2.2 size negotiated).1
      rintro rfl
      exact absurd bounds (by decide)
    refine Works.bind localTarget_works fun controller => ?_
    refine Works.bind (Works.adapt (Works.setBuffer controller .current some_)) fun _ => ?_
    by_cases bridged : s.target.address.isSome = true
    · rw [if_pos bridged]
      refine Works.bind (Works.adapt (Works.setBuffer controller .ipmb some_)) fun _ => ?_
      exact Works.adapt (Works.setBuffer s.target .current some_)
    · rw [if_neg bridged]
      exact Works.pure _

theorem looks_works (target : FwumTarget) :
    Works (onLink (fwumBanks target) : InSession ε (FwumReadError ε) BankInventory) :=
  Works.look fun s => Ends.mono (onLink_ends (fwumBanks_ends target s.link))
    (fun _ _ looked => looked.1) (fun _ _ looked => looked)

theorem selectBank_works : Works (Staging.selectBank : InSession ε (UpdateCause ε) UInt8) := by
  refine Works.get_bind fun s => Works.bind (Works.adapt (looks_works s.target)) fun fresh => ?_
  split
  · exact Works.throw _
  have starts : Mutates (startImage s.target (UInt32.ofNat s.image.len) s.image.padding s.mode)
      .startImage := mutates_command _ _ rfl startedBank_parses
  refine Works.bind setupBuffers_works fun _ =>
    Works.bind (Works.adapt (Works.write starts (by decide) (by decide))) fun bank => ?_
  split
  · exact Works.throw _
  · exact Works.bind (Works.modify (fun _ => rfl) (fun _ => rfl)) fun _ => Works.pure _

theorem report_works (onProgress : OnProgress) (shown : List UploadProgress)
    (progress : UploadProgress) :
    Works (Staging.report onProgress shown progress : InSession ε (UpdateCause ε) _) := by
  unfold Staging.report
  split
  · exact Works.pure _
  · exact Works.throw _

theorem saveNext_works (bank sequence : UInt8) :
    Works (Staging.saveNext bank sequence : InSession ε (UpdateCause ε) Unit) := by
  refine Works.get_bind fun s => ?_
  have saves : Mutates (saveImage s.target (UInt32.ofNat s.confirmedBytes) sequence s.nextPart s.mode)
      .saveImage := mutates_command _ _ rfl noData_parses
  exact Works.bind (Works.adapt (Works.write saves (by decide) (by decide)))
    fun _ => Works.modify (fun _ => rfl) (fun _ => rfl)

theorem saveImages_works (onProgress : OnProgress) (bank : UInt8) (turns : Nat) (sequence : UInt8)
    (shown : List UploadProgress) :
    Works (Staging.saveImages onProgress bank turns sequence shown :
      InSession ε (UpdateCause ε) Unit) := by
  induction turns generalizing sequence shown with
  | zero => exact Works.pure _
  | succ turns ih =>
    refine Works.get_bind fun s => ?_
    split
    · refine Works.bind (saveNext_works bank sequence) fun _ => Works.get_bind fun s => ?_
      exact Works.bind (report_works onProgress shown _) fun shown => ih _ _
    · exact Works.pure _

theorem finish_works (bank : UInt8) :
    Works (Staging.finish bank : InSession ε (UpdateCause ε) Unit) := by
  refine Works.get_bind fun s => ?_
  have finishes : Mutates (finishImage s.target s.image.revision) .finishImage :=
    mutates_command _ _ rfl noData_parses
  refine Works.bind (Works.adapt (Works.write finishes (by decide) (by decide))) fun _ => ?_
  refine Works.bind (Works.adapt (Works.look fun t => Ends.mono (verifyStaged_ends bank t)
    (fun _ _ looked => looked.1) (fun _ _ looked => looked))) fun staged => ?_
  split
  · exact Works.pure _
  · exact Works.throw _

/-- Staging arms the buffers it may have set, on every way through it. -/
theorem run_works (onProgress : OnProgress) :
    Works (Staging.run onProgress : InSession ε (UpdateCause ε) UInt8) := by
  refine Works.get_bind fun s => Works.bind selectBank_works fun bank => ?_
  refine Works.bind (report_works onProgress [] _) fun shown => ?_
  refine Works.bind (saveImages_works onProgress bank _ 0 shown) fun _ => ?_
  exact Works.bind (finish_works bank) fun _ => Works.pure _

end working

end UpdateSession

/-! ### Clearing -/

/-- Each of some buffers was cleared with one attempt, in order, and the
failures of these were reported. -/
inductive Unwound :
    List (FwumTarget × BufferChannel) → List (Exchange ε) → List (MutationError ε) → Prop
  | nil : Unwound [] [] []
  | cons {target : FwumTarget} {channel : BufferChannel} {failure : Option (MutationError ε)}
      {rest : List (FwumTarget × BufferChannel)} {part later : List (Exchange ε)}
      {reported : List (MutationError ε)}
      (attempted : Attempted (setChannelBuffer target channel 0) .clearBuffer part failure)
      (unwound : Unwound rest later reported) :
      Unwound ((target, channel) :: rest) (part ++ later) (failure.toList ++ reported)

section unwinding
variable {armed : List (FwumTarget × BufferChannel)} {log : List (Exchange ε)}
  {reported : List (MutationError ε)}

/-- What a clear sent, if it was not withheld. -/
theorem cleared_attempted {target : FwumTarget} {channel : BufferChannel} {part : List (Exchange ε)}
    {failure : Option (MutationError ε)}
    (attempted : Attempted (setChannelBuffer target channel 0) .clearBuffer part failure) :
    (∀ one ∈ part, action one = none ∨ action one = some .clearBuffer) ∧
      cleared part = if failure.any (·.outcome = .notSent) then [] else [armedPlace (target, channel)] := by
  have quiet : ∀ check : Exchange ε,
      check.request = (targetDeviceId (setChannelBuffer target channel 0).target).request →
      action check = none := by
    intro check asked
    rw [action, asked]
    exact targetDeviceId_quiet _
  have acts : ∀ one : Exchange ε, one.request = (setChannelBuffer target channel 0).request →
      action one = some .clearBuffer ∧ place one = armedPlace (target, channel) := by
    intro one sent
    refine ⟨by rw [action, sent, (mutates_clear target channel).acts], ?_⟩
    rw [place, sent]
    rfl
  cases attempted with
  | withheld check error asked other named told => simp [cleared, quiet check asked, told]
  | failed check one error asked checked sent unacknowledged named told =>
    obtain ⟨clears, here⟩ := acts one sent
    cases refused : rejected one <;> simp [cleared, quiet check asked, clears, here, told, refused]
  | done check one asked checked sent answered =>
    obtain ⟨clears, here⟩ := acts one sent
    simp [cleared, quiet check asked, clears, here]

/-- Nothing but the buffers is changed. -/
theorem Unwound.clears (unwound : Unwound armed log reported) :
    ∀ one ∈ log, action one = none ∨ action one = some .clearBuffer := by
  induction unwound with
  | nil => exact fun _ none => absurd none List.not_mem_nil
  | cons attempted _ ih =>
    intro one member
    rcases List.mem_append.mp member with first | later
    · exact (cleared_attempted attempted).1 one first
    · exact ih one later

/-- Every clear that was sent was of its buffer; all were sent unless one was
reported as not sent. -/
theorem Unwound.cleared (unwound : Unwound armed log reported) :
    (Fwum.cleared log).Sublist (armed.map armedPlace) ∧
      ((∀ error ∈ reported, error.outcome ≠ .notSent) → Fwum.cleared log = armed.map armedPlace) := by
  induction unwound with
  | nil => exact ⟨.refl _, fun _ => rfl⟩
  | @cons target channel failure rest part later reported attempted _ ih =>
    have own := (cleared_attempted attempted).2
    rw [cleared_append, own, List.map_cons]
    by_cases withheld : failure.any (·.outcome = .notSent) = true
    · rw [if_pos withheld, List.nil_append]
      refine ⟨ih.1.cons _, fun sent => ?_⟩
      obtain ⟨error, rfl, told⟩ := (Option.any_eq_true _ _).mp withheld
      exact absurd (of_decide_eq_true told) (sent error (by simp))
    · rw [if_neg withheld, List.singleton_append]
      refine ⟨ih.1.cons_cons _, fun sent => ?_⟩
      rw [ih.2 fun error member => sent error (List.mem_append_right _ member)]

end unwinding

namespace UpdateSession
variable {s t : UpdateSession ε}

section clearing
variable {α γ : Type}

theorem clearArmed_unwound (armed : List (FwumTarget × BufferChannel)) {s : UpdateSession ε}
    (held : s.armedBuffers = armed) {E : γ → UpdateSession ε → Prop} :
    Ends (clearArmed armed) s
      (fun reported t => t = { s with link := t.link, armedBuffers := [] } ∧
        s.link.Extends t.link ∧ Unwound armed (t.link.since s.link) reported) E := by
  induction armed generalizing s with
  | nil =>
    refine Ends.pure ⟨?_, .refl _, ?_⟩
    · rw [← held]
    · rw [Link.since_self]
      exact .nil
  | cons first rest ih =>
    obtain ⟨target, channel⟩ := first
    apply Ends.modify_bind
    refine Ends.attempt_bind (write_attempted (mutates_clear target channel) _) ?_ ?_
    · rintro value t ⟨same, extended, attempted⟩
      have left : t.armedBuffers = rest := by rw [same]
      refine Ends.mono (ih left) ?_ (fun _ _ failed => failed)
      rintro reported u ⟨again, onward, unwound⟩
      refine ⟨by rw [again, same], extended.trans onward, ?_⟩
      rw [Link.since_trans extended onward]
      exact .cons attempted unwound
    · rintro error t ⟨same, extended, attempted⟩
      have left : t.armedBuffers = rest := by rw [same]
      refine Ends.bind (ih left) (fun _ _ failed => failed) ?_
      rintro reported u ⟨again, onward, unwound⟩
      refine Ends.pure ⟨by rw [again, same], extended.trans onward, ?_⟩
      rw [Link.since_trans extended onward]
      exact .cons attempted unwound

theorem clearBuffers_unwound (s : UpdateSession ε) {E : γ → UpdateSession ε → Prop} :
    Ends clearBuffers s
      (fun reported t => t = { s with link := t.link, armedBuffers := [] } ∧
        s.link.Extends t.link ∧ Unwound s.armedBuffers (t.link.since s.link) reported) E :=
  Ends.get_bind (clearArmed_unwound s.armedBuffers rfl)

/-- Stopping clears what is armed and reports the failures of that. -/
theorem stop_unwound (cause : UpdateCause ε) (s : UpdateSession ε) {Q : α → UpdateSession ε → Prop} :
    Ends (stop cause) s Q
      (fun error t => ∃ reported, t.armedBuffers = [] ∧ s.link.Extends t.link ∧
        Unwound s.armedBuffers (t.link.since s.link) reported ∧
        error = ⟨.interrupted, t.confirmedBytes, cause, reported⟩) := by
  apply Ends.modify_bind
  refine Ends.bind (clearBuffers_unwound _ (E := fun _ _ => False)) (fun _ _ never => never.elim) ?_
  rintro reported t ⟨same, extended, unwound⟩
  refine Ends.get_bind (Ends.throw ⟨reported, by rw [same], extended, unwound, ?_⟩)
  rw [same]

theorem settle_unwound (bank : UInt8) (s : UpdateSession ε) :
    Ends (settle bank) s
      (fun _ t => t.armedBuffers = [] ∧ s.link.Extends t.link ∧
        Unwound s.armedBuffers (t.link.since s.link) [])
      (fun error t => ∃ reported, reported ≠ [] ∧ t.armedBuffers = [] ∧ s.link.Extends t.link ∧
        Unwound s.armedBuffers (t.link.since s.link) reported ∧
        error = ⟨.interrupted, t.confirmedBytes, .cleanup, reported⟩) := by
  refine Ends.bind (clearBuffers_unwound s (E := fun _ _ => False)) (fun _ _ never => never.elim) ?_
  rintro reported t ⟨same, extended, unwound⟩
  cases reported with
  | nil =>
    rw [if_pos (by rfl)]
    exact Ends.modify ⟨by rw [same], extended, unwound⟩
  | cons error more =>
    rw [if_neg (by simp)]
    refine Ends.modify_bind (Ends.get_bind (Ends.throw
      ⟨error :: more, by simp, by rw [same], extended, unwound, ?_⟩))
    rfl

/-! ### Calls leave nothing armed -/

/-- Without armed buffers, none are left. -/
def Disarmed (x : InSession ε γ α) : Prop :=
  ∀ s, s.armedBuffers = [] → Ends x s (fun _ t => t.armedBuffers = []) (fun _ t => t.armedBuffers = [])

theorem Disarmed.bind {β : Type} {x : InSession ε γ α} {f : α → InSession ε γ β} (first : Disarmed x)
    (next : ∀ value, Disarmed (f value)) : Disarmed (x >>= f) :=
  fun s empty => Ends.bind (first s empty) (fun _ _ empty => empty) fun value t empty =>
    next value t empty

theorem Disarmed.get_bind {f : UpdateSession ε → InSession ε γ α} (next : ∀ s, Disarmed (f s)) :
    Disarmed (get >>= f) :=
  fun s empty => Ends.get_bind (next s s empty)

theorem Disarmed.modify {f : UpdateSession ε → UpdateSession ε}
    (armed : ∀ s, (f s).armedBuffers = s.armedBuffers) :
    Disarmed (modify f : InSession ε γ PUnit) :=
  fun s empty => Ends.modify ((armed s).trans empty)

theorem Disarmed.look {x : InSession ε γ α}
    (looks : ∀ s, Ends x s (fun _ t => Looked s t) (fun _ t => Looked s t)) : Disarmed x := by
  have same : ∀ s t : UpdateSession ε, s.armedBuffers = [] → Looked s t → t.armedBuffers = [] := by
    intro s t empty looked
    rw [looked.same, ← empty]
  exact fun s empty => Ends.mono (looks s) (fun _ t => same s t empty) (fun _ t => same s t empty)

theorem Disarmed.write (command : OemCommand α FwumParseError) (kind : UpdateAction) :
    Disarmed (write command kind : InSession ε (MutationError ε) α) := by
  refine fun s empty => Ends.mono (write_ends command kind s) ?_ ?_
  · rintro value t ⟨checked, -, rfl, -⟩
    exact empty
  · rintro error t (looked | ⟨checked, -, rfl⟩)
    · rw [looked.same, ← empty]
    · exact empty

theorem Disarmed.stop (cause : UpdateCause ε) :
    Disarmed (stop cause : InSession ε (UpdateError ε) α) := by
  refine fun s _ => Ends.mono (stop_unwound cause s) (fun _ _ empty => empty) ?_
  rintro error t ⟨reported, empty, -⟩
  exact empty

theorem Disarmed.refuse (cause : UpdateCause ε) :
    Disarmed (refuse cause : InSession ε (UpdateError ε) α) :=
  fun _ empty => Ends.get_bind (Ends.throw empty)

theorem Disarmed.orStop {cause : γ → UpdateCause ε} {x : InSession ε γ α} (disarmed : Disarmed x) :
    Disarmed (orStop cause x) :=
  fun s empty => Ends.attempt_bind (disarmed s empty) (fun _ _ empty => Ends.pure empty)
    fun _ t empty => Disarmed.stop _ t empty

theorem Disarmed.orRefuse {cause : γ → UpdateCause ε} {x : InSession ε γ α} (disarmed : Disarmed x) :
    Disarmed (orRefuse cause x) :=
  fun s empty => Ends.attempt_bind (disarmed s empty) (fun _ _ empty => Ends.pure empty)
    fun _ t empty => Disarmed.refuse _ t empty

theorem looks_disarmed (target : FwumTarget) :
    Disarmed (onLink (fwumBanks target) : InSession ε (FwumReadError ε) BankInventory) :=
  Disarmed.look fun s => Ends.mono (onLink_ends (fwumBanks_ends target s.link))
    (fun _ _ looked => looked.1) (fun _ _ looked => looked)

theorem requireStaged_disarmed (bank : UInt8) :
    Disarmed (requireStaged bank : InSession ε (UpdateError ε) Unit) := by
  refine Disarmed.bind (Disarmed.orStop (Disarmed.look fun s => Ends.mono (verifyStaged_ends bank s)
    (fun _ _ looked => looked.1) (fun _ _ looked => looked))) fun staged => ?_
  split
  · exact fun _ empty => Ends.pure empty
  · exact Disarmed.stop _

end clearing

/-- How staging of a prepared session ended: where it stopped working, what it
reported of the cleanup, and what it returned. -/
def Unwinds (onProgress : OnProgress) (s t : UpdateSession ε)
    (outcome : Except (UpdateError ε) UInt8) : Prop :=
  let run := (Staging.run onProgress).eval s
  ∃ reported, t.armedBuffers = [] ∧ run.2.link.Extends t.link ∧
    Unwound run.2.armedBuffers (t.link.since run.2.link) reported ∧
    outcome = match run.1 with
      | .error cause => .error ⟨.interrupted, t.confirmedBytes, cause, reported⟩
      | .ok bank =>
        if reported = [] then .ok bank
        else .error ⟨.interrupted, t.confirmedBytes, .cleanup, reported⟩

theorem stage_unwinds (onProgress : OnProgress) (prepared : s.phase = .prepared) :
    Ends (stage onProgress) s
      (fun bank t => Unwinds onProgress s t (.ok bank))
      (fun error t => Unwinds onProgress s t (.error error)) := by
  rw [stage_eq]
  refine Ends.get_bind ?_
  rw [if_neg (not_not.mpr prepared)]
  have ran : Ends (orStop id (Staging.run onProgress)) s
      (fun bank t => (Staging.run onProgress).eval s = (.ok bank, t))
      (fun error t => Unwinds onProgress s t (.error error)) := by
    have first : Ends (Staging.run onProgress) s
        (fun bank t => (Staging.run onProgress).eval s = (.ok bank, t))
        (fun cause t => (Staging.run onProgress).eval s = (.error cause, t)) := by
      unfold Ends
      cases ended : (Staging.run onProgress).eval s with
      | mk result t => cases result <;> rfl
    refine Ends.attempt_bind first (fun bank t ended => Ends.pure ended) fun cause t ended => ?_
    refine Ends.mono (stop_unwound cause t) (fun _ _ never => never) ?_
    rintro error u ⟨reported, empty, extended, unwound, rfl⟩
    unfold Unwinds
    rw [ended]
    exact ⟨reported, empty, extended, unwound, rfl⟩
  refine Ends.bind ran (fun _ _ unwinds => unwinds) fun bank t ended => ?_
  refine Ends.bind (settle_unwound bank t) ?_ ?_
  · rintro error u ⟨reported, failed, empty, extended, unwound, rfl⟩
    unfold Unwinds
    rw [ended]
    exact ⟨reported, empty, extended, unwound, (if_neg failed).symm⟩
  · rintro _ u ⟨empty, extended, unwound⟩
    refine Ends.pure ?_
    unfold Unwinds
    rw [ended]
    exact ⟨[], empty, extended, unwound, (if_pos rfl).symm⟩

/-! ### Whole runs -/

theorem call_disarmed (call : Call) :
    Disarmed (call.run : InSession ε (UpdateError ε) Unit) := by
  cases call with
  | stage onProgress =>
    refine Disarmed.bind (fun s empty => ?_) fun _ _ empty => Ends.pure empty
    by_cases prepared : s.phase = .prepared
    · refine Ends.mono (stage_unwinds onProgress prepared) ?_ ?_
      · rintro bank t ⟨reported, unarmed, -⟩
        exact unarmed
      · rintro error t ⟨reported, unarmed, -⟩
        exact unarmed
    · refine Ends.get_bind ?_
      rw [if_pos prepared]
      exact Disarmed.refuse _ s empty
  | activate =>
    refine Disarmed.get_bind fun s => ?_
    split
    · refine Disarmed.bind (requireStaged_disarmed _) fun _ => ?_
      exact Disarmed.bind (Disarmed.orStop (Disarmed.write _ _)) fun _ => Disarmed.modify fun _ => rfl
    · exact Disarmed.refuse _
  | verifyActivation =>
    refine Disarmed.get_bind fun s => ?_
    split
    · refine Disarmed.bind (Disarmed.orRefuse (looks_disarmed s.target)) fun status => ?_
      dsimp only
      split
      · exact Disarmed.modify fun _ => rfl
      · split
        · exact Disarmed.stop _
        · exact Disarmed.refuse _
    · exact Disarmed.refuse _
  | rollback =>
    refine Disarmed.get_bind fun s => ?_
    split
    · refine Disarmed.bind (Disarmed.orRefuse (looks_disarmed s.target)) fun status => ?_
      split
      · exact Disarmed.stop _
      · exact Disarmed.bind (Disarmed.orStop (Disarmed.write _ _))
          fun _ => Disarmed.modify fun _ => rfl
    · exact Disarmed.refuse _
  | verifyRollback =>
    refine Disarmed.get_bind fun s => ?_
    split
    · refine Disarmed.bind (Disarmed.orRefuse (looks_disarmed s.target)) fun status => ?_
      split
      · exact Disarmed.modify fun _ => rfl
      · exact Disarmed.refuse _
    · exact Disarmed.refuse _
  | inspect =>
    exact fun s empty => Ends.attempt_bind (Disarmed.get_bind (fun s => looks_disarmed s.target) s empty)
      (fun _ _ empty => Ends.pure empty) (fun _ _ empty => Ends.pure empty)

/-- Between calls no buffer is armed. -/
theorem after_disarmed (s : UpdateSession ε) (empty : s.armedBuffers = []) (calls : List Call) :
    (after step s calls).armedBuffers = [] := by
  refine Runs.invariant step (P := fun s => s.armedBuffers = []) empty (fun s call empty => ?_) calls
  obtain ⟨returned, failed⟩ := (call_disarmed call s empty).evaluated
  unfold step
  cases ended : (call.run.eval s).1 with
  | ok value => exact returned value ended
  | error error => exact failed error ended

theorem fwumPrepareUpdate_disarmed (supports : Bool) (target : FwumTarget) (bytes : List UInt8)
    (authorization : UpdateAuthorization) (limits : TransportLimits) (link : Link ε) :
    Ends (fwumPrepareUpdate supports target bytes authorization limits) link
      (fun s _ => s.armedBuffers = []) (fun _ _ => True) := by
  have anything {α : Type} (result : Except PrepareError α) (link : Link ε) :
      Ends (preflight result : OverLink ε (UpdateError ε) α) link (fun _ _ => True) (fun _ _ => True) :=
    Ends.mono (preflight_ends result (E := fun _ _ => True) fun _ => trivial) (fun _ _ _ => trivial)
      (fun _ _ _ => trivial)
  unfold fwumPrepareUpdate
  split
  · exact Ends.throw trivial
  refine Ends.bind (anything _ link) (fun _ _ _ => trivial) fun image link _ => ?_
  refine Ends.bind (anything _ link) (fun _ _ _ => trivial) fun _ link _ => ?_
  refine Ends.bind (anything _ link) (fun _ _ _ => trivial) fun _ link _ => ?_
  split
  · exact Ends.throw trivial
  have looked : Ends (ExceptT.adapt (unprepared ∘ .read) (fwumBanks target)) link
      (fun _ _ => True) (fun (_ : UpdateError ε) _ => True) :=
    Ends.adapt (Ends.mono (fwumBanks_ends target link) (fun _ _ _ => trivial) fun _ _ _ => trivial)
  refine Ends.bind looked (fun _ _ _ => trivial) fun baseline link _ => ?_
  split
  · exact Ends.throw trivial
  refine Ends.bind (anything _ link) (fun _ _ _ => trivial) fun bank link _ => ?_
  exact Ends.get_bind (Ends.pure rfl)

/-- Staging puts channel buffers back. It stops working at its first failure,
and each buffer that may have been set until then is cleared after that with
one attempt, the last one first: the clear is sent once if the device ID read
before it is of the device it is for, and reported as not sent if not. Nothing
else is changed after the failure, no buffer stays armed, and every clear that
failed is in the error. -/
theorem buffers_put_back (supports : Bool) (target : FwumTarget) (bytes : List UInt8)
    (authorization : UpdateAuthorization) (limits : TransportLimits) (link : Link ε)
    (session : UpdateSession ε)
    (prepared : ((fwumPrepareUpdate supports target bytes authorization limits).eval link).1 =
      .ok session) (calls : List Call) (onProgress : OnProgress) :
    let s := after step session calls
    let run := (Staging.run onProgress).eval s
    let ended := (stage onProgress).eval s
    let t := ended.2
    let work := run.2.link.since s.link
    let cleanup := t.link.since run.2.link
    t.armedBuffers = [] ∧
    (s.phase ≠ .prepared → t.link.since s.link = []) ∧
    (s.phase = .prepared → ∃ reported,
      t.link.since s.link = work ++ cleanup ∧
      (∀ one ∈ work, action one ≠ some .clearBuffer) ∧
      (∀ one ∈ work.dropLast, (action one).isSome = true → acknowledged one = true) ∧
      run.2.armedBuffers.map armedPlace = pending work ∧
      Unwound run.2.armedBuffers cleanup reported ∧
      (∀ one ∈ cleanup, action one = none ∨ action one = some .clearBuffer) ∧
      ((∀ error ∈ reported, error.outcome ≠ .notSent) →
        cleared (t.link.since s.link) = pending (t.link.since s.link)) ∧
      ended.1 = match run.1 with
        | .error cause => .error ⟨.interrupted, t.confirmedBytes, cause, reported⟩
        | .ok bank =>
          if reported = [] then .ok bank
          else .error ⟨.interrupted, t.confirmedBytes, .cleanup, reported⟩) := by
  intro s run ended t work cleanup
  have empty : s.armedBuffers = [] := after_disarmed session
    ((fwumPrepareUpdate_disarmed supports target bytes authorization limits link).evaluated.1
      session prepared) calls
  by_cases ready : s.phase = .prepared
  · have unwinds : Unwinds onProgress s t ended.1 := by
      obtain ⟨returned, failed⟩ := (stage_unwinds onProgress ready).evaluated
      cases result : ended.1 with
      | ok bank => exact returned bank result
      | error error => exact failed error result
    have failing : Failing s run.2 := by
      obtain ⟨returned, failed⟩ := (run_works onProgress s).evaluated
      cases result : run.1 with
      | ok bank => exact (returned bank result).failing
      | error cause => exact failed cause result
    obtain ⟨reported, unarmed, extended, unwound, outcome⟩ := unwinds
    have parts : t.link.since s.link = work ++ cleanup := Link.since_trans failing.extended extended
    have armed : run.2.armedBuffers.map armedPlace = pending work := by
      rw [failing.armed, empty, List.map_nil, List.append_nil]
    have only := unwound.clears
    refine ⟨unarmed, fun other => absurd ready other, fun _ => ⟨reported, parts, failing.uncleared,
      failing.acknowledged, armed, unwound, only, fun sent => ?_, outcome⟩⟩
    have unset : ∀ one ∈ cleanup, action one ≠ some .setBuffer := by
      intro one member set
      rcases only one member with silent | clear
      · rw [silent] at set
        cases set
      · rw [clear] at set
        cases set
    rw [parts, cleared_append, cleared_quiet failing.uncleared, pending_append, pending_quiet unset,
      unwound.cleared.2 sent, armed, List.nil_append]
  · have refused : (stage onProgress).eval s = (.error ⟨s.phase, s.confirmedBytes, .invalidPhase, []⟩, s) := by
      have first : (stage onProgress).eval s =
          Stateful.eval (if s.phase ≠ .prepared then refuse .invalidPhase else do
            let bank ← selectBank
            let shown ← report onProgress [] ⟨0, s.image.len, bank⟩
            saveImages onProgress bank s.image.len 0 shown
            finish bank
            return bank) s := rfl
      rw [first, if_pos ready]
      rfl
    have stays : t = s := congrArg Prod.snd refused
    rw [stays]
    exact ⟨empty, fun _ => Link.since_self _, fun yes => absurd yes ready⟩

/-- The least image there can be. -/
private def emptyImage (checksum last : UInt8) : List UInt8 :=
  List.replicate HEADER 0 ++
    [0, 0, 0x05, 0xB4, 0xFE, checksum, 0, 1, 0x22, 0, 0, 0, 0, 0, 0x98, 0x3A, 0, 0, 0, last]

/-- A board with two banks, which falls silent once a buffer is set, or goes on
to refuse to start an image. -/
private def buffered (silent : Bool) : Link Unit where
  reply sent :=
    match sent.getLast? with
    | none => .error ()
    | some request =>
      if silent && (sent.dropLast.any fun earlier => earlier.netfnRaw == 0x3E) then .error ()
      else
        let data : List UInt8 :=
          if request.netfnRaw = 0x06 then [0x22, 0, 0, 0, 0, 0, 0x98, 0x3A, 0, 1, 0]
          else if request.cmd = 0x00 then [6, 0x22, 0, 1, 0x10, 2]
          else if request.cmd = 0x07 then
            if request.data = [0] then [3, 0x10, 0, 0, 1, 0x10, 0] else [0, 0, 0, 0, 0, 0, 0]
          else []
        let cc : UInt8 := if request.netfnRaw = 0x08 ∧ request.cmd = 0x0A then 0xC1 else 0
        .ok ⟨0, ⟨request.netfnRaw + 1, request.cmd, cc :: data⟩, by simp⟩
  sent := []

private def permitted : Except PrepareError UpdateAuthorization :=
  UpdateAuthorization.new "tonight" (emptyImage 0x51 1) "inspect the banks" "activate the old bank"

private def prepareBuffered (silent : Bool) : Option (UpdateSession Unit) := do
  let authorization ← permitted.toOption
  let limits ← (TransportLimits.negotiated .local 32 16).toOption
  ((fwumPrepareUpdate true ⟨none, 1⟩ (emptyImage 0x52 0) authorization limits).eval
    (buffered silent)).1.toOption

/-- A buffer that was set stays so when the device ID cannot be read again. -/
theorem buffers_put_back_unread :
    ∃ session : UpdateSession Unit, prepareBuffered true = some session ∧
      let t := ((stage fun _ => true).eval session).2
      pending (t.link.since session.link) = [(.bmc .zero, 0x0E)] ∧
        cleared (t.link.since session.link) = [] := by
  have shown : (prepareBuffered true).any (fun session =>
      let t := ((stage fun _ => true).eval session).2
      pending (t.link.since session.link) = [(.bmc .zero, 0x0E)] ∧
        cleared (t.link.since session.link) = []) = true := by
    decide +kernel
  obtain ⟨session, prepared, held⟩ := (Option.any_eq_true _ _).mp shown
  exact ⟨session, prepared, of_decide_eq_true held⟩

/-- A buffer is cleared when the start of the image is refused. -/
theorem buffers_put_back_refused :
    ∃ session : UpdateSession Unit, prepareBuffered false = some session ∧
      let t := ((stage fun _ => true).eval session).2
      t.armedBuffers = [] ∧
        ∃ reported, Unwound ((Staging.run fun _ => true).eval session).2.armedBuffers
          (t.link.since ((Staging.run fun _ => true).eval session).2.link) reported := by
  have accepted : (prepareBuffered false).any (fun session => session.phase = .prepared) = true := by
    decide +kernel
  obtain ⟨session, prepared, ready⟩ := (Option.any_eq_true _ _).mp accepted
  refine ⟨session, prepared, ?_⟩
  unfold prepareBuffered at prepared
  cases written : permitted with
  | error error => simp [written, Except.toOption] at prepared
  | ok authorization =>
    cases negotiated : TransportLimits.negotiated .local 32 16 with
    | error error => simp [written, negotiated, Except.toOption] at prepared
    | ok limits =>
      have made : ((fwumPrepareUpdate true ⟨none, 1⟩ (emptyImage 0x52 0) authorization limits).eval
          (buffered false)).1 = .ok session := by
        rw [written, negotiated] at prepared
        simp only [Except.toOption, Option.bind_eq_bind, Option.bind_some] at prepared
        split at prepared
        · cases prepared
          assumption
        · cases prepared
      obtain ⟨unarmed, -, staged⟩ := buffers_put_back true ⟨none, 1⟩ (emptyImage 0x52 0)
        authorization limits (buffered false) session made [] fun _ => true
      obtain ⟨reported, -, -, -, -, unwound, -⟩ := staged (of_decide_eq_true ready)
      exact ⟨unarmed, reported, unwound⟩

end UpdateSession
end IpmiRs.Fwum
