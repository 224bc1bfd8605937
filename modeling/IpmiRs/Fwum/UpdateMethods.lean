import IpmiRs.Fwum.UpdateRules

/-! The methods of an update session, one at a time: each keeps to the rules of
an update and leaves a phase that tells what was exchanged. -/
namespace IpmiRs.Fwum
open Connection App Library Library.Stateful OverLink

namespace UpdateSession
variable {ε : Type}

/-! ### Invariants -/

/-- What has been exchanged since the preparation began. -/
def log (start : Link ε) (s : UpdateSession ε) : List (Exchange ε) := s.link.since start

/-- The session is of a plan, and what it exchanged was allowed. -/
structure Sound (start : Link ε) (plan : UpdatePlan) (verified : Prop) (s : UpdateSession ε) :
    Prop where
  planned : s.toUpdatePlan = plan
  extended : start.Extends s.link
  safe : plan.Safe verified (s.log start)

/-- What each phase says of what was exchanged. -/
def Matches (start : Link ε) (plan : UpdatePlan) (verified : Prop) (s : UpdateSession ε) : Prop :=
  match s.phase with
  | .prepared =>
    milestones (s.log start) = [] ∧ payloads plan.mode (s.log start) = [] ∧ s.confirmedBytes = 0
  | .uploading bank confirmed =>
    milestones (s.log start) = [.startImage] ∧ plan.bank (s.log start) = some bank ∧
      confirmed = s.confirmedBytes
  | .staged bank =>
    milestones (s.log start) = [.startImage, .finishImage] ∧ plan.bank (s.log start) = some bank
  | .activationRequested bank =>
    milestones (s.log start) = [.startImage, .finishImage, .activate] ∧
      plan.bank (s.log start) = some bank
  | .activated bank =>
    milestones (s.log start) = [.startImage, .finishImage, .activate] ∧
      plan.bank (s.log start) = some bank ∧ verified
  | .rollbackRequested bank =>
    milestones (s.log start) = [.startImage, .finishImage, .activate, .rollback] ∧
      plan.bank (s.log start) = some bank
  | .rolledBack bank =>
    milestones (s.log start) = [.startImage, .finishImage, .activate, .rollback] ∧
      plan.bank (s.log start) = some bank
  | .interrupted => True

/-- The invariant of a session between calls. -/
structure Kept (start : Link ε) (plan : UpdatePlan) (verified : Prop) (s : UpdateSession ε) :
    Prop where
  sound : Sound start plan verified s
  phase : Matches start plan verified s

/-- From one state to another, no more was sent than reads and what concerns
buffers, and nothing was said of the update. -/
structure Still (s t : UpdateSession ε) : Prop where
  planned : t.toUpdatePlan = s.toUpdatePlan
  phase : t.phase = s.phase
  confirmedBytes : t.confirmedBytes = s.confirmedBytes
  extended : s.link.Extends t.link
  minor : Minor (t.link.since s.link)

/-- Only the link changed, and only by reads. -/
structure Looked (s t : UpdateSession ε) : Prop where
  same : t = { s with link := t.link }
  read : ReadOnly s.link t.link

variable {start : Link ε} {plan : UpdatePlan} {verified : Prop} {s t u : UpdateSession ε}

theorem Still.refl (s : UpdateSession ε) : Still s s :=
  ⟨rfl, rfl, rfl, .refl _, by simp [Link.since_self, Minor]⟩

theorem Still.trans (first : Still s t) (second : Still t u) : Still s u where
  planned := second.planned.trans first.planned
  phase := second.phase.trans first.phase
  confirmedBytes := second.confirmedBytes.trans first.confirmedBytes
  extended := first.extended.trans second.extended
  minor := by
    rw [Link.since_trans first.extended second.extended]
    exact first.minor.append second.minor

theorem Looked.still (looked : Looked s t) : Still s t := by
  obtain ⟨same, read⟩ := looked
  refine ⟨?_, ?_, ?_, read.extended, minor_of_quiet read.quiet⟩
  all_goals rw [same]

theorem Still.log (still : Still s t) (extended : start.Extends s.link) :
    t.log start = s.log start ++ t.link.since s.link :=
  Link.since_trans extended still.extended

theorem Sound.still (sound : Sound start plan verified s) (still : Still s t) :
    Sound start plan verified t where
  planned := still.planned.trans sound.planned
  extended := sound.extended.trans still.extended
  safe := by
    rw [still.log sound.extended]
    exact sound.safe.append still.minor

theorem milestones_still (extended : start.Extends s.link) (still : Still s t) :
    milestones (t.log start) = milestones (s.log start) := by
  rw [still.log extended, milestones_append, milestones_minor still.minor, List.append_nil]

theorem payloads_still (extended : start.Extends s.link) (still : Still s t) (mode : DownloadMode) :
    payloads mode (t.log start) = payloads mode (s.log start) := by
  rw [still.log extended, payloads_append, payloads_minor still.minor, List.append_nil]

theorem bank_still (extended : start.Extends s.link) (still : Still s t)
    (begun : .startImage ∈ milestones (s.log start)) :
    plan.bank (t.log start) = plan.bank (s.log start) := by
  rw [still.log extended, UpdatePlan.bank_append begun]

/-- What a phase says stays true while nothing is said of the update. -/
theorem Matches.still (phase : Matches start plan verified s) (extended : start.Extends s.link)
    (still : Still s t) : Matches start plan verified t := by
  have same := milestones_still extended still
  unfold Matches at phase ⊢
  rw [still.phase, still.confirmedBytes, same, payloads_still extended still]
  cases shape : s.phase with
  | prepared => rwa [shape] at phase
  | interrupted => trivial
  | _ =>
    rw [shape] at phase
    rw [bank_still extended still (by rw [phase.1]; simp)]
    exact phase

theorem Kept.still (kept : Kept start plan verified s) (still : Still s t) :
    Kept start plan verified t :=
  ⟨kept.sound.still still, kept.phase.still kept.sound.extended still⟩

theorem Kept.interrupted (sound : Sound start plan verified s) (phase : s.phase = .interrupted) :
    Kept start plan verified s := by
  refine ⟨sound, ?_⟩
  unfold Matches
  rw [phase]
  trivial

/-! ### What is done over the link -/

section specifications
variable {α γ : Type}

/-- What only reads over the link does no more in a session. -/
theorem onLink_ends {x : OverLink ε γ α} {fact : α → List (Exchange ε) → Prop}
    (reads : Ends x s.link
      (fun value after => ReadOnly s.link after ∧ fact value (after.since s.link))
      (fun _ after => ReadOnly s.link after)) :
    Ends (onLink x) s
      (fun value t => Looked s t ∧ fact value (t.link.since s.link)) (fun _ t => Looked s t) :=
  Ends.zoom (Ends.mono reads (fun _ _ read => ⟨⟨rfl, read.1⟩, read.2⟩) (fun _ _ read => ⟨rfl, read⟩))

/-- One mutation: it was sent once, after reads, or not at all. -/
theorem write_ends (command : OemCommand α FwumParseError) (kind : UpdateAction)
    (s : UpdateSession ε) :
    Ends (write command kind) s
      (fun value t => ∃ checked, ReadOnly s.link checked ∧
        t = { s with link := (checked.sendRecv command.toIpmiCommand).2 } ∧
        command.readReply (exchange checked command.toIpmiCommand).reply =
          (.ok value : Except (IpmiError ε FwumParseError) α))
      (fun _ t => Looked s t ∨ ∃ checked, ReadOnly s.link checked ∧
        t = { s with link := (checked.sendRecv command.toIpmiCommand).2 }) := by
  refine Ends.adapt (Ends.zoom (Ends.mono (sendOem_ends command s.link) ?_ ?_))
  · rintro value after ⟨checked, read, rfl, answer⟩
    exact ⟨checked, read, rfl, answer⟩
  · rintro error after (read | ⟨checked, read, rfl⟩)
    · exact Or.inl ⟨rfl, read⟩
    · exact Or.inr ⟨checked, read, rfl⟩

/-- The exchange of a mutation, after the reads before it. -/
theorem since_sent {checked : Link ε} (read : ReadOnly s.link checked)
    (extended : start.Extends s.link) (command : IpmiCommand α γ) :
    (checked.sendRecv command).2.since start =
      s.log start ++ checked.since s.link ++ [exchange checked command] := by
  have reached := extended.trans read.extended
  rw [Link.since_sendRecv reached, Link.since_trans extended read.extended]
  rfl

/-- A mutation the rules allow keeps to them, whether or not it is answered. -/
theorem write_sound {command : OemCommand α FwumParseError} (kind : UpdateAction)
    (sound : Sound start plan verified s)
    (allowed : ∀ recent one, (∀ exchange ∈ recent, action exchange = none) →
      one.request = command.request → plan.Allowed verified (s.log start ++ recent) one) :
    Ends (write command kind) s
      (fun value t => Sound start plan verified t ∧ t = { s with link := t.link } ∧
        ∃ recent one, (∀ exchange ∈ recent, action exchange = none) ∧
          one.request = command.request ∧
          command.readReply one.reply = (.ok value : Except (IpmiError ε FwumParseError) α) ∧
          t.log start = s.log start ++ recent ++ [one])
      (fun _ t => Sound start plan verified t) := by
  have sent : ∀ checked, ReadOnly s.link checked →
      Sound start plan verified { s with link := (checked.sendRecv command.toIpmiCommand).2 } := by
    intro checked read
    refine ⟨sound.planned, .sendRecv (sound.extended.trans read.extended) _, ?_⟩
    change plan.Safe verified ((checked.sendRecv command.toIpmiCommand).2.since start)
    rw [since_sent read sound.extended]
    exact (sound.safe.append (minor_of_quiet read.quiet)).concat (allowed _ _ read.quiet rfl)
  refine Ends.mono (write_ends command kind s) ?_ ?_
  · rintro value t ⟨checked, read, rfl, answer⟩
    exact ⟨sent checked read, rfl, _, _, read.quiet, rfl, answer, since_sent read sound.extended _⟩
  · rintro error t (looked | ⟨checked, read, rfl⟩)
    · exact sound.still looked.still
    · exact sent checked read

theorem milestones_sent {recent : List (Exchange ε)} {one : Exchange ε} {kind : UpdateAction}
    (quiet : ∀ exchange ∈ recent, action exchange = none) (same : action one = some kind)
    (logged : t.log start = s.log start ++ recent ++ [one]) :
    milestones (t.log start) = milestones (s.log start) ++ if kind.once then [kind] else [] := by
  rw [logged, milestones_append, milestones_append, milestones_minor (minor_of_quiet quiet),
    milestones_one same, List.append_nil]

theorem bank_sent {recent : List (Exchange ε)} {one : Exchange ε}
    (begun : .startImage ∈ milestones (s.log start))
    (logged : t.log start = s.log start ++ recent ++ [one]) :
    plan.bank (t.log start) = plan.bank (s.log start) := by
  rw [logged, List.append_assoc, UpdatePlan.bank_append begun]

/-- What was read last was shown last. -/
theorem Looked.shownLast {bank new old : UInt8} {recent : List (Exchange ε)}
    (looked : Looked s t) (extended : start.Extends s.link)
    (shows : plan.Shows bank new old (t.link.since s.link))
    (quiet : ∀ exchange ∈ recent, action exchange = none) :
    plan.ShownLast bank new old (t.log start ++ recent) := by
  refine ⟨s.log start, t.link.since s.link ++ recent, ?_, ?_,
    shows.mono (List.subset_append_left _ _)⟩
  · rw [looked.still.log extended, List.append_assoc]
  · intro exchange member
    rcases List.mem_append.mp member with read | later
    · exact looked.read.quiet exchange read
    · exact quiet exchange later

/-! ### Buffers -/

theorem setChannelBuffer_minor (target : FwumTarget) (channel : BufferChannel) (size : UInt8) :
    ∀ one ∈ UpdateAction.ofRequest (setChannelBuffer target channel size).request, one.minor := by
  have netfn : (setChannelBuffer target channel size).request.netfnRaw = 0x3E := rfl
  have cmd : (setChannelBuffer target channel size).request.cmd = 0x82 := rfl
  unfold UpdateAction.ofRequest
  rw [netfn, cmd, if_neg (by decide), if_pos (by decide)]
  intro one same
  split at same <;> (cases same; rfl)

/-- A command about buffers says nothing of the update. -/
theorem write_buffer_ends (target : FwumTarget) (channel : BufferChannel) (size : UInt8)
    (kind : UpdateAction) (s : UpdateSession ε) :
    Ends (write (setChannelBuffer target channel size) kind) s
      (fun _ t => Still s t) (fun _ t => Still s t) := by
  have sent : ∀ checked, ReadOnly s.link checked →
      Still s { s with
        link := (checked.sendRecv (setChannelBuffer target channel size).toIpmiCommand).2 } := by
    intro checked read
    refine ⟨rfl, rfl, rfl, .sendRecv read.extended _, ?_⟩
    change Minor ((checked.sendRecv _).2.since s.link)
    rw [Link.since_sendRecv read.extended]
    refine (minor_of_quiet read.quiet).append fun one member => ?_
    rw [List.mem_singleton.mp member]
    exact setChannelBuffer_minor target channel size
  refine Ends.mono (write_ends _ kind s) ?_ ?_
  · rintro value t ⟨checked, read, rfl, answer⟩
    exact sent checked read
  · rintro error t (looked | ⟨checked, read, rfl⟩)
    · exact looked.still
    · exact sent checked read

/-- Which buffers are armed says nothing of the update. -/
theorem Still.arm (still : Still s t) (armed : List (FwumTarget × BufferChannel)) :
    Still s { t with armedBuffers := armed } :=
  ⟨still.planned, still.phase, still.confirmedBytes, still.extended, still.minor⟩

theorem clearArmed_ends (armed : List (FwumTarget × BufferChannel)) {s : UpdateSession ε}
    {E : γ → UpdateSession ε → Prop} :
    Ends (clearArmed armed) s (fun _ t => Still s t) E := by
  induction armed generalizing s with
  | nil => exact Ends.pure (.refl s)
  | cons first rest ih =>
    obtain ⟨target, channel⟩ := first
    apply Ends.modify_bind
    have still := (Still.refl s).arm rest
    refine Ends.bind (P := fun _ u => Still s u) (Ends.attempt (Ends.mono
      (write_buffer_ends target channel 0 .clearBuffer _) (fun _ _ more => still.trans more)
      (fun _ _ more => still.trans more))) (fun _ _ failed => failed) (fun result u reached => ?_)
    cases result with
    | ok value => exact Ends.mono ih (fun _ _ more => reached.trans more) (fun _ _ failed => failed)
    | error error =>
      exact Ends.bind ih (fun _ _ failed => failed) (fun _ _ more => Ends.pure (reached.trans more))

theorem clearBuffers_ends (s : UpdateSession ε) {E : γ → UpdateSession ε → Prop} :
    Ends clearBuffers s (fun _ t => Still s t) E :=
  Ends.get_bind (clearArmed_ends _)

/-! ### Stopping -/

theorem refuse_ends {cause : UpdateCause ε} {Q : α → UpdateSession ε → Prop}
    (kept : Kept start plan verified s) :
    Ends (refuse cause) s Q (fun _ t => Kept start plan verified t) :=
  Ends.get_bind (Ends.throw kept)

/-- Stopping leaves a session that may be left whatever it was doing. -/
theorem stop_ends {cause : UpdateCause ε} {Q : α → UpdateSession ε → Prop}
    (sound : Sound start plan verified s) :
    Ends (stop cause) s Q (fun _ t => Kept start plan verified t) := by
  have stopped : Kept start plan verified { s with phase := .interrupted } :=
    .interrupted ⟨sound.planned, sound.extended, sound.safe⟩ rfl
  apply Ends.modify_bind
  refine Ends.bind (clearBuffers_ends _ (E := fun _ _ => False)) (fun _ _ never => never.elim)
    (fun _ t still => ?_)
  exact Ends.get_bind (Ends.throw (stopped.still still))

theorem orStop_ends {cause : γ → UpdateCause ε} {x : InSession ε γ α}
    {P : α → UpdateSession ε → Prop} {F : γ → UpdateSession ε → Prop} (first : Ends x s P F)
    (sound : ∀ error t, F error t → Sound start plan verified t) :
    Ends (orStop cause x) s P (fun _ t => Kept start plan verified t) := by
  refine Ends.attempt_bind first ?_ ?_
  · intro value t reached
    exact Ends.pure reached
  · intro error t reached
    exact stop_ends (sound error t reached)

theorem orRefuse_ends {cause : γ → UpdateCause ε} {x : InSession ε γ α}
    {P : α → UpdateSession ε → Prop} {F : γ → UpdateSession ε → Prop} (first : Ends x s P F)
    (kept : ∀ error t, F error t → Kept start plan verified t) :
    Ends (orRefuse cause x) s P (fun _ t => Kept start plan verified t) := by
  refine Ends.attempt_bind first ?_ ?_
  · intro value t reached
    exact Ends.pure reached
  · intro error t reached
    exact refuse_ends (kept error t reached)

theorem report_ends {onProgress : OnProgress} {shown : List UploadProgress}
    {progress : UploadProgress} (sound : Sound start plan verified s) :
    Ends (report onProgress shown progress) s (fun _ t => t = s)
      (fun _ t => Kept start plan verified t) := by
  unfold report
  split
  · exact Ends.pure rfl
  · exact stop_ends sound

/-! ### Statuses -/

/-- What a snapshot says of a bank was read of it. -/
theorem holds_shown {status : BankInventory} {bank : UInt8}
    {state : BankState} {length : Nat} {revision : Revision} {read : List (Exchange ε)} (some : state ≠ .empty)
    (shown : Statuses plan.target (bankNumbers status.inventory.firmware.bankCount) status.banks read)
    (held : holds status bank state length revision = true) :
    plan.ShowsBank bank state.value length revision read := by
  obtain ⟨value, found, same⟩ := (Option.any_eq_true _ _).mp held
  obtain ⟨rfl, rfl, rfl⟩ := of_decide_eq_true same
  obtain ⟨exchange, among, request, answered⟩ := shown.get found
  obtain ⟨response, replied, netfn, cmd, cc, parsed⟩ := IpmiCommand.readReply_eq_ok.mp answered
  obtain ⟨low, middle, high, major, minor, sdr, rest, bytes, length, revision⟩ := BankStatus.parse_eq_ok parsed some
  exact ⟨exchange, among, request, low, middle, high, major, minor, sdr, rest,
    ⟨response, replied, request ▸ netfn, request ▸ cmd, cc, bytes⟩, length, revision⟩

/-- A snapshot that matches shows both banks as a milestone requires. -/
theorem shows_of_matches {status : BankInventory} {bank : UInt8} {new old : BankState}
    {read : List (Exchange ε)} (newSome : new ≠ .empty) (oldSome : old ≠ .empty)
    (shown : Statuses s.target (bankNumbers status.inventory.firmware.bankCount) status.banks read)
    (image : s.imageMatches status bank new = true) (kept : s.oldBankMatches status old = true) :
    s.toUpdatePlan.Shows bank new.value old.value read where
  new := holds_shown newSome shown image
  old := holds_shown oldSome shown (Bool.and_eq_true_iff.mp kept).2

theorem verifyStaged_ends (bank : UInt8) (s : UpdateSession ε) :
    Ends (verifyStaged bank) s
      (fun staged t => Looked s t ∧ (staged = true →
        s.toUpdatePlan.Shows bank 1 3 (t.link.since s.link)))
      (fun _ t => Looked s t) := by
  apply Ends.get_bind
  refine Ends.bind (onLink_ends (fwumBanks_ends _ _)) (fun _ _ looked => looked)
    (fun status t ⟨looked, shown⟩ => Ends.pure ⟨looked, fun staged => ?_⟩)
  obtain ⟨kept, image⟩ := Bool.and_eq_true_iff.mp staged
  exact shows_of_matches (show BankState.newFirmware ≠ .empty by decide)
    (show BankState.lastKnownGood ≠ .empty by decide) shown image kept

theorem requireStaged_ends (bank : UInt8) (sound : Sound start plan verified s) :
    Ends (requireStaged bank) s
      (fun _ t => Looked s t ∧
        plan.Shows bank 1 3 (t.link.since s.link))
      (fun _ t => Kept start plan verified t) := by
  refine Ends.bind (orStop_ends (verifyStaged_ends bank s) fun _ _ looked =>
    sound.still looked.still) (fun _ _ kept => kept) (fun staged t ⟨looked, shows⟩ => ?_)
  rw [sound.planned] at shows
  split
  · rename_i yes
    exact Ends.pure ⟨looked, shows yes⟩
  · exact stop_ends (sound.still looked.still)

/-! ### Uploading -/

/-- While the image goes out: what was sent is what was confirmed of it. -/
structure Uploading (start : Link ε) (plan : UpdatePlan) (verified : Prop) (bank : UInt8)
    (s : UpdateSession ε) : Prop where
  sound : Sound start plan verified s
  milestones : milestones (s.log start) = [.startImage]
  bank : plan.bank (s.log start) = some bank
  payloads : (payloads plan.mode (s.log start)).flatten = plan.image.bytes.take s.confirmedBytes
  within : s.confirmedBytes ≤ plan.image.len

/-- The next part of the image fits where the last one ended. -/
theorem fits_nextPart {bank : UInt8} (uploading : Uploading start plan verified bank s)
    (more : s.confirmedBytes < plan.image.len) :
    plan.Fits (Fwum.payloads plan.mode (s.log start)) s.nextPart ∧
      s.nextPart.length = s.nextCount ∧ s.confirmedBytes + s.nextCount ≤ plan.image.len := by
  obtain ⟨⟨rfl, _, _⟩, _, _, payloads, within⟩ := uploading
  have room := s.limits.capacity_pos s.mode
  have long : s.image.len = s.image.bytes.length := rfl
  have sent := congrArg List.length payloads
  rw [List.length_take] at sent
  have count : s.nextCount = min (min (s.limits.capacity s.mode) (256 - s.confirmedBytes % 256))
      (s.image.len - s.confirmedBytes) := rfl
  have length : s.nextPart.length = s.nextCount := by
    rw [nextPart, List.length_take, List.length_drop]
    omega
  have capacity : s.nextPart.length ≤ s.limits.capacity s.mode := by omega
  refine ⟨⟨?_, ?_, s.limits.within_capacity (s.mode) (by omega) capacity, by omega⟩, length, by omega⟩
  · rw [← List.length_pos_iff_ne_nil]
    omega
  · rw [payloads, nextPart, ← List.take_add]
    exact List.take_prefix _ _

theorem saveNext_ends {bank sequence : UInt8} (uploading : Uploading start plan verified bank s)
    (more : s.confirmedBytes < plan.image.len)
    (numbered : sequence = UInt8.ofNat (payloads plan.mode (s.log start)).length) :
    Ends (saveNext bank sequence) s
      (fun _ t => Uploading start plan verified bank t ∧ s.confirmedBytes < t.confirmedBytes ∧
        sequence + 1 = UInt8.ofNat (payloads plan.mode (t.log start)).length)
      (fun _ t => Kept start plan verified t) := by
  obtain ⟨fits, long, inside⟩ := fits_nextPart uploading more
  obtain ⟨sound, milestones, selected, sent, within⟩ := uploading
  have same : saveImage s.target (UInt32.ofNat s.confirmedBytes) sequence s.nextPart s.mode =
      plan.save (payloads plan.mode (s.log start)) s.nextPart := by
    have length := congrArg List.length sent
    rw [List.length_take, Nat.min_eq_left (show _ ≤ plan.image.bytes.length from within)] at length
    rw [UpdatePlan.save, length, ← numbered, ← sound.planned]
  have kind : ∀ one : Exchange ε,
      one.request = (plan.save (payloads plan.mode (s.log start)) s.nextPart).request →
        action one = some .saveImage := by
    intro one request
    rw [action, request]
    exact ofRequest_command plan.target 0x0B _ _
  apply Ends.get_bind
  rw [same]
  refine Ends.bind (orStop_ends (write_sound .saveImage sound ?_) fun _ _ sound => sound)
    (fun _ _ kept => kept) ?_
  · intro recent one quiet request
    have minor := minor_of_quiet quiet
    have carried := payload_save request
    unfold UpdatePlan.Allowed
    rw [kind one request, milestones_append, payloads_append, milestones_minor minor,
      payloads_minor minor, List.append_nil, List.append_nil, carried]
    refine ⟨milestones, ⟨bank, ?_⟩, fits, request, request ▸ UpdatePlan.save_data _ _⟩
    rw [UpdatePlan.bank_append (by rw [milestones]; simp), selected]
  · rintro _ t ⟨after, shape, recent, one, quiet, request, _, logged⟩
    have minor := minor_of_quiet quiet
    have carried : payloads plan.mode (t.log start) =
        payloads plan.mode (s.log start) ++ [s.nextPart] := by
      rw [logged, payloads_append, payloads_append, payloads_minor minor, payloads_one (kind one request),
        payload_save request, List.append_nil]
    refine Ends.modify ⟨⟨⟨after.planned, after.extended, after.safe⟩, ?_, ?_, ?_, ?_⟩, ?_, ?_⟩
    · change Fwum.milestones (t.log start) = _
      rw [milestones_sent quiet (kind one request) logged, milestones]
      rfl
    · change plan.bank (t.log start) = _
      rw [bank_sent (by rw [milestones]; simp) logged, selected]
    · change (payloads plan.mode (t.log start)).flatten = _
      rw [carried, List.flatten_append, sent, ← sound.planned]
      simp [nextPart, List.take_add]
    · exact inside
    · have some_ := List.length_pos_iff_ne_nil.mpr fits.nonempty
      change s.confirmedBytes < s.confirmedBytes + s.nextCount
      omega
    · change sequence + 1 = UInt8.ofNat (payloads plan.mode (t.log start)).length
      rw [carried, numbered, List.length_append, UInt8.ofNat_add]
      rfl

/-- The upload loop ends with the whole image sent. -/
theorem saveImages_ends (onProgress : OnProgress) {bank : UInt8} (turns : Nat) {sequence : UInt8}
    (shown : List UploadProgress) (uploading : Uploading start plan verified bank s)
    (enough : plan.image.len ≤ s.confirmedBytes + turns)
    (numbered : sequence = UInt8.ofNat (payloads plan.mode (s.log start)).length) :
    Ends (saveImages onProgress bank turns sequence shown) s
      (fun _ t => Uploading start plan verified bank t ∧ t.confirmedBytes = plan.image.len)
      (fun _ t => Kept start plan verified t) := by
  induction turns generalizing s sequence shown with
  | zero => exact Ends.pure ⟨uploading, Nat.le_antisymm uploading.within enough⟩
  | succ turns ih =>
    apply Ends.get_bind
    have image : s.image = plan.image := by rw [← uploading.sound.planned]
    rw [image]
    split
    · rename_i more
      refine Ends.bind (saveNext_ends uploading more numbered) (fun _ _ kept => kept)
        (fun _ t ⟨next, grown, counted⟩ => ?_)
      apply Ends.get_bind
      refine Ends.bind (report_ends next.sound) (fun _ _ kept => kept) ?_
      rintro shown _ rfl
      exact ih shown next (by omega) counted
    · rename_i all
      exact Ends.pure ⟨uploading, Nat.le_antisymm uploading.within (Nat.le_of_not_lt all)⟩

/-! ### Staging -/

theorem setBuffer_ends (target : FwumTarget) (channel : BufferChannel) (size : UInt8)
    (s : UpdateSession ε) :
    Ends (setBuffer target channel size) s (fun _ t => Still s t) (fun _ t => Still s t) := by
  refine Ends.bind (P := fun _ t => Still s t) (F := fun _ _ => False)
    (Ends.attempt (write_buffer_ends target channel size .setBuffer s))
    (fun _ _ never => never.elim) (fun result t still => ?_)
  cases result with
  | ok value => exact Ends.modify (still.arm _)
  | error error =>
    dsimp only
    split
    · exact Ends.modify_bind (Ends.throw (still.arm _))
    · exact Ends.throw still

theorem localTarget_ends (s : UpdateSession ε) :
    Ends localTarget s (fun _ t => Still s t) (fun _ t => Still s t) := by
  apply Ends.get_bind
  split
  · refine Ends.bind (F := fun _ t => Looked s t)
      (Ends.adapt (onLink_ends (sendRecv_ends _ s.link (targetDeviceId_quiet none))))
      (fun _ _ looked => looked.still) (fun device t ⟨looked, _⟩ => ?_)
    split
    · exact Ends.throw looked.still
    · exact Ends.pure looked.still
  · exact Ends.pure (.refl s)

theorem setupBuffers_ends (s : UpdateSession ε) :
    Ends setupBuffers s (fun _ t => Still s t) (fun _ t => Still s t) := by
  apply Ends.get_bind
  split
  · exact Ends.pure (.refl s)
  · refine Ends.bind (localTarget_ends s) (fun _ _ still => still) (fun controller t first => ?_)
    refine Ends.bind (Ends.adapt (setBuffer_ends controller .current _ t))
      (fun _ _ still => first.trans still) (fun _ u second => ?_)
    have reached := first.trans second
    split
    · refine Ends.bind (Ends.adapt (setBuffer_ends controller .ipmb _ u))
        (fun _ _ still => reached.trans still) (fun _ v third => ?_)
      exact Ends.adapt (Ends.mono (setBuffer_ends _ .current _ v)
        (fun _ _ still => (reached.trans third).trans still)
        (fun _ _ still => (reached.trans third).trans still))
    · exact Ends.pure reached

theorem selectBank_ends (kept : Kept start plan verified s) (prepared : s.phase = .prepared) :
    Ends selectBank s
      (fun bank t => Uploading start plan verified bank t ∧ t.confirmedBytes = 0 ∧
        payloads plan.mode (t.log start) = [])
      (fun _ t => Kept start plan verified t) := by
  obtain ⟨nothing, unsent, zero⟩ : milestones (s.log start) = [] ∧
      payloads plan.mode (s.log start) = [] ∧ s.confirmedBytes = 0 := by
    have phase := kept.phase
    unfold Matches at phase
    rwa [prepared] at phase
  have same : startImage s.target (UInt32.ofNat s.image.len) s.image.padding s.mode = plan.start := by
    rw [UpdatePlan.start, ← kept.sound.planned]
  have count : s.baselineCount = plan.baselineCount := by rw [← kept.sound.planned]
  have old : s.oldGoodBank = plan.oldGoodBank := by rw [← kept.sound.planned]
  have kind : ∀ one : Exchange ε, one.request = plan.start.request →
      action one = some .startImage := by
    intro one request
    rw [action, request]
    exact ofRequest_command plan.target 0x0A _ _
  apply Ends.get_bind
  refine Ends.bind (orStop_ends (onLink_ends (fwumBanks_ends s.target s.link)) fun _ _ looked =>
    kept.sound.still looked.still) (fun _ _ kept => kept) (fun fresh t ⟨looked, _⟩ => ?_)
  split
  · exact stop_ends (kept.sound.still looked.still)
  refine Ends.bind (orStop_ends (setupBuffers_ends t) fun _ _ still =>
    kept.sound.still (looked.still.trans still)) (fun _ _ kept => kept) (fun _ u armed => ?_)
  have still := looked.still.trans armed
  have sound := kept.sound.still still
  have before : milestones (u.log start) = [] := by
    rw [milestones_still kept.sound.extended still, nothing]
  rw [same, count, old]
  refine Ends.bind (orStop_ends (write_sound .startImage sound ?_) fun _ _ sound => sound)
    (fun _ _ kept => kept) ?_
  · intro recent one quiet request
    unfold UpdatePlan.Allowed
    rw [kind one request, milestones_append, milestones_minor (minor_of_quiet quiet), before]
    exact ⟨rfl, request⟩
  · rintro bank v ⟨after, shape, recent, one, quiet, request, answer, logged⟩
    have minor := minor_of_quiet quiet
    have earlier : milestones (u.log start ++ recent) = [] := by
      rw [milestones_append, milestones_minor minor, before, List.append_nil]
    split
    · exact stop_ends after
    · rename_i fine
      rw [not_or, UInt8.not_le] at fine
      have empty : payloads plan.mode (v.log start) = [] := by
        rw [logged, payloads_append, payloads_append, payloads_minor minor,
          payloads_other (kind one request) (by decide), payloads_still kept.sound.extended still,
          unsent]
        rfl
      have confirmed : v.confirmedBytes = 0 := by
        rw [shape]
        exact still.confirmedBytes.trans zero
      refine Ends.modify_bind (Ends.pure
        ⟨⟨⟨after.planned, after.extended, after.safe⟩, ?_, ?_, ?_, ?_⟩, confirmed, empty⟩)
      · change Fwum.milestones (v.log start) = _
        rw [logged, milestones_append, earlier, milestones_one (kind one request)]
        rfl
      · change plan.bank (v.log start) = _
        rw [logged, UpdatePlan.bank_begun earlier (kind one request), UpdatePlan.selected_eq answer fine]
      · change (payloads plan.mode (v.log start)).flatten = plan.image.bytes.take v.confirmedBytes
        rw [empty, confirmed]
        rfl
      · change v.confirmedBytes ≤ plan.image.len
        omega

theorem finish_ends {bank : UInt8} (uploading : Uploading start plan verified bank s)
    (all : s.confirmedBytes = plan.image.len) :
    Ends (finish bank) s (fun _ t => Kept start plan verified t)
      (fun _ t => Kept start plan verified t) := by
  obtain ⟨sound, begun, selected, sent, within⟩ := uploading
  have same : finishImage s.target s.image.revision = finishImage plan.target plan.image.revision := by
    rw [← sound.planned]
  have kind : ∀ one : Exchange ε,
      one.request = (finishImage plan.target plan.image.revision).request →
        action one = some .finishImage := by
    intro one request
    rw [action, request]
    exact ofRequest_command plan.target 0x0C _ _
  apply Ends.get_bind
  rw [same]
  refine Ends.bind (orStop_ends (write_sound .finishImage sound ?_) fun _ _ sound => sound)
    (fun _ _ kept => kept) ?_
  · intro recent one quiet request
    have minor := minor_of_quiet quiet
    unfold UpdatePlan.Allowed
    rw [kind one request, milestones_append, payloads_append, milestones_minor minor,
      payloads_minor minor, List.append_nil, List.append_nil]
    refine ⟨begun, ⟨bank, ?_⟩, ?_, request⟩
    · rw [UpdatePlan.bank_append (by rw [begun]; simp), selected]
    · rw [sent, all]
      exact List.take_length
  · rintro _ t ⟨after, shape, recent, one, quiet, request, _, logged⟩
    have reached : milestones (t.log start) = [.startImage, .finishImage] := by
      rw [milestones_sent quiet (kind one request) logged, begun]
      rfl
    have same : plan.bank (t.log start) = some bank := by
      rw [bank_sent (by rw [begun]; simp) logged, selected]
    refine Ends.bind (requireStaged_ends bank after) (fun _ _ kept => kept)
      (fun _ u ⟨looked, _⟩ => ?_)
    refine Ends.bind (clearBuffers_ends u (E := fun _ _ => False)) (fun _ _ never => never.elim)
      (fun cleanup v cleared => ?_)
    have still := looked.still.trans cleared
    have sound := after.still still
    split
    · refine Ends.modify ⟨⟨sound.planned, sound.extended, sound.safe⟩, ?_, ?_⟩
      · change milestones (v.log start) = _
        rw [milestones_still after.extended still, reached]
      · change plan.bank (v.log start) = _
        rw [bank_still after.extended still (by rw [reached]; simp), same]
    · refine Ends.modify_bind (Ends.get_bind (Ends.throw (.interrupted ?_ rfl)))
      exact ⟨sound.planned, sound.extended, sound.safe⟩

theorem stage_ends (onProgress : OnProgress) (kept : Kept start plan verified s) :
    Ends (stage onProgress) s (fun _ t => Kept start plan verified t)
      (fun _ t => Kept start plan verified t) := by
  apply Ends.get_bind
  split
  · exact refuse_ends kept
  · rename_i prepared
    have image : s.image.len = plan.image.len := by rw [← kept.sound.planned]
    refine Ends.bind (selectBank_ends kept (not_not.mp prepared)) (fun _ _ kept => kept)
      (fun bank t ⟨uploading, zero, empty⟩ => ?_)
    refine Ends.bind (report_ends uploading.sound) (fun _ _ kept => kept) ?_
    rintro shown _ rfl
    refine Ends.bind (saveImages_ends onProgress _ shown uploading (by omega) (by rw [empty]; rfl))
      (fun _ _ kept => kept) (fun _ u ⟨uploaded, all⟩ => ?_)
    exact Ends.bind (finish_ends uploaded all) (fun _ _ kept => kept) (fun _ _ kept => Ends.pure kept)

/-! ### After staging -/

theorem activate_ends (kept : Kept start plan verified s) :
    Ends activate s (fun _ t => Kept start plan verified t)
      (fun _ t => Kept start plan verified t) := by
  apply Ends.get_bind
  split
  case h_2 => exact refuse_ends kept
  case h_1 bank staged =>
    obtain ⟨finished, selected⟩ : milestones (s.log start) = [.startImage, .finishImage] ∧
        plan.bank (s.log start) = some bank := by
      have phase := kept.phase
      unfold Matches at phase
      rwa [staged] at phase
    have target : s.target = plan.target := by rw [← kept.sound.planned]
    have kind : ∀ one : Exchange ε, one.request = (startUpdate plan.target).request →
        action one = some .activate := by
      intro one request
      rw [action, request]
      exact ofRequest_command plan.target 0x09 _ _
    refine Ends.bind (requireStaged_ends bank kept.sound) (fun _ _ kept => kept)
      (fun _ t ⟨looked, shows⟩ => ?_)
    have sound := kept.sound.still looked.still
    have before : milestones (t.log start) = [.startImage, .finishImage] := by
      rw [milestones_still kept.sound.extended looked.still, finished]
    have same : plan.bank (t.log start) = some bank := by
      rw [bank_still kept.sound.extended looked.still (by rw [finished]; simp), selected]
    rw [target]
    refine Ends.bind (orStop_ends (write_sound .activate sound ?_) fun _ _ sound => sound)
      (fun _ _ kept => kept) ?_
    · intro recent one quiet request
      unfold UpdatePlan.Allowed
      rw [kind one request, milestones_append, milestones_minor (minor_of_quiet quiet), before]
      refine ⟨rfl, request, bank, ?_, looked.shownLast kept.sound.extended shows quiet⟩
      rw [UpdatePlan.bank_append (by rw [before]; simp), same]
    · rintro _ u ⟨after, shape, recent, one, quiet, request, _, logged⟩
      refine Ends.modify ⟨⟨after.planned, after.extended, after.safe⟩, ?_, ?_⟩
      · change milestones (u.log start) = _
        rw [milestones_sent quiet (kind one request) logged, before]
        rfl
      · change plan.bank (u.log start) = _
        rw [bank_sent (by rw [before]; simp) logged, same]

/-- A session found activated was so because this returned. -/
theorem verifyActivation_ends (kept : Kept start plan verified s) :
    Ends verifyActivation s
      (fun _ t => Sound start plan verified t ∧ Matches start plan True t)
      (fun _ t => Kept start plan verified t) := by
  apply Ends.get_bind
  split
  case h_2 => exact refuse_ends kept
  case h_1 bank requested =>
    have phase : milestones (s.log start) = [.startImage, .finishImage, .activate] ∧
        plan.bank (s.log start) = some bank := by
      have phase := kept.phase
      unfold Matches at phase
      rwa [requested] at phase
    refine Ends.bind (orRefuse_ends (onLink_ends (fwumBanks_ends s.target s.link)) fun _ _ looked =>
      kept.still looked.still) (fun _ _ kept => kept) (fun status t ⟨looked, _⟩ => ?_)
    have sound := kept.sound.still looked.still
    dsimp only
    split
    · refine Ends.modify ⟨⟨sound.planned, sound.extended, sound.safe⟩, ?_, ?_, trivial⟩
      · change milestones (t.log start) = _
        rw [milestones_still kept.sound.extended looked.still, phase.1]
      · change plan.bank (t.log start) = _
        rw [bank_still kept.sound.extended looked.still (by rw [phase.1]; simp), phase.2]
    · split
      · exact stop_ends sound
      · exact refuse_ends (kept.still looked.still)

theorem rollback_ends (kept : Kept start plan verified s) :
    Ends rollback s (fun _ t => Kept start plan verified t)
      (fun _ t => Kept start plan verified t) := by
  apply Ends.get_bind
  split
  case h_2 => exact refuse_ends kept
  case h_1 bank activated =>
    obtain ⟨taken, selected, seen⟩ :
        milestones (s.log start) = [.startImage, .finishImage, .activate] ∧
          plan.bank (s.log start) = some bank ∧ verified := by
      have phase := kept.phase
      unfold Matches at phase
      rwa [activated] at phase
    have target : s.target = plan.target := by rw [← kept.sound.planned]
    have kind : ∀ one : Exchange ε, one.request = (manualRollback plan.target).request →
        action one = some .rollback := by
      intro one request
      rw [action, request]
      exact ofRequest_command plan.target 0x0E _ _
    refine Ends.bind (orRefuse_ends (onLink_ends (fwumBanks_ends s.target s.link)) fun _ _ looked =>
      kept.still looked.still) (fun _ _ kept => kept) (fun status t ⟨looked, shown⟩ => ?_)
    have sound := kept.sound.still looked.still
    split
    · exact stop_ends sound
    · rename_i fine
      have shows : plan.Shows bank 3 4 (t.link.since s.link) := by
        rw [← kept.sound.planned]
        exact shows_of_matches (show BankState.lastKnownGood ≠ .empty by decide)
          (show BankState.previousGood ≠ .empty by decide) shown (by simp_all) (by simp_all)
      have before : milestones (t.log start) = [.startImage, .finishImage, .activate] := by
        rw [milestones_still kept.sound.extended looked.still, taken]
      have same : plan.bank (t.log start) = some bank := by
        rw [bank_still kept.sound.extended looked.still (by rw [taken]; simp), selected]
      rw [target]
      refine Ends.bind (orStop_ends (write_sound .rollback sound ?_) fun _ _ sound => sound)
        (fun _ _ kept => kept) ?_
      · intro recent one quiet request
        unfold UpdatePlan.Allowed
        rw [kind one request, milestones_append, milestones_minor (minor_of_quiet quiet), before]
        refine ⟨rfl, seen, request, bank, ?_,
          looked.shownLast kept.sound.extended shows quiet⟩
        rw [UpdatePlan.bank_append (by rw [before]; simp), same]
      · rintro _ u ⟨after, shape, recent, one, quiet, request, _, logged⟩
        refine Ends.modify ⟨⟨after.planned, after.extended, after.safe⟩, ?_, ?_⟩
        · change milestones (u.log start) = _
          rw [milestones_sent quiet (kind one request) logged, before]
          rfl
        · change plan.bank (u.log start) = _
          rw [bank_sent (by rw [before]; simp) logged, same]

theorem verifyRollback_ends (kept : Kept start plan verified s) :
    Ends verifyRollback s (fun _ t => Kept start plan verified t)
      (fun _ t => Kept start plan verified t) := by
  apply Ends.get_bind
  split
  case h_2 => exact refuse_ends kept
  case h_1 bank requested =>
    have phase := kept.phase
    unfold Matches at phase
    rw [requested] at phase
    refine Ends.bind (orRefuse_ends (onLink_ends (fwumBanks_ends s.target s.link)) fun _ _ looked =>
      kept.still looked.still) (fun _ _ kept => kept) (fun status t ⟨looked, _⟩ => ?_)
    have sound := kept.sound.still looked.still
    split
    · refine Ends.modify ⟨⟨sound.planned, sound.extended, sound.safe⟩, ?_, ?_⟩
      · change milestones (t.log start) = _
        rw [milestones_still kept.sound.extended looked.still, phase.1]
      · change plan.bank (t.log start) = _
        rw [bank_still kept.sound.extended looked.still (by rw [phase.1]; simp), phase.2]
    · exact refuse_ends (kept.still looked.still)

theorem inspect_ends (s : UpdateSession ε) :
    Ends inspect s (fun _ t => Looked s t) (fun _ t => Looked s t) :=
  Ends.get_bind (Ends.mono (onLink_ends (fwumBanks_ends s.target s.link))
    (fun _ _ looked => looked.1) (fun _ _ looked => looked))

end specifications

end UpdateSession
end IpmiRs.Fwum
