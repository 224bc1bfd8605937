import IpmiRs.Fwum.UpdateMethods
import IpmiRs.Library.Runs

/-! Every update session keeps to the rules of an update: whatever is called, in
whatever order, and whatever the device and the progress callback answer. -/
namespace IpmiRs.Fwum
open Connection Library Library.Stateful Library.Runs OverLink

namespace UpdateSession
variable {ε : Type} {start : Link ε} {plan : UpdatePlan} {verified : Prop} {s : UpdateSession ε}

/-! ### Calls -/

theorem Kept.mono {more : Prop} (kept : Kept start plan verified s) (grown : verified → more) :
    Kept start plan more s := by
  refine ⟨⟨kept.sound.planned, kept.sound.extended, kept.sound.safe.mono grown⟩, ?_⟩
  have phase := kept.phase
  unfold Matches at phase ⊢
  split at phase
  case h_5 => exact ⟨phase.1, phase.2.1, grown phase.2.2⟩
  all_goals simp_all

/-- A call keeps to the rules, and only a check that returned finds the new
image activated. -/
theorem call_ends (call : Call) (kept : Kept start plan verified s) :
    Ends call.run s
      (fun _ t => Sound start plan verified t ∧
        Matches start plan (verified ∨ call = .verifyActivation) t)
      (fun _ t => Kept start plan verified t) := by
  have weaken : ∀ t, Kept start plan verified t → Sound start plan verified t ∧
      Matches start plan (verified ∨ call = .verifyActivation) t :=
    fun t kept => ⟨kept.sound, (kept.mono Or.inl).phase⟩
  cases call with
  | stage onProgress =>
    exact Ends.bind (stage_ends onProgress kept) (fun _ _ kept => kept)
      (fun _ t kept => Ends.pure (weaken t kept))
  | activate => exact Ends.mono (activate_ends kept) (fun _ => weaken) (fun _ _ kept => kept)
  | verifyActivation =>
    refine Ends.mono (verifyActivation_ends kept) (fun _ t ended => ⟨ended.1, ?_⟩)
      (fun _ _ kept => kept)
    rw [show (verified ∨ Call.verifyActivation = .verifyActivation) = True by simp]
    exact ended.2
  | rollback => exact Ends.mono (rollback_ends kept) (fun _ => weaken) (fun _ _ kept => kept)
  | verifyRollback =>
    exact Ends.mono (verifyRollback_ends kept) (fun _ => weaken) (fun _ _ kept => kept)
  | inspect =>
    refine Ends.bind (P := fun _ t => Looked s t) (F := fun _ _ => False)
      (Ends.attempt (inspect_ends s)) (fun _ _ never => never.elim)
      (fun _ t looked => Ends.pure (weaken t (kept.still looked.still)))

/-- An interrupted session stays so, and does nothing but read. -/
theorem interrupted_ends (call : Call) (interrupted : s.phase = .interrupted) :
    Ends call.run s (fun _ t => Looked s t) (fun _ t => Looked s t) := by
  have refused : ∀ (α : Type) (Q : α → UpdateSession ε → Prop),
      Ends (refuse .invalidPhase : InSession ε (UpdateError ε) α) s Q (fun _ t => Looked s t) :=
    fun _ _ => Ends.get_bind (Ends.throw ⟨rfl, .refl _⟩)
  cases call with
  | stage onProgress =>
    refine Ends.bind (P := fun _ _ => False) (Ends.get_bind ?_) (fun _ _ looked => looked)
      (fun _ _ never => never.elim)
    rw [if_pos (by rw [interrupted]; decide)]
    exact refused _ _
  | activate =>
    refine Ends.get_bind ?_
    rw [interrupted]
    exact refused _ _
  | verifyActivation =>
    refine Ends.get_bind ?_
    rw [interrupted]
    exact refused _ _
  | rollback =>
    refine Ends.get_bind ?_
    rw [interrupted]
    exact refused _ _
  | verifyRollback =>
    refine Ends.get_bind ?_
    rw [interrupted]
    exact refused _ _
  | inspect =>
    refine Ends.bind (P := fun _ t => Looked s t) (F := fun _ _ => False)
      (Ends.attempt (inspect_ends s)) (fun _ _ never => never.elim)
      (fun _ t looked => Ends.pure looked)

/-- An activation was verified by one of the calls made. -/
def Verified (past : List (Move (UpdateSession ε) Call (Except (UpdateError ε) Unit))) : Prop :=
  ∃ made ∈ past, made.op = .verifyActivation ∧ made.out = .ok ()

theorem step_sound (call : Call) (kept : Kept start plan verified s) :
    Sound start plan verified (step s call).2 := by
  obtain ⟨returned, failed⟩ := (call_ends call kept).evaluated
  cases ended : (call.run.eval s).1 with
  | ok value => exact (returned value ended).1
  | error error => exact (failed error ended).sound

theorem step_kept (call : Call) (kept : Kept start plan verified s) :
    Kept start plan (verified ∨ call = .verifyActivation ∧ (step s call).1 = .ok ())
      (step s call).2 := by
  obtain ⟨returned, failed⟩ := (call_ends call kept).evaluated
  unfold step
  cases ended : (call.run.eval s).1 with
  | ok value =>
    obtain ⟨sound, phase⟩ := returned value ended
    refine ⟨⟨sound.planned, sound.extended, sound.safe.mono Or.inl⟩, ?_⟩
    simpa using phase
  | error error => exact (failed error ended).mono Or.inl

/-- Every run of a session keeps the invariant. -/
theorem run_kept (kept : Kept start plan False s) (calls : List Call) :
    Kept start plan (Verified (moves step s calls)) (after step s calls) := by
  refine history step (P := fun past s => Kept start plan (Verified past) s)
    (kept.mono False.elim) (fun past s call kept => (step_kept call kept).mono ?_) calls
  rintro (⟨made, member, verified⟩ | verified)
  · exact ⟨made, List.mem_append_left _ member, verified⟩
  · exact ⟨_, List.mem_append_right _ (List.mem_singleton_self _), verified⟩

/-! ### Preparation -/

/-- A session as it is prepared: nothing was changed, and the old good bank was
read as such. -/
structure Prepared (link : Link ε) (target : FwumTarget) (bytes : List UInt8)
    (limits : TransportLimits) (s : UpdateSession ε) : Prop where
  image : s.image.bytes = bytes
  aimed : s.target = target
  limited : s.limits = limits
  read : ReadOnly link s.link
  old : Answered (getStatus target s.oldGoodBank).toIpmiCommand s.oldGood (s.link.since link)
  good : s.oldGood.state = .lastKnownGood
  phase : s.phase = .prepared
  confirmedBytes : s.confirmedBytes = 0

theorem Prepared.kept {link : Link ε} {target : FwumTarget} {bytes : List UInt8}
    {limits : TransportLimits} (prepared : Prepared link target bytes limits s) :
    Kept link s.toUpdatePlan False s := by
  have minor := minor_of_quiet prepared.read.quiet
  refine ⟨⟨rfl, prepared.read.extended, ?_⟩, ?_⟩
  · exact UpdatePlan.Safe.nil.append minor
  · unfold Matches
    rw [prepared.phase]
    exact ⟨milestones_minor minor, payloads_minor minor, prepared.confirmedBytes⟩

theorem preflight_ends {α : Type} {link : Link ε} (result : Except PrepareError α)
    {E : UpdateError ε → Link ε → Prop} (failed : ∀ error, E error link) :
    Ends (preflight result) link (fun value after => after = link ∧ result = .ok value) E := by
  cases result with
  | ok value => exact Ends.pure ⟨rfl, rfl⟩
  | error error => exact Ends.throw (failed _)

/-- The bank to keep is one that was read as known good. -/
theorem rollbackBank_good {banks : List BankStatus} {bank : UInt8} (few : banks.length < 256)
    (chosen : rollbackBank banks = .ok bank) :
    ∃ status, banks[bank.toNat]? = some status ∧ status.state = .lastKnownGood := by
  unfold rollbackBank at chosen
  split at chosen
  · cases chosen
  · split at chosen
    · cases chosen
    · rename_i index found
      split at chosen
      · cases chosen
      · obtain ⟨inside, good, _⟩ := List.findIdx?_eq_some_iff_getElem.mp found
        have same : bank.toNat = index := by
          rw [← Except.ok.inj chosen, UInt8.toNat_ofNat']
          omega
        rw [same]
        exact ⟨_, List.getElem?_eq_getElem inside, of_decide_eq_true good⟩

/-- Preparing reads, and yields a session only of a bank it read as known good. -/
theorem fwumPrepareUpdate_ends (supports : Bool) (target : FwumTarget) (bytes : List UInt8)
    (authorization : UpdateAuthorization) (limits : TransportLimits) (link : Link ε) :
    Ends (fwumPrepareUpdate supports target bytes authorization limits) link
      (fun s _ => Prepared link target bytes limits s) (fun _ after => ReadOnly link after) := by
  unfold fwumPrepareUpdate
  split
  · exact Ends.throw (.refl link)
  refine Ends.bind (preflight_ends _ fun _ => .refl link) (fun _ _ read => read) ?_
  rintro image _ ⟨rfl, parsed⟩
  refine Ends.bind (preflight_ends _ fun _ => .refl _) (fun _ _ read => read) ?_
  rintro _ _ ⟨rfl, _⟩
  refine Ends.bind (preflight_ends _ fun _ => .refl _) (fun _ _ read => read) ?_
  rintro _ link ⟨rfl, _⟩
  split
  · exact Ends.throw (.refl _)
  refine Ends.bind (Ends.adapt (fwumBanks_ends target link)) (fun _ _ read => read)
    (fun baseline read ⟨quiet, shown⟩ => ?_)
  split
  · exact Ends.throw quiet
  refine Ends.bind (preflight_ends _ fun _ => quiet) (fun _ _ read => read) ?_
  rintro bank read ⟨rfl, chosen⟩
  have few : baseline.banks.length < 256 := by
    have long := shown.length_eq
    rw [bankNumbers, List.length_map, List.length_range] at long
    have small := baseline.inventory.firmware.bankCount.toNat_lt
    omega
  obtain ⟨status, found, good⟩ := rollbackBank_good few chosen
  refine Ends.get_bind (Ends.pure ⟨?_, rfl, rfl, quiet, ?_, ?_, rfl, rfl⟩)
  · cases whole : FirmwareImage.parse bytes with
    | error error => rw [whole] at parsed; cases parsed
    | ok image =>
      rw [whole] at parsed
      cases parsed
      exact FirmwareImage.parse_bytes whole
  · rw [found]
    exact shown.get found
  · rw [found]
    exact good

/-! ### Safety -/

end UpdateSession

/-- The bank an update is about. -/
def UpdatePhase.bank : UpdatePhase → Option UInt8
  | .prepared => none
  | .uploading bank _ => some bank
  | .staged bank => some bank
  | .activationRequested bank => some bank
  | .activated bank => some bank
  | .rollbackRequested bank => some bank
  | .rolledBack bank => some bank
  | .interrupted => none

namespace UpdateSession
variable {ε : Type} {start : Link ε} {plan : UpdatePlan} {verified : Prop} {s : UpdateSession ε}

theorem Matches.bank (phase : Matches start plan verified s) {bank : UInt8}
    (named : s.phase.bank = some bank) :
    plan.bank (s.log start) = some bank := by
  unfold Matches at phase
  cases shape : s.phase <;> rw [shape] at phase named <;> simp_all [UpdatePhase.bank]

/-- What is exchanged since a preparation, in whatever is called of the session:
each milestone at most once and in order; parts of the image that follow one
another, and all of it before it is finished; never the old good bank, and
nothing more once interrupted. -/
theorem update_session_safe (supports : Bool) (target : FwumTarget) (bytes : List UInt8)
    (authorization : UpdateAuthorization) (limits : TransportLimits) (link : Link ε)
    (session : UpdateSession ε)
    (prepared : ((fwumPrepareUpdate supports target bytes authorization limits).eval link).1 =
      .ok session) (calls : List Call) (call : Call) :
    let plan := session.toUpdatePlan
    let s := after step session calls
    let t := (step s call).2
    Prepared link target bytes limits session ∧
    link.Extends t.link ∧
    milestones (t.log link) <+: [.startImage, .finishImage, .activate, .rollback] ∧
    plan.Safe (Verified (moves step session calls)) (t.log link) ∧
    (∀ bank, t.phase.bank = some bank →
      plan.bank (t.log link) = some bank ∧ bank < plan.baselineCount ∧ bank ≠ plan.oldGoodBank) ∧
    (s.phase = .interrupted →
      t.phase = .interrupted ∧ ∀ exchange ∈ t.link.since s.link, action exchange = none) := by
  intro plan s t
  have ready := (fwumPrepareUpdate_ends supports target bytes authorization limits link).evaluated.1
    session prepared
  have kept : Kept link plan (Verified (moves step session calls)) s := run_kept ready.kept calls
  have sound : Sound link plan (Verified (moves step session calls)) t := step_sound call kept
  refine ⟨ready, sound.extended, sound.safe.milestones, sound.safe, ?_, ?_⟩
  · intro bank named
    have selected := (step_kept call kept).phase.bank named
    exact ⟨selected, UpdatePlan.bank_ne selected⟩
  · intro interrupted
    obtain ⟨returned, failed⟩ := (interrupted_ends call interrupted).evaluated
    have looked : Looked s t := by
      cases ended : (call.run.eval s).1 with
      | ok value => exact returned value ended
      | error error => exact failed error ended
    exact ⟨looked.still.phase.trans interrupted, looked.read.quiet⟩

/-- The least image there can be. -/
private def leastImage (checksum last : UInt8) : List UInt8 :=
  List.replicate HEADER 0 ++
    [0, 0, 0x05, 0xB4, 0xFE, checksum, 0, 1, 0x22, 0, 0, 0, 0, 0, 0x98, 0x3A, 0, 0, 0, last]

/-- A board with two banks, the second of which takes the image. -/
private def twoBanks : Link Unit where
  reply sent :=
    match sent.getLast? with
    | none => .error ()
    | some request =>
      let done cmd := sent.any fun earlier => earlier.netfnRaw == 0x08 && earlier.cmd == cmd
      let old : UInt8 := if done 0x09 then 4 else 3
      let new : UInt8 := if done 0x09 then 3 else if done 0x0C then 1 else 0
      let data : List UInt8 :=
        if request.netfnRaw = 0x06 then [0x22, 0, 0, 0, 0, 0, 0x98, 0x3A, 0, 1, 0]
        else if request.cmd = 0x00 then [6, 0x22, 0, 1, 0x10, 2]
        else if request.cmd = 0x07 then
          if request.data = [0] then [old, 0x10, 0, 0, 1, 0x10, 0]
          else [new, 0xB4, 0x05, 0, 0, 0, 0]
        else if request.cmd = 0x0A then [1]
        else []
      .ok ⟨0, ⟨request.netfnRaw + 1, request.cmd, 0 :: data⟩, by simp⟩
  sent := []

private def approved : Except PrepareError UpdateAuthorization :=
  UpdateAuthorization.new "tonight" (leastImage 0x51 1) "inspect the banks" "activate the old bank"

private def prepareTwoBanks (authorization : UpdateAuthorization) :
    Except (UpdateError Unit) (UpdateSession Unit) :=
  ((fwumPrepareUpdate true ⟨none, 1⟩ (leastImage 0x52 0) authorization (.standard .local)).eval
    twoBanks).1

/-- An update that is staged, activated and verified, and what its rollback leaves. -/
private def rolledBack (session : UpdateSession Unit) : UpdateSession Unit :=
  (step (after step session [.stage fun _ => true, .activate, .verifyActivation]) .rollback).2

/-- Every milestone is reached, of the second bank, while the first one is the old good one. -/
theorem update_session_safe_two_banks :
    ∃ authorization session, approved = .ok authorization ∧ prepareTwoBanks authorization = .ok session ∧
      session.oldGoodBank = 0 ∧
      milestones ((rolledBack session).log twoBanks) = [.startImage, .finishImage, .activate, .rollback] ∧
      (rolledBack session).phase = .rollbackRequested 1 ∧
      session.toUpdatePlan.bank ((rolledBack session).log twoBanks) = some 1 ∧
      session.Safe (Verified (moves step session [.stage fun _ => true, .activate, .verifyActivation]))
        ((rolledBack session).log twoBanks) := by
  have ran : (do
      let session ← (approved.toOption.bind fun a => (prepareTwoBanks a).toOption)
      return (session.oldGoodBank, milestones ((rolledBack session).log twoBanks), (rolledBack session).phase)) =
        some (0, [.startImage, .finishImage, .activate, .rollback], .rollbackRequested 1) := by
    decide +kernel
  cases written : approved with
  | error error =>
    rw [written] at ran
    cases ran
  | ok authorization =>
    rw [written] at ran
    cases prepared : prepareTwoBanks authorization with
    | error error =>
      have failed : ((prepareTwoBanks authorization).toOption >>= fun session => _ : Option _) = some _ := ran
      rw [prepared] at failed
      cases failed
    | ok session =>
      have returned : ((prepareTwoBanks authorization).toOption >>= fun session => some (session.oldGoodBank,
          milestones ((rolledBack session).log twoBanks), (rolledBack session).phase)) = some _ := ran
      rw [prepared] at returned
      obtain ⟨old, rest⟩ := Prod.mk.inj (Option.some.inj returned)
      obtain ⟨reached, phase⟩ := Prod.mk.inj rest
      obtain ⟨-, -, -, safe, bank, -⟩ := update_session_safe true ⟨none, 1⟩ (leastImage 0x52 0)
        authorization (.standard .local) twoBanks session prepared
        [.stage fun _ => true, .activate, .verifyActivation] .rollback
      have named : (rolledBack session).phase.bank = some 1 := by rw [phase]; rfl
      exact ⟨authorization, session, rfl, prepared, old, reached, phase, (bank 1 named).1, safe⟩

end UpdateSession
end IpmiRs.Fwum
