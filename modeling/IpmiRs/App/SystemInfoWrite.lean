import IpmiRs.App.SystemInfoStrings
import IpmiRs.Library.Transaction

/-! Writing a string of system information in one transaction,
`system_info_write_guarded`. A begin that is not acknowledged is left alone:
the lock might belong to someone else. -/
namespace IpmiRs.App.SystemInfo
open Library Library.Checked Library.Stateful Library.Transaction

/-- Whether the optional Commit Write is sent. -/
inductive SystemInfoCommitMode where
  | completeOnly
  | commitThenComplete
  deriving DecidableEq

inductive SystemInfoWriteError (ε : Type) where
  | begun (error : ε)
  | uncertain (failedBlock : Option (Nat × ε)) (commit cleanup : Option ε)

/-- The sets of a string, which are always valid writes. -/
def SystemInfoString.writes (value : SystemInfoString) : List SetSystemInfoParameter :=
  returned value.toWrites (by rw [value.toWrites_eq]; rfl)

section
variable {σ ε : Type} (send : Sender σ SetSystemInfoParameter ε) (value : SystemInfoString)
  (commitMode : SystemInfoCommitMode)

def systemInfoWriteGuarded : Stateful σ (SystemInfoWriteError ε) Unit := do
  match ← perform send (.setInProgress .inProgress) with
  | .error error => throw (.begun error)
  | .ok () =>
    let failedBlock ← sendAll send 0 value.writes
    let commit ←
      if failedBlock.isNone ∧ commitMode = .commitThenComplete then do
        let committed ← perform send (.setInProgress .commitWrite)
        pure (err committed)
      else pure none
    let cleanup ← perform send (.setInProgress .complete)
    if failedBlock.isNone ∧ commit.isNone ∧ (err cleanup).isNone then return
    else throw (.uncertain failedBlock commit (err cleanup))

end

/-- The transaction of a string. -/
def systemInfoPlan (value : SystemInfoString) (commitMode : SystemInfoCommitMode) :
    Plan SetSystemInfoParameter where
  opening := ⟨.setInProgress, [1]⟩
  writes := value.writes
  commit := if commitMode = .commitThenComplete then some ⟨.setInProgress, [2]⟩ else none
  closing := ⟨.setInProgress, [0]⟩

/-- How a write of a string tells what failed. -/
def systemInfoResult {ε : Type} : Report ε → Except (SystemInfoWriteError ε) Unit
  | ⟨some error, _, _, _⟩ => .error (.begun error)
  | ⟨none, none, none, none⟩ => .ok ()
  | ⟨none, failedBlock, commit, cleanup⟩ => .error (.uncertain failedBlock commit cleanup)

section
variable {σ ε : Type} {send : Sender σ SetSystemInfoParameter ε} {value : SystemInfoString}
  {commitMode : SystemInfoCommitMode}

theorem systemInfoResult_eq_ok {report : Report ε} : systemInfoResult report = .ok () ↔ report.Clean := by
  obtain ⟨_ | opening, _ | write, _ | commit, _ | closing⟩ := report <;>
    simp [systemInfoResult, Report.Clean]

/-- What was sent for a string, and what was returned for it. A begin that
failed is never taken for one that may have opened the transaction. -/
def SystemInfoTold (value : SystemInfoString) (commitMode : SystemInfoCommitMode)
    (log : Log SetSystemInfoParameter ε) (result : Except (SystemInfoWriteError ε) Unit) : Prop :=
  ∃ report, Ran (systemInfoPlan value commitMode) (fun _ => False) log report ∧
    result = systemInfoResult report

/-- The transaction is closed whatever became of it, and then reported. -/
theorem closing_ends {failedBlock : Option (Nat × ε)} {commit : Option ε}
    {log : Log SetSystemInfoParameter ε} {s : σ}
    (ran : ∀ closed, Ran (systemInfoPlan value commitMode) (fun _ => False)
      (log ++ [(⟨.setInProgress, [0]⟩, closed)])
      { write := failedBlock, commit := commit, closing := err closed }) :
    Ends (do
        let cleanup ← perform (recording send) (.setInProgress .complete)
        if failedBlock.isNone ∧ commit.isNone ∧ (err cleanup).isNone then return
        else throw (.uncertain failedBlock commit (err cleanup))) (s, log)
      (fun _ t => SystemInfoTold value commitMode t.2 (.ok ()))
      (fun error t => SystemInfoTold value commitMode t.2 (.error error)) := by
  refine perform_bind fun closed s => ?_
  have told := ran closed
  cases failedBlock with
  | some write => exact Ends.throw ⟨_, told, rfl⟩
  | none =>
    cases commit with
    | some error => exact Ends.throw ⟨_, told, rfl⟩
    | none =>
      cases closed with
      | error error => exact Ends.throw ⟨_, told, rfl⟩
      | ok => exact Ends.pure ⟨_, told, rfl⟩

theorem systemInfoWriteGuarded_ends (send : Sender σ SetSystemInfoParameter ε) (s : σ) :
    Ends (systemInfoWriteGuarded (recording send) value commitMode) (s, [])
      (fun _ t => SystemInfoTold value commitMode t.2 (.ok ()))
      (fun error t => SystemInfoTold value commitMode t.2 (.error error)) := by
  refine perform_bind fun opened s => ?_
  cases opened with
  | error error => exact Ends.throw ⟨_, .refused error id, rfl⟩
  | ok =>
    refine Ends.bind (sendAll_ends 0 value.writes) (fun _ _ never => never.elim) ?_
    rintro failure ⟨s, log⟩ (⟨rfl, rfl⟩ | ⟨done, failed, rest, error, cut, rfl, rfl⟩)
    · cases commitMode with
      | completeOnly =>
        exact closing_ends fun closed => .of_eq (.written closed rfl) rfl
      | commitThenComplete =>
        refine perform_bind fun answer s => closing_ends fun closed => ?_
        refine .of_eq (.committed ⟨.setInProgress, [2]⟩ answer closed rfl) ?_
        simp only [List.nil_append, List.cons_append, List.append_assoc]
        rfl
    · have unsent : ¬((some (0 + done.length, error)).isNone = true ∧
          commitMode = .commitThenComplete) := nofun
      rw [Nat.zero_add] at unsent ⊢
      simp only [if_neg unsent, pure_bind]
      refine closing_ends fun closed => ?_
      refine .of_eq (.stopped done failed rest error closed cut) ?_
      simp only [List.nil_append, List.cons_append, List.append_assoc]
      rfl

end
end IpmiRs.App.SystemInfo
