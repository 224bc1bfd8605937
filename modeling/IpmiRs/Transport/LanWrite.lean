import IpmiRs.Library.Transaction
import IpmiRs.Transport.LanReadback

/-! Writing several LAN parameters in one transaction, `transport/lan_write.rs`:
everything is validated first, and what was opened is closed. -/
namespace IpmiRs.Transport
open Connection Library Library.Checked Library.Stateful Library.Transaction

structure SetLanConfigParameters where
  channel : Channel
  parameter : LanConfigParameter
  data : List UInt8
  deriving DecidableEq

namespace SetLanConfigParameters

/-- A validated write of the parameter a typed value belongs to. -/
def checked (channel : Channel) (request : LanConfigParameterRequest) : Lan SetLanConfigParameters := do
  let parameter ← okOr request.parameter .mismatchedParameter
  let data ← request.tryToBytes
  return ⟨channel, parameter, data⟩

/-- The `status` closure: a state is always valid. -/
def status (channel : Channel) (state : LanSetInProgress) : SetLanConfigParameters :=
  returned (checked channel (.setState state)) (by cases state <;> rfl)

theorem status_eq (channel : Channel) (state : LanSetInProgress) :
    status channel state = ⟨channel, .setInProgress, [state.byte]⟩ := by
  cases state <;> rfl

end SetLanConfigParameters

/-- Whether a failed Set In Progress certainly did not open a transaction. -/
inductive LanBeginFailure where
  | rejected
  | uncertain
  deriving DecidableEq

inductive LanWriteError (ε : Type) where
  | validation (error : LanConfigError)
  | beginRejected (error : ε)
  | beginUncertain (error : ε) (cleanup : Option ε)
  | uncertain (write : Option (Nat × ε)) (commit cleanup : Option ε)

/-- The loop of `lan_write_guarded` that validates every request. -/
def validate (channel : Channel) :
    List (LanConfigParameter × LanConfigParameterRequest) → Lan (List SetLanConfigParameters)
  | [] => pure []
  | (parameter, request) :: writes =>
    if parameter = .setInProgress then throw .mismatchedParameter
    else if request.parameter.any (· ≠ parameter) then throw .mismatchedParameter
    else do
      let bytes ← request.tryToBytes
      let validated ← validate channel writes
      return ⟨channel, parameter, bytes⟩ :: validated

theorem validate_yields (channel : Channel) (writes : List (LanConfigParameter × LanConfigParameterRequest)) :
    Yields (fun _ => True) (validate channel writes) := by
  induction writes with
  | nil => trivial
  | cons write writes ih =>
    refine yields_check fun _ => yields_check fun _ => ?_
    exact Yields.bind write.2.tryToBytes_yields fun _ _ => Yields.bind ih fun _ _ => trivial

/-- The requests as they are sent, or why they are not. -/
def validated (channel : Channel) (writes : List (LanConfigParameter × LanConfigParameterRequest)) :
    Except LanConfigError (List SetLanConfigParameters) :=
  outcome (validate channel writes) (Option.isSome_iff_exists.mpr (validate_yields channel writes).returns)

section
variable {σ ε : Type} (send : Sender σ SetLanConfigParameters ε) (channel : Channel)
  (writes : List (LanConfigParameter × LanConfigParameterRequest)) (classifyBegin : ε → LanBeginFailure)

/-- `lan_write_guarded`, from the begin on. -/
def lanTransaction (commands : List SetLanConfigParameters) : Stateful σ (LanWriteError ε) Unit := do
  match ← perform send (SetLanConfigParameters.status channel .inProgress) with
  | .error error =>
    if classifyBegin error = .rejected then throw (.beginRejected error)
    else
      let cleanup ← perform send (SetLanConfigParameters.status channel .complete)
      throw (.beginUncertain error (err cleanup))
  | .ok () =>
    match ← sendAll send 0 commands with
    | some write =>
      let cleanup ← perform send (SetLanConfigParameters.status channel .complete)
      throw (.uncertain (some write) none (err cleanup))
    | none =>
      let commit ← perform send (SetLanConfigParameters.status channel .commitWrite)
      let cleanup ← perform send (SetLanConfigParameters.status channel .complete)
      if (err commit).isNone ∧ (err cleanup).isNone then return
      else throw (.uncertain none (err commit) (err cleanup))

def lanWriteGuarded : Stateful σ (LanWriteError ε) Unit :=
  match validated channel writes with
  | .error error => throw (.validation error)
  | .ok [] => return
  | .ok (first :: rest) => lanTransaction send channel classifyBegin (first :: rest)

end

/-- The transaction of validated commands. -/
def lanPlan (channel : Channel) (commands : List SetLanConfigParameters) : Plan SetLanConfigParameters where
  opening := ⟨channel, .setInProgress, [1]⟩
  writes := commands
  commit := some ⟨channel, .setInProgress, [2]⟩
  closing := ⟨channel, .setInProgress, [0]⟩

/-- How a write of LAN parameters tells what failed. -/
def lanResult {ε : Type} (classifyBegin : ε → LanBeginFailure) :
    Report ε → Except (LanWriteError ε) Unit
  | ⟨some error, _, _, cleanup⟩ =>
    .error (if classifyBegin error = .rejected then .beginRejected error
      else .beginUncertain error cleanup)
  | ⟨none, none, none, none⟩ => .ok ()
  | ⟨none, write, commit, cleanup⟩ => .error (.uncertain write commit cleanup)

section
variable {σ ε : Type} {channel : Channel}
  {writes : List (LanConfigParameter × LanConfigParameterRequest)} {classifyBegin : ε → LanBeginFailure}

/-- What was sent of a transaction, and what was returned for it. -/
def LanRan (channel : Channel) (commands : List SetLanConfigParameters)
    (classifyBegin : ε → LanBeginFailure) (log : Log SetLanConfigParameters ε)
    (result : Except (LanWriteError ε) Unit) : Prop :=
  ∃ report, Ran (lanPlan channel commands) (fun error => classifyBegin error ≠ .rejected) log report ∧
    result = lanResult classifyBegin report

theorem lanResult_eq_ok {report : Report ε} :
    lanResult classifyBegin report = .ok () ↔ report.Clean := by
  obtain ⟨_ | opening, _ | write, _ | commit, _ | closing⟩ := report <;>
    simp [lanResult, Report.Clean]

/-- What a validated command is: the bytes of its request for the parameter. -/
def Encodes (channel : Channel) (write : LanConfigParameter × LanConfigParameterRequest)
    (command : SetLanConfigParameters) : Prop :=
  command.channel = channel ∧ command.parameter = write.1 ∧ write.1 ≠ .setInProgress ∧
    write.2.tryToBytes = pure command.data

/-- The validated commands are the writes, in order. -/
theorem validate_encodes {commands : List SetLanConfigParameters}
    (valid : validate channel writes = pure commands) :
    List.Forall₂ (Encodes channel) writes commands := by
  induction writes generalizing commands with
  | nil =>
    cases valid
    exact .nil
  | cons write writes ih =>
    obtain ⟨other, valid⟩ := of_check_eq_pure valid
    obtain ⟨-, valid⟩ := of_check_eq_pure valid
    obtain ⟨bytes, encoded, valid⟩ := of_bind_eq_pure valid
    obtain ⟨later, rest, valid⟩ := of_bind_eq_pure valid
    cases valid
    exact .cons ⟨rfl, rfl, other, encoded⟩ (ih rest)

/-- What was sent and what was returned for it: nothing is sent if the requests
are not valid or there are none, and else a transaction is run and reported. -/
def LanTold (channel : Channel) (writes : List (LanConfigParameter × LanConfigParameterRequest))
    (classifyBegin : ε → LanBeginFailure) (log : Log SetLanConfigParameters ε)
    (result : Except (LanWriteError ε) Unit) : Prop :=
  match validated channel writes with
  | .error error => log = [] ∧ result = .error (.validation error)
  | .ok [] => log = [] ∧ result = .ok ()
  | .ok (first :: rest) => LanRan channel (first :: rest) classifyBegin log result

theorem lanTransaction_ends (send : Sender σ SetLanConfigParameters ε)
    (commands : List SetLanConfigParameters) (s : σ) :
    Ends (lanTransaction (recording send) channel classifyBegin commands) (s, [])
      (fun _ t => LanRan channel commands classifyBegin t.2 (.ok ()))
      (fun error t => LanRan channel commands classifyBegin t.2 (.error error)) := by
  refine perform_bind fun opened s => ?_
  cases opened with
  | error error =>
    by_cases sure : classifyBegin error = .rejected
    · simp only [if_pos sure]
      exact Ends.throw ⟨_, .refused error (not_not.mpr sure), by rw [lanResult, if_pos sure]⟩
    · simp only [if_neg sure]
      refine perform_bind fun closed s => ?_
      exact Ends.throw ⟨_, .lost error closed sure, by rw [lanResult, if_neg sure]⟩
  | ok =>
    refine Ends.bind (sendAll_ends 0 commands) (fun _ _ never => never.elim) ?_
    rintro failure ⟨s, log⟩ (⟨rfl, rfl⟩ | ⟨done, failed, rest, error, cut, rfl, rfl⟩)
    · refine perform_bind fun answer s => perform_bind fun closed s => ?_
      have ran : Ran (lanPlan channel commands) (fun error => classifyBegin error ≠ .rejected)
          ([] ++ [(SetLanConfigParameters.status channel .inProgress, .ok ())] ++ commands.map acked ++
            [(SetLanConfigParameters.status channel .commitWrite, answer)] ++
            [(SetLanConfigParameters.status channel .complete, closed)])
          { commit := err answer, closing := err closed } := by
        refine Ran.of_eq (.committed ⟨channel, .setInProgress, [2]⟩ answer closed rfl) ?_
        simp only [SetLanConfigParameters.status_eq, List.nil_append, List.cons_append,
          List.append_assoc]
        rfl
      cases answer with
      | error => exact Ends.throw ⟨_, ran, rfl⟩
      | ok =>
        cases closed with
        | error => exact Ends.throw ⟨_, ran, rfl⟩
        | ok => exact Ends.pure ⟨_, ran, rfl⟩
    · refine perform_bind fun closed s => Ends.throw ?_
      refine ⟨_, .of_eq (.stopped done failed rest error closed cut) ?_, by rw [Nat.zero_add]; rfl⟩
      simp only [SetLanConfigParameters.status_eq, List.nil_append, List.cons_append,
        List.append_assoc]
      rfl

theorem lanWriteGuarded_ends (send : Sender σ SetLanConfigParameters ε) (s : σ) :
    Ends (lanWriteGuarded (recording send) channel writes classifyBegin) (s, [])
      (fun _ t => LanTold channel writes classifyBegin t.2 (.ok ()))
      (fun error t => LanTold channel writes classifyBegin t.2 (.error error)) := by
  unfold lanWriteGuarded LanTold
  cases validated channel writes with
  | error error => exact Ends.throw ⟨rfl, rfl⟩
  | ok commands =>
    cases commands with
    | nil => exact Ends.pure ⟨rfl, rfl⟩
    | cons first rest => exact lanTransaction_ends send (first :: rest) s

end
end IpmiRs.Transport
