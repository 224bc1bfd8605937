import IpmiRs.Library.Stateful

/-! Transactions over a link that may lose any command: a command that opens
one, the writes in between, perhaps one that commits them, and one that closes
it whatever became of the writes. What was sent is told together with every
answer, so that a report can be compared with it. -/
namespace IpmiRs.Library.Transaction
open Stateful

variable {σ κ ε ε' : Type}

/-- Something that sends commands and learns whether they were acknowledged. -/
abbrev Sender (σ κ ε : Type) := κ → σ → Except ε Unit × σ

/-- What was sent so far, each command with its answer. -/
abbrev Log (κ ε : Type) := List (κ × Except ε Unit)

/-- The sender, keeping a log of what it sends. -/
def recording (send : Sender σ κ ε) : Sender (σ × Log κ ε) κ ε := fun command (s, log) =>
  ((send command s).1, (send command s).2, log ++ [(command, (send command s).1)])

/-- Send a command, and go on whatever the answer. -/
def perform (send : Sender σ κ ε) (command : κ) : Stateful σ ε' (Except ε Unit) :=
  ExceptT.mk fun s => (.ok (send command s).1, (send command s).2)

/-- Send commands in order, up to the first that is not acknowledged. -/
def sendAll (send : Sender σ κ ε) : Nat → List κ → Stateful σ ε' (Option (Nat × ε))
  | _, [] => pure none
  | index, command :: rest => do
    match ← perform send command with
    | .ok () => sendAll send (index + 1) rest
    | .error error => return some (index, error)

/-- `result.err()` -/
def err {α : Type} : Except ε α → Option ε
  | .ok _ => none
  | .error error => some error

/-- The commands that failed, by what they are for. -/
structure Report (ε : Type) where
  opening : Option ε := none
  write : Option (Nat × ε) := none
  commit : Option ε := none
  closing : Option ε := none

/-- The commands of a transaction. -/
structure Plan (κ : Type) where
  opening : κ
  writes : List κ
  commit : Option κ
  closing : κ

/-- A command with the answer that it was done. -/
def acked (command : κ) : κ × Except ε Unit := (command, .ok ())

/-- The logs of a transaction with their reports. One that was not opened is
closed only if it may have been all the same, which `unsure` tells from the
answer; one that was opened is always closed. -/
inductive Ran (plan : Plan κ) (unsure : ε → Prop) : Log κ ε → Report ε → Prop
  | refused (error : ε) (sure : ¬unsure error) :
      Ran plan unsure [(plan.opening, .error error)] { opening := some error }
  | lost (error : ε) (closed : Except ε Unit) (may : unsure error) :
      Ran plan unsure [(plan.opening, .error error), (plan.closing, closed)]
        { opening := some error, closing := err closed }
  | stopped (done : List κ) (failed : κ) (rest : List κ) (error : ε) (closed : Except ε Unit)
      (cut : plan.writes = done ++ failed :: rest) :
      Ran plan unsure
        (acked plan.opening :: done.map acked ++ [(failed, .error error), (plan.closing, closed)])
        { write := some (done.length, error), closing := err closed }
  | written (closed : Except ε Unit) (direct : plan.commit = none) :
      Ran plan unsure (acked plan.opening :: plan.writes.map acked ++ [(plan.closing, closed)])
        { closing := err closed }
  | committed (commit : κ) (answer closed : Except ε Unit) (applies : plan.commit = some commit) :
      Ran plan unsure
        (acked plan.opening :: plan.writes.map acked ++ [(commit, answer), (plan.closing, closed)])
        { commit := err answer, closing := err closed }

/-- No command failed. -/
def Report.Clean (report : Report ε) : Prop :=
  report.opening = none ∧ report.write = none ∧ report.commit = none ∧ report.closing = none

section
variable {plan : Plan κ} {unsure : ε → Prop} {log : Log κ ε} {report : Report ε}

theorem err_eq_none {answer : Except ε Unit} : err answer = none ↔ answer = .ok () := by
  cases answer with
  | ok => exact ⟨fun _ => rfl, fun _ => rfl⟩
  | error => exact ⟨nofun, nofun⟩

theorem all_acked (commands : List κ) : ∀ one ∈ commands.map (acked (ε := ε)), one.2 = .ok () := by
  intro one member
  obtain ⟨command, -, rfl⟩ := List.mem_map.mp member
  rfl

theorem Ran.of_eq {other : Log κ ε} (ran : Ran plan unsure other report) (same : log = other) :
    Ran plan unsure log report := same ▸ ran

/-- A report is clean if and only if every command sent was acknowledged. -/
theorem Ran.clean_iff (ran : Ran plan unsure log report) :
    report.Clean ↔ ∀ one ∈ log, one.2 = .ok () := by
  cases ran with
  | refused error => simp [Report.Clean]
  | lost error closed => simp [Report.Clean]
  | stopped done failed rest error closed =>
    constructor
    · exact fun fine => nomatch fine.2.1
    · intro all
      have bad : (Except.error error : Except ε Unit) = .ok () := all (failed, .error error) (by simp)
      cases bad
  | written closed =>
    simp only [Report.Clean, List.forall_mem_append, List.forall_mem_cons, err_eq_none, true_and]
    exact ⟨fun fine => ⟨⟨rfl, all_acked _⟩, fine, nofun⟩, fun all => all.2.1⟩
  | committed commit answer closed =>
    simp only [Report.Clean, List.forall_mem_append, List.forall_mem_cons, err_eq_none, true_and]
    exact ⟨fun fine => ⟨⟨rfl, all_acked _⟩, fine.1, fine.2, nofun⟩, fun all => ⟨all.2.1, all.2.2.1⟩⟩

end

section
variable {send : Sender σ κ ε} {s : σ} {log : Log κ ε}

/-- A command that is sent is in the log with its answer, whatever that is. -/
theorem perform_bind {α : Type} {command : κ} {next : Except ε Unit → Stateful (σ × Log κ ε) ε' α}
    {Q : α → σ × Log κ ε → Prop} {E : ε' → σ × Log κ ε → Prop}
    (goes : ∀ answer s, Ends (next answer) (s, log ++ [(command, answer)]) Q E) :
    Ends (perform (recording send) command >>= next) (s, log) Q E := by
  have sent : Ends (perform (recording send) command) (s, log)
      (fun answer t => t.2 = log ++ [(command, answer)]) (fun (_ : ε') _ => False) := rfl
  refine Ends.bind sent (fun _ _ never => never.elim) ?_
  rintro answer ⟨s, _⟩ rfl
  exact goes answer s

/-- The commands are sent in order, and nothing after the first that fails. -/
theorem sendAll_ends (index : Nat) (commands : List κ) :
    Ends (sendAll (recording send) index commands) (s, log)
      (fun failure t => (failure = none ∧ t.2 = log ++ commands.map acked) ∨
        ∃ done failed rest error, commands = done ++ failed :: rest ∧
          failure = some (index + done.length, error) ∧
          t.2 = log ++ (done.map acked ++ [(failed, .error error)]))
      (fun (_ : ε') _ => False) := by
  induction commands generalizing index s log with
  | nil => exact Ends.pure (.inl ⟨rfl, (List.append_nil log).symm⟩)
  | cons command commands ih =>
    refine perform_bind fun answer s => ?_
    cases answer with
    | error error => exact Ends.pure (.inr ⟨[], command, commands, error, rfl, rfl, rfl⟩)
    | ok =>
      refine Ends.mono (ih (index + 1)) ?_ fun _ _ never => never
      rintro failure ⟨s, sent⟩ (⟨rfl, rfl⟩ | ⟨done, failed, rest, error, cut, rfl, rfl⟩)
      · exact .inl ⟨rfl, by rw [List.append_assoc]; rfl⟩
      · refine .inr ⟨command :: done, failed, rest, error, by rw [cut]; rfl, ?_, by
          rw [List.append_assoc]; rfl⟩
        rw [List.length_cons, Nat.add_right_comm, Nat.add_assoc]

end
end IpmiRs.Library.Transaction
