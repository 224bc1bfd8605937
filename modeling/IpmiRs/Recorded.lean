import IpmiRs.IpmiConnection
import IpmiRs.Library.Logged

/-! A connection that keeps a log of its exchanges, and what a command adds to it. -/
namespace IpmiRs
open Connection Library Library.Stateful Library.Logged

namespace IpmiConnection
variable {σ ε α β : Type}

/-- The same connection, with a log of what it exchanges. -/
def recorded (con : IpmiConnection σ ε) : IpmiConnection (σ × List (Exchange ε)) ε where
  transact request s :=
    let answered := con.transact request s.1
    (answered.1, answered.2, s.2 ++ [⟨request, answered.1⟩])
  supportsLongMutationWorkflows s := con.supportsLongMutationWorkflows s.1
  ipmbSequenceBudget s := con.ipmbSequenceBudget s.1
  reserveIpmbSequences minimum s :=
    ((con.reserveIpmbSequences minimum s.1).1, (con.reserveIpmbSequences minimum s.1).2, s.2)
  releaseIpmbSequences s := (con.releaseIpmbSequences s.1, s.2)

variable (con : IpmiConnection σ ε)

/-- A command adds its exchange, and returns or fails with what it makes of the reply. -/
theorem sendRecv_tells (command : IpmiCommand α β) :
    Tells (con.recorded.sendRecv command)
      (fun value log => ∃ one, log = [one] ∧ one.request = command.request ∧
        command.readReply one.reply = .ok value)
      (fun error log => ∃ one, log = [one] ∧ one.request = command.request ∧
        command.readReply one.reply = .error error) := by
  intro s log
  refine Ends.call (fun value returned => ⟨[_], rfl, _, rfl, rfl, returned⟩)
    (fun error failed => ⟨[_], rfl, _, rfl, rfl, failed⟩)

end IpmiConnection
end IpmiRs
