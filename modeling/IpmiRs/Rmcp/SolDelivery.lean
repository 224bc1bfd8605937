import IpmiRs.Rmcp.SolOutputKept
import IpmiRs.Rmcp.SolTransmission

/-! Console input on its way to the BMC. A BMC that takes each data sequence once
has a prefix of what was sent, and the console knows how much of it, or says
that it does not. -/
namespace IpmiRs.Rmcp.Sol
open App App.Auth Connection Library Library.Stateful Library.Runs

/-! ### Runs -/

section
variable {digests : Digests} {backend : Backend} {remotePort : UInt16} {p : Sender} {limit : Nat} {t : Logged}

theorem Rounds.mono {most wider : Nat} {first last : Option UInt8} {sent : List SolFrame}
    (rounds : Rounds most first sent last) (within : most ≤ wider) : Rounds wider first sent last := by
  induction rounds with
  | nil => exact .nil _
  | cons new few fits later ih => exact .cons new few (fits.trans within) ih

/-- What was acknowledged, with what may have been taken of the frame that waits. -/
theorem Delivered.taken {q : Sender} {chars tail : List UInt8} {n : Nat} (delivered : Delivered p q chars n)
    (taken : tail <+: q.pending.elim [] StopAndWait.Frame.data) :
    n + tail.length ≤ chars.length ∧ q.confirmed ++ tail = p.confirmed ++ chars.take (n + tail.length) := by
  have part := taken.trans delivered.underway
  have fits := part.length_le
  have within := delivered.within
  rw [List.length_drop] at fits
  refine ⟨by omega, ?_⟩
  rw [delivered.confirmed, List.take_add, List.append_assoc, ← List.prefix_iff_eq_take.mp part]

end

/-- A session is opened whose frames to the BMC have at most two characters. -/
def narrowOpening : OpenConditions where
  activating := metWith [consolePacket 0 1 [0x81, 0x1c, 0x63, 0x20, 0, 0x48, 0, 0, 0, 0, 0, 6, 0, 32, 0, 0x6f, 2, 0, 0,
    0x01]]
  cleanup := metWith []

def narrowStart : Logged := idle ⟨some (.v2_0 plainSession), []⟩ false firstInstance

def narrowOpened : Logged := ((openSol plainDigests plainBackend 623 firstInstance narrowOpening).eval narrowStart).2

def answeredBy (turns : List Turn) : Attempt := ⟨prompt, 0, turns, 200⟩

/-- A break is sent and acknowledged. -/
def breakSent : List SolCall := [.sendControl { generateBreak := true }
  ⟨1000, [answeredBy [consolePacket 1 2 [0, 1, 0, 0]]], metWith []⟩]

/-- The first acknowledgement is lost, the next one is of one character of two, and the last comes with output. -/
def acknowledgedInParts : InputConditions where
  cancelled := false
  deadline := 1000
  transmissions := [
    [answeredBy [⟨0, 0, prompt, ⟨[], .timeout⟩, prompt⟩], answeredBy [consolePacket 1 3 [0, 2, 1, 0]]],
    [answeredBy [consolePacket 1 4 [0, 3, 1, 0]]],
    [answeredBy [consolePacket 1 5 [1, 4, 1, 0, 0x78]]]]
  cleanup := metWith []

def outcome : Except Halt Nat × Logged :=
  (sendInput plainDigests plainBackend [0x61, 0x62, 0x63] acknowledgedInParts).eval
    (Runs.after (step plainDigests plainBackend 623) narrowOpened breakSent)

end IpmiRs.Rmcp.Sol
