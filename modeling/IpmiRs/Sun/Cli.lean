import IpmiRs.Library.Chunks
import IpmiRs.Sun.Packets

/-! A command line of a Sun service processor, `sun_cli`: a session is opened in
one of two protocol versions, the line is typed in chunks, what it outputs is
drained, and the session is ended. -/
namespace IpmiRs.Sun
open Connection App Library Library.Checked Library.Chunks Library.Stateful OverLink

variable {ε : Type}

/-- `cli_response`: the status, the handle, and the data up to the first zero. -/
def cliResponse (reply : List UInt8) (version sequence : UInt8) (expectedHandle : Option (List UInt8)) :
    Checked (SunError ε) (UInt8 × List UInt8 × List UInt8) := do
  if ¬(9 ≤ reply.length ∧ reply.length ≤ 80) then throw (.protocol .truncated)
  else do
    let first ← index reply 0
    let echoed ← index reply 2
    if first ≠ version ∨ (version = 2 ∧ echoed ≠ sequence) then throw (.protocol .truncated)
    else do
      let handle ← slice reply 4 8
      if expectedHandle.any (· != handle) then throw (.protocol .invalidSequence)
      else do
        let text ← slice reply 8 reply.length
        let stop ← okOr (text.findIdx? (· == 0)) (.protocol .truncated)
        let status ← index reply 1
        let data ← slice reply 8 (8 + stop)
        pure (status, handle, data)

/-- The packet that opens a session. -/
def openPacket (version : UInt8) : List UInt8 := [version, 0, 0, 0, 0, 0, 0, 0, 0]

/-- The version of the session, and the reply to the packet that opened it. -/
def openSession : OverSun ε (UInt8 × List UInt8) := do
  let opened : Except (Fault (SunError ε)) (List UInt8) ← (sunPacket 0x19 (openPacket 2)).attempt
  match opened with
  | .ok reply =>
    if reply.length < 9 then pure (2, reply)
    else do
      let status ← checked (index reply 1)
      if status ≠ 0 ∧ isCliVersionRejection reply then do
        let reply ← sunPacket 0x19 (openPacket 1)
        pure (1, reply)
      else pure (2, reply)
  | .error (.error (.oem (.command (.command .invalidVersion _ _ _ _)))) => do
    let reply ← sunPacket 0x19 (openPacket 1)
    pure (1, reply)
  | .error fault => throw fault

/-- The action and the text of the next packet, and the chunks after it. -/
def nextPacket (chunks : List (List UInt8)) : Option UInt8 → UInt8 × List UInt8 × List (List UInt8)
  | some action => (action, [], chunks)
  | none =>
    match chunks with
    | [] => (4, [], [])
    | [chunk] => (3, chunk ++ [0x0A], [])
    | chunk :: chunks => (3, chunk, chunks)

def cliPacket (version action sequence : UInt8) (handle chunk : List UInt8) : List UInt8 :=
  [version, action, sequence, 0] ++ handle ++ chunk ++ [0]

/-- The sequence field of the packet after one. -/
def nextSequence (version sequence : UInt8) : UInt8 := if version = 2 then sequence ^^^ 1 else sequence

/-- The loop of `sun_cli`. -/
def cliSteps (version : UInt8) (handle : List UInt8) (maxOutput : Nat) :
    (turns : Nat) → (sequence : UInt8) → List (List UInt8) → Option UInt8 → List UInt8 → OverSun ε (List UInt8)
  | 0, _, _, _, _ => throw (.error .limit)
  | turns + 1, sequence, chunks, drainAction, output => do
    let (action, chunk, chunks) := nextPacket chunks drainAction
    let reply ← sunPacket 0x19 (cliPacket version action sequence handle chunk)
    let (status, _, data) ← checked (cliResponse reply version sequence (some handle))
    if maxOutput < output.length + data.length then throw (.error .limit)
    else if status = 0 then
      cliSteps version handle maxOutput turns (nextSequence version sequence) chunks
        (if data = [] then none else some action) (output ++ data)
    else if status = 1 ∧ action = 4 then pure (output ++ data)
    else throw (.error (.protocol .invalidValue))

/-- `sun_cli` -/
def sunCli (line : List UInt8) (maxOutput : Nat) : OverSun ε (List UInt8) := do
  let _ ← checked (identifier line 1024)
  if (0x0A ∈ line ∨ 0x0D ∈ line) ∨ ¬(1 ≤ maxOutput ∧ maxOutput ≤ 4096) then
    throw (.error (.invalidInput "CLI requires one line and a 1..=4096 output limit"))
  else do
    let (version, reply) ← openSession
    let (status, handle, _) ← checked (cliResponse reply version 0 none)
    if status ≠ 0 then throw (.error (.protocol .invalidValue))
    else cliSteps version handle maxOutput 64 (if version = 2 then 1 else 0) (chunks 70 line) none []

/-! ### What a session exchanges -/

/-- A reply of a version and a sequence, with a status, a handle, and data that a zero ends. -/
structure CliReply (version sequence status : UInt8) (handle data reply : List UInt8) : Prop where
  length : 9 ≤ reply.length ∧ reply.length ≤ 80
  bytes : ∃ echoed reserved rest, reply = [version, status, echoed, reserved] ++ handle ++ data ++ 0 :: rest ∧
    (version = 2 → echoed = sequence)
  handle : handle.length = 4
  data : 0 ∉ data

/-- The reply to a packet is one of the session. -/
def Read (version sequence status : UInt8) (handle data : List UInt8) (one : Exchange ε) : Prop :=
  ∃ reply, one.request.Answered one.reply 0 reply ∧ CliReply version sequence status handle data reply

/-- The reply to a packet tells that the version is not supported. -/
def RejectsVersion (one : Exchange ε) : Prop :=
  ∃ cc data, one.request.Answered one.reply cc data ∧ isCliVersionRejection data = true ∧
    (cc ≠ 0 ∨ ∃ status, data[1]? = some status ∧ status ≠ 0)

/-- A packet after the one that opened the session. -/
structure CliStep (ε : Type) where
  action : UInt8
  text : List UInt8
  one : Exchange ε

/-- The text that is typed by the packets of a session. -/
def typed (steps : List (CliStep ε)) : List UInt8 := (steps.filter (·.action == 3)).flatMap (·.text)

/-- The packets of a session carry its handle and alternate their sequence; each but the last was answered well. -/
inductive InStep (version : UInt8) (handle : List UInt8) : UInt8 → List (CliStep ε) → Prop
  | stopped (sequence : UInt8) : InStep version handle sequence []
  | last {sequence : UInt8} {step : CliStep ε}
      (sent : step.one.request = (packet 0x19 (cliPacket version step.action sequence handle step.text)).request) :
      InStep version handle sequence [step]
  | next {sequence : UInt8} {step : CliStep ε} {data : List UInt8} {steps : List (CliStep ε)}
      (sent : step.one.request = (packet 0x19 (cliPacket version step.action sequence handle step.text)).request)
      (read : Read version sequence 0 handle data step.one)
      (rest : InStep version handle (nextSequence version sequence) steps) : InStep version handle sequence (step :: steps)

/-- All the packets of a session were answered well, the last one with the end of the session, and their data
is the output. -/
inductive Finished (version : UInt8) (handle : List UInt8) : UInt8 → List (CliStep ε) → List UInt8 → Prop
  | last {sequence : UInt8} {step : CliStep ε} {data : List UInt8} (eof : step.action = 4)
      (read : Read version sequence 1 handle data step.one) : Finished version handle sequence [step] data
  | next {sequence : UInt8} {step : CliStep ε} {data output : List UInt8} {steps : List (CliStep ε)}
      (read : Read version sequence 0 handle data step.one)
      (rest : Finished version handle (nextSequence version sequence) steps output) :
      Finished version handle sequence (step :: steps) (data ++ output)

end IpmiRs.Sun
