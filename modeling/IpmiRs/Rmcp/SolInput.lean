import IpmiRs.Rmcp.SolSession

/-! Console input, `send_input` and the serial controls of `rmcp/sol.rs`. A frame
is sent again under its sequence until it is acknowledged, and what an
acknowledgement leaves is sent under the next one. -/
namespace IpmiRs.Rmcp.Sol
open Connection Library Library.Chunks

def RETRY_WAIT : Nat := 150

/-- What one transmission of a frame meets: the send, the clock after it, what
is received, and the clock after that. -/
structure Attempt where
  sending : Sending
  now : Instant
  turns : List Turn
  later : Instant

/-- What a call that sends input meets: whether it was cancelled, when it has to
be over, the transmissions of each frame, and the deactivation if one follows. -/
structure InputConditions where
  cancelled : Bool
  deadline : Instant
  transmissions : List (List Attempt)
  cleanup : Conditions

section input
variable (digests : Digests) (backend : Backend)

/-- A send may have reached the BMC if it got to the socket. -/
def reached : Except RmcpIpmiError (List UInt8) → Bool
  | .ok _ => true
  | .error (.send (.v2_0 .io)) => true
  | .error _ => false

/-- `send_sol_frame` -/
def sendSolFrame (frame : SolFrame) (deadline : Instant) (sending : Sending) :
    Console (Except RmcpIpmiError (List UInt8)) := do
  let (result, s) := (← state).sendSolFrame backend.provider frame deadline sending
  setState s
  tell (if reached result then [.sent frame] else [])
  return result

/-- A failed send is known not to have left the console. -/
def unsent : RmcpIpmiError → Bool
  | .send .cancelled => true
  | .send .deadlineExpired => true
  | _ => false

/-- The acknowledgement that was noted is taken. -/
def takeAck : Console InputAck := do
  let flow ← solFlow
  setFlow { flow with waitingForAck := none, inputAck := none }
  match flow.inputAck with
  | some ack => return ack
  | none => throw .panicked

/-- The loop of `transmit`, with so many transmissions left. Its end is not
reached: the last transmission is not repeated after a timeout. -/
def transmitLoop (frame : SolFrame) (deadline : Instant) (confirmed : Nat) (cleanup : Conditions) :
    Nat → List Attempt → Console InputAck
  | 0, _ => interrupted digests backend .noProgress confirmed true cleanup
  | _ + 1, [] => throw .waiting
  | left + 1, met :: rest => do
    match ← sendSolFrame backend frame deadline met.sending with
    | .error error =>
      interrupted digests backend (.send error) confirmed (left ≠ MAX_RETRANSMISSIONS ∨ unsent error = false) cleanup
    | .ok _ =>
      match ← pollSol backend (min deadline (met.now + RETRY_WAIT)) true met.turns with
      | .ok () => takeAck
      | .error error =>
        if error = .timeout ∧ 0 < left ∧ met.later < deadline then
          transmitLoop frame deadline confirmed cleanup left rest
        else interrupted digests backend (.receive error) confirmed true cleanup

/-- `transmit` -/
def transmit (frame : SolFrame) (deadline : Instant) (confirmed : Nat) (cleanup : Conditions)
    (attempts : List Attempt) : Console InputAck := do
  let flow ← solFlow
  setFlow { flow with waitingForAck := some frame.sequence, inputAck := none }
  transmitLoop digests backend frame deadline confirmed cleanup (MAX_RETRANSMISSIONS + 1) attempts

/-- `next_sequence` -/
def nextSequence : Console UInt8 := do
  let (sequence, flow) := (← solFlow).nextSequence
  setFlow flow
  return sequence

/-- The rest of a chunk, after some partial acknowledgements. It gives what was
confirmed, and the transmissions that were not needed. -/
def sendChunk (deadline : Instant) (cleanup : Conditions) :
    List UInt8 → Nat → Nat → List (List Attempt) → Console (Nat × List (List Attempt))
  | [], _, confirmed, transmissions => return (confirmed, transmissions)
  | _ :: _, _, _, [] => throw .waiting
  | char :: chars, partials, confirmed, attempts :: transmissions => do
    let sequence ← nextSequence
    let ack ← transmit digests backend ⟨sequence, 0, 0, {}, char :: chars⟩ deadline confirmed cleanup attempts
    let accepted := ack.accepted.toNat
    if (char :: chars).length < accepted then
      interrupted digests backend (.receive (.sol .invalidAck)) confirmed true cleanup
    else
      let confirmed := confirmed + accepted
      let remaining := (char :: chars).drop accepted
      if ack.unavailable then interrupted digests backend .remoteNack confirmed (remaining ≠ []) cleanup
      else if MAX_RETRANSMISSIONS + 1 < partials + 1 ∧ remaining ≠ [] then
        interrupted digests backend (if ack.nack then .remoteNack else .noProgress) confirmed true cleanup
      else sendChunk deadline cleanup remaining (partials + 1) confirmed transmissions

/-- The chunks that are left. -/
def sendChunks (deadline : Instant) (cleanup : Conditions) :
    List (List UInt8) → Nat → List (List Attempt) → Console Nat
  | [], confirmed, _ => return confirmed
  | chunk :: rest, confirmed, transmissions => do
    let (confirmed, transmissions) ← sendChunk digests backend deadline cleanup chunk 0 confirmed transmissions
    sendChunks deadline cleanup rest confirmed transmissions

/-- `send_input` -/
def sendInput (input : List UInt8) (met : InputConditions) : Console Nat := do
  let (s, _) ← get
  if MAX_INPUT_CALL < input.length then throw (.error .invalidOperation)
  else if !s.active then throw (.error .invalidOperation)
  else if met.cancelled then interrupted digests backend (.receive .cancelled) 0 false met.cleanup
  else
    let chunkSize := (← solFlow).maxInput - 4
    if chunkSize = 0 then throw (.error .invalidOperation)
    else sendChunks digests backend met.deadline met.cleanup (chunks chunkSize input) 0 met.transmissions

/-- What a control call meets. -/
structure ControlConditions where
  deadline : Instant
  attempts : List Attempt
  cleanup : Conditions

/-- `send_control` -/
def sendControl (flags : SolFlags) (met : ControlConditions) : Console Unit := do
  let (s, _) ← get
  if !s.active then throw (.error .invalidOperation)
  else
    let sequence ← nextSequence
    let ack ← transmit digests backend ⟨sequence, 0, 0, flags, []⟩ met.deadline 0 met.cleanup met.attempts
    if ack.nack ∨ ack.unavailable ∨ ack.accepted ≠ 0 then
      interrupted digests backend .remoteNack 0 true met.cleanup
    else return ()

/-- `send_break` -/
def sendBreak (met : ControlConditions) : Console Unit :=
  sendControl digests backend { generateBreak := true } met

/-- `flush_inbound` -/
def flushInbound (met : ControlConditions) : Console Unit :=
  sendControl digests backend { flushInbound := true } met

/-- `flush_outbound` -/
def flushOutbound (met : ControlConditions) : Console Unit :=
  sendControl digests backend { flushOutbound := true } met

end input
end IpmiRs.Rmcp.Sol
