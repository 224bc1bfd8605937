import IpmiRs.Rmcp.Errors

/-! Serial over LAN, `rmcp/v2_0/sol.rs`: the frames of one SOL payload and the
flow control of one session. -/
namespace IpmiRs.Rmcp

def MAX_SOL_DATA : Nat := 255
def MAX_OUTPUT_QUEUE : Nat := 4096

structure SolFlags where
  nack : Bool := false
  transferUnavailable : Bool := false
  inactive : Bool := false
  overrun : Bool := false
  breakDetected : Bool := false
  generateBreak : Bool := false
  flushInbound : Bool := false
  flushOutbound : Bool := false
  deriving DecidableEq

def SolFlags.decode (value : UInt8) : Except SolFrameError SolFlags :=
  if value &&& 0x83 ≠ 0 then .error .invalidHeader
  else .ok {
    nack := value &&& 0x40 != 0
    transferUnavailable := value &&& 0x20 != 0
    inactive := value &&& 0x10 != 0
    overrun := value &&& 0x08 != 0
    breakDetected := value &&& 0x04 != 0 }

def SolFlags.encode (flags : SolFlags) : UInt8 :=
  flags.nack.toUInt8 <<< 6 ||| flags.transferUnavailable.toUInt8 <<< 5 |||
    flags.inactive.toUInt8 <<< 4 ||| flags.overrun.toUInt8 <<< 3 |||
    flags.breakDetected.toUInt8 <<< 2 ||| flags.generateBreak.toUInt8 <<< 4 |||
    flags.flushInbound.toUInt8 <<< 1 ||| flags.flushOutbound.toUInt8

/-- A SOL packet: its data sequence (zero for none), what it acknowledges, and
the console characters. -/
structure SolFrame where
  sequence : UInt8
  ack : UInt8
  accepted : UInt8
  flags : SolFlags
  data : List UInt8
  deriving DecidableEq

namespace SolFrame

def decode (bytes : List UInt8) : Except SolFrameError SolFrame :=
  match bytes with
  | sequence :: ack :: accepted :: flags :: data =>
    if MAX_SOL_DATA < data.length then .error .invalidLength
    else if sequence &&& 0xf0 ≠ 0 ∨ ack &&& 0xf0 ≠ 0 then .error .invalidHeader
    else
      match SolFlags.decode flags with
      | .error error => .error error
      | .ok flags =>
        if (ack = 0 ∧ accepted ≠ 0) ∨ (sequence = 0 ∧ data ≠ []) then .error .invalidHeader
        else .ok { sequence, ack, accepted, flags, data }
  | _ => .error .invalidLength

def encode (frame : SolFrame) : Except SolFrameError (List UInt8) :=
  if 15 < frame.sequence ∨ 15 < frame.ack ∨ MAX_SOL_DATA < frame.data.length ∨
      (frame.sequence = 0 ∧ frame.data ≠ []) ∨ (frame.ack = 0 ∧ frame.accepted ≠ 0) then
    .error .invalidHeader
  else .ok ([frame.sequence, frame.ack, frame.accepted, frame.flags.encode] ++ frame.data)

/-- `SolFrame::ack`: an acknowledgement without data. -/
def ackOf (sequence : UInt8) (accepted : Nat) (nack : Bool) : SolFrame where
  sequence := 0
  ack := sequence
  accepted := UInt8.ofNat accepted
  flags := { nack }
  data := []

end SolFrame

structure InputAck where
  accepted : UInt8
  nack : Bool
  unavailable : Bool
  deriving DecidableEq

structure SolFlow where
  output : List UInt8
  previousSequence : Option UInt8
  previousData : List UInt8
  previousAccepted : Nat
  nextInputSequence : UInt8
  waitingForAck : Option UInt8
  inputAck : Option InputAck
  maxInput : Nat
  maxOutput : Nat
  deriving DecidableEq

namespace SolFlow

def new (maxInput maxOutput : Nat) : SolFlow where
  output := []
  previousSequence := none
  previousData := []
  previousAccepted := 0
  nextInputSequence := 1
  waitingForAck := none
  inputAck := none
  maxInput := min maxInput (MAX_SOL_DATA + 4)
  maxOutput := min maxOutput (MAX_SOL_DATA + 4)

def hasOutput (flow : SolFlow) : Bool := !flow.output.isEmpty

/-- `read` into a buffer of the given size. -/
def read (flow : SolFlow) (room : Nat) : List UInt8 × SolFlow :=
  let count := min room flow.output.length
  (flow.output.take count, { flow with output := flow.output.drop count })

/-- The data sequence after the given one. -/
def following (sequence : UInt8) : UInt8 := if sequence = 15 then 1 else sequence + 1

/-- `next_sequence`: take the next data sequence for console input. -/
def nextSequence (flow : SolFlow) : UInt8 × SolFlow :=
  (flow.nextInputSequence, { flow with nextInputSequence := following flow.nextInputSequence })

/-- The part of `accept` that notes what the frame acknowledges. -/
def noteAck (flow : SolFlow) (frame : SolFrame) : SolFlow :=
  if flow.waitingForAck = some frame.ack then
    { flow with inputAck := some ⟨frame.accepted, frame.flags.nack, frame.flags.transferUnavailable⟩ }
  else flow

/-- The part of `accept` that compares a data frame with the previous one, and
gives how much of it was accepted before. -/
def resume (flow : SolFlow) (frame : SolFrame) : Except SolFrameError Nat :=
  match flow.previousSequence with
  | none => .ok flow.previousAccepted
  | some previous =>
    if frame.sequence = previous then
      let common := min flow.previousData.length frame.data.length
      -- All bytes seen are compared, not only the accepted ones.
      if frame.data.take common ≠ flow.previousData.take common then
        .error .conflictingRetransmission
      else if frame.data.length < flow.previousAccepted then .error .conflictingRetransmission
      else .ok flow.previousAccepted
    else if frame.sequence ≠ following previous ∨
        (flow.previousAccepted < flow.previousData.length ∧
          ¬ flow.previousData.drop flow.previousAccepted <+: frame.data) then
      .error .outputGap
    else .ok 0

/-- `accept`. What the frame acknowledges is noted even if its data is
refused. -/
def accept (flow : SolFlow) (frame : SolFrame) :
    Except SolFrameError (Option SolFrame) × SolFlow :=
  if flow.maxOutput < frame.data.length + 4 then (.error .exceedsNegotiatedLimit, flow)
  else
    let flow := flow.noteAck frame
    if frame.sequence = 0 then (.ok none, flow)
    else
      match flow.resume frame with
      | .error error => (.error error, flow)
      | .ok before =>
        let newlyAvailable := frame.data.length - before
        let accepted := min (min newlyAvailable (MAX_OUTPUT_QUEUE - flow.output.length)) (255 - before)
        let end' := before + accepted
        let remembered :=
          if flow.previousSequence ≠ some frame.sequence ∨
              flow.previousData.length < frame.data.length then frame.data
          else flow.previousData
        (.ok (some (SolFrame.ackOf frame.sequence end' (decide (end' < frame.data.length)))),
          { flow with
            output := flow.output ++ (frame.data.drop before).take accepted
            previousSequence := some frame.sequence
            previousData := remembered
            previousAccepted := end' })

end SolFlow
end IpmiRs.Rmcp
