import IpmiRs.Rmcp.Ipmb
import IpmiRs.Rmcp.Socket

/-! The receive loop of a session. `State::recv` of `rmcp/v1_5` and of
`rmcp/v2_0` are the same loop around two ways to receive one packet, so it is
written once, over what the two sessions provide for it. -/
namespace IpmiRs.Rmcp
open Connection

/-- How long `recv` waits before it probes the message queue again, in milliseconds. -/
def PROBE_WAIT : Nat := 50

/-- What happens outside a session during one turn of a receive loop: the two
clock readings of a turn that waits for a probe, what a poll meets, what
arrives, and what the acknowledgement of a console frame meets. -/
structure Turn where
  scheduledAt : Instant
  now : Instant
  polling : Sending
  arrivals : Arrivals
  acking : Sending
  deriving DecidableEq

/-- What one reception leads to. `accepted` is the session sequence number of
the packet, if `IpmbState::receive` returned `Ok` for its payload or its SOL
frame was dispatched; the source does not keep it. -/
structure Intake (σ : Type) where
  result : Except RmcpIpmiReceiveError (Option Response)
  unrelated : Nat
  seen : List UInt32
  accepted : Option UInt32
  state : σ

/-- What `recv` needs of a session. -/
structure Transport (σ : Type) where
  ipmb : σ → IpmbState
  setIpmb : σ → IpmbState → σ
  lastInbound : σ → Option UInt32
  setLastInbound : σ → Option UInt32 → σ
  sendPayload : σ → List UInt8 → Instant → Sending → Except RmcpIpmiSendError (List UInt8) × σ
  receiveOne : σ → Instant → Turn → Nat → List UInt32 → Intake σ
  /-- Whether a packet that leads to no response counts as unrelated. -/
  countsIdle : Bool

/-- The local variables of `recv`. -/
structure Progress where
  unrelated : Nat
  firstMismatch : Option RmcpIpmiReceiveError
  polls : Nat
  nextProbe : Option Instant
  seen : List UInt32
  deriving DecidableEq

def Progress.start : Progress where
  unrelated := 0
  firstMismatch := none
  polls := 0
  nextProbe := none
  seen := []

/-- What a turn of the loop leads to: `recv` returns, or goes around again. -/
structure TurnEnd (σ : Type) where
  result : Option (Except RmcpIpmiReceiveError Response)
  progress : Progress
  accepted : Option UInt32
  state : σ

/-- What a call leads to. It has no result if the turns ran out inside it. -/
structure Call (σ ρ : Type) where
  result : Option ρ
  accepted : List UInt32
  state : σ

/-- Whether the error of a packet only counts against the budget. -/
def RmcpIpmiReceiveError.isUnrelated : RmcpIpmiReceiveError → Bool
  | .ipmbResponseMismatch | .sessionIdMismatch | .invalidSessionSequence
  | .unexpectedPayloadType => true
  | _ => false

/-- Whether this turn sends a poll, and when the next probe is due. -/
def Progress.probe (p : Progress) (s : IpmbState) (turn : Turn) : Bool × Option Instant :=
  if s.needsPoll ∧ 0 < p.polls ∧ s.queueAvailable = false then
    let ready := p.nextProbe.getD (turn.scheduledAt + PROBE_WAIT)
    (decide (ready ≤ turn.now), some ready)
  else (s.needsPoll, p.nextProbe)

namespace Transport
variable {σ : Type} (t : Transport σ)

/-- What the polling half of a turn leads to. -/
inductive Polled (σ : Type) where
  | again (progress : Progress) (state : σ)
  | failed (error : RmcpIpmiReceiveError) (state : σ)
  | on (progress : Progress) (state : σ)

/-- The first half of a turn: send a poll if one is due. -/
def poll (deadline : Instant) (turn : Turn) (p : Progress) (s : σ) : Polled σ :=
  let needsPoll := (t.ipmb s).needsPoll
  let (sendPoll, nextProbe) := p.probe (t.ipmb s) turn
  if sendPoll then
    match (t.ipmb s).pollMessage with
    | (.error .ipmbSequenceExhausted, ipmb) =>
      .again { p with nextProbe := none } (t.setIpmb s ipmb.stopPolling)
    | (.error .ipmbSequenceReserved, ipmb) => .again { p with nextProbe := none } (t.setIpmb s ipmb)
    | (.error error, ipmb) => .failed (.bridgePollSend error) (t.setIpmb s ipmb)
    | (.ok payload, ipmb) =>
      match t.sendPayload (t.setIpmb s ipmb) payload deadline turn.polling with
      | (.error error, s) => .failed (.bridgePollSend error) s
      | (.ok _, s) => .on { p with nextProbe := none, polls := p.polls + 1 } s
  else .on { p with nextProbe := if needsPoll then nextProbe else none } s

/-- What `recv` makes of one reception. -/
def judge (deadline receiveDeadline : Instant) (p : Progress) (intake : Intake σ) : TurnEnd σ :=
  let p := { p with unrelated := intake.unrelated, seen := intake.seen }
  let again (p : Progress) : TurnEnd σ := ⟨none, p, intake.accepted, intake.state⟩
  let done (result : Except RmcpIpmiReceiveError Response) : TurnEnd σ :=
    ⟨some result, p, intake.accepted, intake.state⟩
  match intake.result with
  | .ok (some response) => done (.ok response)
  | .ok none =>
    if t.countsIdle = true ∧ (t.ipmb intake.state).needsPoll = false then
      match countUnrelated p.unrelated with
      | .error error => done (.error error)
      | .ok unrelated => again { p with unrelated }
    else again p
  | .error error =>
    if error = .timeout then
      if receiveDeadline < deadline then again p
      else done (.error (p.firstMismatch.getD .timeout))
    else if error.isUnrelated then
      match recordUnrelated error p.firstMismatch p.unrelated with
      | .error error => done (.error error)
      | .ok (firstMismatch, unrelated) => again { p with firstMismatch, unrelated }
    else done (.error error)

/-- One turn of the loop. -/
def turn (deadline : Instant) (turn : Turn) (p : Progress) (s : σ) : TurnEnd σ :=
  match t.poll deadline turn p s with
  | .again p s => ⟨none, p, none, s⟩
  | .failed error s => ⟨some (.error error), p, none, s⟩
  | .on p s =>
    let receiveDeadline := min (p.nextProbe.getD deadline) deadline
    t.judge deadline receiveDeadline p (t.receiveOne s receiveDeadline turn p.unrelated p.seen)

/-- What the loop leads to, with the sequences it has seen. -/
structure LoopEnd (σ : Type) where
  result : Option (Except RmcpIpmiReceiveError Response)
  seen : List UInt32
  accepted : List UInt32
  state : σ

def loop (deadline : Instant) : List Turn → Progress → σ → LoopEnd σ
  | [], p, s => ⟨none, p.seen, [], s⟩
  | now :: turns, p, s =>
    let r := t.turn deadline now p s
    match r.result with
    | some result => ⟨some result, r.progress.seen, r.accepted.toList, r.state⟩
    | none =>
      let rest := loop deadline turns r.progress r.state
      { rest with accepted := r.accepted.toList ++ rest.accepted }

/-- `commit_session_sequences`. -/
def commit (s : σ) (seen : List UInt32) : σ :=
  match seen.max? with
  | some highest => t.setLastInbound s (some highest)
  | none => s

/-- `recv`. However the loop ends, the sequences seen are committed and the
request is retired. -/
def recv (s : σ) (turns : List Turn) : Call σ (Except RmcpIpmiReceiveError Response) :=
  match (t.ipmb s).pending with
  | none => ⟨some (.error .noPendingRequest), [], s⟩
  | some pending =>
    let r := t.loop pending.deadline turns .start s
    match r.result with
    | none => ⟨none, r.accepted, r.state⟩
    | some result =>
      let s := t.commit r.state r.seen
      ⟨some result, r.accepted, t.setIpmb s (t.ipmb s).retirePending⟩

end Transport
end IpmiRs.Rmcp
