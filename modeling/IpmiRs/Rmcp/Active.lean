import IpmiRs.IpmiConnection
import IpmiRs.Rmcp.SessionV15
import IpmiRs.Rmcp.SessionV2

/-! `Rmcp` as an `IpmiConnection`, `rmcp/mod.rs` over the active session of
`rmcp/internal.rs`: one transaction is a send and the receive loop after it. -/
namespace IpmiRs.Rmcp
open Connection

inductive Active where
  | v1_5 (state : V1State)
  | v2_0 (state : V2State)

/-- What a transaction meets outside the session. -/
structure Conditions where
  deadline : Instant
  checked : Sending
  sending : Sending
  turns : List Turn

/-- `recv`, of a call that returns: one whose turns run out has met its deadline. -/
def Transport.recvUntil {σ : Type} (t : Transport σ) (s : σ) (turns : List Turn) :
    Except RmcpIpmiReceiveError Response × σ :=
  match (t.ipmb s).pending with
  | none => (.error .noPendingRequest, s)
  | some pending =>
    let r := t.loop pending.deadline turns .start s
    let s := t.commit r.state r.seen
    (r.result.getD (.error .timeout), t.setIpmb s (t.ipmb s).retirePending)

namespace Active
variable (digests : Digests) (provider : CryptoProvider)

def ipmbState : Active → IpmbState
  | .v1_5 s => s.ipmbState
  | .v2_0 s => s.ipmbState

def setIpmb : Active → IpmbState → Active
  | .v1_5 s, ipmbState => .v1_5 { s with ipmbState }
  | .v2_0 s, ipmbState => .v2_0 { s with ipmbState }

@[simp] theorem ipmbState_setIpmb (active : Active) (s : IpmbState) :
    (active.setIpmb s).ipmbState = s := by
  cases active <;> rfl

@[simp] theorem setIpmb_ipmbState (active : Active) : active.setIpmb active.ipmbState = active := by
  cases active <;> rfl

/-- `send_recv`. -/
def sendRecv (request : Request) (met : Conditions) :
    Active → Except RmcpIpmiError Response × Active
  | .v1_5 s =>
    match s.send digests request met.deadline met.checked met.sending with
    | (.error error, s) => (.error error.intoOperationError, .v1_5 s)
    | (.ok _, s) =>
      ((V1State.transport digests).recvUntil s met.turns).map (·.mapError .outcomeUnknown) .v1_5
  | .v2_0 s =>
    match s.send provider request met.deadline met.checked met.sending with
    | (.error error, s) => (.error error, .v2_0 s)
    | (.ok _, s) =>
      ((V2State.transport provider).recvUntil s met.turns).map (·.mapError .outcomeUnknown) .v2_0

end Active

/-- `Rmcp`: the active session, if there is one, and the calls made through it. -/
structure RmcpConnection where
  active : Option Active
  calls : List (Exchange RmcpIpmiError)

/-- `impl IpmiConnection for Rmcp`. What a call meets may depend on the calls
before it. -/
def rmcp (digests : Digests) (provider : CryptoProvider)
    (world : List (Exchange RmcpIpmiError) → Conditions) : IpmiConnection RmcpConnection RmcpIpmiError where
  transact request s :=
    let (result, active) : Except RmcpIpmiError Response × Option Active :=
      match s.active with
      | none => (.error .notActive, none)
      | some active => (active.sendRecv digests provider request (world s.calls)).map id some
    (result, ⟨active, s.calls ++ [⟨request, result⟩]⟩)
  ipmbSequenceBudget s := some (s.active.elim 0 fun active => active.ipmbState.remainingSequences)
  reserveIpmbSequences minimum s :=
    match s.active with
    | none => (false, s)
    | some active =>
      (active.ipmbState.reserveSequences minimum).map id fun ipmbState =>
        { s with active := some (active.setIpmb ipmbState) }
  releaseIpmbSequences s :=
    { s with active := s.active.map fun active =>
        active.setIpmb active.ipmbState.releaseSequences }

end IpmiRs.Rmcp
