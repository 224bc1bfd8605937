import IpmiRs.Library.Runs
import IpmiRs.Rmcp.Ipmb

/-! The IPMB state as a machine driven by its owner and by the peer: every
operation of `IpmbState`, in any order. What each operation can do is said
once here; the claims about runs are derived from it. -/
namespace IpmiRs.Rmcp
open Connection Library.Runs

inductive IpmbOp where
  | begin (request : Request) (deadline : Instant)
  | pollMessage
  | receive (data : List UInt8)
  | retirePending
  | stopPolling
  | reserveSequences (minimum : Nat)
  | releaseSequences
  deriving DecidableEq

inductive IpmbOutcome where
  | began (result : Except RmcpIpmiSendError (List UInt8))
  | polled (result : Except RmcpIpmiSendError (List UInt8))
  | received (result : Except RmcpIpmiReceiveError (Option Response))
  | reserved (granted : Bool)
  | done

abbrev IpmbMove := Move IpmbState IpmbOp IpmbOutcome

namespace IpmbState

/-- One operation on the state. -/
def step (s : IpmbState) : IpmbOp → IpmbOutcome × IpmbState
  | .begin request deadline => ((s.begin request deadline).map .began id)
  | .pollMessage => (s.pollMessage.map .polled id)
  | .receive data => ((s.receive data).map .received id)
  | .retirePending => (.done, s.retirePending)
  | .stopPolling => (.done, s.stopPolling)
  | .reserveSequences minimum => ((s.reserveSequences minimum).map .reserved id)
  | .releaseSequences => (.done, s.releaseSequences)

/-! ### What each operation can do -/

/-- A refused request changes nothing; an accepted one passed every check. -/
theorem begin_cases (s : IpmbState) (request : Request) (deadline : Instant) :
    (∃ error, s.checkBegin request = .error error ∧ s.begin request deadline = (.error error, s)) ∨
    (s.checkBegin request = .ok () ∧
      s.begin request deadline =
        Prod.map .ok id ((s.consumeReserved (s.route request.target).needed).accept request deadline)) := by
  unfold begin
  cases checked : s.checkBegin request with
  | error error => exact .inl ⟨error, rfl, rfl⟩
  | ok => exact .inr ⟨rfl, rfl⟩

/-- What an accepted request was checked for. -/
theorem checkBegin_ok {s : IpmbState} {request : Request} (checked : s.checkBegin request = .ok ()) :
    s.pending = none ∧ request.netfn.requestValue ≤ 0x3e ∧
    s.checkRoute request (s.route request.target) = .ok () ∧
    (∀ minimum, s.reservedSequences = some minimum →
      (s.route request.target).needed ≤ minimum) ∧
    ∀ i < (s.route request.target).needed, s.retiredAhead i = false := by
  unfold checkBegin at checked
  split at checked
  · cases checked
  rename_i idle
  split at checked
  · cases checked
  rename_i netfn
  split at checked
  · cases checked
  rename_i bridge
  split at checked
  · cases checked
  rename_i reserved
  split at checked
  · cases checked
  rename_i unused
  refine ⟨by simpa using idle, UInt8.not_lt.mp netfn, bridge, ?_, by simpa using unused⟩
  intro minimum held
  simpa [held] using reserved

private theorem checkRoute_not_exhausted (s : IpmbState) (request : Request) (route : Route) :
    s.checkRoute request route ≠ .error .ipmbSequenceExhausted := by
  cases route with
  | localUnit lun => simp [checkRoute]
  | bridged target transit =>
    simp only [checkRoute, checkBridge, ne_eq]
    split
    · simp
    · generalize 7 + request.data.length + _ = len
      split <;> simp

/-- A request is refused for want of sequences only when the reservation or
the unused sequences fall short of what it needs. -/
theorem checkBegin_exhausted {s : IpmbState} {request : Request}
    (refused : s.checkBegin request = .error .ipmbSequenceExhausted) :
    (∃ minimum, s.reservedSequences = some minimum ∧
      minimum < (s.route request.target).needed) ∨
    ∃ i < (s.route request.target).needed, s.retiredAhead i = true := by
  unfold checkBegin at refused
  split at refused
  · cases refused
  split at refused
  · cases refused
  split at refused
  · rename_i error bridge
    cases refused
    exact absurd bridge (checkRoute_not_exhausted s request _)
  split at refused
  · rename_i reserved
    exact .inl (by simpa [Option.any_eq_true] using reserved)
  split at refused
  · rename_i used
    exact .inr (by simpa using used)
  · cases refused

/-- Polling takes the one next sequence, marks itself blocked, or changes nothing. -/
theorem pollMessage_cases (s : IpmbState) :
    (∃ error, s.pollMessage = (.error error, s)) ∨
    (∃ p, s.pending = some p ∧ s.needsPoll = true ∧
      (∃ minimum, s.reservedSequences = some minimum ∧ s.remainingSequences ≤ minimum) ∧
      s.pollMessage = (.error .ipmbSequenceReserved,
        { s with pending := some { p with pollBlocked := true } })) ∨
    (∃ p, s.pending = some p ∧ s.needsPoll = true ∧
      (∀ minimum, s.reservedSequences = some minimum → minimum < s.remainingSequences) ∧
      s.retiredSequences[s.ipmbSequence.toNat]?.getD true = false ∧
      let taken := s.nextReply APP_NETFN
        (if s.queueAvailable then GET_MESSAGE else GET_MESSAGE_FLAGS)
        s.responderAddr .zero s.requestorAddr
      s.pollMessage = (.ok (ipmbRequest taken.1 []),
        { taken.2 with pending := some { p with poll := some taken.1 } })) := by
  unfold pollMessage
  cases held : s.pending with
  | none => exact .inl ⟨_, rfl⟩
  | some p =>
    cases polls : s.needsPoll with
    | false => exact .inl ⟨_, rfl⟩
    | true =>
      by_cases reserved : s.reservedSequences.any (s.remainingSequences ≤ ·) = true
      · exact .inr (.inl ⟨p, rfl, rfl, by simpa [Option.any_eq_true] using reserved,
          by simp [reserved]⟩)
      · cases used : s.retiredSequences[s.ipmbSequence.toNat]?.getD true with
        | true => exact .inl ⟨_, by simp [reserved]; rfl⟩
        | false =>
          refine .inr (.inr ⟨p, rfl, rfl, ?_, rfl, by simp [reserved]⟩)
          intro minimum granted
          simpa [granted] using reserved

theorem receive_idle {s : IpmbState} (idle : s.pending = none) (data : List UInt8) :
    s.receive data = (.error .noPendingRequest, s) := by
  unfold receive
  split
  · rfl
  · rename_i held
    simp [idle] at held

/-- A response clears the pending request; anything else, an error included,
keeps what the nested receive made of it. -/
theorem receive_pending {s : IpmbState} {p : PendingRequest} (held : s.pending = some p)
    (data : List UInt8) :
    let r := p.receiveNested 3 data s.getMessageSupported
    s.receive data = (r.result,
      { s with
        pending := match r.result with
          | .ok (some _) => none
          | _ => some r.pending
        getMessageSupported := r.getMessageSupported }) := by
  unfold receive
  split
  · rename_i idle
    simp [idle] at held
  · rename_i q found
    obtain rfl := Option.some.inj (found.symm.trans held)
    simp only
    split <;> simp_all

/-- Receiving touches nothing but the pending request and the belief that Get
Message is supported. -/
theorem receive_frame (s : IpmbState) (data : List UInt8) :
    ∃ pending supported, (s.receive data).2 =
      { s with pending := pending, getMessageSupported := supported } := by
  cases held : s.pending with
  | none => exact ⟨none, s.getMessageSupported, by rw [receive_idle held, ← held]⟩
  | some p => exact ⟨_, _, by rw [receive_pending held]⟩

end IpmbState
end IpmiRs.Rmcp
