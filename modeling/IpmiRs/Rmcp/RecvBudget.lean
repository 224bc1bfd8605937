import IpmiRs.Rmcp.Replay

/-! How many datagrams one receive call can take. A datagram that does not end
the call is counted against the unrelated budget, or uses up a slot the call
does not get back: room of the pending request, or a place among the accepted
sequences. The clock plays no part in it. -/
namespace IpmiRs.Rmcp
open Connection Library.Runs

/-! ### Receiving a packet never waits -/

theorem correlate_error {data : List UInt8} {expected : ExpectedReply}
    {error : RmcpIpmiReceiveError} (failed : correlate data expected = .error error) :
    error ≠ .timeout := by
  unfold correlate at failed
  repeat' split at failed
  all_goals cases failed
  all_goals simp

namespace PendingRequest
variable (p : PendingRequest)

/-- A layer that ends the reception did not time out. -/
def Layer.Untimed : Layer → Prop
  | .done result => result ≠ .error .timeout
  | .nested _ => True

theorem receiveLayer_untimed (data : List UInt8) (supported : Bool) :
    Layer.Untimed (p.receiveLayer data supported).result := by
  have shape := p.receiveLayer_cases data supported
  generalize p.receiveLayer data supported = layered at shape ⊢
  cases shape with
  | poll reply response asked answers =>
    unfold receivePoll
    simp only
    repeat' split
    all_goals simp [Layer.Untimed]
  | ack hop reply response unpolled expected answers first =>
    unfold receiveAck
    simp only
    repeat' split
    all_goals simp [Layer.Untimed]
  | final unpolled unacked =>
    unfold receiveFinal
    split
    · rename_i error failed
      intro timeout
      exact correlate_error failed (Except.error.inj timeout)
    · repeat' split
      all_goals simp [Layer.Untimed]

theorem receiveNested_untimed (left : Nat) (data : List UInt8) (supported : Bool) :
    (p.receiveNested left data supported).result ≠ .error .timeout := by
  induction left generalizing p data supported with
  | zero => simp [receiveNested]
  | succ left ih =>
    have layer := p.receiveLayer_untimed data supported
    unfold receiveNested
    split
    · rename_i result after believed shape
      rwa [shape] at layer
    · rename_i packet after believed shape
      exact ih after packet believed

end PendingRequest

theorem IpmbState.receive_untimed (s : IpmbState) (data : List UInt8) :
    (s.receive data).1 ≠ .error .timeout := by
  cases held : s.pending with
  | none => simp [receive_idle held]
  | some p =>
    rw [receive_pending held]
    exact p.receiveNested_untimed 3 data s.getMessageSupported

/-! ### Requests without a bridge -/

/-- Receiving does not change which acknowledgements a request waits for. -/
theorem PendingRequest.receiveLayer_sendAcks (p : PendingRequest) (data : List UInt8)
    (supported : Bool) : (p.receiveLayer data supported).pending.sendAcks = p.sendAcks := by
  have shape := p.receiveLayer_cases data supported
  generalize p.receiveLayer data supported = layered at shape ⊢
  cases shape with
  | poll reply response asked answers =>
    obtain ⟨available, believed, layer, shape, -⟩ := p.receivePoll_cases reply response supported
    rw [shape]
  | ack hop reply response unpolled expected answers first =>
    have shape := p.receiveAck_cases hop response supported
    generalize p.receiveAck hop response supported = layered at shape ⊢
    cases shape <;> rfl
  | final unpolled unacked =>
    have shape := p.receiveFinal_cases data supported
    generalize p.receiveFinal data supported = layered at shape ⊢
    cases shape <;> rfl

theorem PendingRequest.receiveNested_sendAcks (left : Nat) (p : PendingRequest)
    (data : List UInt8) (supported : Bool) :
    (p.receiveNested left data supported).pending.sendAcks = p.sendAcks := by
  induction left generalizing p data supported with
  | zero => rfl
  | succ left ih =>
    have layer := p.receiveLayer_sendAcks data supported
    unfold receiveNested
    split
    · rename_i result after believed shape
      rwa [shape] at layer
    · rename_i packet after believed shape
      rw [shape] at layer
      exact (ih after packet believed).trans layer

namespace IpmbState

/-- The pending request, if there is one, goes to the BMC itself. -/
def Direct (s : IpmbState) : Prop := ∀ p, s.pending = some p → getElem p.sendAcks 0 Nat.two_pos = none

theorem Direct.unpolled {s : IpmbState} (direct : s.Direct) : s.needsPoll = false := by
  unfold needsPoll
  cases held : s.pending with
  | none => rfl
  | some p => simp [direct p held]

theorem Direct.of_idle {s : IpmbState} (idle : s.pending = none) : s.Direct := by
  intro p held
  rw [idle] at held
  cases held

theorem Direct.receive {s : IpmbState} (direct : s.Direct) (data : List UInt8) :
    (s.receive data).2.Direct := by
  cases held : s.pending with
  | none =>
    rw [receive_idle held]
    exact direct
  | some p =>
    have same := p.receiveNested_sendAcks 3 data s.getMessageSupported
    rw [receive_pending held]
    intro q after
    dsimp only at after
    split at after
    · cases after
    · obtain rfl := Option.some.inj after
      rw [same]
      exact direct p held

theorem Direct.begin {s : IpmbState} (direct : s.Direct) (request : Request) (deadline : Instant)
    {lun : LogicalUnit} (target : request.target = .bmc lun) :
    (s.begin request deadline).2.Direct := by
  obtain ⟨error, -, refused⟩ | ⟨-, accepted⟩ := s.begin_cases request deadline
  · rw [refused]
    exact direct
  · rw [accepted]
    intro p held
    simp only [Prod.map, id_eq, accept, target, route] at held
    obtain rfl := Option.some.inj held
    rfl

/-- What a turn makes of the state outside a reception: it gains no room, and
no request through a bridge. -/
structure Onward (before after : IpmbState) : Prop where
  room : after.room ≤ before.room
  direct : before.Direct → after.Direct

theorem reserveSequences_onward (s : IpmbState) (minimum : Nat) :
    s.Onward (s.reserveSequences minimum).2 := by
  unfold reserveSequences
  split
  · exact ⟨Nat.le_refl _, id⟩
  · exact ⟨Nat.le_refl _, id⟩

theorem pollMessage_onward (s : IpmbState) : s.Onward s.pollMessage.2 := by
  refine ⟨s.pollMessage_room, fun direct => ?_⟩
  obtain ⟨error, polled⟩ | ⟨p, held, -, -, polled⟩ | ⟨p, held, -, -, -, polled⟩ :=
    s.pollMessage_cases
  · rw [polled]
    exact direct
  · rw [polled]
    intro q after
    obtain rfl := Option.some.inj after
    exact direct p held
  · rw [polled]
    intro q after
    obtain rfl := Option.some.inj after
    exact direct p held

end IpmbState

/-! ### What one reception takes -/

/-- How many of the datagrams that arrive `recv_until_with_budget` takes off the
socket. -/
def recvTaken : List (List UInt8) → Nat → Nat
  | [], _ => 0
  | datagram :: datagrams, unrelated =>
    if MAX_DATAGRAM < datagram.length then 1
    else
      match RmcpHeader.fromBytes datagram with
      | .error _ => 1
      | .ok (header, _) =>
        if header.cls.ty = .ipmi ∧ header.cls.isAck = false then 1
        else
          match countUnrelated unrelated with
          | .error _ => 1
          | .ok unrelated => 1 + recvTaken datagrams unrelated

theorem countUnrelated_cases (unrelated : Nat) :
    countUnrelated unrelated = .error .tooManyUnrelatedPackets ∨
    countUnrelated unrelated = .ok (unrelated + 1) ∧ unrelated + 1 < MAX_UNRELATED := by
  unfold countUnrelated
  split
  · exact .inl rfl
  · exact .inr ⟨rfl, by omega⟩

/-- The first datagram ends the reception, or is counted and passed over. -/
theorem recv_first (waiting : WaitEnd) (datagram : List UInt8) (unrelated : Nat) :
    (∃ result, result ≠ .error .timeout ∧ ∀ rest,
      recvUntilWithBudget waiting (datagram :: rest) unrelated = (result, unrelated) ∧
      recvTaken (datagram :: rest) unrelated = 1) ∨
    (unrelated + 1 < MAX_UNRELATED ∧ ∀ rest,
      recvUntilWithBudget waiting (datagram :: rest) unrelated =
        recvUntilWithBudget waiting rest (unrelated + 1) ∧
      recvTaken (datagram :: rest) unrelated = 1 + recvTaken rest (unrelated + 1)) := by
  by_cases large : MAX_DATAGRAM < datagram.length
  · exact .inl ⟨.error .datagramTooLarge, by simp,
      fun rest => by simp [recvUntilWithBudget, recvTaken, large]⟩
  cases parsed : RmcpHeader.fromBytes datagram with
  | error error =>
    exact .inl ⟨.error (.rmcpHeader error), by simp,
      fun rest => by simp [recvUntilWithBudget, recvTaken, large, parsed]⟩
  | ok found =>
    obtain ⟨header, data⟩ := found
    by_cases ours : header.cls.ty = .ipmi ∧ header.cls.isAck = false
    · exact .inl ⟨.ok data, by simp,
        fun rest => by simp [recvUntilWithBudget, recvTaken, large, parsed, ours]⟩
    rcases countUnrelated_cases unrelated with full | ⟨counted, within⟩
    · exact .inl ⟨.error .tooManyUnrelatedPackets, by simp,
        fun rest => by simp [recvUntilWithBudget, recvTaken, large, parsed, ours, full]⟩
    · exact .inr ⟨within,
        fun rest => by simp [recvUntilWithBudget, recvTaken, large, parsed, ours, counted]⟩

theorem recvTaken_pos {datagrams : List (List UInt8)} (present : datagrams ≠ [])
    (unrelated : Nat) : 0 < recvTaken datagrams unrelated := by
  cases datagrams with
  | nil => exact absurd rfl present
  | cons datagram datagrams =>
    rcases recv_first .io datagram unrelated with ⟨result, -, ends⟩ | ⟨-, passes⟩
    · rw [(ends datagrams).2]
      exact Nat.one_pos
    · rw [(passes datagrams).2]
      omega

/-- What a reception takes is counted, except the datagram it ends with. -/
structure Counted (took unrelated : Nat) (result : Except RmcpIpmiReceiveError (List UInt8))
    (after : Nat) : Prop where
  grows : unrelated ≤ after
  within : after < MAX_UNRELATED
  taken : took + unrelated ≤ after + 1
  waited : result = .error .timeout → took + unrelated ≤ after

theorem recv_counted (waiting : WaitEnd) (datagrams : List (List UInt8)) {unrelated : Nat}
    (within : unrelated < MAX_UNRELATED) :
    Counted (recvTaken datagrams unrelated) unrelated
      (recvUntilWithBudget waiting datagrams unrelated).1
      (recvUntilWithBudget waiting datagrams unrelated).2 := by
  induction datagrams generalizing unrelated with
  | nil => exact ⟨Nat.le_refl _, within, by simp [recvTaken, recvUntilWithBudget],
      fun _ => by simp [recvTaken, recvUntilWithBudget]⟩
  | cons datagram datagrams ih =>
    rcases recv_first waiting datagram unrelated with ⟨result, untimed, ends⟩ | ⟨small, passes⟩
    · rw [(ends datagrams).1, (ends datagrams).2]
      exact ⟨Nat.le_refl _, within, by omega, fun timeout => absurd timeout untimed⟩
    · rw [(passes datagrams).1, (passes datagrams).2]
      obtain ⟨grows, within, taken, waited⟩ := ih small
      refine ⟨by omega, within, by omega, fun timeout => ?_⟩
      have := waited timeout
      omega

/-! ### What a call takes -/

namespace Transport
variable {σ : Type} (t : Transport σ)

/-- How many datagrams one turn of the loop takes. -/
def turnTaken (deadline : Instant) (turn : Turn) (p : Progress) (s : σ) : Nat :=
  match t.poll deadline turn p s with
  | .on p _ => recvTaken turn.arrivals.datagrams p.unrelated
  | _ => 0

def loopTaken (deadline : Instant) : List Turn → Progress → σ → Nat
  | [], _, _ => 0
  | turn :: turns, p, s =>
    let r := t.turn deadline turn p s
    t.turnTaken deadline turn p s +
      match r.result with
      | some _ => 0
      | none => loopTaken deadline turns r.progress r.state

/-- How many datagrams a call of `recv` takes. -/
def datagrams (s : σ) (turns : List Turn) : Nat :=
  match (t.ipmb s).pending with
  | none => 0
  | some pending => t.loopTaken pending.deadline turns .start s

/-- What one reception uses up. `weight` is what is left of the slots a call
does not get back. -/
structure Spent (took unrelated weight : Nat) (intake : Intake σ) (left : Nat) : Prop where
  grows : unrelated ≤ intake.unrelated
  within : intake.unrelated < MAX_UNRELATED
  taken : took + unrelated ≤ intake.unrelated + 1
  waited : intake.result = .error .timeout → took + unrelated ≤ intake.unrelated
  kept : left ≤ weight
  accepted : intake.result = .ok none → left < weight

/-- What bounds the loop: a session in which a packet that leads to no response
uses up some of a weight. -/
structure Metered (Inv : σ → Prop) (weight : σ → List UInt32 → Nat) : Prop where
  ipmb : ∀ s ipmb, t.ipmb (t.setIpmb s ipmb) = ipmb
  setIpmb : ∀ s ipmb seen, Inv s → (t.ipmb s).Onward ipmb →
    Inv (t.setIpmb s ipmb) ∧ weight (t.setIpmb s ipmb) seen ≤ weight s seen
  send : ∀ s payload deadline sending seen, Inv s →
    Inv (t.sendPayload s payload deadline sending).2 ∧
      weight (t.sendPayload s payload deadline sending).2 seen ≤ weight s seen
  receive : ∀ s deadline turn unrelated seen, Inv s → unrelated < MAX_UNRELATED →
    let intake := t.receiveOne s deadline turn unrelated seen
    Inv intake.state ∧ Spent (recvTaken turn.arrivals.datagrams unrelated) unrelated
      (weight s seen) intake (weight intake.state intake.seen)

variable {t} {Inv : σ → Prop} {weight : σ → List UInt32 → Nat}

/-- What is left for a call to take. -/
def potential (weight : σ → List UInt32 → Nat) (p : Progress) (s : σ) : Nat :=
  (MAX_UNRELATED - p.unrelated) + weight s p.seen

/-- Polling takes nothing, and one that is refused is not asked for again. -/
def Polled.Holds (needed : Bool) (p : Progress) (idle kept : σ → Prop) : Polled σ → Prop
  | .again q after =>
    needed = true ∧ q.unrelated = p.unrelated ∧ q.seen = p.seen ∧ idle after ∧ kept after
  | .on q after => q.unrelated = p.unrelated ∧ q.seen = p.seen ∧ kept after
  | .failed _ after => kept after

theorem refused_poll_idle (s : IpmbState) :
    (∀ ipmb, s.pollMessage = (.error .ipmbSequenceExhausted, ipmb) →
      ipmb.stopPolling.needsPoll = false) ∧
    ∀ ipmb, s.pollMessage = (.error .ipmbSequenceReserved, ipmb) → ipmb.needsPoll = false := by
  constructor
  · intro ipmb _
    unfold IpmbState.needsPoll IpmbState.stopPolling
    cases ipmb.pending <;> simp
  · intro ipmb refused
    unfold IpmbState.pollMessage at refused
    repeat' split at refused
    all_goals cases refused
    simp [IpmbState.needsPoll]

theorem Metered.poll (metered : t.Metered Inv weight) (deadline : Instant) (turn : Turn)
    (p : Progress) {s : σ} (held : Inv s) :
    (t.poll deadline turn p s).Holds (t.ipmb s).needsPoll p
      (fun after => (t.ipmb after).needsPoll = false)
      (fun after => Inv after ∧ weight after p.seen ≤ weight s p.seen) := by
  have onward := (t.ipmb s).pollMessage_onward
  obtain ⟨exhausted, reserved⟩ := refused_poll_idle (t.ipmb s)
  unfold Transport.poll
  simp only
  split
  · rename_i due
    have needed : (t.ipmb s).needsPoll = true := by
      unfold Progress.probe at due
      split at due
      · rename_i polls
        exact polls.1
      · exact due
    split
    · rename_i ipmb shape
      rw [shape] at onward
      refine ⟨needed, rfl, rfl, ?_, metered.setIpmb s ipmb.stopPolling p.seen held
        ⟨onward.room, onward.direct⟩⟩
      simpa only [metered.ipmb] using exhausted ipmb shape
    · rename_i ipmb shape
      rw [shape] at onward
      refine ⟨needed, rfl, rfl, ?_, metered.setIpmb s ipmb p.seen held onward⟩
      simpa only [metered.ipmb] using reserved ipmb shape
    · rename_i error ipmb _ _ shape
      rw [shape] at onward
      exact metered.setIpmb s ipmb p.seen held onward
    · rename_i payload ipmb shape
      rw [shape] at onward
      obtain ⟨set, less⟩ := metered.setIpmb s ipmb p.seen held onward
      have sent := metered.send _ payload deadline turn.polling p.seen set
      split
      · rename_i error after failed
        rw [failed] at sent
        exact ⟨sent.1, Nat.le_trans sent.2 less⟩
      · rename_i datagram after delivered
        rw [delivered] at sent
        exact ⟨rfl, rfl, sent.1, Nat.le_trans sent.2 less⟩
  · exact ⟨rfl, rfl, held, Nat.le_refl _⟩

/-- Judging a reception charges the datagram, unless it was accepted, or the
call ends. -/
theorem Spent.judge {took : Nat} {p : Progress} {weight : Nat} {intake : Intake σ} {left : Nat}
    (spent : Spent took p.unrelated weight intake left) (deadline receiveDeadline : Instant) :
    let r := t.judge deadline receiveDeadline p intake
    p.unrelated ≤ r.progress.unrelated ∧
    (r.result = none → r.progress.unrelated < MAX_UNRELATED ∧
      (took + p.unrelated ≤ r.progress.unrelated ∨
        intake.result = .ok none ∧ took + p.unrelated ≤ r.progress.unrelated + 1)) := by
  obtain ⟨grows, within, taken, waited, -, -⟩ := spent
  unfold Transport.judge
  simp only
  split
  · exact ⟨grows, by simp⟩
  · rename_i nothing
    split
    · rcases countUnrelated_cases intake.unrelated with full | ⟨counted, small⟩
      · rw [full]
        exact ⟨grows, by simp⟩
      · rw [counted]
        exact ⟨by simp only; omega, fun _ => ⟨small, .inl (by simp only; omega)⟩⟩
    · exact ⟨grows, fun _ => ⟨within, .inr ⟨nothing, taken⟩⟩⟩
  · rename_i error failed
    split
    · rename_i timeout
      subst timeout
      split
      · exact ⟨grows, fun _ => ⟨within, .inl (waited failed)⟩⟩
      · exact ⟨grows, by simp⟩
    split
    · unfold recordUnrelated
      rcases countUnrelated_cases intake.unrelated with full | ⟨counted, small⟩
      · rw [full]
        exact ⟨grows, by simp [Except.map]⟩
      · rw [counted]
        exact ⟨by simp only [Except.map]; omega,
          fun _ => ⟨small, .inl (by simp only [Except.map]; omega)⟩⟩
    · exact ⟨grows, by simp⟩

/-- One turn: what it takes, it takes from what was left. A turn that goes on
has taken a datagram, or was refused a poll that it will not ask for again. -/
theorem Metered.turn (metered : t.Metered Inv weight) (deadline : Instant) (turn : Turn)
    {p : Progress} {s : σ} (held : Inv s) (within : p.unrelated < MAX_UNRELATED) :
    let r := t.turn deadline turn p s
    t.turnTaken deadline turn p s ≤ potential weight p s ∧
    (r.result = none → Inv r.state ∧ r.progress.unrelated < MAX_UNRELATED ∧
      t.turnTaken deadline turn p s + potential weight r.progress r.state ≤ potential weight p s ∧
      (recvTaken turn.arrivals.datagrams p.unrelated ≤ t.turnTaken deadline turn p s ∨
        (t.ipmb s).needsPoll = true ∧ (t.ipmb r.state).needsPoll = false)) := by
  have polled := metered.poll deadline turn p held
  unfold Transport.turn turnTaken potential
  generalize t.poll deadline turn p s = poll at polled
  cases poll with
  | again q after =>
    obtain ⟨needed, unrelated, seen, idle, kept, less⟩ := polled
    simp only [unrelated, seen]
    exact ⟨by omega, fun _ => ⟨kept, within, by omega, .inr ⟨needed, idle⟩⟩⟩
  | failed error after => exact ⟨by simp, by simp⟩
  | on q after =>
    obtain ⟨unrelated, seen, kept, less⟩ := polled
    simp only
    generalize min (q.nextProbe.getD deadline) deadline = receiveDeadline
    rw [← unrelated] at within ⊢
    rw [← seen] at less ⊢
    obtain ⟨received, spent⟩ :=
      metered.receive after receiveDeadline turn q.unrelated q.seen kept within
    obtain ⟨state, -, noted⟩ := t.judge_keeps deadline receiveDeadline q
      (t.receiveOne after receiveDeadline turn q.unrelated q.seen)
    have taken := spent.taken
    have small := spent.within
    refine ⟨by omega, fun goes => ?_⟩
    obtain ⟨grows, charged⟩ := spent.judge (t := t) deadline receiveDeadline
    obtain ⟨bounded, paid⟩ := charged goes
    rw [state, noted]
    refine ⟨received, bounded, ?_, .inl (Nat.le_refl _)⟩
    have kept := spent.kept
    rcases paid with paid | ⟨accepted, paid⟩
    · omega
    · have used := spent.accepted accepted
      omega

/-- The whole loop takes no more than was left at its start. -/
theorem Metered.loop (metered : t.Metered Inv weight) (deadline : Instant) (turns : List Turn)
    {p : Progress} {s : σ} (held : Inv s) (within : p.unrelated < MAX_UNRELATED) :
    t.loopTaken deadline turns p s ≤ potential weight p s := by
  induction turns generalizing p s with
  | nil => exact Nat.zero_le _
  | cons turn turns ih =>
    obtain ⟨taken, onward⟩ := metered.turn deadline turn held within
    unfold loopTaken
    simp only
    split
    · exact taken
    · rename_i goes
      obtain ⟨kept, bounded, paid, -⟩ := onward goes
      exact Nat.le_trans (Nat.add_le_add_left (ih kept bounded) _) paid

/-- Where a datagram is at hand for every reception, the loop returns. -/
theorem Metered.loop_returns (metered : t.Metered Inv weight) (deadline : Instant)
    (turns : List Turn) {p : Progress} {s : σ} (held : Inv s)
    (within : p.unrelated < MAX_UNRELATED)
    (flowing : ∀ turn ∈ turns, turn.arrivals.datagrams ≠ [])
    (long : 2 * potential weight p s + (if (t.ipmb s).needsPoll then 1 else 0) < turns.length) :
    (t.loop deadline turns p s).result.isSome = true := by
  induction turns generalizing p s with
  | nil => exact absurd long (Nat.not_lt_zero _)
  | cons turn turns ih =>
    obtain ⟨taken, onward⟩ := metered.turn deadline turn held within
    unfold Transport.loop
    simp only
    split
    · rfl
    · rename_i goes
      obtain ⟨kept, bounded, paid, progress⟩ := onward goes
      apply ih kept bounded (fun turn member => flowing turn (List.mem_cons_of_mem _ member))
      have present := recvTaken_pos (flowing turn List.mem_cons_self) p.unrelated
      rw [List.length_cons] at long
      rcases progress with took | ⟨needed, idle⟩
      · split <;> omega
      · rw [if_pos needed] at long
        rw [if_neg (by simp [idle])]
        omega

/-- A call of `recv` takes a bounded number of datagrams, and returns if they
keep coming. -/
theorem Metered.recv (metered : t.Metered Inv weight) {s : σ} (held : Inv s) {most : Nat}
    (bound : weight s [] ≤ most) :
    (∀ turns, t.datagrams s turns ≤ MAX_UNRELATED + most) ∧
    ∀ turns, (∀ turn ∈ turns, turn.arrivals.datagrams ≠ []) →
      2 * (MAX_UNRELATED + most) + 1 < turns.length → (t.recv s turns).result.isSome = true := by
  have start : (Progress.start).unrelated < MAX_UNRELATED := by decide
  have left : potential weight .start s ≤ MAX_UNRELATED + most := by
    unfold potential Progress.start
    simpa using bound
  constructor
  · intro turns
    unfold datagrams
    split
    · exact Nat.zero_le _
    · exact Nat.le_trans (metered.loop _ turns held start) left
  · intro turns flowing long
    unfold Transport.recv
    split
    · rfl
    · rename_i pending _
      have returns := metered.loop_returns pending.deadline turns held start flowing
        (by split <;> omega)
      simp only
      split
      · rename_i running
        rw [running] at returns
        cases returns
      · rfl

/-! #### What is charged -/

variable (t) in
/-- Every turn after which the loop goes on charged its datagrams to the budget,
or all but one, and that one `IpmbState::receive` took for the pending request. -/
def Accounted (deadline : Instant) : List Turn → Progress → σ → Prop
  | [], _, _ => True
  | turn :: turns, p, s =>
    let r := t.turn deadline turn p s
    let took := t.turnTaken deadline turn p s
    r.result = none →
      (took + p.unrelated ≤ r.progress.unrelated ∨
        took + p.unrelated ≤ r.progress.unrelated + 1 ∧
          ∃ q after payload, t.poll deadline turn p s = .on q after ∧
            (t.ipmb after).receive payload = (.ok none, t.ipmb r.state)) ∧
      Accounted deadline turns r.progress r.state

variable (t) in
/-- A reception that leads to no response was one of `IpmbState::receive`, or
the loop charges it. -/
def Attributed (Inv : σ → Prop) : Prop :=
  ∀ s deadline turn unrelated seen, Inv s →
    let intake := t.receiveOne s deadline turn unrelated seen
    intake.result = .ok none →
      (∃ payload, (t.ipmb s).receive payload = (.ok none, t.ipmb intake.state)) ∨
      (t.countsIdle = true ∧ (t.ipmb intake.state).needsPoll = false)

/-- A packet that leads to no response is charged once no poll is due. -/
theorem judge_idle (deadline receiveDeadline : Instant) (p : Progress) {intake : Intake σ}
    (nothing : intake.result = .ok none) (counts : t.countsIdle = true)
    (idle : (t.ipmb intake.state).needsPoll = false)
    (goes : (t.judge deadline receiveDeadline p intake).result = none) :
    (t.judge deadline receiveDeadline p intake).progress.unrelated = intake.unrelated + 1 := by
  revert goes
  unfold Transport.judge
  simp only [nothing, counts, idle, and_self, if_true]
  rcases countUnrelated_cases intake.unrelated with full | ⟨counted, -⟩
  · simp [full]
  · simp [counted]

theorem Metered.accounted (metered : t.Metered Inv weight) (attributed : t.Attributed Inv)
    (deadline : Instant) (turns : List Turn) {p : Progress} {s : σ} (held : Inv s)
    (within : p.unrelated < MAX_UNRELATED) : t.Accounted deadline turns p s := by
  induction turns generalizing p s with
  | nil => trivial
  | cons turn turns ih =>
    intro goes
    obtain ⟨-, onward⟩ := metered.turn deadline turn held within
    obtain ⟨kept, bounded, -⟩ := onward goes
    refine ⟨?_, ih kept bounded⟩
    have polled := metered.poll deadline turn p held
    revert goes
    unfold Transport.turn turnTaken
    generalize t.poll deadline turn p s = poll at polled ⊢
    cases poll with
    | again q after =>
      obtain ⟨-, unrelated, -⟩ := polled
      exact fun _ => .inl (by simp [unrelated])
    | failed error after =>
      intro goes
      cases goes
    | on q after =>
      obtain ⟨unrelated, seen, ready, -⟩ := polled
      rw [← unrelated] at within ⊢
      intro goes
      simp only at goes ⊢
      generalize min (q.nextProbe.getD deadline) deadline = receiveDeadline at goes ⊢
      obtain ⟨-, spent⟩ :=
        metered.receive after receiveDeadline turn q.unrelated q.seen ready within
      obtain ⟨state, -, -⟩ := t.judge_keeps deadline receiveDeadline q
        (t.receiveOne after receiveDeadline turn q.unrelated q.seen)
      obtain ⟨-, charged⟩ := spent.judge (t := t) deadline receiveDeadline
      obtain ⟨-, charged | ⟨nothing, paid⟩⟩ := charged goes
      · exact .inl charged
      rcases attributed after receiveDeadline turn q.unrelated q.seen ready nothing with
        ⟨payload, taken⟩ | ⟨counts, idle⟩
      · exact .inr ⟨paid, q, after, payload, rfl, state ▸ taken⟩
      · have counted := judge_idle deadline receiveDeadline q nothing counts idle goes
        have taken := spent.taken
        exact .inl (by omega)

end Transport

/-! ### RMCP+ -/

namespace V2State
variable (provider : CryptoProvider)

/-- What a call has left in an RMCP+ session: room of the pending request, and
places among the accepted sequences. -/
def slots (s : V2State) (seen : List UInt32) : Nat :=
  s.ipmbState.room + (64 + MAX_UNRELATED - seen.length)

/-- One reception takes what it counts, and uses a slot for what it accepts. -/
theorem receiveOne_spent (s : V2State) (deadline : Instant) (turn : Turn) {unrelated : Nat}
    (seen : List UInt32) (within : unrelated < MAX_UNRELATED) :
    let intake := s.receiveOne provider deadline turn unrelated seen
    Transport.Spent (recvTaken turn.arrivals.datagrams unrelated) unrelated (s.slots seen) intake
      (intake.state.slots intake.seen) := by
  obtain ⟨grows, small, taken, waited⟩ :=
    recv_counted turn.arrivals.waiting turn.arrivals.datagrams within
  have shape := receiveOne_cases provider s deadline turn unrelated seen
  unfold Arrivals.recv at shape
  intro intake
  change Reception provider s deadline turn.acking seen _ intake at shape
  generalize recvUntilWithBudget _ _ _ = arrived at *
  generalize intake = intake at shape ⊢
  have fewer (after : V2State) (room : after.ipmbState.room ≤ s.ipmbState.room)
      (sequence : UInt32) (unfilled : ¬ 64 + MAX_UNRELATED ≤ seen.length) :
      after.slots (seen ++ [sequence]) < s.slots seen := by
    unfold slots
    rw [List.length_append, List.length_singleton]
    omega
  cases shape with
  | unread error count =>
    exact ⟨grows, small, taken,
      fun timeout => waited (congrArg Except.error (Except.error.inj timeout)), Nat.le_refl _, by simp⟩
  | refused data count error untimed =>
    exact ⟨grows, small, taken, fun timeout => absurd (Except.error.inj timeout) untimed,
      Nat.le_refl _, by simp⟩
  | unanswered data count payload error ipmbState received =>
    obtain ⟨less, -⟩ := s.ipmbState.receive_room payload
    have untimed := s.ipmbState.receive_untimed payload
    rw [received] at less untimed
    exact ⟨grows, small, taken, fun timeout => absurd (by rw [Except.error.inj timeout]) untimed,
      Nat.add_le_add_right less _, by simp⟩
  | accepted data count sequence payload response ipmbState current room received =>
    obtain ⟨less, -⟩ := s.ipmbState.receive_room payload
    rw [received] at less
    have used := fewer { s with ipmbState } less sequence room
    exact ⟨grows, small, taken, by simp, Nat.le_of_lt used, fun _ => used⟩
  | console data count sequence payload flow current room opened =>
    have result := receiveSol_result provider s flow payload deadline turn.acking
    have same := receiveSol_ipmbState provider s flow payload deadline turn.acking
    have used := fewer _ (Nat.le_of_eq (congrArg IpmbState.room same)) sequence room
    refine ⟨grows, small, taken, fun timeout => ?_, Nat.le_of_lt used, fun _ => used⟩
    simp only at timeout
    rw [timeout] at result
    cases result

theorem metered : (transport provider).Metered (fun _ => True) slots where
  ipmb _ _ := rfl
  setIpmb _ _ _ _ onward := ⟨trivial, Nat.add_le_add_right onward.room _⟩
  send s payload deadline sending seen _ := by
    obtain ⟨sequence, same⟩ := sendPayload_frame provider s payload deadline sending
    refine ⟨trivial, Nat.le_of_eq ?_⟩
    change slots (s.sendPayload provider payload deadline sending).2 seen = s.slots seen
    rw [same]
    rfl
  receive s deadline turn unrelated seen _ within :=
    ⟨trivial, receiveOne_spent provider s deadline turn seen within⟩

theorem slots_le (s : V2State) : s.slots [] ≤ 69 + (64 + MAX_UNRELATED) :=
  Nat.add_le_add_right s.ipmbState.room_le _

/-- How many datagrams a call of `poll_sol` takes. -/
def pollSolTaken (deadline : Instant) (waitAck : Bool) : List Turn → Nat → V2State → Nat
  | [], _, _ => 0
  | turn :: turns, unrelated, s =>
    let intake := s.receiveOne provider deadline turn unrelated []
    let s := (transport provider).commit intake.state intake.seen
    recvTaken turn.arrivals.datagrams unrelated +
      match intake.result, s.sol with
      | .ok none, some flow =>
        if waitAck && flow.inputAck.isSome || !waitAck && flow.hasOutput then 0
        else
          match countUnrelated intake.unrelated with
          | .error _ => 0
          | .ok unrelated => pollSolTaken deadline waitAck turns unrelated s
      | _, _ => 0

theorem pollSolTaken_le (deadline : Instant) (waitAck : Bool) (turns : List Turn) {unrelated : Nat}
    (s : V2State) (within : unrelated < MAX_UNRELATED) :
    pollSolTaken provider deadline waitAck turns unrelated s + unrelated ≤ MAX_UNRELATED := by
  induction turns generalizing unrelated s with
  | nil =>
    unfold pollSolTaken
    omega
  | cons turn turns ih =>
    have spent := receiveOne_spent provider s deadline turn [] within
    have taken := spent.taken
    have small := spent.within
    unfold pollSolTaken
    simp only at taken small ⊢
    split
    · split
      · omega
      · rcases countUnrelated_cases (s.receiveOne provider deadline turn unrelated []).unrelated
          with full | ⟨counted, bounded⟩
        · rw [full]
          simp only
          omega
        · rw [counted]
          have rest := ih ((transport provider).commit
            (s.receiveOne provider deadline turn unrelated []).state
            (s.receiveOne provider deadline turn unrelated []).seen) bounded
          simp only
          omega
    · omega

/-- A reception neither opens a console session nor closes one. -/
theorem receiveOne_sol (s : V2State) (deadline : Instant) (turn : Turn) (unrelated : Nat)
    (seen : List UInt32) :
    (s.receiveOne provider deadline turn unrelated seen).state.sol.isSome = s.sol.isSome := by
  have shape := receiveOne_cases provider s deadline turn unrelated seen
  generalize s.receiveOne provider deadline turn unrelated seen = intake at shape ⊢
  generalize turn.arrivals.recv unrelated = arrived at shape
  cases shape with
  | console data count sequence payload flow current room opened =>
    exact receiveSol_isSome provider opened payload deadline turn.acking
  | unread | refused | unanswered | accepted => rfl

@[simp] theorem commit_sol (s : V2State) (seen : List UInt32) :
    ((transport provider).commit s seen).sol = s.sol := by
  unfold Transport.commit
  split <;> rfl

/-- A call of `poll_sol` counts every datagram it goes on after, so it returns. -/
theorem pollSol_returns (deadline : Instant) (waitAck : Bool) (turns : List Turn) {unrelated : Nat}
    {s : V2State} (opened : s.sol.isSome = true) (within : unrelated < MAX_UNRELATED)
    (long : MAX_UNRELATED ≤ turns.length + unrelated) :
    ∃ result, (pollSol provider deadline waitAck turns unrelated s).result = some (.returned result) := by
  induction turns generalizing unrelated s with
  | nil =>
    rw [List.length_nil] at long
    omega
  | cons turn turns ih =>
    have grows := (receiveOne_spent provider s deadline turn [] within).grows
    have kept := receiveOne_sol provider s deadline turn unrelated []
    rw [opened] at kept
    rw [List.length_cons] at long
    unfold pollSol
    simp only [commit_sol]
    split
    · exact ⟨_, rfl⟩
    · exact ⟨_, rfl⟩
    split
    · rename_i closed
      rw [closed] at kept
      cases kept
    split
    · exact ⟨_, rfl⟩
    · rcases countUnrelated_cases (s.receiveOne provider deadline turn unrelated []).unrelated
        with full | ⟨counted, bounded⟩
      · rw [full]
        exact ⟨_, rfl⟩
      · rw [counted]
        exact ih (by rw [commit_sol, kept]) bounded (by omega)

/-- With a console open, only requests to the BMC itself are pending: whoever
reads the console holds the connection. -/
def ConsoleDirect (s : V2State) : Prop := s.sol.isSome = true → s.ipmbState.Direct

theorem receiveOne_direct {s : V2State} (direct : s.ConsoleDirect) (deadline : Instant)
    (turn : Turn) (unrelated : Nat) (seen : List UInt32) :
    (s.receiveOne provider deadline turn unrelated seen).state.ConsoleDirect := by
  have shape := receiveOne_cases provider s deadline turn unrelated seen
  generalize s.receiveOne provider deadline turn unrelated seen = intake at shape ⊢
  generalize turn.arrivals.recv unrelated = arrived at shape
  cases shape with
  | unread | refused => exact direct
  | unanswered data count payload error ipmbState received =>
    intro (opened : s.sol.isSome = true)
    have kept := (direct opened).receive payload
    rwa [received] at kept
  | accepted data count sequence payload response ipmbState current room received =>
    intro (opened : s.sol.isSome = true)
    have kept := (direct opened).receive payload
    rwa [received] at kept
  | console data count sequence payload flow current room opened =>
    intro _
    simp only
    rw [receiveSol_ipmbState]
    exact direct (Option.isSome_of_eq_some opened)

theorem attributed : (transport provider).Attributed ConsoleDirect := by
  intro s deadline turn unrelated seen direct intake
  have shape := receiveOne_cases provider s deadline turn unrelated seen
  change Reception provider s deadline turn.acking seen _ intake at shape
  generalize intake = intake at shape ⊢
  generalize turn.arrivals.recv unrelated = arrived at shape
  intro nothing
  cases shape with
  | unread | refused | unanswered => cases nothing
  | accepted data count sequence payload response ipmbState current room received =>
    simp only at nothing
    exact .inl ⟨payload, nothing ▸ received⟩
  | console data count sequence payload flow current room opened =>
    refine .inr ⟨rfl, ?_⟩
    change (s.receiveSol provider flow payload deadline turn.acking).2.ipmbState.needsPoll = false
    rw [receiveSol_ipmbState]
    exact (direct (Option.isSome_of_eq_some opened)).unpolled

theorem metered_direct : (transport provider).Metered ConsoleDirect slots where
  ipmb _ _ := rfl
  setIpmb _ _ _ direct onward :=
    ⟨fun opened => onward.direct (direct opened), Nat.add_le_add_right onward.room _⟩
  send s payload deadline sending seen direct := by
    obtain ⟨sequence, same⟩ := sendPayload_frame provider s payload deadline sending
    change (s.sendPayload provider payload deadline sending).2.ConsoleDirect ∧
      (s.sendPayload provider payload deadline sending).2.slots seen ≤ s.slots seen
    rw [same]
    exact ⟨direct, Nat.le_refl _⟩
  receive s deadline turn unrelated seen direct within :=
    ⟨receiveOne_direct provider direct deadline turn unrelated seen,
      receiveOne_spent provider s deadline turn seen within⟩

end V2State

namespace V1State
variable (digests : Digests)

/-- What a call has left in a 1.5 session: room of the pending request. -/
def slots (s : V1State) (_seen : List UInt32) : Nat := s.ipmbState.room

theorem receiveOne_spent (s : V1State) (deadline : Instant) (turn : Turn) {unrelated : Nat}
    (seen : List UInt32) (within : unrelated < MAX_UNRELATED) :
    let intake := s.receiveOne digests deadline turn unrelated seen
    Transport.Spent (recvTaken turn.arrivals.datagrams unrelated) unrelated (s.slots seen) intake
      (intake.state.slots intake.seen) := by
  obtain ⟨grows, small, taken, waited⟩ :=
    recv_counted turn.arrivals.waiting turn.arrivals.datagrams within
  have shape := receiveOne_cases digests s deadline turn unrelated seen
  unfold Arrivals.recv at shape
  intro intake
  change Reception s seen _ intake at shape
  generalize recvUntilWithBudget _ _ _ = arrived at *
  generalize intake = intake at shape ⊢
  cases shape with
  | unread error count =>
    exact ⟨grows, small, taken,
      fun timeout => waited (congrArg Except.error (Except.error.inj timeout)), Nat.le_refl _, by simp⟩
  | refused data count error untimed =>
    exact ⟨grows, small, taken, fun timeout => absurd (Except.error.inj timeout) untimed,
      Nat.le_refl _, by simp⟩
  | unanswered data count payload error ipmbState received =>
    obtain ⟨less, -⟩ := s.ipmbState.receive_room payload
    have untimed := s.ipmbState.receive_untimed payload
    rw [received] at less untimed
    exact ⟨grows, small, taken, fun timeout => absurd (by rw [Except.error.inj timeout]) untimed,
      less, by simp⟩
  | full data count message response ipmbState refused room received =>
    obtain ⟨less, -⟩ := s.ipmbState.receive_room message.payload
    rw [received] at less
    exact ⟨grows, small, taken, by simp, less, by simp⟩
  | inactive data count sequence payload response ipmbState pending received =>
    obtain ⟨-, used⟩ := s.ipmbState.receive_room payload
    rw [received] at used
    have used : ipmbState.room < s.ipmbState.room := used response rfl
    exact ⟨grows, small, taken, by simp, Nat.le_of_lt used, fun _ => used⟩
  | accepted data count message response ipmbState refused received =>
    obtain ⟨-, used⟩ := s.ipmbState.receive_room message.payload
    rw [received] at used
    have used : ipmbState.room < s.ipmbState.room := used response rfl
    exact ⟨grows, small, taken, by simp, Nat.le_of_lt used, fun _ => used⟩

theorem metered : (transport digests).Metered (fun _ => True) slots where
  ipmb _ _ := rfl
  setIpmb _ _ _ _ onward := ⟨trivial, onward.room⟩
  send s payload deadline sending seen _ := by
    obtain ⟨sequence, same⟩ := sendPayload_frame digests s payload deadline sending
    refine ⟨trivial, Nat.le_of_eq ?_⟩
    change slots (s.sendPayload digests payload deadline sending).2 seen = s.slots seen
    rw [same]
    rfl
  receive s deadline turn unrelated seen _ within :=
    ⟨trivial, receiveOne_spent digests s deadline turn seen within⟩

theorem attributed : (transport digests).Attributed fun _ => True := by
  intro s deadline turn unrelated seen _ intake
  have shape := receiveOne_cases digests s deadline turn unrelated seen
  change Reception s seen _ intake at shape
  generalize intake = intake at shape ⊢
  generalize turn.arrivals.recv unrelated = arrived at shape
  intro nothing
  cases shape with
  | unread | refused | unanswered | full => cases nothing
  | inactive data count sequence payload response ipmbState pending received =>
    simp only at nothing
    exact .inl ⟨payload, nothing ▸ received⟩
  | accepted data count message response ipmbState taken received =>
    simp only at nothing
    exact .inl ⟨message.payload, nothing ▸ received⟩

end V1State

/-! ### Over a whole session -/

namespace V2State
variable (provider : CryptoProvider)

/-- How a session is used: while a console is open requests go to the BMC
itself, and a console is opened between requests. -/
def Exclusive (s : Option V2State) : V2Op → Prop
  | .send request _ _ _ => ∀ session, s = some session → session.sol.isSome = true →
      ∃ lun, request.target = .bmc lun
  | .solOpen => ∀ session, s = some session → session.ipmbState.pending = none
  | _ => True

theorem send_direct {s : V2State} (direct : s.ConsoleDirect) {request : Request}
    (target : s.sol.isSome = true → ∃ lun, request.target = .bmc lun) (deadline : Instant)
    (checked sending : Sending) :
    (s.send provider request deadline checked sending).2.ConsoleDirect := by
  have began : s.sol.isSome = true → (s.ipmbState.begin request deadline).2.Direct := by
    intro opened
    obtain ⟨lun, target⟩ := target opened
    exact (direct opened).begin request deadline target
  unfold send
  split
  · exact direct
  · exact direct
  split
  · rename_i refused
    rw [refused] at began
    exact began
  · rename_i payload ipmbState accepted
    rw [accepted] at began
    obtain ⟨sequence, same⟩ :=
      sendPayload_frame provider { s with ipmbState } payload deadline sending
    split
    · exact fun _ => .of_idle rfl
    · rename_i delivered
      rw [delivered] at same
      dsimp only at same ⊢
      rw [same]
      exact began

theorem recv_direct {s : V2State} (direct : s.ConsoleDirect) {turns : List Turn}
    (returned : (s.recv provider turns).result.isSome = true) :
    (s.recv provider turns).state.ConsoleDirect := by
  revert returned
  unfold V2State.recv Transport.recv
  split
  · exact fun _ => direct
  simp only
  split
  · intro returned
    cases returned
  · exact fun _ _ => .of_idle rfl

theorem commit_direct {s : V2State} (direct : s.ConsoleDirect) (seen : List UInt32) :
    ((transport provider).commit s seen).ConsoleDirect := by
  unfold Transport.commit
  split
  · exact direct
  · exact direct

theorem pollSol_direct (deadline : Instant) (waitAck : Bool) (turns : List Turn) (unrelated : Nat)
    {s : V2State} (direct : s.ConsoleDirect) :
    (pollSol provider deadline waitAck turns unrelated s).state.ConsoleDirect := by
  induction turns generalizing unrelated s with
  | nil => exact direct
  | cons turn turns ih =>
    have kept := commit_direct provider
      (receiveOne_direct provider direct deadline turn unrelated [])
      (s.receiveOne provider deadline turn unrelated []).seen
    unfold pollSol
    simp only
    repeat' split
    all_goals first | exact kept | exact ih _ kept

theorem step_direct (op : V2Op) {s : Option V2State} (used : Exclusive s op)
    (direct : ∀ session, s = some session → session.ConsoleDirect) :
    ∀ session, (step provider s op).2 = some session → session.ConsoleDirect := by
  intro session reached
  cases s with
  | none => cases reached
  | some s =>
    have direct := direct s rfl
    cases op with
    | send request deadline checked sending =>
      cases reached
      exact send_direct provider direct (used s rfl) deadline checked sending
    | recv turns =>
      obtain ⟨result, returned, rfl⟩ := Option.map_eq_some_iff.mp reached
      exact recv_direct provider direct (Option.isSome_of_eq_some returned)
    | pollSol deadline waitAck turns =>
      obtain rfl := Call.solPolled_eq_some reached
      exact pollSol_direct provider deadline waitAck turns 0 direct
    | sendSolFrame frame deadline sending =>
      obtain rfl : (s.sendSolFrame provider frame deadline sending).2 = session :=
        Option.some.inj reached
      obtain ⟨sequence, same⟩ := sendSolFrame_frame provider s frame deadline sending
      rw [same]
      exact direct
    | solOpen =>
      cases reached
      exact fun _ => .of_idle (used s rfl)
    | solLimits input output =>
      cases reached
      intro opened
      simp only [solLimits, Option.isSome_map] at opened
      exact direct opened
    | solFlow change =>
      cases reached
      intro opened
      simp only [Option.isSome_map] at opened
      exact direct opened
    | solClose =>
      cases reached
      intro opened
      cases opened
    | reserveSequences minimum =>
      obtain rfl : { s with ipmbState := (s.ipmbState.reserveSequences minimum).2 } = session :=
        Option.some.inj reached
      exact fun opened => (s.ipmbState.reserveSequences_onward minimum).direct (direct opened)
    | releaseSequences =>
      cases reached
      exact direct

/-- A session so used never has a bridged request pending with a console open. -/
theorem run_direct {start : V2State} (closed : start.sol = none) (ops : List V2Op)
    (used : ∀ m ∈ moves (step provider) (some start) ops, Exclusive m.before m.op) :
    ∀ session, after (step provider) (some start) ops = some session → session.ConsoleDirect := by
  refine guarded_history (step provider) (P := fun _ s => ∀ session, s = some session →
    session.ConsoleDirect) (fun m => Exclusive m.before m.op) ?_ ?_ ops used
  · intro session same
    obtain rfl := Option.some.inj same
    intro opened
    rw [closed] at opened
    cases opened
  · exact fun _ s op used direct => step_direct provider op used direct

end V2State

/-- How many packets `IpmbState::receive` took without an answer. -/
def idleReceipts (moves : List IpmbMove) : Nat :=
  moves.countP fun m =>
    match m.out with
    | .received (.ok none) => true
    | _ => false

/-- Until the next request begins, `IpmbState::receive` takes no more packets
without an answer than there is room for. -/
theorem idleReceipts_le (s : IpmbState) (ops : List IpmbOp)
    (waiting : ∀ request deadline, .begin request deadline ∉ ops) :
    idleReceipts (moves IpmbState.step s ops) +
      (after IpmbState.step s ops).room ≤ s.room := by
  induction ops generalizing s with
  | nil => simp [idleReceipts]
  | cons op ops ih =>
    have rest := ih (s.step op).2
      (fun request deadline member => waiting request deadline (List.mem_cons_of_mem _ member))
    have paid : idleReceipts [move IpmbState.step s op] + (s.step op).2.room ≤ s.room := by
      cases op with
      | begin request deadline => exact absurd List.mem_cons_self (waiting request deadline)
      | pollMessage => simpa [idleReceipts, IpmbState.step] using s.pollMessage_room
      | receive data =>
        obtain ⟨less, used⟩ := s.receive_room data
        cases received : (s.receive data).1 with
        | error error => simpa [idleReceipts, IpmbState.step, received] using less
        | ok response =>
          have used := used response received
          cases response with
          | none =>
            simp [idleReceipts, IpmbState.step, received]
            omega
          | some response => simpa [idleReceipts, IpmbState.step, received] using less
      | retirePending =>
        simp [idleReceipts, IpmbState.step, IpmbState.retirePending, IpmbState.room]
      | stopPolling => simp [idleReceipts, IpmbState.step]
      | reserveSequences minimum =>
        simpa [idleReceipts, IpmbState.step] using (s.reserveSequences_onward minimum).room
      | releaseSequences =>
        simp [idleReceipts, IpmbState.step, IpmbState.releaseSequences, IpmbState.room]
    have split : idleReceipts (moves IpmbState.step s (op :: ops)) =
        idleReceipts [move IpmbState.step s op] +
          idleReceipts (moves IpmbState.step (s.step op).2 ops) := by
      rw [moves_cons, ← List.singleton_append]
      exact List.countP_append
    rw [split, after_cons]
    omega

/-- What bounds the receive calls of the two sessions against any peer. -/
structure Bounded (provider : CryptoProvider) (digests : Digests) : Prop where
  /-- RMCP+ `recv` takes so many datagrams at most; while they keep coming, it returns. -/
  recv (s : V2State) :
    (∀ turns, (V2State.transport provider).datagrams s turns ≤
      MAX_UNRELATED + (69 + (64 + MAX_UNRELATED))) ∧
    ∀ turns, (∀ turn ∈ turns, turn.arrivals.datagrams ≠ []) →
      2 * (MAX_UNRELATED + (69 + (64 + MAX_UNRELATED))) + 1 < turns.length →
      (s.recv provider turns).result.isSome = true
  /-- `poll_sol` charges every datagram. -/
  pollSol (s : V2State) (deadline : Instant) (waitAck : Bool) (turns : List Turn) :
    V2State.pollSolTaken provider deadline waitAck turns 0 s ≤ MAX_UNRELATED ∧
    (s.sol.isSome = true → MAX_UNRELATED ≤ turns.length →
      ∃ result, (V2State.pollSol provider deadline waitAck turns 0 s).result = some (.returned result))
  recvV1 (s : V1State) :
    (∀ turns, (V1State.transport digests).datagrams s turns ≤ MAX_UNRELATED + 69) ∧
    ∀ turns, (∀ turn ∈ turns, turn.arrivals.datagrams ≠ []) →
      2 * (MAX_UNRELATED + 69) + 1 < turns.length →
      (s.recv digests turns).result.isSome = true
  /-- One request takes so many packets without an answer at most. -/
  accepted (s : IpmbState) (ops : List IpmbOp) :
    (∀ request deadline, .begin request deadline ∉ ops) →
    idleReceipts (moves IpmbState.step s ops) ≤ 69
  charged (start : V2State) (ops : List V2Op) (s : V2State) :
    start.sol = none →
    (∀ m ∈ moves (V2State.step provider) (some start) ops, V2State.Exclusive m.before m.op) →
    after (V2State.step provider) (some start) ops = some s →
    ∀ deadline turns, (V2State.transport provider).Accounted deadline turns .start s
  chargedV1 (s : V1State) (deadline : Instant) (turns : List Turn) :
    (V1State.transport digests).Accounted deadline turns .start s

/-- Receiving is bounded against any peer, whatever the clock says: each call
takes a bounded number of datagrams, one request only so many packets that do
not answer it, and every other datagram the call goes on after is charged. -/
theorem receives_bounded (provider : CryptoProvider) (digests : Digests) :
    Bounded provider digests where
  recv s := (V2State.metered provider).recv trivial s.slots_le
  pollSol s deadline waitAck turns := by
    have start : 0 < MAX_UNRELATED := by decide
    constructor
    · exact V2State.pollSolTaken_le provider deadline waitAck turns s start
    · intro opened long
      exact V2State.pollSol_returns provider deadline waitAck turns opened start long
  recvV1 s := (V1State.metered digests).recv trivial s.ipmbState.room_le
  accepted s ops waiting :=
    Nat.le_trans (Nat.le_trans (Nat.le_add_right _ _) (idleReceipts_le s ops waiting)) s.room_le
  charged start ops s closed used reached deadline turns := by
    have direct := V2State.run_direct provider closed ops used s reached
    exact (V2State.metered_direct provider).accounted (V2State.attributed provider) deadline turns
      direct (by decide)
  chargedV1 s deadline turns :=
    (V1State.metered digests).accounted (V1State.attributed digests) deadline turns trivial
      (by decide)

end IpmiRs.Rmcp
