import IpmiRs.Rmcp.Active
import IpmiRs.Rmcp.IpmbSequences
import IpmiRs.Rmcp.Replay

/-! The meter of an RMCP session. A reservation stays covered by the sequences
that are left whatever is polled and received, so that a call it pays for is
never refused for want of sequences. -/
namespace IpmiRs.Rmcp
open Connection Library.Runs

/-- The first `n` sequences were issued, and there are as many left as are
held back. -/
structure Covered (n : Nat) (s : IpmbState) : Prop where
  allocated : Allocated n s
  enough : ∀ minimum, s.reservedSequences = some minimum → minimum ≤ 64 - n

theorem Covered.of_same {n : Nat} {s t : IpmbState} (held : Covered n s)
    (next : t.ipmbSequence = s.ipmbSequence) (retired : t.retiredSequences = s.retiredSequences)
    (reserved : t.reservedSequences = s.reservedSequences) : Covered n t where
  allocated := held.allocated.of_same next retired
  enough minimum granted := held.enough minimum (reserved ▸ granted)

/-! ### Waiting for a reply -/

/-- What waiting for a reply does to the IPMB state: it may use sequences up,
but none that are held back. -/
structure Waits (s t : IpmbState) : Prop where
  reserved : t.reservedSequences = s.reservedSequences
  responder : t.responderAddr = s.responderAddr
  covered : ∀ n, Covered n s → ∃ k, n ≤ k ∧ Covered k t

namespace Waits
variable {s t u : IpmbState}

theorem refl (s : IpmbState) : Waits s s := ⟨rfl, rfl, fun n held => ⟨n, Nat.le_refl n, held⟩⟩

theorem trans (first : Waits s t) (second : Waits t u) : Waits s u where
  reserved := second.reserved.trans first.reserved
  responder := second.responder.trans first.responder
  covered n held := by
    obtain ⟨k, more, held⟩ := first.covered n held
    obtain ⟨m, further, held⟩ := second.covered k held
    exact ⟨m, Nat.le_trans more further, held⟩

/-- A change to what does not concern the sequences. -/
theorem of_same (next : t.ipmbSequence = s.ipmbSequence)
    (retired : t.retiredSequences = s.retiredSequences)
    (reserved : t.reservedSequences = s.reservedSequences)
    (responder : t.responderAddr = s.responderAddr) : Waits s t where
  reserved := reserved
  responder := responder
  covered n held := ⟨n, Nat.le_refl n, held.of_same next retired reserved⟩

theorem stopPolling (s : IpmbState) : Waits s s.stopPolling := of_same rfl rfl rfl rfl

theorem retirePending (s : IpmbState) : Waits s s.retirePending := of_same rfl rfl rfl rfl

theorem receive (s : IpmbState) (data : List UInt8) : Waits s (s.receive data).2 := by
  obtain ⟨pending, supported, shape⟩ := s.receive_frame data
  rw [shape]
  exact of_same rfl rfl rfl rfl

/-- A poll is not sent while every sequence left is held back. -/
theorem pollMessage (s : IpmbState) : Waits s s.pollMessage.2 := by
  rcases s.pollMessage_cases with ⟨error, refused⟩ | ⟨p, -, -, -, blocked⟩ |
    ⟨p, -, -, spare, unused, polled⟩
  · rw [refused]
    exact refl s
  · rw [blocked]
    exact of_same rfl rfl rfl rfl
  · rw [polled]
    refine ⟨rfl, rfl, fun n held => ⟨n + 1, Nat.le_succ n, ?_, ?_⟩⟩
    · obtain ⟨-, next⟩ := held.allocated.nextReply (held.allocated.room_of_free unused) APP_NETFN
        (if s.queueAvailable then GET_MESSAGE else GET_MESSAGE_FLAGS) s.responderAddr .zero
        s.requestorAddr
      exact next.of_same rfl rfl
    · intro minimum granted
      have below := spare minimum granted
      rw [held.allocated.remainingSequences_eq] at below
      omega

end Waits

namespace Transport
variable {σ : Type}

/-- A session that touches its IPMB state only as waiting does. -/
structure Waiting (t : Transport σ) : Prop where
  ipmb : ∀ s ipmb, t.ipmb (t.setIpmb s ipmb) = ipmb
  send : ∀ s payload deadline sending,
    t.ipmb (t.sendPayload s payload deadline sending).2 = t.ipmb s
  mark : ∀ s sequence, t.ipmb (t.setLastInbound s sequence) = t.ipmb s
  receive : ∀ s deadline turn unrelated seen,
    Waits (t.ipmb s) (t.ipmb (t.receiveOne s deadline turn unrelated seen).state)

variable {t : Transport σ}

/-- The session a poll leaves. -/
def Polled.state : Polled σ → σ
  | .again _ s | .failed _ s | .on _ s => s

theorem Waiting.poll (waiting : t.Waiting) (deadline : Instant) (turn : Turn) (p : Progress) (s : σ) :
    Waits (t.ipmb s) (t.ipmb (t.poll deadline turn p s).state) := by
  have polled := Waits.pollMessage (t.ipmb s)
  unfold Transport.poll
  dsimp only
  split
  · split
    · rename_i ipmb shape
      rw [shape] at polled
      rw [Polled.state, waiting.ipmb]
      exact polled.trans (.stopPolling ipmb)
    · rename_i shape
      rw [shape] at polled
      rwa [Polled.state, waiting.ipmb]
    · rename_i shape
      rw [shape] at polled
      rwa [Polled.state, waiting.ipmb]
    · rename_i payload ipmb shape
      rw [shape] at polled
      have sent := waiting.send (t.setIpmb s ipmb) payload deadline turn.polling
      split
      · rename_i failed
        rw [failed] at sent
        rwa [Polled.state, sent, waiting.ipmb]
      · rename_i delivered
        rw [delivered] at sent
        rwa [Polled.state, sent, waiting.ipmb]
  · exact .refl _

theorem Waiting.turn (waiting : t.Waiting) (deadline : Instant) (turn : Turn) (p : Progress) (s : σ) :
    Waits (t.ipmb s) (t.ipmb (t.turn deadline turn p s).state) := by
  have polled := waiting.poll deadline turn p s
  unfold Transport.turn
  split
  · rename_i shape
    rwa [shape] at polled
  · rename_i shape
    rwa [shape] at polled
  · rename_i q after shape
    rw [shape] at polled
    dsimp only
    rw [(t.judge_keeps _ _ q _).1]
    exact polled.trans (waiting.receive after _ turn q.unrelated q.seen)

theorem Waiting.loop (waiting : t.Waiting) (deadline : Instant) (turns : List Turn) (p : Progress)
    (s : σ) : Waits (t.ipmb s) (t.ipmb (t.loop deadline turns p s).state) := by
  induction turns generalizing p s with
  | nil => exact .refl _
  | cons turn turns ih =>
    have first := waiting.turn deadline turn p s
    simp only [Transport.loop]
    split
    · exact first
    · exact first.trans (ih _ _)

theorem Waiting.recvUntil (waiting : t.Waiting) (turns : List Turn) (s : σ) :
    Waits (t.ipmb s) (t.ipmb (t.recvUntil s turns).2) := by
  unfold Transport.recvUntil
  split
  · exact .refl _
  · rename_i pending held
    dsimp only
    rw [waiting.ipmb]
    refine (waiting.loop pending.deadline turns .start s).trans (.trans ?_ (.retirePending _))
    unfold Transport.commit
    split
    · rw [waiting.mark]
      exact .refl _
    · exact .refl _

end Transport

theorem V1State.waiting (digests : Digests) : (V1State.transport digests).Waiting where
  ipmb _ _ := rfl
  send s payload deadline sending := by
    obtain ⟨sequence, sent⟩ := V1State.sendPayload_frame digests s payload deadline sending
    change (V1State.sendPayload digests s payload deadline sending).2.ipmbState = s.ipmbState
    rw [sent]
  mark _ _ := rfl
  receive s deadline turn unrelated seen := by
    have shape := V1State.receiveOne_cases digests s deadline turn unrelated seen
    change Waits s.ipmbState (V1State.receiveOne digests s deadline turn unrelated seen).state.ipmbState
    generalize turn.arrivals.recv unrelated = arrived,
      V1State.receiveOne digests s deadline turn unrelated seen = intake at shape ⊢
    have through {payload : List UInt8} {result} {after : IpmbState}
        (received : s.ipmbState.receive payload = (result, after)) : Waits s.ipmbState after := by
      have waits := Waits.receive s.ipmbState payload
      rwa [received] at waits
    cases shape with
    | unread error count => exact .refl _
    | refused data count error untimed => exact .refl _
    | unanswered data count payload error ipmbState received => exact through received
    | inactive data count sequence payload response ipmbState pending received => exact through received
    | full data count message response ipmbState taken room received => exact through received
    | accepted data count message response ipmbState taken received => exact through received

theorem V2State.waiting (provider : CryptoProvider) : (V2State.transport provider).Waiting where
  ipmb _ _ := rfl
  send s payload deadline sending := by
    obtain ⟨sequence, sent⟩ := V2State.sendPayload_frame provider s payload deadline sending
    change (V2State.sendPayload provider s payload deadline sending).2.ipmbState = s.ipmbState
    rw [sent]
  mark _ _ := rfl
  receive s deadline turn unrelated seen := by
    have shape := V2State.receiveOne_cases provider s deadline turn unrelated seen
    change Waits s.ipmbState (V2State.receiveOne provider s deadline turn unrelated seen).state.ipmbState
    generalize turn.arrivals.recv unrelated = arrived,
      V2State.receiveOne provider s deadline turn unrelated seen = intake at shape ⊢
    have through {payload : List UInt8} {result} {after : IpmbState}
        (received : s.ipmbState.receive payload = (result, after)) : Waits s.ipmbState after := by
      have waits := Waits.receive s.ipmbState payload
      rwa [received] at waits
    cases shape with
    | unread error count => exact .refl _
    | refused data count error untimed => exact .refl _
    | unanswered data count payload error ipmbState received => exact through received
    | accepted data count sequence payload response ipmbState current room received =>
      exact through received
    | console data count sequence payload flow current room opened =>
      dsimp only
      rw [V2State.receiveSol_ipmbState]
      exact .refl _

/-! ### Sending a request -/

/-- What an accepted request does: it takes its sequences, from those held back
if there are any. -/
structure Begun (needed : Nat) (s t : IpmbState) : Prop where
  reserved : t.reservedSequences = s.reservedSequences.map (· - needed)
  responder : t.responderAddr = s.responderAddr
  covered : ∀ n, Covered n s → Covered (n + needed) t

theorem Begun.waits {needed : Nat} {s t u : IpmbState} (begun : Begun needed s t) (waits : Waits t u) :
    u.reservedSequences = s.reservedSequences.map (· - needed) ∧
      u.responderAddr = s.responderAddr ∧ ∀ n, Covered n s → ∃ k, n + needed ≤ k ∧ Covered k u :=
  ⟨waits.reserved.trans begun.reserved, waits.responder.trans begun.responder,
    fun n held => waits.covered _ (begun.covered n held)⟩

theorem accept_frame (s : IpmbState) (request : Request) (deadline : Instant) :
    (s.accept request deadline).2.reservedSequences = s.reservedSequences ∧
      (s.accept request deadline).2.responderAddr = s.responderAddr := by
  unfold IpmbState.accept
  split
  · rename_i target transit _
    cases transit <;> exact ⟨rfl, rfl⟩
  · exact ⟨rfl, rfl⟩

/-- What becomes of a request: refused by its checks, or begun. -/
theorem begin_sequences (s : IpmbState) (request : Request) (deadline : Instant) :
    (∃ error, s.begin request deadline = (.error error, s) ∧
      (error = .ipmbSequenceExhausted → ∀ n minimum, Covered n s →
        s.reservedSequences = some minimum → minimum < (s.route request.target).needed)) ∨
    ∃ payload t, s.begin request deadline = (.ok payload, t) ∧
      Begun (s.route request.target).needed s t := by
  rcases s.begin_cases request deadline with ⟨error, -, refused⟩ | ⟨checked, accepted⟩
  · refine .inl ⟨error, refused, ?_⟩
    rintro rfl n minimum held granted
    by_contra fits
    exact held.allocated.begin_not_exhausted request deadline granted (held.enough minimum granted)
      (Nat.le_of_not_lt fits) (congrArg Prod.fst refused)
  · obtain ⟨-, -, -, affordable, unused⟩ := IpmbState.checkBegin_ok checked
    obtain ⟨reserved, responder⟩ := accept_frame
      (s.consumeReserved (s.route request.target).needed) request deadline
    refine .inr ⟨_, _, accepted, reserved, responder, fun n held => ⟨?_, ?_⟩⟩
    · have start : Allocated n (s.consumeReserved (s.route request.target).needed) :=
        held.allocated.of_same rfl rfl
      have room := held.allocated.room_of_unused (needed_le_three _) unused
      have taken := (start.accept request deadline (by simpa using room)).1
      rwa [IpmbState.route_consumeReserved] at taken
    · intro minimum left
      obtain ⟨before, granted, rfl⟩ := Option.map_eq_some_iff.mp (reserved.symm.trans left)
      have fits := held.enough before granted
      omega

/-- What becomes of a request that is sent: refused, or begun and sent or lost. -/
inductive Dispatched (request : Request) (s : IpmbState) : Except RmcpIpmiError (List UInt8) →
    IpmbState → Prop
  | refused (error : RmcpIpmiError) (short : error = .send .ipmbSequenceExhausted →
      ∀ n minimum, Covered n s → s.reservedSequences = some minimum →
        minimum < (s.route request.target).needed) : Dispatched request s (.error error) s
  | lost (error : RmcpIpmiError) (otherwise : error ≠ .send .ipmbSequenceExhausted) (t : IpmbState)
      (begun : Begun (s.route request.target).needed s t) :
      Dispatched request s (.error error) t.retirePending
  | sent (datagram : List UInt8) (t : IpmbState) (begun : Begun (s.route request.target).needed s t) :
      Dispatched request s (.ok datagram) t

theorem intoOperationError_exhausted {error : RmcpIpmiSendError} :
    error.intoOperationError = .send .ipmbSequenceExhausted ↔ error = .ipmbSequenceExhausted := by
  unfold RmcpIpmiSendError.intoOperationError
  split <;> simp

theorem refused_not_exhausted {sending : Sending} {deadline : Instant} {error : RmcpIpmiSendError}
    (refused : sending.refused deadline = some error) : error ≠ .ipmbSequenceExhausted := by
  unfold Sending.refused at refused
  repeat' split at refused
  all_goals cases refused
  all_goals simp

theorem V1State.sendPayload_not_exhausted (digests : Digests) (s : V1State) (payload : List UInt8)
    (deadline : Instant) (sending : Sending) :
    (s.sendPayload digests payload deadline sending).1 ≠ .error .ipmbSequenceExhausted := by
  unfold V1State.sendPayload
  split
  · rename_i error refused
    exact fun exhausted => refused_not_exhausted refused (Except.error.inj exhausted)
  split
  · simp
  · dsimp only
    cases (sending.send _ _) <;> simp [Except.mapError]

theorem V2State.sendPayload_not_exhausted (provider : CryptoProvider) (s : V2State)
    (payload : List UInt8) (deadline : Instant) (sending : Sending) :
    (s.sendPayload provider payload deadline sending).1 ≠ .error .ipmbSequenceExhausted := by
  unfold V2State.sendPayload
  split
  · rename_i error refused
    exact fun exhausted => refused_not_exhausted refused (Except.error.inj exhausted)
  · simp
  · unfold V2State.sendMessage
    cases (sending.send _ _) <;> simp [Except.mapError]

theorem V1State.send_sequences (digests : Digests) (s : V1State) (request : Request)
    (deadline : Instant) (checked sending : Sending) :
    Dispatched request s.ipmbState
      ((s.send digests request deadline checked sending).1.mapError
        RmcpIpmiSendError.intoOperationError)
      (s.send digests request deadline checked sending).2.ipmbState := by
  unfold V1State.send
  split
  · rename_i error refused
    refine .refused _ fun exhausted => ?_
    exact absurd (intoOperationError_exhausted.mp exhausted) (refused_not_exhausted refused)
  split
  · exact .refused _ fun exhausted => absurd (intoOperationError_exhausted.mp exhausted) (by simp)
  rcases begin_sequences s.ipmbState request deadline with ⟨error, refused, short⟩ |
    ⟨payload, t, accepted, begun⟩
  · rw [refused]
    exact .refused _ fun exhausted => short (intoOperationError_exhausted.mp exhausted)
  · rw [accepted]
    dsimp only
    have other := V1State.sendPayload_not_exhausted digests { s with ipmbState := t } payload deadline
      sending
    obtain ⟨sequence, frame⟩ := V1State.sendPayload_frame digests { s with ipmbState := t } payload
      deadline sending
    split
    · rename_i error after failed
      rw [failed] at other frame
      obtain rfl : after = _ := frame
      exact .lost _ (fun exhausted =>
        other (congrArg Except.error (intoOperationError_exhausted.mp exhausted))) t begun
    · rename_i datagram after delivered
      rw [delivered] at frame
      obtain rfl : after = _ := frame
      exact .sent datagram t begun

theorem V2State.send_sequences (provider : CryptoProvider) (s : V2State) (request : Request)
    (deadline : Instant) (checked sending : Sending) :
    Dispatched request s.ipmbState (s.send provider request deadline checked sending).1
      (s.send provider request deadline checked sending).2.ipmbState := by
  unfold V2State.send
  split
  · rename_i error refused
    refine .refused _ fun exhausted => ?_
    exact absurd (RmcpIpmiError.send.inj exhausted) (refused_not_exhausted refused)
  · exact .refused _ (by simp)
  rcases begin_sequences s.ipmbState request deadline with ⟨error, refused, short⟩ |
    ⟨payload, t, accepted, begun⟩
  · rw [refused]
    exact .refused _ fun exhausted => short (RmcpIpmiError.send.inj exhausted)
  · rw [accepted]
    dsimp only
    have other := V2State.sendPayload_not_exhausted provider { s with ipmbState := t } payload deadline
      sending
    obtain ⟨sequence, frame⟩ := V2State.sendPayload_frame provider { s with ipmbState := t } payload
      deadline sending
    split
    · rename_i error after failed
      rw [failed] at other frame
      obtain rfl : after = _ := frame
      exact .lost _ (fun exhausted =>
        other (congrArg Except.error (intoOperationError_exhausted.mp exhausted))) t begun
    · rename_i datagram after delivered
      rw [delivered] at frame
      obtain rfl : after = _ := frame
      exact .sent datagram t begun

/-! ### A whole call -/

/-- What a call does to the sequences and to the reservation. -/
structure Called (request : Request) (s : IpmbState) (result : Except RmcpIpmiError Response)
    (t : IpmbState) : Prop where
  responder : t.responderAddr = s.responderAddr
  spent : ∃ spent ≤ (s.route request.target).needed,
    t.reservedSequences = s.reservedSequences.map (· - spent) ∧
    (result.isOk = true → spent = (s.route request.target).needed) ∧
    ∀ n, Covered n s → ∃ k, n + spent ≤ k ∧ Covered k t
  paid : ∀ n minimum, Covered n s → s.reservedSequences = some minimum →
    (s.route request.target).needed ≤ minimum → result ≠ .error (.send .ipmbSequenceExhausted)

/-- A call is what was sent, and the wait for the reply to it. -/
theorem Dispatched.called {request : Request} {s t u : IpmbState}
    {sent : Except RmcpIpmiError (List UInt8)} {result : Except RmcpIpmiError Response}
    (dispatched : Dispatched request s sent t)
    (failed : ∀ error, sent = .error error → result = .error error ∧ u = t)
    (waited : sent.isOk = true → result ≠ .error (.send .ipmbSequenceExhausted) ∧ Waits t u) :
    Called request s result u := by
  have taken {v : IpmbState} (begun : Begun (s.route request.target).needed s v) (waits : Waits v u)
      (otherwise : result ≠ .error (.send .ipmbSequenceExhausted)) : Called request s result u := by
    obtain ⟨reserved, responder, covered⟩ := begun.waits waits
    exact ⟨responder, ⟨_, Nat.le_refl _, reserved, fun _ => rfl, covered⟩, fun _ _ _ _ _ => otherwise⟩
  cases dispatched with
  | refused error short =>
    obtain ⟨rfl, rfl⟩ := failed error rfl
    refine ⟨rfl, ⟨0, Nat.zero_le _, by simp, nofun, fun n held => ⟨n, Nat.le_refl n, held⟩⟩, ?_⟩
    intro n minimum held granted fits exhausted
    exact absurd (short (Except.error.inj exhausted) n minimum held granted) (Nat.not_lt.mpr fits)
  | lost error otherwise v begun =>
    obtain ⟨rfl, rfl⟩ := failed error rfl
    exact taken begun (.retirePending v) fun exhausted => otherwise (Except.error.inj exhausted)
  | sent datagram v begun =>
    obtain ⟨otherwise, waits⟩ := waited rfl
    exact taken begun waits otherwise

theorem Active.sendRecv_called (digests : Digests) (provider : CryptoProvider) (request : Request)
    (met : Conditions) (active : Active) :
    Called request active.ipmbState (active.sendRecv digests provider request met).1
      (active.sendRecv digests provider request met).2.ipmbState := by
  have received (reply : Except RmcpIpmiReceiveError Response) :
      reply.mapError RmcpIpmiError.outcomeUnknown ≠ .error (.send .ipmbSequenceExhausted) := by
    cases reply <;> simp [Except.mapError]
  cases active with
  | v1_5 s =>
    have dispatched := s.send_sequences digests request met.deadline met.checked met.sending
    unfold Active.sendRecv
    dsimp only
    split
    · rename_i error after failed
      rw [failed] at dispatched
      exact dispatched.called (by rintro _ ⟨⟩; exact ⟨rfl, rfl⟩) nofun
    · rename_i datagram after delivered
      rw [delivered] at dispatched
      exact dispatched.called nofun fun _ => ⟨received _, (V1State.waiting digests).recvUntil met.turns after⟩
  | v2_0 s =>
    have dispatched := s.send_sequences provider request met.deadline met.checked met.sending
    unfold Active.sendRecv
    dsimp only
    split
    · rename_i error after failed
      rw [failed] at dispatched
      exact dispatched.called (by rintro _ ⟨⟩; exact ⟨rfl, rfl⟩) nofun
    · rename_i datagram after delivered
      rw [delivered] at dispatched
      exact dispatched.called nofun fun _ => ⟨received _, (V2State.waiting provider).recvUntil met.turns after⟩

/-! ### The meter -/

/-- The IPMB state is one that runs lead to, with the reservation covered. -/
def IpmbState.Sound (s : IpmbState) : Prop := s.responderAddr = 0x20 ∧ ∃ n, Covered n s

theorem Waits.sound {s t : IpmbState} (waits : Waits s t) (sound : s.Sound) : t.Sound := by
  obtain ⟨responder, n, held⟩ := sound
  obtain ⟨k, -, kept⟩ := waits.covered n held
  exact ⟨waits.responder.trans responder, k, kept⟩

theorem step_sound {s : IpmbState} (sound : s.Sound) (op : IpmbOp) : (s.step op).2.Sound := by
  cases op with
  | begin request deadline =>
    obtain ⟨responder, n, held⟩ := sound
    rcases begin_sequences s request deadline with ⟨error, refused, -⟩ | ⟨payload, t, accepted, begun⟩
    · simp only [IpmbState.step, refused, Prod.map_snd, id_eq]
      exact ⟨responder, n, held⟩
    · have after : t.Sound := ⟨begun.responder.trans responder, _, begun.covered n held⟩
      simpa only [IpmbState.step, accepted, Prod.map_snd, id_eq] using after
  | pollMessage => exact (Waits.pollMessage s).sound sound
  | receive data => exact (Waits.receive s data).sound sound
  | retirePending => exact (Waits.retirePending s).sound sound
  | stopPolling => exact (Waits.stopPolling s).sound sound
  | reserveSequences minimum =>
    obtain ⟨responder, n, held⟩ := sound
    cases granted : (s.reserveSequences minimum).1 with
    | true =>
      obtain ⟨fits, shape⟩ := held.allocated.reserve_granted granted
      change (s.reserveSequences minimum).2.Sound
      rw [shape]
      refine ⟨responder, n, held.allocated.of_same rfl rfl, fun least same => ?_⟩
      rwa [← Option.some.inj same]
    | false =>
      have refused : (s.reserveSequences minimum).2 = s := by
        unfold IpmbState.reserveSequences at granted ⊢
        split at granted
        · rename_i refused
          rw [if_pos refused]
        · cases granted
      change (s.reserveSequences minimum).2.Sound
      rw [refused]
      exact ⟨responder, n, held⟩
  | releaseSequences =>
    obtain ⟨responder, n, held⟩ := sound
    exact ⟨responder, n, held.allocated.of_same rfl rfl, fun _ none => by cases none⟩

theorem run_sound (ops : List IpmbOp) : (after IpmbState.step .default ops).Sound :=
  invariant IpmbState.step (P := IpmbState.Sound) ⟨rfl, 0, allocated_default, nofun⟩
    (fun _ op sound => step_sound sound op) ops

/-- The meter of a connection over RMCP. -/
def rmcpMeter : Meter RmcpConnection RmcpIpmiError where
  sound s := ∀ active, s.active = some active → active.ipmbState.Sound
  left s := s.active.elim 0 fun active => active.ipmbState.remainingSequences
  held s := s.active.bind fun active => active.ipmbState.reservedSequences
  calls := RmcpConnection.calls
  price target := (IpmbState.default.route target).needed
  exhausted := .send .ipmbSequenceExhausted

theorem route_eq {s : IpmbState} (responder : s.responderAddr = 0x20) (target : RequestTargetAddress) :
    s.route target = IpmbState.default.route target := by
  have default : IpmbState.default.responderAddr = 0x20 := rfl
  unfold IpmbState.route
  rw [responder, default]

/-- One call pays its price at most, and nothing that was held back is lost to others. -/
theorem Called.ran {s t : RmcpConnection} {before after : Active} {request : Request}
    {result : Except RmcpIpmiError Response} (active : s.active = some before)
    (left : t.active = some after) (calls : t.calls = s.calls ++ [⟨request, result⟩])
    (sound : before.ipmbState.Sound)
    (called : Called request before.ipmbState result after.ipmbState) :
    rmcpMeter.Ran (rmcpMeter.price request.target) s [⟨request, result⟩] t := by
  obtain ⟨responder, n, held⟩ := sound
  obtain ⟨spent, within, reserved, answered, covered⟩ := called.spent
  obtain ⟨k, more, kept⟩ := covered n held
  have paid := called.paid n
  rw [route_eq responder] at within answered paid
  refine ⟨?_, calls, ⟨spent, ?_, ?_⟩, ?_, ?_⟩
  · intro other same
    obtain rfl := Option.some.inj (left.symm.trans same)
    exact ⟨called.responder.trans responder, k, kept⟩
  · rwa [List.length_singleton, Nat.mul_one]
  · simpa [rmcpMeter, active, left] using reserved
  · intro replies
    have used := answered (replies _ (List.mem_singleton_self _))
    have bound := kept.allocated.bound
    simp only [rmcpMeter, active, left, Option.elim_some, kept.allocated.remainingSequences_eq,
      held.allocated.remainingSequences_eq, List.length_singleton]
    omega
  · intro minimum count granted enough call member
    rw [List.mem_singleton.mp (List.mem_of_mem_take member)]
    refine paid minimum held (by simpa [rmcpMeter, active] using granted) ?_
    have some : 0 < count := by
      rw [Nat.pos_iff_ne_zero]
      rintro rfl
      simp at member
    exact Nat.le_trans (Nat.le_mul_of_pos_right _ some) enough

theorem rmcp_metered (digests : Digests) (provider : CryptoProvider)
    (world : List (Exchange RmcpIpmiError) → Conditions) :
    (rmcp digests provider world).Metered rmcpMeter where
  budget _ := rfl
  refused s n failed := by
    cases active : s.active with
    | none =>
      simp only [rmcp, active]
    | some before =>
      simp only [rmcp, active, Prod.map_fst, Prod.map_snd, id_eq] at failed ⊢
      unfold IpmbState.reserveSequences at failed ⊢
      split at failed
      · rename_i refused
        rw [if_pos refused, Active.setIpmb_ipmbState, ← active]
      · cases failed
  granted s n sound granted := by
    cases active : s.active with
    | none => simp [rmcp, active] at granted
    | some before =>
      obtain ⟨responder, m, held⟩ := sound before active
      simp only [rmcp, active, Prod.map_fst, Prod.map_snd, id_eq] at granted ⊢
      obtain ⟨fits, shape⟩ := held.allocated.reserve_granted granted
      have free : before.ipmbState.reservedSequences = none := by
        unfold IpmbState.reserveSequences at granted
        split at granted
        · cases granted
        · rename_i free
          push Not at free
          simpa using free.2.1
      rw [shape]
      refine ⟨by simp [rmcpMeter, active, free], ?_, by simp [rmcpMeter], rfl⟩
      intro other same
      obtain rfl := Option.some.inj same
      rw [Active.ipmbState_setIpmb]
      refine ⟨responder, m, held.allocated.of_same rfl rfl, ?_⟩
      intro minimum granted
      rwa [← Option.some.inj granted]
  released s sound := by
    refine ⟨?_, ?_, rfl⟩
    · intro other same
      obtain ⟨before, active, rfl⟩ := Option.map_eq_some_iff.mp same
      obtain ⟨responder, n, held⟩ := sound before active
      rw [Active.ipmbState_setIpmb]
      exact ⟨responder, n, held.allocated.of_same rfl rfl, fun _ none => by cases none⟩
    · cases active : s.active with
      | none => simp [rmcp, rmcpMeter, active]
      | some before => simp [rmcp, rmcpMeter, active, IpmbState.releaseSequences]
  call s request sound := by
    cases active : s.active with
    | none =>
      refine ⟨?_, ?_, ⟨0, Nat.zero_le _, ?_⟩, ?_, ?_⟩
      · simp [rmcp, rmcpMeter, active]
      · simp [rmcp, rmcpMeter, active]
      · simp [rmcp, rmcpMeter, active]
      · simp [rmcp, active, Except.isOk, Except.toBool]
      · simp [rmcpMeter, active]
    | some before =>
      have called := before.sendRecv_called digests provider request (world s.calls)
      have transacted : (rmcp digests provider world).transact request s =
          ((before.sendRecv digests provider request (world s.calls)).1,
            ⟨some (before.sendRecv digests provider request (world s.calls)).2, s.calls ++
              [⟨request, (before.sendRecv digests provider request (world s.calls)).1⟩]⟩) := by
        simp only [rmcp, active, Prod.map_fst, Prod.map_snd, id_eq]
      rw [transacted]
      exact called.ran active rfl rfl (sound before active)

end IpmiRs.Rmcp
