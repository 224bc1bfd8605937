import IpmiRs.Library.HighWater
import IpmiRs.Rmcp.IpmbRoom
import IpmiRs.Rmcp.PacketRoundTrip
import IpmiRs.Rmcp.SessionV15
import IpmiRs.Rmcp.SessionV2

/-! Replay protection of the two sessions. The sequence numbers of one call
are kept in its own list and committed as a maximum when it ends; over a whole
session every number is accepted at most once. -/
namespace IpmiRs.Rmcp
open Connection Library.Runs Library.HighWater

instance lawfulOrderMaxSequence : Std.LawfulOrderMax UInt32 where
  max_eq_or a b := by
    by_cases le : a ≤ b
    · exact .inr (if_pos le)
    · exact .inl (if_neg le)
  max_le_iff a b c := by
    by_cases le : a ≤ b
    · rw [show max a b = b from if_pos le]
      exact ⟨fun bound => ⟨Std.le_trans le bound, bound⟩, fun bound => bound.2⟩
    · rw [show max a b = a from if_neg le]
      have ge : b ≤ a := Std.le_of_not_ge le
      exact ⟨fun bound => ⟨bound, Std.le_trans ge bound⟩, fun bound => bound.1⟩

/-- A sequence number that a session may still accept. -/
structure Fresh (last : Option UInt32) (seen : List UInt32) (sequence : UInt32) : Prop where
  nonzero : sequence ≠ 0
  above : ∀ mark, last = some mark → mark < sequence
  unseen : sequence ∉ seen

/-- What was accepted was fresh, and is noted. -/
structure Noted (last : Option UInt32) (seen : List UInt32) (accepted : Option UInt32)
    (after : List UInt32) : Prop where
  fresh : ∀ sequence, accepted = some sequence → Fresh last seen sequence
  noted : after = seen ++ accepted.toList

theorem Noted.nothing (last : Option UInt32) (seen : List UInt32) : Noted last seen none seen :=
  ⟨by simp, by simp⟩

namespace Transport
variable {σ : Type}

/-- What the receive loop relies on. `Inv s n` is what holds of the session
while the call has noted `n` packets. -/
structure Guards (t : Transport σ) (Inv : σ → Nat → Prop) : Prop where
  setIpmb : ∀ s n ipmb, Inv s n → ipmb.room ≤ (t.ipmb s).room →
    Inv (t.setIpmb s ipmb) n ∧ t.lastInbound (t.setIpmb s ipmb) = t.lastInbound s
  send : ∀ s n payload deadline sending, Inv s n →
    Inv (t.sendPayload s payload deadline sending).2 n ∧
      t.lastInbound (t.sendPayload s payload deadline sending).2 = t.lastInbound s
  receive : ∀ s deadline turn unrelated seen, Inv s seen.length →
    let intake := t.receiveOne s deadline turn unrelated seen
    Inv intake.state intake.seen.length ∧ t.lastInbound intake.state = t.lastInbound s ∧
      Noted (t.lastInbound s) seen intake.accepted intake.seen
  commits : ∀ s n last, Inv s n →
    Inv (t.setLastInbound s last) n ∧ t.lastInbound (t.setLastInbound s last) = last
  retires : ∀ s n, Inv s n → Inv (t.setIpmb s (t.ipmb s).retirePending) 0 ∧
    t.lastInbound (t.setIpmb s (t.ipmb s).retirePending) = t.lastInbound s

variable {t : Transport σ} {Inv : σ → Nat → Prop}

/-- Polling noted no packet and left a state of the given kind. -/
def Polled.Keeps (seen : List UInt32) (kept : σ → Prop) : Polled σ → Prop
  | .again p after | .on p after => p.seen = seen ∧ kept after
  | .failed _ after => kept after

theorem Guards.poll (guards : t.Guards Inv) (deadline : Instant) (turn : Turn) (p : Progress)
    {s : σ} {n : Nat} (held : Inv s n) :
    (t.poll deadline turn p s).Keeps p.seen fun after =>
      Inv after n ∧ t.lastInbound after = t.lastInbound s := by
  have room := (t.ipmb s).pollMessage_room
  unfold Transport.poll
  simp only
  split
  · split
    · rename_i ipmb shape
      rw [shape] at room
      exact ⟨rfl, guards.setIpmb s n ipmb.stopPolling held room⟩
    · rename_i ipmb shape
      rw [shape] at room
      exact ⟨rfl, guards.setIpmb s n ipmb held room⟩
    · rename_i error ipmb _ _ shape
      rw [shape] at room
      exact guards.setIpmb s n ipmb held room
    · rename_i payload ipmb shape
      rw [shape] at room
      obtain ⟨set, last⟩ := guards.setIpmb s n ipmb held room
      have sent := guards.send _ n payload deadline turn.polling set
      split
      · rename_i error after failed
        rw [failed] at sent
        exact ⟨sent.1, sent.2.trans last⟩
      · rename_i datagram after delivered
        rw [delivered] at sent
        exact ⟨rfl, sent.1, sent.2.trans last⟩
  · exact ⟨rfl, held, rfl⟩

/-- Judging a reception changes neither the session nor what was noted. -/
theorem judge_keeps (deadline receiveDeadline : Instant) (p : Progress) (intake : Intake σ) :
    (t.judge deadline receiveDeadline p intake).state = intake.state ∧
    (t.judge deadline receiveDeadline p intake).accepted = intake.accepted ∧
    (t.judge deadline receiveDeadline p intake).progress.seen = intake.seen := by
  unfold judge
  simp only
  repeat' split
  all_goals exact ⟨rfl, rfl, rfl⟩

/-- One turn of the loop. -/
theorem Guards.turn (guards : t.Guards Inv) (deadline : Instant) (turn : Turn) (p : Progress)
    {s : σ} (held : Inv s p.seen.length) :
    let r := t.turn deadline turn p s
    Inv r.state r.progress.seen.length ∧ t.lastInbound r.state = t.lastInbound s ∧
      Noted (t.lastInbound s) p.seen r.accepted r.progress.seen := by
  have polled := guards.poll deadline turn p held
  unfold Transport.turn
  simp only at polled ⊢
  split
  · rename_i q after shape
    rw [shape] at polled
    obtain ⟨seen, kept, last⟩ := polled
    exact ⟨seen ▸ kept, last, seen ▸ .nothing _ _⟩
  · rename_i error after shape
    rw [shape] at polled
    exact ⟨polled.1, polled.2, .nothing _ _⟩
  · rename_i q after shape
    rw [shape] at polled
    obtain ⟨seen, kept, last⟩ := polled
    obtain ⟨state, accepted, noted⟩ := t.judge_keeps deadline (min (q.nextProbe.getD deadline) deadline)
      q (t.receiveOne after (min (q.nextProbe.getD deadline) deadline) turn q.unrelated q.seen)
    have received := guards.receive after (min (q.nextProbe.getD deadline) deadline) turn q.unrelated
      q.seen (seen ▸ kept)
    simp only at received
    rw [state, accepted, noted, ← seen, ← last]
    exact received

/-- The whole loop: what it accepts is new, above the mark, and noted. -/
theorem Guards.loop (guards : t.Guards Inv) (deadline : Instant) (turns : List Turn) (p : Progress)
    {s : σ} (held : Inv s p.seen.length) (once : p.seen.Nodup) :
    let r := t.loop deadline turns p s
    Inv r.state r.seen.length ∧ t.lastInbound r.state = t.lastInbound s ∧
      r.seen = p.seen ++ r.accepted ∧ r.seen.Nodup ∧
      ∀ sequence ∈ r.accepted, sequence ≠ 0 ∧ ∀ mark, t.lastInbound s = some mark → mark < sequence := by
  induction turns generalizing p s with
  | nil => exact ⟨held, rfl, by simp [Transport.loop], once, by simp [Transport.loop]⟩
  | cons turn turns ih =>
    obtain ⟨kept, last, fresh, noted⟩ := guards.turn deadline turn p held
    have new : (t.turn deadline turn p s).progress.seen.Nodup := by
      rw [noted]
      cases taken : (t.turn deadline turn p s).accepted with
      | none => simpa using once
      | some sequence =>
        have unseen := (fresh sequence taken).unseen
        simp only [Option.toList_some, List.nodup_append, List.nodup_singleton, List.mem_singleton]
        exact ⟨once, trivial, fun value held other same equal => unseen (same ▸ equal ▸ held)⟩
    have taken : ∀ sequence ∈ (t.turn deadline turn p s).accepted.toList, sequence ≠ 0 ∧
        ∀ mark, t.lastInbound s = some mark → mark < sequence := by
      intro sequence member
      have fresh := fresh sequence (Option.mem_toList.mp member)
      exact ⟨fresh.nonzero, fresh.above⟩
    simp only [Transport.loop]
    split
    · exact ⟨kept, last, noted, new, taken⟩
    · obtain ⟨restKept, restLast, restNoted, restOnce, restTaken⟩ := ih _ kept new
      refine ⟨restKept, restLast.trans last, ?_, restOnce, ?_⟩
      · simp [restNoted, noted]
      · intro sequence member
        rcases List.mem_append.mp member with member | member
        · exact taken sequence member
        · exact last ▸ restTaken sequence member

theorem Guards.commit (guards : t.Guards Inv) {s : σ} {n : Nat} (held : Inv s n)
    (seen : List UInt32) :
    Inv (t.commit s seen) n ∧ t.lastInbound (t.commit s seen) = raise (t.lastInbound s) seen := by
  unfold Transport.commit raise
  cases seen.max? with
  | none => exact ⟨held, rfl⟩
  | some highest => exact guards.commits s n _ held

/-- A call of `recv` advances the mark, which is committed when it returns. -/
theorem Guards.recv (guards : t.Guards Inv) (turns : List Turn) {s : σ} (held : Inv s 0) :
    let call := t.recv s turns
    (∀ sequence ∈ call.accepted, sequence ≠ 0) ∧
    ∃ next, Advance (t.lastInbound s) call.accepted next ∧
      (call.result.isSome → Inv call.state 0 ∧ t.lastInbound call.state = next) := by
  unfold Transport.recv
  simp only
  split
  · exact ⟨by simp, t.lastInbound s, .nil _, fun _ => ⟨held, rfl⟩⟩
  · rename_i pending _
    obtain ⟨kept, last, noted, once, taken⟩ :=
      guards.loop pending.deadline turns .start held (by simp [Progress.start])
    generalize t.loop pending.deadline turns .start s = r at kept last noted once taken
    have same : r.seen = r.accepted := by simpa [Progress.start] using noted
    have advance : Advance (t.lastInbound s) r.accepted (raise (t.lastInbound s) r.accepted) :=
      ⟨fun sequence member => (taken sequence member).2, same ▸ once, rfl⟩
    split
    · exact ⟨fun sequence member => (taken sequence member).1, _, advance, by simp⟩
    · obtain ⟨committed, mark⟩ := guards.commit kept r.seen
      obtain ⟨ready, unmoved⟩ := guards.retires _ _ committed
      refine ⟨fun sequence member => (taken sequence member).1, _, advance, fun _ => ⟨ready, ?_⟩⟩
      rw [unmoved, mark, last, same]

end Transport

/-! ### RMCP+ -/

namespace V2State
variable (provider : CryptoProvider)

@[simp] theorem sendPayload_last (s : V2State) (payload : List UInt8) (deadline : Instant)
    (sending : Sending) :
    (s.sendPayload provider payload deadline sending).2.lastInboundSequence =
      s.lastInboundSequence := by
  obtain ⟨sequence, same⟩ := sendPayload_frame provider s payload deadline sending
  rw [same]

@[simp] theorem sendSolFrame_last (s : V2State) (frame : SolFrame) (deadline : Instant)
    (sending : Sending) :
    (s.sendSolFrame provider frame deadline sending).2.lastInboundSequence =
      s.lastInboundSequence := by
  obtain ⟨sequence, same⟩ := sendSolFrame_frame provider s frame deadline sending
  rw [same]

@[simp] theorem send_last (s : V2State) (request : Request) (deadline : Instant)
    (checked sending : Sending) :
    (s.send provider request deadline checked sending).2.lastInboundSequence =
      s.lastInboundSequence := by
  unfold send
  split
  · rfl
  · rfl
  · split
    · rfl
    · rename_i payload ipmbState _
      have sent := sendPayload_last provider { s with ipmbState } payload deadline sending
      split
      · rename_i failed
        simpa [failed] using sent
      · rename_i delivered
        simpa [delivered] using sent

theorem receiveSol_last (s : V2State) (flow : SolFlow) (payload : List UInt8) (deadline : Instant)
    (acking : Sending) :
    (s.receiveSol provider flow payload deadline acking).2.lastInboundSequence =
      s.lastInboundSequence := by
  cases decoded : SolFrame.decode payload with
  | error error => rw [receiveSol_refused provider s flow decoded]
  | ok frame =>
    obtain ⟨sequence, same⟩ := receiveSol_frame provider s flow decoded deadline acking
    rw [same]

theorem fresh_of_not_stale {last : Option UInt32} {seen : List UInt32} {sequence : UInt32}
    (current : ¬ staleSequence last seen sequence = true) : Fresh last seen sequence := by
  simp only [staleSequence, Bool.or_eq_true, beq_iff_eq, Option.any_eq_true, decide_eq_true_eq,
    List.contains_iff_mem, not_or, not_exists, not_and] at current
  obtain ⟨⟨nonzero, above⟩, unseen⟩ := current
  exact ⟨nonzero, fun mark marked => Std.not_le.mp (above mark marked), unseen⟩

/-- One reception: what it accepts is fresh and noted at once. -/
theorem receiveOne_noted (s : V2State) (deadline : Instant) (turn : Turn) (unrelated : Nat)
    (seen : List UInt32) :
    let intake := s.receiveOne provider deadline turn unrelated seen
    intake.state.lastInboundSequence = s.lastInboundSequence ∧
      Noted s.lastInboundSequence seen intake.accepted intake.seen := by
  have noted {sequence : UInt32} (current : ¬ staleSequence s.lastInboundSequence seen sequence = true) :
      Noted s.lastInboundSequence seen (some sequence) (seen ++ [sequence]) := by
    refine ⟨fun found same => ?_, rfl⟩
    cases same
    exact fresh_of_not_stale current
  have shape := receiveOne_cases provider s deadline turn unrelated seen
  generalize s.receiveOne provider deadline turn unrelated seen = intake at shape ⊢
  generalize turn.arrivals.recv unrelated = arrived at shape
  cases shape with
  | unread | refused | unanswered => exact ⟨rfl, .nothing _ _⟩
  | accepted data count sequence payload response ipmbState current room received =>
    exact ⟨rfl, noted current⟩
  | console data count sequence payload flow current room opened =>
    exact ⟨receiveSol_last provider s flow payload deadline turn.acking, noted current⟩

theorem guards : (transport provider).Guards fun _ _ => True where
  setIpmb _ _ _ _ _ := ⟨trivial, rfl⟩
  send s _ payload deadline sending _ := ⟨trivial, sendPayload_last provider s payload deadline sending⟩
  receive s deadline turn unrelated seen _ :=
    ⟨trivial, receiveOne_noted provider s deadline turn unrelated seen⟩
  commits _ _ _ _ := ⟨trivial, rfl⟩
  retires _ _ _ := ⟨trivial, rfl⟩

/-- `poll_sol` commits every packet before the next one is received. -/
theorem pollSol_advances (deadline : Instant) (waitAck : Bool) (turns : List Turn) (unrelated : Nat)
    (s : V2State) :
    let call := pollSol provider deadline waitAck turns unrelated s
    (∀ sequence ∈ call.accepted, sequence ≠ 0) ∧
    Advance s.lastInboundSequence call.accepted call.state.lastInboundSequence := by
  induction turns generalizing unrelated s with
  | nil => exact ⟨by simp [pollSol], .nil _⟩
  | cons turn turns ih =>
    obtain ⟨last, fresh, noted⟩ := receiveOne_noted provider s deadline turn unrelated []
    generalize received : s.receiveOne provider deadline turn unrelated [] = intake at last fresh noted
    have committed : ((transport provider).commit intake.state intake.seen).lastInboundSequence =
        raise s.lastInboundSequence intake.accepted.toList := by
      obtain ⟨-, commits⟩ := (guards provider).commit (s := intake.state) (n := 0) trivial intake.seen
      rw [noted] at commits ⊢
      exact commits.trans (congrArg (raise · _) last)
    have first : (∀ sequence ∈ intake.accepted.toList, sequence ≠ 0) ∧
        Advance s.lastInboundSequence intake.accepted.toList
          ((transport provider).commit intake.state intake.seen).lastInboundSequence := by
      refine ⟨fun sequence member => ?_, fun sequence member => ?_, ?_, committed⟩
      · exact (fresh sequence (Option.mem_toList.mp member)).nonzero
      · exact (fresh sequence (Option.mem_toList.mp member)).above
      · cases intake.accepted <;> simp
    unfold pollSol
    simp only [received]
    split
    · exact first
    · exact first
    · split
      · exact first
      · split
        · exact first
        · split
          · exact first
          · obtain ⟨nonzero, advance⟩ := ih _ ((transport provider).commit intake.state intake.seen)
            refine ⟨fun sequence member => ?_, first.2.trans advance⟩
            rcases List.mem_append.mp member with member | member
            · exact first.1 sequence member
            · exact nonzero sequence member

end V2State

/-! ### IPMI 1.5 -/

namespace V1State
variable (digests : Digests)

/-- A session whose activation has completed. -/
structure Activated (s : V1State) : Prop where
  activated : s.activated = true
  session : s.sessionId.isSome = true

/-- An activated session with room for what a call may still accept, after the
packets it has noted. -/
def Guard (s : V1State) (noted : Nat) : Prop := s.Activated ∧ noted + s.ipmbState.room ≤ 69

/-- Sending uses up a session sequence number and touches nothing else. -/
theorem sendPayload_frame (s : V1State) (payload : List UInt8) (deadline : Instant)
    (sending : Sending) :
    ∃ sequence, (s.sendPayload digests payload deadline sending).2 =
      { s with sessionSequence := sequence } := by
  unfold sendPayload
  split
  · exact ⟨_, rfl⟩
  · split <;> exact ⟨_, rfl⟩

theorem send_frame (s : V1State) (request : Request) (deadline : Instant) (checked sending : Sending) :
    ∃ sequence ipmbState, (s.send digests request deadline checked sending).2 =
      { s with sessionSequence := sequence, ipmbState := ipmbState } := by
  unfold send
  split
  · exact ⟨_, _, rfl⟩
  split
  · exact ⟨_, _, rfl⟩
  split
  · exact ⟨_, _, rfl⟩
  · rename_i payload ipmbState _
    obtain ⟨sequence, sent⟩ := sendPayload_frame digests { s with ipmbState } payload deadline sending
    split
    · rename_i error after failed
      rw [failed] at sent
      obtain rfl : after = _ := sent
      exact ⟨sequence, _, rfl⟩
    · rename_i delivered
      rw [delivered] at sent
      exact ⟨sequence, _, sent⟩

/-- What an activated session does not refuse carries a fresh sequence number. -/
theorem fresh_of_not_refused {s : V1State} (active : s.Activated) {seen : List UInt32}
    {message : V1Message} (taken : s.refused seen message = none) :
    Fresh s.lastInboundSequence seen message.sessionSequenceNumber := by
  obtain ⟨sessionId, known⟩ := Option.isSome_iff_exists.mp active.session
  unfold refused at taken
  simp only [known, active.activated, true_and] at taken
  split at taken
  · cases taken
  split at taken
  · cases taken
  rename_i current
  simp only [Option.any_eq_true, decide_eq_true_eq, not_or, not_exists, not_and] at current
  exact ⟨current.1, fun mark marked => Std.not_le.mp (current.2.1 mark marked), current.2.2⟩

/-- One reception: there always is room to note what was accepted. -/
theorem receiveOne_noted {s : V1State} {seen : List UInt32} (guard : s.Guard seen.length)
    (deadline : Instant) (turn : Turn) (unrelated : Nat) :
    let intake := s.receiveOne digests deadline turn unrelated seen
    intake.state.Guard intake.seen.length ∧
      intake.state.lastInboundSequence = s.lastInboundSequence ∧
      Noted s.lastInboundSequence seen intake.accepted intake.seen := by
  obtain ⟨active, room⟩ := guard
  have shape := receiveOne_cases digests s deadline turn unrelated seen
  generalize s.receiveOne digests deadline turn unrelated seen = intake at shape ⊢
  generalize turn.arrivals.recv unrelated = arrived at shape
  cases shape with
  | unread | refused => exact ⟨⟨active, room⟩, rfl, .nothing _ _⟩
  | unanswered data count payload error ipmbState received =>
    obtain ⟨less, -⟩ := s.ipmbState.receive_room payload
    rw [received] at less
    exact ⟨⟨⟨active.activated, active.session⟩, Nat.le_trans (Nat.add_le_add_left less _) room⟩,
      rfl, .nothing _ _⟩
  | inactive data count sequence payload response ipmbState pending received =>
    rw [active.activated] at pending
    cases pending
  | full data count message response ipmbState taken filled received =>
    unfold MAX_UNRELATED at filled
    omega
  | accepted data count message response ipmbState taken received =>
    obtain ⟨-, spent⟩ := s.ipmbState.receive_room message.payload
    rw [received] at spent
    have spent : ipmbState.room < s.ipmbState.room := spent response rfl
    refine ⟨⟨⟨active.activated, active.session⟩, ?_⟩, rfl, fun sequence same => ?_, rfl⟩
    · simp only [List.length_append, List.length_singleton]
      omega
    · cases same
      exact fresh_of_not_refused active taken

theorem guards : (transport digests).Guards Guard where
  setIpmb _ _ _ held room :=
    ⟨⟨⟨held.1.activated, held.1.session⟩, Nat.le_trans (Nat.add_le_add_left room _) held.2⟩, rfl⟩
  send s n payload deadline sending held := by
    obtain ⟨sequence, sent⟩ := sendPayload_frame digests s payload deadline sending
    have same : ((transport digests).sendPayload s payload deadline sending).2 =
        { s with sessionSequence := sequence } := sent
    rw [same]
    exact ⟨⟨⟨held.1.activated, held.1.session⟩, held.2⟩, rfl⟩
  receive s deadline turn unrelated seen held :=
    receiveOne_noted digests held deadline turn unrelated
  commits _ _ _ held := ⟨⟨⟨held.1.activated, held.1.session⟩, held.2⟩, rfl⟩
  retires s n held :=
    ⟨⟨⟨held.1.activated, held.1.session⟩, by rw [Nat.zero_add]; exact IpmbState.room_le _⟩, rfl⟩

end V1State

/-! ### Whole sessions -/

/-- What the owner of an RMCP+ session does with it. The SOL session reads and
changes its flow control in place. -/
inductive V2Op where
  | send (request : Request) (deadline : Instant) (checked sending : Sending)
  | recv (turns : List Turn)
  | pollSol (deadline : Instant) (waitAck : Bool) (turns : List Turn)
  | sendSolFrame (frame : SolFrame) (deadline : Instant) (sending : Sending)
  | solOpen
  | solLimits (input output : UInt16)
  | solFlow (change : SolFlow → SolFlow)
  | solClose
  | reserveSequences (minimum : Nat)
  | releaseSequences

inductive V1Op where
  | send (request : Request) (deadline : Instant) (checked sending : Sending)
  | recv (turns : List Turn)
  | reserveSequences (minimum : Nat)
  | releaseSequences

/-- What one operation returned, if it did, and which session sequence numbers
it accepted. -/
inductive Outcome where
  | sent (result : Except RmcpIpmiError (List UInt8))
  | received (result : Option (Except RmcpIpmiReceiveError Response)) (accepted : List UInt32)
  | polled (result : Option V2State.SolPoll) (accepted : List UInt32)
  | reserved (granted : Bool)
  | done

def Outcome.accepted : Outcome → List UInt32
  | .received _ accepted | .polled _ accepted => accepted
  | _ => []

/-- The session after a call, which is not to be had before it returns. -/
def Call.after {σ ρ : Type} (call : Call σ ρ) : Option σ := call.result.map fun _ => call.state

/-- The session after a call of `poll_sol`, which is not to be had after a panic either. -/
def Call.solPolled {σ : Type} (call : Call σ V2State.SolPoll) : Option σ :=
  match call.result with
  | some (.returned _) => some call.state
  | _ => none

theorem Call.solPolled_eq_some {σ : Type} {call : Call σ V2State.SolPoll} {s : σ} (held : call.solPolled = some s) :
    call.state = s := by
  unfold Call.solPolled at held
  split at held
  · exact Option.some.inj held
  · cases held

/-- One operation on an RMCP+ session. While a call has not returned there is
no session to operate on. -/
def V2State.step (provider : CryptoProvider) : Option V2State → V2Op → Outcome × Option V2State
  | none, _ => (.done, none)
  | some s, .send request deadline checked sending =>
    (s.send provider request deadline checked sending).map .sent some
  | some s, .recv turns =>
    let call := s.recv provider turns
    (.received call.result call.accepted, call.after)
  | some s, .pollSol deadline waitAck turns =>
    let call := pollSol provider deadline waitAck turns 0 s
    (.polled call.result call.accepted, call.solPolled)
  | some s, .sendSolFrame frame deadline sending =>
    (s.sendSolFrame provider frame deadline sending).map .sent some
  | some s, .solOpen => (.done, some s.solOpen)
  | some s, .solLimits input output => (.done, some (s.solLimits input output))
  | some s, .solFlow change => (.done, some { s with sol := s.sol.map change })
  | some s, .solClose => (.done, some s.solClose)
  | some s, .reserveSequences minimum =>
    (s.ipmbState.reserveSequences minimum).map .reserved fun ipmbState => some { s with ipmbState }
  | some s, .releaseSequences => (.done, some { s with ipmbState := s.ipmbState.releaseSequences })

/-- One operation on an IPMI 1.5 session. -/
def V1State.step (digests : Digests) : Option V1State → V1Op → Outcome × Option V1State
  | none, _ => (.done, none)
  | some s, .send request deadline checked sending =>
    (s.send digests request deadline checked sending).map (.sent ∘ (·.mapError (·.intoOperationError)))
      some
  | some s, .recv turns =>
    let call := s.recv digests turns
    (.received call.result call.accepted, call.after)
  | some s, .reserveSequences minimum =>
    (s.ipmbState.reserveSequences minimum).map .reserved fun ipmbState => some { s with ipmbState }
  | some s, .releaseSequences => (.done, some { s with ipmbState := s.ipmbState.releaseSequences })

/-- An RMCP+ session stands at the mark it committed. -/
def V2State.Marked (s : Option V2State) (mark : Option UInt32) : Prop :=
  ∀ session, s = some session → session.lastInboundSequence = mark

/-- An IPMI 1.5 session stands at the mark it committed, and stays activated. -/
def V1State.Marked (s : Option V1State) (mark : Option UInt32) : Prop :=
  ∀ session, s = some session → session.Activated ∧ session.lastInboundSequence = mark

theorem V2State.step_advances (provider : CryptoProvider) (s : Option V2State) (op : V2Op)
    (mark : Option UInt32) (marked : Marked s mark) :
    (∀ sequence ∈ (step provider s op).1.accepted, sequence ≠ 0) ∧
    ∃ next, Marked (step provider s op).2 next ∧
      Advance mark (step provider s op).1.accepted next := by
  cases s with
  | none => exact ⟨by simp [step, Outcome.accepted], mark, by simp [Marked, step], .nil _⟩
  | some s =>
    obtain rfl := marked s rfl
    have unmoved (out : Outcome) (after : V2State) (quiet : out.accepted = [])
        (same : after.lastInboundSequence = s.lastInboundSequence) :
        (∀ sequence ∈ out.accepted, sequence ≠ 0) ∧
        ∃ next, Marked (some after) next ∧ Advance s.lastInboundSequence out.accepted next := by
      rw [quiet]
      exact ⟨by simp, _, fun _ held => Option.some.inj held ▸ same, .nil _⟩
    cases op with
    | send request deadline checked sending =>
      exact unmoved _ _ rfl (send_last provider s request deadline checked sending)
    | recv turns =>
      obtain ⟨nonzero, next, advance, committed⟩ := (guards provider).recv turns (s := s) trivial
      refine ⟨nonzero, next, fun session held => ?_, advance⟩
      obtain ⟨result, returned, rfl⟩ := Option.map_eq_some_iff.mp held
      exact (committed (Option.isSome_of_eq_some returned)).2
    | pollSol deadline waitAck turns =>
      obtain ⟨nonzero, advance⟩ := pollSol_advances provider deadline waitAck turns 0 s
      refine ⟨nonzero, _, fun session held => ?_, advance⟩
      obtain rfl := Call.solPolled_eq_some held
      rfl
    | sendSolFrame frame deadline sending =>
      exact unmoved _ _ rfl (sendSolFrame_last provider s frame deadline sending)
    | reserveSequences minimum => exact unmoved _ _ rfl rfl
    | solOpen | solLimits | solFlow | solClose | releaseSequences => exact unmoved _ _ rfl rfl

theorem V1State.step_advances (digests : Digests) (s : Option V1State) (op : V1Op)
    (mark : Option UInt32) (marked : Marked s mark) :
    (∀ sequence ∈ (step digests s op).1.accepted, sequence ≠ 0) ∧
    ∃ next, Marked (step digests s op).2 next ∧
      Advance mark (step digests s op).1.accepted next := by
  cases s with
  | none => exact ⟨by simp [step, Outcome.accepted], mark, by simp [Marked, step], .nil _⟩
  | some s =>
    obtain ⟨active, rfl⟩ := marked s rfl
    have unmoved (out : Outcome) (after : V1State) (quiet : out.accepted = [])
        (same : after.Activated ∧ after.lastInboundSequence = s.lastInboundSequence) :
        (∀ sequence ∈ out.accepted, sequence ≠ 0) ∧
        ∃ next, Marked (some after) next ∧ Advance s.lastInboundSequence out.accepted next := by
      rw [quiet]
      exact ⟨by simp, _, fun _ held => Option.some.inj held ▸ same, .nil _⟩
    cases op with
    | send request deadline checked sending =>
      obtain ⟨sequence, ipmbState, sent⟩ := send_frame digests s request deadline checked sending
      have kept : (s.send digests request deadline checked sending).2.Activated ∧
          (s.send digests request deadline checked sending).2.lastInboundSequence =
            s.lastInboundSequence := by
        rw [sent]
        exact ⟨⟨active.activated, active.session⟩, rfl⟩
      exact unmoved _ _ rfl kept
    | recv turns =>
      have guard : s.Guard 0 := ⟨active, by rw [Nat.zero_add]; exact IpmbState.room_le _⟩
      obtain ⟨nonzero, next, advance, committed⟩ := (guards digests).recv turns guard
      refine ⟨nonzero, next, fun session held => ?_, advance⟩
      obtain ⟨result, returned, rfl⟩ := Option.map_eq_some_iff.mp held
      obtain ⟨ready, mark⟩ := committed (Option.isSome_of_eq_some returned)
      exact ⟨ready.1, mark⟩
    | reserveSequences minimum =>
      exact unmoved _ _ rfl ⟨⟨active.activated, active.session⟩, rfl⟩
    | releaseSequences => exact unmoved _ _ rfl ⟨⟨active.activated, active.session⟩, rfl⟩

/-- What replay protection means for the runs of a session: over any run no
sequence number is accepted twice, zero never is, later calls accept only
greater ones than earlier calls did, and between calls the committed last
sequence is the maximum of all accepted and never went down. -/
structure ReplayProtected {σ ι : Type} (step : Option σ → ι → Outcome × Option σ)
    (last : σ → Option UInt32) (start : σ) : Prop where
  once : ∀ ops, (takenBy step Outcome.accepted (some start) ops).Nodup
  nonzero : ∀ ops, ∀ sequence ∈ takenBy step Outcome.accepted (some start) ops, sequence ≠ 0
  increasing : ∀ earlier later,
    ∀ old ∈ takenBy step Outcome.accepted (some start) earlier,
    ∀ new ∈ takenBy step Outcome.accepted (after step (some start) earlier) later, old < new
  committed : ∀ ops s, after step (some start) ops = some s →
    last s = (takenBy step Outcome.accepted (some start) ops).max?
  monotone : ∀ earlier later s t, after step (some start) earlier = some s →
    after step (some start) (earlier ++ later) = some t →
    ∀ low, last s = some low → ∃ high, last t = some high ∧ low ≤ high

theorem ReplayProtected.of_guarded {σ ι : Type} {step : Option σ → ι → Outcome × Option σ}
    {last : σ → Option UInt32} {start : σ} {Marked : Option σ → Option UInt32 → Prop}
    (advances : ∀ s op mark, Marked s mark →
      (∀ sequence ∈ (step s op).1.accepted, sequence ≠ 0) ∧
      ∃ next, Marked (step s op).2 next ∧ Advance mark (step s op).1.accepted next)
    (marks : ∀ s mark, Marked (some s) mark → last s = mark)
    (unused : Marked (some start) none) : ReplayProtected step last start := by
  have guarded : Guarded step Outcome.accepted Marked :=
    ⟨fun s op mark marked => (advances s op mark marked).2⟩
  constructor
  · intro ops
    obtain ⟨next, -, advance⟩ := guarded.run ops unused
    exact advance.once
  · intro ops
    exact guarded.forall_taken (fun s op mark marked => (advances s op mark marked).1) ops unused
  · intro earlier later old before new held
    obtain ⟨middle, final, first, -, second, -⟩ := guarded.run_append earlier later unused
    exact first.lt_of_earlier second old before new held
  · intro ops s reached
    obtain ⟨next, marked, advance⟩ := guarded.run ops unused
    rw [marks s next (reached ▸ marked), advance.raised, raise, Option.or_none]
  · intro earlier later s t reached ended low marked
    obtain ⟨middle, final, -, between, second, final'⟩ := guarded.run_append earlier later unused
    have middle_eq := marks s middle (reached ▸ between)
    have final_eq := marks t final (ended ▸ final')
    rw [final_eq]
    exact second.mark_le low (middle_eq ▸ marked)

/-- Anti-replay. From activation on, whatever datagrams arrive in whatever
calls and whatever fails in between, an RMCP+ session and an authenticated
IPMI 1.5 session accept every inbound sequence number at most once. -/
theorem inbound_sequences_accepted_once (provider : CryptoProvider) (digests : Digests) :
    (∀ start : V2State, start.lastInboundSequence = none →
      ReplayProtected (V2State.step provider) V2State.lastInboundSequence start) ∧
    (∀ start : V1State, start.Activated → start.lastInboundSequence = none →
      ReplayProtected (V1State.step digests) V1State.lastInboundSequence start) := by
  constructor
  · intro start unused
    refine .of_guarded (V2State.step_advances provider) (fun s mark marked => marked s rfl) ?_
    exact fun session held => Option.some.inj held ▸ unused
  · intro start active unused
    refine .of_guarded (V1State.step_advances digests) (fun s mark marked => (marked s rfl).2) ?_
    exact fun session held => Option.some.inj held ▸ ⟨active, unused⟩

/-- A session keyed by its password gets an answer twice: the copy is dropped,
and the next answer is accepted. -/
theorem inbound_sequences_accepted_once_replayed :
    let password : Password := .replicate 16 9
    let keyed : V1State := { V1State.new with
      sessionId := some ⟨0x1234, by decide⟩, authType := .key, password := some password
      sessionSequence := 1, activated := true }
    let plus : V2State :=
      ⟨⟨0x5678, by decide⟩, ⟨1, by decide⟩, ⟨0x1234, by decide⟩, none, ⟨[], none, .empty⟩, .default, none⟩
    let digests : Digests := ⟨fun _ => .replicate 16 0, none⟩
    let sending : Sending := ⟨false, 0, none, true⟩
    let answer (sequence : UInt8) (reply : List UInt8) : Turn :=
      ⟨0, 0, sending, ⟨[[6, 0, 0xff, 7, 4, sequence, 0, 0, 0, 0x34, 0x12, 0, 0] ++ password.toList ++
        [8, 0x81, 0x1c, 0x63, 0x20] ++ reply], .timeout⟩, sending⟩
    let send : V1Op := .send ⟨.bmc .zero, ⟨6, 1, []⟩⟩ 1000 sending sending
    let ops : List V1Op := [send, .recv [answer 5 [0, 1, 0, 0xdf]],
      send, .recv [answer 5 [0, 1, 0, 0xdf], answer 6 [4, 1, 0, 0xdb]]]
    takenBy (V1State.step digests) Outcome.accepted (some keyed) ops = [5, 6] ∧
    ReplayProtected (V2State.step (.recorded [] [] [])) V2State.lastInboundSequence plus ∧
    ReplayProtected (V1State.step digests) V1State.lastInboundSequence keyed :=
  ⟨by decide +kernel,
    (inbound_sequences_accepted_once _ ⟨fun _ => .replicate 16 0, none⟩).1 _ rfl,
    (inbound_sequences_accepted_once (.recorded [] [] []) _).2 _ ⟨rfl, rfl⟩ rfl⟩

end IpmiRs.Rmcp
