import IpmiRs.Rmcp.IpmbSoundness

/-! A reply that overtakes its acknowledgements is stored until they arrive.
It is released by an acknowledgement with an empty body; one with a body is
recorded before the body is looked at, and every way out of the body other
than the reply itself leaves the stored reply behind. -/
namespace IpmiRs.Rmcp
open Connection Library.Runs

/-- A reply is stored although nothing is left to wait for. -/
def IpmbState.stranded (s : IpmbState) : Bool :=
  s.pending.any fun p => p.deferred.isSome && p.allAcked

namespace PendingRequest

/-- A packet that leads on to one nested inside: the reply to the outstanding
Get Message with a packet in its queue, or the first successful
acknowledgement of a hop, with a body. -/
inductive Opens (p : PendingRequest) (data : List UInt8) : PendingRequest → List UInt8 → Prop
  | fetched (reply : ExpectedReply) (response : Response) (packet : List UInt8)
      (asked : p.poll = some reply) (answers : correlate data reply = .ok response)
      (complete : response.cc = 0) (fetch : reply.cmd ≠ GET_MESSAGE_FLAGS)
      (long : 8 ≤ response.data.length) (channel : response.data[0]! = p.queueChannel)
      (queued : queuedPacket (response.data.drop 1) = some packet) :
      Opens p data { p with poll := none, queueAvailable := false } packet
  | acked (hop : Fin 2) (reply : ExpectedReply) (response : Response)
      (unpolled : matching data p.poll = none)
      (first : hop = 1 → matching data (getElem p.sendAcks 0 Nat.two_pos) = none)
      (expected : getElem p.sendAcks hop (hop_lt hop) = some reply) (answers : correlate data reply = .ok response)
      (fresh : getElem p.acked hop (hop_lt hop) = false) (complete : response.cc = 0) (body : response.data ≠ []) :
      Opens p data { p with acked := p.acked.set hop true (hop_lt hop) } response.data

/-- The packet, or one nested in it within `left` levels, is the final reply. -/
inductive YieldsFinal : Nat → PendingRequest → List UInt8 → Prop
  | here {left : Nat} {p : PendingRequest} {data : List UInt8} (response : Response)
      (unpolled : matching data p.poll = none)
      (unacked : ∀ hop : Fin 2, matching data (getElem p.sendAcks hop (hop_lt hop)) = none)
      (answers : correlate data p.finalReply = .ok response) : YieldsFinal (left + 1) p data
  | inside {left : Nat} {p q : PendingRequest} {data packet : List UInt8}
      (opens : Opens p data q packet) (final : YieldsFinal left q packet) :
      YieldsFinal (left + 1) p data

/-- The packet, or one nested in it, acknowledges the last outstanding hop
with a body that does not yield the final reply. -/
inductive Strands : Nat → PendingRequest → List UInt8 → Prop
  | lost {left : Nat} {p q : PendingRequest} {data packet : List UInt8}
      (opens : Opens p data q packet) (last : q.allAcked = true)
      (missing : ¬ YieldsFinal left q packet) : Strands (left + 1) p data
  | inside {left : Nat} {p q : PendingRequest} {data packet : List UInt8}
      (opens : Opens p data q packet) (waiting : q.allAcked = false) (strands : Strands left q packet) :
      Strands (left + 1) p data

variable {p q : PendingRequest} {data packet : List UInt8} {supported believed : Bool}

/-- Exactly the packets that lead on are followed, and what following one
changes is given by how it leads on. -/
theorem receiveLayer_nested_iff (supported : Bool) :
    (∃ believed, p.receiveLayer data supported = ⟨.nested packet, q, believed⟩) ↔
      Opens p data q packet := by
  constructor
  · rintro ⟨believed, shape⟩
    have outcome := p.receiveLayer_cases data supported
    rw [shape] at outcome
    generalize met : (⟨.nested packet, q, believed⟩ : Received Layer) = r at outcome
    cases outcome with
    | poll reply response asked answers =>
      obtain ⟨available, now, layer, polled, rest⟩ := p.receivePoll_cases reply response supported
      rw [polled, Received.mk.injEq] at met
      obtain ⟨rfl, rfl, rfl⟩ := met
      rcases rest with ⟨result, absurd, -⟩ | ⟨inner, same, -, rfl, complete, fetch, long, channel, queued⟩
      · cases absurd
      · obtain rfl := Layer.nested.inj same
        exact .fetched reply response packet asked answers complete fetch long channel queued
    | ack hop reply response unpolled expected answers first =>
      have acked := p.receiveAck_cases hop response supported
      rw [← met] at acked
      cases acked with
      | opened fresh complete body =>
        exact .acked hop reply response unpolled first expected answers fresh complete body
    | final unpolled unacked =>
      have final := p.receiveFinal_cases data supported
      rw [← met] at final
      cases final
  · intro opens
    refine ⟨supported, ?_⟩
    cases opens with
    | fetched reply response packet asked answers complete fetch long channel queued =>
      rw [receiveLayer_poll asked answers]
      rw [List.drop_one] at queued
      simp [receivePoll, complete, fetch, Nat.not_lt.mpr long, channel, queued]
    | acked hop reply response unpolled first expected answers fresh complete body =>
      rw [receiveLayer_ack hop unpolled first expected answers]
      simp [receiveAck, fresh, complete, body]

/-- Leading on neither releases the stored reply nor changes the request. -/
theorem Opens.frame (opens : Opens p data q packet) :
    q.deferred = p.deferred ∧ q.sendAcks = p.sendAcks := by
  cases opens <;> exact ⟨rfl, rfl⟩

theorem Opens.allAcked (opens : Opens p data q packet) (complete : p.allAcked = true) :
    q.allAcked = true := by
  cases opens with
  | fetched => exact complete
  | acked hop reply response unpolled first expected answers fresh =>
    rw [(p.allAcked_iff.mp complete hop reply expected)] at fresh
    cases fresh

/-- A packet leads on in only one way. -/
theorem Opens.unique {q' : PendingRequest} {packet' : List UInt8} (first : Opens p data q packet)
    (second : Opens p data q' packet') : q' = q ∧ packet' = packet := by
  obtain ⟨now, shape⟩ := (receiveLayer_nested_iff true).mpr first
  obtain ⟨later, same⟩ := (receiveLayer_nested_iff true).mpr second
  rw [shape, Received.mk.injEq, Layer.nested.injEq] at same
  exact ⟨same.2.1.symm, same.1.symm⟩

/-- A layer that returns does not lead on. -/
theorem Opens.absurd {result : Except RmcpIpmiReceiveError (Option Response)}
    {q' : PendingRequest} (opens : Opens p data q packet)
    (shape : p.receiveLayer data supported = ⟨.done result, q', believed⟩) : False := by
  obtain ⟨now, nested⟩ := (receiveLayer_nested_iff supported).mpr opens
  rw [shape] at nested
  cases nested

/-- With every hop acknowledged, a layer returns the final reply or nothing. -/
theorem receiveLayer_complete {result : Except RmcpIpmiReceiveError (Option Response)}
    (shape : p.receiveLayer data supported = ⟨.done result, q, believed⟩)
    (complete : p.allAcked = true) (left : Nat) :
    q.allAcked = true ∧ q.deferred = p.deferred ∧
    ((∃ response, result = .ok (some response)) ↔ YieldsFinal (left + 1) p data) := by
  have outcome := p.receiveLayer_cases data supported
  rw [shape] at outcome
  generalize met : (⟨.done result, q, believed⟩ : Received Layer) = r at outcome
  cases outcome with
  | poll reply response asked answers =>
    obtain ⟨available, now, layer, polled, rest⟩ := p.receivePoll_cases reply response supported
    rw [polled, Received.mk.injEq] at met
    obtain ⟨rfl, rfl, rfl⟩ := met
    refine ⟨complete, rfl, ?_, ?_⟩
    · rintro ⟨final, rfl⟩
      rcases rest with ⟨result, same, never⟩ | ⟨inner, same, -⟩
      · exact False.elim (never final (Layer.done.inj same).symm)
      · cases same
    · intro final
      cases final with
      | here _ unpolled =>
        rw [matching_eq_some.mpr ⟨reply, asked, answers⟩] at unpolled
        cases unpolled
      | inside opens => exact (opens.absurd shape).elim
  | ack hop reply response unpolled expected answers first =>
    have acked := p.receiveAck_cases hop response supported
    have repeated := p.allAcked_iff.mp complete hop reply expected
    rw [← met] at acked
    cases acked with
    | refused error =>
      refine ⟨complete, rfl, by simp, ?_⟩
      intro final
      cases final with
      | here _ _ unacked =>
        have matched := unacked hop
        rw [matching_eq_some.mpr ⟨reply, expected, answers⟩] at matched
        cases matched
      | inside opens => exact (opens.absurd shape).elim
    | released fresh | counted fresh =>
      rw [repeated] at fresh
      cases fresh
  | final unpolled unacked =>
    have final := p.receiveFinal_cases data supported
    rw [← met] at final
    cases final with
    | refused error why =>
      refine ⟨complete, rfl, by simp, ?_⟩
      intro final
      cases final with
      | here response _ _ answers =>
        rcases why with ⟨error, mismatch⟩ | ⟨early, -⟩
        · rw [answers] at mismatch
          cases mismatch
        · rw [complete] at early
          cases early
      | inside opens => exact (opens.absurd shape).elim
    | returned response answers ready =>
      exact ⟨complete, rfl, fun _ => .here response unpolled unacked answers, fun _ => ⟨response, rfl⟩⟩
    | stored response answers early =>
      rw [complete] at early
      cases early

/-- With every hop acknowledged, exactly a packet that yields the final reply
is returned. -/
theorem receiveNested_complete (left : Nat) (p : PendingRequest) (data : List UInt8)
    (supported : Bool) (complete : p.allAcked = true) :
    let r := p.receiveNested left data supported
    r.pending.allAcked = true ∧ r.pending.deferred = p.deferred ∧
    ((∃ response, r.result = .ok (some response)) ↔ YieldsFinal left p data) := by
  induction left generalizing p data supported with
  | zero => exact ⟨complete, rfl, by simp [receiveNested], by rintro ⟨⟩⟩
  | succ left ih =>
    simp only [receiveNested]
    cases shape : p.receiveLayer data supported with
    | mk result q believed =>
    cases result with
    | done result => exact receiveLayer_complete shape complete left
    | nested packet =>
      have opens := (receiveLayer_nested_iff supported).mp ⟨believed, shape⟩
      obtain ⟨acked, kept, final⟩ := ih q packet believed (opens.allAcked complete)
      refine ⟨acked, kept.trans opens.frame.1, final.trans ⟨.inside opens, ?_⟩⟩
      intro yields
      cases yields with
      | here _ unpolled unacked =>
        rw [receiveLayer_final unpolled unacked] at shape
        have outcome := p.receiveFinal_cases data supported
        rw [shape] at outcome
        cases outcome
      | inside other inner =>
        obtain ⟨rfl, rfl⟩ := opens.unique other
        exact inner

/-- With a reply stored and an acknowledgement outstanding, a layer returns the
reply or leaves an acknowledgement outstanding. -/
theorem receiveLayer_waiting {result : Except RmcpIpmiReceiveError (Option Response)}
    (shape : p.receiveLayer data supported = ⟨.done result, q, believed⟩) (layered : Layered p)
    (early : p.allAcked = false) (waiting : p.deferred.isSome = true) :
    (∃ response, result = .ok (some response)) ∨ q.allAcked = false := by
  have outcome := p.receiveLayer_cases data supported
  rw [shape] at outcome
  generalize met : (⟨.done result, q, believed⟩ : Received Layer) = r at outcome
  cases outcome with
  | poll reply response asked answers =>
    obtain ⟨available, now, layer, polled, -⟩ := p.receivePoll_cases reply response supported
    rw [polled, Received.mk.injEq] at met
    obtain ⟨-, rfl, -⟩ := met
    exact .inr early
  | ack hop reply response unpolled expected answers first =>
    have acked := p.receiveAck_cases hop response supported
    rw [← met] at acked
    cases acked with
    | refused error => exact .inr early
    | released fresh complete empty last =>
      obtain ⟨stored, deferred⟩ := Option.isSome_iff_exists.mp waiting
      exact .inl ⟨stored, by rw [deferred]⟩
    | counted fresh complete empty outstanding =>
      -- A hop exists, so the outer one does, and its missing flag counts.
      have outer : p.sendAcks[0].isNone = false := by
        rw [Option.isNone_eq_false_iff, Option.isSome_iff_ne_none]
        intro absent
        have both : ∀ hop : Fin 2, p.sendAcks[hop] = none :=
          Fin.forall_fin_two.mpr ⟨absent, layered absent⟩
        rw [both hop] at expected
        cases expected
      refine .inr ?_
      simpa only [allAcked, outer, Bool.or_false, ← Bool.not_eq_true] using outstanding
  | final unpolled unacked =>
    have final := p.receiveFinal_cases data supported
    rw [← met] at final
    cases final with
    | refused error => exact .inr early
    | returned response => exact .inl ⟨response, rfl⟩
    | stored => exact .inr early

/-- A stored reply is left behind exactly by an acknowledgement of the last hop
with a body that does not yield the final reply. -/
theorem receiveNested_waiting (left : Nat) (p : PendingRequest) (data : List UInt8)
    (supported : Bool) (layered : Layered p) (early : p.allAcked = false)
    (waiting : p.deferred.isSome = true) :
    let r := p.receiveNested left data supported
    ((∀ response, r.result ≠ .ok (some response)) ∧
      r.pending.deferred.isSome = true ∧ r.pending.allAcked = true) ↔ Strands left p data := by
  induction left generalizing p data supported with
  | zero =>
    simp only [receiveNested, early, Bool.false_eq_true, and_false, false_iff]
    rintro ⟨⟩
  | succ left ih =>
    simp only [receiveNested]
    cases shape : p.receiveLayer data supported with
    | mk result q believed =>
    cases result with
    | done result =>
      have calm : ¬ Strands (left + 1) p data := by
        rintro (⟨opens⟩ | ⟨opens⟩) <;> exact opens.absurd shape
      rcases receiveLayer_waiting shape layered early waiting with ⟨response, returned⟩ | outstanding
      · exact ⟨fun held => absurd returned (held.1 response), fun held => absurd held calm⟩
      · simp [outstanding, calm]
    | nested packet =>
      have opens := (receiveLayer_nested_iff supported).mp ⟨believed, shape⟩
      have kept : q.deferred.isSome = true := by rw [opens.frame.1, waiting]
      cases last : q.allAcked with
      | true =>
        obtain ⟨acked, deferred, final⟩ := receiveNested_complete left q packet believed last
        constructor
        · rintro ⟨unreturned, -⟩
          refine .lost opens last fun yields => ?_
          obtain ⟨response, returned⟩ := final.mpr yields
          exact unreturned response returned
        · intro strands
          refine ⟨fun response returned => ?_, by rw [deferred, kept], acked⟩
          cases strands with
          | lost other _ missing =>
            obtain ⟨rfl, rfl⟩ := opens.unique other
            exact missing (final.mp ⟨response, returned⟩)
          | inside other stillWaiting =>
            obtain ⟨rfl, rfl⟩ := opens.unique other
            rw [last] at stillWaiting
            cases stillWaiting
      | false =>
        have inner := ih q packet believed (by simpa [Layered, opens.frame.2] using layered) last kept
        refine inner.trans ⟨.inside opens last, ?_⟩
        intro strands
        cases strands with
        | lost other complete =>
          obtain ⟨rfl, rfl⟩ := opens.unique other
          rw [last] at complete
          cases complete
        | inside other _ strands =>
          obtain ⟨rfl, rfl⟩ := opens.unique other
          exact strands

/-- A reply is stored only while an acknowledgement is outstanding. -/
theorem receiveNested_free (left : Nat) (p : PendingRequest) (data : List UInt8) (supported : Bool)
    (free : p.deferred = none) :
    let r := p.receiveNested left data supported
    r.pending.deferred.isSome = true → r.pending.allAcked = false := by
  induction left generalizing p data supported with
  | zero => simp [receiveNested, free]
  | succ left ih =>
    simp only [receiveNested]
    cases shape : p.receiveLayer data supported with
    | mk result q believed =>
    cases result with
    | nested packet =>
      have opens := (receiveLayer_nested_iff supported).mp ⟨believed, shape⟩
      exact ih q packet believed (opens.frame.1.trans free)
    | done result =>
      change q.deferred.isSome = true → q.allAcked = false
      have outcome := p.receiveLayer_cases data supported
      rw [shape] at outcome
      generalize met : (⟨.done result, q, believed⟩ : Received Layer) = r at outcome
      cases outcome with
      | poll reply response asked answers =>
        obtain ⟨available, now, layer, polled, -⟩ := p.receivePoll_cases reply response supported
        rw [polled, Received.mk.injEq] at met
        obtain ⟨-, rfl, -⟩ := met
        simp [free]
      | ack hop reply response unpolled expected answers first =>
        have acked := p.receiveAck_cases hop response supported
        rw [← met] at acked
        cases acked <;> simp [free]
      | final unpolled unacked =>
        have final := p.receiveFinal_cases data supported
        rw [← met] at final
        cases final with
        | refused | returned => simp [free]
        | stored response answers early => exact fun _ => early

end PendingRequest

/-- The move received a packet that leaves a stored reply behind. -/
def Stranding (m : IpmbMove) : Prop :=
  ∃ data p, m.op = .receive data ∧ m.before.pending = some p ∧ p.deferred.isSome = true ∧
    p.Strands 3 data

/-- A step strands a reply exactly by receiving such a packet. -/
theorem step_stranded {s : IpmbState} (layered : ∀ p, s.pending = some p → p.Layered)
    (free : s.stranded = false) (op : IpmbOp) :
    (s.step op).2.stranded = true ↔ Stranding (move IpmbState.step s op) := by
  have quiet (unreceived : ∀ data, op ≠ .receive data) (kept : (s.step op).2.stranded = false) :
      (s.step op).2.stranded = true ↔ Stranding (move IpmbState.step s op) := by
    simp only [kept, Bool.false_eq_true, false_iff]
    rintro ⟨data, p, received, -⟩
    exact unreceived data received
  cases op with
  | begin request deadline =>
    refine quiet (by simp) ?_
    rcases s.begin_cases request deadline with ⟨error, -, refused⟩ | ⟨-, accepted⟩
    · rwa [IpmbState.step, refused]
    · obtain ⟨finalReply, sendAcks, channel, fresh, -⟩ :=
        accept_pending (s.consumeReserved (s.route request.target).needed) request deadline
      rw [IpmbState.step, accepted]
      simp [IpmbState.stranded, fresh, PendingRequest.fresh]
  | pollMessage =>
    refine quiet (by simp) ?_
    rcases s.pollMessage_cases with ⟨error, refused⟩ | ⟨p, found, -, -, blocked⟩ |
      ⟨p, found, -, -, -, polled⟩
    · rwa [IpmbState.step, refused]
    · rw [IpmbState.stranded, found] at free
      rw [IpmbState.step, blocked]
      exact free
    · rw [IpmbState.stranded, found] at free
      rw [IpmbState.step, polled]
      exact free
  | receive data =>
    cases found : s.pending with
    | none =>
      simp [IpmbState.step, IpmbState.receive_idle found, IpmbState.stranded, Stranding, found]
    | some p =>
      have shape := IpmbState.receive_pending found data
      have stranded : (s.step (.receive data)).2.stranded = true ↔
          (∀ response, (p.receiveNested 3 data s.getMessageSupported).result ≠ .ok (some response)) ∧
          (p.receiveNested 3 data s.getMessageSupported).pending.deferred.isSome = true ∧
          (p.receiveNested 3 data s.getMessageSupported).pending.allAcked = true := by
        rw [IpmbState.step, shape]
        simp only [IpmbState.stranded, Prod.map_snd, id_eq]
        split
        · rename_i response returned
          simp [returned]
        · rename_i unreturned
          simp only [Option.any_some, Bool.and_eq_true]
          exact ⟨fun held => ⟨unreturned, held⟩, fun held => held.2⟩
      have stranding : Stranding (move IpmbState.step s (.receive data)) ↔
          p.deferred.isSome = true ∧ p.Strands 3 data := by
        simp [Stranding, found]
      rw [stranded, stranding]
      cases waiting : p.deferred with
      | none =>
        have outstanding := PendingRequest.receiveNested_free 3 p data s.getMessageSupported waiting
        simp only [Option.isSome_none, Bool.false_eq_true, false_and, iff_false]
        rintro ⟨-, stored, acked⟩
        rw [outstanding stored] at acked
        cases acked
      | some response =>
        have early : p.allAcked = false := by
          simpa [IpmbState.stranded, found, waiting] using free
        simpa using PendingRequest.receiveNested_waiting 3 p data s.getMessageSupported
          (layered p found) early (by simp [waiting])
  | retirePending => exact quiet (by simp) rfl
  | stopPolling => exact quiet (by simp) free
  | reserveSequences minimum =>
    refine quiet (by simp) ?_
    simp only [IpmbState.step, IpmbState.reserveSequences, Prod.map_snd, id_eq]
    split <;> exact free
  | releaseSequences => exact quiet (by simp) free

theorem run_layered (ops : List IpmbOp) (p : PendingRequest)
    (found : (after IpmbState.step .default ops).pending = some p) : p.Layered := by
  obtain ⟨earlier, b, between, p₀, -, -, -, -, sound⟩ := run_since ops p found
  exact sound.layered

/-- In a run from the start, no stored reply is ever left behind in a state
reached exactly if no packet received acknowledges the last outstanding hop
with a body that does not yield the final reply, while one is stored. -/
theorem no_reply_stranded_iff (ops : List IpmbOp) :
    (∀ reached, reached <+: ops → (after IpmbState.step .default reached).stranded = false) ↔
      ∀ m ∈ moves IpmbState.step .default ops, ¬ Stranding m := by
  constructor
  · intro safe m held stranding
    obtain ⟨earlier, op, later, rfl, rfl⟩ := split_at_move IpmbState.step _ held
    have before := safe earlier (List.prefix_append _ _)
    have next := safe (earlier ++ [op]) ⟨later, by simp⟩
    rw [after_append, after_cons, after_nil,
      ← Bool.not_eq_true, step_stranded (run_layered earlier) before] at next
    exact next stranding
  · intro careful reached within
    induction reached using List.reverseRecOn with
    | nil => rfl
    | append_singleton earlier op ih =>
      obtain ⟨later, rfl⟩ := within
      have before := ih ⟨op :: later, by simp⟩
      rw [after_append, after_cons, after_nil, ← Bool.not_eq_true,
        step_stranded (run_layered earlier) before]
      exact careful _ (by simp [moves_append])

/-- The reply is stored, and the acknowledgement arrives with a message from
somebody else inside. -/
theorem deferred_reply_left_behind :
    ¬ ∀ ops : List IpmbOp, (after IpmbState.step .default ops).stranded = false := by
  intro safe
  have stranded := safe [.begin ⟨.bridged ⟨0x2c, .primary, .zero⟩ none, ⟨0x06, 0x01, []⟩⟩ 0,
    .receive [0x81, 0x1c, 0x63, 0x2c, 0x04, 0x01, 0x00, 0x55, 0x7a],
    .receive [0x81, 0x1c, 0x63, 0x20, 0x00, 0x34, 0x00,
      0x81, 0x1c, 0x63, 0x2e, 0x10, 0x02, 0x00, 0xc0, 0xac]]
  revert stranded
  decide

end IpmiRs.Rmcp
