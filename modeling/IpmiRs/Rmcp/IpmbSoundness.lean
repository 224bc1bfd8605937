import IpmiRs.Rmcp.IpmbReceive
import IpmiRs.Rmcp.IpmbRuns

/-! Where a returned response comes from. Every acknowledgement and every
stored reply is traced back to a packet received since the request began, so a
response is never made from anything but a reply to that very request. -/
namespace IpmiRs.Rmcp
open Connection Library.Runs

/-- The packets found in a received one: itself, and whatever is nested in a
successful Send Message response or in the queued packet of a Get Message
response. -/
inductive Carries : List UInt8 → List UInt8 → Prop
  | self (packet : List UInt8) : Carries packet packet
  | sendMessage {outer packet : List UInt8} (valid : validateIpmbChecksums outer = true)
      (netfn : outer[1]! >>> 2 = APP_NETFN + 1) (cmd : outer[5]! = SEND_MESSAGE)
      (complete : outer[6]! = 0) (inner : Carries (replyBody outer) packet) : Carries outer packet
  | getMessage {outer queued packet : List UInt8} (valid : validateIpmbChecksums outer = true)
      (netfn : outer[1]! >>> 2 = APP_NETFN + 1) (cmd : outer[5]! = GET_MESSAGE)
      (complete : outer[6]! = 0)
      (body : PendingRequest.queuedPacket ((replyBody outer).drop 1) = some queued)
      (inner : Carries queued packet) : Carries outer packet

theorem Carries.trans {outer middle inner : List UInt8} (first : Carries outer middle)
    (second : Carries middle inner) : Carries outer inner := by
  induction first with
  | self => exact second
  | sendMessage valid netfn cmd complete _ ih => exact .sendMessage valid netfn cmd complete (ih second)
  | getMessage valid netfn cmd complete body _ ih =>
    exact .getMessage valid netfn cmd complete body (ih second)

/-- One of the packets carries a reply to the request, and the response is
that reply's completion code and body. -/
def Answered (packets : List (List UInt8)) (expected : ExpectedReply) (response : Response) : Prop :=
  ∃ packet ∈ packets, ∃ inner, Carries packet inner ∧ Answers inner expected ∧
    response.cc = inner[6]! ∧ response.data = replyBody inner

/-- One of the packets carries a successful acknowledgement of the hop. -/
def Acknowledged (packets : List (List UInt8)) (expected : ExpectedReply) : Prop :=
  ∃ packet ∈ packets, ∃ inner, Carries packet inner ∧ Answers inner expected ∧ inner[6]! = 0

theorem Answered.mono {packets more : List (List UInt8)} (within : packets ⊆ more)
    {expected : ExpectedReply} {response : Response} (held : Answered packets expected response) :
    Answered more expected response := by
  obtain ⟨packet, member, rest⟩ := held
  exact ⟨packet, within member, rest⟩

theorem Acknowledged.mono {packets more : List (List UInt8)} (within : packets ⊆ more)
    {expected : ExpectedReply} (held : Acknowledged packets expected) :
    Acknowledged more expected := by
  obtain ⟨packet, member, rest⟩ := held
  exact ⟨packet, within member, rest⟩

/-- Everything a pending request has recorded has a packet to show for it. -/
structure Sound (packets : List (List UInt8)) (p : PendingRequest) : Prop where
  layered : p.Layered
  hops : ∀ (hop : Fin 2) reply, getElem p.sendAcks hop (hop_lt hop) = some reply →
    reply.netfn = APP_NETFN + 1 ∧ reply.cmd = SEND_MESSAGE
  polls : ∀ reply, p.poll = some reply →
    reply.netfn = APP_NETFN + 1 ∧ (reply.cmd = GET_MESSAGE ∨ reply.cmd = GET_MESSAGE_FLAGS)
  acked : ∀ (hop : Fin 2) reply, getElem p.sendAcks hop (hop_lt hop) = some reply →
    getElem p.acked hop (hop_lt hop) = true →
    Acknowledged packets reply
  deferred : ∀ response, p.deferred = some response → Answered packets p.finalReply response

theorem Sound.mono {packets more : List (List UInt8)} (within : packets ⊆ more)
    {p : PendingRequest} (held : Sound packets p) : Sound more p where
  layered := held.layered
  hops := held.hops
  polls := held.polls
  acked hop reply expected done := (held.acked hop reply expected done).mono within
  deferred response stored := (held.deferred response stored).mono within

/-- The parts of a pending request no packet changes. -/
structure SameRequest (p q : PendingRequest) : Prop where
  finalReply : q.finalReply = p.finalReply
  sendAcks : q.sendAcks = p.sendAcks

namespace SameRequest
variable {p q r : PendingRequest}

theorem refl (p : PendingRequest) : SameRequest p p := ⟨rfl, rfl⟩

theorem trans (first : SameRequest p q) (second : SameRequest q r) : SameRequest p r :=
  ⟨second.finalReply.trans first.finalReply, second.sendAcks.trans first.sendAcks⟩

end SameRequest

section receive
variable {packets : List (List UInt8)} {p : PendingRequest} {root data : List UInt8}

/-- What one layer may make of a packet without inventing anything. -/
structure LayerSound (packets : List (List UInt8)) (root : List UInt8) (p : PendingRequest)
    (r : Received Layer) : Prop where
  same : SameRequest p r.pending
  sound : Sound packets r.pending
  returned : ∀ response, r.result = .done (.ok (some response)) →
    Answered packets p.finalReply response ∧ r.pending.allAcked = true
  nested : ∀ packet, r.result = .nested packet → Carries root packet

private theorem Sound.ack (held : Sound packets p) (member : root ∈ packets)
    (carried : Carries root data) {hop : Fin 2} {reply : ExpectedReply}
    (expected : getElem p.sendAcks hop (hop_lt hop) = some reply) (answers : Answers data reply)
    (complete : data[6]! = 0) : Sound packets { p with acked := p.acked.set hop true (hop_lt hop) } where
  layered := held.layered
  hops := held.hops
  polls := held.polls
  acked other found known done := by
    by_cases same : other = hop
    · subst same
      obtain rfl := Option.some.inj (expected.symm.trans known)
      exact ⟨root, member, data, carried, answers, complete⟩
    · refine held.acked other found known ?_
      have apart : hop.val ≠ other.val := fun equal => same (Fin.ext equal.symm)
      simpa [Vector.getElem_set, apart] using done
  deferred := held.deferred

private theorem valid_of_answers {expected : ExpectedReply} (answers : Answers data expected) :
    validateIpmbChecksums data = true :=
  (validateIpmbChecksums_iff data).mpr ⟨answers.long, answers.header, answers.rest⟩

private theorem receivePoll_sound (held : Sound packets p) (carried : Carries root data)
    {reply : ExpectedReply} {response : Response} (asked : p.poll = some reply)
    (answers : correlate data reply = .ok response) (supported : Bool) :
    LayerSound packets root p (p.receivePoll reply response supported) := by
  obtain ⟨available, believed, layer, shape, outcome⟩ := p.receivePoll_cases reply response supported
  rw [shape]
  have sound : Sound packets { p with poll := none, queueAvailable := available } :=
    ⟨held.layered, held.hops, by simp, held.acked, held.deferred⟩
  refine ⟨⟨rfl, rfl⟩, sound, ?_, ?_⟩
  · rintro final rfl
    rcases outcome with ⟨result, same, never⟩ | ⟨packet, nested, -⟩
    · exact absurd (Layer.done.inj same).symm (never final)
    · cases nested
  · rintro packet rfl
    rcases outcome with ⟨result, same, -⟩ | ⟨inner, same, -, -, complete, fetched, -, -, queued⟩
    · cases same
    · obtain rfl := Layer.nested.inj same
      obtain ⟨answer, cc, body⟩ := correlate_ok answers
      obtain ⟨netfn, cmd⟩ := held.polls reply asked
      rw [body] at queued
      exact carried.trans (.getMessage (valid_of_answers answer) (answer.netfn.trans netfn)
        (answer.cmd.trans (cmd.resolve_right fetched)) (cc.symm.trans complete) queued (.self _))

private theorem receiveAck_sound (held : Sound packets p) (member : root ∈ packets)
    (carried : Carries root data) {hop : Fin 2} {reply : ExpectedReply} {response : Response}
    (expected : getElem p.sendAcks hop (hop_lt hop) = some reply) (answers : correlate data reply = .ok response)
    (supported : Bool) : LayerSound packets root p (p.receiveAck hop response supported) := by
  obtain ⟨answer, cc, body⟩ := correlate_ok answers
  have acked (complete : response.cc = 0) :=
    held.ack member carried expected answer (cc.symm.trans complete)
  have outcome := p.receiveAck_cases hop response supported
  generalize p.receiveAck hop response supported = r at outcome
  cases outcome with
  | refused error => exact ⟨.refl p, held, by simp, by simp⟩
  | opened fresh complete nonempty =>
    refine ⟨⟨rfl, rfl⟩, acked complete, by simp, ?_⟩
    rintro packet shape
    obtain rfl := Layer.nested.inj shape
    obtain ⟨netfn, cmd⟩ := held.hops hop reply expected
    rw [body]
    exact carried.trans (.sendMessage (valid_of_answers answer) (answer.netfn.trans netfn)
      (answer.cmd.trans cmd) (cc.symm.trans complete) (.self _))
  | released fresh complete empty last =>
    have sound := acked complete
    refine ⟨⟨rfl, rfl⟩, ⟨sound.layered, sound.hops, sound.polls, sound.acked, by simp⟩, ?_, by simp⟩
    intro final shape
    refine ⟨held.deferred final (by simpa using shape), ?_⟩
    simp only [PendingRequest.allAcked]
    simp only [Bool.and_eq_true, Bool.or_eq_true] at last ⊢
    exact ⟨.inl last.1, last.2⟩
  | counted fresh complete empty outstanding =>
    exact ⟨⟨rfl, rfl⟩, acked complete, by simp, by simp⟩

private theorem receiveFinal_sound (held : Sound packets p) (member : root ∈ packets)
    (carried : Carries root data) (supported : Bool) :
    LayerSound packets root p (p.receiveFinal data supported) := by
  have answered {response : Response} (answers : correlate data p.finalReply = .ok response) :
      Answered packets p.finalReply response := by
    obtain ⟨answer, cc, body⟩ := correlate_ok answers
    exact ⟨root, member, data, carried, answer, cc, body⟩
  have outcome := p.receiveFinal_cases data supported
  generalize p.receiveFinal data supported = r at outcome
  cases outcome with
  | refused error => exact ⟨.refl p, held, by simp, by simp⟩
  | returned response answers ready =>
    refine ⟨.refl p, held, ?_, by simp⟩
    intro final shape
    obtain rfl : response = final := by simpa using shape
    exact ⟨answered answers, ready⟩
  | stored response answers early free =>
    refine ⟨⟨rfl, rfl⟩, ⟨held.layered, held.hops, held.polls, held.acked, ?_⟩, by simp, by simp⟩
    intro final shape
    obtain rfl : response = final := by simpa using shape
    exact answered answers

theorem receiveLayer_sound (held : Sound packets p) (member : root ∈ packets)
    (carried : Carries root data) (supported : Bool) :
    LayerSound packets root p (p.receiveLayer data supported) := by
  have outcome := p.receiveLayer_cases data supported
  generalize p.receiveLayer data supported = r at outcome
  cases outcome with
  | poll reply response asked answers => exact receivePoll_sound held carried asked answers supported
  | ack hop reply response unpolled expected answers first =>
    exact receiveAck_sound held member carried expected answers supported
  | final unpolled unacked => exact receiveFinal_sound held member carried supported

/-- Following a packet into its nested ones keeps every record justified, and
returns only an answer to the request, once all hops are acknowledged. -/
theorem receiveNested_sound (left : Nat) (held : Sound packets p) (member : root ∈ packets)
    (carried : Carries root data) (supported : Bool) :
    let r := p.receiveNested left data supported
    SameRequest p r.pending ∧ Sound packets r.pending ∧
    ∀ response, r.result = .ok (some response) →
      Answered packets p.finalReply response ∧ r.pending.allAcked = true := by
  induction left generalizing p data supported with
  | zero => exact ⟨.refl p, held, by simp [PendingRequest.receiveNested]⟩
  | succ left ih =>
    have layer := receiveLayer_sound held member carried supported
    simp only [PendingRequest.receiveNested]
    generalize p.receiveLayer data supported = r at layer
    obtain ⟨result, q, believed⟩ := r
    cases result with
    | done result =>
      exact ⟨layer.same, layer.sound, fun response same => layer.returned response (by simp [← same])⟩
    | nested packet =>
      obtain ⟨same, sound, returned⟩ := ih layer.sound (layer.nested packet rfl) believed
      refine ⟨layer.same.trans same, sound, ?_⟩
      rw [← layer.same.finalReply]
      exact returned

end receive

/-- A request starts with no poll, no acknowledgement and no reply, and the
hops it waits for are Send Message ones. -/
theorem accept_pending (s : IpmbState) (request : Request) (deadline : Instant) :
    ∃ finalReply sendAcks channel,
      (s.accept request deadline).2.pending = some (.fresh finalReply sendAcks channel deadline) ∧
      (getElem sendAcks 0 Nat.two_pos = none → getElem sendAcks 1 Nat.one_lt_two = none) ∧
      ∀ (hop : Fin 2) (reply : ExpectedReply), getElem sendAcks hop (hop_lt hop) = some reply →
        reply.netfn = APP_NETFN + 1 ∧ reply.cmd = SEND_MESSAGE := by
  unfold IpmbState.accept
  split
  · rename_i target transit routed
    refine ⟨_, _, _, rfl, by simp, ?_⟩
    rw [Fin.forall_fin_two]
    cases transit <;> simp [IpmbState.nextReply]
  · exact ⟨_, _, _, rfl, by simp, by simp [Fin.forall_fin_two]⟩

/-- The move accepted a request, which was then pending as `p`. -/
def Accepted (m : IpmbMove) (p : PendingRequest) : Prop :=
  ∃ request deadline payload, m.op = .begin request deadline ∧ m.out = .began (.ok payload) ∧
    m.after.pending = some p

/-- The move returned a response. -/
def Returned (m : IpmbMove) : Prop := ∃ response, m.out = .received (.ok (some response))

/-- The packets received in a history. -/
def packetsOf (past : List IpmbMove) : List (List UInt8) :=
  past.filterMap fun m => match m.op with
    | .receive data => some data
    | _ => none

/-- A pending request goes back to the last accepted one, and what it has
recorded since then is justified by the packets received since then. -/
def Since (past : List IpmbMove) (p : PendingRequest) : Prop :=
  ∃ earlier m between p₀, past = earlier ++ m :: between ∧ Accepted m p₀ ∧
    (∀ m' ∈ between, ¬ Returned m' ∧ ∀ p', ¬ Accepted m' p') ∧
    SameRequest p₀ p ∧ Sound (packetsOf between) p

namespace Since
variable {past : List IpmbMove} {p q : PendingRequest} {m : IpmbMove}

/-- A move that neither returns nor accepts extends the history, given that
what is recorded after it is justified once its own packet counts too. -/
theorem extend (held : Since past p) (silent : ¬ Returned m) (other : ∀ p', ¬ Accepted m p')
    (same : SameRequest p q)
    (sound : ∀ packets, Sound packets p → Sound (packets ++ packetsOf [m]) q) :
    Since (past ++ [m]) q := by
  obtain ⟨earlier, b, between, p₀, rfl, accepted, quiet, request, recorded⟩ := held
  refine ⟨earlier, b, between ++ [m], p₀, by simp, accepted, ?_, request.trans same, ?_⟩
  · intro m' member
    rcases List.mem_append.mp member with held | last
    · exact quiet m' held
    · obtain rfl := List.mem_singleton.mp last
      exact ⟨silent, other⟩
  · rw [packetsOf, List.filterMap_append]
    exact sound _ recorded

/-- A move that changes nothing a packet has recorded. -/
theorem keep (held : Since past p) (silent : ¬ Returned m) (other : ∀ p', ¬ Accepted m p')
    (same : SameRequest p q) (sound : ∀ packets, Sound packets p → Sound packets q) :
    Since (past ++ [m]) q :=
  held.extend silent other same fun _ recorded =>
    (sound _ recorded).mono (List.subset_append_left _ _)

end Since

private theorem silent_of_out {m : IpmbMove} (silent : ∀ result, m.out ≠ .received result) :
    ¬ Returned m := fun ⟨_, out⟩ => silent _ out

private theorem other_of_out {m : IpmbMove} (other : ∀ payload, m.out ≠ .began (.ok payload)) :
    ∀ p, ¬ Accepted m p := fun _ ⟨_, _, payload, _, out, _⟩ => other payload out

/-- Every operation keeps the pending request justified. -/
theorem step_since {past : List IpmbMove} {s : IpmbState}
    (held : ∀ p, s.pending = some p → Since past p) (op : IpmbOp) :
    ∀ p, (s.step op).2.pending = some p → Since (past ++ [move IpmbState.step s op]) p := by
  intro q pending
  cases op with
  | begin request deadline =>
    rcases s.begin_cases request deadline with ⟨error, -, refused⟩ | ⟨-, accepted⟩
    · rw [IpmbState.step, refused] at pending
      exact (held q pending).keep (silent_of_out (by simp [IpmbState.step]))
        (other_of_out (by simp [IpmbState.step, refused])) (.refl q) (fun _ sound => sound)
    · obtain ⟨finalReply, sendAcks, channel, fresh, layered, hops⟩ :=
        accept_pending (s.consumeReserved (s.route request.target).needed) request deadline
      rw [IpmbState.step, accepted] at pending
      obtain rfl := Option.some.inj (fresh.symm.trans pending)
      have out : (move IpmbState.step s (.begin request deadline)).out = .began (.ok
          ((s.consumeReserved (s.route request.target).needed).accept request deadline).1) := by
        rw [move_out, IpmbState.step, accepted]
        rfl
      refine ⟨past, _, [], _, rfl, ⟨request, deadline, _, rfl, out, ?_⟩, by simp, .refl _, layered, hops, ?_,
        ?_, ?_⟩
      · simpa [IpmbState.step, accepted] using fresh
      · simp [PendingRequest.fresh]
      · simp [Fin.forall_fin_two, PendingRequest.fresh]
      · simp [PendingRequest.fresh]
  | pollMessage =>
    have silent := silent_of_out (m := move IpmbState.step s .pollMessage) (by simp [IpmbState.step])
    have other := other_of_out (m := move IpmbState.step s .pollMessage) (by simp [IpmbState.step])
    rcases s.pollMessage_cases with ⟨error, refused⟩ | ⟨p, found, -, -, blocked⟩ |
      ⟨p, found, -, -, -, polled⟩
    · rw [IpmbState.step, refused] at pending
      exact (held q pending).keep silent other (.refl q) (fun _ sound => sound)
    · rw [IpmbState.step, blocked] at pending
      obtain rfl := Option.some.inj pending
      exact (held p found).keep silent other ⟨rfl, rfl⟩
        fun _ sound => ⟨sound.layered, sound.hops, sound.polls, sound.acked, sound.deferred⟩
    · rw [IpmbState.step, polled] at pending
      obtain rfl := Option.some.inj pending
      refine (held p found).keep silent other ⟨rfl, rfl⟩
        fun _ sound => ⟨sound.layered, sound.hops, ?_, sound.acked, sound.deferred⟩
      intro reply asked
      obtain rfl := Option.some.inj asked
      refine ⟨rfl, ?_⟩
      simp only [IpmbState.nextReply]
      split <;> simp
  | receive data =>
    cases found : s.pending with
    | none =>
      rw [IpmbState.step, IpmbState.receive_idle found] at pending
      exact absurd (found.symm.trans pending) (by simp)
    | some p =>
      have shape := IpmbState.receive_pending found data
      have traced (packets : List (List UInt8)) (sound : Sound packets p) :=
        receiveNested_sound 3 (sound.mono (List.subset_append_left packets [data]))
          (List.mem_append_right packets (List.mem_singleton_self data)) (.self data)
          s.getMessageSupported
      rw [IpmbState.step, shape] at pending
      simp only [Prod.map_snd, id_eq] at pending
      split at pending
      · cases pending
      rename_i unanswered
      obtain rfl := Option.some.inj pending
      refine (held p found).extend ?_ (other_of_out (by simp [IpmbState.step])) ?_ ?_
      · rintro ⟨response, out⟩
        simp only [move_out, IpmbState.step, shape, Prod.map_fst, IpmbOutcome.received.injEq] at out
        exact unanswered response out
      · obtain ⟨earlier, b, between, p₀, rfl, -, -, -, sound⟩ := held p found
        exact (traced _ sound).1
      · exact fun packets sound => (traced packets sound).2.1
  | retirePending => cases pending
  | stopPolling =>
    exact (held q pending).keep (silent_of_out (by simp [IpmbState.step]))
      (other_of_out (by simp [IpmbState.step])) (.refl q) (fun _ sound => sound)
  | reserveSequences minimum =>
    have same : ((s.step (.reserveSequences minimum)).2).pending = s.pending := by
      simp only [IpmbState.step, IpmbState.reserveSequences, Prod.map_snd, id_eq]
      split <;> rfl
    exact (held q (same.symm.trans pending)).keep (silent_of_out (by simp [IpmbState.step]))
      (other_of_out (by simp [IpmbState.step])) (.refl q) (fun _ sound => sound)
  | releaseSequences =>
    exact (held q pending).keep (silent_of_out (by simp [IpmbState.step]))
      (other_of_out (by simp [IpmbState.step])) (.refl q) (fun _ sound => sound)

theorem run_since (ops : List IpmbOp) :
    ∀ p, (after IpmbState.step .default ops).pending = some p →
      Since (moves IpmbState.step .default ops) p :=
  history IpmbState.step (P := fun past s => ∀ p, s.pending = some p → Since past p)
    (by simp [IpmbState.default]) (fun _ _ op held => step_since held op) ops

/-- A response is returned only for the last request accepted, at most once,
from a packet that answers that request, and after a successful
acknowledgement of each of its hops; all of them received since it began. -/
theorem returned_response_answers_request (ops : List IpmbOp) (data : List UInt8)
    (response : Response)
    (returned : ((after IpmbState.step .default ops).receive data).1 = .ok (some response)) :
    ∃ earlier b between p, moves IpmbState.step .default ops = earlier ++ b :: between ∧
      Accepted b p ∧ (∀ m ∈ between, ¬ Returned m ∧ ∀ q, ¬ Accepted m q) ∧
      Answered (packetsOf between ++ [data]) p.finalReply response ∧
      ∀ (hop : Fin 2) reply, getElem p.sendAcks hop (hop_lt hop) = some reply →
        Acknowledged (packetsOf between ++ [data]) reply := by
  generalize reached : after IpmbState.step .default ops = s at returned
  cases found : s.pending with
  | none =>
    rw [IpmbState.receive_idle found] at returned
    cases returned
  | some p =>
    obtain ⟨earlier, b, between, p₀, shape, accepted, quiet, request, sound⟩ :=
      run_since ops p (reached ▸ found)
    obtain ⟨same, traced, answered⟩ := receiveNested_sound 3
      (sound.mono (List.subset_append_left _ [data]))
      (List.mem_append_right _ (List.mem_singleton_self data)) (.self data) s.getMessageSupported
    rw [IpmbState.receive_pending found] at returned
    obtain ⟨final, complete⟩ := answered response returned
    refine ⟨earlier, b, between, p₀, shape, accepted, quiet, request.finalReply ▸ final, ?_⟩
    have sendAcks := (request.trans same).sendAcks
    rw [← sendAcks]
    intro hop reply expected
    exact traced.acked hop reply expected
      ((PendingRequest.allAcked_iff _).mp complete hop reply expected)

/-- A bridged request, its acknowledgement and its reply. -/
theorem returned_response_answers_bridged_request :
    let ops : List IpmbOp := [.begin ⟨.bridged ⟨0x2c, .primary, .zero⟩ none, ⟨0x06, 0x01, []⟩⟩ 0,
      .receive [0x81, 0x1c, 0x63, 0x20, 0x00, 0x34, 0x00, 0xac]]
    let data : List UInt8 := [0x81, 0x1c, 0x63, 0x2c, 0x04, 0x01, 0x00, 0x55, 0x7a]
    let response : Response := ⟨1, ⟨0x07, 0x01, [0x00, 0x55]⟩, by decide⟩
    ((after IpmbState.step .default ops).receive data).1 = .ok (some response) ∧
    ∃ earlier b between p, moves IpmbState.step .default ops = earlier ++ b :: between ∧
      Accepted b p ∧ (∀ m ∈ between, ¬ Returned m ∧ ∀ q, ¬ Accepted m q) ∧
      Answered (packetsOf between ++ [data]) p.finalReply response ∧
      ∀ (hop : Fin 2) reply, getElem p.sendAcks hop (hop_lt hop) = some reply →
        Acknowledged (packetsOf between ++ [data]) reply :=
  ⟨by decide, returned_response_answers_request _ _ _ (by decide)⟩

end IpmiRs.Rmcp
