import IpmiRs.Rmcp.IpmbFraming
import IpmiRs.Rmcp.IpmbQueue
import IpmiRs.Rmcp.IpmbSequences
import IpmiRs.Rmcp.IpmbSoundness

/-! The replies to a bridged request in every order a BMC may deliver them:
one by one, nested in each other's acknowledgements, or queued and fetched
with Get Message between any number of polls that find nothing. -/
namespace IpmiRs.Rmcp
open Connection Library Library.Runs

/-! ### The packets a responder sends -/

/-- The six-bit fields of an expected reply fit, and it comes from a responder
with an address. -/
structure Addressable (expected : ExpectedReply) : Prop where
  sequence : expected.sequence < 64
  netfn : expected.netfn < 64
  responderAddr : expected.responderAddr ≠ 0

theorem Addressable.sized {expected : ExpectedReply} (held : Addressable expected) :
    Sized expected := ⟨held.sequence, held.netfn⟩

section answer
variable {expected : ExpectedReply} (held : Addressable expected) (cc : UInt8) (body : List UInt8)
include held

/-- An answer is found in the queue with or without its destination address. -/
theorem queuedPacket_answer :
    PendingRequest.queuedPacket (answer expected cc body) = some (answer expected cc body) ∧
    PendingRequest.queuedPacket (answer expected cc body).tail = some (answer expected cc body) := by
  have answers := answers_answer held.sized cc body
  have valid := (validateIpmbChecksums_iff _).mpr ⟨answers.long, answers.header, answers.rest⟩
  constructor
  · exact PendingRequest.queuedPacket_complete valid
  · apply PendingRequest.queuedPacket_tail valid
    exact .inr (by rw [answers.responderAddr]; exact held.responderAddr)

end answer

/-! ### Deliveries -/

/-- The replies a bridged request waits for, from the outermost layer in. -/
inductive Item where
  | outerAck
  | transitAck
  | finalReply
  deriving DecidableEq

/-- One thing that happens between the session and the BMC: a packet arrives
on its own, the queue is polled, or the poll is answered: by the message flags,
by an empty queue, or by a queued packet, which may lack its destination
address. A packet is the chain of the replies nested in it, outermost first. -/
inductive Delivery where
  | direct (chain : List Item)
  | poll
  | flags (value : UInt8)
  | empty
  | queued (short : Bool) (chain : List Item)
  deriving DecidableEq

def Delivery.chain : Delivery → List Item
  | .direct chain | .queued _ chain => chain
  | .poll | .flags _ | .empty => []

/-- A packet arrives, on its own or from the queue. -/
def Delivery.carries : Delivery → Bool
  | .direct _ | .queued _ _ => true
  | .poll | .flags _ | .empty => false

namespace PendingRequest
variable (p : PendingRequest)

def expecting : Item → Option ExpectedReply
  | .outerAck => getElem p.sendAcks 0 Nat.two_pos
  | .transitAck => getElem p.sendAcks 1 Nat.one_lt_two
  | .finalReply => some p.finalReply

/-- All replies the request waits for. -/
def items : List Item :=
  .outerAck :: (if (getElem p.sendAcks 1 Nat.one_lt_two).isSome then [.transitAck] else []) ++ [.finalReply]

/-- The packet with the given replies nested in each other: acknowledgements
succeed, and the final reply is the given one. -/
def chainPacket (cc : UInt8) (body : List UInt8) : List Item → List UInt8
  | [] => []
  | item :: rest =>
    (p.expecting item).elim [] fun expected =>
      match item with
      | .finalReply => answer expected cc body
      | .outerAck | .transitAck => answer expected 0 (chainPacket cc body rest)

end PendingRequest

/-- The packet a delivery makes the session receive, if it can happen now: a
poll is answered only while one is outstanding, and as its command asks. -/
def Delivery.packet (p : PendingRequest) (cc : UInt8) (body : List UInt8) :
    Delivery → Option (List UInt8)
  | .direct chain => some (p.chainPacket cc body chain)
  | .poll => none
  | .flags value => p.poll.bind fun poll =>
    if poll.cmd = GET_MESSAGE_FLAGS then some (answer poll 0 [value]) else none
  | .empty => p.poll.bind fun poll =>
    if poll.cmd = GET_MESSAGE then some (answer poll 0x80 []) else none
  | .queued short chain => p.poll.bind fun poll =>
    if poll.cmd = GET_MESSAGE then
      let packet := p.chainPacket cc body chain
      some (answer poll 0 (p.queueChannel :: if short then packet.tail else packet))
    else none

/-- The results of the receive calls a script of deliveries leads to, if each
delivery can happen when it is due. -/
def play (cc : UInt8) (body : List UInt8) : IpmbState → List Delivery →
    Option (List (Except RmcpIpmiReceiveError (Option Response)) × IpmbState)
  | s, [] => some ([], s)
  | s, .poll :: rest =>
    match s.pollMessage with
    | (.ok _, s) => play cc body s rest
    | (.error _, _) => none
  | s, delivery :: rest => do
    let p ← s.pending
    let packet ← delivery.packet p cc body
    let (results, final) ← play cc body (s.receive packet).2 rest
    return ((s.receive packet).1 :: results, final)

/-- A script brings every reply exactly once; each packet carries one at
least, and nothing is nested in the final reply. -/
structure Arrangement (p : PendingRequest) (script : List Delivery) : Prop where
  once : (script.flatMap (·.chain)).Perm p.items
  nonempty : ∀ delivery ∈ script, delivery.carries = true → delivery.chain ≠ []
  innermost : ∀ delivery ∈ script, .finalReply ∉ delivery.chain.dropLast

/-- How the polls stand: whether the flags last told of a message in the queue,
and whether a poll is outstanding. -/
structure Polls where
  available : Bool
  outstanding : Bool
  deriving DecidableEq

namespace Delivery

/-- How the polls stand after a delivery. -/
def after (polls : Polls) : Delivery → Polls
  | .direct _ => polls
  | .poll => { polls with outstanding := true }
  | .flags value => ⟨value &&& 1 != 0, false⟩
  | .empty | .queued _ _ => ⟨false, false⟩

/-- A poll is due once the outer acknowledgement has arrived and none is
outstanding; what answers one, while it is. -/
def due (acked : Bool) (polls : Polls) : Delivery → Bool
  | .direct _ => true
  | .poll => acked && !polls.outstanding
  | .flags _ => polls.outstanding && !polls.available
  | .empty | .queued _ _ => polls.outstanding && polls.available

end Delivery

/-- Every delivery is due when it comes. -/
def orderly : Bool → Polls → List Delivery → Bool
  | _, _, [] => true
  | acked, polls, delivery :: rest =>
    delivery.due acked polls &&
      orderly (acked || delivery.chain.contains .outerAck) (delivery.after polls) rest

/-- A script whose polls should be granted: every delivery is due when it comes,
the last one is a packet, and if there are polls, Get Message is not known to be
unsupported, and there are sequences for all of them beside those reserved. -/
structure Grantable (s : IpmbState) (script : List Delivery) : Prop where
  inOrder : orderly false ⟨false, false⟩ script = true
  ends : ∀ delivery, script.getLast? = some delivery → delivery.carries = true
  supported : .poll ∈ script → s.getMessageSupported = true
  room : .poll ∈ script → script.count .poll + s.reservedSequences.getD 0 ≤ s.remainingSequences

/-! ### One packet -/

/-- The acknowledgement of a hop. -/
def Item.ofHop (hop : Fin 2) : Item := if hop.val = 0 then .outerAck else .transitAck

theorem Item.eq_final_or_ofHop (item : Item) : item = .finalReply ∨ ∃ hop, item = ofHop hop := by
  cases item with
  | outerAck => exact .inr ⟨0, rfl⟩
  | transitAck => exact .inr ⟨1, rfl⟩
  | finalReply => exact .inl rfl

/-- No packet nests more replies than there are. -/
theorem Item.length_le {chain : List Item} (distinct : chain.Nodup) : chain.length ≤ 3 := by
  have all : chain ⊆ [.outerAck, .transitAck, .finalReply] := fun item _ => by cases item <;> simp
  exact (distinct.subperm all).length_le

/-- A queued packet nests all but the outer acknowledgement at most. -/
theorem Item.length_le_of_queued {chain : List Item} (distinct : chain.Nodup)
    (queued : .outerAck ∉ chain) : chain.length ≤ 2 := by
  have rest : chain ⊆ [.transitAck, .finalReply] := by
    intro item member
    cases item with
    | outerAck => exact absurd member queued
    | transitAck | finalReply => simp
  exact (distinct.subperm rest).length_le

theorem Item.ofHop_injective {a b : Fin 2} (same : ofHop a = ofHop b) : a = b := by
  revert a b
  decide

theorem Item.ofHop_ne_final (hop : Fin 2) : ofHop hop ≠ .finalReply := by
  revert hop
  decide

namespace PendingRequest
variable (p : PendingRequest)

theorem expecting_ofHop (hop : Fin 2) : p.expecting (.ofHop hop) = getElem p.sendAcks hop (hop_lt hop) := by
  revert hop
  exact Fin.forall_fin_two.mpr ⟨rfl, rfl⟩

/-- The response that the given final reply makes. -/
def finalResponse (cc : UInt8) (body : List UInt8) : Response :=
  ⟨p.finalReply.sequence.toNat, ⟨p.finalReply.netfn, p.finalReply.cmd, cc :: body⟩, by simp⟩

theorem expecting_same {p q : PendingRequest} (same : SameRequest p q) (item : Item) :
    q.expecting item = p.expecting item := by
  cases item <;> simp [expecting, same.sendAcks, same.finalReply]

theorem chainPacket_same {p q : PendingRequest} (same : SameRequest p q) (cc : UInt8)
    (body : List UInt8) (chain : List Item) :
    q.chainPacket cc body chain = p.chainPacket cc body chain := by
  induction chain with
  | nil => rfl
  | cons item rest ih => simp only [chainPacket, ih, expecting_same same]

theorem finalResponse_same {p q : PendingRequest} (same : SameRequest p q) (cc : UInt8)
    (body : List UInt8) : q.finalResponse cc body = p.finalResponse cc body := by
  simp [finalResponse, same.finalReply]

theorem chainPacket_final (cc : UInt8) (body : List UInt8) (rest : List Item) :
    p.chainPacket cc body (.finalReply :: rest) = answer p.finalReply cc body := rfl

theorem chainPacket_ack {p : PendingRequest} {item : Item} {expected : ExpectedReply}
    (ack : item ≠ .finalReply) (known : p.expecting item = some expected) (cc : UInt8)
    (body : List UInt8) (rest : List Item) :
    p.chainPacket cc body (item :: rest) = answer expected 0 (p.chainPacket cc body rest) := by
  rw [chainPacket, known]
  cases item with
  | outerAck | transitAck => rfl
  | finalReply => exact absurd rfl ack

end PendingRequest

/-- The request waits for the replies in `remaining`, and has recorded the
others; no two of the sequences it waits for agree. -/
structure Awaiting (cc : UInt8) (body : List UInt8) (remaining : List Item) (p : PendingRequest) :
    Prop where
  outer : (getElem p.sendAcks 0 Nat.two_pos).isSome = true
  present : ∀ item ∈ remaining, ∃ expected, p.expecting item = some expected
  acked : ∀ hop : Fin 2, getElem p.acked hop (hop_lt hop) = true ↔
    (getElem p.sendAcks hop (hop_lt hop)).isSome = true ∧ .ofHop hop ∉ remaining
  deferred : p.deferred = if .finalReply ∈ remaining then none else some (p.finalResponse cc body)
  addressable : ∀ item expected, p.expecting item = some expected → Addressable expected
  apart : ∀ a b x y, p.expecting a = some x → p.expecting b = some y → x.sequence = y.sequence → a = b
  polled : ∀ poll, p.poll = some poll → .outerAck ∉ remaining ∧ Addressable poll ∧
    ∀ item expected, p.expecting item = some expected → expected.sequence ≠ poll.sequence

namespace Awaiting
variable {cc : UInt8} {body : List UInt8} {remaining rest : List Item} {p : PendingRequest}

theorem of_perm (held : Awaiting cc body remaining p) (same : remaining.Perm rest) :
    Awaiting cc body rest p where
  outer := held.outer
  present item member := held.present item (same.mem_iff.mpr member)
  acked hop := by rw [held.acked hop, same.mem_iff]
  deferred := by
    rw [held.deferred]
    simp only [same.mem_iff]
  addressable := held.addressable
  apart := held.apart
  polled poll asked := by
    rw [← same.mem_iff]
    exact held.polled poll asked

/-- All hops are acknowledged when no acknowledgement remains. -/
theorem allAcked_iff (held : Awaiting cc body remaining p) :
    p.allAcked = true ↔ ∀ hop, .ofHop hop ∉ remaining := by
  rw [p.allAcked_iff]
  constructor
  · intro complete hop member
    obtain ⟨expected, known⟩ := held.present _ member
    rw [p.expecting_ofHop] at known
    exact ((held.acked hop).mp (complete hop expected known)).2 member
  · intro absent hop expected known
    exact (held.acked hop).mpr ⟨by rw [known]; rfl, absent hop⟩

/-- What no acknowledgement and no final reply changes: the request, and how far
it has got with its polls. -/
structure SameAside (p q : PendingRequest) : Prop where
  same : SameRequest p q
  poll : q.poll = p.poll
  queueAvailable : q.queueAvailable = p.queueAvailable
  pollBlocked : q.pollBlocked = p.pollBlocked

theorem SameAside.refl (p : PendingRequest) : SameAside p p := ⟨.refl p, rfl, rfl, rfl⟩

theorem SameAside.trans {p q r : PendingRequest} (first : SameAside p q) (second : SameAside q r) :
    SameAside p r :=
  ⟨first.same.trans second.same, second.poll.trans first.poll,
    second.queueAvailable.trans first.queueAvailable, second.pollBlocked.trans first.pollBlocked⟩

/-- The condition under which an acknowledgement releases the stored reply. -/
theorem released_iff (held : Awaiting cc body remaining p) :
    (getElem p.acked 0 Nat.two_pos &&
        ((getElem p.sendAcks 1 Nat.one_lt_two).isNone || getElem p.acked 1 Nat.one_lt_two)) = true ↔
      p.allAcked = true := by
  have outer : p.sendAcks[0].isNone = false := by simpa using held.outer
  simp [PendingRequest.allAcked, outer]

/-- Nothing is waited for when neither an acknowledgement nor the reply is. -/
theorem eq_nil_of_items {remaining : List Item} (acks : ∀ hop, .ofHop hop ∉ remaining)
    (final : .finalReply ∉ remaining) : remaining = [] := by
  rw [List.eq_nil_iff_forall_not_mem]
  intro item
  rcases item.eq_final_or_ofHop with rfl | ⟨hop, rfl⟩
  · exact final
  · exact acks hop

/-- No poll and no other reply is answered by the reply to `item`. -/
theorem unmatched (held : Awaiting cc body remaining p) {item : Item} {expected : ExpectedReply}
    (known : p.expecting item = some expected) (code : UInt8) (data : List UInt8) :
    PendingRequest.matching (answer expected code data) p.poll = none ∧
    ∀ hop : Fin 2, Item.ofHop hop ≠ item →
      PendingRequest.matching (answer expected code data) (getElem p.sendAcks hop (hop_lt hop)) = none := by
  have addressable := held.addressable item expected known
  constructor
  · apply matching_answer_none addressable.sized
    intro poll asked same
    exact (held.polled poll asked).2.2 item expected known same.symm
  · intro hop other
    apply matching_answer_none addressable.sized
    intro reply present same
    rw [← p.expecting_ofHop] at present
    exact other (held.apart _ _ reply expected present known same)

/-- Acknowledging a hop leaves the others to wait for. -/
theorem ack {hop : Fin 2} (held : Awaiting cc body (.ofHop hop :: rest) p)
    (distinct : (Item.ofHop hop :: rest).Nodup) :
    Awaiting cc body rest { p with acked := p.acked.set hop true (hop_lt hop) } where
  outer := held.outer
  present item member := held.present item (List.mem_cons_of_mem _ member)
  acked other := by
    by_cases same : other = hop
    · subst same
      obtain ⟨expected, known⟩ := held.present _ List.mem_cons_self
      rw [p.expecting_ofHop] at known
      have fresh := (List.nodup_cons.mp distinct).1
      simp [known, fresh]
    · have apart : hop.val ≠ other.val := fun equal => same (Fin.ext equal.symm)
      have elsewhere : Item.ofHop other ≠ .ofHop hop := fun equal => same (Item.ofHop_injective equal)
      have kept := held.acked other
      simp only [List.mem_cons, elsewhere, false_or] at kept
      simpa [Vector.getElem_set, apart] using kept
  deferred := by
    have kept := held.deferred
    simpa [(Item.ofHop_ne_final hop).symm, PendingRequest.finalResponse] using kept
  addressable := held.addressable
  apart := held.apart
  polled poll asked := by
    obtain ⟨acked, others⟩ := held.polled poll asked
    exact ⟨List.not_mem_of_not_mem_cons acked, others⟩

/-- Storing the final reply leaves the acknowledgements to wait for. -/
theorem store (held : Awaiting cc body (.finalReply :: rest) p)
    (distinct : (Item.finalReply :: rest).Nodup) :
    Awaiting cc body rest { p with deferred := some (p.finalResponse cc body) } where
  outer := held.outer
  present item member := held.present item (List.mem_cons_of_mem _ member)
  acked hop := by
    have kept := held.acked hop
    simpa [Item.ofHop_ne_final hop] using kept
  deferred := by
    have fresh := (List.nodup_cons.mp distinct).1
    simp [fresh, PendingRequest.finalResponse]
  addressable := held.addressable
  apart := held.apart
  polled poll asked := by
    obtain ⟨acked, others⟩ := held.polled poll asked
    exact ⟨List.not_mem_of_not_mem_cons acked, others⟩

/-- The final reply is returned if it is the last, and stored otherwise. -/
theorem receive_final (held : Awaiting cc body (.finalReply :: rest) p)
    (distinct : (Item.finalReply :: rest).Nodup) (supported : Bool) :
    ∃ q, p.receiveLayer (answer p.finalReply cc body) supported =
        ⟨.done (.ok (if rest = [] then some (p.finalResponse cc body) else none)), q, supported⟩ ∧
      SameAside p q ∧ (rest ≠ [] → Awaiting cc body rest q) := by
  have known : p.expecting .finalReply = some p.finalReply := rfl
  obtain ⟨unpolled, unacked⟩ := held.unmatched known cc body
  have addressable := held.addressable _ _ known
  have layer := p.receiveLayer_final unpolled
    (fun hop => unacked hop (Item.ofHop_ne_final hop)) supported
  rw [layer, PendingRequest.receiveFinal, correlate_answer addressable.sized cc body]
  simp only
  by_cases last : rest = []
  · have ready : p.allAcked = true := by
      rw [held.allAcked_iff, last]
      simp [Item.ofHop_ne_final]
    rw [if_pos ready, if_pos last]
    exact ⟨p, rfl, .refl p, fun more => absurd last more⟩
  · have early : ¬ p.allAcked = true := by
      rw [held.allAcked_iff]
      intro acks
      apply last
      apply eq_nil_of_items
      · intro hop member
        exact acks hop (List.mem_cons_of_mem _ member)
      · exact (List.nodup_cons.mp distinct).1
    have free : ¬ p.deferred.isSome = true := by simp [held.deferred]
    rw [if_neg early, if_neg free, if_neg last]
    exact ⟨_, rfl, ⟨⟨rfl, rfl⟩, rfl, rfl, rfl⟩, fun _ => held.store distinct⟩

/-- An acknowledgement leads on to what is nested in it; one with an empty body
releases the stored reply if nothing else is waited for. -/
theorem receive_ack {hop : Fin 2} {expected : ExpectedReply}
    (held : Awaiting cc body (.ofHop hop :: remaining) p)
    (distinct : (Item.ofHop hop :: remaining).Nodup) (known : p.expecting (.ofHop hop) = some expected)
    (data : List UInt8) (supported : Bool) :
    let q := { p with acked := p.acked.set hop true (hop_lt hop) }
    p.receiveLayer (answer expected 0 data) supported =
      if data ≠ [] then ⟨.nested data, q, supported⟩
      else if q.allAcked then ⟨.done (.ok p.deferred), { q with deferred := none }, supported⟩
      else ⟨.done (.ok none), q, supported⟩ := by
  intro q
  obtain ⟨unpolled, unacked⟩ := held.unmatched known 0 data
  have addressable := held.addressable _ _ known
  have present := known
  rw [p.expecting_ofHop] at present
  have first : hop = 1 →
      PendingRequest.matching (answer expected 0 data) p.sendAcks[0] = none := by
    rintro rfl
    exact unacked 0 (by decide)
  have fresh : ¬ p.acked[hop] = true := by
    rw [held.acked hop]
    simp
  rw [p.receiveLayer_ack hop unpolled first present (correlate_answer addressable.sized 0 data)]
  simp only [PendingRequest.receiveAck, fresh, Bool.false_eq_true, ↓reduceIte]
  have released := (held.ack distinct).released_iff
  have code : Response.cc ⟨expected.sequence.toNat, ⟨expected.netfn, expected.cmd, 0 :: data⟩,
      by simp⟩ = 0 := rfl
  have tail : Response.data ⟨expected.sequence.toNat, ⟨expected.netfn, expected.cmd, 0 :: data⟩,
      by simp⟩ = data := rfl
  simp only [code, tail, ne_eq, not_true_eq_false, ↓reduceIte]
  by_cases empty : data = []
  · simp only [empty, not_true_eq_false, ↓reduceIte, released]
    rfl
  · simp only [empty, not_false_eq_true, ↓reduceIte]
    rfl

/-- An acknowledgement with an empty body leads to the response if it is the
last reply waited for. -/
theorem receive_bare_ack {hop : Fin 2} {expected : ExpectedReply}
    (held : Awaiting cc body (.ofHop hop :: rest) p) (distinct : (Item.ofHop hop :: rest).Nodup)
    (known : p.expecting (.ofHop hop) = some expected) (supported : Bool) :
    ∃ q, p.receiveLayer (answer expected 0 []) supported =
        ⟨.done (.ok (if rest = [] then some (p.finalResponse cc body) else none)), q, supported⟩ ∧
      SameAside p q ∧ (rest ≠ [] → Awaiting cc body rest q) := by
  have acked := held.ack distinct
  rw [held.receive_ack distinct known, if_neg (by simp)]
  by_cases ready : ({ p with acked := p.acked.set hop true } : PendingRequest).allAcked = true
  · rw [if_pos ready]
    have acks := acked.allAcked_iff.mp ready
    have kept : p.deferred = if .finalReply ∈ rest then none else some (p.finalResponse cc body) :=
      acked.deferred
    by_cases missing : .finalReply ∈ rest
    · rw [if_pos missing] at kept
      have more : rest ≠ [] := List.ne_nil_of_mem missing
      have unchanged : ({ p with acked := p.acked.set hop true, deferred := none } : PendingRequest) =
          { p with acked := p.acked.set hop true } := by rw [← kept]
      rw [if_neg more, kept, unchanged]
      exact ⟨_, rfl, ⟨⟨rfl, rfl⟩, rfl, rfl, rfl⟩, fun _ => acked⟩
    · rw [if_neg missing] at kept
      have complete := eq_nil_of_items acks missing
      rw [if_pos complete, kept]
      exact ⟨_, rfl, ⟨⟨rfl, rfl⟩, rfl, rfl, rfl⟩, fun more => absurd complete more⟩
  · rw [if_neg ready]
    have more : rest ≠ [] := by
      rintro rfl
      exact ready (acked.allAcked_iff.mpr (by simp))
    rw [if_neg more]
    exact ⟨_, rfl, ⟨⟨rfl, rfl⟩, rfl, rfl, rfl⟩, fun _ => acked⟩

/-- A packet is not empty. -/
theorem chainPacket_ne_nil (held : Awaiting cc body remaining p) {chain : List Item}
    (nonempty : chain ≠ []) (within : chain ⊆ remaining) : p.chainPacket cc body chain ≠ [] := by
  cases chain with
  | nil => exact absurd rfl nonempty
  | cons item tail =>
    obtain ⟨expected, known⟩ := held.present item (within List.mem_cons_self)
    simp only [PendingRequest.chainPacket, known, Option.elim_some]
    cases item <;> simp [answer]

/-- A packet is found in the queue with or without its destination address,
and is long enough to be looked for there. -/
theorem queuedPacket_chainPacket (held : Awaiting cc body remaining p) {chain : List Item}
    (nonempty : chain ≠ []) (within : chain ⊆ remaining) (short : Bool) :
    let queued := if short then (p.chainPacket cc body chain).tail else p.chainPacket cc body chain
    7 ≤ queued.length ∧ PendingRequest.queuedPacket queued = some (p.chainPacket cc body chain) := by
  cases chain with
  | nil => exact absurd rfl nonempty
  | cons item tail =>
    obtain ⟨expected, known⟩ := held.present item (within List.mem_cons_self)
    have addressable := held.addressable item expected known
    obtain ⟨code, data, shape⟩ : ∃ code data,
        p.chainPacket cc body (item :: tail) = answer expected code data := by
      simp only [PendingRequest.chainPacket, known, Option.elim_some]
      cases item <;> exact ⟨_, _, rfl⟩
    rw [shape]
    obtain ⟨whole, headless⟩ := queuedPacket_answer addressable code data
    cases short with
    | true => exact ⟨by simp [answer], headless⟩
    | false => exact ⟨by simp [answer], whole⟩

/-- Whatever replies a packet brings, receiving it records them all, and
returns the response exactly when none remain. -/
theorem receive_chain (left : Nat) (chain : List Item) (p : PendingRequest) (supported : Bool)
    (held : Awaiting cc body (chain ++ rest) p) (distinct : (chain ++ rest).Nodup)
    (nonempty : chain ≠ []) (innermost : .finalReply ∉ chain.dropLast) (within : chain.length ≤ left) :
    let r := p.receiveNested left (p.chainPacket cc body chain) supported
    r.result = .ok (if rest = [] then some (p.finalResponse cc body) else none) ∧
    SameAside p r.pending ∧ r.getMessageSupported = supported ∧ (rest ≠ [] → Awaiting cc body rest r.pending) := by
  induction chain generalizing left p supported with
  | nil => exact absurd rfl nonempty
  | cons item tail ih =>
    obtain ⟨left, rfl⟩ := Nat.exists_eq_succ_of_ne_zero (Nat.ne_of_gt
      (Nat.lt_of_lt_of_le (by simp) within))
    rcases item.eq_final_or_ofHop with rfl | ⟨hop, rfl⟩
    · have alone : tail = [] := by
        cases tail with
        | nil => rfl
        | cons => simp at innermost
      subst alone
      obtain ⟨q, shape, same, next⟩ := held.receive_final distinct supported
      rw [p.chainPacket_final]
      simp only [PendingRequest.receiveNested]
      rw [shape]
      exact ⟨rfl, same, rfl, next⟩
    · obtain ⟨expected, known⟩ := held.present _ List.mem_cons_self
      rw [PendingRequest.chainPacket_ack (Item.ofHop_ne_final hop) known]
      simp only [PendingRequest.receiveNested]
      have acked := held.ack distinct
      have aside : SameAside p { p with acked := p.acked.set hop true } := ⟨⟨rfl, rfl⟩, rfl, rfl, rfl⟩
      have same := aside.same
      by_cases last : tail = []
      · subst last
        obtain ⟨q, shape, kept, next⟩ := held.receive_bare_ack distinct known supported
        rw [PendingRequest.chainPacket, shape]
        exact ⟨rfl, kept, rfl, next⟩
      · have body := acked.chainPacket_ne_nil last (List.subset_append_left tail rest)
        rw [PendingRequest.chainPacket_same same] at body
        rw [held.receive_ack distinct known, if_pos body, ← PendingRequest.chainPacket_same same, ← PendingRequest.finalResponse_same same]
        obtain ⟨result, kept, still, next⟩ := ih left _ supported acked (List.nodup_cons.mp distinct).2 last
          (by
            intro member
            apply innermost
            rw [List.dropLast_cons_of_ne_nil last]
            exact List.mem_cons_of_mem _ member)
          (Nat.le_of_succ_le_succ within)
        exact ⟨result, aside.trans kept, still, next⟩

/-- The reply to a poll ends it and changes nothing else that is waited for. -/
theorem unpolled (held : Awaiting cc body remaining p) (available : Bool) :
    Awaiting cc body remaining { p with poll := none, queueAvailable := available } where
  outer := held.outer
  present := held.present
  acked := held.acked
  deferred := held.deferred
  addressable := held.addressable
  apart := held.apart
  polled := by simp

/-- The answer to the outstanding poll is taken for just that. -/
theorem receive_poll {poll : ExpectedReply} (held : Awaiting cc body remaining p)
    (asked : p.poll = some poll) (code : UInt8) (data : List UInt8) (supported : Bool) :
    ∃ response : Response, response.cc = code ∧ response.data = data ∧
      p.receiveLayer (answer poll code data) supported = p.receivePoll poll response supported :=
  ⟨_, rfl, rfl, p.receiveLayer_poll asked
    (correlate_answer (held.polled poll asked).2.1.sized code data) supported⟩

end Awaiting

/-- The request agrees with how the polls stand, and its polls are not blocked. -/
structure Poised (polls : Polls) (p : PendingRequest) : Prop where
  unblocked : p.pollBlocked = false
  available : p.queueAvailable = polls.available
  outstanding : p.poll.isSome = polls.outstanding
  command : ∀ poll, p.poll = some poll →
    poll.cmd = if polls.available then GET_MESSAGE else GET_MESSAGE_FLAGS

theorem Poised.aside {polls : Polls} {p q : PendingRequest} (poised : Poised polls p)
    (aside : Awaiting.SameAside p q) : Poised polls q where
  unblocked := aside.pollBlocked.trans poised.unblocked
  available := aside.queueAvailable.trans poised.available
  outstanding := by rw [aside.poll, poised.outstanding]
  command poll asked := poised.command poll (aside.poll.symm.trans asked)

theorem Poised.answered {polls : Polls} {p : PendingRequest} (poised : Poised polls p) (available : Bool) :
    Poised ⟨available, false⟩ { p with poll := none, queueAvailable := available } :=
  ⟨poised.unblocked, rfl, rfl, by rintro poll ⟨⟩⟩

/-- What is due can happen, unless it is a poll. -/
theorem Poised.packet {polls : Polls} {p : PendingRequest} (poised : Poised polls p) (cc : UInt8)
    (body : List UInt8) {acked : Bool} {delivery : Delivery} (due : delivery.due acked polls = true)
    (packet : delivery ≠ .poll) : (delivery.packet p cc body).isSome = true := by
  have asked (outstanding : polls.outstanding = true) : ∃ poll, p.poll = some poll ∧
      poll.cmd = if polls.available then GET_MESSAGE else GET_MESSAGE_FLAGS := by
    obtain ⟨poll, asked⟩ := Option.isSome_iff_exists.mp (poised.outstanding.trans outstanding)
    exact ⟨poll, asked, poised.command poll asked⟩
  cases delivery with
  | poll => exact absurd rfl packet
  | direct chain => rfl
  | flags value =>
    simp only [Delivery.due, Bool.and_eq_true, Bool.not_eq_true'] at due
    obtain ⟨poll, found, command⟩ := asked due.1
    rw [due.2] at command
    simp [Delivery.packet, found, command]
  | empty | queued short chain =>
    simp only [Delivery.due, Bool.and_eq_true] at due
    obtain ⟨poll, found, command⟩ := asked due.1
    rw [due.2] at command
    simp [Delivery.packet, found, command]

/-! ### One delivery -/

section delivery
variable {cc : UInt8} {body : List UInt8} {remaining rest : List Item} {p : PendingRequest}

/-- A delivery never makes `receive` fail: it returns the response exactly if
it leaves nothing to wait for. -/
private theorem Awaiting.receive_delivery (held : Awaiting cc body remaining p)
    (distinct : remaining.Nodup) (more : remaining ≠ []) {delivery : Delivery} {packet : List UInt8}
    (due : delivery.packet p cc body = some packet)
    (nonempty : delivery.carries = true → delivery.chain ≠ [])
    (innermost : .finalReply ∉ delivery.chain.dropLast)
    (split : (delivery.chain ++ rest).Perm remaining) (supported : Bool) :
    let r := p.receiveNested 3 packet supported
    r.result = .ok (if rest = [] then some (p.finalResponse cc body) else none) ∧
    SameRequest p r.pending ∧ r.getMessageSupported = supported ∧
    (∀ polls, Poised polls p → Poised (delivery.after polls) r.pending) ∧
    (rest ≠ [] → Awaiting cc body rest r.pending) := by
  have apart : (delivery.chain ++ rest).Nodup := split.nodup_iff.mpr distinct
  have waits := held.of_perm split.symm
  have bare (empty : delivery.chain = []) : rest ≠ [] ∧ Awaiting cc body rest p := by
    rw [empty, List.nil_append] at split waits
    exact ⟨fun nothing => more (List.perm_nil.mp (nothing ▸ split.symm)), waits⟩
  cases delivery with
  | poll => cases due
  | direct chain =>
    obtain rfl := Option.some.inj due
    obtain ⟨result, aside, still, next⟩ := waits.receive_chain 3 chain p supported apart (nonempty rfl)
      innermost (Item.length_le (List.nodup_append.mp apart).1)
    exact ⟨result, aside.same, still, fun _ poised => poised.aside aside, next⟩
  | flags value =>
    obtain ⟨more, waits⟩ := bare rfl
    obtain ⟨poll, asked, sent⟩ := Option.bind_eq_some_iff.mp due
    by_cases flags : poll.cmd = GET_MESSAGE_FLAGS
    · rw [if_pos flags] at sent
      obtain rfl := Option.some.inj sent
      obtain ⟨response, code, data, layer⟩ := held.receive_poll asked 0 [value] supported
      simp only [PendingRequest.receiveNested]
      rw [layer, if_neg more]
      simp only [PendingRequest.receivePoll, code, data, flags, ne_eq, not_true_eq_false, ↓reduceIte]
      exact ⟨trivial, ⟨rfl, rfl⟩, trivial, fun _ poised => poised.answered _, fun _ => waits.unpolled _⟩
    · rw [if_neg flags] at sent
      cases sent
  | empty =>
    obtain ⟨more, waits⟩ := bare rfl
    obtain ⟨poll, asked, sent⟩ := Option.bind_eq_some_iff.mp due
    by_cases fetch : poll.cmd = GET_MESSAGE
    · rw [if_pos fetch] at sent
      obtain rfl := Option.some.inj sent
      obtain ⟨response, code, data, layer⟩ := held.receive_poll asked 0x80 [] supported
      have refused : (0x80 : UInt8) ≠ 0 := by decide
      simp only [PendingRequest.receiveNested]
      rw [layer, if_neg more, PendingRequest.receivePoll]
      simp only [code, refused, fetch, ne_eq, not_false_eq_true, and_self, ↓reduceIte]
      exact ⟨trivial, ⟨rfl, rfl⟩, trivial, fun _ poised => poised.answered false, fun _ => waits.unpolled _⟩
    · rw [if_neg fetch] at sent
      cases sent
  | queued short chain =>
    have waits : Awaiting cc body (chain ++ rest) p := waits
    have nonempty : chain ≠ [] := nonempty rfl
    obtain ⟨poll, asked, sent⟩ := Option.bind_eq_some_iff.mp due
    by_cases fetch : poll.cmd = GET_MESSAGE
    · rw [if_pos fetch] at sent
      obtain rfl := Option.some.inj sent
      have opened := waits.unpolled false
      have same : SameRequest p { p with poll := none, queueAvailable := false } := ⟨rfl, rfl⟩
      have acked : .outerAck ∉ chain := fun member =>
        (waits.polled poll asked).1 (List.mem_append_left _ member)
      obtain ⟨response, code, data, layer⟩ := held.receive_poll asked 0
        (p.queueChannel :: if short then (p.chainPacket cc body chain).tail
          else p.chainPacket cc body chain) supported
      obtain ⟨long, found⟩ :=
        waits.queuedPacket_chainPacket nonempty (List.subset_append_left chain rest) short
      have fetched : GET_MESSAGE ≠ GET_MESSAGE_FLAGS := by decide
      have enough : ¬ (p.queueChannel :: if short then (p.chainPacket cc body chain).tail
          else p.chainPacket cc body chain).length < 8 := by
        rw [List.length_cons]
        omega
      have nested := opened.receive_chain 2 chain _ supported apart nonempty innermost
        (Item.length_le_of_queued (List.nodup_append.mp apart).1 acked)
      rw [PendingRequest.chainPacket_same same, PendingRequest.finalResponse_same same] at nested
      rw [PendingRequest.receiveNested, layer, PendingRequest.receivePoll]
      simp only [code, data, fetch, fetched, enough, found, ne_eq, not_true_eq_false, ↓reduceIte,
        List.getElem!_cons_zero, List.drop_succ_cons, List.drop_zero]
      obtain ⟨result, aside, still, next⟩ := nested
      exact ⟨result, same.trans aside.same, still, fun _ poised => (poised.answered false).aside aside, next⟩
    · rw [if_neg fetch] at sent
      cases sent

end delivery

/-! ### Whole scripts -/

/-- The session waits for the replies in `remaining`, to return `response`. -/
structure Waiting (cc : UInt8) (body : List UInt8) (response : Response) (remaining : List Item)
    (s : IpmbState) : Prop where
  addressed : s.responderAddr ≠ 0
  pending : ∃ p n, s.pending = some p ∧ Awaiting cc body remaining p ∧
    p.finalResponse cc body = response ∧ Allocated n s ∧
    ∀ item expected, p.expecting item = some expected → expected.sequence.toNat < n

namespace Waiting
variable {cc : UInt8} {body : List UInt8} {response : Response} {remaining rest : List Item}
  {s : IpmbState}

/-- A poll takes a sequence of its own and otherwise changes nothing. -/
theorem poll (held : Waiting cc body response remaining s) {payload : List UInt8}
    (polled : s.pollMessage.1 = .ok payload) : Waiting cc body response remaining s.pollMessage.2 := by
  obtain ⟨p, n, found, awaiting, same, allocated, below⟩ := held.pending
  rcases s.pollMessage_cases with ⟨error, refused⟩ | ⟨q, -, -, -, blocked⟩ |
    ⟨q, again, needed, -, unused, taken⟩
  · rw [refused] at polled
    cases polled
  · rw [blocked] at polled
    cases polled
  obtain rfl := Option.some.inj (again.symm.trans found)
  have room := allocated.room_of_free unused
  obtain ⟨sequence, next⟩ := allocated.nextReply room APP_NETFN
    (if s.queueAvailable then GET_MESSAGE else GET_MESSAGE_FLAGS) s.responderAddr .zero s.requestorAddr
  have acked : .outerAck ∉ remaining := by
    have flag : q.acked[0] = true := by
      simp only [IpmbState.needsPoll, again, Option.any_some, Bool.and_eq_true] at needed
      exact needed.1.2
    exact ((awaiting.acked 0).mp flag).2
  rw [taken]
  refine ⟨held.addressed, _, n + 1, rfl, { awaiting with polled := ?_ }, same,
    next.of_same rfl rfl, fun item expected known => Nat.lt_succ_of_lt (below item expected known)⟩
  intro reply asked
  obtain rfl := Option.some.inj asked
  have netfn : APP_NETFN + 1 < 64 := by decide
  refine ⟨acked, ⟨?_, netfn, held.addressed⟩, ?_⟩
  · rw [UInt8.lt_iff_toNat_lt, sequence]
    exact room
  · intro item expected known equal
    have less := below item expected known
    rw [equal, sequence] at less
    exact Nat.lt_irrefl n less

/-- A packet delivered makes `receive` succeed. -/
theorem receive (held : Waiting cc body response remaining s) (distinct : remaining.Nodup)
    (more : remaining ≠ []) {delivery : Delivery} {p : PendingRequest} (found : s.pending = some p) {packet : List UInt8}
    (due : delivery.packet p cc body = some packet)
    (nonempty : delivery.carries = true → delivery.chain ≠ [])
    (innermost : .finalReply ∉ delivery.chain.dropLast)
    (split : (delivery.chain ++ rest).Perm remaining) :
    (s.receive packet).1 = .ok (if rest = [] then some response else none) ∧
    (rest = [] → (s.receive packet).2.pending = none) ∧
    (rest ≠ [] → Waiting cc body response rest (s.receive packet).2) := by
  obtain ⟨q, n, again, awaiting, same, allocated, below⟩ := held.pending
  obtain rfl := Option.some.inj (again.symm.trans found)
  obtain ⟨result, kept, -, -, next⟩ := awaiting.receive_delivery distinct more due nonempty innermost
    split s.getMessageSupported
  rw [same] at result
  rw [IpmbState.receive_pending found, result]
  by_cases last : rest = []
  · simp only [last, ↓reduceIte, true_and, ne_eq, not_true_eq_false, forall_const]
    exact fun absurd => absurd.elim
  · simp only [last, ↓reduceIte, true_and, ne_eq, not_false_eq_true, forall_const, false_implies]
    refine ⟨held.addressed, _, n, rfl, next last, ?_, allocated.of_same rfl rfl, ?_⟩
    · rw [PendingRequest.finalResponse_same kept, same]
    · intro item expected known
      rw [PendingRequest.expecting_same kept] at known
      exact below item expected known

end Waiting

/-- Nothing can be delivered to a session that waits for nothing, unless it
still brings a packet. -/
theorem play_idle {cc : UInt8} {body : List UInt8} {s : IpmbState} (idle : s.pending = none)
    {script : List Delivery} {results : List (Except RmcpIpmiReceiveError (Option Response))}
    {final : IpmbState} (played : play cc body s script = some (results, final)) :
    script = [] ∧ results = [] ∧ final = s := by
  cases script with
  | nil => cases played; exact ⟨rfl, rfl, rfl⟩
  | cons delivery script =>
    cases delivery with
    | poll => simp [play, IpmbState.pollMessage, idle] at played
    | _ => simp [play, idle] at played

/-- Playing a packet receives it and goes on. -/
theorem play_packet {cc : UInt8} {body : List UInt8} {s : IpmbState} {delivery : Delivery}
    (packet : delivery ≠ .poll) (rest : List Delivery) :
    play cc body s (delivery :: rest) = do
      let p ← s.pending
      let packet ← delivery.packet p cc body
      let (results, final) ← play cc body (s.receive packet).2 rest
      return ((s.receive packet).1 :: results, final) := by
  cases delivery with
  | poll => exact absurd rfl packet
  | _ => rfl

/-- Whatever the order, a script that brings every reply leads to the response
with its last packet, and to nothing before. -/
theorem play_waiting {cc : UInt8} {body : List UInt8} {response : Response} (script : List Delivery)
    (remaining : List Item) (s : IpmbState) (held : Waiting cc body response remaining s)
    (distinct : remaining.Nodup) (more : remaining ≠ [])
    (once : (script.flatMap (·.chain)).Perm remaining)
    (nonempty : ∀ delivery ∈ script, delivery.carries = true → delivery.chain ≠ [])
    (innermost : ∀ delivery ∈ script, .finalReply ∉ delivery.chain.dropLast)
    {results : List (Except RmcpIpmiReceiveError (Option Response))} {final : IpmbState}
    (played : play cc body s script = some (results, final)) :
    (∃ waits, results = List.replicate waits (.ok none) ++ [.ok (some response)]) ∧
    final.pending = none := by
  induction script generalizing remaining s results with
  | nil => exact absurd (List.nil_perm.mp once) more
  | cons delivery script ih =>
    have nonempty' := fun d member => nonempty d (List.mem_cons_of_mem delivery member)
    have innermost' := fun d member => innermost d (List.mem_cons_of_mem delivery member)
    by_cases polls : delivery = .poll
    · subst polls
      rw [play] at played
      split at played
      · rename_i payload t polled
        have first : s.pollMessage.1 = .ok payload := by rw [polled]
        have next := held.poll first
        rw [polled] at next
        exact ih remaining t next distinct more once nonempty' innermost' played
      · cases played
    · rw [play_packet polls] at played
      obtain ⟨p, found, played⟩ := Option.bind_eq_some_iff.mp played
      obtain ⟨packet, due, played⟩ := Option.bind_eq_some_iff.mp played
      obtain ⟨⟨later, last⟩, rest, shape⟩ := Option.bind_eq_some_iff.mp played
      cases shape
      have split : (delivery.chain ++ script.flatMap (·.chain)).Perm remaining := once
      obtain ⟨result, done, next⟩ := held.receive distinct more found due
        (nonempty delivery List.mem_cons_self) (innermost delivery List.mem_cons_self) split
      by_cases complete : script.flatMap (·.chain) = []
      · obtain ⟨-, rfl, rfl⟩ := play_idle (done complete) rest
        rw [result, if_pos complete]
        exact ⟨⟨0, rfl⟩, done complete⟩
      · have apart := (List.nodup_append.mp (split.nodup_iff.mpr distinct)).2.1
        obtain ⟨⟨waits, rfl⟩, idle⟩ :=
          ih _ _ (next complete) apart complete (.refl _) nonempty' innermost' rest
        rw [result, if_neg complete]
        exact ⟨⟨waits + 1, rfl⟩, idle⟩

/-- The session agrees with how the polls stand, and can grant `count` more. -/
structure Polling (polls : Polls) (count : Nat) (s : IpmbState) : Prop where
  poised : ∃ p, s.pending = some p ∧ Poised polls p
  supported : 0 < count → s.getMessageSupported = true
  room : 0 < count → count + s.reservedSequences.getD 0 ≤ s.remainingSequences

section polling
variable {cc : UInt8} {body : List UInt8} {response : Response} {remaining rest : List Item}
  {s : IpmbState} {polls : Polls} {count : Nat}

/-- A poll that is due is granted. -/
theorem Waiting.poll_granted (held : Waiting cc body response remaining s) (acked : .outerAck ∉ remaining)
    (polling : Polling polls (count + 1) s) (idle : polls.outstanding = false) :
    ∃ payload, s.pollMessage.1 = .ok payload ∧ Polling { polls with outstanding := true } count s.pollMessage.2 := by
  obtain ⟨p, found, poised⟩ := polling.poised
  obtain ⟨q, n, again, awaiting, -, allocated, -⟩ := held.pending
  obtain rfl := Option.some.inj (again.symm.trans found)
  have room := polling.room (Nat.succ_pos count)
  rw [allocated.remainingSequences_eq] at room
  have supported := polling.supported (Nat.succ_pos count)
  have flag : getElem q.acked 0 Nat.two_pos = true := (awaiting.acked 0).mpr ⟨awaiting.outer, acked⟩
  have outer := awaiting.outer
  have asked : q.poll = none := by
    rw [← Option.not_isSome_iff_eq_none, poised.outstanding, idle]
    exact Bool.false_ne_true
  have needs : s.needsPoll = true := by
    simp [IpmbState.needsPoll, again, supported, poised.unblocked, outer, flag, asked]
  have free : ¬s.reservedSequences.any (s.remainingSequences ≤ ·) = true := by
    rw [allocated.remainingSequences_eq]
    cases reserved : s.reservedSequences with
    | none => simp
    | some minimum =>
      rw [reserved, Option.getD_some] at room
      simp only [Option.any_some, decide_eq_true_eq]
      omega
  have unused := allocated.free_of_room (by omega)
  have available : s.queueAvailable = polls.available := by
    rw [IpmbState.queueAvailable, again, Option.any_some, poised.available]
  let taken := s.nextReply APP_NETFN (if s.queueAvailable then GET_MESSAGE else GET_MESSAGE_FLAGS)
    s.responderAddr .zero s.requestorAddr
  have granted : s.pollMessage = (.ok (ipmbRequest taken.1 []),
      { taken.2 with pending := some { q with poll := some taken.1 } }) := by
    simp [IpmbState.pollMessage, again, needs, free, unused, taken]
  have issued : Allocated (n + 1) taken.2 := (allocated.nextReply (by omega) _ _ _ _ _).2
  have next : Allocated (n + 1) { taken.2 with pending := some { q with poll := some taken.1 } } :=
    issued.of_same rfl rfl
  rw [granted]
  refine ⟨_, rfl, ⟨_, rfl, poised.unblocked, poised.available, rfl, ?_⟩, fun _ => supported, fun _ => ?_⟩
  · rintro poll ⟨⟩
    rw [← available]
    rfl
  · rw [next.remainingSequences_eq]
    change count + s.reservedSequences.getD 0 ≤ 64 - (n + 1)
    omega

/-- A packet leaves a session that still waits able to grant what it could. -/
theorem Waiting.receive_polling (held : Waiting cc body response remaining s) (distinct : remaining.Nodup)
    (more : remaining ≠ []) (polling : Polling polls count s) {delivery : Delivery} {acked : Bool}
    (due : delivery.due acked polls = true) (packet : delivery ≠ .poll)
    (nonempty : delivery.carries = true → delivery.chain ≠ [])
    (innermost : .finalReply ∉ delivery.chain.dropLast)
    (split : (delivery.chain ++ rest).Perm remaining) (last : rest ≠ []) :
    ∃ p data, s.pending = some p ∧ delivery.packet p cc body = some data ∧
      Waiting cc body response rest (s.receive data).2 ∧
      Polling (delivery.after polls) count (s.receive data).2 := by
  obtain ⟨p, found, poised⟩ := polling.poised
  obtain ⟨q, n, again, awaiting, same, allocated, below⟩ := held.pending
  obtain rfl := Option.some.inj (again.symm.trans found)
  obtain ⟨data, sent⟩ := Option.isSome_iff_exists.mp (poised.packet cc body due packet)
  obtain ⟨-, -, onward⟩ := held.receive distinct more found sent nonempty innermost split
  obtain ⟨result, -, still, moved, -⟩ := awaiting.receive_delivery distinct more sent nonempty innermost
    split s.getMessageSupported
  refine ⟨q, data, found, sent, onward last, ?_⟩
  have received : (s.receive data).2 = { s with
      pending := some (q.receiveNested 3 data s.getMessageSupported).pending
      getMessageSupported := (q.receiveNested 3 data s.getMessageSupported).getMessageSupported } := by
    rw [IpmbState.receive_pending found, result, if_neg last]
  rw [received]
  exact ⟨⟨_, rfl, moved polls poised⟩, fun some => still.trans (polling.supported some), polling.room⟩

/-- A script whose polls should be granted can be played. -/
theorem play_granted (script : List Delivery) (remaining : List Item) (s : IpmbState) (acked : Bool) (polls : Polls)
    (held : Waiting cc body response remaining s) (distinct : remaining.Nodup) (more : remaining ≠ [])
    (once : (script.flatMap (·.chain)).Perm remaining)
    (nonempty : ∀ delivery ∈ script, delivery.carries = true → delivery.chain ≠ [])
    (innermost : ∀ delivery ∈ script, .finalReply ∉ delivery.chain.dropLast)
    (known : acked = true → .outerAck ∉ remaining) (inOrder : orderly acked polls script = true)
    (ends : ∀ delivery, script.getLast? = some delivery → delivery.carries = true)
    (polling : Polling polls (script.count .poll) s) : (play cc body s script).isSome = true := by
  induction script generalizing remaining s acked polls with
  | nil => rfl
  | cons delivery script ih =>
    have nonempty' := fun d member => nonempty d (List.mem_cons_of_mem delivery member)
    have innermost' := fun d member => innermost d (List.mem_cons_of_mem delivery member)
    have ends' (d : Delivery) (tail : script.getLast? = some d) : d.carries = true := by
      apply ends
      rw [List.getLast?_cons, tail]
      rfl
    rw [orderly, Bool.and_eq_true] at inOrder
    obtain ⟨due, inOrder⟩ := inOrder
    have split : (delivery.chain ++ script.flatMap (·.chain)).Perm remaining := once
    have apart := (List.nodup_append.mp (split.nodup_iff.mpr distinct))
    have known' (later : (acked || delivery.chain.contains .outerAck) = true) :
        .outerAck ∉ script.flatMap (·.chain) := by
      intro member
      rcases Bool.or_eq_true_iff.mp later with before | now
      · exact known before (split.mem_iff.mp (List.mem_append_right _ member))
      · exact apart.2.2 _ (List.contains_iff_mem.mp now) _ member rfl
    by_cases polls' : delivery = .poll
    · subst polls'
      simp only [Delivery.due, Bool.and_eq_true, Bool.not_eq_true'] at due
      rw [List.count_cons_self] at polling
      obtain ⟨payload, granted, onward⟩ := held.poll_granted (known due.1) polling due.2
      have next := held.poll granted
      rw [play]
      generalize s.pollMessage = polled at granted onward next ⊢
      obtain ⟨result, t⟩ := polled
      cases granted
      exact ih remaining t _ _ next distinct more once nonempty' innermost'
        (fun later => known (by simpa [Delivery.chain] using later)) inOrder ends' onward
    · rw [List.count_cons_of_ne polls'] at polling
      rw [play_packet polls']
      by_cases complete : script.flatMap (·.chain) = []
      · obtain ⟨p, found, poised⟩ := polling.poised
        obtain ⟨data, sent⟩ := Option.isSome_iff_exists.mp (poised.packet cc body due polls')
        cases last : script.getLast? with
        | none =>
          rw [List.getLast?_eq_none_iff.mp last, found]
          simp [sent, play]
        | some d =>
          have member := List.mem_of_getLast? last
          have empty := List.flatMap_eq_nil_iff.mp complete d member
          exact absurd empty (nonempty' d member (ends' d last))
      · obtain ⟨p, data, found, sent, next, onward⟩ := held.receive_polling distinct more polling due polls'
          (nonempty delivery List.mem_cons_self) (innermost delivery List.mem_cons_self) split complete
        have rest := ih _ _ _ _ next apart.2.1 complete (.refl _) nonempty' innermost' known' inOrder ends' onward
        obtain ⟨⟨results, final⟩, played⟩ := Option.isSome_iff_exists.mp rest
        rw [found]
        simp [sent, played]

end polling

/-! ### From the accepted request -/

theorem items_nodup (p : PendingRequest) : p.items.Nodup := by
  unfold PendingRequest.items
  split <;> decide

/-- A request that nothing has answered waits for all its replies. -/
theorem fresh_awaiting {finalReply : ExpectedReply} {sendAcks : Vector (Option ExpectedReply) 2}
    {channel : UInt8} {deadline : Instant} (cc : UInt8) (body : List UInt8) :
    let p := PendingRequest.fresh finalReply sendAcks channel deadline
    (getElem sendAcks 0 Nat.two_pos).isSome = true →
    (∀ item expected, p.expecting item = some expected → Addressable expected) →
    (∀ a b x y, p.expecting a = some x → p.expecting b = some y → x.sequence = y.sequence → a = b) →
    Awaiting cc body p.items p := by
  intro p outer addressable apart
  refine ⟨outer, ?_, ?_, ?_, addressable, apart, by simp [p, PendingRequest.fresh]⟩
  · intro item member
    cases item with
    | outerAck => exact Option.isSome_iff_exists.mp outer
    | transitAck =>
      apply Option.isSome_iff_exists.mp
      by_contra missing
      simp [PendingRequest.items, PendingRequest.expecting] at member missing
      simp [missing] at member
    | finalReply => exact ⟨finalReply, rfl⟩
  · refine Fin.forall_fin_two.mpr ⟨?_, ?_⟩
    · simp [p, PendingRequest.fresh, PendingRequest.items, Item.ofHop]
    · simp [p, PendingRequest.fresh, PendingRequest.items, Item.ofHop]
      exact Option.isSome_iff_ne_none.mp
  · simp [p, PendingRequest.fresh, PendingRequest.items]

/-- The addresses of an accepted bridge are those of controllers. -/
theorem checkBridge_ok {s : IpmbState} {request : Request} {target : IpmbTarget}
    {transit : Option IpmbTarget} (checked : s.checkBridge request target transit = .ok ()) :
    target.address ≠ 0 ∧ ∀ hop, transit = some hop → hop.address ≠ 0 := by
  have valid {hop : IpmbTarget} (held : validHop hop = true) : hop.address ≠ 0 := by
    simp only [validHop, Bool.and_eq_true, decide_eq_true_eq] at held
    intro zero
    rw [zero] at held
    exact absurd held.1.1 (by decide)
  unfold IpmbState.checkBridge at checked
  simp only [Bool.or_eq_true, Bool.not_eq_true'] at checked
  split at checked
  · cases checked
  · rename_i good
    rw [not_or, Bool.not_eq_false] at good
    refine ⟨valid good.1, ?_⟩
    rintro hop rfl
    simp only [Option.any_some, Bool.or_eq_true, Bool.not_eq_true', not_or, Bool.not_eq_false] at good
    exact valid good.2.1.1

theorem accept_responderAddr (s : IpmbState) (request : Request) (deadline : Instant) :
    (s.accept request deadline).2.responderAddr = s.responderAddr := by
  unfold IpmbState.accept
  split
  · rename_i transit _
    cases transit <;> rfl
  · rfl

/-- What an accepted bridged request expects: who answers, and with which
function. -/
theorem accept_bridged {s : IpmbState} {request : Request} {target : IpmbTarget}
    {transit : Option IpmbTarget} (routed : s.route request.target = .bridged target transit)
    (deadline : Instant) :
    ∃ finalReply bmcAck transitAck channel,
      (s.accept request deadline).2.pending =
        some (.fresh finalReply #v[some bmcAck, transitAck] channel deadline) ∧
      transitAck.isSome = transit.isSome ∧
      (bmcAck.netfn = APP_NETFN + 1 ∧ bmcAck.responderAddr = s.responderAddr) ∧
      (finalReply.netfn = request.netfn.requestValue + 1 ∧
        finalReply.responderAddr = target.address) ∧
      ∀ ack, transitAck = some ack → ack.netfn = APP_NETFN + 1 ∧
        ∃ hop, transit = some hop ∧ ack.responderAddr = hop.address := by
  unfold IpmbState.accept
  rw [routed]
  cases transit with
  | none => exact ⟨_, _, none, _, rfl, rfl, ⟨rfl, rfl⟩, ⟨rfl, rfl⟩, by simp⟩
  | some hop =>
    refine ⟨_, _, some _, _, rfl, rfl, ⟨rfl, rfl⟩, ⟨rfl, rfl⟩, ?_⟩
    intro ack same
    obtain rfl := Option.some.inj same
    exact ⟨rfl, hop, rfl, rfl⟩

/-- The sequences of the replies a request waits for follow one another. -/
private theorem sequences_consecutive {finalReply bmcAck : ExpectedReply}
    {transitAck : Option ExpectedReply} {channel : UInt8} {deadline : Instant} {n count : Nat} :
    let p := PendingRequest.fresh finalReply #v[some bmcAck, transitAck] channel deadline
    p.sequences.map (·.toNat) = List.range' n count →
    bmcAck.sequence.toNat = n ∧ (∀ ack, transitAck = some ack → ack.sequence.toNat = n + 1) ∧
      finalReply.sequence.toNat + 1 = n + count ∧ count = 2 + transitAck.toList.length := by
  intro p sequences
  have length : p.sequences.length = count := by simpa using congrArg List.length sequences
  cases transitAck with
  | none =>
    obtain rfl : count = 2 := by simpa [p, PendingRequest.sequences, PendingRequest.fresh,
      List.reduceOption] using length.symm
    simp [p, PendingRequest.sequences, PendingRequest.fresh, List.reduceOption, List.range'] at sequences
    exact ⟨sequences.1, by simp, by omega, rfl⟩
  | some ack =>
    obtain rfl : count = 3 := by simpa [p, PendingRequest.sequences, PendingRequest.fresh,
      List.reduceOption] using length.symm
    simp [p, PendingRequest.sequences, PendingRequest.fresh, List.reduceOption, List.range'] at sequences
    refine ⟨sequences.1, ?_, by omega, rfl⟩
    intro other same
    obtain rfl := Option.some.inj same
    exact sequences.2.1

/-- An accepted bridged request waits for its acknowledgements and its reply. -/
theorem begin_waiting {n : Nat} {s : IpmbState} (allocated : Allocated n s)
    (addressed : s.responderAddr ≠ 0) {request : Request} {deadline : Instant} {target : IpmbTarget}
    {transit : Option IpmbTarget} (routed : s.route request.target = .bridged target transit)
    {payload : List UInt8} (accepted : (s.begin request deadline).1 = .ok payload) (cc : UInt8)
    (body : List UInt8) :
    ∃ p, (s.begin request deadline).2.pending = some p ∧
      (getElem p.sendAcks 1 Nat.one_lt_two).isSome = transit.isSome ∧ Poised ⟨false, false⟩ p ∧
      Waiting cc body (p.finalResponse cc body) p.items (s.begin request deadline).2 := by
  rcases s.begin_cases request deadline with ⟨error, -, refused⟩ | ⟨checked, admitted⟩
  · rw [refused] at accepted
    cases accepted
  obtain ⟨-, netfn, bridge, -, unused⟩ := IpmbState.checkBegin_ok checked
  have room := allocated.room_of_unused (needed_le_three _) unused
  have start : Allocated n (s.consumeReserved (s.route request.target).needed) :=
    allocated.of_same rfl rfl
  obtain ⟨next, -, p, pending, sequences⟩ := start.accept request deadline (by simpa using room)
  rw [routed] at bridge
  obtain ⟨targeted, hopped⟩ := checkBridge_ok bridge
  have final : request.netfn.requestValue + 1 < 64 := by
    rw [UInt8.lt_iff_toNat_lt, UInt8.toNat_add]
    rw [UInt8.le_iff_toNat_le] at netfn
    change request.netfn.requestValue.toNat ≤ 62 at netfn
    change (request.netfn.requestValue.toNat + 1) % 256 < 64
    omega
  have app : APP_NETFN + 1 < 64 := by decide
  rw [IpmbState.route_consumeReserved] at sequences next
  obtain ⟨finalReply, bmcAck, transitAck, channel, fresh, hops, ⟨bmcNetfn, bmcAddr⟩,
    ⟨finalNetfn, finalAddr⟩, transitFields⟩ := accept_bridged
      (s := s.consumeReserved (s.route request.target).needed)
      ((s.route_consumeReserved _ _).trans routed) deadline
  obtain rfl := Option.some.inj (fresh.symm.trans pending)
  obtain ⟨first, second, third, count⟩ := sequences_consecutive sequences
  generalize (s.route request.target).needed = needed at *
  have place : ∀ item expected,
      (PendingRequest.fresh finalReply #v[some bmcAck, transitAck] channel deadline).expecting item =
        some expected →
      expected.sequence.toNat + 1 ≤ n + needed ∧ match item with
        | .outerAck => expected.sequence.toNat = n
        | .transitAck => expected.sequence.toNat = n + 1 ∧ needed = 3
        | .finalReply => expected.sequence.toNat + 1 = n + needed := by
    intro item expected known
    cases item with
    | outerAck =>
      obtain rfl : bmcAck = expected := Option.some.inj known
      exact ⟨by omega, first⟩
    | transitAck =>
      have through : transitAck = some expected := known
      have position := second expected through
      have three : needed = 3 := by simpa [through] using count
      exact ⟨by omega, position, three⟩
    | finalReply =>
      obtain rfl : finalReply = expected := Option.some.inj known
      exact ⟨by omega, third⟩
  have bound := next.bound
  have addressed' : ((s.consumeReserved needed).accept request deadline).2.responderAddr ≠ 0 := by
    rw [accept_responderAddr]
    exact addressed
  rw [admitted]
  refine ⟨_, fresh, hops, ⟨rfl, rfl, rfl, by rintro poll ⟨⟩⟩, addressed', _, _, fresh, ?_, rfl, next, ?_⟩
  · apply fresh_awaiting cc body rfl
    · intro item expected known
      have small : expected.sequence < 64 := by
        rw [UInt8.lt_iff_toNat_lt]
        have below := (place item expected known).1
        change expected.sequence.toNat < 64
        omega
      cases item with
      | outerAck =>
        obtain rfl : bmcAck = expected := Option.some.inj known
        exact ⟨small, bmcNetfn ▸ app, bmcAddr ▸ addressed⟩
      | transitAck =>
        obtain ⟨fields, hop, through, address⟩ := transitFields expected known
        exact ⟨small, fields ▸ app, address ▸ hopped hop through⟩
      | finalReply =>
        obtain rfl : finalReply = expected := Option.some.inj known
        exact ⟨small, finalNetfn ▸ final, finalAddr ▸ targeted⟩
    · intro a b x y left right same
      have left := (place a x left).2
      have right := (place b y right).2
      rw [same] at left
      cases a <;> cases b <;> first | rfl | (simp only at left right; omega)
  · intro item expected known
    have below := (place item expected known).1
    omega

theorem step_responderAddr (s : IpmbState) (op : IpmbOp) :
    (s.step op).2.responderAddr = s.responderAddr := by
  cases op with
  | begin request deadline =>
    rcases s.begin_cases request deadline with ⟨error, -, refused⟩ | ⟨-, accepted⟩
    · rw [IpmbState.step, refused]
      rfl
    · rw [IpmbState.step, accepted]
      exact accept_responderAddr _ request deadline
  | pollMessage =>
    rcases s.pollMessage_cases with ⟨error, refused⟩ | ⟨p, -, -, -, blocked⟩ | ⟨p, -, -, -, -, polled⟩
    · rw [IpmbState.step, refused]
      rfl
    · rw [IpmbState.step, blocked]
      rfl
    · rw [IpmbState.step, polled]
      rfl
  | receive data =>
    obtain ⟨pending, supported, shape⟩ := s.receive_frame data
    rw [IpmbState.step, Prod.map_snd, id_eq, shape]
  | retirePending | stopPolling | releaseSequences => rfl
  | reserveSequences minimum =>
    simp only [IpmbState.step, IpmbState.reserveSequences, Prod.map_snd, id_eq]
    split <;> rfl

/-- Packets on their own ask for no poll. -/
theorem grantable_direct (s : IpmbState) {script : List Delivery}
    (direct : ∀ delivery ∈ script, ∃ chain, delivery = .direct chain) : Grantable s script where
  inOrder := by
    generalize false = acked, (⟨false, false⟩ : Polls) = polls
    induction script generalizing acked polls with
    | nil => rfl
    | cons delivery script ih =>
      obtain ⟨chain, rfl⟩ := direct delivery List.mem_cons_self
      exact ih (fun d member => direct d (List.mem_cons_of_mem _ member)) _ _
  ends delivery last := by
    obtain ⟨chain, rfl⟩ := direct delivery (List.mem_of_getLast? last)
    rfl
  supported polls := by
    obtain ⟨chain, same⟩ := direct _ polls
    cases same
  room polls := by
    obtain ⟨chain, same⟩ := direct _ polls
    cases same

/-- For a bridged request accepted anywhere in a run, in whatever order its
acknowledgements and its reply arrive, alone, nested or through the queue,
`receive` never fails, returns one and the same response with the last of
them, and nothing is left pending. Packets on their own can always be played,
and polls are granted whenever they should be. -/
theorem response_independent_of_order (ops : List IpmbOp) (request : Request) (deadline : Instant)
    (target : IpmbTarget) (transit : Option IpmbTarget) (payload : List UInt8)
    (routed : (after IpmbState.step .default ops).route request.target = .bridged target transit)
    (accepted : ((after IpmbState.step .default ops).begin request deadline).1 = .ok payload)
    (cc : UInt8) (body : List UInt8) :
    let s := ((after IpmbState.step .default ops).begin request deadline).2
    ∃ p response, s.pending = some p ∧ (getElem p.sendAcks 1 Nat.one_lt_two).isSome = transit.isSome ∧
      response.cc = cc ∧ response.data = body ∧
      ∀ script, Arrangement p script →
        ((∀ delivery ∈ script, ∃ chain, delivery = .direct chain) →
          (play cc body s script).isSome = true) ∧
        (Grantable s script → (play cc body s script).isSome = true) ∧
        ∀ results final, play cc body s script = some (results, final) →
          (∃ waits, results = List.replicate waits (.ok none) ++ [.ok (some response)]) ∧
          final.pending = none := by
  intro s
  obtain ⟨n, allocated, -⟩ := run_sequences ops
  have addressed : (after IpmbState.step .default ops).responderAddr ≠ 0 := by
    have kept := invariant IpmbState.step (P := fun s => s.responderAddr = 0x20) (s := .default) rfl
      (fun s op held => (step_responderAddr s op).trans held) ops
    rw [kept]
    decide
  obtain ⟨p, pending, hops, poised, waiting⟩ :=
    begin_waiting allocated addressed routed accepted cc body
  have more : p.items ≠ [] := List.cons_ne_nil _ _
  refine ⟨p, p.finalResponse cc body, pending, hops, rfl, rfl, ?_⟩
  intro script arranged
  have granted (grantable : Grantable s script) : (play cc body s script).isSome = true := by
    refine play_granted script p.items _ false ⟨false, false⟩ waiting (items_nodup p) more arranged.once
      arranged.nonempty arranged.innermost (fun absurd => (Bool.false_ne_true absurd).elim) grantable.inOrder
      grantable.ends ⟨⟨p, pending, poised⟩, fun some => ?_, fun some => ?_⟩
    · exact grantable.supported (List.count_pos_iff.mp some)
    · exact grantable.room (List.count_pos_iff.mp some)
  refine ⟨fun direct => granted (grantable_direct _ direct), granted, ?_⟩
  intro results final played
  exact play_waiting script p.items _ waiting (items_nodup p) more arranged.once
    arranged.nonempty arranged.innermost played

/-- A request through a transit controller, in a fresh session: the outer
acknowledgement arrives on its own, the flags report a message at the second
poll, and the third one brings the reply nested in the transit acknowledgement. -/
theorem response_independent_of_order_through_transit :
    let request : Request :=
      ⟨.bridged ⟨0x2c, .primary, .zero⟩ (some ⟨0x24, .primary, .zero⟩), ⟨0x06, 0x01, []⟩⟩
    let s := (IpmbState.default.begin request 0).2
    let script : List Delivery := [.direct [.outerAck], .poll, .flags 0, .poll, .flags 1, .poll, .empty,
      .poll, .flags 1, .poll, .queued true [.transitAck, .finalReply]]
    ∃ response final, response.cc = 0 ∧ response.data = [0x55] ∧
      play 0 [0x55] s script = some ([.ok none, .ok none, .ok none, .ok none, .ok none, .ok (some response)], final) ∧
      final.pending = none := by
  intro request s script
  have order := response_independent_of_order [] request 0 ⟨0x2c, .primary, .zero⟩
    (some ⟨0x24, .primary, .zero⟩) [0x20, 0x18, 0xc8, 0x81, 0x00, 0x34, 0x40, 0x24, 0x18, 0xc4, 0x81, 0x04, 0x34,
      0x40, 0x2c, 0x18, 0xbc, 0x20, 0x08, 0x01, 0xd7, 0x07, 0x0b] (by decide) (by decide) 0 [0x55]
  obtain ⟨p, response, pending, hops, cc, data, arranged⟩ := order
  have through : (getElem p.sendAcks 1 Nat.one_lt_two).isSome = true := hops
  have items : p.items = [.outerAck, .transitAck, .finalReply] := by
    rw [PendingRequest.items, if_pos through]
    rfl
  obtain ⟨-, granted, delivered⟩ := arranged script ⟨by rw [items]; decide, by decide, by decide⟩
  obtain ⟨⟨results, final⟩, played⟩ := Option.isSome_iff_exists.mp
    (granted ⟨by decide, by decide, fun _ => rfl, fun _ => by decide⟩)
  obtain ⟨⟨waits, shape⟩, idle⟩ := delivered results final played
  have count : (play 0 [0x55] s script).map (·.1.length) = some 6 := by decide
  refine ⟨response, final, cc, data, ?_, idle⟩
  have played : play 0 [0x55] s script = some (results, final) := played
  rw [played, Option.map_some, shape, List.length_append, List.length_replicate] at count
  obtain rfl : waits = 5 := Nat.succ.inj (Option.some.inj count)
  rw [played, shape]
  rfl

end IpmiRs.Rmcp
