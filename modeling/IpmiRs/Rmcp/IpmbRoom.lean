import IpmiRs.Rmcp.IpmbReceive
import IpmiRs.Rmcp.IpmbRuns

/-! How many packets one receive call can take. Every packet that `receive`
accepts uses something up that the state does not get back within the call:
a poll's reply, an acknowledgement, the slot for an early final reply. Polls
are limited by the sequences left. -/
namespace IpmiRs.Rmcp
open Connection

namespace PendingRequest

/-- How many more packets the request takes without being answered, if no
further poll is sent. -/
def outstanding (p : PendingRequest) : Nat :=
  (if p.poll.isSome then 1 else 0) + (if getElem p.acked 0 Nat.two_pos then 0 else 1) +
    (if getElem p.acked 1 Nat.one_lt_two then 0 else 1) + (if p.deferred.isSome then 0 else 1)

theorem outstanding_le (p : PendingRequest) : p.outstanding ≤ 4 := by
  unfold outstanding
  have bit (b : Bool) : (if b then 1 else 0) ≤ 1 := by cases b <;> decide
  have slot (b : Bool) : (if b then 0 else 1) ≤ 1 := by cases b <;> decide
  have := bit p.poll.isSome
  have := slot p.acked[0]
  have := slot p.acked[1]
  have := slot p.deferred.isSome
  omega

/-- An acknowledgement counts only once. -/
theorem outstanding_set_acked {p : PendingRequest} (hop : Fin 2) (fresh : getElem p.acked hop (hop_lt hop) = false) :
    { p with acked := p.acked.set hop true (hop_lt hop) }.outstanding < p.outstanding := by
  revert fresh
  revert hop
  simp only [Fin.forall_fin_two, outstanding]
  constructor
  · intro (fresh : p.acked[0] = false)
    simp [fresh]
  · intro (fresh : p.acked[1] = false)
    simp [fresh]

/-- What a reception costs: one that accepts the packet uses something up. -/
def Spends (before : Nat) (after : Nat) : Except RmcpIpmiReceiveError (Option Response) → Prop
  | .ok none => after < before
  | .ok (some _) => True
  | .error _ => after ≤ before

theorem receivePoll_spends {p : PendingRequest} {reply : ExpectedReply} (asked : p.poll = some reply)
    (response : Response) (supported : Bool) :
    (p.receivePoll reply response supported).pending.outstanding < p.outstanding := by
  obtain ⟨available, believed, layer, shape, -⟩ := p.receivePoll_cases reply response supported
  rw [shape]
  simp [outstanding, asked]

/-- What a layer costs: opening it something, ending in it what its result says. -/
def Layer.Spends (before : Nat) (after : Nat) : Layer → Prop
  | .done result => PendingRequest.Spends before after result
  | .nested _ => after < before

theorem receiveLayer_spends (p : PendingRequest) (data : List UInt8) (supported : Bool) :
    Layer.Spends p.outstanding (p.receiveLayer data supported).pending.outstanding
      (p.receiveLayer data supported).result := by
  have shape := p.receiveLayer_cases data supported
  generalize p.receiveLayer data supported = layered at shape ⊢
  cases shape with
  | poll reply response asked answers =>
    have spent := receivePoll_spends asked response supported
    cases (p.receivePoll reply response supported).result with
    | nested packet => exact spent
    | done result =>
      cases result with
      | error error => exact Nat.le_of_lt spent
      | ok response =>
        cases response with
        | none => exact spent
        | some response => exact trivial
  | ack hop reply response unpolled expected answers first =>
    have shape := p.receiveAck_cases hop response supported
    generalize p.receiveAck hop response supported = layered at shape ⊢
    cases shape with
    | refused error why => exact Nat.le_refl _
    | opened fresh complete body => exact outstanding_set_acked hop fresh
    | released fresh complete empty last =>
      cases kept : p.deferred with
      | some response => trivial
      | none =>
        have spent := outstanding_set_acked hop fresh
        simp only [outstanding, kept] at spent
        simpa only [Layer.Spends, Spends, outstanding, kept] using spent
    | counted fresh complete empty outstanding => exact outstanding_set_acked hop fresh
  | final unpolled unacked =>
    have shape := p.receiveFinal_cases data supported
    generalize p.receiveFinal data supported = layered at shape ⊢
    cases shape with
    | refused error why => exact Nat.le_refl _
    | returned response answers ready => trivial
    | stored response answers early free => simp [Layer.Spends, Spends, outstanding, free]

theorem receiveNested_spends (left : Nat) (p : PendingRequest) (data : List UInt8) (supported : Bool) :
    Spends p.outstanding (p.receiveNested left data supported).pending.outstanding
      (p.receiveNested left data supported).result := by
  induction left generalizing p data supported with
  | zero => exact Nat.le_refl _
  | succ left ih =>
    have spent := p.receiveLayer_spends data supported
    unfold receiveNested
    split
    · rename_i result after believed shape
      rwa [shape] at spent
    · rename_i packet after believed shape
      rw [shape] at spent
      have spent : after.outstanding < p.outstanding := spent
      have rest := ih after packet believed
      revert rest
      cases (after.receiveNested left packet believed).result with
      | error error => exact fun rest => Nat.le_trans rest (Nat.le_of_lt spent)
      | ok response =>
        cases response with
        | none => exact fun rest => Nat.lt_trans rest spent
        | some response => exact fun _ => trivial

end PendingRequest

namespace IpmbState

/-- How many more packets the state can accept before the pending request is
given up. -/
def room (s : IpmbState) : Nat :=
  s.retiredSequences.count false + s.pending.elim 0 (·.outstanding + 1)

theorem room_le (s : IpmbState) : s.room ≤ 69 := by
  have unused : s.retiredSequences.count false ≤ 64 := Vector.count_le_size
  have request : s.pending.elim 0 (·.outstanding + 1) ≤ 5 := by
    cases s.pending with
    | none => simp
    | some p => exact Nat.succ_le_succ p.outstanding_le
  unfold room
  omega

/-- Accepting a packet takes room; refusing one gives none back. -/
theorem receive_room (s : IpmbState) (data : List UInt8) :
    (s.receive data).2.room ≤ s.room ∧
    ∀ response, (s.receive data).1 = .ok response → (s.receive data).2.room < s.room := by
  cases held : s.pending with
  | none => simp [receive_idle held]
  | some p =>
    have spent := p.receiveNested_spends 3 data s.getMessageSupported
    rw [receive_pending held]
    revert spent
    cases (p.receiveNested 3 data s.getMessageSupported).result with
    | error error =>
      intro (spent : _ ≤ _)
      exact ⟨by simpa [room, held] using spent, by simp⟩
    | ok response =>
      cases response with
      | none =>
        intro (spent : _ < _)
        refine ⟨?_, fun _ _ => ?_⟩ <;> simp only [room, held, Option.elim] <;> omega
      | some response =>
        intro _
        refine ⟨?_, fun _ _ => ?_⟩ <;> simp only [room, held, Option.elim] <;> omega

/-- A poll trades a sequence for its reply. -/
theorem pollMessage_room (s : IpmbState) : s.pollMessage.2.room ≤ s.room := by
  obtain ⟨error, polled⟩ | ⟨p, held, -, -, polled⟩ | ⟨p, held, polls, -, unused, polled⟩ :=
    s.pollMessage_cases
  · simp [polled]
  · simp [polled, room, held, PendingRequest.outstanding]
  · have idle : p.poll = none := by
      simp only [needsPoll, held, Option.any_some, Bool.and_eq_true] at polls
      simpa using polls.2
    have inside : s.ipmbSequence.toNat < 64 := by
      by_contra outside
      simp [Vector.getElem?_eq_none (Nat.le_of_not_lt outside)] at unused
    have unused : s.retiredSequences[s.ipmbSequence.toNat] = false := by
      simpa [Vector.getElem?_eq_getElem inside] using unused
    have same : (s.ipmbSequence &&& 0x3f).toNat = s.ipmbSequence.toNat := by
      rw [UInt8.toNat_and]
      exact Nat.and_two_pow_sub_one_of_lt_two_pow (n := 6) inside
    have left : 0 < s.retiredSequences.count false :=
      Vector.count_pos_iff.mpr (unused ▸ Vector.getElem_mem inside)
    simp only [polled, nextReply, room, held, Option.elim, PendingRequest.outstanding, idle, same]
    rw [Vector.count_set inside]
    simp [unused]
    omega

@[simp] theorem room_stopPolling (s : IpmbState) : s.stopPolling.room = s.room := rfl

end IpmbState
end IpmiRs.Rmcp
