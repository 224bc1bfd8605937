import IpmiRs.App.DeviceId
import IpmiRs.Library.Stateful

/-! `IpmiConnection`, the transport as the workflows of `ipmi-rs` use it: one
transaction at a time, and a number of sequences that are never used twice. -/
namespace IpmiRs
open Connection App Library

/-- `IpmiConnection`, over the states `σ` of the transport. -/
structure IpmiConnection (σ ε : Type) where
  transact : Request → σ → Except ε Response × σ
  supportsLongMutationWorkflows : σ → Bool := fun _ => false
  ipmbSequenceBudget : σ → Option Nat := fun _ => none
  reserveIpmbSequences : Nat → σ → Bool × σ := fun _ s => (false, s)
  releaseIpmbSequences : σ → σ := id

namespace IpmiConnection
variable {σ ε α β : Type} (con : IpmiConnection σ ε)

/-- `Ipmi::send_recv`. -/
def sendRecv (command : IpmiCommand α β) : Stateful σ (IpmiError ε β) α :=
  ExceptT.mk fun s =>
    let answered := con.transact command.request s
    (command.readReply answered.1, answered.2)

/-- `Ipmi::oem_device_id`. -/
def oemDeviceId (target : Option (Address × Channel)) :
    Stateful σ (IpmiError ε NotEnoughData) DeviceId := con.sendRecv (targetDeviceId target)

end IpmiConnection

/-! ### Sequences used up by calls -/

/-- What can be told of a connection that uses sequences up: whether its
bookkeeping is sound, how many are left, how many of them are held back for
requests to come, the calls it made, and what a request costs. -/
structure Meter (σ ε : Type) where
  sound : σ → Prop
  left : σ → Nat
  held : σ → Option Nat
  calls : σ → List (Exchange ε)
  price : RequestTargetAddress → Nat
  /-- A request that found too few sequences. -/
  exhausted : ε

/-- From `s` to `t` by some calls, each of a price. Among those that what is
held back pays for, none found too few sequences. -/
structure Meter.Ran {σ ε : Type} (meter : Meter σ ε) (price : Nat) (s : σ)
    (log : List (Exchange ε)) (t : σ) : Prop where
  sound : meter.sound t
  calls : meter.calls t = meter.calls s ++ log
  held : ∃ spent ≤ price * log.length, meter.held t = (meter.held s).map (· - spent)
  answered : (∀ call ∈ log, call.reply.isOk = true) → price * log.length + meter.left t ≤ meter.left s
  paid : ∀ minimum count, meter.held s = some minimum → price * count ≤ minimum →
    ∀ call ∈ log.take count, call.reply ≠ .error meter.exhausted

/-- The connection keeps its meter: what is held back is granted only if there
is as much, and is used by nothing but requests. -/
structure IpmiConnection.Metered {σ ε : Type} (con : IpmiConnection σ ε) (meter : Meter σ ε) :
    Prop where
  budget : ∀ s, con.ipmbSequenceBudget s = some (meter.left s)
  refused : ∀ s n, (con.reserveIpmbSequences n s).1 = false → (con.reserveIpmbSequences n s).2 = s
  granted : ∀ s n, meter.sound s → (con.reserveIpmbSequences n s).1 = true →
    meter.held s = none ∧ meter.sound (con.reserveIpmbSequences n s).2 ∧
      meter.held (con.reserveIpmbSequences n s).2 = some n ∧
      meter.calls (con.reserveIpmbSequences n s).2 = meter.calls s
  released : ∀ s, meter.sound s → meter.sound (con.releaseIpmbSequences s) ∧
    meter.held (con.releaseIpmbSequences s) = none ∧
    meter.calls (con.releaseIpmbSequences s) = meter.calls s
  call : ∀ s request, meter.sound s →
    meter.Ran (meter.price request.target) s [⟨request, (con.transact request s).1⟩]
      (con.transact request s).2

section
variable {σ ε α β : Type} {meter : Meter σ ε} {price : Nat} {s t u : σ} {first second : List (Exchange ε)}

theorem Meter.Ran.refl (sound : meter.sound s) : meter.Ran price s [] s where
  sound := sound
  calls := by simp
  held := ⟨0, by simp, by simp⟩
  answered _ := by simp
  paid _ _ _ _ _ member := by simp at member

/-- What was held back at first pays for the earlier calls before the later ones. -/
theorem Meter.Ran.trans (early : meter.Ran price s first t) (late : meter.Ran price t second u) :
    meter.Ran price s (first ++ second) u where
  sound := late.sound
  calls := by rw [late.calls, early.calls, List.append_assoc]
  held := by
    obtain ⟨used, within, left⟩ := early.held
    obtain ⟨more, inside, rest⟩ := late.held
    refine ⟨used + more, ?_, ?_⟩
    · rw [List.length_append, Nat.mul_add]
      omega
    · rw [rest, left, Option.map_map]
      congr 1
      funext minimum
      simp only [Function.comp_apply]
      omega
  answered replies := by
    have before := early.answered fun call member => replies call (List.mem_append_left _ member)
    have after := late.answered fun call member => replies call (List.mem_append_right _ member)
    rw [List.length_append, Nat.mul_add]
    omega
  paid := by
    intro minimum count granted covered call member
    rw [List.take_append] at member
    rcases List.mem_append.mp member with inside | beyond
    · exact early.paid minimum count granted covered call inside
    · obtain ⟨used, within, left⟩ := early.held
      rw [granted, Option.map_some] at left
      have reached : first.length ≤ count := by
        by_contra short
        rw [Nat.sub_eq_zero_of_le (Nat.le_of_not_le short)] at beyond
        simp at beyond
      refine late.paid _ _ left ?_ call beyond
      rw [Nat.mul_sub]
      omega

/-- A command makes one call. -/
theorem IpmiConnection.Metered.sendRecv {con : IpmiConnection σ ε} (metered : con.Metered meter)
    (sound : meter.sound s) (command : IpmiCommand α β)
    (costs : meter.price command.targetAddress = price) :
    Stateful.Ends (con.sendRecv command) s
      (fun _ t => ∃ call, call.request = command.request ∧ call.reply.isOk = true ∧
        meter.Ran price s [call] t)
      (fun error t => ∃ call, call.request = command.request ∧
        (call.reply.isOk = true ∨ ∃ lost, error = .connection lost) ∧ meter.Ran price s [call] t) := by
  have ran := metered.call s command.request sound
  rw [show meter.price command.request.target = price from costs] at ran
  refine Stateful.Ends.call (fun value read => ?_) (fun error read => ?_)
  · refine ⟨_, rfl, ?_, ran⟩
    simp only at read ⊢
    cases answered : (con.transact command.request s).1 with
    | ok response => rfl
    | error error =>
      rw [answered] at read
      cases read
  · refine ⟨_, rfl, ?_, ran⟩
    simp only at read ⊢
    cases answered : (con.transact command.request s).1 with
    | ok response => exact .inl rfl
    | error lost =>
      rw [answered] at read
      exact .inr ⟨lost, (Except.error.inj read).symm⟩

end
end IpmiRs
