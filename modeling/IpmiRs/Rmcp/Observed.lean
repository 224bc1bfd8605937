import IpmiRs.Rmcp.SequenceMeter

/-! What a receive loop makes of a session, told from what it receives. A relation
that every step of the loop obeys is obeyed by the call, with what is observed
of its receptions in their order. -/
namespace IpmiRs.Rmcp
open Connection

namespace Transport
variable {σ α : Type}

/-- What is observed of one turn. -/
def observedTurn (t : Transport σ) (observe : σ → Turn → Nat → List UInt32 → List α) (deadline : Instant)
    (now : Turn) (p : Progress) (s : σ) : List α :=
  match t.poll deadline now p s with
  | .on p s => observe s now p.unrelated p.seen
  | _ => []

/-- What is observed of the receptions of a loop. -/
def observed (t : Transport σ) (observe : σ → Turn → Nat → List UInt32 → List α) (deadline : Instant) :
    List Turn → Progress → σ → List α
  | [], _, _ => []
  | now :: turns, p, s =>
    let here := t.observedTurn observe deadline now p s
    let r := t.turn deadline now p s
    match r.result with
    | some _ => here
    | none => here ++ observed t observe deadline turns r.progress r.state

/-- What is observed of the receptions of a call. -/
def observedUntil (t : Transport σ) (observe : σ → Turn → Nat → List UInt32 → List α) (s : σ)
    (turns : List Turn) : List α :=
  match (t.ipmb s).pending with
  | none => []
  | some pending => t.observed observe pending.deadline turns .start s

/-- A relation between what is observed and the states before and after it,
which the steps of the loop obey. -/
structure Obeys (t : Transport σ) (observe : σ → Turn → Nat → List UInt32 → List α)
    (R : List α → σ → σ → Prop) : Prop where
  refl : ∀ s, R [] s s
  trans : ∀ first second s u v, R first s u → R second u v → R (first ++ second) s v
  setIpmb : ∀ s ipmb, R [] s (t.setIpmb s ipmb)
  setLastInbound : ∀ s last, R [] s (t.setLastInbound s last)
  sendPayload : ∀ s payload deadline sending, R [] s (t.sendPayload s payload deadline sending).2
  receiveOne : ∀ s deadline turn unrelated seen,
    R (observe s turn unrelated seen) s (t.receiveOne s deadline turn unrelated seen).state

variable {t : Transport σ} {observe : σ → Turn → Nat → List UInt32 → List α} {R : List α → σ → σ → Prop}

/-- Nothing is observed before what is. -/
theorem Obeys.before (obeys : t.Obeys observe R) {seen : List α} {s u v : σ} (first : R [] s u)
    (second : R seen u v) : R seen s v := obeys.trans [] seen s u v first second

/-- Nothing is observed after what was. -/
theorem Obeys.after (obeys : t.Obeys observe R) {seen : List α} {s u v : σ} (first : R seen s u)
    (second : R [] u v) : R seen s v := by
  have both := obeys.trans seen [] s u v first second
  rwa [List.append_nil] at both

theorem Obeys.poll (obeys : t.Obeys observe R) (deadline : Instant) (turn : Turn) (p : Progress) (s : σ) :
    R [] s (t.poll deadline turn p s).state := by
  unfold Transport.poll
  simp only
  split
  · split
    · exact obeys.setIpmb s _
    · exact obeys.setIpmb s _
    · exact obeys.setIpmb s _
    · rename_i payload ipmb _
      have sent := obeys.before (obeys.setIpmb s ipmb)
        (obeys.sendPayload (t.setIpmb s ipmb) payload deadline turn.polling)
      split
      · rename_i failed
        rw [failed] at sent
        exact sent
      · rename_i delivered
        rw [delivered] at sent
        exact sent
  · exact obeys.refl s

theorem Obeys.turn (obeys : t.Obeys observe R) (deadline : Instant) (turn : Turn) (p : Progress) (s : σ) :
    R (t.observedTurn observe deadline turn p s) s (t.turn deadline turn p s).state := by
  have polled := obeys.poll deadline turn p s
  unfold observedTurn Transport.turn
  cases ended : t.poll deadline turn p s with
  | again p' s' =>
    rw [ended] at polled
    exact polled
  | failed error s' =>
    rw [ended] at polled
    exact polled
  | on p' s' =>
    rw [ended] at polled
    dsimp only
    rw [(t.judge_keeps _ _ _ _).1]
    exact obeys.before polled (obeys.receiveOne s' _ turn p'.unrelated p'.seen)

theorem Obeys.loop (obeys : t.Obeys observe R) (deadline : Instant) (turns : List Turn) (p : Progress) (s : σ) :
    R (t.observed observe deadline turns p s) s (t.loop deadline turns p s).state := by
  induction turns generalizing p s with
  | nil => exact obeys.refl s
  | cons now turns ih =>
    have turned := obeys.turn deadline now p s
    unfold observed Transport.loop
    cases ended : (t.turn deadline now p s).result with
    | some result =>
      simp only [ended]
      exact turned
    | none =>
      simp only [ended]
      exact obeys.trans _ _ _ _ _ turned (ih _ _)

theorem Obeys.commit (obeys : t.Obeys observe R) (s : σ) (seen : List UInt32) : R [] s (t.commit s seen) := by
  unfold Transport.commit
  split
  · exact obeys.setLastInbound s _
  · exact obeys.refl s

/-- A call obeys what its steps obey. -/
theorem Obeys.recvUntil (obeys : t.Obeys observe R) (s : σ) (turns : List Turn) :
    R (t.observedUntil observe s turns) s (t.recvUntil s turns).2 := by
  unfold Transport.observedUntil Transport.recvUntil
  cases (t.ipmb s).pending with
  | none => exact obeys.refl s
  | some pending =>
    exact obeys.after (obeys.after (obeys.loop pending.deadline turns .start s) (obeys.commit _ _))
      (obeys.setIpmb _ _)

end Transport
end IpmiRs.Rmcp
