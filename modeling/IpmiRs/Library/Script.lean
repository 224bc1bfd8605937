import Mathlib.Data.List.Forall2

/-! Scripts: events that are each expected in turn, where the next one only
comes if the one before it passed. A run of a script that may stop anywhere
keeps to it up to its last event, which need not have passed. -/
namespace IpmiRs.Library.Script

universe u

variable {η : Type u}

/-- What is expected of an event, and when it has passed. -/
structure Step (η : Type u) where
  expected : η → Prop
  passed : η → Prop

/-- The event is the one of the step, and passed. -/
def Step.Done (step : Step η) (event : η) : Prop := step.expected event ∧ step.passed event

/-- Every step was done. -/
abbrev Completed (steps : List (Step η)) (events : List η) : Prop := List.Forall₂ Step.Done steps events

/-- The events of a script, up to where it stopped. -/
inductive Along : List (Step η) → List η → Prop
  | stopped (steps : List (Step η)) : Along steps []
  | failed {step : Step η} (rest : List (Step η)) {event : η} (expected : step.expected event)
      (failed : ¬step.passed event) : Along (step :: rest) [event]
  | passed {step : Step η} {rest : List (Step η)} {event : η} {events : List η}
      (done : step.Done event) (along : Along rest events) : Along (step :: rest) (event :: events)

variable {steps more : List (Step η)} {events later : List η}

/-- Steps that were all done go before those that go on. -/
theorem Along.after (completed : Completed steps events) (along : Along more later) :
    Along (steps ++ more) (events ++ later) := by
  induction completed with
  | nil => exact along
  | cons done _ ih => exact .passed done ih

theorem Completed.along (completed : Completed steps events) : Along steps events := by
  have whole := Along.after completed (.stopped [])
  rwa [List.append_nil, List.append_nil] at whole

/-- What was done of two scripts one after the other was done of each. -/
theorem Completed.of_append (completed : Completed (steps ++ more) events) :
    ∃ first second, events = first ++ second ∧ Completed steps first ∧ Completed more second := by
  induction steps generalizing events with
  | nil => exact ⟨[], events, rfl, .nil, completed⟩
  | cons step steps ih =>
    cases completed with
    | cons done rest =>
      obtain ⟨first, second, rfl, early, late⟩ := ih rest
      exact ⟨_ :: first, second, rfl, .cons done early, late⟩

/-- What keeps to a script keeps to any longer one. -/
theorem Along.extend (along : Along steps events) (more : List (Step η)) : Along (steps ++ more) events := by
  induction along with
  | stopped => exact .stopped _
  | failed rest expected failed => exact .failed _ expected failed
  | passed done _ ih => exact .passed done ih

/-- Before any event all steps were done, and none comes after one that failed. -/
theorem Along.split {before after : List η} {event : η} (along : Along steps (before ++ event :: after)) :
    ∃ done step rest, steps = done ++ step :: rest ∧ Completed done before ∧ step.expected event ∧
      (¬step.passed event → after = []) ∧ Along rest after := by
  induction before generalizing steps with
  | nil =>
    cases along with
    | failed rest expected failed => exact ⟨[], _, _, rfl, .nil, expected, fun _ => rfl, .stopped _⟩
    | passed done along => exact ⟨[], _, _, rfl, .nil, done.1, fun failed => absurd done.2 failed, along⟩
  | cons first before ih =>
    rw [List.cons_append] at along
    generalize tail : before ++ event :: after = remaining at along
    cases along with
    | failed rest expected failed =>
      have nonempty : before ++ event :: after ≠ [] := by simp
      exact absurd tail nonempty
    | passed passed along =>
      subst tail
      obtain ⟨done, step, rest, rfl, completed, facts⟩ := ih along
      exact ⟨_ :: done, step, rest, rfl, .cons passed completed, facts⟩

/-- What the steps fix of their events is, of the events, the beginning of what the script fixes. -/
theorem Along.map_prefix {κ : Type*} {seen : η → κ} {values : List κ}
    (fixes : List.Forall₂ (fun step value => ∀ event, step.expected event → seen event = value) steps values)
    (along : Along steps events) : events.map seen <+: values := by
  induction along generalizing values with
  | stopped => exact List.nil_prefix
  | failed rest expected failed =>
    cases fixes with
    | cons fixed fixes =>
      rw [List.map_cons, fixed _ expected, List.prefix_cons_inj]
      exact List.nil_prefix
  | passed done _ ih =>
    cases fixes with
    | cons fixed fixes =>
      rw [List.map_cons, fixed _ done.1, List.prefix_cons_inj]
      exact ih fixes

/-- Of a script that was completed, all that it fixes. -/
theorem Completed.map_eq {κ : Type*} {seen : η → κ} {values : List κ}
    (fixes : List.Forall₂ (fun step value => ∀ event, step.expected event → seen event = value) steps values)
    (completed : Completed steps events) : events.map seen = values := by
  induction completed generalizing values with
  | nil =>
    cases fixes
    rfl
  | cons done _ ih =>
    cases fixes with
    | cons fixed fixes => rw [List.map_cons, fixed _ done.1, ih fixes]

end IpmiRs.Library.Script
