import IpmiRs.Ime.UpdateScript

/-! An ME update changes the device in one order, goes on only after it has
been told that it may, and stops at the first failure. -/
namespace IpmiRs.Ime
open Connection App Library Library.Chunks Library.Stateful Library.Script OverLink

variable {ε : Type}

/-- A command that changes the ME. -/
def IsMutation (one : Exchange ε) : Prop :=
  one.request.netfnRaw = 0x30 ∧ 0xA0 ≤ one.request.cmd ∧ one.request.cmd ≤ 0xA4

instance (one : Exchange ε) : Decidable (IsMutation one) := inferInstanceAs (Decidable (_ ∧ _))

/-- The request of an exchange, if it changes the ME. -/
def mutating (one : Exchange ε) : Option Request := if IsMutation one then some one.request else none

/-- The requests of some exchanges that change the ME, in order. -/
def mutations (log : List (Exchange ε)) : List Request := log.filterMap mutating

/-- The bytes that some requests write. -/
def written (requests : List Request) : List UInt8 :=
  requests.flatMap fun request => if request.cmd = 0xA2 then request.data.tail else []

/-- The requests of an update that change the ME. -/
def planned (target : ImeTarget) (image : ValidatedImage) : List Request :=
  (plan image).map fun action => (mutation target action).request

/-- An exchange that succeeded, by what was asked. -/
inductive Passed (target : ImeTarget) (image : ValidatedImage) (one : Exchange ε) : Prop
  | identity (done : (identity target).Done one)
  | status (done : (statusStep target fun _ => True).Done one)
  | capabilities (done : (commandStep (getCapabilities target).toIpmiCommand fun _ => True).Done one)
  | acknowledged (action : Action) (planned : action ∈ plan image)
      (done : (mutationStep target action).Done one)

/-- What came before an action: the one before it was acknowledged, and a status
that was read after that was the required one, of a valid image for the last action. -/
inductive Admitted (target : ImeTarget) (image : ValidatedImage) :
    List (Exchange ε) → Exchange ε → Prop
  | after (early : List (Exchange ε)) {previous check read again one : Exchange ε} (action : Action)
      (status : Status) (planned : action ∈ plan image)
      (acknowledged : (mutationStep target action).Done previous)
      (checked : (identity target).Done check) (asked : read.request = (getStatus target).request)
      (answered : (getStatus target).readReply read.reply =
        (.ok status : Except (IpmiError ε ResponseError) Status))
      (required : status.updateState = action.required)
      (valid : one.request = (mutation target (.register false)).request →
        status.stagedImageValid = true)
      (checkedAgain : (identity target).Done again) :
      Admitted target image (early ++ [previous, check, read, again]) one

section script
variable {target : ImeTarget} {image : ValidatedImage} {one : Exchange ε}

theorem mutation_isMutation {action : Action} (sent : one.request = (mutation target action).request) :
    IsMutation one ∧ one.request.cmd = action.cmd := by
  have netfn : one.request.netfnRaw = 0x30 := by
    rw [sent]
    exact show NetFn.requestValue (.reserved 0x30) = 0x30 by decide
  have cmd : one.request.cmd = action.cmd := by
    rw [sent]
    rfl
  refine ⟨⟨netfn, ?_⟩, cmd⟩
  rw [cmd]
  cases action <;> simp only [Action.cmd] <;> decide

/-- A step that changes nothing. -/
def Quiet (step : Step (Exchange ε)) : Prop := ∀ one, step.expected one → ¬IsMutation one

theorem identity_quiet : Quiet (identity (ε := ε) target) := by
  intro one asked mutation
  have netfn := mutation.1
  rw [show one.request = (targetDeviceId (some target.route)).request from asked] at netfn
  exact absurd netfn (show ¬NetFn.requestValue .app = 0x30 by decide)

theorem statusStep_quiet (accept : Status → Prop) : Quiet (statusStep (ε := ε) target accept) := by
  intro one asked mutation
  have cmd := mutation.2.2
  rw [show one.request = (getStatus target).request from asked] at cmd
  exact absurd cmd (show ¬(0xA6 : UInt8) ≤ 0xA4 by decide)

theorem capabilities_quiet :
    Quiet (commandStep (ε := ε) (getCapabilities target).toIpmiCommand fun _ => True) := by
  intro one asked mutation
  have cmd := mutation.2.2
  rw [show one.request = (getCapabilities target).request from asked] at cmd
  exact absurd cmd (show ¬(0xA7 : UInt8) ≤ 0xA4 by decide)

theorem preflight_quiet : ∀ step ∈ preflight (ε := ε) target, Quiet step := by
  intro step member
  simp only [preflight, List.mem_cons, List.not_mem_nil, or_false] at member
  rcases member with rfl | rfl | rfl | rfl | rfl
  · exact identity_quiet
  · exact identity_quiet
  · exact statusStep_quiet _
  · exact identity_quiet
  · exact capabilities_quiet

/-- A quiet step fixes that its exchange changes nothing. -/
theorem Quiet.fixes {step : Step (Exchange ε)} (quiet : Quiet step) (one : Exchange ε)
    (expected : step.expected one) : mutating one = none :=
  if_neg (quiet one expected)

theorem mutationStep_fixes (action : Action) (one : Exchange ε)
    (expected : (mutationStep target action).expected one) :
    mutating one = some (mutation target action).request := by
  rw [mutating, if_pos (mutation_isMutation expected).1]
  exact congrArg some expected

/-- What every step of the script fixes: of an action its request. -/
theorem script_fixes (target : ImeTarget) (image : ValidatedImage) :
    List.Forall₂ (fun (step : Step (Exchange ε)) value => ∀ one, step.expected one → mutating one = value)
      (script target image)
      ([none, none, none, none, none] ++
        (plan image).flatMap fun action => [none, some (mutation target action).request, none, none]) := by
  have identity : ∀ one : Exchange ε, (Ime.identity target).expected one → mutating one = none :=
    identity_quiet.fixes
  refine List.rel_append ?_ ?_
  · exact .cons identity (.cons identity (.cons (statusStep_quiet _).fixes
      (.cons identity (.cons capabilities_quiet.fixes .nil))))
  · induction plan image with
    | nil => exact .nil
    | cons action rest ih =>
      rw [List.flatMap_cons, List.flatMap_cons]
      exact List.rel_append (.cons identity (.cons (mutationStep_fixes action)
        (.cons identity (.cons (statusStep_quiet _).fixes .nil)))) ih

/-- What is fixed of the mutations is the plan. -/
theorem fixed_planned (target : ImeTarget) (image : ValidatedImage) :
    ([none, none, none, none, none] ++ (plan image).flatMap fun action =>
      [none, some (mutation target action).request, none, none]).filterMap id = planned target image := by
  rw [planned, List.filterMap_append]
  induction plan image with
  | nil => rfl
  | cons action rest ih =>
    rw [List.flatMap_cons, List.filterMap_append, List.map_cons, ← ih]
    rfl

theorem mutations_eq (log : List (Exchange ε)) : mutations log = (log.map mutating).filterMap id := by
  rw [List.filterMap_map]
  rfl

/-- The mutations of a run come in the order of the plan. -/
theorem mutations_prefix {log : List (Exchange ε)} (along : Along (script target image) log) :
    mutations log <+: planned target image := by
  rw [mutations_eq, ← fixed_planned]
  exact (along.map_prefix (script_fixes target image)).filterMap id

theorem mutations_completed {log : List (Exchange ε)} (completed : Completed (script target image) log) :
    mutations log = planned target image := by
  rw [mutations_eq, completed.map_eq (script_fixes target image), fixed_planned]

/-- What the plan writes is the image, and that is written before the close. -/
theorem written_planned (target : ImeTarget) (image : ValidatedImage) :
    written (planned target image) = image.bytes ∧
      ∃ front back, planned target image = front ++ back ∧ written front = image.bytes ∧
        ∀ request ∈ front, request.cmd ≠ 0xA3 := by
  have pieces : ∀ pieces : List (List UInt8 × Nat),
      written (pieces.map fun piece => (mutation target (writeOf piece)).request) =
        (pieces.map Prod.fst).flatten := by
    intro pieces
    induction pieces with
    | nil => rfl
    | cons piece rest ih => exact congrArg (piece.1 ++ ·) ih
  have front : written ([(mutation target .prepare).request, (mutation target .open).request] ++
      (chunks WRITE_BYTES image.bytes).zipIdx.map fun piece => (mutation target (writeOf piece)).request) =
        image.bytes := by
    rw [written, List.flatMap_append]
    change written _ = _
    rw [pieces, List.zipIdx_map_fst, flatten_chunks (by decide)]
  have split : planned target image =
      ([(mutation target .prepare).request, (mutation target .open).request] ++
        (chunks WRITE_BYTES image.bytes).zipIdx.map fun piece => (mutation target (writeOf piece)).request) ++
      [(mutation target (.close image.len image.crc8)).request,
        (mutation target (.register false)).request] := by
    rw [planned, plan, List.map_append, List.map_append, List.map_map]
    rfl
  refine ⟨?_, _, _, split, front, ?_⟩
  · rw [split, written, List.flatMap_append]
    exact (congrArg (· ++ []) front).trans (List.append_nil _)
  · intro request member
    simp only [List.mem_append, List.mem_cons, List.not_mem_nil, or_false, List.mem_map] at member
    rcases member with (rfl | rfl) | ⟨piece, -, rfl⟩
    · exact show (0xA0 : UInt8) ≠ 0xA3 by decide
    · exact show (0xA1 : UInt8) ≠ 0xA3 by decide
    · exact show (0xA2 : UInt8) ≠ 0xA3 by decide

/-- What the beginning of a plan writes is the beginning of the image, and all of it if it goes as far
as the close. -/
theorem written_prefix {requests : List Request} (begins : requests <+: planned target image) :
    written requests <+: image.bytes ∧
      ((∃ request ∈ requests, request.cmd = 0xA3) → written requests = image.bytes) := by
  obtain ⟨whole, front, back, split, all, plain⟩ := written_planned target image
  have some_ : written requests <+: image.bytes := by
    obtain ⟨rest, same⟩ := begins
    rw [← whole, ← same, written, written, List.flatMap_append]
    exact List.prefix_append _ _
  refine ⟨some_, ?_⟩
  rintro ⟨request, member, close⟩
  rcases List.prefix_or_prefix_of_prefix begins ⟨back, split.symm⟩ with early | late
  · exact absurd close (plain request (early.subset member))
  · obtain ⟨rest, same⟩ := late
    refine some_.eq_of_length_le ?_
    rw [← all, ← same, written, written, List.flatMap_append, List.length_append]
    exact Nat.le_add_right _ _

/-- Quiet steps leave no mutation. -/
theorem mutations_quiet {steps : List (Step (Exchange ε))} {events : List (Exchange ε)}
    (completed : Completed steps events) (quiet : ∀ step ∈ steps, Quiet step) : mutations events = [] := by
  induction completed with
  | nil => rfl
  | cons done _ ih =>
    rw [mutations, List.filterMap_cons_none ((quiet _ List.mem_cons_self).fixes _ done.1)]
    exact ih fun step member => quiet step (List.mem_cons_of_mem _ member)

/-- A mutation among the steps of some actions is that of an action, after the
identity and all the steps of the actions before it. -/
theorem blocks_split {actions : List Action} {done rest : List (Step (Exchange ε))} {step : Step (Exchange ε)}
    (split : actions.flatMap (block target) = done ++ step :: rest) (loud : ¬Quiet step) :
    ∃ first action last, actions = first ++ action :: last ∧
      done = first.flatMap (block target) ++ [identity target] ∧ step = mutationStep target action := by
  induction actions generalizing done with
  | nil => simp at split
  | cons action actions ih =>
    rw [List.flatMap_cons] at split
    rcases done with _ | ⟨first, _ | ⟨second, _ | ⟨third, _ | ⟨fourth, done⟩⟩⟩⟩
    · cases split
      exact absurd identity_quiet loud
    · cases split
      exact ⟨[], action, actions, rfl, rfl, rfl⟩
    · cases split
      exact absurd identity_quiet loud
    · cases split
      exact absurd (statusStep_quiet _) loud
    · simp only [block, List.cons_append, List.nil_append, List.cons.injEq] at split
      obtain ⟨rfl, rfl, rfl, rfl, tail⟩ := split
      obtain ⟨before, found, last, rfl, rfl, same⟩ := ih tail
      exact ⟨action :: before, found, last, rfl, rfl, same⟩

/-- Before the last action comes the close. -/
theorem before_register {first last : List Action} {action : Action}
    (split : plan image = first ++ action :: last) (register : action.cmd = 0xA4) :
    ∃ front size crc8, first = front ++ [.close size crc8] := by
  have front : ∀ action ∈ [.prepare, .open] ++ (chunks WRITE_BYTES image.bytes).zipIdx.map writeOf ++
      [.close image.len image.crc8], action.cmd ≠ 0xA4 := by
    intro action member
    simp only [List.mem_append, List.mem_cons, List.not_mem_nil, or_false, List.mem_map] at member
    rcases member with ((rfl | rfl) | ⟨piece, -, rfl⟩) | rfl
    · exact show (0xA0 : UInt8) ≠ 0xA4 by decide
    · exact show (0xA1 : UInt8) ≠ 0xA4 by decide
    · exact show (0xA2 : UInt8) ≠ 0xA4 by decide
    · exact show (0xA3 : UInt8) ≠ 0xA4 by decide
  rw [plan, show [Action.close image.len image.crc8, .register false] =
    [Action.close image.len image.crc8] ++ [.register false] from rfl, ← List.append_assoc] at split
  rcases List.append_eq_append_iff.mp split with ⟨more, same, rest⟩ | ⟨more, same, rest⟩
  · cases more with
    | nil =>
      rw [List.append_nil] at same
      exact ⟨_, _, _, same⟩
    | cons head tail =>
      have short := congrArg List.length rest
      simp at short
  · cases more with
    | nil =>
      rw [List.append_nil] at same
      exact ⟨_, _, _, same.symm⟩
    | cons head tail =>
      cases rest
      refine absurd register (front _ ?_)
      rw [same]
      exact List.mem_append_right _ List.mem_cons_self

/-- A mutation that is not the first one was admitted. -/
theorem mutation_admitted {log before after : List (Exchange ε)} (along : Along (script target image) log)
    (cut : log = before ++ one :: after) (mutation : IsMutation one) (later : mutations before ≠ []) :
    Admitted target image before one := by
  subst cut
  obtain ⟨done, step, rest, split, completed, expected, -, -⟩ := along.split
  have loud : ¬Quiet step := fun quiet => quiet one expected mutation
  have actions : ∃ tail, done = preflight target ++ tail ∧
      (plan image).flatMap (block target) = tail ++ step :: rest := by
    rcases List.append_eq_append_iff.mp split with ⟨tail, same, blocks⟩ | ⟨more, same, blocks⟩
    · exact ⟨tail, same, blocks⟩
    · cases more with
      | nil => exact ⟨[], by rw [same, List.append_nil, List.append_nil], blocks.symm⟩
      | cons head more =>
        cases blocks
        have among : step ∈ preflight target := by
          rw [same]
          exact List.mem_append_right _ List.mem_cons_self
        exact absurd (preflight_quiet step among) loud
  obtain ⟨tail, rfl, blocks⟩ := actions
  obtain ⟨first, action, last, planned, rfl, rfl⟩ := blocks_split blocks loud
  rcases List.eq_nil_or_concat first with rfl | ⟨front, previous, rfl⟩
  · refine absurd (mutations_quiet completed ?_) later
    intro step member
    rcases List.mem_append.mp member with read | known
    · exact preflight_quiet step read
    · rw [List.mem_singleton.mp known]
      exact identity_quiet
  · have shape : preflight target ++ ((front.concat previous).flatMap (block target) ++ [identity target]) =
        (preflight target ++ front.flatMap (block target) ++ [identity target]) ++
          [mutationStep (ε := ε) target previous, identity target, statusStep target previous.Accepts,
            identity target] := by
      simp [block]
    rw [shape] at completed
    obtain ⟨early, recent, rfl, -, recent⟩ := completed.of_append
    rcases recent with _ | ⟨acknowledged, _ | ⟨checked, _ | ⟨read, _ | ⟨again, ⟨⟩⟩⟩⟩⟩
    obtain ⟨asked, status, answered, required, valid⟩ := read
    have among : previous ∈ plan image := by
      rw [planned, List.concat_eq_append]
      exact List.mem_append_left _ (List.mem_append_right _ List.mem_cons_self)
    refine .after early previous status among acknowledged checked asked answered required ?_ again
    intro last_
    have register : action.cmd = 0xA4 := by
      rw [← (mutation_isMutation expected).2, last_]
      rfl
    obtain ⟨others, size, crc8, close⟩ := before_register planned register
    rw [List.concat_eq_append] at close
    obtain ⟨-, same⟩ := List.append_inj' close rfl
    cases same
    exact valid rfl

/-- What a step of the script did passed. -/
theorem step_passed {step : Step (Exchange ε)} (member : step ∈ script target image) (done : step.Done one) :
    Passed target image one := by
  rw [script, List.mem_append, List.mem_flatMap] at member
  rcases member with read | ⟨action, planned, part⟩
  · simp only [preflight, List.mem_cons, List.not_mem_nil, or_false] at read
    rcases read with rfl | rfl | rfl | rfl | rfl
    · exact .identity done
    · exact .identity done
    · exact .status done
    · exact .identity done
    · exact .capabilities done
  · simp only [block, List.mem_cons, List.not_mem_nil, or_false] at part
    rcases part with rfl | rfl | rfl | rfl
    · exact .identity done
    · exact .acknowledged action planned done
    · exact .identity done
    · obtain ⟨asked, status, answered, -⟩ := done
      exact .status ⟨asked, status, answered, trivial⟩

/-- Every exchange but the last one passed. -/
theorem passed_of_later {log before after : List (Exchange ε)} (along : Along (script target image) log)
    (cut : log = before ++ one :: after) (later : after ≠ []) : Passed target image one := by
  subst cut
  obtain ⟨done, step, rest, split, -, expected, stops, -⟩ := along.split
  have member : step ∈ script target image := by
    rw [split]
    exact List.mem_append_right _ List.mem_cons_self
  have passed : step.passed one := by
    by_contra failed
    exact later (stops failed)
  exact step_passed member ⟨expected, passed⟩

theorem passed_of_completed {steps : List (Step (Exchange ε))} {log : List (Exchange ε)}
    (completed : Completed steps log) (among : ∀ step ∈ steps, step ∈ script target image) :
    ∀ one ∈ log, Passed target image one := by
  induction completed with
  | nil => exact fun _ none => absurd none List.not_mem_nil
  | cons done _ ih =>
    intro one member
    rcases List.mem_cons.mp member with rfl | later
    · exact step_passed (among _ List.mem_cons_self) done
    · exact ih (fun step member => among step (List.mem_cons_of_mem _ member)) one later

end script

/-- Whatever is answered to an update, it sends the beginning of its plan, each
mutation once and after the first one only when it was admitted to, and every
exchange but the last one passed; the image is written from its beginning on
and wholly before the close, and an update that returns did all of it. -/
theorem update_is_one_shot (target : ImeTarget) (image : ValidatedImage) (link : Link ε) :
    let (result, after) := (imeUpdate target image).eval link
    let log := after.since link
    mutations log <+: planned target image ∧
      (∀ before one later, log = before ++ one :: later →
        (IsMutation one → mutations before ≠ [] → Admitted target image before one) ∧
          (later ≠ [] → Passed target image one)) ∧
      written (mutations log) <+: image.bytes ∧
      ((∃ request ∈ mutations log, request.cmd = 0xA3) → written (mutations log) = image.bytes) ∧
      ∀ status, result = .ok status →
        mutations log = planned target image ∧ ∀ one ∈ log, Passed target image one := by
  obtain ⟨along, completed⟩ := Ends.result (P := fun result (after : Link ε) =>
    Along (script target image) (after.since link) ∧
      ∀ status, result = .ok status → Completed (script target image) (after.since link))
    (Ends.mono (imeUpdate_follows image link) (fun _ _ told => ⟨told.2.1.along, fun _ _ => told.2.1⟩)
      (fun _ _ told => ⟨told.2, nofun⟩))
  have begins := mutations_prefix along
  have image_ := written_prefix begins
  refine ⟨begins, fun before one later cut => ⟨mutation_admitted along cut, passed_of_later along cut⟩,
    image_.1, image_.2, fun status returned => ?_⟩
  have all := completed status returned
  exact ⟨mutations_completed all, passed_of_completed all fun _ member => member⟩

end IpmiRs.Ime
