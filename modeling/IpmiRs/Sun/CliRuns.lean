import IpmiRs.Sun.Cli

/-! Whatever a service processor replies, a command line is typed once, in one
session, and the session stops at the first reply that is not one of it. -/
namespace IpmiRs.Sun
open Connection App Library Library.Checked Library.Chunks Library.Stateful OverLink

variable {ε : Type}

/-- The exchange failed, and not because of the version that was tried first. -/
def Fatal (one : Exchange ε) : Prop :=
  Failed one ∧ ¬(one.request = (packet 0x19 (openPacket 2)).request ∧ RejectsVersion one)

/-- The packets that open a session: the second version is tried first, and the first one if that is rejected. -/
inductive Opens : (version : UInt8) → List (Exchange ε) → Prop
  | none (version : UInt8) : Opens version []
  | second {one : Exchange ε} (sent : one.request = (packet 0x19 (openPacket 2)).request) : Opens 2 [one]
  | first {rejected one : Exchange ε} (sent : rejected.request = (packet 0x19 (openPacket 2)).request)
      (rejects : RejectsVersion rejected) (again : one.request = (packet 0x19 (openPacket 1)).request) :
      Opens 1 [rejected, one]

/-- What is left to type. -/
def toType (chunks : List (List UInt8)) : List UInt8 := if chunks = [] then [] else chunks.flatten ++ [0x0A]

/-- The packets of a session from one on, with what is left to type and to send. -/
structure CliLog (version : UInt8) (handle : List UInt8) (turns : Nat) (sequence : UInt8)
    (chunks : List (List UInt8)) (steps : List (CliStep ε)) : Prop where
  few : steps.length ≤ turns
  sent : InStep version handle sequence steps
  types : typed steps <+: toType chunks
  kinds : ∀ step ∈ steps, step.action = 3 ∨ step.action = 4 ∧ step.text = []

section steps
variable {version sequence : UInt8} {handle : List UInt8} {chunks : List (List UInt8)} {maxOutput : Nat}

/-- A reply that is accepted is one of the session. -/
theorem cliResponse_yields (reply : List UInt8) (version sequence : UInt8) (expected : Option (List UInt8)) :
    Yields (fun read => CliReply version sequence read.1 read.2.1 read.2.2 reply ∧ ∀ handle ∈ expected, handle = read.2.1)
      (cliResponse reply version sequence expected : Checked (SunError ε) _) := by
  refine yields_check fun long => ?_
  rw [not_not] at long
  match reply, long with
  | first :: status :: echoed :: reserved :: a :: b :: c :: d :: text, long =>
    change Yields _ (if first ≠ version ∨ (version = 2 ∧ echoed ≠ sequence) then _ else _)
    refine yields_check fun same => ?_
    have sliced : (slice (first :: status :: echoed :: reserved :: a :: b :: c :: d :: text) 4 8 :
        Checked (SunError ε) _) = pure [a, b, c, d] := slice_eq (by decide) (by simp)
    have rest : (slice (first :: status :: echoed :: reserved :: a :: b :: c :: d :: text) 8
        (first :: status :: echoed :: reserved :: a :: b :: c :: d :: text).length : Checked (SunError ε) _) =
        pure text := by
      rw [slice_eq (by simp) (Nat.le_refl _), List.take_length]
      rfl
    rw [sliced]
    change Yields _ (if expected.any (· != [a, b, c, d]) = true then _ else _)
    refine yields_check fun known => ?_
    rw [rest, pure_bind]
    refine Yields.bind (yields_okOr _ _) fun stop found => ?_
    obtain ⟨inside, zero, before⟩ := List.findIdx?_eq_some_iff_getElem.mp found
    have data : (slice (first :: status :: echoed :: reserved :: a :: b :: c :: d :: text) 8 (8 + stop) :
        Checked (SunError ε) _) = pure (text.take stop) := by
      rw [slice_eq (Nat.le_add_right _ _) (by simp only [List.length_cons]; omega), Nat.add_comm 8]
      rfl
    rw [data]
    refine Yields.pure ⟨⟨long, ⟨echoed, reserved, text.drop (stop + 1), ?_, ?_⟩, rfl, ?_⟩, ?_⟩
    · have ended : text[stop] = 0 := by simpa using zero
      rw [← ended, List.append_assoc, ← List.drop_eq_getElem_cons inside, List.take_append_drop]
      rw [not_or, not_not] at same
      rw [same.1]
      rfl
    · intro second
      by_contra other
      exact same (.inr ⟨second, other⟩)
    · intro member
      obtain ⟨i, within, found⟩ := List.mem_iff_getElem.mp member
      rw [List.length_take] at within
      rw [List.getElem_take] at found
      exact before i (by omega) (by simpa using found)
    · rintro handle rfl
      simpa using known
  | [], long => simp at long

/-- A packet types what comes next, or nothing, and the session is only ended once all is typed. -/
theorem nextPacket_types {drainAction : Option UInt8} (kind : ∀ action ∈ drainAction, action = 3 ∨ action = 4 ∧ chunks = []) :
    ∃ action chunk rest, nextPacket chunks drainAction = (action, chunk, rest) ∧
      (action = 3 ∧ toType chunks = chunk ++ toType rest ∨ action = 4 ∧ chunk = [] ∧ chunks = [] ∧ rest = []) := by
  cases drainAction with
  | some action =>
    refine ⟨action, [], chunks, rfl, ?_⟩
    rcases kind action rfl with data | ⟨eof, none⟩
    · exact .inl ⟨data, rfl⟩
    · exact .inr ⟨eof, rfl, none, none⟩
  | none =>
    match chunks with
    | [] => exact ⟨4, [], [], rfl, .inr ⟨rfl, rfl, rfl, rfl⟩⟩
    | [chunk] =>
      refine ⟨3, chunk ++ [0x0A], [], rfl, .inl ⟨rfl, ?_⟩⟩
      rw [toType, if_neg (List.cons_ne_nil _ _), List.flatten_singleton]
      exact (List.append_nil _).symm
    | chunk :: other :: chunks =>
      refine ⟨3, chunk, other :: chunks, rfl, .inl ⟨rfl, ?_⟩⟩
      rw [toType, toType, if_neg (List.cons_ne_nil _ _), if_neg (List.cons_ne_nil _ _), List.flatten_cons,
        List.append_assoc]

theorem typed_cons (step : CliStep ε) (steps : List (CliStep ε)) :
    typed (step :: steps) = (if step.action = 3 then step.text else []) ++ typed steps := by
  unfold typed
  rw [List.filter_cons]
  by_cases data : step.action = 3
  · rw [if_pos (beq_iff_eq.mpr data), List.flatMap_cons, if_pos data]
  · rw [if_neg (fun same => data (beq_iff_eq.mp same)), if_neg data, List.nil_append]

/-- What a packet types is the beginning of what is left to type. -/
theorem CliLog.next {turns : Nat} {step : CliStep ε} {steps : List (CliStep ε)} {rest : List (List UInt8)}
    {data : List UInt8}
    (sent : step.one.request = (packet 0x19 (cliPacket version step.action sequence handle step.text)).request)
    (read : Read version sequence 0 handle data step.one)
    (kind : step.action = 3 ∧ toType chunks = step.text ++ toType rest ∨
      step.action = 4 ∧ step.text = [] ∧ chunks = [] ∧ rest = [])
    (later : CliLog version handle turns (nextSequence version sequence) rest steps) :
    CliLog version handle (turns + 1) sequence chunks (step :: steps) where
  few := Nat.succ_le_succ later.few
  sent := .next sent read later.sent
  types := by
    rw [typed_cons]
    rcases kind with ⟨data, left⟩ | ⟨eof, none, rfl, rfl⟩
    · rw [if_pos data, left, List.prefix_append_right_inj]
      exact later.types
    · rw [none, ite_self, List.nil_append]
      exact later.types
  kinds := by
    refine List.forall_mem_cons.mpr ⟨?_, later.kinds⟩
    rcases kind with ⟨data, -⟩ | ⟨eof, none, -⟩
    · exact .inl data
    · exact .inr ⟨eof, none⟩

theorem CliLog.stopped (turns : Nat) (sequence : UInt8) (chunks : List (List UInt8)) :
    CliLog (ε := ε) version handle turns sequence chunks [] :=
  ⟨Nat.zero_le _, .stopped _, List.nil_prefix, fun _ none => absurd none List.not_mem_nil⟩

theorem CliLog.last {turns : Nat} {step : CliStep ε} {rest : List (List UInt8)}
    (sent : step.one.request = (packet 0x19 (cliPacket version step.action sequence handle step.text)).request)
    (kind : step.action = 3 ∧ toType chunks = step.text ++ toType rest ∨
      step.action = 4 ∧ step.text = [] ∧ chunks = [] ∧ rest = []) :
    CliLog version handle (turns + 1) sequence chunks [step] where
  few := Nat.succ_le_succ (Nat.zero_le _)
  sent := .last sent
  types := by
    rw [typed_cons]
    rcases kind with ⟨data, left⟩ | ⟨eof, none, rfl, rfl⟩
    · rw [if_pos data, left]
      exact (List.prefix_append_right_inj _).mpr List.nil_prefix
    · rw [none, ite_self]
      exact List.nil_prefix
  kinds := by
    refine List.forall_mem_singleton.mpr ?_
    rcases kind with ⟨data, -⟩ | ⟨eof, none, -⟩
    · exact .inl data
    · exact .inr ⟨eof, none⟩

/-- The packets of a session type what is left, and what they are answered is the output. -/
theorem cliSteps_tells (turns : Nat) {drainAction : Option UInt8} {output : List UInt8} (bounded : output.length ≤ maxOutput)
    (kind : ∀ action ∈ drainAction, action = 3 ∨ action = 4 ∧ chunks = []) :
    Tells (cliSteps version handle maxOutput turns sequence chunks drainAction output : OverSun ε (List UInt8))
      (fun result log => (∀ one ∈ log, ¬Failed one) ∧ ∃ steps, packets 0x19 log = steps.map (·.one) ∧
        CliLog version handle turns sequence chunks steps ∧ typed steps = toType chunks ∧
        result.length ≤ maxOutput ∧ ∃ more, result = output ++ more ∧ Finished version handle sequence steps more)
      (fun fault log => OnlyLast Failed log ∧ (∃ error, fault = .error error) ∧
        ∃ steps, packets 0x19 log = steps.map (·.one) ∧ CliLog version handle turns sequence chunks steps) := by
  induction turns generalizing sequence chunks drainAction output with
  | zero =>
    exact Tells.throw ⟨.of_none (fun _ none => absurd none List.not_mem_nil), ⟨_, rfl⟩, [], rfl, .stopped _ _ _⟩
  | succ turns ih =>
    obtain ⟨action, chunk, rest, chosen, types⟩ := nextPacket_types kind
    rw [cliSteps, chosen]
    refine Tells.bind (sunPacket_tells 0x19 _) ?_ ?_
    · rintro _ log ⟨last, error, rfl, ⟨none, -⟩ | ⟨one, _, -, sole, sent, -⟩⟩
      · exact ⟨last, ⟨_, rfl⟩, [], none, .stopped _ _ _⟩
      · exact ⟨last, ⟨_, rfl⟩, [⟨action, chunk, one⟩], sole, .last sent.1 types⟩
    rintro reply log ⟨passed, one, sole, sent⟩
    have ended : ∀ error : SunError ε, OnlyLast Failed (log ++ []) ∧ (∃ e, Fault.error error = .error e) ∧
        ∃ steps, packets 0x19 (log ++ []) = steps.map (·.one) ∧
          CliLog version handle (turns + 1) sequence chunks steps := by
      intro error
      rw [List.append_nil]
      exact ⟨.of_none passed, ⟨_, rfl⟩, [⟨action, chunk, one⟩], sole, .last sent.1 types⟩
    refine checked_tells (cliResponse_yields reply version sequence (some handle)) ended ?_
    rintro ⟨status, handle, data⟩ ⟨answered, same⟩
    obtain rfl := same _ rfl
    have read : Read version sequence status _ data one := ⟨reply, sent_answered sent, answered⟩
    dsimp only
    split
    · exact Tells.throw (ended _)
    rename_i fits
    split
    · rename_i ready
      subst ready
      have grown : (output ++ data).length ≤ maxOutput := by
        rw [List.length_append]
        exact Nat.not_lt.mp fits
      have drains : ∀ other ∈ (if data = [] then none else some action), other = 3 ∨ other = 4 ∧ rest = [] := by
        intro other member
        split at member
        · cases member
        · obtain rfl := Option.mem_some.mp member
          rcases types with ⟨data, -⟩ | ⟨eof, -, -, none⟩
          · exact .inl data
          · exact .inr ⟨eof, none⟩
      refine Tells.mono (ih grown drains) ?_ ?_
      · rintro result later ⟨all, steps, sole', log', whole, most, more, rfl, finished⟩
        refine ⟨fun other member => ?_, ⟨action, chunk, one⟩ :: steps, ?_, .next sent.1 read types log', ?_, most,
          data ++ more, List.append_assoc _ _ _, .next read finished⟩
        · exact (List.mem_append.mp member).elim (passed other) (all other)
        · rw [packets_append, sole, sole']
          rfl
        · rw [typed_cons, whole]
          rcases types with ⟨data, left⟩ | ⟨eof, none, rfl, rfl⟩
          · rw [if_pos data, left]
          · rw [none, ite_self]
            rfl
      · rintro _ later ⟨last, named, steps, sole', log'⟩
        refine ⟨.append passed last, named, ⟨action, chunk, one⟩ :: steps, ?_, .next sent.1 read types log'⟩
        rw [packets_append, sole, sole']
        rfl
    · split
      · rename_i final
        obtain ⟨rfl, rfl⟩ := final
        refine Tells.pure ?_
        rw [List.append_nil]
        refine ⟨passed, [⟨4, chunk, one⟩], sole, .last sent.1 types, ?_, ?_, data, rfl, .last rfl read⟩
        · rcases types with ⟨data, -⟩ | ⟨-, none, rfl, rfl⟩
          · exact absurd data (by decide)
          · rw [typed_cons, none, ite_self]
            rfl
        · rw [List.length_append]
          exact Nat.not_lt.mp fits
      · exact Tells.throw (ended _)

end steps
/-! ### Opening a session -/

theorem OnlyLast.weaken {first second : Exchange ε → Prop} {log : List (Exchange ε)}
    (weaker : ∀ one, second one → first one) (last : OnlyLast first log) : OnlyLast second log :=
  fun before one after same failing => last before one after same (weaker one failing)

/-- A packet fails with that error if the completion code comes with the text. -/
theorem rejectsVersion_of_error {cmd code : UInt8} {data detail : List UInt8} {netfn : NetFn}
    {completion : Option CompletionErrorCode} {one : Exchange ε}
    (sent : Sent cmd data (.error (.command .invalidVersion netfn code completion detail)) one) : RejectsVersion one := by
  obtain ⟨asked, read⟩ := sent
  cases answered : one.reply with
  | error lost =>
    rw [answered] at read
    cases read
  | ok response =>
    rw [answered, IpmiCommand.readReply, IpmiCommand.read] at read
    split at read
    · cases read
    rename_i same
    rw [not_or, not_not, not_not] at same
    rw [RejectsVersion, asked, answered]
    split at read
    · rename_i failed
      refine ⟨response.cc, response.data, ⟨response, rfl, same.1, same.2, rfl, rfl⟩, ?_, .inl fun success => ?_⟩
      · by_contra other
        rw [show (packet cmd data).handleCompletionCode _ response.data = none from if_neg other] at read
        cases read
      · rw [success] at failed
        cases failed
    · split at read
      · cases read
      · rename_i error refused
        simp only [packet] at refused
        split at refused
        · cases refused
          cases read
        · cases refused

/-- A session is opened by at most two packets. -/
theorem openSession_tells :
    Tells (openSession : OverSun ε (UInt8 × List UInt8))
      (fun opened log => (∀ one ∈ log, ¬Fatal one) ∧ Opens opened.1 (packets 0x19 log) ∧
        ∃ one, (packets 0x19 log).getLast? = some one ∧ one.request.Answered one.reply 0 opened.2)
      (fun fault log => OnlyLast Fatal log ∧ (∃ error, fault = .error error) ∧
        ∃ version, Opens version (packets 0x19 log)) := by
  -- The packet of the first version, once that of the second one has been rejected.
  have again : ∀ (log : List (Exchange ε)) (rejected : Exchange ε), (∀ one ∈ log, ¬Fatal one) →
      packets 0x19 log = [rejected] → rejected.request = (packet 0x19 (openPacket 2)).request →
      RejectsVersion rejected →
      Tells (do let reply ← sunPacket 0x19 (openPacket 1); pure ((1 : UInt8), reply) : OverSun ε (UInt8 × List UInt8))
        (fun opened more => (∀ one ∈ log ++ more, ¬Fatal one) ∧ Opens opened.1 (packets 0x19 (log ++ more)) ∧
          ∃ one, (packets 0x19 (log ++ more)).getLast? = some one ∧ one.request.Answered one.reply 0 opened.2)
        (fun fault more => OnlyLast Fatal (log ++ more) ∧ (∃ error, fault = .error error) ∧
          ∃ version, Opens version (packets 0x19 (log ++ more))) := by
    intro log rejected passed sole asked rejects
    refine Tells.bind (sunPacket_tells 0x19 _) ?_ ?_
    · rintro _ more ⟨last, error, rfl, ⟨none, -⟩ | ⟨one, _, -, other, sent, -⟩⟩
      · refine ⟨.append passed (last.weaken fun _ fatal => fatal.1), ⟨_, rfl⟩, 2, ?_⟩
        rw [packets_append, sole, none]
        exact .second asked
      · refine ⟨.append passed (last.weaken fun _ fatal => fatal.1), ⟨_, rfl⟩, 1, ?_⟩
        rw [packets_append, sole, other]
        exact .first asked rejects sent.1
    · rintro reply more ⟨fine, one, other, sent⟩
      refine Tells.pure ?_
      rw [List.append_nil, packets_append, sole, other]
      refine ⟨fun one member => ?_, .first asked rejects sent.1, one, rfl, sent_answered sent⟩
      exact (List.mem_append.mp member).elim (passed one) (fun later fatal => fine one later fatal.1)
  unfold openSession
  refine tells_attempt (sunPacket_tells 0x19 (openPacket 2)) ?_ ?_
  · rintro reply log ⟨fine, one, sole, sent⟩
    have passed : ∀ one ∈ log, ¬Fatal one := fun one member fatal => fine one member fatal.1
    have answered := sent_answered sent
    have tried : Tells (pure ((2 : UInt8), reply) : OverSun ε (UInt8 × List UInt8))
        (fun opened more => (∀ one ∈ log ++ more, ¬Fatal one) ∧ Opens opened.1 (packets 0x19 (log ++ more)) ∧
          ∃ one, (packets 0x19 (log ++ more)).getLast? = some one ∧ one.request.Answered one.reply 0 opened.2)
        (fun fault more => OnlyLast Fatal (log ++ more) ∧ (∃ error, fault = .error error) ∧
          ∃ version, Opens version (packets 0x19 (log ++ more))) := by
      refine Tells.pure ?_
      rw [List.append_nil, sole]
      exact ⟨passed, .second sent.1, one, rfl, answered⟩
    dsimp only
    split
    · exact tried
    · rename_i long
      refine checked_tells (yields_index (by omega)) ?_ ?_
      · intro error
        rw [List.append_nil, sole]
        exact ⟨.of_none passed, ⟨_, rfl⟩, 2, .second sent.1⟩
      intro status found
      split
      · rename_i rejected
        exact again log one passed sole sent.1 ⟨0, reply, answered, rejected.2, .inr ⟨status, found, rejected.1⟩⟩
      · exact tried
  · rintro _ log ⟨last, error, rfl, told⟩
    split
    · rename_i same
      cases same
    · rename_i netfn cmd completion data same
      cases same
      rcases told with ⟨-, other, -⟩ | ⟨one, failure, same, sole, sent, only⟩
      · exact absurd rfl (other _)
      · cases same
        have rejects := rejectsVersion_of_error sent
        refine again log one (fun other member fatal => fatal.2 ?_) sole sent.1 rejects
        rw [only other member fatal.1]
        exact ⟨sent.1, rejects⟩
    · rename_i same
      cases same
      refine Tells.throw ?_
      rw [List.append_nil]
      refine ⟨last.weaken fun _ fatal => fatal.1, ⟨_, rfl⟩, ?_⟩
      rcases told with ⟨none, -⟩ | ⟨one, _, -, sole, sent, -⟩
      · exact ⟨2, none ▸ .none 2⟩
      · exact ⟨2, sole ▸ .second sent.1⟩

/-! ### A command line -/

/-- The packets of a session: those that open it, and those that carry the handle it was opened with. They type
the beginning of the line. -/
structure CliSession (line : List UInt8) (log : List (Exchange ε)) (version : UInt8) (opens : List (Exchange ε))
    (handle : List UInt8) (steps : List (CliStep ε)) : Prop where
  exchanged : packets 0x19 log = opens ++ steps.map (·.one)
  tried : Opens version opens ∧ opens.length ≤ 2
  opened : steps ≠ [] → ∃ one data, opens.getLast? = some one ∧ Read version 0 0 handle data one
  few : steps.length ≤ 64
  sent : InStep version handle (if version = 2 then 1 else 0) steps
  alternates : ∀ i step, steps[i]? = some step → step.one.request = (packet 0x19 (cliPacket version step.action
    (if version = 2 ∧ i % 2 = 0 then 1 else 0) handle step.text)).request
  kinds : ∀ step ∈ steps, step.action = 3 ∨ step.action = 4 ∧ step.text = []
  types : typed steps <+: line ++ [0x0A]

/-- A command line, by the packets that were exchanged for it. -/
structure CliRun (line : List UInt8) (maxOutput : Nat) (result : Except (Fault (SunError ε)) (List UInt8))
    (log : List (Exchange ε)) : Prop where
  ends : ∀ fault, result = .error fault → ∃ error, fault = .error error
  stops : OnlyLast Fatal log
  session : ∃ version opens handle steps, CliSession line log version opens handle steps ∧
    ∀ output, result = .ok output → typed steps = line ++ [0x0A] ∧ output.length ≤ maxOutput ∧
      Finished version handle (if version = 2 then 1 else 0) steps output

/-- The sequence alternates in the second version, and is zero in the first. -/
theorem InStep.alternates {version sequence : UInt8} {handle : List UInt8} {steps : List (CliStep ε)}
    (sent : InStep version handle sequence steps) (even : Bool)
    (same : sequence = if version = 2 ∧ even = true then 1 else 0) :
    ∀ i step, steps[i]? = some step → step.one.request = (packet 0x19 (cliPacket version step.action
      (if version = 2 ∧ (i % 2 = 0 ↔ even = true) then 1 else 0) handle step.text)).request := by
  have first : ∀ {step : CliStep ε}, step.one.request =
      (packet 0x19 (cliPacket version step.action sequence handle step.text)).request →
      step.one.request = (packet 0x19 (cliPacket version step.action
        (if version = 2 ∧ (0 % 2 = 0 ↔ even = true) then 1 else 0) handle step.text)).request := by
    intro step asked
    rw [asked, same]
    simp only [Nat.zero_mod, true_iff]
  induction sent generalizing even with
  | stopped => exact fun _ _ none => nomatch none
  | last asked =>
    rintro (_ | i) step found
    · cases found
      exact first asked
    · cases found
  | @next sequence _ _ steps asked read rest ih =>
    have turned : nextSequence version sequence = if version = 2 ∧ (!even) = true then 1 else 0 := by
      rw [nextSequence, same]
      by_cases second : version = 2
      · cases even <;> simp only [second, if_true, true_and] <;> decide
      · simp only [second, if_false, false_and]
    rintro (_ | i) step found
    · cases found
      exact first asked
    · have later := ih (!even) turned ?_ i step found
      · rw [later]
        have parity : (i % 2 = 0 ↔ (!even) = true) ↔ ((i + 1) % 2 = 0 ↔ even = true) := by
          cases even <;> simp only [Bool.not_false, Bool.not_true, iff_true, iff_false, Bool.false_eq_true] <;> omega
        simp only [parity]
      · intro step asked
        rw [asked, turned]
        simp only [Nat.zero_mod, true_iff]

theorem Opens.length {version : UInt8} {opens : List (Exchange ε)} (opened : Opens version opens) :
    opens.length ≤ 2 := by
  cases opened with
  | none => exact Nat.zero_le _
  | second => exact Nat.le_of_ble_eq_true rfl
  | first => exact Nat.le_refl _

/-- All of a line is left to type at first. -/
theorem toType_line {line : List UInt8} (some : line ≠ []) : toType (chunks 70 line) = line ++ [0x0A] := by
  have flat := flatten_chunks (show 0 < 70 by decide) line
  rw [toType, if_neg, flat]
  intro none
  rw [none, List.flatten_nil] at flat
  exact some flat.symm

/-- A session of which only the first packets were exchanged. -/
theorem CliSession.opening {line : List UInt8} {log : List (Exchange ε)} {version : UInt8}
    (tried : Opens version (packets 0x19 log)) : CliSession line log version (packets 0x19 log) [] [] where
  exchanged := (List.append_nil _).symm
  tried := ⟨tried, tried.length⟩
  opened := absurd rfl
  few := Nat.zero_le _
  sent := .stopped _
  alternates := fun _ _ none => nomatch none
  kinds := fun _ none => absurd none List.not_mem_nil
  types := List.nil_prefix

theorem CliLog.session {line : List UInt8} {log : List (Exchange ε)} {version : UInt8} {opens : List (Exchange ε)}
    {handle : List UInt8} {steps : List (CliStep ε)} (some : line ≠ [])
    (own : CliLog version handle 64 (if version = 2 then 1 else 0) (chunks 70 line) steps)
    (exchanged : packets 0x19 log = opens ++ steps.map (·.one)) (tried : Opens version opens) {one : Exchange ε}
    {data : List UInt8} (last : opens.getLast? = Option.some one) (opened : Read version 0 0 handle data one) :
    CliSession line log version opens handle steps where
  exchanged := exchanged
  tried := ⟨tried, tried.length⟩
  opened := fun _ => ⟨one, data, last, opened⟩
  few := own.few
  sent := own.sent
  alternates := by
    have alternate := own.sent.alternates true (by simp only [and_true])
    simpa only [iff_true] using alternate
  kinds := own.kinds
  types := toType_line some ▸ own.types

/-- Whatever is replied, a command line is typed once in one session. -/
theorem sunCli_tells (line : List UInt8) (maxOutput : Nat) :
    Tells (sunCli line maxOutput : OverSun ε (List UInt8)) (fun output => CliRun line maxOutput (.ok output))
      (fun fault => CliRun line maxOutput (.error fault)) := by
  have fails : ∀ (error : SunError ε) log version opens handle steps, OnlyLast Fatal log →
      CliSession line log version opens handle steps → CliRun line maxOutput (.error (.error error)) log := by
    intro error log version opens handle steps last session
    refine ⟨?_, last, version, opens, handle, steps, session, fun _ => nofun⟩
    rintro _ ⟨⟩
    exact ⟨error, rfl⟩
  have nothing : ∀ error : SunError ε, CliRun line maxOutput (.error (.error error)) [] := fun error =>
    fails error [] 2 [] [] [] (.of_none fun _ none => absurd none List.not_mem_nil) (.opening (.none 2))
  unfold sunCli
  refine checked_tells (identifier_yields line 1024) nothing ?_
  rintro _ ⟨-, some, -⟩
  split
  · exact Tells.throw (nothing _)
  refine Tells.bind openSession_tells ?_ ?_
  · rintro _ log ⟨last, ⟨error, rfl⟩, version, tried⟩
    exact fails error log version _ [] [] last (.opening tried)
  rintro ⟨version, reply⟩ log ⟨passed, tried, one, sole, answered⟩
  have ended : ∀ error : SunError ε, CliRun line maxOutput (.error (.error error)) (log ++ []) := by
    intro error
    rw [List.append_nil]
    exact fails error log version _ [] [] (.of_none passed) (.opening tried)
  refine checked_tells (cliResponse_yields reply version 0 none) ended ?_
  rintro ⟨status, handle, data⟩ ⟨read, -⟩
  dsimp only
  split
  · exact Tells.throw (ended _)
  rename_i success
  rw [not_not] at success
  subst success
  refine Tells.mono (cliSteps_tells 64 (Nat.zero_le _) (fun _ none => nomatch none)) ?_ ?_
  · rintro output more ⟨all, steps, later, own, whole, most, _, rfl, finished⟩
    have session : CliSession line (log ++ more) version (packets 0x19 log) handle steps := by
      refine own.session some ?_ tried sole ⟨reply, answered, read⟩
      rw [packets_append, later]
    refine ⟨fun _ => nofun, ?_, version, _, handle, steps, session, ?_⟩
    · refine .of_none fun one member => ?_
      exact (List.mem_append.mp member).elim (passed one) (fun later fatal => all one later fatal.1)
    · rintro _ ⟨⟩
      exact ⟨whole.trans (toType_line some), most, finished⟩
  · rintro _ more ⟨last, ⟨error, rfl⟩, steps, later, own⟩
    refine fails error _ version (packets 0x19 log) handle steps ?_ ?_
    · exact .append passed (last.weaken fun _ fatal => fatal.1)
    · refine own.session some ?_ tried sole ⟨reply, answered, read⟩
      rw [packets_append, later]

/-- Command lines are typed once: whatever the processor replies, a session is opened by at most two packets, the
packets after them carry its handle and type the line from its start without a byte twice, and what is returned is
what all of them were answered, once the session has ended. -/
theorem command_lines_typed_once (link : Link ε) (line : List UInt8) (maxOutput : Nat) :
    let ran := (sunCli line maxOutput).eval link
    CliRun line maxOutput ran.1 (ran.2.since link) := by
  refine Ends.result (P := fun result after => CliRun line maxOutput result (Link.since after link)) ?_
  exact Ends.mono (sunCli_tells line maxOutput link) (fun _ _ told => told.2) (fun _ _ told => told.2)

end IpmiRs.Sun
