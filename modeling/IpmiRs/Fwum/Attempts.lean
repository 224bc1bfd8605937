import IpmiRs.Fwum.UpdateMethods

/-! One attempt at a command that changes a device, told from all it exchanged:
the device ID was read, and the command was sent once if that was of a device
it is for. -/
namespace IpmiRs.Fwum
open Connection App Library Library.Stateful OverLink

variable {ε : Type}

/-! ### What an exchange shows -/

/-- The completion code and the data a request was answered with, if it was. -/
def answer (one : Exchange ε) : Option (UInt8 × List UInt8) :=
  match one.reply with
  | .ok response =>
    if response.netfnRaw = one.request.netfn.responseValue ∧ response.cmd = one.request.cmd then
      some (response.cc, response.data)
    else none
  | .error _ => none

/-- The device answered that it did not do what was asked. -/
def rejected (one : Exchange ε) : Bool := (answer one).any fun (cc, _) => cc ≠ 0

/-- How much data a device answers a mutation with. -/
def UpdateAction.answerLength : UpdateAction → Nat
  | .startImage => 1
  | _ => 0

/-- The device answered a mutation that it was done. -/
def acknowledged (one : Exchange ε) : Bool :=
  (answer one).any fun (cc, data) =>
    cc = 0 ∧ some data.length = (action one).map UpdateAction.answerLength

/-- Where a buffer is: the target and the channel. -/
abbrev Place := RequestTargetAddress × UInt8

/-- The buffer a request about buffers is for. -/
def place (one : Exchange ε) : Place := (one.request.target, one.request.data[0]!)

/-- A buffer was set, or may have been. -/
def mayHaveSet (one : Exchange ε) : Bool := action one = some .setBuffer ∧ ¬rejected one

/-- The buffers that may have been set, the last one first. -/
def pending (log : List (Exchange ε)) : List Place := ((log.filter mayHaveSet).map place).reverse

/-- The buffers that were cleared, in order. -/
def cleared (log : List (Exchange ε)) : List Place :=
  (log.filter fun one => action one = some .clearBuffer).map place

/-- The place of an armed buffer. -/
def armedPlace (armed : FwumTarget × BufferChannel) : Place :=
  ((setChannelBuffer armed.1 armed.2 0).targetAddress, armed.2.value)

theorem pending_append (log more : List (Exchange ε)) :
    pending (log ++ more) = pending more ++ pending log := by
  simp [pending]

theorem cleared_append (log more : List (Exchange ε)) :
    cleared (log ++ more) = cleared log ++ cleared more := by
  simp [cleared]

theorem pending_quiet {log : List (Exchange ε)} (quiet : ∀ one ∈ log, action one ≠ some .setBuffer) :
    pending log = [] := by
  rw [pending, List.reverse_eq_nil_iff, List.map_eq_nil_iff, List.filter_eq_nil_iff]
  intro one member set
  exact quiet one member (of_decide_eq_true set).1

theorem cleared_quiet {log : List (Exchange ε)} (quiet : ∀ one ∈ log, action one ≠ some .clearBuffer) :
    cleared log = [] := by
  rw [cleared, List.map_eq_nil_iff, List.filter_eq_nil_iff]
  intro one member clear
  exact quiet one member (of_decide_eq_true clear)

/-! ### One mutation -/

/-- A command that changes a device, and is acknowledged with so much data. -/
structure Mutates {α : Type} (command : OemCommand α FwumParseError) (kind : UpdateAction) : Prop where
  acts : UpdateAction.ofRequest command.request = some kind
  plain : ∀ code data, command.handleCompletionCode code data = none
  parses : ∀ data, (command.parse data).isOk = true ↔ data.length = kind.answerLength

/-- The exchanges of one mutation and its failure, if it failed: after the
device ID it was sent once, unless that was not of a device it is for. -/
inductive Attempted {α : Type} (command : OemCommand α FwumParseError) (kind : UpdateAction) :
    List (Exchange ε) → Option (MutationError ε) → Prop
  | withheld (check : Exchange ε) (error : MutationError ε)
      (asked : check.request = (targetDeviceId command.target).request)
      (other : identified command check = false) (named : error.action = kind)
      (told : error.outcome = .notSent) : Attempted command kind [check] (some error)
  | failed (check one : Exchange ε) (error : MutationError ε)
      (asked : check.request = (targetDeviceId command.target).request)
      (checked : identified command check = true) (sent : one.request = command.request)
      (unacknowledged : acknowledged one = false) (named : error.action = kind)
      (told : error.outcome = if rejected one then .rejected else .unknown) :
      Attempted command kind [check, one] (some error)
  | done (check one : Exchange ε)
      (asked : check.request = (targetDeviceId command.target).request)
      (checked : identified command check = true) (sent : one.request = command.request)
      (answered : acknowledged one = true) : Attempted command kind [check, one] none

section mutations
variable {α : Type} {command : OemCommand α FwumParseError} {kind : UpdateAction}

/-- A mutation that returns was acknowledged. -/
theorem acknowledged_of_ok (mutates : Mutates command kind) {one : Exchange ε}
    (sent : one.request = command.request) {value : α}
    (read : (command.readReply one.reply : Except (IpmiError ε FwumParseError) α) = .ok value) :
    acknowledged one = true := by
  obtain ⟨response, replied, netfn, cmd, cc, parsed⟩ := IpmiCommand.readReply_eq_ok.mp read
  have answered : answer one = some (response.cc, response.data) := by
    rw [answer, replied, sent]
    exact if_pos ⟨netfn, cmd⟩
  have long : response.data.length = kind.answerLength :=
    (mutates.parses _).mp (by rw [parsed]; rfl)
  have acts : action one = some kind := by rw [action, sent, mutates.acts]
  simp [acknowledged, answered, cc, long, acts]

/-- A mutation that fails was not, and is told as refused if it was. -/
theorem unacknowledged_of_error (mutates : Mutates command kind) {one : Exchange ε}
    (sent : one.request = command.request) {error : IpmiError ε FwumParseError}
    (read : command.readReply one.reply = .error error) :
    acknowledged one = false ∧
      (mutation kind (.command error)).outcome = if rejected one then .rejected else .unknown := by
  have acts : action one = some kind := by rw [action, sent, mutates.acts]
  have plain := mutates.plain
  cases replied : one.reply with
  | error lost =>
    have silent : answer one = none := by rw [answer, replied]
    rw [replied] at read
    cases read
    simp [acknowledged, rejected, silent, mutation]
  | ok response =>
    rw [replied, IpmiCommand.readReply, IpmiCommand.read] at read
    by_cases other : response.netfnRaw ≠ command.message.netfn.responseValue ∨
        response.cmd ≠ command.message.cmd
    · have silent : answer one = none := by
        rw [answer, replied, sent]
        exact if_neg fun same => other.elim (· same.1) (· same.2)
      rw [if_pos other] at read
      cases read
      simp [acknowledged, rejected, silent, mutation]
    · have answered : answer one = some (response.cc, response.data) := by
        rw [answer, replied, sent]
        rw [not_or, not_not, not_not] at other
        exact if_pos other
      rw [if_neg other] at read
      cases code : CompletionErrorCode.ofByte response.cc with
      | some failure =>
        have bad : response.cc ≠ 0 := fun zero => by
          rw [(CompletionErrorCode.ofByte_eq_none _).mpr zero] at code
          cases code
        simp only [code, plain] at read
        cases read
        simp [acknowledged, rejected, answered, bad, mutation]
      | none =>
        have good := (CompletionErrorCode.ofByte_eq_none _).mp code
        cases parsed : command.parse response.data with
        | ok value =>
          simp only [code, parsed] at read
          cases read
        | error failure =>
          have short : response.data.length ≠ kind.answerLength := fun long => by
            have fine := (mutates.parses _).mpr long
            rw [parsed] at fine
            cases fine
          simp only [code, parsed] at read
          cases read
          simp [acknowledged, rejected, answered, good, acts, short, mutation]

theorem noData_parses (data : List UInt8) : (noData data).isOk = true ↔ data.length = 0 := by
  cases data <;> simp [noData, Fwum.length, Except.isOk, Except.toBool]

theorem startedBank_parses (data : List UInt8) :
    (StartedBank.parse data).isOk = true ↔ data.length = 1 := by
  unfold StartedBank.parse Fwum.length
  by_cases short : data.length < 1
  · simp [short, Except.isOk, Except.toBool]
    omega
  · by_cases long : 1 < data.length
    · simp [short, long, Except.isOk, Except.toBool]
      omega
    · simp [short, long, Except.isOk, Except.toBool]
      omega

/-- A mutation over the manager's commands. -/
theorem mutates_command (target : FwumTarget) {cmd : UInt8} (data : List UInt8)
    {parse : List UInt8 → Except FwumParseError α} (acts : UpdateAction.ofCommand cmd = some kind)
    (parses : ∀ data, (parse data).isOk = true ↔ data.length = kind.answerLength) :
    Mutates (target.command (request cmd data) parse) kind where
  acts := (ofRequest_command target cmd data parse).trans acts
  plain _ _ := rfl
  parses := parses

theorem setChannelBuffer_acts (target : FwumTarget) (channel : BufferChannel) (size : UInt8) :
    UpdateAction.ofRequest (setChannelBuffer target channel size).request =
      if size = 0 then some .clearBuffer else some .setBuffer := by
  have netfn : (setChannelBuffer target channel size).request.netfnRaw = 0x3E := rfl
  have cmd : (setChannelBuffer target channel size).request.cmd = 0x82 := rfl
  unfold UpdateAction.ofRequest
  rw [netfn, cmd, if_neg (by decide), if_pos (by decide)]
  rfl

theorem mutates_clear (target : FwumTarget) (channel : BufferChannel) :
    Mutates (setChannelBuffer target channel 0) .clearBuffer where
  acts := setChannelBuffer_acts target channel 0
  plain _ _ := rfl
  parses := noData_parses

theorem mutates_set (target : FwumTarget) (channel : BufferChannel) {size : UInt8}
    (some_ : size ≠ 0) : Mutates (setChannelBuffer target channel size) .setBuffer where
  acts := by rw [setChannelBuffer_acts, if_neg some_]
  plain _ _ := rfl
  parses := noData_parses

end mutations

section attempts
variable {α : Type} {command : OemCommand α FwumParseError} {kind : UpdateAction}

/-- What a mutation exchanged: a read, and the mutation unless it was withheld. -/
theorem Attempted.read {part : List (Exchange ε)} {failure : Option (MutationError ε)}
    (attempted : Attempted command kind part failure) :
    ∃ check rest, part = check :: rest ∧ action check = none ∧ rest.length ≤ 1 ∧
      ∀ one ∈ rest, one.request = command.request := by
  have quiet : ∀ check : Exchange ε, check.request = (targetDeviceId command.target).request →
      action check = none := by
    intro check asked
    rw [action, asked]
    exact targetDeviceId_quiet _
  cases attempted with
  | withheld check error asked =>
    exact ⟨check, [], rfl, quiet check asked, Nat.zero_le _, fun _ none => absurd none List.not_mem_nil⟩
  | failed check one error asked checked sent =>
    refine ⟨check, [one], rfl, quiet check asked, Nat.le_refl _, fun other member => ?_⟩
    rw [List.mem_singleton.mp member, sent]
  | done check one asked checked sent =>
    refine ⟨check, [one], rfl, quiet check asked, Nat.le_refl _, fun other member => ?_⟩
    rw [List.mem_singleton.mp member, sent]

/-- What an attempt shows but for its place. -/
theorem Attempted.shown (mutates : Mutates command kind) (other : kind ≠ .clearBuffer) {part : List (Exchange ε)}
    {failure : Option (MutationError ε)} (attempted : Attempted command kind part failure) :
    (∀ one ∈ part, action one ≠ some .clearBuffer) ∧
      (∀ one ∈ part.dropLast, (action one).isSome = true → acknowledged one = true) ∧
      (failure = none → ∀ one ∈ part, (action one).isSome = true → acknowledged one = true) := by
  have quiet : ∀ check : Exchange ε, check.request = (targetDeviceId command.target).request →
      action check = none := by
    intro check asked
    rw [action, asked]
    exact targetDeviceId_quiet _
  have acts : ∀ one : Exchange ε, one.request = command.request → action one = some kind := by
    intro one sent
    rw [action, sent, mutates.acts]
  cases attempted with
  | withheld check error asked => simp [quiet check asked]
  | failed check one error asked checked sent => simp [quiet check asked, acts one sent, other]
  | done check one asked checked sent answered =>
    simp [quiet check asked, acts one sent, other, answered]

/-- A buffer may have been set unless that was refused or not even asked. -/
theorem pending_attempted {target : FwumTarget} {channel : BufferChannel} {size : UInt8}
    (some_ : size ≠ 0) {part : List (Exchange ε)} {failure : Option (MutationError ε)}
    (attempted : Attempted (setChannelBuffer target channel size) .setBuffer part failure) :
    pending part = if failure.all (·.outcome = .unknown) then [armedPlace (target, channel)] else [] := by
  have quiet : ∀ check : Exchange ε,
      check.request = (targetDeviceId (setChannelBuffer target channel size).target).request →
      mayHaveSet check = false := by
    intro check asked
    have silent : action check = none := by
      rw [action, asked]
      exact targetDeviceId_quiet _
    simp [mayHaveSet, silent]
  have acts : ∀ one : Exchange ε, one.request = (setChannelBuffer target channel size).request →
      mayHaveSet one = !rejected one ∧ place one = armedPlace (target, channel) := by
    intro one sent
    have set : action one = some .setBuffer := by rw [action, sent, (mutates_set _ _ some_).acts]
    refine ⟨by simp [mayHaveSet, set], ?_⟩
    rw [place, sent]
    rfl
  cases attempted with
  | withheld check error asked other named told => simp [pending, quiet check asked, told]
  | failed check one error asked checked sent unacknowledged named told =>
    obtain ⟨set, here⟩ := acts one sent
    cases refused : rejected one <;> simp [pending, quiet check asked, set, here, told, refused]
  | done check one asked checked sent answered =>
    obtain ⟨set, here⟩ := acts one sent
    have taken : rejected one = false := by
      unfold acknowledged at answered
      unfold rejected
      cases said : answer one with
      | none => rfl
      | some pair => simp_all
    simp [pending, quiet check asked, set, here, taken]

end attempts

namespace UpdateSession
variable {s t u : UpdateSession ε}

section attempts
variable {α : Type} {command : OemCommand α FwumParseError} {kind : UpdateAction}

/-- One mutation, with all it exchanged. -/
theorem write_attempted (mutates : Mutates command kind) (s : UpdateSession ε) :
    Ends (write command kind) s
      (fun _ t => t = { s with link := t.link } ∧ s.link.Extends t.link ∧
        Attempted command kind (t.link.since s.link) none)
      (fun error t => t = { s with link := t.link } ∧ s.link.Extends t.link ∧
        Attempted command kind (t.link.since s.link) (some error)) := by
  refine Ends.adapt (Ends.zoom (Ends.mono (sendOem_told command s.link) ?_ ?_))
  · rintro value after ⟨extended, check, one, since, asked, checked, sent, read⟩
    refine ⟨rfl, extended, ?_⟩
    rw [since]
    exact .done check one asked checked sent (acknowledged_of_ok mutates sent read)
  · rintro error after ⟨extended, check, asked, ⟨other, since, withheld⟩ |
      ⟨one, failure, checked, since, sent, rfl, read⟩⟩
    · refine ⟨rfl, extended, ?_⟩
      rw [since]
      refine .withheld check _ asked other rfl ?_
      cases error with
      | command failure => exact absurd rfl (withheld failure)
      | identity => rfl
      | unsupportedDevice => rfl
    · refine ⟨rfl, extended, ?_⟩
      rw [since]
      obtain ⟨unanswered, told⟩ := unacknowledged_of_error mutates sent read
      exact .failed check one _ asked checked sent unanswered rfl told

end attempts

end UpdateSession
end IpmiRs.Fwum
