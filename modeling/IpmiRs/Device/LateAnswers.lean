import IpmiRs.Device.File
import IpmiRs.Library.Runs

/-! Calls over the local device that follow each other, where the answers to
earlier ones may come late: what the driver is relied on for, and when a call
returns the answer to its own request. -/
namespace IpmiRs.Device
open Connection Library Library.Runs

/-- How a call waits for its answer. -/
inductive CallKind where
  | sendRecv (wait : Wait)
  | sendRecvDeadline (early : Option DeviceError) (waits : List Wait) (ending : DeviceError)
  deriving DecidableEq

/-- A call, with the answers that were queued since the one before it. -/
structure Call where
  late : List IpmiRecv
  request : Request
  refused : Option DeviceError
  kind : CallKind
  deriving DecidableEq

/-- The descriptor, and the requests that the driver has not answered yet. -/
structure Session where
  file : File
  outstanding : List Int
  deriving DecidableEq

namespace Call

def waits (call : Call) : List Wait :=
  match call.kind with
  | .sendRecv wait => [wait]
  | .sendRecvDeadline _ waits _ => waits

def early (call : Call) : Option DeviceError :=
  match call.kind with
  | .sendRecv _ => none
  | .sendRecvDeadline early _ _ => early

/-- What a call returns that has waited in vain. -/
def ending (call : Call) : DeviceError :=
  match call.kind with
  | .sendRecv _ => .wouldBlock
  | .sendRecvDeadline _ _ ending => ending

/-- The answers that come during the call or, if it returns before, after it. -/
def during (call : Call) : List IpmiRecv := call.waits.flatMap Wait.arrived

def run (call : Call) (file : File) : Except DeviceError Response × File :=
  match call.kind with
  | .sendRecv wait => (file.arrive call.late).sendRecv call.request call.refused wait
  | .sendRecvDeadline early waits ending =>
    (file.arrive call.late).sendRecvDeadline call.request early call.refused waits ending

/-- The ID of the call's request, if the driver takes it. -/
def submits (call : Call) (file : File) : Option Int :=
  if call.early.isNone ∧ (IpmiAddr.tryFrom (file.target call.request.target)).isOk ∧ call.refused.isNone then
    some (file.seq + 1)
  else none

end Call

namespace Session

/-- A session that begins with a new descriptor. -/
def start (myAddr : Address) : Session := ⟨{ myAddr }, []⟩

def step (s : Session) (call : Call) : Except DeviceError Response × Session :=
  let answered := (call.late ++ call.during).map IpmiRecv.msgId
  ((call.run s.file).1,
    ⟨(call.run s.file).2,
      (s.outstanding ++ (call.submits s.file).toList).filter fun id => id ∉ answered⟩)

end Session

/-- The driver answers each request that it took once, after it took it, with
its ID and a response that fits the buffer. -/
structure Driven (s : Session) (call : Call) : Prop where
  once : ((call.late ++ call.during).map IpmiRecv.msgId).Nodup
  late : ∀ answer ∈ call.late, answer.msgId ∈ s.outstanding
  during : ∀ answer ∈ call.during, answer.msgId ∈ s.outstanding ++ (call.submits s.file).toList
  fits : ∀ answer ∈ call.late ++ call.during, answer.data.length ≤ MAX_DEVICE_RESPONSE ∧
    (tryFrom answer).isOk = true

section calls
variable {file : File} {ending : DeviceError}

/-- No answer is read as none. -/
theorem read_ne_wouldBlock (seq : Int) (answer : IpmiRecv) : File.read seq answer ≠ .error .wouldBlock := by
  unfold File.read
  split
  · exact nofun
  · split
    · exact nofun
    · split <;> exact nofun

/-- The loop goes on while nothing comes. -/
theorem recvUntil_polled (arrived : List IpmiRecv) (later : List Wait) :
    file.recvUntil ending (.polled arrived :: later) =
      match file.queue ++ arrived with
      | [] => file.recvUntil ending later
      | answer :: queue =>
        (File.read file.seq answer, ({ file with queue } : File).arrive (later.flatMap Wait.arrived)) := by
  rw [File.recvUntil, File.recv]
  cases file.queue ++ arrived with
  | nil => rfl
  | cons answer queue =>
    cases taken : File.read file.seq answer with
    | ok response => simp only [taken]
    | error error =>
      cases error with
      | wouldBlock => exact absurd taken (read_ne_wouldBlock _ _)
      | _ => simp only [taken]

/-- What is queued afterwards was queued before or came during the call. -/
theorem recvUntil_queue (file : File) (ending : DeviceError) (waits : List Wait) :
    (file.recvUntil ending waits).2.seq = file.seq ∧
      ∀ answer ∈ (file.recvUntil ending waits).2.queue,
        answer ∈ file.queue ∨ answer ∈ waits.flatMap Wait.arrived := by
  induction waits generalizing file with
  | nil => exact ⟨rfl, fun _ => .inl⟩
  | cons wait later ih =>
    cases wait with
    | failed number arrived =>
      refine ⟨rfl, fun answer member => ?_⟩
      have all : answer ∈ (file.queue ++ arrived) ++ later.flatMap Wait.arrived := member
      rw [List.append_assoc] at all
      exact List.mem_append.mp all
    | polled arrived =>
      rw [recvUntil_polled]
      cases taken : file.queue ++ arrived with
      | nil =>
        obtain ⟨-, rfl⟩ := List.append_eq_nil_iff.mp taken
        exact ih file
      | cons first queue =>
        refine ⟨rfl, fun answer member => ?_⟩
        have all : answer ∈ (file.queue ++ arrived) ++ later.flatMap Wait.arrived := by
          rw [taken]
          exact List.mem_cons_of_mem _ member
        rw [List.append_assoc] at all
        exact List.mem_append.mp all

theorem arrive_nil (file : File) : file.arrive [] = file := by
  rw [File.arrive, List.append_nil]

/-- A call without a deadline is one that waits once. -/
theorem run_eq (call : Call) (file : File) :
    call.run file = (file.arrive call.late).sendRecvDeadline call.request call.early call.refused
      call.waits call.ending := by
  obtain ⟨late, request, refused, kind⟩ := call
  cases kind with
  | sendRecvDeadline early waits ending => rfl
  | sendRecv wait =>
    change (file.arrive late).sendRecv request refused wait =
      (file.arrive late).sendRecvDeadline request none refused [wait] .wouldBlock
    unfold File.sendRecv File.sendRecvDeadline
    rw [List.flatMap_singleton]
    cases (file.arrive late).send request refused with
    | mk sent file =>
      cases sent with
      | error error => rfl
      | ok =>
        simp only [File.recvUntil, List.flatMap_nil, arrive_nil]
        cases file.recv wait with
        | mk result file =>
          cases result with
          | ok response => rfl
          | error error => cases error <;> rfl

/-- A request that is not submitted returns nothing, and one that is waits with the next ID. -/
theorem run_cases (call : Call) (file : File) :
    (call.submits file = none ∧ (∃ error, (call.run file).1 = .error error) ∧
        (call.run file).2.queue = (file.queue ++ call.late) ++ call.during ∧
        file.seq ≤ (call.run file).2.seq) ∨
      call.submits file = some (file.seq + 1) ∧
        ∃ ending, call.run file =
          ({ file.arrive call.late with seq := file.seq + 1 } : File).recvUntil ending call.waits := by
  rw [run_eq]
  unfold File.sendRecvDeadline Call.submits
  cases early : call.early with
  | some error =>
    refine .inl ⟨if_neg fun all => ?_, ⟨error, rfl⟩, rfl, Int.le_refl _⟩
    cases all.1
  | none =>
    have target : (file.arrive call.late).target call.request.target = file.target call.request.target := rfl
    unfold File.send
    rw [target]
    cases IpmiAddr.tryFrom (file.target call.request.target) with
    | error error =>
      refine .inl ⟨if_neg fun all => ?_, ⟨error, rfl⟩, rfl, Int.le_refl _⟩
      cases all.2.1
    | ok addr =>
      cases refused : call.refused with
      | some error =>
        refine .inl ⟨if_neg fun all => ?_, ⟨error, rfl⟩, rfl, ?_⟩
        · cases all.2.2
        · exact Int.le_add_of_nonneg_right (by decide)
      | none => exact .inr ⟨if_pos ⟨rfl, rfl, rfl⟩, _, rfl⟩

end calls

section runs

/-- No ID was given to an answer or a request that the descriptor has not used. -/
structure Sound (s : Session) : Prop where
  queue : ∀ answer ∈ s.file.queue, answer.msgId ≤ s.file.seq
  outstanding : ∀ id ∈ s.outstanding, id ≤ s.file.seq

variable {s : Session} {call : Call}

/-- What is queued when a call is made is of earlier requests. -/
theorem queued_earlier (sound : Sound s) (driven : Driven s call) :
    ∀ answer ∈ s.file.queue ++ call.late, answer.msgId ≤ s.file.seq := by
  intro answer member
  rcases List.mem_append.mp member with queued | late
  · exact sound.queue answer queued
  · exact sound.outstanding _ (driven.late answer late)

/-- What a call leaves in the queue, and the last ID that it gave. -/
theorem run_leaves (call : Call) (file : File) :
    (∀ answer ∈ (call.run file).2.queue, answer ∈ file.queue ++ call.late ∨ answer ∈ call.during) ∧
      file.seq ≤ (call.run file).2.seq ∧ ∀ id ∈ call.submits file, id ≤ (call.run file).2.seq := by
  rcases run_cases call file with ⟨none, -, queue, later⟩ | ⟨some_, ending, waiting⟩
  · refine ⟨fun answer member => ?_, later, fun id own => ?_⟩
    · rw [queue] at member
      exact List.mem_append.mp member
    · rw [none] at own
      cases own
  · obtain ⟨same, queue⟩ := recvUntil_queue { file.arrive call.late with seq := file.seq + 1 } ending
      call.waits
    rw [← waiting] at same queue
    refine ⟨queue, ?_, fun id own => ?_⟩
    · rw [same]
      exact Int.le_add_of_nonneg_right (by decide)
    · rw [some_] at own
      cases own
      rw [same]

/-- A call uses no ID twice. -/
theorem step_sound (sound : Sound s) (driven : Driven s call) : Sound (s.step call).2 := by
  obtain ⟨queue, later, own⟩ := run_leaves call s.file
  have used : ∀ id ∈ s.outstanding ++ (call.submits s.file).toList, id ≤ (call.run s.file).2.seq := by
    intro id member
    rcases List.mem_append.mp member with old | new
    · exact Int.le_trans (sound.outstanding id old) later
    · exact own id (Option.mem_toList.mp new)
  constructor
  · intro answer member
    rcases queue answer member with before | during
    · exact Int.le_trans (queued_earlier sound driven answer before) later
    · exact used _ (driven.during answer during)
  · intro id member
    exact used id (List.mem_filter.mp member).1

end runs

end IpmiRs.Device
