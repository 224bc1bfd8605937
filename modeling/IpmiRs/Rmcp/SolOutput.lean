import IpmiRs.Library.Runs
import IpmiRs.Rmcp.Sol

/-! Console output over whole runs: what was read and what is queued is always
the part of the console's stream that was acknowledged. -/
namespace IpmiRs.Rmcp
open Library.Runs

/-- What a BMC knows of its own transmissions: the current data sequence, where
in the stream it starts, the longest frame sent for it, and how much of it the
console acknowledged last. -/
structure SolSender where
  sequence : Option UInt8
  start : Nat
  longest : Nat
  acknowledged : Nat
  deriving DecidableEq

/-- A console session: its flow, its sender, and the bytes read so far. -/
structure SolSession where
  flow : SolFlow
  sender : SolSender
  delivered : List UInt8
  deriving DecidableEq

inductive SolOp where
  | receive (frame : SolFrame)
  | read (room : Nat)
  deriving DecidableEq

abbrev SolOutcome := Except SolFrameError (Option SolFrame)

/-- The sender learns from an acknowledgement of the frame it sent. -/
def SolSender.learn (sender : SolSender) (frame : SolFrame) : SolOutcome → SolSender
  | .ok (some ack) =>
    { sequence := some frame.sequence
      start :=
        if sender.sequence = some frame.sequence then sender.start
        else sender.start + sender.acknowledged
      longest :=
        if sender.sequence = some frame.sequence then max sender.longest frame.data.length
        else frame.data.length
      acknowledged := ack.accepted.toNat }
  | _ => sender

namespace SolSession

def step (s : SolSession) : SolOp → SolOutcome × SolSession
  | .receive frame =>
    let (out, flow) := s.flow.accept frame
    (out, { s with flow, sender := s.sender.learn frame out })
  | .read room =>
    let (bytes, flow) := s.flow.read room
    (.ok none, { s with flow, delivered := s.delivered ++ bytes })

def start (maxInput maxOutput : Nat) : SolSession where
  flow := .new maxInput maxOutput
  sender := ⟨none, 0, 0, 0⟩
  delivered := []

end SolSession

/-- A data frame of a BMC that sends `stream`: within the negotiated limit, and
from where the current sequence starts or, in the next sequence, from the first
unacknowledged byte. -/
def Sends (stream : List UInt8) (s : SolSession) (frame : SolFrame) : Prop :=
  frame.data.length + 4 ≤ s.flow.maxOutput ∧ 1 ≤ frame.sequence ∧ frame.sequence ≤ 15 ∧
  ((s.sender.sequence = none ∧ frame.data <+: stream) ∨
    (s.sender.sequence = some frame.sequence ∧ frame.data <+: stream.drop s.sender.start ∧
      s.sender.acknowledged ≤ frame.data.length) ∨
    (s.sender.sequence.map SolFlow.following = some frame.sequence ∧
      frame.data <+: stream.drop (s.sender.start + s.sender.acknowledged)))

/-- A frame without data, which may come at any time. -/
def Idles (s : SolSession) (frame : SolFrame) : Prop :=
  frame.sequence = 0 ∧ frame.data = [] ∧ 4 ≤ s.flow.maxOutput

/-- The move receives a frame of such a BMC, or reads. -/
def Follows (stream : List UInt8) (m : Move SolSession SolOp SolOutcome) : Prop :=
  match m.op with
  | .receive frame => Idles m.before frame ∨ Sends stream m.before frame
  | .read _ => True

/-- A frame of a new sequence carries at least what was sent of the previous
one and not acknowledged. -/
def RepeatsSuffix (m : Move SolSession SolOp SolOutcome) : Prop :=
  match m.op with
  | .receive frame => frame.sequence ≠ 0 → m.before.sender.sequence ≠ some frame.sequence →
      m.before.sender.longest ≤ m.before.sender.acknowledged + frame.data.length
  | .read _ => True

instance (stream : List UInt8) (s : SolSession) (frame : SolFrame) :
    Decidable (Sends stream s frame) := inferInstanceAs (Decidable (_ ∧ _))

instance (s : SolSession) (frame : SolFrame) : Decidable (Idles s frame) :=
  inferInstanceAs (Decidable (_ ∧ _))

instance (stream : List UInt8) :
    (m : Move SolSession SolOp SolOutcome) → Decidable (Follows stream m)
  | ⟨_, .receive _, _, _⟩ => inferInstanceAs (Decidable (_ ∨ _))
  | ⟨_, .read _, _, _⟩ => .isTrue trivial

instance : (m : Move SolSession SolOp SolOutcome) → Decidable (RepeatsSuffix m)
  | ⟨_, .receive _, _, _⟩ => inferInstanceAs (Decidable (_ → _))
  | ⟨_, .read _, _, _⟩ => .isTrue trivial

/-- The session and the BMC agree on what was sent and acknowledged. -/
structure Tracks (stream : List UInt8) (s : SolSession) : Prop where
  limit : s.flow.maxOutput ≤ MAX_SOL_DATA + 4
  queue : s.flow.output.length ≤ MAX_OUTPUT_QUEUE
  sequence : s.flow.previousSequence = s.sender.sequence
  accepted : s.flow.previousAccepted = s.sender.acknowledged
  remembered : s.flow.previousData = (stream.drop s.sender.start).take s.sender.longest
  longest : s.flow.previousData.length = s.sender.longest
  within : s.sender.acknowledged ≤ s.sender.longest
  total : s.sender.start + s.sender.acknowledged ≤ stream.length
  intact : s.delivered ++ s.flow.output =
    stream.take (s.sender.start + s.sender.acknowledged)
  fresh : s.sender.sequence = none → s.sender.start = 0 ∧ s.sender.acknowledged = 0

theorem tracks_start (stream : List UInt8) (maxInput maxOutput : Nat) :
    Tracks stream (.start maxInput maxOutput) where
  limit := Nat.min_le_right _ _
  queue := Nat.zero_le _
  sequence := rfl
  accepted := rfl
  remembered := by simp [SolSession.start, SolFlow.new]
  longest := rfl
  within := Nat.le_refl _
  total := Nat.zero_le _
  intact := by simp [SolSession.start, SolFlow.new]
  fresh _ := ⟨rfl, rfl⟩

@[simp] theorem noteAck_frame (flow : SolFlow) (frame : SolFrame) :
    (flow.noteAck frame).output = flow.output ∧
    (flow.noteAck frame).previousSequence = flow.previousSequence ∧
    (flow.noteAck frame).previousData = flow.previousData ∧
    (flow.noteAck frame).previousAccepted = flow.previousAccepted ∧
    (flow.noteAck frame).maxOutput = flow.maxOutput := by
  unfold SolFlow.noteAck
  split <;> exact ⟨rfl, rfl, rfl, rfl, rfl⟩

/-- All an accepted frame can do. -/
theorem SolFlow.accept_cases (flow : SolFlow) (frame : SolFrame) :
    let noted := flow.noteAck frame
    (∃ error, (flow.accept frame).1 = .error error ∧
      ((flow.maxOutput < frame.data.length + 4 ∧ (flow.accept frame).2 = flow) ∨
        noted.resume frame = .error error ∧ (flow.accept frame).2 = noted)) ∨
    (frame.sequence = 0 ∧ flow.accept frame = (.ok none, noted)) ∨
    ∃ before accepted, frame.sequence ≠ 0 ∧ noted.resume frame = .ok before ∧
      accepted = min (min (frame.data.length - before) (MAX_OUTPUT_QUEUE - flow.output.length))
        (255 - before) ∧
      flow.accept frame =
        (.ok (some (SolFrame.ackOf frame.sequence (before + accepted)
            (decide (before + accepted < frame.data.length)))),
          { noted with
            output := flow.output ++ (frame.data.drop before).take accepted
            previousSequence := some frame.sequence
            previousData :=
              if flow.previousSequence ≠ some frame.sequence ∨
                  flow.previousData.length < frame.data.length then frame.data
              else flow.previousData
            previousAccepted := before + accepted }) := by
  intro noted
  obtain ⟨output, previousSequence, previousData, -, -⟩ := noteAck_frame flow frame
  unfold accept
  by_cases limit : flow.maxOutput < frame.data.length + 4
  · rw [if_pos limit]
    exact .inl ⟨_, rfl, .inl ⟨limit, rfl⟩⟩
  rw [if_neg limit]
  by_cases idle : frame.sequence = 0
  · simp only [idle, ↓reduceIte]
    exact .inr (.inl ⟨trivial, rfl⟩)
  simp only [idle, ↓reduceIte]
  cases resumed : noted.resume frame with
  | error error => exact .inl ⟨error, rfl, .inr ⟨rfl, rfl⟩⟩
  | ok before =>
    refine .inr (.inr ⟨before, _, idle, rfl, rfl, ?_⟩)
    rw [← output, ← previousSequence, ← previousData]

theorem following_ne (sequence : UInt8) : SolFlow.following sequence ≠ sequence := by
  unfold SolFlow.following
  split
  · rename_i last
    rw [last]
    decide
  · intro same
    have zero : (1 : UInt8) = 0 := by
      calc (1 : UInt8) = sequence + 1 - sequence := by grind
        _ = 0 := by rw [same, UInt8.sub_self]
    cases zero

/-- Where the current sequence starts once the frame is taken. -/
def SolSender.startOf (sender : SolSender) (frame : SolFrame) : Nat :=
  if sender.sequence = some frame.sequence then sender.start else sender.start + sender.acknowledged

section Tracks
variable {stream : List UInt8} {s : SolSession} {frame : SolFrame}

/-- Two prefixes of one list agree as far as both go. -/
private theorem prefixes_agree {whole first second : List UInt8} (left : first <+: whole)
    (right : second <+: whole) :
    first.take (min second.length first.length) = second.take (min second.length first.length) := by
  obtain ⟨restLeft, rfl⟩ := left
  obtain ⟨restRight, same⟩ := right
  have agree := congrArg (List.take (min second.length first.length)) same
  rw [List.take_append_of_le_length (Nat.min_le_left _ _),
    List.take_append_of_le_length (Nat.min_le_right _ _)] at agree
  exact agree.symm

/-- A frame of the BMC is not refused: it goes on from what was accepted. -/
theorem Tracks.resume (tracks : Tracks stream s) (sends : Sends stream s frame)
    (repeats : s.sender.sequence ≠ some frame.sequence →
      s.sender.longest ≤ s.sender.acknowledged + frame.data.length) :
    ∃ before, (s.flow.noteAck frame).resume frame = .ok before ∧
      frame.data <+: stream.drop (s.sender.startOf frame) ∧
      s.sender.startOf frame + before = s.sender.start + s.sender.acknowledged ∧
      before ≤ frame.data.length ∧
      (s.sender.sequence = some frame.sequence → before = s.sender.acknowledged) := by
  obtain ⟨-, previousSequence, previousData, previousAccepted, -⟩ := noteAck_frame s.flow frame
  rw [tracks.sequence] at previousSequence
  rw [tracks.accepted] at previousAccepted
  obtain ⟨-, -, -, first | again | next⟩ := sends
  · obtain ⟨none_sent, data⟩ := first
    obtain ⟨zero, nothing⟩ := tracks.fresh none_sent
    have start : s.sender.startOf frame = 0 := by
      simp [SolSender.startOf, none_sent, zero, nothing]
    refine ⟨0, ?_, by simpa [start] using data, by omega, Nat.zero_le _, by simp [none_sent]⟩
    rw [SolFlow.resume, previousSequence, none_sent, previousAccepted, nothing]
  · obtain ⟨same, data, enough⟩ := again
    have start : s.sender.startOf frame = s.sender.start := by
      rw [SolSender.startOf, if_pos same]
    refine ⟨s.sender.acknowledged, ?_, by rwa [start], by rw [start], enough, fun _ => rfl⟩
    have agree := prefixes_agree data (tracks.remembered ▸ List.take_prefix _ _)
    rw [SolFlow.resume, previousSequence, same]
    simp only [↓reduceIte]
    rw [previousData, if_neg (not_not.mpr agree), previousAccepted, if_neg (Nat.not_lt.mpr enough)]
  · obtain ⟨follows, data⟩ := next
    obtain ⟨current, sent, following⟩ := Option.map_eq_some_iff.mp follows
    have apart : frame.sequence ≠ current := by
      rw [← following]
      exact following_ne current
    have other : s.sender.sequence ≠ some frame.sequence := by
      rw [sent]
      exact fun same => apart (Option.some.inj same).symm
    have start : s.sender.startOf frame = s.sender.start + s.sender.acknowledged := by
      rw [SolSender.startOf, if_neg other]
    refine ⟨0, ?_, by rwa [start], by rw [start, Nat.add_zero], Nat.zero_le _,
      fun same => absurd same other⟩
    -- Both the unaccepted suffix and the frame start at the first unacknowledged byte.
    have suffix : s.flow.previousData.drop s.sender.acknowledged <+: frame.data := by
      rw [tracks.remembered, List.drop_take, List.drop_drop]
      apply List.prefix_of_prefix_length_le (List.take_prefix _ _) data
      have short := repeats other
      rw [List.length_take]
      omega
    rw [SolFlow.resume, previousSequence, sent]
    simp only [apart, ↓reduceIte, following, ne_eq, not_true_eq_false, previousAccepted,
      previousData, suffix, and_false, or_self]

/-- What is remembered of the current sequence is the longest frame sent for it. -/
private theorem Tracks.remember (tracks : Tracks stream s) (frame : SolFrame)
    (data : frame.data <+: stream.drop (s.sender.startOf frame)) :
    let remembered :=
      if s.flow.previousSequence ≠ some frame.sequence ∨
          s.flow.previousData.length < frame.data.length then frame.data
      else s.flow.previousData
    let longest :=
      if s.sender.sequence = some frame.sequence then max s.sender.longest frame.data.length
      else frame.data.length
    frame.data.length ≤ stream.length - s.sender.startOf frame ∧
    remembered = (stream.drop (s.sender.startOf frame)).take longest ∧
    remembered.length = longest ∧ frame.data.length ≤ longest := by
  have sent : frame.data.length ≤ stream.length - s.sender.startOf frame := by
    rw [← List.length_drop]
    exact data.length_le
  have whole := List.prefix_iff_eq_take.mp data
  rw [tracks.sequence, tracks.longest]
  by_cases same : s.sender.sequence = some frame.sequence
  · simp only [same, ne_eq, not_true_eq_false, false_or, ↓reduceIte]
    by_cases longer : s.sender.longest < frame.data.length
    · rw [if_pos longer, Nat.max_eq_right (Nat.le_of_lt longer)]
      exact ⟨sent, whole, rfl, Nat.le_refl _⟩
    · rw [Nat.not_lt] at longer
      rw [if_neg (Nat.not_lt.mpr longer), Nat.max_eq_left longer]
      refine ⟨sent, ?_, tracks.longest, longer⟩
      rw [SolSender.startOf, if_pos same]
      exact tracks.remembered
  · simp only [same, ne_eq, not_false_eq_true, true_or, ↓reduceIte]
    exact ⟨sent, whole, trivial, Nat.le_refl _⟩

/-- Taking a frame of the BMC keeps the agreement. -/
theorem Tracks.receive (tracks : Tracks stream s) (sends : Sends stream s frame)
    (repeats : s.sender.sequence ≠ some frame.sequence →
      s.sender.longest ≤ s.sender.acknowledged + frame.data.length) :
    ∃ ack, (s.step (.receive frame)).1 = .ok (some ack) ∧
      (s.sender.sequence = some frame.sequence → s.sender.acknowledged ≤ ack.accepted.toNat) ∧
      Tracks stream (s.step (.receive frame)).2 := by
  obtain ⟨before, resumed, data, begins, enough, kept⟩ := tracks.resume sends repeats
  obtain ⟨limit, positive, -, -⟩ := sends
  have small : frame.data.length ≤ 255 := by
    have bound := tracks.limit
    simp only [MAX_SOL_DATA] at bound
    omega
  rcases s.flow.accept_cases frame with ⟨error, -, ⟨beyond, -⟩ | ⟨refused, -⟩⟩ | ⟨idle, -⟩ |
    ⟨before', accepted, -, again, count, shape⟩
  · omega
  · rw [resumed] at refused
    cases refused
  · rw [idle] at positive
    exact absurd positive (by decide)
  obtain rfl := Except.ok.inj (again.symm.trans resumed)
  have counted : (UInt8.ofNat (before' + accepted)).toNat = before' + accepted := by
    rw [UInt8.toNat_ofNat']
    omega
  refine ⟨_, by rw [SolSession.step, shape], ?_, ?_⟩
  · intro same
    have resumes := kept same
    simp only [SolFrame.ackOf, counted]
    omega
  rw [SolSession.step, shape]
  obtain ⟨-, -, -, -, maxOutput⟩ := noteAck_frame s.flow frame
  have queue := tracks.queue
  obtain ⟨sent, remembered, longest, longer⟩ := tracks.remember frame data
  refine ⟨maxOutput.trans_le tracks.limit, ?_, rfl, counted.symm, remembered, longest, ?_, ?_, ?_,
    fun none_sent => by cases none_sent⟩
  · simp only [List.length_append, List.length_take, List.length_drop]
    omega
  · simp only [SolSender.learn, SolFrame.ackOf, counted]
    omega
  · simp only [SolSender.learn, SolFrame.ackOf, counted]
    change s.sender.startOf frame + _ ≤ _
    have total := tracks.total
    omega
  · simp only [SolSender.learn, SolFrame.ackOf, counted]
    change _ = stream.take (s.sender.startOf frame + _)
    have fits : accepted ≤ frame.data.length - before' := by omega
    obtain ⟨rest, whole⟩ := data
    have piece : (frame.data.drop before').take accepted =
        (stream.drop (s.sender.start + s.sender.acknowledged)).take accepted := by
      rw [← begins, ← List.drop_drop, ← whole, List.drop_append_of_le_length enough,
        List.take_append_of_le_length (by rwa [List.length_drop])]
    rw [← List.append_assoc, tracks.intact, piece, ← List.take_add, ← Nat.add_assoc, begins]

/-- A frame without data changes nothing. -/
theorem Tracks.idle (tracks : Tracks stream s) (idles : Idles s frame) :
    (s.step (.receive frame)).1 = .ok none ∧ Tracks stream (s.step (.receive frame)).2 := by
  obtain ⟨none_sent, empty, limit⟩ := idles
  obtain ⟨output, previousSequence, previousData, previousAccepted, maxOutput⟩ :=
    noteAck_frame s.flow frame
  have shape : s.flow.accept frame = (.ok none, s.flow.noteAck frame) := by
    rw [SolFlow.accept, if_neg (by rw [empty]; exact Nat.not_lt.mpr limit)]
    simp only [none_sent, ↓reduceIte]
  rw [SolSession.step, shape]
  refine ⟨rfl, maxOutput.trans_le tracks.limit, ?_, previousSequence.trans tracks.sequence,
    previousAccepted.trans tracks.accepted, previousData.trans tracks.remembered, ?_, tracks.within,
    tracks.total, ?_, tracks.fresh⟩
  · rw [output]
    exact tracks.queue
  · rw [previousData]
    exact tracks.longest
  · rw [output]
    exact tracks.intact

/-- Reading moves bytes from the queue to what was read. -/
theorem Tracks.read (tracks : Tracks stream s) (room : Nat) :
    Tracks stream (s.step (.read room)).2 := by
  refine { tracks with queue := ?_, intact := ?_ }
  · apply Nat.le_trans _ tracks.queue
    simp only [SolSession.step, SolFlow.read, List.length_drop]
    exact Nat.sub_le _ _
  · simp only [SolSession.step, SolFlow.read]
    rw [List.append_assoc, List.take_append_drop]
    exact tracks.intact

end Tracks

/-- The move was not refused, and acknowledged no less of the current sequence
than before. -/
def Progresses (m : Move SolSession SolOp SolOutcome) : Prop :=
  (∃ ack, m.out = .ok ack) ∧ ∀ frame ack, m.op = .receive frame → m.out = .ok (some ack) →
    m.before.sender.sequence = some frame.sequence →
    m.before.sender.acknowledged ≤ ack.accepted.toNat

theorem step_tracks {stream : List UInt8} {s : SolSession} (tracks : Tracks stream s) (op : SolOp)
    (follows : Follows stream (move SolSession.step s op))
    (repeats : RepeatsSuffix (move SolSession.step s op)) :
    Tracks stream (s.step op).2 ∧ Progresses (move SolSession.step s op) := by
  cases op with
  | read room => exact ⟨tracks.read room, ⟨none, rfl⟩, fun frame ack absurd => by cases absurd⟩
  | receive frame =>
    rcases follows with idles | sends
    · obtain ⟨out, next⟩ := tracks.idle idles
      refine ⟨next, ⟨none, out⟩, fun frame' ack _ acked => ?_⟩
      rw [move_out, out] at acked
      cases acked
    · have data : frame.sequence ≠ 0 := by
        intro zero
        have positive := sends.2.1
        rw [zero] at positive
        exact absurd positive (by decide)
      obtain ⟨ack, out, grows, next⟩ := tracks.receive sends (repeats data)
      refine ⟨next, ⟨_, out⟩, ?_⟩
      rintro frame' ack' received acked same
      obtain rfl := SolOp.receive.inj received
      rw [move_out, out] at acked
      obtain rfl := Option.some.inj (Except.ok.inj acked)
      exact grows same

/-- An error leaves the queue and the memory of the previous frame alone. -/
theorem SolFlow.accept_error {flow : SolFlow} {frame : SolFrame} {error : SolFrameError}
    (refused : (flow.accept frame).1 = .error error) :
    (flow.accept frame).2.output = flow.output ∧
    (flow.accept frame).2.previousSequence = flow.previousSequence ∧
    (flow.accept frame).2.previousData = flow.previousData ∧
    (flow.accept frame).2.previousAccepted = flow.previousAccepted := by
  obtain ⟨output, previousSequence, previousData, previousAccepted, -⟩ := noteAck_frame flow frame
  rcases flow.accept_cases frame with ⟨_, -, ⟨-, same⟩ | ⟨-, same⟩⟩ | ⟨-, shape⟩ |
    ⟨_, _, -, -, -, shape⟩
  · rw [same]
    exact ⟨rfl, rfl, rfl, rfl⟩
  · rw [same]
    exact ⟨output, previousSequence, previousData, previousAccepted⟩
  · rw [shape] at refused
    cases refused
  · rw [shape] at refused
    cases refused

/-- Whatever a BMC does that repeats the unacknowledged rest of a sequence in
the next, and however its output is read: no frame is refused, nothing
acknowledged is lost, repeated or reordered, acknowledgements of a sequence
never shrink, and the queue stays bounded. A refused frame leaves no trace. -/
theorem console_output_intact (stream : List UInt8) (maxInput maxOutput : Nat) (ops : List SolOp)
    (follows : ∀ m ∈ moves SolSession.step (.start maxInput maxOutput) ops,
      Follows stream m ∧ RepeatsSuffix m) :
    let s := after SolSession.step (.start maxInput maxOutput) ops
    ((∀ m ∈ moves SolSession.step (.start maxInput maxOutput) ops, Progresses m) ∧
      s.delivered ++ s.flow.output = stream.take (s.sender.start + s.sender.acknowledged) ∧
      s.sender.start + s.sender.acknowledged ≤ stream.length ∧
      s.flow.output.length ≤ MAX_OUTPUT_QUEUE) ∧
    ∀ (flow : SolFlow) (frame : SolFrame) error, (flow.accept frame).1 = .error error →
      (flow.accept frame).2.output = flow.output ∧
      (flow.accept frame).2.previousSequence = flow.previousSequence ∧
      (flow.accept frame).2.previousData = flow.previousData ∧
      (flow.accept frame).2.previousAccepted = flow.previousAccepted := by
  refine ⟨?_, fun flow frame error refused => SolFlow.accept_error refused⟩
  obtain ⟨tracks, progress⟩ := guarded_history SolSession.step
    (P := fun past s => Tracks stream s ∧ ∀ m ∈ past, Progresses m)
    (fun m => Follows stream m ∧ RepeatsSuffix m)
    ⟨tracks_start stream maxInput maxOutput, by simp⟩
    (by
      rintro past s op ⟨follows, repeats⟩ ⟨tracks, progress⟩
      obtain ⟨next, good⟩ := step_tracks tracks op follows repeats
      refine ⟨next, fun m member => ?_⟩
      rcases List.mem_append.mp member with earlier | last
      · exact progress m earlier
      · rwa [List.mem_singleton.mp last])
    ops follows
  exact ⟨progress, tracks.intact, tracks.total, tracks.queue⟩

/-- A retransmission that goes on after a read. -/
theorem console_output_intact_retransmitted :
    let stream : List UInt8 := [0x61, 0x62, 0x63, 0x64]
    let ops : List SolOp := [.receive ⟨1, 0, 0, {}, [0x61, 0x62]⟩, .read 1,
      .receive ⟨1, 0, 0, {}, [0x61, 0x62, 0x63]⟩, .receive ⟨2, 0, 0, {}, [0x64]⟩]
    let s := after SolSession.step (.start 128 128) ops
    s.delivered ++ s.flow.output = stream.take (s.sender.start + s.sender.acknowledged) :=
  (console_output_intact [0x61, 0x62, 0x63, 0x64] 128 128 _ (by decide)).1.2.1

/-- Seventeen frames that fill the queue two bytes short of the last one, and a
next sequence that starts with only the first of these two bytes. -/
def fillingOps : List SolOp :=
  (List.range 16).map (fun i => .receive
      ⟨UInt8.ofNat (i % 15 + 1), 0, 0, {}, List.replicate 255 0⟩) ++
    [.receive ⟨2, 0, 0, {}, List.replicate 18 0⟩, .receive ⟨3, 0, 0, {}, [0]⟩]

/-- A next sequence that starts at the first unacknowledged byte is refused if
it does not carry all that was sent before. -/
theorem shorter_next_frame_refused :
    ¬ ∀ (stream : List UInt8) (maxInput maxOutput : Nat) (ops : List SolOp),
      (∀ m ∈ moves SolSession.step (.start maxInput maxOutput) ops, Follows stream m) →
      ∀ m ∈ moves SolSession.step (.start maxInput maxOutput) ops, ∃ ack, m.out = .ok ack := by
  intro claim
  have follows : ∀ m ∈ moves SolSession.step (.start 259 259) fillingOps,
      Follows (List.replicate 4098 0) m := by decide +kernel
  have refused : ∃ m ∈ moves SolSession.step (.start 259 259) fillingOps,
      m.out = .error .outputGap := by decide +kernel
  obtain ⟨m, member, out⟩ := refused
  obtain ⟨ack, accepted⟩ := claim _ _ _ _ follows m member
  rw [out] at accepted
  cases accepted

end IpmiRs.Rmcp
