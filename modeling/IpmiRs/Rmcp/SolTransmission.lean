import IpmiRs.Library.StopAndWait
import IpmiRs.Rmcp.SolSteps

/-! Console input as it is sent. Whatever the network does, the console keeps to
stop and wait: a frame is repeated until it is acknowledged, and only then the
next one is sent, of what is left and under the next sequence. -/
namespace IpmiRs.Rmcp.Sol
open App App.Auth Connection Library Library.Chunks Library.Stateful

/-! ### What the BMC sees of a session -/

/-- A packet of the BMC, as the acknowledgement that it carries. -/
def acknowledging (sequence : UInt32) (frame : SolFrame) : StopAndWait.Packet UInt8 :=
  ⟨sequence.toNat, if frame.ack = 0 then none else some (frame.ack, frame.accepted.toNat)⟩

def Event.exchanged : Event → StopAndWait.Event UInt8 UInt8
  | .received sequence frame _ => .took (acknowledging sequence frame)
  | .sent frame => .sent ⟨frame.sequence, frame.data⟩

def Event.frames : Event → List SolFrame
  | .received _ _ _ => []
  | .sent frame => [frame]

/-- The frames that may have reached the BMC. -/
def sentFrames (events : List Event) : List SolFrame := events.flatMap Event.frames

abbrev Sender := StopAndWait.Sender UInt8 UInt8

/-- The log goes on with events over which a sender keeps to the protocol. -/
structure Carried (p q : Sender) (events : List Event) (t u : Logged) : Prop where
  log : u.2 = t.2 ++ events
  follows : StopAndWait.Follows SolFlow.following p (events.map Event.exchanged) q

theorem Carried.trans {p q r : Sender} {first second : List Event} {t u v : Logged} (early : Carried p q first t u)
    (late : Carried q r second u v) : Carried p r (first ++ second) t v where
  log := by rw [late.log, early.log, List.append_assoc]
  follows := by
    rw [List.map_append]
    exact early.follows.append late.follows

theorem Carried.refl (p : Sender) (t : Logged) : Carried p p [] t t := ⟨(List.append_nil _).symm, .nil p⟩

theorem sentFrames_append (first second : List Event) :
    sentFrames (first ++ second) = sentFrames first ++ sentFrames second := List.flatMap_append

theorem exchanged_flowEvents (flow : SolFlow) (frames : List Numbered) :
    (flowEvents flow frames).map Event.exchanged =
      frames.map fun numbered => .took (acknowledging numbered.sequence numbered.frame) := by
  induction frames generalizing flow with
  | nil => rfl
  | cons numbered rest ih => exact congrArg (List.cons _) (ih _)

/-- Frames that are taken may be passed by. -/
theorem passed_frames (p : Sender) (flow : SolFlow) (frames : List Numbered) :
    StopAndWait.Follows SolFlow.following p ((flowEvents flow frames).map Event.exchanged) p := by
  rw [exchanged_flowEvents]
  refine .passed p fun event member => ?_
  obtain ⟨numbered, -, rfl⟩ := List.mem_map.mp member
  exact ⟨_, rfl⟩

/-! ### The flow of a sender -/

/-- A data sequence: one of fifteen. -/
def Sequence (sequence : UInt8) : Prop := 1 ≤ sequence ∧ sequence ≤ 15

theorem Sequence.following {sequence : UInt8} (own : Sequence sequence) : Sequence (SolFlow.following sequence) := by
  revert own
  exact Bytes.forall_of_table (p := fun sequence => Sequence sequence → Sequence (SolFlow.following sequence))
    (by unfold Sequence; decide +kernel) sequence

/-- The sender may send the frame: as a new one while none waits, or once more while it waits. -/
def MaySend (p : Sender) (frame : StopAndWait.Frame UInt8 UInt8) : Prop :=
  (p.pending = none ∧ ∀ sequence, p.current = some sequence → frame.sequence = SolFlow.following sequence) ∨
    (p.pending = some frame ∧ p.current = some frame.sequence)

theorem MaySend.step {p : Sender} {frame : StopAndWait.Frame UInt8 UInt8} (may : MaySend p frame) :
    p.Step SolFlow.following (.sent frame) (p.begin frame) := by
  rcases may with ⟨idle, follows⟩ | ⟨waits, current⟩
  · exact .begin idle follows
  · have same : p.begin frame = p := by
      obtain ⟨_, _, confirmed, horizon⟩ := p
      obtain rfl : _ = some frame := waits
      obtain rfl : _ = some frame.sequence := current
      rfl
    rw [same]
    exact .again waits

/-- So many of the characters were acknowledged, and what waits is of the next ones. -/
structure Delivered (p q : Sender) (chars : List UInt8) (n : Nat) : Prop where
  within : n ≤ chars.length
  confirmed : q.confirmed = p.confirmed ++ chars.take n
  underway : q.pending.elim [] StopAndWait.Frame.data <+: chars.drop n

theorem Delivered.none {p q : Sender} {chars : List UInt8} (same : q.confirmed = p.confirmed)
    (underway : q.pending.elim [] StopAndWait.Frame.data <+: chars) : Delivered p q chars 0 :=
  ⟨Nat.zero_le _, by rw [List.take_zero, List.append_nil, same], underway⟩

theorem Delivered.after {p q r : Sender} {chars : List UInt8} {m n : Nat} (within : m ≤ chars.length)
    (early : q.confirmed = p.confirmed ++ chars.take m) (late : Delivered q r (chars.drop m) n) :
    Delivered p r chars (m + n) where
  within := by
    have rest := late.within
    rw [List.length_drop] at rest
    omega
  confirmed := by rw [late.confirmed, early, List.append_assoc, ← List.take_add]
  underway := by
    rw [← List.drop_drop]
    exact late.underway

/-- What is under way of a part is under way of the whole. -/
theorem Delivered.append {p q : Sender} {chars : List UInt8} {n : Nat} (delivered : Delivered p q chars n)
    (rest : List UInt8) : Delivered p q (chars ++ rest) n where
  within := by
    rw [List.length_append]
    exact Nat.le_add_right_of_le delivered.within
  confirmed := by
    rw [List.take_append_of_le_length delivered.within]
    exact delivered.confirmed
  underway := by
    rw [List.drop_append_of_le_length delivered.within]
    exact delivered.underway.trans (List.prefix_append _ _)

/-- Between two frames: none waits, and the next sequence follows the last. -/
structure Ready (p : Sender) (s : V2State) (flow : SolFlow) : Prop where
  idle : p.pending = none
  follows : ∀ sequence, p.current = some sequence → flow.nextInputSequence = SolFlow.following sequence
  sequence : Sequence flow.nextInputSequence
  horizon : p.horizon ≤ s.mark

/-- A session is live and ready for the next frame. -/
def Poised (p : Sender) (limit : Nat) (t : Logged) : Prop :=
  t.1.active = true ∧ ∃ s flow, Opened s flow t ∧ Ready p s flow ∧ flow.maxInput = limit

/-- A frame is to be acknowledged, and no acknowledgement is noted. -/
structure Asking (p : Sender) (s : V2State) (flow : SolFlow) (frame : SolFrame) : Prop where
  may : MaySend p ⟨frame.sequence, frame.data⟩
  sequence : Sequence frame.sequence
  next : flow.nextInputSequence = SolFlow.following frame.sequence
  waiting : flow.waitingForAck = some frame.sequence
  unseen : flow.inputAck = none
  horizon : p.horizon ≤ s.mark

theorem Asking.underway {p : Sender} {s : V2State} {flow : SolFlow} {frame : SolFrame}
    (asking : Asking p s flow frame) :
    p.pending.elim [] StopAndWait.Frame.data <+: frame.data := by
  rcases asking.may with ⟨idle, -⟩ | ⟨waits, -⟩
  · rw [idle]
    exact List.nil_prefix
  · rw [waits]
    exact List.prefix_refl _

/-! ### A call that does not return -/

/-- What a call stops with, when so much of its input was acknowledged: the network keeps it waiting, or it is
interrupted and tells a count that is reached, and that is exact unless it says otherwise. -/
inductive Stopped (base n : Nat) (q : Sender) (u : Logged) : Halt → Prop where
  | waiting : Stopped base n q u .waiting
  | interrupted (interruption : SolInterruption) (k : Nat) (inactive : u.1.active = false) (reached : k ≤ n)
      (told : interruption.confirmedInput = base + k)
      (exact : interruption.inputDeliveryUncertain = false → k = n ∧ q.pending = none) :
      Stopped base n q u (.error (.interrupted interruption))

/-- A call that was to send the characters, after so many others, and does not return. -/
def Failed (p : Sender) (chars : List UInt8) (base : Nat) (allowed : List SolFrame → Prop) (t : Logged) (halt : Halt)
    (u : Logged) : Prop :=
  ∃ events q n, Carried p q events t u ∧ allowed (sentFrames events) ∧ Delivered p q chars n ∧
    Stopped base n q u halt

section
variable {digests : Digests} {backend : Backend} {p q : Sender} {chars : List UInt8} {base limit : Nat}
  {allowed : List SolFrame → Prop} {s : V2State} {flow : SolFlow} {t u : Logged} {events : List Event}

theorem Failed.after {m : Nat} {earlier : List SolFrame → Prop} {halt : Halt} {v : Logged}
    (carried : Carried p q events t u) (within : m ≤ chars.length)
    (confirmed : q.confirmed = p.confirmed ++ chars.take m)
    (failed : Failed q (chars.drop m) (base + m) earlier u halt v)
    (all : ∀ sent, earlier sent → allowed (sentFrames events ++ sent)) : Failed p chars base allowed t halt v := by
  obtain ⟨more, r, n, later, sent, delivered, stopped⟩ := failed
  refine ⟨events ++ more, r, m + n, carried.trans later, ?_, delivered.after within confirmed, ?_⟩
  · rw [sentFrames_append]
    exact all _ sent
  · cases stopped with
    | waiting => exact .waiting
    | interrupted interruption k inactive reached told exact =>
      refine .interrupted interruption (m + k) inactive (Nat.add_le_add_left reached m) ?_ fun certain => ?_
      · rw [told, Nat.add_assoc]
      · obtain ⟨rfl, idle⟩ := exact certain
        exact ⟨rfl, idle⟩

/-- The frame was acknowledged, at most after so many transmissions. -/
structure Acknowledged (p : Sender) (limit left : Nat) (frame : SolFrame) (ack : InputAck) (events : List Event)
    (q : Sender) (t u : Logged) : Prop where
  carried : Carried p q events t u
  poised : Poised q limit u
  current : q.current = some frame.sequence
  confirmed : q.confirmed = p.confirmed ++ frame.data.take ack.accepted.toNat
  sent : ∃ count ≤ left, sentFrames events = .replicate count frame

/-- A frame that is sent waits. -/
theorem Asking.sent {frame : SolFrame} (asking : Asking p s flow frame) (moved : Moved [.sent frame] t u) :
    Carried p (p.begin ⟨frame.sequence, frame.data⟩) [.sent frame] t u :=
  ⟨moved.log, .cons asking.may.step (.nil _)⟩

theorem Moved.passed {frames : List Numbered} (moved : Moved (flowEvents flow frames) t u) (p : Sender) :
    Carried p p (flowEvents flow frames) t u := ⟨moved.log, passed_frames p flow frames⟩

/-- The acknowledgement came after a transmission that was in vain. -/
theorem Acknowledged.again {frame : SolFrame} {ack : InputAck} {left : Nat} {first : List Event} {v : Logged}
    (carried : Carried p (p.begin ⟨frame.sequence, frame.data⟩) first t u) (once : sentFrames first = [frame])
    (later : Acknowledged (p.begin ⟨frame.sequence, frame.data⟩) limit left frame ack events q u v) :
    Acknowledged p limit (left + 1) frame ack (first ++ events) q t v where
  carried := carried.trans later.carried
  poised := later.poised
  current := later.current
  confirmed := later.confirmed
  sent := by
    obtain ⟨count, few, same⟩ := later.sent
    exact ⟨count + 1, Nat.succ_le_succ few, by rw [sentFrames_append, once, same]; rfl⟩

/-- A sequence was drawn for the next frame. -/
structure Drawn (p : Sender) (limit : Nat) (sequence : UInt8) (t u : Logged) : Prop where
  carried : Carried p p [] t u
  active : u.1.active = true
  idle : p.pending = none
  follows : ∀ last, p.current = some last → sequence = SolFlow.following last
  own : Sequence sequence
  opened : ∃ s flow, Opened s flow u ∧ flow.nextInputSequence = SolFlow.following sequence ∧ p.horizon ≤ s.mark ∧
    flow.maxInput = limit

theorem Moved.still (moved : Moved [] t u) (p : Sender) : Carried p p [] t u := ⟨moved.log, .nil p⟩

/-- Frames are sent in rounds, each under another sequence than the one before: at most three times, and with at
most so many characters. -/
inductive Rounds (limit : Nat) : Option UInt8 → List SolFrame → Option UInt8 → Prop where
  | nil (last : Option UInt8) : Rounds limit last [] last
  | cons {last final : Option UInt8} {frame : SolFrame} {count : Nat} {rest : List SolFrame}
      (new : last ≠ some frame.sequence) (few : count ≤ 3) (fits : frame.data.length ≤ limit)
      (later : Rounds limit (some frame.sequence) rest final) :
      Rounds limit last (.replicate count frame ++ rest) final

theorem Rounds.append {first middle last : Option UInt8} {sent more : List SolFrame}
    (early : Rounds limit first sent middle) (late : Rounds limit middle more last) :
    Rounds limit first (sent ++ more) last := by
  induction early with
  | nil => exact late
  | cons new few fits later ih =>
    rw [List.append_assoc]
    exact .cons new few fits (ih late)

theorem Drawn.new {sequence : UInt8} (drawn : Drawn p limit sequence t u) : p.current ≠ some sequence := by
  intro same
  exact following_ne sequence (drawn.follows sequence same).symm

/-- The frames of one round. -/
theorem Drawn.round {frame : SolFrame} (drawn : Drawn p limit frame.sequence t u) {count most : Nat}
    (few : count ≤ MAX_RETRANSMISSIONS + 1) (fits : frame.data.length ≤ most) :
    Rounds most p.current (.replicate count frame) (some frame.sequence) := by
  have once : Rounds most p.current (.replicate count frame ++ []) (some frame.sequence) :=
    .cons drawn.new few fits (.nil _)
  rwa [List.append_nil] at once

theorem Poised.idle (poised : Poised p limit t) : p.pending = none := by
  obtain ⟨-, s, flow, -, ready, -⟩ := poised
  exact ready.idle

theorem Failed.mono {earlier : List SolFrame → Prop} {halt : Halt} (failed : Failed p chars base earlier t halt u)
    (all : ∀ sent, earlier sent → allowed sent) : Failed p chars base allowed t halt u := by
  obtain ⟨events, q, n, carried, sent, delivered, stopped⟩ := failed
  exact ⟨events, q, n, carried, all _ sent, delivered, stopped⟩

theorem Failed.append {halt : Halt} (failed : Failed p chars base allowed t halt u) (rest : List UInt8) :
    Failed p (chars ++ rest) base allowed t halt u := by
  obtain ⟨events, q, n, carried, sent, delivered, stopped⟩ := failed
  exact ⟨events, q, n, carried, sent, delivered.append rest, stopped⟩

/-- All the characters were acknowledged, after so many others. -/
structure Completed (p : Sender) (chars : List UInt8) (limit base : Nat) (t : Logged) (confirmed : Nat)
    (u : Logged) : Prop where
  counted : confirmed = base + chars.length
  done : ∃ events q, Carried p q events t u ∧ Poised q limit u ∧ q.confirmed = p.confirmed ++ chars ∧
    Rounds (limit - 4) p.current (sentFrames events) q.current

/-- The log went on as the sender allows, and a session that is still live is ready for input. -/
def Went (p : Sender) (limit : Nat) (t u : Logged) : Prop :=
  ∃ events q, Carried p q events t u ∧ (u.1.active = true → Poised q limit u)

/-- A session that is over sends nothing more. -/
theorem Went.ended (carried : Carried p q events t u) (inactive : u.1.active = false) : Went p limit t u := by
  refine ⟨events, q, carried, fun active => ?_⟩
  rw [inactive] at active
  cases active

theorem Went.refl (live : t.1.active = true → Poised p limit t) : Went p limit t t := ⟨[], p, .refl p t, live⟩

end

end IpmiRs.Rmcp.Sol
