import Mathlib.Data.List.Basic

/-! Stop and wait. A sender repeats a frame until it is acknowledged, and only
then sends the next one, under the next sequence; sequences come round again. A
receiver takes a part of each frame with a new sequence. Frames may be lost or
doubled on the way, and packets also late: they carry growing numbers. -/
namespace IpmiRs.Library.StopAndWait

structure Frame (S α : Type) where
  sequence : S
  data : List α

/-- A packet of the receiver: its number, and the sequence that it acknowledges with how much was taken. -/
structure Packet (S : Type) where
  number : Nat
  acknowledged : Option (S × Nat)

/-- What the sender sees. -/
inductive Event (S α : Type) where
  | sent (frame : Frame S α)
  | took (packet : Packet S)

section
variable {S α : Type}

/-! ### The sender -/

/-- What a sender knows: the sequence it used last, the frame that waits for an
acknowledgement, what was acknowledged, and the number of the packet that last
acknowledged a frame. -/
structure Sender (S α : Type) where
  current : Option S
  pending : Option (Frame S α)
  confirmed : List α
  horizon : Nat

/-- A new frame is sent under a sequence. -/
def Sender.begin (s : Sender S α) (frame : Frame S α) : Sender S α :=
  { s with current := some frame.sequence, pending := some frame }

/-- The frame that waits is acknowledged by a packet. -/
def Sender.confirm (s : Sender S α) (frame : Frame S α) (number count : Nat) : Sender S α :=
  { s with pending := none, confirmed := s.confirmed ++ frame.data.take count, horizon := number }

/-- A sender keeps to the protocol. -/
inductive Sender.Step (next : S → S) : Sender S α → Event S α → Sender S α → Prop where
  | begin {s : Sender S α} {frame : Frame S α} (idle : s.pending = none)
      (follows : ∀ sequence, s.current = some sequence → frame.sequence = next sequence) :
      Step next s (.sent frame) (s.begin frame)
  | again {s : Sender S α} {frame : Frame S α} (waits : s.pending = some frame) : Step next s (.sent frame) s
  | passed {s : Sender S α} {packet : Packet S} : Step next s (.took packet) s
  | acknowledged {s : Sender S α} {frame : Frame S α} {number count : Nat} (waits : s.pending = some frame)
      (later : s.horizon < number) :
      Step next s (.took ⟨number, some (frame.sequence, count)⟩) (s.confirm frame number count)

/-- A sender keeps to the protocol over some events. -/
inductive Follows (next : S → S) : Sender S α → List (Event S α) → Sender S α → Prop where
  | nil (s : Sender S α) : Follows next s [] s
  | cons {s u v : Sender S α} {event : Event S α} {events : List (Event S α)} (step : s.Step next event u)
      (rest : Follows next u events v) : Follows next s (event :: events) v

variable {next : S → S}

theorem Follows.append {s u v : Sender S α} {first second : List (Event S α)} (early : Follows next s first u)
    (late : Follows next u second v) : Follows next s (first ++ second) v := by
  induction early with
  | nil s => exact late
  | cons step rest ih => exact .cons step (ih late)

/-- Packets may always be passed by. -/
theorem Follows.passed (s : Sender S α) {events : List (Event S α)}
    (took : ∀ event ∈ events, ∃ packet, event = .took packet) : Follows next s events s := by
  induction events with
  | nil => exact .nil s
  | cons event events ih =>
    obtain ⟨packet, rfl⟩ := took event List.mem_cons_self
    exact .cons .passed (ih fun event member => took event (List.mem_cons_of_mem _ member))

/-! ### The receiver and the network -/

/-- A receiver: the sequence of the frame it took last and how much of it, what
it took, and the number of the packet it issued last. -/
structure Receiver (S α : Type) where
  last : Option (S × Nat)
  accepted : List α
  clock : Nat

/-- The receiver, with the frames that are under way to it and the packets that it has issued. -/
structure World (S α : Type) where
  inFlight : List (Frame S α)
  receiver : Receiver S α
  issued : List (Packet S)

/-- What is said of the packets that were issued, and of the next one, is said of them all. -/
theorem forall_issued {P : Packet S → Prop} {packet : Packet S} {issued : List (Packet S)} (here : P packet)
    (rest : ∀ other ∈ issued, P other) : ∀ other ∈ packet :: issued, P other := by
  intro other member
  rcases List.mem_cons.mp member with rfl | member
  · exact here
  · exact rest other member

/-- Frames that were under way before a place are lost; those from it on are still under way. -/
theorem mem_of_way {frame other : Frame S α} {lost rest way : List (Frame S α)} (same : way = lost ++ frame :: rest)
    (member : other ∈ frame :: rest) : other ∈ way := by
  rw [same]
  exact List.mem_append_right lost member

/-- What an event makes of the network: a frame is under way, and a packet that is taken was issued. -/
inductive World.Step : World S α → Event S α → World S α → Prop where
  | sent (w : World S α) (frame : Frame S α) : Step w (.sent frame) { w with inFlight := w.inFlight ++ [frame] }
  | took {w : World S α} {packet : Packet S} (issued : packet ∈ w.issued) : Step w (.took packet) w

/-! ### Agreement -/

/-- What the sender and the receiver agree on while no frame waits. -/
structure Settled (s : Sender S α) (w : World S α) : Prop where
  idle : s.pending = none
  last : w.receiver.last.map Prod.fst = s.current
  way : ∀ frame ∈ w.inFlight, s.current = some frame.sequence
  accepted : w.receiver.accepted = s.confirmed
  packets : ∀ packet ∈ w.issued, s.horizon < packet.number →
    packet.acknowledged = none ∨ packet.acknowledged = w.receiver.last

/-- A frame waits that the receiver has not seen. -/
structure Underway (s : Sender S α) (w : World S α) (frame : Frame S α) : Prop where
  waits : s.pending = some frame
  current : s.current = some frame.sequence
  unseen : w.receiver.last.map Prod.fst ≠ some frame.sequence
  way : ∃ old new, w.inFlight = old ++ new ∧ (∀ other ∈ old, w.receiver.last.map Prod.fst = some other.sequence) ∧
    ∀ other ∈ new, other = frame
  accepted : w.receiver.accepted = s.confirmed
  packets : ∀ packet ∈ w.issued, s.horizon < packet.number →
    packet.acknowledged = none ∨ packet.acknowledged = w.receiver.last

/-- A frame waits that the receiver has taken some of; the packets that tell so
are those with a number above some edge. -/
structure Taken (s : Sender S α) (w : World S α) (frame : Frame S α) (count edge : Nat) : Prop where
  waits : s.pending = some frame
  current : s.current = some frame.sequence
  last : w.receiver.last = some (frame.sequence, count)
  fits : count ≤ frame.data.length
  way : ∀ other ∈ w.inFlight, other.sequence = frame.sequence
  accepted : w.receiver.accepted = s.confirmed ++ frame.data.take count
  reached : edge ≤ w.receiver.clock
  early : ∀ packet ∈ w.issued, s.horizon < packet.number → packet.number ≤ edge →
    ∀ known, packet.acknowledged ≠ some (frame.sequence, known)
  packets : ∀ packet ∈ w.issued, edge < packet.number →
    packet.acknowledged = none ∨ packet.acknowledged = w.receiver.last

/-- How far the sender and the receiver can be apart. -/
inductive Phase (s : Sender S α) (w : World S α) : Prop where
  | settled (holds : Settled s w)
  | underway {frame : Frame S α} (holds : Underway s w frame)
  | taken {frame : Frame S α} {count edge : Nat} (holds : Taken s w frame count edge)

/-- The sender and the receiver agree, and no packet has a number that is still to come. -/
structure Agree (s : Sender S α) (w : World S α) : Prop where
  numbered : ∀ packet ∈ w.issued, packet.number ≤ w.receiver.clock
  phase : Phase s w

variable {s t : Sender S α} {w u : World S α} {frame : Frame S α}

theorem Agree.issue (agree : Agree s w) {number : Nat} {acknowledged : Option (S × Nat)}
    (later : w.receiver.clock < number) (honest : acknowledged = none ∨ acknowledged = w.receiver.last) :
    Agree s { w with
      receiver := { w.receiver with clock := number }
      issued := ⟨number, acknowledged⟩ :: w.issued } where
  numbered := forall_issued (Nat.le_refl _) fun packet issued =>
    Nat.le_trans (agree.numbered packet issued) (Nat.le_of_lt later)
  phase := by
    cases agree.phase with
    | settled holds =>
      exact .settled { holds with packets := forall_issued (fun _ => honest) holds.packets }
    | underway holds =>
      exact .underway { holds with packets := forall_issued (fun _ => honest) holds.packets }
    | taken holds =>
      refine .taken { holds with
        reached := Nat.le_trans holds.reached (Nat.le_of_lt later)
        early := forall_issued (fun _ low => ?_) holds.early
        packets := forall_issued (fun _ => honest) holds.packets }
      have reached := holds.reached
      exact absurd (Nat.lt_of_lt_of_le later low) (Nat.not_lt.mpr reached)

/-- An event keeps the agreement, if the sender keeps to the protocol. -/
theorem Agree.step (apart : ∀ sequence, next sequence ≠ sequence) (agree : Agree s w) {event : Event S α}
    (sends : s.Step next event t) (serves : w.Step event u) : Agree t u := by
  cases serves with
  | sent frame =>
    refine ⟨agree.numbered, ?_⟩
    cases sends with
    | begin idle follows =>
      cases agree.phase with
      | settled holds =>
        have fresh : w.receiver.last.map Prod.fst ≠ some frame.sequence := by
          rw [holds.last]
          intro same
          exact apart frame.sequence (follows frame.sequence same).symm
        refine .underway ⟨rfl, rfl, fresh, ⟨w.inFlight, [frame], rfl, ?_, ?_⟩, holds.accepted, holds.packets⟩
        · intro other member
          rw [holds.last]
          exact holds.way other member
        · exact fun other member => List.mem_singleton.mp member
      | underway holds =>
        rw [holds.waits] at idle
        cases idle
      | taken holds =>
        rw [holds.waits] at idle
        cases idle
    | again waits =>
      cases agree.phase with
      | settled holds =>
        rw [holds.idle] at waits
        cases waits
      | underway holds =>
        obtain ⟨old, new, split, before, same⟩ := holds.way
        rw [holds.waits] at waits
        refine .underway { holds with way := ⟨old, new ++ [frame], ?_, before, ?_⟩ }
        · dsimp only
          rw [split, List.append_assoc]
        · intro other member
          rcases List.mem_append.mp member with member | member
          · exact same other member
          · rw [List.mem_singleton.mp member, Option.some.inj waits]
      | taken holds =>
        rw [holds.waits] at waits
        obtain rfl := Option.some.inj waits
        refine .taken { holds with way := fun other member => ?_ }
        rcases List.mem_append.mp member with member | member
        · exact holds.way other member
        · rw [List.mem_singleton.mp member]
  | took issued =>
    refine ⟨agree.numbered, ?_⟩
    cases sends with
    | passed => exact agree.phase
    | @acknowledged frame number count waits later =>
      cases agree.phase with
      | settled holds =>
        rw [holds.idle] at waits
        cases waits
      | underway holds =>
        rw [holds.waits] at waits
        obtain rfl := Option.some.inj waits
        rcases holds.packets _ issued later with nothing | last
        · cases nothing
        · exact absurd (by rw [← last]; rfl) holds.unseen
      | @taken _ known edge holds =>
        rw [holds.waits] at waits
        obtain rfl := Option.some.inj waits
        have late : edge < number := by
          by_contra low
          exact holds.early _ issued later (Nat.le_of_not_lt low) count rfl
        have told : count = known := by
          rcases holds.packets _ issued late with nothing | last
          · cases nothing
          · rw [holds.last] at last
            exact (Prod.mk.inj (Option.some.inj last)).2
        subst told
        refine .settled ⟨rfl, ?_, ?_, holds.accepted, ?_⟩
        · rw [holds.last, Sender.confirm, holds.current]
          rfl
        · intro other member
          rw [Sender.confirm, holds.current, holds.way other member]
        · exact fun packet member above => holds.packets packet member (Nat.lt_trans late above)

/-- A sender that has sent nothing. -/
def Sender.fresh : Sender S α := ⟨none, none, [], 0⟩

/-- A receiver that has taken nothing, with nothing under way. -/
def World.fresh : World S α := ⟨[], ⟨none, [], 0⟩, []⟩

/-- What the receiver has taken is what was acknowledged and, of the frame that waits, some part. -/
theorem Agree.accepted (agree : Agree s w) :
    ∃ tail, tail <+: s.pending.elim [] Frame.data ∧ w.receiver.accepted = s.confirmed ++ tail := by
  cases agree.phase with
  | settled holds => exact ⟨[], List.nil_prefix, by rw [holds.accepted, List.append_nil]⟩
  | underway holds => exact ⟨[], List.nil_prefix, by rw [holds.accepted, List.append_nil]⟩
  | taken holds =>
    refine ⟨_, ?_, holds.accepted⟩
    rw [holds.waits]
    exact List.take_prefix _ _

/-! ### Exchanges -/

variable [DecidableEq S]

/-- A frame comes in: its sequence is known, or some of it is taken. -/
def Receiver.take (r : Receiver S α) (frame : Frame S α) (count : Nat) : Receiver S α :=
  if r.last.map Prod.fst = some frame.sequence then r
  else { r with last := some (frame.sequence, count), accepted := r.accepted ++ frame.data.take count }

/-- What the receiver and the network do by themselves: a frame comes in, when
those before it are in or lost, and may come again; a packet is issued, which
acknowledges the last frame or nothing. -/
inductive World.Moves : World S α → World S α → Prop where
  | arrive {w : World S α} {lost rest : List (Frame S α)} {frame : Frame S α} {count : Nat}
      (way : w.inFlight = lost ++ frame :: rest) (fits : count ≤ frame.data.length) :
      Moves w { w with inFlight := frame :: rest, receiver := w.receiver.take frame count }
  | issue {w : World S α} {number : Nat} {acknowledged : Option (S × Nat)} (later : w.receiver.clock < number)
      (honest : acknowledged = none ∨ acknowledged = w.receiver.last) :
      Moves w { w with
        receiver := { w.receiver with clock := number }
        issued := ⟨number, acknowledged⟩ :: w.issued }

/-- A receiver and a network serve a sender over some events. -/
inductive Serves : World S α → List (Event S α) → World S α → Prop where
  | nil (w : World S α) : Serves w [] w
  | moves {w u v : World S α} {events : List (Event S α)} (moved : w.Moves u) (rest : Serves u events v) :
      Serves w events v
  | cons {w u v : World S α} {event : Event S α} {events : List (Event S α)} (step : w.Step event u)
      (rest : Serves u events v) : Serves w (event :: events) v

/-- A frame with a known sequence changes nothing. -/
theorem Receiver.take_known {r : Receiver S α} (known : r.last.map Prod.fst = some frame.sequence) (count : Nat) :
    r.take frame count = r := if_pos known

theorem Receiver.take_unseen {r : Receiver S α} (unseen : r.last.map Prod.fst ≠ some frame.sequence) (count : Nat) :
    r.take frame count =
      { r with last := some (frame.sequence, count), accepted := r.accepted ++ frame.data.take count } := if_neg unseen

theorem Receiver.take_clock (r : Receiver S α) (frame : Frame S α) (count : Nat) :
    (r.take frame count).clock = r.clock := by
  unfold Receiver.take
  split <;> rfl

/-- The receiver takes some of a frame that it has not seen. -/
theorem Underway.comes_in (holds : Underway s w frame) (numbered : ∀ packet ∈ w.issued, packet.number ≤ w.receiver.clock)
    {rest : List (Frame S α)} (same : ∀ other ∈ rest, other = frame) {count : Nat} (fits : count ≤ frame.data.length) :
    Taken s { w with inFlight := frame :: rest, receiver := w.receiver.take frame count } frame count
      w.receiver.clock where
  waits := holds.waits
  current := holds.current
  last := by rw [Receiver.take_unseen holds.unseen]
  fits := fits
  way := by
    intro other member
    rcases List.mem_cons.mp member with rfl | member
    · rfl
    · rw [same other member]
  accepted := by
    rw [Receiver.take_unseen holds.unseen]
    exact congrArg (· ++ frame.data.take count) holds.accepted
  reached := Nat.le_of_eq (Receiver.take_clock _ _ _).symm
  early := by
    intro packet issued late _ known told
    rcases holds.packets packet issued late with nothing | last
    · rw [nothing] at told
      cases told
    · rw [last] at told
      exact holds.unseen (by rw [told]; rfl)
  packets := by
    intro packet issued late
    exact absurd late (Nat.not_lt.mpr (numbered packet issued))

/-- A frame that comes in keeps the agreement. -/
theorem Agree.arrive (agree : Agree s w) {lost rest : List (Frame S α)} {count : Nat}
    (way : w.inFlight = lost ++ frame :: rest) (fits : count ≤ frame.data.length) :
    Agree s { w with inFlight := frame :: rest, receiver := w.receiver.take frame count } where
  numbered := by
    rw [Receiver.take_clock]
    exact agree.numbered
  phase := by
    cases agree.phase with
    | settled holds =>
      have known : w.receiver.last.map Prod.fst = some frame.sequence :=
        holds.last.trans (holds.way frame (mem_of_way way List.mem_cons_self))
      rw [Receiver.take_known known]
      exact .settled { holds with way := fun other member => holds.way other (mem_of_way way member) }
    | @underway waiting holds =>
      obtain ⟨old, new, split, before, same⟩ := holds.way
      rw [way] at split
      rcases List.append_eq_append_iff.mp split with ⟨more, rfl, shape⟩ | ⟨more, rfl, shape⟩
      · cases more with
        | nil =>
          -- The first of the new frames comes in.
          rw [List.nil_append] at shape
          obtain rfl := same frame (by rw [← shape]; exact List.mem_cons_self)
          exact .taken (holds.comes_in agree.numbered (fun other member => same other (shape ▸ List.mem_cons_of_mem _ member))
            fits)
        | cons first more =>
          -- An old frame comes in once more.
          obtain ⟨rfl, rfl⟩ := List.cons.inj shape
          have known := before frame (List.mem_append_right lost List.mem_cons_self)
          rw [Receiver.take_known known]
          exact .underway { holds with way := ⟨frame :: more, new, rfl,
            fun other member => before other (List.mem_append_right lost member), same⟩ }
      · -- A new frame comes in, after others.
        obtain rfl := same frame (by rw [shape]; exact List.mem_append_right more List.mem_cons_self)
        refine .taken (holds.comes_in agree.numbered (fun other member => same other ?_) fits)
        rw [shape]
        exact List.mem_append_right more (List.mem_cons_of_mem _ member)
    | taken holds =>
      have known : w.receiver.last.map Prod.fst = some frame.sequence := by
        rw [holds.last, holds.way frame (mem_of_way way List.mem_cons_self)]
        rfl
      rw [Receiver.take_known known]
      exact .taken { holds with way := fun other member => holds.way other (mem_of_way way member) }

/-- What the receiver and the network do by themselves keeps the agreement. -/
theorem Agree.moves (agree : Agree s w) (moved : w.Moves u) : Agree s u := by
  cases moved with
  | arrive way fits => exact agree.arrive way fits
  | issue later honest => exact agree.issue later honest

/-- A whole exchange keeps the agreement. -/
theorem Agree.serves (apart : ∀ sequence, next sequence ≠ sequence) {events : List (Event S α)}
    (served : Serves w events u) : ∀ {s t : Sender S α}, Agree s w → Follows next s events t → Agree t u := by
  induction served with
  | nil w =>
    intro s t agree follows
    cases follows
    exact agree
  | moves moved rest ih => exact fun agree follows => ih (agree.moves moved) follows
  | cons step rest ih =>
    intro s t agree follows
    cases follows with
    | cons sends later => exact ih (agree.step apart sends step) later

end
end IpmiRs.Library.StopAndWait
