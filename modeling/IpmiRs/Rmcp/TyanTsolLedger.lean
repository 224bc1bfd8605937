import IpmiRs.Rmcp.TyanTsol

/-! What a Tyan console hands over. The bytes read, with those an ended session
gives back, are what its peer sent; a session that may have been started is
stopped once, and sends nothing after that. -/
namespace IpmiRs.Rmcp.Tsol
open App.Auth Connection Library Library.Runs Library.Stateful

/-! ### Reading the log -/

/-- The console bytes of a datagram: those of the peer, behind the header, if
it is longer than that and within the limit. -/
def Datagram.payload (peer : Option Ipv4Addr) (datagram : Datagram) : List UInt8 :=
  if peer.any datagram.source.isHost ∧ 4 < datagram.bytes.length ∧ datagram.bytes.length ≤ MAX_DATAGRAM then
    datagram.bytes.drop 4
  else []

def Event.payload (peer : Option Ipv4Addr) : Event → List UInt8
  | .received datagram => datagram.payload peer
  | _ => []

def Event.handedOver : Event → List UInt8
  | .read bytes | .buffered bytes => bytes
  | _ => []

def Event.stopped : Event → Option TsolEndpoint
  | .stop endpoint => some endpoint
  | _ => none

/-- A start command that may have taken effect: the BMC did not refuse it, and it did not fail before anything
was sent. -/
def Event.started : Event → Option TsolEndpoint
  | .start endpoint (.ok ()) => some endpoint
  | .start endpoint (.error error) =>
    match error with
    | .failed _ _ _ _ => none
    | .connection .notActive => none
    | .connection (.send .cancelled) | .connection (.send .deadlineExpired) => none
    | .connection (.send .requestPending) | .connection (.send .unsupportedTarget) => none
    | .connection (.send .ipmbSequenceExhausted) | .connection (.send .sessionSequenceExhausted) => none
    | .connection (.send (.invalidNetfn _)) => none
    | .connection (.send _) | .connection (.receive _) => some endpoint
    | .connection (.sendOutcomeUnknown _) | .connection (.outcomeUnknown _) => some endpoint
    | .unexpectedResponse _ _ _ _ | .command _ _ _ _ _ => some endpoint
  | _ => none

/-- These are the errors after which a session stops what it may have started. -/
theorem started_error (endpoint : TsolEndpoint) (error : CommandError) :
    (Event.start endpoint (.error error)).started = if mayHaveExecuted error then some endpoint else none := by
  cases error with
  | connection error =>
    cases error with
    | send error => cases error <;> rfl
    | _ => rfl
  | _ => rfl

def Event.typed : Event → Option (List UInt8)
  | .keystroke bytes _ => some bytes
  | _ => none

/-- A command that is sent to the BMC. -/
def Event.Command : Event → Prop
  | .probe | .start _ _ | .stop _ | .keepalive | .keystroke _ _ => True
  | _ => False

/-- What a session ends with. -/
def Event.Final : Event → Prop
  | .stop _ | .buffered _ => True
  | _ => False

/-- Everything the peer sent to the console. -/
def received (peer : Option Ipv4Addr) (log : List Event) : List UInt8 := log.flatMap (·.payload peer)

/-- Everything that reads and the end of the session handed over. -/
def delivered (log : List Event) : List UInt8 := log.flatMap (·.handedOver)

/-- Nothing is sent once the session has ended. -/
def Quiet (log : List Event) : Prop := log.Pairwise fun earlier later => earlier.Final → ¬later.Command

def Stage.held : Stage → List UInt8
  | .opened s | .waiting s => s.pending
  | .unopened _ | .closed => []

def Stage.running : Stage → Bool
  | .opened s | .waiting s => s.active
  | .unopened _ | .closed => false

/-- What is told of a console by its log. -/
structure Told (peer : Option Ipv4Addr) (t : Stage × List Event) : Prop where
  output : delivered t.2 ++ t.1.held = received peer t.2
  drained : t.1.running = false → t.1.held = []
  single : (t.2.filterMap (·.started)).length ≤ 1
  stops : t.2.filterMap (·.stopped) = if t.1.running then [] else t.2.filterMap (·.started)
  quiet : Quiet t.2

/-! ### Sessions -/

/-- A session that is running: all its peer sent is delivered or pending. -/
structure Running (remote : Option Ipv4Addr) (typed : List (List UInt8)) (t : Logged) : Prop where
  active : t.1.active = true
  authenticated : ∃ state, t.1.connection.authenticated = .ok state
  peer : remote = some t.1.peer
  inside : t.1.pendingEnd ≤ t.1.buffer.length
  output : delivered t.2 ++ t.1.pending = received remote t.2
  started : t.2.filterMap (·.started) = [t.1.endpoint]
  unfinished : ∀ event ∈ t.2, ¬event.Final
  keys : t.2.filterMap (·.typed) = typed

/-- A log of what is over, but for some bytes that are still owed. -/
structure Settled (remote : Option Ipv4Addr) (typed : List (List UInt8)) (owed : List UInt8) (log : List Event) :
    Prop where
  output : delivered log ++ owed = received remote log
  single : (log.filterMap (·.started)).length ≤ 1
  stops : log.filterMap (·.stopped) = log.filterMap (·.started)
  quiet : Quiet log
  keys : log.filterMap (·.typed) = typed

/-- A session that has ended, was stopped once and owes some bytes. -/
structure Ended (remote : Option Ipv4Addr) (typed : List (List UInt8)) (owed : List UInt8) (t : Logged) : Prop where
  active : t.1.active = false
  pending : t.1.pending = []
  settled : Settled remote typed owed t.2

def Kept (remote : Option Ipv4Addr) (typed : List (List UInt8)) (t : Logged) : Prop :=
  Running remote typed t ∨ Ended remote typed [] t

section logs
variable {remote : Option Ipv4Addr} {log : List Event} {event : Event}

theorem delivered_concat : delivered (log ++ [event]) = delivered log ++ event.handedOver := by
  simp [delivered]

theorem received_concat : received remote (log ++ [event]) = received remote log ++ event.payload remote := by
  simp [received]

theorem Quiet.concat (quiet : Quiet log) (calm : event.Command → ∀ earlier ∈ log, ¬earlier.Final) :
    Quiet (log ++ [event]) := by
  refine List.pairwise_append.mpr ⟨quiet, List.pairwise_singleton _ _, fun earlier before later last => ?_⟩
  rw [List.mem_singleton.mp last]
  exact fun final command => calm command earlier before final

theorem quiet_of_unfinished (unfinished : ∀ event ∈ log, ¬event.Final) : Quiet log :=
  List.Pairwise.imp_of_mem (fun first _ _ final => absurd final (unfinished _ first))
    (List.pairwise_of_forall fun _ _ => trivial)

theorem stops_of_unfinished (unfinished : ∀ event ∈ log, ¬event.Final) : log.filterMap (·.stopped) = [] := by
  rw [List.filterMap_eq_nil_iff]
  intro event member
  cases event with
  | stop endpoint => exact absurd trivial (unfinished _ member)
  | _ => rfl

end logs

section session
variable {remote : Option Ipv4Addr} {typed : List (List UInt8)} {s : TsolSession} {log : List Event}

/-- An event that only has to be logged. -/
structure Incidental (event : Event) : Prop where
  payload : ∀ remote, event.payload remote = []
  handedOver : event.handedOver = []
  started : event.started = none
  unfinished : ¬event.Final

theorem Running.tell (running : Running remote typed (s, log)) {event : Event} (incidental : Incidental event) :
    Running remote (typed ++ event.typed.toList) (s, log ++ [event]) where
  active := running.active
  authenticated := running.authenticated
  peer := running.peer
  inside := running.inside
  output := by
    rw [delivered_concat, received_concat, incidental.handedOver, incidental.payload, List.append_nil,
      List.append_nil, running.output]
  started := by
    rw [List.filterMap_append, running.started]
    simp [incidental.started]
  unfinished := List.forall_mem_append.mpr ⟨running.unfinished, by simpa using incidental.unfinished⟩
  keys := by
    rw [List.filterMap_append, running.keys]
    cases typed : event.typed <;> simp [typed]

/-- A stop settles what one start began. -/
theorem Settled.stop {endpoint : TsolEndpoint} {owed : List UInt8}
    (output : delivered log ++ owed = received remote log)
    (started : log.filterMap (·.started) = [endpoint]) (unfinished : ∀ event ∈ log, ¬event.Final)
    (keys : log.filterMap (·.typed) = typed) : Settled remote typed owed (log ++ [.stop endpoint]) where
  output := by
    rw [delivered_concat, received_concat, ← output]
    simp [Event.handedOver, Event.payload]
  single := by
    rw [List.filterMap_append, started]
    exact Nat.le_refl 1
  stops := by
    rw [List.filterMap_append, List.filterMap_append, stops_of_unfinished unfinished, started]
    rfl
  quiet := (quiet_of_unfinished unfinished).concat fun _ => unfinished
  keys := by
    rw [List.filterMap_append, keys]
    exact List.append_nil typed

/-- A session that is ended is stopped, and owes what was pending. -/
theorem Running.shutDown_ends (running : Running remote typed (s, log)) (stopped : Except CommandError Unit) :
    Ends (shutDown stopped) (s, log) (fun result t => Ended remote typed result.2 t) (fun _ _ => False) := by
  obtain ⟨state, authenticated⟩ := running.authenticated
  have stop : stopBounded s.connection s.endpoint stopped = (stopped, [.stop s.endpoint]) := by
    unfold stopBounded
    rw [show s.connection.authenticated = .ok state from authenticated]
  unfold shutDown
  refine Ends.modifyGet ?_
  dsimp only
  rw [stop]
  exact ⟨rfl, List.drop_nil, .stop running.output running.started running.unfinished running.keys⟩

theorem Settled.buffered {owed : List UInt8} (settled : Settled remote typed owed log) :
    Settled remote typed [] (log ++ [.buffered owed]) where
  output := by
    rw [delivered_concat, received_concat, ← settled.output]
    simp [Event.handedOver, Event.payload]
  single := by simpa [List.filterMap_append, Event.started] using settled.single
  stops := by simpa [List.filterMap_append, Event.started, Event.stopped] using settled.stops
  quiet := settled.quiet.concat fun command => command.elim
  keys := by simpa [List.filterMap_append, Event.typed] using settled.keys

theorem Ended.interrupted_ends {α : Type} {owed : List UInt8} (ended : Ended remote typed owed (s, log))
    (reason : TsolInterruptionReason) (uncertain unconfirmed : Bool) {Q : α → Logged → Prop} :
    Ends (interrupted reason uncertain unconfirmed owed) (s, log) Q
      (fun halt t => halt ≠ .waiting ∧ Ended remote typed [] t) := by
  unfold interrupted tell
  exact Ends.modify_bind (Ends.throw ⟨Halt.noConfusion, ended.active, ended.pending, ended.settled.buffered⟩)

theorem Running.interrupt_ends {α : Type} (running : Running remote typed (s, log)) (reason : TsolInterruptionReason)
    (uncertain : Bool) (stopped : Except CommandError Unit) {Q : α → Logged → Prop} :
    Ends (interrupt reason uncertain stopped) (s, log) Q (fun _ t => Kept remote typed t) := by
  unfold interrupt
  refine Ends.bind (running.shutDown_ends stopped) (fun _ _ never => never.elim) fun result t ended => ?_
  exact Ends.mono (ended.interrupted_ends reason uncertain _) (fun _ _ held => held) fun _ _ held => .inr held.2

theorem Running.keepalive_ends (running : Running remote typed (s, log)) (deadline : Instant)
    (met : KeepaliveConditions) (stopped : Except CommandError Unit) :
    Ends (keepaliveIfDue deadline met stopped) (s, log)
      (fun _ t => Running remote typed t ∧ t.1.connection = s.connection) (fun _ t => Kept remote typed t) := by
  obtain ⟨state, authenticated⟩ := running.authenticated
  unfold keepaliveIfDue
  refine Ends.get_bind ?_
  dsimp only
  split
  · exact Ends.pure ⟨running, rfl⟩
  split
  · exact running.interrupt_ends _ _ _
  split
  · exact running.interrupt_ends _ _ _
  rw [show s.connection.authenticated = .ok state from authenticated]
  have told : Running remote typed (s, log ++ [.keepalive]) := by
    have logged := running.tell (show Incidental .keepalive from ⟨fun _ => rfl, rfl, rfl, id⟩)
    rwa [show Event.keepalive.typed.toList = [] from rfl, List.append_nil] at logged
  refine Ends.modify_bind ?_
  split
  · exact Ends.modify ⟨⟨told.active, told.authenticated, told.peer, told.inside, told.output, told.started,
      told.unfinished, told.keys⟩, rfl⟩
  · exact told.interrupt_ends _ _ _

theorem Running.readPending_ends (running : Running remote typed (s, log)) (length : Nat) :
    Ends (readPending length) (s, log) (fun _ t => Running remote typed t) (fun _ _ => False) := by
  unfold readPending
  refine Ends.get_bind ?_
  refine Ends.modify_bind (Ends.modify_bind (Ends.pure ?_))
  refine ⟨running.active, running.authenticated, running.peer, running.inside, ?_, ?_, ?_, ?_⟩
  · rw [delivered_concat, received_concat, ← running.output]
    change (delivered log ++ s.pending.take _) ++ (s.buffer.take s.pendingEnd).drop (s.pendingStart + _) =
      (delivered log ++ s.pending) ++ []
    rw [List.append_nil, List.append_assoc, ← List.drop_drop]
    exact congrArg _ (List.take_append_drop _ s.pending)
  · rw [List.filterMap_append, running.started]
    rfl
  · refine List.forall_mem_append.mpr ⟨running.unfinished, fun event member => ?_⟩
    rw [List.mem_singleton.mp member]
    exact id
  · rw [List.filterMap_append, running.keys]
    exact List.append_nil typed

/-- Nothing is pending when no bytes are left between the two ends. -/
theorem pending_of_not_hasPending (none : ¬s.hasPending = true) : s.pending = [] := by
  have past : s.pendingEnd ≤ s.pendingStart := by simpa [TsolSession.hasPending] using none
  exact List.drop_eq_nil_of_le (Nat.le_trans (List.length_take_le _ _) past)

/-- A datagram is logged, and what it carries is what is pending after it. -/
theorem Running.received (running : Running remote typed (s, log)) (empty : s.pending = []) (datagram : Datagram)
    {buffer : List UInt8} {start stop : Nat} (inside : stop ≤ buffer.length)
    (carried : (buffer.take stop).drop start = datagram.payload remote) :
    Running remote typed
      ({ s with buffer, pendingStart := start, pendingEnd := stop }, log ++ [.received datagram]) where
  active := running.active
  authenticated := running.authenticated
  peer := running.peer
  inside := inside
  output := by
    have before := running.output
    rw [show (s, log).1.pending = [] from empty, List.append_nil] at before
    rw [delivered_concat, received_concat, ← before]
    change (delivered log ++ []) ++ (buffer.take stop).drop start = delivered log ++ datagram.payload remote
    rw [List.append_nil, carried]
  started := by
    rw [List.filterMap_append, running.started]
    rfl
  unfinished := by
    refine List.forall_mem_append.mpr ⟨running.unfinished, fun event member => ?_⟩
    rw [List.mem_singleton.mp member]
    exact id
  keys := by
    rw [List.filterMap_append, running.keys]
    exact List.append_nil typed

theorem Running.acceptDatagram_ends (running : Running remote typed (s, log)) (none : ¬s.hasPending = true)
    (unrelated : Nat) (datagram : Datagram) :
    Ends (acceptDatagram unrelated datagram) (s, log) (fun _ t => Running remote typed t) (fun _ _ => False) := by
  have empty := pending_of_not_hasPending none
  have past : s.pendingEnd ≤ s.pendingStart := by simpa [TsolSession.hasPending] using none
  have inside := running.inside
  dsimp only at inside
  unfold acceptDatagram
  refine Ends.get_bind ?_
  dsimp only
  refine Ends.modify_bind ?_
  dsimp only
  generalize count : min datagram.bytes.length (MAX_DATAGRAM + 1) = length
  have size : (datagram.bytes.take length).length = length := List.length_take_of_le (by omega)
  have wide : (datagram.bytes.take length ++ s.buffer.drop length).length = length + (s.buffer.length - length) := by
    rw [List.length_append, size, List.length_drop]
  -- Nothing is carried by a datagram that is passed over or refused.
  have unchanged (nothing : datagram.payload remote = []) :
      Running remote typed ({ s with buffer := datagram.bytes.take length ++ s.buffer.drop length },
        log ++ [.received datagram]) := by
    refine running.received empty datagram (by omega) ?_
    rw [nothing]
    exact List.drop_eq_nil_of_le (Nat.le_trans (List.length_take_le _ _) past)
  have payload : datagram.payload remote =
      if datagram.source.isHost s.peer = true ∧ 4 < datagram.bytes.length ∧
          datagram.bytes.length ≤ MAX_DATAGRAM then
        datagram.bytes.drop 4
      else [] := by
    rw [show remote = some s.peer from running.peer]
    rfl
  split
  · rename_i foreign
    refine Ends.pure (unchanged ?_)
    rw [payload, if_neg fun held => by simp [held.1] at foreign]
  rename_i fromPeer
  have fromPeer : datagram.source.isHost s.peer = true := by simpa using fromPeer
  simp only [fromPeer, true_and] at payload
  split
  · rename_i large
    refine Ends.pure (unchanged ?_)
    rw [payload, if_neg (by omega)]
  split
  · rename_i short
    refine Ends.pure (unchanged ?_)
    rw [payload, if_neg (by omega)]
  split
  · rename_i bare
    refine Ends.pure (unchanged ?_)
    rw [payload, if_neg (by omega)]
  have long : length ≤ (datagram.bytes.take length ++ s.buffer.drop length).length := by omega
  refine Ends.modify_bind (Ends.pure (running.received empty datagram long ?_))
  rw [payload, if_pos (by omega), List.take_append_of_le_length (by omega), List.take_take, Nat.min_self,
    List.take_of_length_le (by omega)]

theorem Running.readLoop_ends (running : Running remote typed (s, log)) (length : Nat) (deadline : Instant)
    (unrelated : Nat) (turns : List ReadTurn) :
    Ends (readLoop length deadline unrelated turns) (s, log) (fun _ t => Running remote typed t)
      (fun _ t => Kept remote typed t) := by
  induction turns generalizing s log unrelated with
  | nil => exact Ends.throw (.inl running)
  | cons turn turns ih =>
    unfold readLoop
    refine Ends.get_bind ?_
    dsimp only
    split
    · exact Ends.mono (running.readPending_ends length) (fun _ _ held => held) fun _ _ never => never.elim
    refine Ends.bind (running.keepalive_ends deadline turn.keepalive turn.stopped) (fun _ _ kept => kept) ?_
    rintro _ ⟨s, log⟩ ⟨running, -⟩
    refine Ends.get_bind ?_
    dsimp only
    split
    · exact Ends.mono (running.readPending_ends length) (fun _ _ held => held) fun _ _ never => never.elim
    rename_i none
    split
    · exact running.interrupt_ends _ _ _
    split
    · exact running.interrupt_ends _ _ _
    split
    · exact running.interrupt_ends _ _ _
    split
    · exact ih running unrelated
    · exact running.interrupt_ends _ _ _
    · rename_i datagram _
      refine Ends.bind (running.acceptDatagram_ends none unrelated datagram) (fun _ _ never => never.elim) ?_
      rintro (error | unrelated) ⟨s, log⟩ running
      · exact running.interrupt_ends _ _ _
      · exact ih running unrelated

theorem Kept.readUntil_ends (kept : Kept remote typed (s, log)) (length : Nat) (deadline policyDeadline : Instant)
    (turns : List ReadTurn) :
    Ends (readUntil length deadline policyDeadline turns) (s, log) (fun _ t => Kept remote typed t)
      (fun _ t => Kept remote typed t) := by
  unfold readUntil
  refine Ends.get_bind ?_
  dsimp only
  split
  · exact Ends.throw kept
  rename_i active
  rcases kept with running | ended
  · split
    · exact Ends.pure (.inl running)
    · exact Ends.mono (running.readLoop_ends _ _ _ _) (fun _ _ => .inl) fun _ _ kept => kept
  · exact absurd ended.active (by simpa using active)

/-- Input is sent once at most, and only by a session that has not ended. -/
theorem Kept.sendInput_ends (kept : Kept remote typed (s, log)) (bytes : List UInt8) (met : InputConditions) :
    Ends (sendInput bytes met) (s, log)
      (fun _ t => Kept remote (typed ++ [bytes]) t)
      (fun _ t => Kept remote typed t ∨ Kept remote (typed ++ [bytes]) t) := by
  unfold sendInput
  refine Ends.get_bind ?_
  dsimp only
  split
  · exact Ends.throw (.inl kept)
  rename_i active
  rcases kept with running | ended
  · split
    · exact Ends.throw (.inl (.inl running))
    split
    · exact Ends.mono (running.interrupt_ends _ _ _) (fun _ _ held => held) fun _ _ => .inl
    refine Ends.bind (running.keepalive_ends met.deadline met.keepalive met.stopped) (fun _ _ => .inl) ?_
    rintro _ ⟨t, later⟩ ⟨running, same⟩
    obtain ⟨state, authenticated⟩ := running.authenticated
    refine Ends.modify_bind ?_
    dsimp only
    rw [← show t.connection = s.connection from same, show t.connection.authenticated = .ok state from authenticated]
    have counted : Running remote typed ({ t with keySequence := t.keySequence + 1 }, later) :=
      ⟨running.active, running.authenticated, running.peer, running.inside, running.output, running.started,
        running.unfinished, running.keys⟩
    have told := counted.tell (show Incidental (.keystroke bytes s.keySequence) from ⟨fun _ => rfl, rfl, rfl, id⟩)
    refine Ends.modify_bind ?_
    dsimp only
    split
    · exact Ends.modify_bind (Ends.pure (.inl ⟨told.active, told.authenticated, told.peer, told.inside, told.output,
        told.started, told.unfinished, told.keys⟩))
    · exact Ends.mono (told.interrupt_ends _ _ _) (fun _ _ held => held) fun _ _ => .inr
  · exact absurd ended.active (by simpa using active)

theorem Kept.closeInner_ends (kept : Kept remote typed (s, log)) (stopped : Except CommandError Unit) :
    Ends (closeInner stopped) (s, log) (fun _ t => Ended remote typed [] t)
      (fun halt t => halt ≠ .waiting ∧ Ended remote typed [] t) := by
  unfold closeInner
  refine Ends.get_bind ?_
  dsimp only
  split
  · rename_i inactive
    rcases kept with running | ended
    · exact absurd running.active (by simpa using inactive)
    · exact Ends.throw ⟨Halt.noConfusion, ended⟩
  · rename_i active
    rcases kept with running | ended
    · refine Ends.bind (running.shutDown_ends stopped) (fun _ _ never => never.elim) ?_
      rintro ⟨result, output⟩ t ended
      dsimp only
      split
      · exact ended.interrupted_ends _ _ _
      · split
        · exact ended.interrupted_ends _ _ _
        · rename_i empty
          obtain rfl := not_not.mp empty
          exact Ends.pure ended
    · exact absurd ended.active (by simpa using active)

end session

/-! ### Opening -/

/-- Nothing but the commands of the preflight has been sent. -/
def Probing (log : List Event) : Prop := ∀ event ∈ log, event = .probe

section opening
variable {remote : Option Ipv4Addr} {log : List Event} {c : Connected}

theorem Probing.started (probing : Probing log) : log.filterMap (·.started) = [] :=
  List.filterMap_eq_nil_iff.mpr fun event member => by rw [probing event member]; rfl

theorem Probing.keys (probing : Probing log) : log.filterMap (·.typed) = [] :=
  List.filterMap_eq_nil_iff.mpr fun event member => by rw [probing event member]; rfl

theorem Probing.unfinished (probing : Probing log) : ∀ event ∈ log, ¬event.Final :=
  fun event member => by rw [probing event member]; exact id

theorem Probing.delivered (probing : Probing log) : delivered log = [] :=
  List.flatMap_eq_nil_iff.mpr fun event member => by rw [probing event member]; rfl

theorem Probing.received (probing : Probing log) : received remote log = [] :=
  List.flatMap_eq_nil_iff.mpr fun event member => by rw [probing event member]; rfl

theorem Probing.settled (probing : Probing log) : Settled remote [] [] log where
  output := by rw [probing.delivered, probing.received, List.append_nil]
  single := by rw [probing.started]; exact Nat.zero_le _
  stops := by rw [probing.started, stops_of_unfinished probing.unfinished]
  quiet := quiet_of_unfinished probing.unfinished
  keys := probing.keys

theorem Probing.probe_ends {α β : Type} (probing : Probing log) (reply : Except β α) (error : β → TsolError) :
    Ends (probe reply error) (c, log) (fun _ t => t.1 = c ∧ Probing t.2) (fun _ t => Probing t.2) := by
  have told : Probing (log ++ [.probe]) := List.forall_mem_append.mpr ⟨probing, fun _ => List.mem_singleton.mp⟩
  unfold probe
  refine Ends.modify_bind ?_
  cases reply with
  | ok value => exact Ends.pure ⟨rfl, told⟩
  | error cause => exact Ends.throw told

/-- A session that may use the console may do so as the administrator it was made. -/
theorem authenticated_of_administrator {state : V15} (eligible : c.eligible = .ok state) :
    ∃ state', (c.setTsolActivePrivilege state (some .administrator)).authenticated = .ok state' := by
  unfold Connected.eligible at eligible
  split at eligible
  · rename_i current _
    split at eligible
    · rename_i allowed
      cases eligible
      refine ⟨{ state with activePrivilege := some .administrator }, ?_⟩
      have still : V15.tsolEligible { state with activePrivilege := some .administrator } = true := allowed
      have capable : V15.tsolCapable { state with activePrivilege := some .administrator } = true := by
        simp [V15.tsolCapable, still]
      simp only [Connected.authenticated, Connected.eligible, Connected.setTsolActivePrivilege, still, if_true]
      change (if V15.tsolCapable { state with activePrivilege := some .administrator } = true then _ else _) = _
      rw [if_pos capable]
      rfl
    · cases eligible
  · cases eligible

theorem Probing.setActivePrivilege_ends (probing : Probing log) (privilege : Option PrivilegeLevel) :
    Ends (setActivePrivilege privilege) (c, log)
      (fun _ t => t.1.remote = c.remote ∧ Probing t.2 ∧
        (privilege = some .administrator → ∃ state, t.1.authenticated = .ok state))
      (fun _ t => Probing t.2) := by
  unfold setActivePrivilege
  refine Ends.get_bind ?_
  dsimp only
  refine Ends.ofExcept_bind (fun _ _ => probing) fun state eligible => ?_
  refine Ends.modify ⟨rfl, probing, ?_⟩
  rintro rfl
  exact authenticated_of_administrator eligible

theorem preflight_ends (probing : Probing log) (met : OpenConditions) :
    Ends (preflightTyanTsol met) (c, log)
      (fun addresses t => c.remote = some addresses.2 ∧ Probing t.2 ∧ ∃ state, t.1.authenticated = .ok state)
      (fun _ t => Probing t.2) := by
  unfold preflightTyanTsol
  refine Ends.get_bind ?_
  dsimp only
  split
  · exact Ends.throw probing
  rename_i remote found
  refine Ends.ofExcept_bind (fun _ _ => probing) fun _ _ => ?_
  split
  · exact Ends.throw probing
  split
  · exact Ends.throw probing
  -- Each command of the preflight is a probe, after which its reply is checked.
  have next {α β γ : Type} {log : List Event} {reply : Except β α} {error : β → TsolError} {f : α → Opening γ}
      {R : γ → Connected × List Event → Prop} (probing : Probing log)
      (goesOn : ∀ value (log : List Event), Probing log → Ends (f value) (c, log) R (fun _ t => Probing t.2)) :
      Ends (probe reply error >>= f) (c, log) R (fun _ t => Probing t.2) := by
    refine Ends.bind (probing.probe_ends reply error) (fun _ _ held => held) ?_
    rintro value ⟨_, log⟩ ⟨rfl, told⟩
    exact goesOn value log told
  refine next probing fun device log probing => ?_
  split
  · exact Ends.throw probing
  refine next probing fun caps log probing => ?_
  split
  · exact Ends.throw probing
  refine next probing fun info log probing => ?_
  split
  · exact Ends.throw probing
  refine next probing fun access log probing => ?_
  split
  · exact Ends.throw probing
  refine Ends.bind (probing.setActivePrivilege_ends none) (fun _ _ held => held) ?_
  rintro _ ⟨d, log⟩ ⟨-, probing, -⟩
  refine Ends.bind (probing.probe_ends _ _) (fun _ _ held => held) ?_
  rintro active ⟨_, log⟩ ⟨-, probing⟩
  split
  · exact Ends.throw probing
  rename_i administrator
  refine Ends.bind (probing.setActivePrivilege_ends (some active)) (fun _ _ held => held) ?_
  rintro _ t ⟨-, probing, capable⟩
  exact Ends.pure ⟨found, probing, capable (congrArg some (not_not.mp administrator))⟩

/-- A session that was opened is running; a failure to open leaves nothing running. -/
theorem open_ends (met : OpenConditions) :
    Ends (openTyanTsol met) (c, []) (fun s t => Running c.remote [] (s, t.2))
      (fun _ t => Settled c.remote [] [] t.2) := by
  unfold openTyanTsol
  refine Ends.bind (preflight_ends (fun _ none => absurd none List.not_mem_nil) met)
    (fun _ _ probing => probing.settled) ?_
  rintro ⟨localAddr, peer⟩ ⟨d, log⟩ ⟨remote, probing, state, authenticated⟩
  dsimp only
  split
  · exact Ends.throw probing.settled
  split
  · exact Ends.throw probing.settled
  rename_i endpoint _
  refine Ends.modify_bind ?_
  dsimp only
  generalize met.start = begun
  have output : delivered (log ++ [.start endpoint begun]) = received c.remote (log ++ [.start endpoint begun]) := by
    rw [delivered_concat, received_concat, probing.delivered, probing.received]
    rfl
  have unfinished : ∀ event ∈ log ++ [.start endpoint begun], ¬event.Final := by
    refine List.forall_mem_append.mpr ⟨probing.unfinished, fun event member => ?_⟩
    rw [List.mem_singleton.mp member]
    exact id
  have keys : (log ++ [Event.start endpoint begun]).filterMap (·.typed) = [] := by
    rw [List.filterMap_append, probing.keys]
    rfl
  have started : (log ++ [Event.start endpoint begun]).filterMap (·.started) =
      (Event.start endpoint begun).started.toList := by
    rw [List.filterMap_append, probing.started, List.nil_append]
    cases shown : (Event.start endpoint begun).started <;> simp [shown]
  cases begun with
  | error source =>
    dsimp only
    split
    · rename_i executed
      have stop : stopBounded d endpoint met.stopped = (met.stopped, [.stop endpoint]) := by
        unfold stopBounded
        rw [show d.authenticated = .ok state from authenticated]
      refine Ends.modifyGet_bind (Ends.throw ?_)
      dsimp only
      rw [stop]
      refine .stop (by rw [output, List.append_nil]) ?_ unfinished keys
      rw [started]
      rw [started_error, if_pos executed, Option.toList_some]
    · rename_i refused
      have unstarted : (log ++ [Event.start endpoint (.error source)]).filterMap (·.started) = [] := by
        rw [started, started_error, if_neg refused]
        rfl
      refine Ends.throw ⟨by rw [output, List.append_nil], ?_, ?_, quiet_of_unfinished unfinished, keys⟩
      · rw [unstarted]
        exact Nat.zero_le _
      · rw [unstarted, stops_of_unfinished unfinished]
  | ok =>
    refine Ends.get_bind (Ends.pure ?_)
    refine ⟨rfl, ⟨state, authenticated⟩, remote, Nat.zero_le _, ?_, started, unfinished, keys⟩
    change delivered _ ++ List.drop 0 (List.take 0 _) = _
    rw [List.take_zero, List.drop_nil, List.append_nil]
    exact output

end opening

/-! ### Whole runs -/

/-- What every call keeps, by the stage the console is in. -/
def StageKept (remote : Option Ipv4Addr) (typed : List (List UInt8)) : Stage × List Event → Prop
  | (.unopened c, log) => c.remote = remote ∧ log = [] ∧ typed = []
  | (.opened s, log) | (.waiting s, log) => Kept remote typed (s, log)
  | (.closed, log) => Settled remote typed [] log

/-- The bytes a call is to type. -/
def Call.input : Call → Option (List UInt8)
  | .sendInput bytes _ => some bytes
  | _ => none

section runs
variable {remote : Option Ipv4Addr} {typed : List (List UInt8)} {t : Stage × List Event}

theorem called_kept {x : Console Nat} {s : TsolSession} {log : List Event} {call : List (List UInt8)}
    (ends : Ends x (s, log) (fun _ u => ∃ more, more.Sublist call ∧ Kept remote (typed ++ more) u)
      (fun _ u => ∃ more, more.Sublist call ∧ Kept remote (typed ++ more) u)) :
    ∃ more, more.Sublist call ∧ StageKept remote (typed ++ more) (called (x.eval (s, log))).2 := by
  have held := Ends.result (P := fun _ u => ∃ more, more.Sublist call ∧ Kept remote (typed ++ more) u) ends
  obtain ⟨more, few, kept⟩ := held
  refine ⟨more, few, ?_⟩
  revert kept
  rcases x.eval (s, log) with ⟨(_ | _) | _, _, _⟩ <;> exact id

/-- A call types its input once at most, and keeps what is told of the log. -/
theorem step_kept (kept : StageKept remote typed t) (call : Call) :
    ∃ more, more.Sublist call.input.toList ∧ StageKept remote (typed ++ more) (step t call).2 := by
  have same (kept : StageKept remote typed t) :
      ∃ more, more.Sublist call.input.toList ∧ StageKept remote (typed ++ more) t :=
    ⟨[], List.nil_sublist _, by rwa [List.append_nil]⟩
  obtain ⟨stage, log⟩ := t
  cases stage with
  | waiting s => exact same kept
  | closed => exact same kept
  | unopened c =>
    cases call with
    | «open» met =>
      obtain ⟨rfl, rfl, rfl⟩ := kept
      have opened := open_ends (c := c) met
      refine ⟨[], List.nil_sublist _, ?_⟩
      unfold Ends at opened
      unfold step
      dsimp only
      split at opened
      · rename_i s after ended
        rw [ended]
        exact .inl opened
      · rename_i error after ended
        rw [ended]
        exact opened
    | _ => exact same kept
  | opened s =>
    cases call with
    | «open» met => exact same kept
    | read length deadline policyDeadline turns =>
      refine called_kept (Ends.mono (Kept.readUntil_ends kept length deadline policyDeadline turns) ?_ ?_)
      all_goals
        intro _ u held
        exact ⟨[], List.nil_sublist _, by rwa [List.append_nil]⟩
    | sendInput bytes met =>
      refine called_kept (Ends.mono (Kept.sendInput_ends kept bytes met) ?_ ?_)
      · intro _ u held
        exact ⟨[bytes], List.Sublist.refl _, held⟩
      · rintro _ u (held | held)
        · exact ⟨[], List.nil_sublist _, by rwa [List.append_nil]⟩
        · exact ⟨[bytes], List.Sublist.refl _, held⟩
    | close stopped =>
      have closed := Kept.closeInner_ends kept stopped
      refine ⟨[], List.nil_sublist _, ?_⟩
      rw [List.append_nil]
      unfold Ends at closed
      unfold step
      dsimp only
      split at closed
      · rename_i after ended
        rw [ended]
        exact closed.settled
      · rename_i halt after ended
        rw [ended]
        cases halt with
        | waiting => exact absurd rfl closed.1
        | error error => exact closed.2.settled

theorem StageKept.told (kept : StageKept remote typed t) : Told remote t := by
  obtain ⟨stage, log⟩ := t
  have session (s : TsolSession) (kept : Kept remote typed (s, log)) :
      delivered log ++ s.pending = received remote log ∧ (s.active = false → s.pending = []) ∧
        (log.filterMap (·.started)).length ≤ 1 ∧
        log.filterMap (·.stopped) = (if s.active then [] else log.filterMap (·.started)) ∧ Quiet log := by
    rcases kept with running | ended
    · have active : s.active = true := running.active
      refine ⟨running.output, fun inactive => absurd active (by rw [inactive]; decide), ?_, ?_,
        quiet_of_unfinished running.unfinished⟩
      · rw [running.started]
        exact Nat.le_refl 1
      · rw [if_pos active, stops_of_unfinished running.unfinished]
    · have inactive : s.active = false := ended.active
      have empty : s.pending = [] := ended.pending
      refine ⟨?_, fun _ => empty, ended.settled.single, ?_, ended.settled.quiet⟩
      · rw [empty]
        exact ended.settled.output
      · rw [inactive]
        exact ended.settled.stops
  cases stage with
  | unopened c =>
    obtain ⟨rfl, rfl, rfl⟩ := kept
    exact ⟨rfl, fun _ => rfl, Nat.zero_le _, rfl, List.Pairwise.nil⟩
  | opened s | waiting s =>
    obtain ⟨output, drained, single, stops, quiet⟩ := session s kept
    exact ⟨output, drained, single, stops, quiet⟩
  | closed => exact ⟨kept.output, fun _ => rfl, kept.single, kept.stops, kept.quiet⟩

theorem StageKept.keys (kept : StageKept remote typed t) : t.2.filterMap (·.typed) = typed := by
  obtain ⟨stage, log⟩ := t
  cases stage with
  | unopened c =>
    obtain ⟨rfl, rfl, rfl⟩ := kept
    rfl
  | opened s | waiting s => exact kept.elim (·.keys) (·.settled.keys)
  | closed => exact kept.keys

/-- However a console is used, what it hands over is what its peer sent, its
session is stopped once when it may have been started, nothing is sent after
that, and no input is typed twice. -/
theorem tyan_console_told (connection : Connected) (calls : List Call) :
    Told connection.remote (after step (.unopened connection, []) calls) ∧
      ((after step (.unopened connection, []) calls).2.filterMap (·.typed)).Sublist (calls.filterMap (·.input)) := by
  have kept : ∃ typed, typed.Sublist (calls.filterMap (·.input)) ∧
      StageKept connection.remote typed (after step (.unopened connection, []) calls) := by
    induction calls using List.reverseRecOn with
    | nil => exact ⟨[], List.nil_sublist _, rfl, rfl, rfl⟩
    | append_singleton calls call ih =>
      obtain ⟨typed, few, kept⟩ := ih
      obtain ⟨more, added, still⟩ := step_kept kept call
      rw [after_append]
      refine ⟨typed ++ more, ?_, still⟩
      rw [List.filterMap_append]
      refine few.append ?_
      cases input : call.input <;> simpa [input] using added
  obtain ⟨typed, few, kept⟩ := kept
  exact ⟨kept.told, kept.keys ▸ few⟩

end runs

end IpmiRs.Rmcp.Tsol
