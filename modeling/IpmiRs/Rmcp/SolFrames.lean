import IpmiRs.Rmcp.Observed
import IpmiRs.Rmcp.RecvBudget
import IpmiRs.Rmcp.Replay
import IpmiRs.Rmcp.SolOutput

/-! The console frames that a session takes, in every call that receives. The flow
of the session moves by exactly these frames. -/
namespace IpmiRs.Rmcp
open Connection

/-- A console frame, with the session sequence number of its packet. -/
structure Numbered where
  sequence : UInt32
  frame : SolFrame
  deriving DecidableEq

namespace SolFlow

/-- The flow after some frames. -/
def after (flow : SolFlow) : List Numbered → SolFlow
  | [] => flow
  | numbered :: rest => (flow.accept numbered.frame).2.after rest

/-- The output that a frame adds to the queue. -/
def taken (flow : SolFlow) (frame : SolFrame) : List UInt8 :=
  (flow.accept frame).2.output.drop flow.output.length

/-- The output that some frames add to the queue. -/
def takenAll (flow : SolFlow) : List Numbered → List UInt8
  | [] => []
  | numbered :: rest => flow.taken numbered.frame ++ (flow.accept numbered.frame).2.takenAll rest

variable (flow : SolFlow)

theorem after_append (first second : List Numbered) :
    flow.after (first ++ second) = (flow.after first).after second := by
  induction first generalizing flow with
  | nil => rfl
  | cons numbered rest ih => exact ih _

/-- A frame adds to the queue, and takes nothing from it. -/
theorem accept_output (frame : SolFrame) : (flow.accept frame).2.output = flow.output ++ flow.taken frame := by
  obtain ⟨more, adds⟩ : ∃ more, (flow.accept frame).2.output = flow.output ++ more := by
    obtain ⟨output, -, -, -, -⟩ := noteAck_frame flow frame
    rcases flow.accept_cases frame with ⟨error, -, ⟨-, same⟩ | ⟨-, same⟩⟩ | ⟨-, same⟩ |
      ⟨before, accepted, -, -, -, same⟩
    · exact ⟨[], by rw [same, List.append_nil]⟩
    · exact ⟨[], by rw [same, output, List.append_nil]⟩
    · exact ⟨[], by rw [same, output, List.append_nil]⟩
    · exact ⟨_, by rw [same]⟩
  rw [taken, adds, List.drop_left]

theorem after_output (frames : List Numbered) : (flow.after frames).output = flow.output ++ flow.takenAll frames := by
  induction frames generalizing flow with
  | nil => exact (List.append_nil _).symm
  | cons numbered rest ih =>
    change ((flow.accept numbered.frame).2.after rest).output = _
    rw [ih, accept_output, List.append_assoc]
    rfl

end SolFlow

namespace V2State
variable (provider : CryptoProvider)

/-- The frame that `receive_one` hands to the flow. -/
def consoleFrame (s : V2State) (turn : Turn) (unrelated : Nat) (seen : List UInt32) : List Numbered :=
  match (turn.arrivals.recv unrelated).1 with
  | .error _ => []
  | .ok data =>
    match s.state.state.readPayload provider data with
    | .error _ => []
    | .ok message =>
      if message.sessionId ≠ s.consoleSessionId.1 ∨
          staleSequence s.lastInboundSequence seen message.sessionSequenceNumber = true ∨
          64 + MAX_UNRELATED ≤ seen.length ∨ message.ty ≠ .sol ∨ s.sol = none then []
      else
        match SolFrame.decode message.payload with
        | .error _ => []
        | .ok frame => [⟨message.sessionSequenceNumber, frame⟩]

/-- The frames that `poll_sol` hands to the flow. -/
def pollFrames (deadline : Instant) (waitAck : Bool) : List Turn → Nat → V2State → List Numbered
  | [], _, _ => []
  | turn :: turns, unrelated, s =>
    let here := s.consoleFrame provider turn unrelated []
    let intake := s.receiveOne provider deadline turn unrelated []
    let s := (transport provider).commit intake.state intake.seen
    match intake.result, s.sol with
    | .ok none, some flow =>
      if waitAck && flow.inputAck.isSome || !waitAck && flow.hasOutput then here
      else
        match countUnrelated intake.unrelated with
        | .error _ => here
        | .ok unrelated => here ++ pollFrames deadline waitAck turns unrelated s
    | _, _ => here

/-- The session is the same but for what was received: its flow moved by some frames. -/
structure Heard (frames : List Numbered) (s t : V2State) : Prop where
  sol : t.sol = s.sol.map (·.after frames)
  sessionId : t.sessionId = s.sessionId
  consoleSessionId : t.consoleSessionId = s.consoleSessionId
  state : t.state = s.state

theorem Heard.silent {s t : V2State} (sol : t.sol = s.sol) (sessionId : t.sessionId = s.sessionId)
    (consoleSessionId : t.consoleSessionId = s.consoleSessionId) (state : t.state = s.state) :
    Heard [] s t where
  sol := by
    rw [sol]
    cases s.sol <;> rfl
  sessionId := sessionId
  consoleSessionId := consoleSessionId
  state := state

theorem Heard.trans {first second : List Numbered} {s t u : V2State} (early : Heard first s t)
    (late : Heard second t u) : Heard (first ++ second) s u where
  sol := by
    rw [late.sol, early.sol, Option.map_map]
    congr 1
    funext flow
    exact (flow.after_append first second).symm
  sessionId := late.sessionId.trans early.sessionId
  consoleSessionId := late.consoleSessionId.trans early.consoleSessionId
  state := late.state.trans early.state

/-- One reception moves the flow by the frame it hands to it, whose session sequence number is accepted. -/
theorem receiveOne_heard (s : V2State) (deadline : Instant) (turn : Turn) (unrelated : Nat) (seen : List UInt32) :
    Heard (s.consoleFrame provider turn unrelated seen) s
        (s.receiveOne provider deadline turn unrelated seen).state ∧
      ∀ numbered ∈ s.consoleFrame provider turn unrelated seen,
        (s.receiveOne provider deadline turn unrelated seen).accepted = some numbered.sequence := by
  have silent {t : V2State} {accepted : Option UInt32} (heard : Heard [] s t) :
      Heard [] s t ∧ ∀ numbered ∈ ([] : List Numbered), accepted = some numbered.sequence :=
    ⟨heard, by rintro _ ⟨⟩⟩
  have none {accepted : Option UInt32} :
      Heard [] s s ∧ ∀ numbered ∈ ([] : List Numbered), accepted = some numbered.sequence :=
    silent (.silent rfl rfl rfl rfl)
  unfold receiveOne consoleFrame
  obtain ⟨error | data, count⟩ := turn.arrivals.recv unrelated
  · exact none
  dsimp only
  cases s.state.state.readPayload provider data with
  | error error => exact none
  | ok message =>
    dsimp only
    by_cases foreign : message.sessionId ≠ s.consoleSessionId.1
    · rw [if_pos foreign, if_pos (.inl foreign)]
      exact none
    rw [if_neg foreign]
    by_cases stale : staleSequence s.lastInboundSequence seen message.sessionSequenceNumber = true
    · rw [if_pos stale, if_pos (.inr (.inl stale))]
      exact none
    rw [if_neg stale]
    by_cases full : 64 + MAX_UNRELATED ≤ seen.length
    · rw [if_pos full, if_pos (.inr (.inr (.inl full)))]
      exact none
    rw [if_neg full]
    by_cases console : message.ty = .sol
    · rw [console]
      dsimp only
      cases opened : s.sol with
      | none =>
        rw [if_pos (by simp)]
        exact none
      | some flow =>
        rw [if_neg (by simp [foreign, stale, full])]
        dsimp only
        cases decoded : SolFrame.decode message.payload with
        | error error =>
          rw [receiveSol_refused provider s flow decoded]
          exact none
        | ok frame =>
          obtain ⟨sequence, same⟩ := receiveSol_frame provider s flow decoded deadline turn.acking
          rw [same]
          exact ⟨⟨by rw [opened]; rfl, rfl, rfl, rfl⟩, fun numbered member => by rw [List.mem_singleton.mp member]⟩
    · rw [if_pos (.inr (.inr (.inr (.inl console))))]
      split
      · split
        · exact none
        · split
          · exact silent (.silent rfl rfl rfl rfl)
          · exact silent (.silent rfl rfl rfl rfl)
      · rename_i same
        exact absurd same console
      · exact none

theorem obeys_heard : (transport provider).Obeys (consoleFrame provider) Heard where
  refl s := .silent rfl rfl rfl rfl
  trans _ _ _ _ _ first second := first.trans second
  setIpmb _ _ := .silent rfl rfl rfl rfl
  setLastInbound _ _ := .silent rfl rfl rfl rfl
  sendPayload s payload deadline sending := by
    obtain ⟨sequence, same⟩ := sendPayload_frame provider s payload deadline sending
    exact same ▸ .silent rfl rfl rfl rfl
  receiveOne s deadline turn unrelated seen := (receiveOne_heard provider s deadline turn unrelated seen).1

/-- A poll moves the flow by the frames it hands to it. -/
theorem pollSol_heard (deadline : Instant) (waitAck : Bool) (turns : List Turn) (unrelated : Nat) (s : V2State) :
    Heard (pollFrames provider deadline waitAck turns unrelated s) s
      (pollSol provider deadline waitAck turns unrelated s).state := by
  induction turns generalizing unrelated s with
  | nil => exact .silent rfl rfl rfl rfl
  | cons turn turns ih =>
    have received := (receiveOne_heard provider s deadline turn unrelated []).1.trans
      ((obeys_heard provider).commit (s.receiveOne provider deadline turn unrelated []).state
        (s.receiveOne provider deadline turn unrelated []).seen)
    rw [List.append_nil] at received
    unfold pollFrames pollSol
    generalize s.receiveOne provider deadline turn unrelated [] = intake at *
    obtain ⟨result, left, seen, accepted, state⟩ := intake
    dsimp only at *
    generalize (transport provider).commit state seen = after at *
    rcases result with error | response | _
    · exact received
    · cases opened : after.sol with
      | none => exact received
      | some flow =>
        dsimp only
        split
        · exact received
        · cases countUnrelated left with
          | error error => exact received
          | ok count => exact received.trans (ih count after)
    · exact received

/-- The frames that a poll hands to the flow are among the packets that it accepts. -/
theorem pollFrames_accepted (deadline : Instant) (waitAck : Bool) (turns : List Turn) (unrelated : Nat) (s : V2State) :
    ∀ numbered ∈ pollFrames provider deadline waitAck turns unrelated s,
      numbered.sequence ∈ (pollSol provider deadline waitAck turns unrelated s).accepted := by
  induction turns generalizing unrelated s with
  | nil => rintro _ ⟨⟩
  | cons turn turns ih =>
    have here : ∀ numbered ∈ s.consoleFrame provider turn unrelated [],
        numbered.sequence ∈ (s.receiveOne provider deadline turn unrelated []).accepted.toList := by
      intro numbered member
      rw [(receiveOne_heard provider s deadline turn unrelated []).2 numbered member]
      exact List.mem_singleton_self _
    unfold pollFrames pollSol
    generalize s.receiveOne provider deadline turn unrelated [] = intake at *
    obtain ⟨result, left, seen, accepted, state⟩ := intake
    dsimp only at *
    generalize (transport provider).commit state seen = after at *
    rcases result with error | _ | response
    · exact here
    · cases after.sol with
      | none => exact here
      | some flow =>
        dsimp only
        split
        · exact here
        · cases countUnrelated left with
          | error error => exact here
          | ok count =>
            intro numbered member
            rcases List.mem_append.mp member with member | member
            · exact List.mem_append_left _ (here numbered member)
            · exact List.mem_append_right _ (ih count after numbered member)
    · exact here

/-- The session sequence number that was accepted last. -/
def mark (s : V2State) : Nat := s.lastInboundSequence.elim 0 UInt32.toNat

/-- The frames have session sequence numbers above the mark, which rises to them. -/
structure Raised (frames : List Numbered) (s t : V2State) : Prop where
  mark : s.mark ≤ t.mark
  above : ∀ numbered ∈ frames, s.mark < numbered.sequence.toNat
  below : ∀ numbered ∈ frames, numbered.sequence.toNat ≤ t.mark

/-- Every frame of a poll is newer than what was accepted before. -/
theorem pollSol_raised (deadline : Instant) (waitAck : Bool) (turns : List Turn) (unrelated : Nat) (s : V2State) :
    Raised (pollFrames provider deadline waitAck turns unrelated s) s
      (pollSol provider deadline waitAck turns unrelated s).state := by
  have accepted := pollFrames_accepted provider deadline waitAck turns unrelated s
  obtain ⟨nonzero, advance⟩ := pollSol_advances provider deadline waitAck turns unrelated s
  refine ⟨?_, fun numbered member => ?_, fun numbered member => ?_⟩
  · unfold V2State.mark
    cases marked : s.lastInboundSequence with
    | none => exact Nat.zero_le _
    | some low =>
      obtain ⟨high, raised, bound⟩ := advance.mark_le low marked
      rw [raised]
      exact UInt32.le_iff_toNat_le.mp bound
  · have taken := accepted numbered member
    unfold V2State.mark
    cases marked : s.lastInboundSequence with
    | none => exact Nat.pos_of_ne_zero fun zero => nonzero _ taken (UInt32.toNat_inj.mp zero)
    | some low => exact UInt32.lt_iff_toNat_lt.mp (advance.above _ taken low marked)
  · obtain ⟨high, raised, bound⟩ := advance.le_mark numbered.sequence (accepted numbered member)
    unfold V2State.mark
    rw [raised]
    exact UInt32.le_iff_toNat_le.mp bound

theorem send_heard (s : V2State) (request : Request) (deadline : Instant) (checked sending : Sending) :
    Heard [] s (s.send provider request deadline checked sending).2 := by
  unfold send
  split
  · exact .silent rfl rfl rfl rfl
  · exact .silent rfl rfl rfl rfl
  split
  · exact .silent rfl rfl rfl rfl
  · rename_i payload ipmbState _
    obtain ⟨sequence, sent⟩ := sendPayload_frame provider { s with ipmbState } payload deadline sending
    split
    · rename_i failed
      rw [failed] at sent
      cases sent
      exact .silent rfl rfl rfl rfl
    · rename_i delivered
      rw [delivered] at sent
      cases sent
      exact .silent rfl rfl rfl rfl

end V2State

namespace RmcpConnection

/-- The flow of the connection, while a console session is open. -/
def sol (c : RmcpConnection) : Option SolFlow :=
  match c.active with
  | some (.v2_0 s) => s.sol
  | _ => none

/-- The frames that a call hands to the flow. -/
def frames (provider : CryptoProvider) (request : Request) (met : Conditions) (c : RmcpConnection) : List Numbered :=
  match c.active with
  | some (.v2_0 s) =>
    match s.send provider request met.deadline met.checked met.sending with
    | (.ok _, s) => (V2State.transport provider).observedUntil (V2State.consoleFrame provider) s met.turns
    | (.error _, _) => []
  | _ => []

/-- A call moves the flow of an RMCP+ session by the frames it hands to it. -/
theorem transact_heard (digests : Digests) (provider : CryptoProvider) (request : Request) (met : Conditions)
    {c : RmcpConnection} {s : V2State} (plus : c.active = some (.v2_0 s)) :
    ∃ t, ((rmcp digests provider fun _ => met).transact request c).2.active = some (.v2_0 t) ∧
      V2State.Heard (c.frames provider request met) s t := by
  have sent := V2State.send_heard provider s request met.deadline met.checked met.sending
  unfold frames rmcp
  dsimp only
  rw [plus]
  dsimp only [Active.sendRecv]
  generalize s.send provider request met.deadline met.checked met.sending = sending at *
  obtain ⟨error | datagram, after⟩ := sending
  · exact ⟨after, rfl, sent⟩
  · have received := (V2State.obeys_heard provider).recvUntil after met.turns
    exact ⟨_, rfl, (V2State.obeys_heard provider).before sent received⟩

/-- A call opens no console. -/
theorem transact_closed (digests : Digests) (provider : CryptoProvider) (request : Request) (met : Conditions)
    {c : RmcpConnection} (closed : c.sol = none) :
    ((rmcp digests provider fun _ => met).transact request c).2.sol = none := by
  cases active : c.active with
  | none =>
    unfold rmcp sol
    dsimp only
    rw [active]
  | some session =>
    cases session with
    | v1_5 s =>
      unfold rmcp sol
      dsimp only
      rw [active]
      dsimp only [Active.sendRecv]
      obtain ⟨error | datagram, after⟩ := s.send digests request met.deadline met.checked met.sending <;> rfl
    | v2_0 s =>
      obtain ⟨t, reached, heard⟩ := transact_heard digests provider request met active
      rw [sol, active] at closed
      rw [sol, reached]
      dsimp only at closed ⊢
      rw [heard.sol, closed]
      rfl

end RmcpConnection
end IpmiRs.Rmcp
