import IpmiRs.Rmcp.SolInput

/-! What the steps of a console session make of an open flow: it moves by the
frames it takes, the frames are logged, and nothing else of the session is
touched. -/
namespace IpmiRs.Rmcp.Sol
open App App.Auth Connection Library Library.Stateful

/-- The limits move nothing else of the flow. -/
theorem solLimits_sol {s : V2State} {flow : SolFlow} (opened : s.sol = some flow) (input output : UInt16) :
    (s.solLimits input output).sol = some { flow with
      maxInput := min input.toNat (MAX_SOL_DATA + 4)
      maxOutput := min output.toNat (MAX_SOL_DATA + 4) } := by
  rw [V2State.solLimits, opened]
  rfl

/-- A console session is open on the connection, with its flow. -/
structure Opened (s : V2State) (flow : SolFlow) (t : Logged) : Prop where
  active : t.1.connection.active = some (.v2_0 s)
  sol : s.sol = some flow

/-- Only the connection and the log moved. -/
structure Moved (events : List Event) (t u : Logged) : Prop where
  log : u.2 = t.2 ++ events
  requireRmcpPlus : u.1.requireRmcpPlus = t.1.requireRmcpPlus
  inst : u.1.inst = t.1.inst
  active : u.1.active = t.1.active
  remoteCloseUnconfirmed : u.1.remoteCloseUnconfirmed = t.1.remoteCloseUnconfirmed

theorem Moved.trans {first second : List Event} {t u v : Logged} (early : Moved first t u) (late : Moved second u v) :
    Moved (first ++ second) t v where
  log := by rw [late.log, early.log, List.append_assoc]
  requireRmcpPlus := late.requireRmcpPlus.trans early.requireRmcpPlus
  inst := late.inst.trans early.inst
  active := late.active.trans early.active
  remoteCloseUnconfirmed := late.remoteCloseUnconfirmed.trans early.remoteCloseUnconfirmed

section
variable {s : V2State} {flow : SolFlow} {t : Logged} {α : Type} {Q : α → Logged → Prop} {E : Halt → Logged → Prop}

theorem Opened.solFlow_eq (opened : Opened s flow t) : t.1.connection.sol = some flow := by
  rw [RmcpConnection.sol, opened.active]
  exact opened.sol

/-- The session that is read is the one that is open. -/
theorem Opened.state_bind (opened : Opened s flow t) {f : V2State → Console α} (next : Ends (f s) t Q E) :
    Ends (state >>= f) t Q E := by
  refine Ends.bind_total (P := fun read u => read = s ∧ u = t) ?_ ?_
  · unfold state
    refine Ends.get_bind ?_
    dsimp only
    rw [opened.active]
    exact Ends.pure ⟨rfl, rfl⟩
  · rintro _ _ ⟨rfl, rfl⟩
    exact next

theorem Opened.solFlow_bind (opened : Opened s flow t) {f : SolFlow → Console α} (next : Ends (f flow) t Q E) :
    Ends (solFlow >>= f) t Q E := by
  refine Ends.bind_total (P := fun read u => read = flow ∧ u = t) ?_ ?_
  · unfold solFlow
    refine opened.state_bind ?_
    rw [opened.sol]
    exact Ends.pure ⟨rfl, rfl⟩
  · rintro _ _ ⟨rfl, rfl⟩
    exact next

/-- A console needs an RMCP+ session. -/
theorem state_ends (t : Logged) :
    Ends state t (fun s u => u = t ∧ t.1.connection.active = some (.v2_0 s))
      (fun halt u => u = t ∧ halt = .error .rmcpPlusRequired) := by
  unfold state
  refine Ends.get_bind ?_
  dsimp only
  rcases active : t.1.connection.active with _ | s | s
  · exact Ends.throw ⟨rfl, rfl⟩
  · exact Ends.throw ⟨rfl, rfl⟩
  · exact Ends.pure ⟨rfl, rfl⟩

theorem Ends.setState_bind {f : PUnit → Console α} {s' : V2State}
    (next : Ends (f ⟨⟩) ({ t.1 with connection := { t.1.connection with active := some (.v2_0 s') } }, t.2) Q E) :
    Ends (setState s' >>= f) t Q E := Ends.modify_bind next

/-- The flow of an open session is replaced. -/
theorem Opened.setFlow_bind (opened : Opened s flow t) {f : PUnit → Console α} {flow' : SolFlow}
    (next : ∀ u, Opened { s with sol := some flow' } flow' u → Moved [] t u → Ends (f ⟨⟩) u Q E) :
    Ends (setFlow flow' >>= f) t Q E := by
  refine Ends.bind_total (P := fun _ u => Opened { s with sol := some flow' } flow' u ∧ Moved [] t u)
    ?_ fun _ u held => next u held.1 held.2
  unfold setFlow
  refine opened.state_bind ?_
  exact Ends.modify ⟨⟨rfl, rfl⟩, ⟨(List.append_nil _).symm, rfl, rfl, rfl, rfl⟩⟩

theorem tellFrames_bind (opened : t.1.connection.sol = some flow) {frames : List Numbered} {f : PUnit → Console α}
    (next : Ends (f ⟨⟩) (t.1, t.2 ++ flowEvents flow frames) Q E) :
    Ends (tellFrames t.1.connection.sol frames >>= f) t Q E := by
  rw [opened]
  exact Ends.modify_bind next

end

section
variable {digests : Digests} {backend : Backend} {s : V2State} {flow : SolFlow} {t : Logged}

/-- A command moves the flow by the frames that arrive in it. -/
theorem transact_ends {α : Type} (opened : Opened s flow t) (command : IpmiCommand α SolPayloadError) (met : Conditions) :
    Ends (transact digests backend command met) t
      (fun _ u => ∃ s' frames, V2State.Heard frames s s' ∧ Opened s' (flow.after frames) u ∧
        Moved (flowEvents flow frames) t u)
      (fun _ _ => False) := by
  obtain ⟨s', reached, heard⟩ := RmcpConnection.transact_heard digests backend.provider command.request met opened.active
  unfold transact
  refine Ends.get_bind (tellFrames_bind opened.solFlow_eq (Ends.modifyGet ?_))
  refine ⟨s', _, heard, ⟨reached, ?_⟩, ⟨rfl, rfl, rfl, rfl, rfl⟩⟩
  rw [heard.sol, opened.sol]
  rfl

/-- What a poll of the console waits for. -/
def Awaited (waitAck : Bool) (flow : SolFlow) : Prop :=
  (waitAck && flow.inputAck.isSome || !waitAck && flow.hasOutput) = true

/-- A poll that returns has what it waited for. -/
theorem pollSol_awaited (provider : CryptoProvider) (deadline : Instant) (waitAck : Bool) (turns : List Turn)
    (unrelated : Nat) (s : V2State)
    (returned : (V2State.pollSol provider deadline waitAck turns unrelated s).result = some (.returned (.ok ()))) :
    ∃ flow, (V2State.pollSol provider deadline waitAck turns unrelated s).state.sol = some flow ∧
      Awaited waitAck flow := by
  induction turns generalizing unrelated s with
  | nil => cases returned
  | cons turn turns ih =>
    unfold V2State.pollSol at returned ⊢
    generalize s.receiveOne provider deadline turn unrelated [] = intake at *
    obtain ⟨result, left, seen, accepted, state⟩ := intake
    dsimp only at *
    generalize (V2State.transport provider).commit state seen = after at *
    rcases result with error | _ | response
    · cases V2State.SolPoll.returned.inj (Option.some.inj returned)
    · dsimp only at returned ⊢
      cases opened : after.sol with
      | none =>
        rw [opened] at returned
        cases returned
      | some flow =>
        rw [opened] at returned
        dsimp only at returned ⊢
        split at returned
        · rename_i awaited
          rw [if_pos awaited]
          exact ⟨flow, opened, awaited⟩
        · rename_i more
          rw [if_neg more]
          cases counted : countUnrelated left with
          | error error =>
            rw [counted] at returned
            cases V2State.SolPoll.returned.inj (Option.some.inj returned)
          | ok count =>
            rw [counted] at returned
            exact ih count after returned
    · cases V2State.SolPoll.returned.inj (Option.some.inj returned)

/-- A poll panics only where no console is open. -/
theorem pollSol_panicked (provider : CryptoProvider) (deadline : Instant) (waitAck : Bool) (turns : List Turn)
    (unrelated : Nat) (s : V2State)
    (panics : (V2State.pollSol provider deadline waitAck turns unrelated s).result = some .panicked) :
    (V2State.pollSol provider deadline waitAck turns unrelated s).state.sol = none := by
  induction turns generalizing unrelated s with
  | nil => cases panics
  | cons turn turns ih =>
    unfold V2State.pollSol at panics ⊢
    generalize s.receiveOne provider deadline turn unrelated [] = intake at *
    obtain ⟨result, left, seen, accepted, state⟩ := intake
    dsimp only at *
    generalize (V2State.transport provider).commit state seen = after at *
    rcases result with error | _ | response
    · cases panics
    · dsimp only at panics ⊢
      cases opened : after.sol with
      | none => exact opened
      | some flow =>
        rw [opened] at panics
        dsimp only at panics ⊢
        split at panics
        · cases panics
        · rename_i more
          rw [if_neg more]
          cases counted : countUnrelated left with
          | error error =>
            rw [counted] at panics
            cases panics
          | ok count =>
            rw [counted] at panics
            exact ih count after panics
    · cases panics

/-- A reception that times out hands nothing to the flow. -/
theorem receiveOne_timeout (provider : CryptoProvider) (s : V2State) (deadline : Instant) (turn : Turn) (unrelated : Nat)
    (seen : List UInt32) (late : (s.receiveOne provider deadline turn unrelated seen).result = .error .timeout) :
    (s.receiveOne provider deadline turn unrelated seen).state.sol = s.sol := by
  have shape := V2State.receiveOne_cases provider s deadline turn unrelated seen
  generalize s.receiveOne provider deadline turn unrelated seen = intake at shape late ⊢
  generalize turn.arrivals.recv unrelated = arrived at shape
  cases shape with
  | unread | refused | unanswered | accepted => rfl
  | console data count sequence payload flow current room opened =>
    have ended := V2State.receiveSol_result provider s flow payload deadline turn.acking
    dsimp only at late
    rw [late] at ended
    cases ended

/-- A poll for an acknowledgement that times out has not seen one. -/
theorem pollSol_unanswered (provider : CryptoProvider) (deadline : Instant) (turns : List Turn) (unrelated : Nat)
    (s : V2State) {flow : SolFlow}
    (late : (V2State.pollSol provider deadline true turns unrelated s).result = some (.returned (.error .timeout)))
    (opened : s.sol = some flow) (nothing : flow.inputAck = none) :
    ∃ flow', (V2State.pollSol provider deadline true turns unrelated s).state.sol = some flow' ∧
      flow'.inputAck = none := by
  induction turns generalizing unrelated s flow with
  | nil => cases late
  | cons turn turns ih =>
    have timed := receiveOne_timeout provider s deadline turn unrelated []
    have committed := (V2State.obeys_heard provider).commit (s.receiveOne provider deadline turn unrelated []).state
      (s.receiveOne provider deadline turn unrelated []).seen
    unfold V2State.pollSol at late ⊢
    generalize s.receiveOne provider deadline turn unrelated [] = intake at *
    obtain ⟨result, left, seen, accepted, state⟩ := intake
    dsimp only at *
    generalize (V2State.transport provider).commit state seen = after at *
    rcases result with error | _ | response
    · dsimp only at late ⊢
      have same := timed (by rw [Except.error.inj (V2State.SolPoll.returned.inj (Option.some.inj late))])
      have kept := committed.sol
      rw [same, opened] at kept
      exact ⟨flow, kept, nothing⟩
    · dsimp only at late ⊢
      cases reached : after.sol with
      | none =>
        rw [reached] at late
        cases late
      | some flow' =>
        rw [reached] at late
        dsimp only at late ⊢
        split at late
        · cases V2State.SolPoll.returned.inj (Option.some.inj late)
        · rename_i more
          have unseen : flow'.inputAck = none := by simpa using more
          rw [if_neg more]
          cases counted : countUnrelated left with
          | error error => exact ⟨flow', reached, unseen⟩
          | ok count =>
            rw [counted] at late
            exact ih count after late reached unseen
    · cases V2State.SolPoll.returned.inj (Option.some.inj late)

/-- A poll moves the flow by the frames that arrive in it, which are newer than what came before. -/
theorem pollSol_ends (opened : Opened s flow t) (deadline : Instant) (waitAck : Bool) (turns : List Turn) :
    Ends (pollSol backend deadline waitAck turns) t
      (fun result u => ∃ s' frames, V2State.Raised frames s s' ∧ Opened s' (flow.after frames) u ∧
        Moved (flowEvents flow frames) t u ∧ (result = .ok () → Awaited waitAck (flow.after frames)) ∧
        (result = .error .timeout → waitAck = true → flow.inputAck = none → (flow.after frames).inputAck = none))
      (fun halt u => halt = .waiting ∧
        ∃ s' frames, V2State.Raised frames s s' ∧ Opened s' (flow.after frames) u ∧
          Moved (flowEvents flow frames) t u) := by
  have raised := V2State.pollSol_raised backend.provider deadline waitAck turns 0 s
  have awaited := pollSol_awaited backend.provider deadline waitAck turns 0 s
  have sol := (V2State.pollSol_heard backend.provider deadline waitAck turns 0 s).sol
  rw [opened.sol] at sol
  unfold pollSol
  refine opened.state_bind ?_
  rw [opened.sol]
  refine Ends.modify_bind (Ends.setState_bind ?_)
  cases returned : (V2State.pollSol backend.provider deadline waitAck turns 0 s).result with
  | none => exact Ends.throw ⟨rfl, _, _, raised, ⟨rfl, sol⟩, ⟨rfl, rfl, rfl, rfl, rfl⟩⟩
  | some ended =>
    cases ended with
    | panicked =>
      have closed := pollSol_panicked backend.provider deadline waitAck turns 0 s returned
      rw [closed] at sol
      cases sol
    | returned result =>
      refine Ends.pure ⟨_, _, raised, ⟨rfl, sol⟩, ⟨rfl, rfl, rfl, rfl, rfl⟩, ?_, ?_⟩
      · rintro rfl
        obtain ⟨reached, same, waited⟩ := awaited returned
        rw [sol] at same
        obtain rfl := Option.some.inj same
        exact waited
      · rintro rfl rfl nothing
        obtain ⟨reached, same, waits⟩ := pollSol_unanswered backend.provider deadline turns 0 s returned opened.sol nothing
        rw [sol] at same
        obtain rfl := Option.some.inj same
        exact waits

/-- A frame is sent, and the log says whether it may have reached the BMC. -/
theorem sendSolFrame_ends (opened : Opened s flow t) (frame : SolFrame) (deadline : Instant) (sending : Sending) :
    Ends (sendSolFrame backend frame deadline sending) t
      (fun result u => ∃ s', s'.mark = s.mark ∧ Opened s' flow u ∧
        Moved (if reached result then [.sent frame] else []) t u)
      (fun _ _ => False) := by
  obtain ⟨sequence, same⟩ := V2State.sendSolFrame_frame backend.provider s frame deadline sending
  have mark : (s.sendSolFrame backend.provider frame deadline sending).2.mark = s.mark := by
    rw [same]
    rfl
  have sol : (s.sendSolFrame backend.provider frame deadline sending).2.sol = some flow := by
    rw [same]
    exact opened.sol
  unfold sendSolFrame
  exact opened.state_bind (Ends.setState_bind (Ends.modify_bind
    (Ends.pure ⟨_, mark, ⟨rfl, sol⟩, ⟨rfl, rfl, rfl, rfl, rfl⟩⟩)))

/-! ### The end of a session -/

/-- The queue is taken, and the session is closed. -/
theorem takeOutput_ends (opened : Opened s flow t) :
    Ends takeOutput t
      (fun output u => output = flow.output ∧ u.1.connection.sol = none ∧ Moved [] t u) (fun _ _ => False) := by
  unfold takeOutput
  refine opened.solFlow_bind (opened.state_bind (Ends.setState_bind (Ends.pure ⟨rfl, rfl, ?_⟩)))
  exact ⟨(List.append_nil _).symm, rfl, rfl, rfl, rfl⟩

/-- A deactivation takes what arrives in it, and gives the queue back. -/
theorem deactivateBounded_ends (opened : Opened s flow t) (met : Conditions) :
    Ends (deactivateBounded digests backend met) t
      (fun out u => ∃ frames, out.2 = (flow.after frames).output ∧ u.1.connection.sol = none ∧
        Moved (flowEvents flow frames) t u)
      (fun _ _ => False) := by
  unfold deactivateBounded
  refine Ends.get_bind ?_
  dsimp only
  rw [opened.active]
  refine Ends.bind_total (transact_ends opened _ met) ?_
  rintro result u ⟨s', frames, -, after, moved⟩
  refine Ends.get_bind ?_
  rw [after.active]
  refine Ends.bind_total (takeOutput_ends after) ?_
  rintro _ v ⟨rfl, closed, still⟩
  have both := moved.trans still
  rw [List.append_nil] at both
  exact Ends.pure ⟨frames, rfl, closed, both⟩

/-- A session that is interrupted is over, and the error tells what was asked and the queue. -/
theorem interrupted_ends {α : Type} {Q : α → Logged → Prop} (active : t.1.active = true) (opened : Opened s flow t)
    (reason : SolInterruptionReason) (confirmedInput : Nat) (inputDeliveryUncertain : Bool) (cleanup : Conditions) :
    Ends (interrupted digests backend reason confirmedInput inputDeliveryUncertain cleanup) t Q
      (fun halt u => ∃ frames unconfirmed, halt = .error (.interrupted
          ⟨reason, confirmedInput, inputDeliveryUncertain, true, unconfirmed, (flow.after frames).output⟩) ∧
        u.1.connection.sol = none ∧ u.1.active = false ∧ u.2 = t.2 ++ flowEvents flow frames) := by
  unfold interrupted
  refine Ends.get_bind ?_
  dsimp only
  rw [active]
  have same : Opened s flow ({ t.1 with active := false }, t.2) := ⟨opened.active, opened.sol⟩
  refine Ends.modify_bind ?_
  refine Ends.bind_total (deactivateBounded_ends same cleanup) ?_
  rintro ⟨cleanup, _⟩ u ⟨frames, rfl, closed, moved⟩
  exact Ends.modify_bind (Ends.throw ⟨frames, _, rfl, closed, moved.active, moved.log⟩)

end
end IpmiRs.Rmcp.Sol
