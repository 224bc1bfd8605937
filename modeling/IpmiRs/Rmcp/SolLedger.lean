import IpmiRs.Library.Runs
import IpmiRs.Rmcp.ActivationPolicy
import IpmiRs.Rmcp.SolSteps

/-! Console output from the wire to the caller. Every byte that a flow takes is
acknowledged, so it has to be handed over: by a read, or with the error that
ends the session. -/
namespace IpmiRs.Rmcp.Sol
open App App.Auth Connection Library Library.Stateful Library.Runs

def Event.output : Event → List UInt8
  | .received _ _ bytes => bytes
  | .sent _ => []

/-- The output that was taken from the wire. -/
def takenOutput (log : List Event) : List UInt8 := log.flatMap Event.output

theorem takenOutput_append (log more : List Event) : takenOutput (log ++ more) = takenOutput log ++ takenOutput more :=
  List.flatMap_append

theorem takenOutput_flowEvents (flow : SolFlow) (frames : List Numbered) :
    takenOutput (flowEvents flow frames) = flow.takenAll frames := by
  induction frames generalizing flow with
  | nil => rfl
  | cons numbered rest ih =>
    obtain ⟨sequence, frame⟩ := numbered
    change flow.taken frame ++ takenOutput (flowEvents (flow.accept frame).2 rest) = _
    rw [ih]
    rfl

theorem takenOutput_sent (frame : SolFrame) (may : Bool) :
    takenOutput (if may then [.sent frame] else []) = [] := by
  cases may <;> rfl

/-! ### The ledger -/

/-- A session is open, and what was taken is handed over or queued. -/
def Holding (handed : List UInt8) (t : Logged) : Prop :=
  ∃ s flow, Opened s flow t ∧ handed ++ flow.output = takenOutput t.2

/-- No session is open, and all that was taken is handed over. -/
structure Settled (handed : List UInt8) (t : Logged) : Prop where
  closed : t.1.connection.sol = none
  balanced : handed = takenOutput t.2

/-- The handle knows whether its session is open. -/
inductive Accounted (handed : List UInt8) (t : Logged) : Prop where
  | live (active : t.1.active = true) (holding : Holding handed t)
  | ended (inactive : t.1.active = false) (settled : Settled handed t)

/-- A call that does not return hands over what its error carries. -/
def Fails (handed : List UInt8) : Halt → Logged → Prop
  | .panicked, _ => False
  | .waiting, t => Accounted handed t
  | .error error, t => Accounted (handed ++ error.output) t

section
variable {digests : Digests} {backend : Backend} {remotePort : UInt16} {handed : List UInt8} {t u : Logged}
  {s s' : V2State} {flow : SolFlow}

/-- What frames add to the queue is what they add to the log. -/
theorem balanced_after (balanced : handed ++ flow.output = takenOutput t.2) (frames : List Numbered) :
    handed ++ (flow.after frames).output = takenOutput (t.2 ++ flowEvents flow frames) := by
  rw [takenOutput_append, takenOutput_flowEvents, flow.after_output, ← balanced, List.append_assoc]

/-- Frames move the flow and the log alike. -/
theorem Holding.moved {frames : List Numbered} (balanced : handed ++ flow.output = takenOutput t.2)
    (opened : Opened s' (flow.after frames) u) (moved : Moved (flowEvents flow frames) t u) : Holding handed u := by
  refine ⟨s', _, opened, ?_⟩
  rw [moved.log]
  exact balanced_after balanced frames

theorem transact_holding {α : Type} (holding : Holding handed t) (command : IpmiCommand α SolPayloadError)
    (met : Conditions) :
    Ends (transact digests backend command met) t
      (fun _ u => Holding handed u ∧ u.1.active = t.1.active) (fun _ _ => False) := by
  obtain ⟨s, flow, opened, balanced⟩ := holding
  refine (transact_ends opened command met).mono ?_ fun _ _ never => never
  rintro _ u ⟨s', frames, -, after, moved⟩
  exact ⟨.moved balanced after moved, moved.active⟩

theorem takeOutput_settles (holding : Holding handed t) :
    Ends takeOutput t (fun output u => Settled (handed ++ output) u ∧ u.1.active = t.1.active) (fun _ _ => False) := by
  obtain ⟨s, flow, opened, balanced⟩ := holding
  refine (takeOutput_ends opened).mono ?_ fun _ _ never => never
  rintro _ u ⟨rfl, closed, moved⟩
  exact ⟨⟨closed, by rw [moved.log, List.append_nil, balanced]⟩, moved.active⟩

/-- The output that arrived up to the end of the deactivation is given back with its result. -/
theorem deactivateBounded_settles (holding : Holding handed t) (met : Conditions) :
    Ends (deactivateBounded digests backend met) t
      (fun out u => Settled (handed ++ out.2) u ∧ u.1.active = t.1.active) (fun _ _ => False) := by
  obtain ⟨s, flow, opened, balanced⟩ := holding
  refine (deactivateBounded_ends opened met).mono ?_ fun _ _ never => never
  rintro ⟨result, _⟩ u ⟨frames, rfl, closed, moved⟩
  exact ⟨⟨closed, by rw [moved.log]; exact balanced_after balanced frames⟩, moved.active⟩

/-- An error that carries no output leaves the ledger as it is. -/
theorem Accounted.fails (accounted : Accounted handed t) {error : SolError} (nothing : error.output = []) :
    Fails handed (.error error) t := by
  rw [Fails, nothing, List.append_nil]
  exact accounted

/-! ### Opening -/

/-- An error that opening a session can end in. -/
def SolError.Opening (error : SolError) : Prop := ∀ interruption, error ≠ .interrupted interruption

theorem activateSol_ends (settled : Settled handed t) (met : OpenConditions) :
    Ends (activateSol digests backend remotePort met) t
      (fun _ u => Holding handed u ∧ u.1.active = t.1.active)
      (fun halt u => ∃ error, halt = .error error ∧ error.Opening ∧ Settled (handed ++ error.output) u ∧
        u.1.active = t.1.active) := by
  obtain ⟨closed, balanced⟩ := settled
  unfold activateSol
  refine Ends.bind (state_ends t) ?_ ?_
  · rintro _ u ⟨same, rfl⟩
    rw [same]
    exact ⟨_, rfl, (by rintro _ ⟨⟩), ⟨closed, (List.append_nil handed).trans balanced⟩, rfl⟩
  rintro s u ⟨same, -⟩
  rw [same]
  refine Ends.setState_bind (Ends.get_bind ?_)
  have opened : Holding handed
      ({ t.1 with connection := { t.1.connection with active := some (.v2_0 s.solOpen) } }, t.2) :=
    ⟨s.solOpen, _, ⟨rfl, rfl⟩, by rw [balanced]; exact List.append_nil _⟩
  refine Ends.bind_total (transact_holding opened _ met.activating) ?_
  rintro (error | activation) u ⟨holding, active⟩
  · dsimp only
    split
    · refine Ends.bind_total (deactivateBounded_settles holding met.cleanup) ?_
      rintro ⟨cleanup, output⟩ v ⟨settled, same⟩
      exact Ends.throw ⟨_, rfl, (by rintro _ ⟨⟩), settled, same.trans active⟩
    · refine Ends.bind_total (takeOutput_settles holding) ?_
      rintro output v ⟨settled, same⟩
      split
      · exact Ends.throw ⟨_, rfl, (by rintro _ ⟨⟩), settled, same.trans active⟩
      · rename_i none
        rw [not_not] at none
        subst none
        exact Ends.throw ⟨_, rfl, (by rintro _ ⟨⟩), settled, same.trans active⟩
  · dsimp only
    split
    · refine Ends.bind_total (deactivateBounded_settles holding met.cleanup) ?_
      rintro ⟨cleanup, output⟩ v ⟨settled, same⟩
      exact Ends.throw ⟨_, rfl, (by rintro _ ⟨⟩), settled, same.trans active⟩
    · obtain ⟨s', flow, after, balanced'⟩ := holding
      have sol := solLimits_sol after.sol activation.maxInput activation.maxOutput
      exact after.state_bind (Ends.modify ⟨⟨_, _, ⟨rfl, sol⟩, balanced'⟩, active⟩)

/-! ### A live session -/

/-- A session is open, and its handle says so. -/
structure Live (handed : List UInt8) (t : Logged) : Prop where
  active : t.1.active = true
  holding : Holding handed t

/-- What holds of a session does not depend on its handle. -/
theorem Holding.of_same (holding : Holding handed t) (connection : u.1.connection = t.1.connection)
    (log : u.2 = t.2) : Holding handed u := by
  obtain ⟨s, flow, opened, balanced⟩ := holding
  exact ⟨s, flow, ⟨by rw [connection]; exact opened.active, opened.sol⟩, by rw [log]; exact balanced⟩

theorem Live.balanced (live : Live handed t) (opened : Opened s flow t) : handed ++ flow.output = takenOutput t.2 := by
  obtain ⟨s', flow', same, balanced⟩ := live.holding
  have sol := opened.solFlow_eq
  rw [same.solFlow_eq] at sol
  exact Option.some.inj sol ▸ balanced

/-- The flow of a live session is replaced by one with the same queue. -/
theorem Live.setFlow_bind {α : Type} {Q : α → Logged → Prop} {E : Halt → Logged → Prop} (live : Live handed t)
    (opened : Opened s flow t) {f : PUnit → Console α} {flow' : SolFlow} (output : flow'.output = flow.output)
    (next : ∀ u, Live handed u → Opened { s with sol := some flow' } flow' u → Ends (f ⟨⟩) u Q E) :
    Ends (setFlow flow' >>= f) t Q E := by
  refine opened.setFlow_bind fun u after moved => next u ⟨moved.active.trans live.active, _, _, after, ?_⟩ after
  rw [output, moved.log, List.append_nil, live.balanced opened]

/-- A session that is interrupted hands over its queue. -/
theorem interrupted_fails {α : Type} {Q : α → Logged → Prop} (live : Live handed t) (reason : SolInterruptionReason)
    (confirmedInput : Nat) (inputDeliveryUncertain : Bool) (cleanup : Conditions) :
    Ends (interrupted digests backend reason confirmedInput inputDeliveryUncertain cleanup) t Q (Fails handed) := by
  obtain ⟨active, s, flow, opened, balanced⟩ := live
  refine (interrupted_ends active opened reason confirmedInput inputDeliveryUncertain cleanup).mono (fun _ _ done => done) ?_
  rintro _ u ⟨frames, unconfirmed, rfl, closed, inactive, log⟩
  exact .ended inactive ⟨closed, by rw [log]; exact balanced_after balanced frames⟩

theorem pollSol_live (live : Live handed t) (deadline : Instant) (waitAck : Bool) (turns : List Turn) :
    Ends (pollSol backend deadline waitAck turns) t
      (fun result u => Live handed u ∧
        (result = .ok () → ∃ s flow, Opened s flow u ∧ Awaited waitAck flow))
      (fun halt u => halt = .waiting ∧ Live handed u) := by
  obtain ⟨active, s, flow, opened, balanced⟩ := live
  refine (pollSol_ends opened deadline waitAck turns).mono ?_ ?_
  · rintro result u ⟨s', frames, -, after, moved, awaited, -⟩
    exact ⟨⟨moved.active.trans active, .moved balanced after moved⟩, fun done => ⟨s', _, after, awaited done⟩⟩
  · rintro halt u ⟨waiting, s', frames, -, after, moved⟩
    exact ⟨waiting, moved.active.trans active, .moved balanced after moved⟩

/-! ### Reading -/

theorem readFlow_live (live : Live handed t) (room : Nat) :
    Ends (readFlow room) t (fun bytes u => Live (handed ++ bytes) u) (fun _ _ => False) := by
  obtain ⟨active, s, flow, opened, balanced⟩ := live
  unfold readFlow
  refine opened.solFlow_bind (opened.setFlow_bind fun u after moved => Ends.pure ?_)
  refine ⟨moved.active.trans active, _, _, after, ?_⟩
  rw [moved.log, List.append_nil, ← balanced, List.append_assoc]
  exact congrArg (handed ++ ·) (List.take_append_drop _ _)

theorem readUntil_accounted (accounted : Accounted handed t) (room : Nat) (deadline : Instant) (met : ReadConditions) :
    Ends (readUntil digests backend room deadline met) t
      (fun bytes u => Accounted (handed ++ bytes) u) (Fails handed) := by
  unfold readUntil
  refine Ends.get_bind ?_
  dsimp only
  cases accounted with
  | ended inactive settled =>
    rw [inactive]
    exact Ends.throw (Accounted.fails (.ended inactive settled) rfl)
  | live active holding =>
    have live : Live handed t := ⟨active, holding⟩
    rw [active]
    split
    · rename_i never
      cases never
    split
    · exact Ends.pure (.live active ((List.append_nil handed).symm ▸ holding))
    refine Ends.bind_total (readFlow_live live room) ?_
    rintro bytes u read
    split
    · exact Ends.pure (.live read.active read.holding)
    rename_i none
    rw [not_not] at none
    subst none
    rw [List.append_nil] at read
    split
    · exact interrupted_fails read _ _ _ _
    refine Ends.bind (pollSol_live read _ false met.turns) ?_ ?_
    · rintro _ v ⟨rfl, polled⟩
      exact .live polled.active polled.holding
    · rintro (error | ⟨⟩) v ⟨polled, -⟩
      · exact interrupted_fails polled _ _ _ _
      · exact (readFlow_live polled room).mono (fun _ _ again => .live again.active again.holding)
          fun _ _ never => never.elim

theorem read_accounted (accounted : Accounted handed t) (room : Nat) (met : ReadConditions) :
    Ends (read digests backend room met) t (fun bytes u => Accounted (handed ++ bytes) u) (Fails handed) := by
  unfold read
  refine Ends.bind (state_ends t) ?_ ?_
  · rintro _ u ⟨same, rfl⟩
    rw [same]
    exact accounted.fails rfl
  · rintro s u ⟨same, -⟩
    rw [same]
    exact readUntil_accounted accounted room _ met

/-! ### Input -/

theorem sendSolFrame_live (live : Live handed t) (frame : SolFrame) (deadline : Instant) (sending : Sending) :
    Ends (sendSolFrame backend frame deadline sending) t (fun _ u => Live handed u) (fun _ _ => False) := by
  obtain ⟨active, s, flow, opened, balanced⟩ := live
  refine (sendSolFrame_ends opened frame deadline sending).mono ?_ fun _ _ never => never
  rintro result u ⟨s', -, after, moved⟩
  refine ⟨moved.active.trans active, _, _, after, ?_⟩
  rw [moved.log, takenOutput_append, takenOutput_sent, List.append_nil, balanced]

theorem takeAck_live (live : Live handed t) (opened : Opened s flow t) (noted : flow.inputAck.isSome = true) :
    Ends takeAck t (fun _ u => Live handed u) (fun _ _ => False) := by
  obtain ⟨ack, same⟩ := Option.isSome_iff_exists.mp noted
  unfold takeAck
  refine opened.solFlow_bind (live.setFlow_bind opened rfl fun u after _ => ?_)
  rw [same]
  exact Ends.pure after

theorem nextSequence_live (live : Live handed t) :
    Ends nextSequence t (fun _ u => Live handed u) (fun _ _ => False) := by
  obtain ⟨s, flow, opened, -⟩ := live.holding
  unfold nextSequence
  exact opened.solFlow_bind (live.setFlow_bind opened rfl fun u after _ => Ends.pure after)

theorem transmitLoop_live (live : Live handed t) (frame : SolFrame) (deadline : Instant) (confirmed : Nat)
    (cleanup : Conditions) (left : Nat) (attempts : List Attempt) :
    Ends (transmitLoop digests backend frame deadline confirmed cleanup left attempts) t
      (fun _ u => Live handed u) (Fails handed) := by
  induction left generalizing attempts t with
  | zero => exact interrupted_fails live _ _ _ _
  | succ left ih =>
    cases attempts with
    | nil => exact Ends.throw (.live live.active live.holding)
    | cons met rest =>
      unfold transmitLoop
      refine Ends.bind_total (sendSolFrame_live live frame deadline met.sending) ?_
      rintro (error | datagram) u sent
      · exact interrupted_fails sent _ _ _ _
      refine Ends.bind (pollSol_live sent _ true met.turns) ?_ ?_
      · rintro _ v ⟨rfl, polled⟩
        exact .live polled.active polled.holding
      · rintro (error | ⟨⟩) v ⟨polled, awaited⟩
        · dsimp only
          split
          · exact ih polled rest
          · exact interrupted_fails polled _ _ _ _
        · obtain ⟨s, flow, opened, noted⟩ := awaited rfl
          refine (takeAck_live polled opened ?_).mono (fun _ _ taken => taken) fun _ _ never => never.elim
          simpa [Awaited] using noted

theorem transmit_live (live : Live handed t) (frame : SolFrame) (deadline : Instant) (confirmed : Nat)
    (cleanup : Conditions) (attempts : List Attempt) :
    Ends (transmit digests backend frame deadline confirmed cleanup attempts) t
      (fun _ u => Live handed u) (Fails handed) := by
  obtain ⟨s, flow, opened, -⟩ := live.holding
  unfold transmit
  refine opened.solFlow_bind (live.setFlow_bind opened rfl fun u after _ => ?_)
  exact transmitLoop_live after frame deadline confirmed cleanup _ attempts

theorem sendChunk_live (live : Live handed t) (deadline : Instant) (cleanup : Conditions) (chars : List UInt8)
    (partials confirmed : Nat) (transmissions : List (List Attempt)) :
    Ends (sendChunk digests backend deadline cleanup chars partials confirmed transmissions) t
      (fun _ u => Live handed u) (Fails handed) := by
  induction transmissions generalizing chars partials confirmed t with
  | nil =>
    cases chars with
    | nil => exact Ends.pure live
    | cons char chars => exact Ends.throw (.live live.active live.holding)
  | cons attempts transmissions ih =>
    cases chars with
    | nil => exact Ends.pure live
    | cons char chars =>
      unfold sendChunk
      refine Ends.bind_total (nextSequence_live live) fun sequence u numbered => ?_
      refine Ends.bind (transmit_live numbered _ deadline confirmed cleanup attempts) (fun _ _ fails => fails) ?_
      intro ack v acknowledged
      dsimp only
      split
      · exact interrupted_fails acknowledged _ _ _ _
      split
      · exact interrupted_fails acknowledged _ _ _ _
      split
      · exact interrupted_fails acknowledged _ _ _ _
      · exact ih acknowledged _ _ _

theorem sendChunks_live (live : Live handed t) (deadline : Instant) (cleanup : Conditions) (pieces : List (List UInt8))
    (confirmed : Nat) (transmissions : List (List Attempt)) :
    Ends (sendChunks digests backend deadline cleanup pieces confirmed transmissions) t
      (fun _ u => Live handed u) (Fails handed) := by
  induction pieces generalizing confirmed transmissions t with
  | nil => exact Ends.pure live
  | cons piece rest ih =>
    unfold sendChunks
    refine Ends.bind (sendChunk_live live deadline cleanup piece 0 confirmed transmissions) (fun _ _ fails => fails) ?_
    rintro ⟨confirmed, transmissions⟩ u sent
    exact ih sent confirmed transmissions

theorem sendInput_accounted (accounted : Accounted handed t) (input : List UInt8) (met : InputConditions) :
    Ends (sendInput digests backend input met) t (fun _ u => Accounted handed u) (Fails handed) := by
  unfold sendInput
  refine Ends.get_bind ?_
  dsimp only
  split
  · exact Ends.throw (accounted.fails rfl)
  cases accounted with
  | ended inactive settled =>
    rw [inactive]
    exact Ends.throw (Accounted.fails (.ended inactive settled) rfl)
  | live active holding =>
    have live : Live handed t := ⟨active, holding⟩
    rw [active]
    split
    · rename_i never
      cases never
    split
    · exact interrupted_fails live _ _ _ _
    obtain ⟨s, flow, opened, -⟩ := holding
    refine opened.solFlow_bind ?_
    split
    · exact Ends.throw (Accounted.fails (.live active live.holding) rfl)
    · exact (sendChunks_live live _ _ _ _ _).mono (fun _ _ sent => .live sent.active sent.holding)
        fun _ _ fails => fails

theorem sendControl_accounted (accounted : Accounted handed t) (flags : SolFlags) (met : ControlConditions) :
    Ends (sendControl digests backend flags met) t (fun _ u => Accounted handed u) (Fails handed) := by
  unfold sendControl
  refine Ends.get_bind ?_
  dsimp only
  cases accounted with
  | ended inactive settled =>
    rw [inactive]
    exact Ends.throw (Accounted.fails (.ended inactive settled) rfl)
  | live active holding =>
    rw [active]
    split
    · rename_i never
      cases never
    refine Ends.bind_total (nextSequence_live ⟨active, holding⟩) fun sequence u numbered => ?_
    refine Ends.bind (transmit_live numbered _ _ _ _ _) (fun _ _ fails => fails) ?_
    intro ack v acknowledged
    split
    · exact interrupted_fails acknowledged _ _ _ _
    · exact Ends.pure (.live acknowledged.active acknowledged.holding)

/-! ### Closing -/

/-- A session that is closed has handed over its queue. -/
theorem closeInner_over (accounted : Accounted handed t) (cleanup : Conditions) :
    Ends (closeInner digests backend cleanup) t
      (fun _ u => u.1.active = false ∧ Settled handed u)
      (fun halt u => ∃ error, halt = .error error ∧ u.1.active = false ∧ Settled (handed ++ error.output) u) := by
  unfold closeInner
  refine Ends.get_bind ?_
  dsimp only
  cases accounted with
  | ended inactive settled =>
    rw [inactive]
    split
    · split
      · exact Ends.throw ⟨_, rfl, inactive, ⟨settled.closed, (List.append_nil handed).trans settled.balanced⟩⟩
      · exact Ends.pure ⟨inactive, settled⟩
    · rename_i never
      exact absurd rfl never
  | live active holding =>
    have same : Holding handed ({ t.1 with active := false }, t.2) := holding.of_same rfl rfl
    rw [active]
    split
    · rename_i never
      cases never
    refine Ends.modify_bind ?_
    refine Ends.bind_total (deactivateBounded_settles same cleanup) ?_
    rintro ⟨result, output⟩ u ⟨settled, inactive⟩
    refine Ends.modify_bind ?_
    split
    · exact Ends.throw ⟨_, rfl, inactive, ⟨settled.closed, settled.balanced⟩⟩
    split
    · exact Ends.throw ⟨_, rfl, inactive, ⟨settled.closed, settled.balanced⟩⟩
    · rename_i none
      rw [not_not] at none
      subst none
      rw [List.append_nil] at settled
      exact Ends.pure ⟨inactive, ⟨settled.closed, settled.balanced⟩⟩

/-! ### Reconnecting -/

/-- A new session has no console. -/
theorem activate_sol {provider : CryptoProvider} {met : HandshakeConditions} {privilegeLevel : Option PrivilegeLevel}
    {username : Username} {password : List UInt8} {kg : Option (List UInt8)} {suite : CipherSuite}
    {sent sent' : List (List UInt8)}
    (activated : (V2State.activate provider met privilegeLevel username password kg suite).eval sent = (.ok s, sent')) :
    s.sol = none := by
  obtain ⟨response, _, -, answered⟩ := eval_bind_eq_ok.mp activated
  obtain ⟨rm2, _, -, exchanged⟩ := eval_bind_eq_ok.mp answered
  obtain ⟨keys, _, -, confirmed⟩ := eval_bind_eq_ok.mp exchanged
  obtain ⟨rfl, -⟩ := eval_pure_eq_ok.mp confirmed
  rfl

theorem established_closed {requireRmcpPlus rmcpPlus : Bool} {policy : Option CipherSuitePolicy} {config : SessionConfig}
    {met : ActivationConditions} {calls : List (Exchange RmcpIpmiError)} {active : Active}
    (established : Established requireRmcpPlus rmcpPlus policy config met calls active) (c : RmcpConnection) :
    RmcpConnection.sol { c with active := some active } = none := by
  cases established with
  | rmcpPlus discovered asked supported chosen named handshake => exact activate_sol handshake
  | legacy discovered free plain supported begun => rfl

/-- An activation leaves no console open. -/
theorem activateWithSelection_closed (digests : Digests) (requireRmcpPlus rmcpPlus : Bool) (policy : Option CipherSuitePolicy)
    (config : SessionConfig) (met : ActivationConditions) {c : RmcpConnection} (closed : c.sol = none) :
    Ends (activateWithSelection digests requireRmcpPlus rmcpPlus policy config met) c
      (fun _ d => d.sol = none) (fun _ d => d.sol = none) := by
  unfold activateWithSelection
  refine Ends.ofExcept_bind (fun _ _ => closed) fun _ implemented => ?_
  refine Ends.ofExcept_bind (fun _ _ => closed) fun _ _ => Ends.modify_bind ?_
  split
  · exact Ends.throw rfl
  refine Ends.ofExcept_bind (fun _ _ => rfl) fun active activated => Ends.modify ?_
  have established := (activateInactive_ends digests requireRmcpPlus rmcpPlus implemented).evaluated.1 active activated
  exact established_closed established _

theorem reactivate_settled (settled : Settled handed t) (username : String) (password : List UInt8)
    (met : ActivationConditions) :
    Ends (reactivate digests backend username password met) t
      (fun _ u => Settled handed u ∧ u.1.active = t.1.active) (fun _ _ => False) := by
  have closed := activateWithSelection_closed digests t.1.requireRmcpPlus true none
    (.new (some username) (some password) backend) met settled.closed
  unfold reactivate
  refine Ends.get_bind (Ends.attempt (Ends.zoom (closed.mono ?_ ?_)))
  · exact fun _ d closed => ⟨⟨closed, settled.balanced⟩, rfl⟩
  · exact fun _ d closed => ⟨⟨closed, settled.balanced⟩, rfl⟩

/-- Another attempt is made only after an error that carries no output. -/
theorem afterFailure_eq_ok {error : SolError} (opening : error.Opening) {unconfirmed after : Bool}
    (again : afterFailure error unconfirmed = .ok after) : error.output = [] := by
  cases error with
  | activationUncertain source remote output =>
    rw [afterFailure] at again
    split at again
    · rename_i none
      exact none
    · cases again
  | unsupportedRoute port vlan remote output =>
    rw [afterFailure] at again
    split at again
    · rename_i none
      exact none
    · cases again
  | activationWithOutput source output => cases again
  | interrupted interruption => exact absurd rfl (opening interruption)
  | _ => rfl

theorem afterFailure_eq_error {error raised : SolError} {unconfirmed : Bool}
    (ends : afterFailure error unconfirmed = .error raised) : raised = error := by
  cases error with
  | activationUncertain source remote output =>
    rw [afterFailure] at ends
    split at ends
    · cases ends
    · exact (Except.error.inj ends).symm
  | unsupportedRoute port vlan remote output =>
    rw [afterFailure] at ends
    split at ends
    · cases ends
    · exact (Except.error.inj ends).symm
  | activationWithOutput source output => exact (Except.error.inj ends).symm
  | _ => cases ends

/-- The handle of a session that is over. -/
structure Over (handed : List UInt8) (t : Logged) : Prop where
  inactive : t.1.active = false
  settled : Settled handed t

theorem Over.accounted (past : Over handed t) : Accounted handed t := .ended past.inactive past.settled

/-- An attempt ends with a live session, or with one that is over and an empty queue. -/
theorem reconnectOnce_ends (past : Over handed t) (username : String) (password : List UInt8) (met : ReconnectAttempt)
    (unconfirmed : Bool) :
    Ends (reconnectOnce digests backend remotePort username password met unconfirmed) t
      (fun result u => (result = .ok () → Live handed u) ∧ (result ≠ .ok () → Over handed u)) (Fails handed) := by
  unfold reconnectOnce
  refine Ends.bind_total (reactivate_settled past.settled username password met.activation) ?_
  rintro (error | ⟨⟩) u ⟨settled, same⟩
  · exact Ends.pure ⟨(by rintro ⟨⟩), fun _ => ⟨same.trans past.inactive, settled⟩⟩
  dsimp only
  refine Ends.attempt_bind (activateSol_ends settled met.opening) ?_ ?_
  · rintro ⟨⟩ v ⟨holding, -⟩
    exact Ends.modify_bind (Ends.pure ⟨fun _ => ⟨rfl, holding.of_same rfl rfl⟩, fun other => absurd rfl other⟩)
  · rintro _ v ⟨error, rfl, opening, settled, again⟩
    have inactive := again.trans (same.trans past.inactive)
    dsimp only
    cases failed : afterFailure error unconfirmed with
    | error raised =>
      rw [afterFailure_eq_error failed]
      exact Ends.throw (.ended inactive settled)
    | ok after =>
      rw [afterFailure_eq_ok opening failed, List.append_nil] at settled
      exact Ends.pure ⟨(by rintro ⟨⟩), fun _ => ⟨inactive, settled⟩⟩

theorem reconnectLoop_ends (past : Over handed t) (username : String) (password : List UInt8) (left attempts : Nat)
    (mets : List ReconnectAttempt) (unconfirmed : Bool) :
    Ends (reconnectLoop digests backend remotePort username password left attempts mets unconfirmed) t
      (fun _ u => Live handed u) (Fails handed) := by
  induction left generalizing attempts mets unconfirmed t with
  | zero => exact Ends.throw (past.accounted.fails rfl)
  | succ left ih =>
    cases mets with
    | nil => exact Ends.throw past.accounted
    | cons met rest =>
      unfold reconnectLoop
      refine Ends.bind (reconnectOnce_ends past username password met unconfirmed) (fun _ _ fails => fails) ?_
      rintro (⟨unconfirmed, stop⟩ | ⟨⟩) u ⟨live, still⟩
      · have past := still (by rintro ⟨⟩)
        dsimp only
        split
        · exact Ends.throw (past.accounted.fails rfl)
        · exact ih past _ _ _
      · exact Ends.pure (live rfl)

theorem closePrevious_ends (accounted : Accounted handed t) (cleanup : Conditions) :
    Ends (closePrevious digests backend cleanup) t (fun _ u => Over handed u) (Fails handed) := by
  have closed : Ends (closeInner digests backend cleanup) t _ _ := closeInner_over accounted cleanup
  unfold closePrevious
  refine Ends.get_bind ?_
  dsimp only
  cases accounted with
  | ended inactive settled =>
    rw [inactive]
    exact Ends.pure ⟨inactive, settled⟩
  | live active holding =>
    rw [active]
    refine Ends.attempt_bind closed ?_ ?_
    · rintro ⟨⟩ u ⟨inactive, settled⟩
      exact Ends.pure ⟨inactive, settled⟩
    · rintro _ u ⟨error, rfl, inactive, settled⟩
      dsimp only
      split
      · exact Ends.throw (.ended inactive settled)
      · rename_i none
        rw [not_not] at none
        rw [none, List.append_nil] at settled
        exact Ends.pure ⟨inactive, settled⟩

theorem unread_ends (accounted : Accounted handed t) : Ends unread t (fun _ u => u = t) (fun _ _ => False) := by
  unfold unread
  refine Ends.get_bind ?_
  dsimp only
  cases accounted with
  | ended inactive settled =>
    rw [inactive]
    exact Ends.pure rfl
  | live active holding =>
    obtain ⟨s, flow, opened, -⟩ := holding
    rw [active]
    exact opened.solFlow_bind (Ends.pure rfl)

theorem reconnect_accounted (accounted : Accounted handed t) (username : String) (password : List UInt8)
    (maxAttempts : Nat) (met : ReconnectConditions) :
    Ends (reconnect digests backend remotePort username password maxAttempts met) t
      (fun _ u => Accounted handed u) (Fails handed) := by
  unfold reconnect
  split
  · exact Ends.throw (accounted.fails rfl)
  refine Ends.bind_total (unread_ends accounted) ?_
  rintro pending u same
  rw [same]
  split
  · exact Ends.throw (accounted.fails rfl)
  refine Ends.bind (closePrevious_ends accounted met.cleanup) (fun _ _ fails => fails) ?_
  intro unconfirmed v past
  split
  · exact Ends.throw (past.accounted.fails rfl)
  refine Ends.modify_bind ?_
  have kept : Over handed ({ v.1 with requireRmcpPlus := true }, v.2) :=
    ⟨past.inactive, ⟨past.settled.closed, past.settled.balanced⟩⟩
  exact (reconnectLoop_ends kept _ _ _ _ _ _).mono (fun _ _ live => .live live.active live.holding)
    fun _ _ fails => fails

end

/-! ### Runs -/

/-- A call on the connection, or on the handle of a console session, with what it meets. -/
inductive SolCall where
  | activate (rmcpPlus : Bool) (policy : Option CipherSuitePolicy) (config : SessionConfig) (met : ActivationConditions)
  | request (request : Request) (met : Conditions)
  | openSol (inst : SolInstance) (met : OpenConditions)
  | read (room : Nat) (met : ReadConditions)
  | readUntil (room : Nat) (deadline : Instant) (met : ReadConditions)
  | sendInput (input : List UInt8) (met : InputConditions)
  | sendControl (flags : SolFlags) (met : ControlConditions)
  | close (cleanup : Conditions)
  | reconnect (username : String) (password : List UInt8) (maxAttempts : Nat) (met : ReconnectConditions)

/-- The connection is borrowed by the handle of a live session. -/
def SolCall.Free (call : SolCall) (t : Logged) : Prop :=
  match call with
  | .activate .. | .request .. | .openSol .. => t.1.active = false
  | _ => True

section runs
variable (digests : Digests) (backend : Backend) (remotePort : UInt16)

/-- The call, which gives the output it read. -/
def perform : SolCall → Console (List UInt8)
  | .activate rmcpPlus policy config met => do
    let (s, _) ← get
    let activated : Console (Except RmcpActivationError Unit) := Stateful.attempt (Stateful.zoom
      (fun (s, _) => s.connection) (fun connection (s, log) => ({ s with connection }, log))
      (activateWithSelection digests s.requireRmcpPlus rmcpPlus policy config met))
    let _ ← activated
    return []
  | .request request met => do
    modify fun (s, log) =>
      ({ s with connection := ((rmcp digests backend.provider fun _ => met).transact request s.connection).2 }, log)
    return []
  | .openSol inst met => do
    openSol digests backend remotePort inst met
    return []
  | .read room met => read digests backend room met
  | .readUntil room deadline met => readUntil digests backend room deadline met
  | .sendInput input met => do
    let _ ← sendInput digests backend input met
    return []
  | .sendControl flags met => do
    sendControl digests backend flags met
    return []
  | .close cleanup => do
    closeInner digests backend cleanup
    return []
  | .reconnect username password maxAttempts met => do
    let _ ← reconnect digests backend remotePort username password maxAttempts met
    return []

/-- A connection without a console, of which nothing is logged yet. -/
def idle (connection : RmcpConnection) (requireRmcpPlus : Bool) (inst : SolInstance) : Logged :=
  (⟨connection, requireRmcpPlus, inst, false, false⟩, [])

def step (t : Logged) (call : SolCall) : Except Halt (List UInt8) × Logged :=
  (perform digests backend remotePort call).eval t

end runs

/-- The output that a call hands to its caller. -/
def handedBy : Except Halt (List UInt8) → List UInt8
  | .ok bytes => bytes
  | .error (.error error) => error.output
  | .error _ => []

/-- The output that waits to be read. -/
def queued (t : Logged) : List UInt8 := t.1.connection.sol.elim [] (·.output)

section
variable {digests : Digests} {backend : Backend} {remotePort : UInt16} {handed : List UInt8} {t : Logged}

theorem openSol_accounted (past : Over handed t) (inst : SolInstance) (met : OpenConditions) :
    Ends (openSol digests backend remotePort inst met) t (fun _ u => Live handed u) (Fails handed) := by
  unfold openSol
  refine Ends.modify_bind ?_
  have settled : Settled handed ({ t.1 with inst }, t.2) := ⟨past.settled.closed, past.settled.balanced⟩
  refine Ends.bind (activateSol_ends settled met) ?_ ?_
  · rintro _ u ⟨error, rfl, -, settled, same⟩
    exact .ended (same.trans past.inactive) settled
  · rintro _ u ⟨holding, -⟩
    exact Ends.modify_bind (Ends.modify ⟨rfl, holding.of_same rfl rfl⟩)

/-- A call that gives no output. -/
theorem quiet {α : Type} {x : Console α} (ends : Ends x t (fun _ u => Accounted handed u) (Fails handed)) :
    Ends (do let _ ← x; return []) t (fun output u => Accounted (handed ++ output) u) (Fails handed) := by
  refine Ends.bind ends (fun _ _ fails => fails) fun _ u accounted => Ends.pure ?_
  rw [List.append_nil]
  exact accounted

/-- Every call keeps the ledger. -/
theorem perform_accounted (accounted : Accounted handed t) (call : SolCall) (free : call.Free t) :
    Ends (perform digests backend remotePort call) t (fun output u => Accounted (handed ++ output) u) (Fails handed) := by
  have past (inactive : t.1.active = false) : Over handed t := by
    cases accounted with
    | live active holding =>
      rw [active] at inactive
      cases inactive
    | ended inactive settled => exact ⟨inactive, settled⟩
  cases call with
  | activate rmcpPlus policy config met =>
    obtain ⟨inactive, settled⟩ := past free
    have closed := activateWithSelection_closed digests t.1.requireRmcpPlus rmcpPlus policy config met
      settled.closed
    refine Ends.get_bind (quiet (Ends.attempt (Ends.zoom (closed.mono ?_ ?_))))
    · exact fun _ d closed => .ended inactive ⟨closed, settled.balanced⟩
    · exact fun _ d closed => .ended inactive ⟨closed, settled.balanced⟩
  | request request met =>
    obtain ⟨inactive, settled⟩ := past free
    exact quiet (Ends.modify (.ended inactive
      ⟨RmcpConnection.transact_closed digests backend.provider request met settled.closed, settled.balanced⟩))
  | openSol inst met =>
    exact quiet ((openSol_accounted (past free) inst met).mono (fun _ _ live => .live live.active live.holding)
      fun _ _ fails => fails)
  | read room met => exact read_accounted accounted room met
  | readUntil room deadline met => exact readUntil_accounted accounted room deadline met
  | sendInput input met => exact quiet (sendInput_accounted accounted input met)
  | sendControl flags met => exact quiet (sendControl_accounted accounted flags met)
  | close cleanup =>
    refine quiet ((closeInner_over accounted cleanup).mono ?_ ?_)
    · exact fun _ u closed => .ended closed.1 closed.2
    · rintro _ u ⟨error, rfl, inactive, settled⟩
      exact .ended inactive settled
  | reconnect username password maxAttempts met => exact quiet (reconnect_accounted accounted _ _ _ _)

/-- Every step keeps the ledger, and none panics. -/
theorem step_accounted (accounted : Accounted handed t) (call : SolCall) (free : call.Free t) :
    Accounted (handed ++ handedBy (step digests backend remotePort t call).1) (step digests backend remotePort t call).2 ∧
      (step digests backend remotePort t call).1 ≠ .error .panicked := by
  refine Ends.result (P := fun out u => Accounted (handed ++ handedBy out) u ∧ out ≠ .error .panicked)
    ((perform_accounted accounted call free).mono ?_ ?_)
  · exact fun output u kept => ⟨kept, by rintro ⟨⟩⟩
  · rintro (_ | _ | error) u fails
    · exact ⟨(List.append_nil handed).symm ▸ fails, by rintro ⟨⟩⟩
    · exact fails.elim
    · exact ⟨fails, by rintro ⟨⟩⟩

/-- Whatever is taken from the wire is handed over once and in order, or waits in the queue of a live session. -/
theorem Accounted.balanced (accounted : Accounted handed t) :
    handed ++ queued t = takenOutput t.2 ∧ (t.1.connection.sol.isSome = true ↔ t.1.active = true) := by
  cases accounted with
  | live active holding =>
    obtain ⟨s, flow, opened, balanced⟩ := holding
    rw [queued, opened.solFlow_eq]
    exact ⟨balanced, iff_of_true rfl active⟩
  | ended inactive settled =>
    rw [queued, settled.closed, inactive]
    exact ⟨(List.append_nil handed).trans settled.balanced, iff_of_false (by rintro ⟨⟩) (by rintro ⟨⟩)⟩

end

/-- Over every run of calls on a connection, the console output that was taken from the wire has been handed to the
caller once and in order, by reads and with errors, but for what waits in the queue of a live session. A console is
open exactly while its session is live, and no call panics. -/
theorem console_output_accounted (digests : Digests) (backend : Backend) (remotePort : UInt16) (c : RmcpConnection)
    (closed : c.sol = none) (requireRmcpPlus : Bool) (inst : SolInstance) (calls : List SolCall)
    (free : ∀ m ∈ moves (step digests backend remotePort) (idle c requireRmcpPlus inst) calls,
      m.op.Free m.before) :
    (moves (step digests backend remotePort) (idle c requireRmcpPlus inst) calls).flatMap
        (fun m => handedBy m.out) ++
        queued (after (step digests backend remotePort) (idle c requireRmcpPlus inst) calls) =
      takenOutput (after (step digests backend remotePort) (idle c requireRmcpPlus inst) calls).2 ∧
    ((after (step digests backend remotePort) (idle c requireRmcpPlus inst) calls).1.connection.sol.isSome =
        true ↔
      (after (step digests backend remotePort) (idle c requireRmcpPlus inst) calls).1.active = true) ∧
    ∀ m ∈ moves (step digests backend remotePort) (idle c requireRmcpPlus inst) calls,
      m.out ≠ .error .panicked := by
  have kept := guarded_history (step digests backend remotePort) (s := idle c requireRmcpPlus inst)
    (P := fun past t => Accounted (past.flatMap fun m => handedBy m.out) t ∧ ∀ m ∈ past, m.out ≠ .error .panicked)
    (fun m => m.op.Free m.before) ⟨.ended rfl ⟨closed, rfl⟩, by rintro _ ⟨⟩⟩ ?_ calls free
  · exact ⟨kept.1.balanced.1, kept.1.balanced.2, kept.2⟩
  · rintro past t call fits ⟨accounted, safe⟩
    have kept : _ ∧ (step digests backend remotePort t call).1 ≠ .error .panicked :=
      step_accounted accounted call fits
    obtain ⟨stepped, quietly⟩ := kept
    refine ⟨?_, ?_⟩
    · rw [List.flatMap_append]
      exact (List.flatMap_singleton _ _).symm ▸ stepped
    · intro m held
      rcases List.mem_append.mp held with held | held
      · exact safe m held
      · rw [List.mem_singleton.mp held]
        exact quietly

/-- A session is opened, two characters are read, and one that arrives while it is closed comes with the error. -/
theorem console_output_accounted_closing :
    let plus : V2State :=
      ⟨⟨0x5678, by decide⟩, ⟨1, by decide⟩, ⟨0x1234, by decide⟩, none, ⟨[], none, .empty⟩, .default, none⟩
    let backend : Backend := ⟨.recorded [] [] [], true⟩
    let digests : Digests := ⟨fun _ => .replicate 16 0, none⟩
    let sending : Sending := ⟨false, 0, none, true⟩
    let turn (ty sequence : UInt8) (payload : List UInt8) : Turn :=
      ⟨0, 0, sending, ⟨[[6, 0, 0xff, 7, 6, ty, 0x34, 0x12, 0, 0, sequence, 0, 0, 0, UInt8.ofNat payload.length, 0] ++
        payload], .timeout⟩, sending⟩
    let met (turns : List Turn) : Conditions := ⟨1000, sending, sending, turns⟩
    let activated : List UInt8 := [0x81, 0x1c, 0x63, 0x20, 0, 0x48, 0, 0, 0, 0, 0, 32, 0, 32, 0, 0x6f, 2, 0, 0, 0xe7]
    let inst : SolInstance := ⟨1, by decide⟩
    let start : Logged := idle ⟨some (.v2_0 plus), []⟩ false inst
    let calls : List SolCall := [
      .openSol inst ⟨met [turn 0 1 activated], met []⟩,
      .readUntil 8 1000 ⟨false, 1000, [turn 1 2 [1, 0, 0, 0, 0x68, 0x69]], met []⟩,
      .close (met [turn 1 3 [2, 0, 0, 0, 0x21], turn 0 4 [0x81, 0x1c, 0x63, 0x20, 4, 0x49, 0, 0x93]])]
    (moves (step digests backend 623) start calls).map (fun m => m.out) =
      [.ok [], .ok [0x68, 0x69],
        .error (.error (.interrupted ⟨.closedWithBufferedOutput, 0, false, true, false, [0x21]⟩))] ∧
    (moves (step digests backend 623) start calls).flatMap (fun m => handedBy m.out) ++
        queued (after (step digests backend 623) start calls) =
      takenOutput (after (step digests backend 623) start calls).2 := by
  intro plus backend digests sending turn met activated inst start calls
  refine ⟨by decide +kernel, ?_⟩
  refine (console_output_accounted digests backend 623 ⟨some (.v2_0 plus), []⟩ rfl false inst calls ?_).1
  simp only [calls, moves_cons, moves_nil, List.mem_cons, List.not_mem_nil, or_false]
  rintro m (rfl | rfl | rfl)
  · exact rfl
  · exact trivial
  · exact trivial

end IpmiRs.Rmcp.Sol
