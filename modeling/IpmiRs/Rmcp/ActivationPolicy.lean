import IpmiRs.Rmcp.Activation
import IpmiRs.Rmcp.CipherSelection
import IpmiRs.Rmcp.Observed
import IpmiRs.Rmcp.Replay

/-! What an activation comes to. A session is the one that was asked for, chosen
from what the host told, or there is none. -/
namespace IpmiRs.Rmcp
open App App.Auth Connection Library Library.Stateful

/-! ### Calls of the IPMI 1.5 state -/

namespace V1State

/-- Calls do not touch what a session is authenticated with. -/
structure Kept (s t : V1State) : Prop where
  sessionId : t.sessionId = s.sessionId
  authType : t.authType = s.authType
  password : t.password = s.password
  activated : t.activated = s.activated

theorem Kept.refl (s : V1State) : Kept s s := ⟨rfl, rfl, rfl, rfl⟩

theorem Kept.trans {s t u : V1State} (first : Kept s t) (second : Kept t u) : Kept s u where
  sessionId := second.sessionId.trans first.sessionId
  authType := second.authType.trans first.authType
  password := second.password.trans first.password
  activated := second.activated.trans first.activated

variable (digests : Digests)

theorem receiveOne_kept (s : V1State) (deadline : Instant) (turn : Turn) (unrelated : Nat) (seen : List UInt32) :
    Kept s (s.receiveOne digests deadline turn unrelated seen).state := by
  have cases := receiveOne_cases digests s deadline turn unrelated seen
  generalize turn.arrivals.recv unrelated = arrived at cases
  generalize s.receiveOne digests deadline turn unrelated seen = intake at cases
  cases cases <;> exact ⟨rfl, rfl, rfl, rfl⟩

theorem obeys_kept : (transport digests).Obeys (fun _ _ _ _ => ([] : List Unit)) (fun _ => Kept) where
  refl := Kept.refl
  trans _ _ _ _ _ first second := first.trans second
  setIpmb _ _ := ⟨rfl, rfl, rfl, rfl⟩
  setLastInbound _ _ := ⟨rfl, rfl, rfl, rfl⟩
  sendPayload s payload deadline sending := by
    obtain ⟨sequence, same⟩ := sendPayload_frame digests s payload deadline sending
    exact same ▸ ⟨rfl, rfl, rfl, rfl⟩
  receiveOne := receiveOne_kept digests

theorem sendRecv_kept (request : Request) (met : Conditions) (s : V1State) :
    Kept s (s.sendRecv digests request met).2 := by
  unfold V1State.sendRecv
  obtain ⟨sequence, ipmbState, sent⟩ := send_frame digests s request met.deadline met.checked met.sending
  generalize s.send digests request met.deadline met.checked met.sending = sending at sent
  obtain ⟨error | datagram, after⟩ := sending
  · cases sent
    exact ⟨rfl, rfl, rfl, rfl⟩
  · cases sent
    refine Kept.trans (t := { s with sessionSequence := sequence, ipmbState }) ⟨rfl, rfl, rfl, rfl⟩ ?_
    exact (obeys_kept digests).recvUntil _ met.turns

end V1State

/-- A call is logged with its reply. -/
theorem v1_5_ends {α β ε : Type} (digests : Digests) (world : List (Exchange RmcpIpmiError) → Conditions)
    (command : IpmiCommand α β) (failed : IpmiError RmcpIpmiError β → ε) (c : V1Connection) :
    Ends (ExceptT.adapt failed ((v1_5 digests world).sendRecv command)) c
      (fun value t => ∃ call, call.request = command.request ∧ command.readReply call.reply = .ok value ∧
        t.calls = c.calls ++ [call] ∧ V1State.Kept c.state t.state)
      (fun _ _ => True) := by
  refine Ends.adapt (Ends.call (fun value read => ?_) fun _ _ => trivial)
  exact ⟨_, rfl, read, rfl, V1State.sendRecv_kept digests command.request (world c.calls) c.state⟩

/-! ### The choice of a suite -/

/-- The calls list records page by page: every page but the last is full. -/
inductive Listed : Nat → List (Exchange RmcpIpmiError) → List UInt8 → Prop where
  | last {index : Nat} {call : Exchange RmcpIpmiError} {page : List UInt8} (within : index ≤ 63)
      (asked : call.request = (cipherSuitePage index within).command.request)
      (told : (cipherSuitePage index within).command.readReply call.reply =
        (.ok page : Except (IpmiError RmcpIpmiError TooMuchData) (List UInt8)))
      (short : page.length < 16) : Listed index [call] page
  | full {index : Nat} {call : Exchange RmcpIpmiError} {page rest : List UInt8}
      {calls : List (Exchange RmcpIpmiError)} (within : index ≤ 63)
      (asked : call.request = (cipherSuitePage index within).command.request)
      (told : (cipherSuitePage index within).command.readReply call.reply =
        (.ok page : Except (IpmiError RmcpIpmiError TooMuchData) (List UInt8)))
      (full : page.length = 16) (later : Listed (index + 1) calls rest) :
      Listed index (call :: calls) (page ++ rest)

/-- The suite that a policy comes to, chosen from the calls that listed the suites. -/
inductive Chosen : Option CipherSuitePolicy → List (Exchange RmcpIpmiError) → CipherSuite → Prop where
  | exact {suite : CipherSuite} (implemented : suite = .id3 ∨ suite = .id17) : Chosen (some (.exact suite)) [] suite
  | bestAvailable {calls : List (Exchange RmcpIpmiError)} {suite : CipherSuite} (records : List CipherRecord)
      (listed : Listed 0 calls (listBytes records)) (honest : ∀ record ∈ records, record.Honest)
      (best : bestOf records = some suite) : Chosen (some .bestAvailable) calls suite
  | default : Chosen none [] .id3

section
variable {digests : Digests} {world : List (Exchange RmcpIpmiError) → Conditions}

/-- A page has at most sixteen bytes. -/
theorem page_length {index : Nat} {within : index ≤ 63} {reply : Except RmcpIpmiError Response} {page : List UInt8}
    (told : (cipherSuitePage index within).command.readReply reply = .ok page) : page.length ≤ 16 := by
  obtain ⟨response, -, -, -, -, parsed⟩ := IpmiCommand.readReply_eq_ok.mp told
  change (if response.data = [] ∨ 17 < response.data.length then _ else _) = _ at parsed
  split at parsed
  · cases parsed
  · rename_i fits
    rw [← Except.ok.inj parsed, List.length_tail]
    omega

theorem cipherSuitePages_ends (left index : Nat) (place : left + index = 63) (records : List UInt8)
    (c : V1Connection) :
    Ends (cipherSuitePages (v1_5 digests world) left index place records) c
      (fun value t => ∃ calls rest, t.calls = c.calls ++ calls ∧ value = records ++ rest ∧ Listed index calls rest)
      (fun _ _ => True) := by
  induction left generalizing index records c with
  | zero =>
    unfold cipherSuitePages
    refine Ends.bind (v1_5_ends digests world _ _ c) (fun _ _ _ => trivial) ?_
    rintro page t ⟨call, asked, told, calls, -⟩
    split
    · rename_i short
      exact Ends.pure ⟨[call], page, calls, rfl, .last (by omega) asked told short⟩
    · exact Ends.throw trivial
  | succ left ih =>
    unfold cipherSuitePages
    refine Ends.bind (v1_5_ends digests world _ _ c) (fun _ _ _ => trivial) ?_
    rintro page t ⟨call, asked, told, calls, -⟩
    split
    · rename_i short
      exact Ends.pure ⟨[call], page, calls, rfl, .last (by omega) asked told short⟩
    · rename_i full
      refine (ih (index + 1) (by omega) (records ++ page) t).mono ?_ fun _ _ _ => trivial
      rintro value u ⟨later, rest, logged, rfl, listed⟩
      have most := page_length told
      refine ⟨call :: later, page ++ rest, ?_, List.append_assoc .., .full (by omega) asked told (by omega) listed⟩
      rw [logged, calls, List.append_assoc]
      rfl

/-- The suite is chosen from what was listed. -/
theorem chooseSuite_ends (policy : Option CipherSuitePolicy) (c : V1Connection)
    (implemented : checkPolicy policy = .ok ()) :
    Ends (chooseSuite digests world policy) c
      (fun suite t => ∃ calls, t.calls = c.calls ++ calls ∧ Chosen policy calls suite) (fun _ _ => True) := by
  match policy with
  | none => exact Ends.pure ⟨[], (List.append_nil _).symm, .default⟩
  | some (.exact suite) =>
    refine Ends.pure ⟨[], (List.append_nil _).symm, .exact ?_⟩
    by_contra other
    rw [checkPolicy, if_neg other] at implemented
    cases implemented
  | some .bestAvailable =>
    refine Ends.adapt ?_
    unfold bestAvailable
    refine Ends.bind (cipherSuitePages_ends 63 0 rfl [] c) (fun _ _ _ => trivial) ?_
    rintro value t ⟨calls, list, logged, same, listed⟩
    obtain rfl : value = list := same
    cases selected : selectBest value with
    | error error => exact Ends.throw trivial
    | ok best =>
      cases best with
      | none => exact Ends.throw trivial
      | some suite =>
        obtain ⟨records, rfl, honest, best⟩ := selectBest_eq_ok.mp selected
        exact Ends.pure ⟨calls, logged, .bestAvailable records listed honest best.symm⟩

end

/-! ### The session -/

/-- What the host told before the session: it answered the ping as one that has
IPMI, and the first call with what the channel can do. -/
structure Discovered (config : SessionConfig) (met : ActivationConditions) (caps : ChannelAuthenticationCapabilities)
    (first : Exchange RmcpIpmiError) : Prop where
  uncancelled : met.cancelled = false
  pong : ∃ datagram, met.pong.recvDatagram = .ok datagram ∧ readPong datagram = .ok ⟨true⟩
  asked : first.request = (GetChannelAuthenticationCapabilities.command ⟨.current, config.privilege⟩).request
  told : (GetChannelAuthenticationCapabilities.command ⟨.current, config.privilege⟩).readReply first.reply =
    (.ok caps : Except (IpmiError RmcpIpmiError NotEnoughData) ChannelAuthenticationCapabilities)

/-- An IPMI 1.5 session was begun with the strongest authentication type of the
channel, in answer to the challenge of the BMC. -/
structure SessionBegun (config : SessionConfig) (caps : ChannelAuthenticationCapabilities)
    (challenging activating : Exchange RmcpIpmiError) (s : V1State) : Prop where
  password : paddedPassword config.password = .ok s.password
  strongest : caps.bestAuth = some s.authType
  answered : ∃ (challenge : SessionChallenge) (info : BeginSessionInfo) (asked : GetSessionChallenge),
    GetSessionChallenge.new .none config.username = some asked ∧
    challenging.request = asked.command.request ∧
    asked.command.readReply challenging.reply =
      (.ok challenge : Except (IpmiError RmcpIpmiError AuthError) SessionChallenge) ∧
    activating.request = (ActivateSession.command
      ⟨s.authType, config.privilege, challenge.challengeString, 0xDEADBEEF⟩).request ∧
    (ActivateSession.command ⟨s.authType, config.privilege, challenge.challengeString, 0xDEADBEEF⟩).readReply
      activating.reply = (.ok info : Except (IpmiError RmcpIpmiError AuthError) BeginSessionInfo) ∧
    s.sessionId = some info.sessionId ∧ s.sessionSequence = info.initialSequenceNumber
  activated : s.activated = true
  fresh : s.lastInboundSequence = none

/-- The session that an activation ends with, and the calls it made before. -/
inductive Established (requireRmcpPlus rmcpPlus : Bool) (policy : Option CipherSuitePolicy) (config : SessionConfig)
    (met : ActivationConditions) : List (Exchange RmcpIpmiError) → Active → Prop where
  /-- RMCP+ was asked for and is supported; the handshake was made with the suite of the policy. -/
  | rmcpPlus {caps : ChannelAuthenticationCapabilities} {first : Exchange RmcpIpmiError}
      {listing : List (Exchange RmcpIpmiError)} {suite : CipherSuite} {username : Username} {s : V2State}
      {sent : List (List UInt8)} (discovered : Discovered config met caps first) (asked : rmcpPlus = true)
      (supported : caps.ipmi2ConnectionsSupported = true) (chosen : Chosen policy listing suite)
      (named : handshakeUsername config.username = .ok username)
      (handshake : (V2State.activate config.backend.provider met.handshake (some config.privilege) username
        (config.password.getD []) config.kg suite).eval [] = (.ok s, sent)) :
      Established requireRmcpPlus rmcpPlus policy config met (first :: listing) (.v2_0 s)
  /-- No suite was asked for, and RMCP+ was not asked for, or is neither supported nor required. -/
  | legacy {caps : ChannelAuthenticationCapabilities} {first challenging activating : Exchange RmcpIpmiError}
      {s : V1State} (discovered : Discovered config met caps first) (free : policy = none)
      (plain : rmcpPlus = true → caps.ipmi2ConnectionsSupported = false ∧ requireRmcpPlus = false)
      (supported : caps.ipmi15ConnectionsSupported = true) (begun : SessionBegun config caps challenging activating s) :
      Established requireRmcpPlus rmcpPlus policy config met [first, challenging, activating] (.v1_5 s)

section
variable (digests : Digests) {config : SessionConfig} {met : ActivationConditions}

/-- An IPMI 1.5 session is begun as the channel and the replies tell. -/
theorem V1State.activate_ends (world : List (Exchange RmcpIpmiError) → Conditions)
    (caps : ChannelAuthenticationCapabilities) (c : V1Connection) :
    Ends (V1State.activate digests world caps config.privilege config.username config.password) c
      (fun session t => ∃ challenging activating, t.calls = c.calls ++ [challenging, activating] ∧
        SessionBegun config caps challenging activating session.1)
      (fun _ _ => True) := by
  unfold V1State.activate
  refine Ends.ofExcept_bind (fun _ _ => trivial) fun password padded => ?_
  refine Ends.modify_bind ?_
  cases named : GetSessionChallenge.new .none config.username with
  | none => exact Ends.throw trivial
  | some asked =>
    refine Ends.bind (v1_5_ends digests world asked.command _ _) (fun _ _ _ => trivial) ?_
    rintro challenge t ⟨challenging, request, told, first, kept⟩
    cases best : caps.bestAuth with
    | none => exact Ends.throw trivial
    | some authType =>
      refine Ends.modify_bind ?_
      refine Ends.bind (v1_5_ends digests world _ _ _) (fun _ _ _ => trivial) ?_
      rintro info u ⟨activating, activates, begun, second, later⟩
      have strongest : u.state.authType = authType := later.authType
      have logged : u.calls = c.calls ++ [challenging, activating] := by
        rw [second]
        change t.calls ++ [activating] = _
        rw [first, List.append_assoc]
        rfl
      refine Ends.get_bind (Ends.pure ⟨challenging, activating, logged, ?_, ?_, ?_, rfl, rfl⟩)
      · change paddedPassword config.password = .ok u.state.password
        rw [later.password]
        change paddedPassword config.password = .ok t.state.password
        rw [kept.password, padded]
      · rw [best]
        exact congrArg some strongest.symm
      · refine ⟨challenge, info, asked, named, request, told, ?_, ?_, rfl, rfl⟩
        · rw [activates, ← strongest]
          rfl
        · rw [← begun, ← strongest]
          rfl

/-- What an activation comes to, once a socket is bound. -/
theorem activateInactive_ends (requireRmcpPlus rmcpPlus : Bool) {policy : Option CipherSuitePolicy}
    (implemented : checkPolicy policy = .ok ()) :
    Ends (activateInactive digests requireRmcpPlus rmcpPlus policy config met) ⟨.new, []⟩
      (fun active t => Established requireRmcpPlus rmcpPlus policy config met t.calls active) (fun _ _ => True) := by
  unfold activateInactive
  split
  · exact Ends.throw trivial
  rename_i uncancelled
  split
  · exact Ends.throw trivial
  refine Ends.ofExcept_bind (fun _ _ => trivial) fun datagram arrived => ?_
  refine Ends.ofExcept_bind (fun _ _ => trivial) fun entities read => ?_
  split
  · exact Ends.throw trivial
  rename_i ipmi
  refine Ends.bind (v1_5_ends digests met.world _ _ _) (fun _ _ _ => trivial) ?_
  rintro caps t ⟨first, asked, told, calls, -⟩
  have discovered : Discovered config met caps first := by
    refine ⟨by simpa using uncancelled, ⟨datagram, mapError_eq_ok.mp arrived, ?_⟩, asked, told⟩
    obtain ⟨known⟩ := entities
    rw [read]
    cases known with
    | true => rfl
    | false => exact absurd rfl ipmi
  split
  · rename_i plus
    rw [Bool.and_eq_true] at plus
    refine Ends.bind (chooseSuite_ends policy t implemented) (fun _ _ _ => trivial) ?_
    rintro suite u ⟨listing, listed, chosen⟩
    refine Ends.ofExcept_bind (fun _ _ => trivial) fun username named => ?_
    refine Ends.ofExcept_bind (fun _ _ => trivial) fun s accepted => Ends.pure ?_
    rw [listed, calls]
    exact .rmcpPlus discovered plus.2 plus.1 chosen named (Prod.ext (mapError_eq_ok.mp accepted) rfl)
  rename_i plain
  split
  · exact Ends.throw trivial
  rename_i free
  split
  · rename_i supported
    split
    · exact Ends.throw trivial
    rename_i optional
    refine Ends.bind (Ends.adapt (E := fun _ _ => True) (V1State.activate_ends digests met.world caps t)) (fun _ _ _ => trivial) ?_
    rintro ⟨s, info⟩ u ⟨challenging, activating, logged, begun⟩
    refine Ends.pure ?_
    rw [logged, calls]
    refine .legacy discovered (by simpa using free) ?_ supported begun
    rintro rfl
    exact ⟨by simpa using plain, by simpa using optional⟩
  · exact Ends.throw trivial

end

/-- The calls that an activation makes before the session. -/
def activationCalls (digests : Digests) (requireRmcpPlus rmcpPlus : Bool) (policy : Option CipherSuitePolicy)
    (config : SessionConfig) (met : ActivationConditions) : List (Exchange RmcpIpmiError) :=
  ((activateInactive digests requireRmcpPlus rmcpPlus policy config met).eval ⟨.new, []⟩).2.calls

theorem ensureAvailable_eq_error {backend : Backend} {error : CryptoBackendError} :
    backend.ensureAvailable = .error error ↔ backend.available = false ∧ error = .unavailable := by
  unfold Backend.ensureAvailable
  cases backend.available with
  | true => simp
  | false => simp [eq_comm]

/-- An activation leaves the session that it comes to once a socket is bound. One that fails leaves none, or has
refused a suite or backend before it touched the connection. -/
theorem activateWithSelection_ends (digests : Digests) (requireRmcpPlus rmcpPlus : Bool)
    {policy : Option CipherSuitePolicy} {config : SessionConfig} {met : ActivationConditions} {c : RmcpConnection}
    {P : Active → V1Connection → Prop} (comes : checkPolicy policy = .ok () →
      Ends (activateInactive digests requireRmcpPlus rmcpPlus policy config met) ⟨.new, []⟩ P (fun _ _ => True)) :
    Ends (activateWithSelection digests requireRmcpPlus rmcpPlus policy config met) c
      (fun _ t => ∃ active, t = { c with active := some active } ∧
        P active ((activateInactive digests requireRmcpPlus rmcpPlus policy config met).eval ⟨.new, []⟩).2 ∧
        ((rmcpPlus || policy.isSome) = true → config.backend.available = true))
      (fun error t =>
        (t = c ∧ ((∃ suite, policy = some (.exact suite) ∧ suite ≠ .id3 ∧ suite ≠ .id17 ∧
            error = .unsupportedCipherSuite suite) ∨
          (rmcpPlus || policy.isSome) = true ∧ config.backend.available = false ∧
            error = .cryptoBackend .unavailable)) ∨
        t = { c with active := none }) := by
  unfold activateWithSelection
  refine Ends.ofExcept_bind ?_ fun _ implemented => ?_
  · intro error refused
    match policy with
    | none => cases refused
    | some .bestAvailable => cases refused
    | some (.exact suite) =>
      by_cases known : suite = .id3 ∨ suite = .id17
      · rw [checkPolicy, if_pos known] at refused
        cases refused
      · rw [checkPolicy, if_neg known] at refused
        rw [not_or] at known
        exact .inl ⟨rfl, .inl ⟨suite, rfl, known.1, known.2, (Except.error.inj refused).symm⟩⟩
  refine Ends.ofExcept_bind ?_ fun _ usable => ?_
  · intro error refused
    unfold checkBackend at refused
    split at refused
    · rename_i asked
      obtain ⟨reason, unavailable, rfl⟩ := mapError_eq_error.mp refused
      obtain ⟨absent, rfl⟩ := ensureAvailable_eq_error.mp unavailable
      exact .inl ⟨rfl, .inr ⟨asked, absent, rfl⟩⟩
    · cases refused
  refine Ends.modify_bind ?_
  split
  · exact Ends.throw (.inr rfl)
  refine Ends.ofExcept_bind (fun _ _ => .inr rfl) fun active activated => Ends.modify ⟨active, rfl, ?_, ?_⟩
  · exact (comes implemented).evaluated.1 active activated
  · intro asked
    unfold checkBackend at usable
    rw [if_pos asked, mapError_eq_ok] at usable
    by_contra absent
    rw [Backend.ensureAvailable, if_neg absent] at usable
    cases usable

/-- An activation that returns has a session of exactly the kind that was asked for: with a policy, RMCP+ with the
suite that the policy comes to; without one, RMCP+ with suite 3 or, unless RMCP+ is supported or required, IPMI 1.5.
One that fails leaves no session, or has refused a suite or backend before it touched the connection. -/
theorem activation_never_downgrades (digests : Digests) (requireRmcpPlus rmcpPlus : Bool)
    (policy : Option CipherSuitePolicy) (config : SessionConfig) (met : ActivationConditions) (c : RmcpConnection) :
    Ends (activateWithSelection digests requireRmcpPlus rmcpPlus policy config met) c
      (fun _ t => ∃ active, t = { c with active := some active } ∧
        Established requireRmcpPlus rmcpPlus policy config met
          (activationCalls digests requireRmcpPlus rmcpPlus policy config met) active ∧
        ((rmcpPlus || policy.isSome) = true → config.backend.available = true))
      (fun error t =>
        (t = c ∧ ((∃ suite, policy = some (.exact suite) ∧ suite ≠ .id3 ∧ suite ≠ .id17 ∧
            error = .unsupportedCipherSuite suite) ∨
          (rmcpPlus || policy.isSome) = true ∧ config.backend.available = false ∧
            error = .cryptoBackend .unavailable)) ∨
        t = { c with active := none }) := by
  exact activateWithSelection_ends digests requireRmcpPlus rmcpPlus fun implemented =>
    activateInactive_ends digests requireRmcpPlus rmcpPlus implemented

end IpmiRs.Rmcp
