import IpmiRs.Rmcp.HandshakeAuthenticity

/-! What leaves in a handshake, however it ends. The console sends a digest of
the password only to a BMC that has sent it one, and a BMC that sent another one
learns no more than that it was rejected. -/
namespace IpmiRs.Rmcp
open App.Auth Connection Library Library.Stateful

/-- The requests of the first two rounds. -/
def requestDatagram (met : HandshakeConditions) (privilegeLevel : Option PrivilegeLevel) (suite : CipherSuite) :
    List UInt8 :=
  handshakeDatagram .rmcpPlusOpenSessionRequest
    (openSessionRequest privilegeLevel met.consoleSessionId suite).writeData

def ManagedSystem.rakp1Datagram (bmc : ManagedSystem) (met : HandshakeConditions) (username : Username) :
    List UInt8 :=
  handshakeDatagram .rakpMessage1 (bmc.rakp1 met username).write

def ManagedSystem.rakp3Datagram (bmc : ManagedSystem) (contents : RakpMessage3Contents) : List UInt8 :=
  handshakeDatagram .rakpMessage3 (bmc.rakp3 contents).write

/-- How far a handshake gets, and what it has sent by then. -/
inductive HandshakeReached (provider : CryptoProvider) (met : HandshakeConditions)
    (privilegeLevel : Option PrivilegeLevel) (username : Username) (password : List UInt8)
    (kg : Option (List UInt8)) (suite : CipherSuite) :
    Except V2ActivationError V2State → List (List UInt8) → Prop where
  | start : HandshakeReached provider met privilegeLevel username password kg suite (.error error) []
  | requested : HandshakeReached provider met privilegeLevel username password kg suite (.error error)
      [requestDatagram met privilegeLevel suite]
  | opened (bmc : ManagedSystem) (opened : bmc.Opened met suite privilegeLevel) :
      HandshakeReached provider met privilegeLevel username password kg suite (.error error)
        [requestDatagram met privilegeLevel suite, bmc.rakp1Datagram met username]
  | rejected (bmc : ManagedSystem) (opened : bmc.Opened met suite privilegeLevel)
      (unknown : ∀ hash, ¬bmc.Knows met username suite provider password hash) :
      HandshakeReached provider met privilegeLevel username password kg suite (.error .serverAuthenticationFailed)
        [requestDatagram met privilegeLevel suite, bmc.rakp1Datagram met username,
          bmc.rakp3Datagram (.failure .invalidIntegrityCheckValue)]
  | proven (bmc : ManagedSystem) (hash : HashAlgorithm) (opened : bmc.Opened met suite privilegeLevel)
      (knows : bmc.Knows met username suite provider password hash)
      (derives : bmc.Derives met username provider password kg hash keys proof) :
      HandshakeReached provider met privilegeLevel username password kg suite result
        [requestDatagram met privilegeLevel suite, bmc.rakp1Datagram met username,
          bmc.rakp3Datagram (.success proof)]

section stages
variable {provider : CryptoProvider} {met : HandshakeConditions} {privilegeLevel : Option PrivilegeLevel}
  {username : Username} {suite : CipherSuite} {log : List (List UInt8)}

/-- The message of a round is sent, or nothing is. -/
theorem sendRound_ends {ty : PayloadType} {payload : List UInt8} {deadline : Instant} {sending : Sending}
    {failed : V2WriteError → V2ActivationError} :
    Ends (sendRound provider ty payload deadline sending failed) log
      (fun _ sent => sent = log ++ [handshakeDatagram ty payload]) (fun _ sent => sent = log) := by
  refine Ends.ofExcept_bind (fun _ _ => rfl) ?_
  intro datagram goes
  obtain ⟨-, -, rfl⟩ := sendHandshake_eq_ok.mp (mapError_eq_ok.mp goes)
  exact Ends.modify rfl

theorem openSession_ends :
    Ends (openSession provider met privilegeLevel suite) log
      (fun response sent => sent = log ++ [requestDatagram met privilegeLevel suite] ∧
        ∃ bmc : ManagedSystem, bmc.Opened met suite privilegeLevel ∧ response = bmc.response met suite)
      (fun _ sent => sent = log ∨ sent = log ++ [requestDatagram met privilegeLevel suite]) := by
  apply Ends.of_returns
  · intro response sent opens
    obtain ⟨-, sends, opened⟩ := openSession_eq_ok.mp opens
    exact ⟨sends, opened⟩
  · refine Ends.bind sendRound_ends (fun _ _ => .inl) ?_
    rintro _ sent rfl
    refine Ends.ofExcept_bind (fun _ _ => .inr rfl) fun payload _ => ?_
    refine Ends.ofExcept_bind (fun _ _ => .inr rfl) fun response _ => ?_
    exact Ends.ofExcept_bind (fun _ _ => .inr rfl) fun _ _ => Ends.pure trivial

theorem exchangeRandom_ends {bmc : ManagedSystem} :
    Ends (exchangeRandom provider met (bmc.response met suite) (bmc.rakp1 met username)) log
      (fun rm2 sent => sent = log ++ [bmc.rakp1Datagram met username] ∧
        ∃ random guid code body, rm2 = { bmc with random, guid : ManagedSystem }.rakp2 met code ∧
          rm2.Carried body ∧ met.rakp2.Bring .rakpMessage2 body)
      (fun _ sent => sent = log ∨ sent = log ++ [bmc.rakp1Datagram met username]) := by
  apply Ends.of_returns
  · intro rm2 sent exchanges
    obtain ⟨-, sends, random, guid, code, body, same, -, carried, brought⟩ := exchangeRandom_eq_ok.mp exchanges
    exact ⟨sends, random, guid, code, body, same, carried, brought⟩
  · refine Ends.bind sendRound_ends (fun _ _ => .inl) ?_
    rintro _ sent rfl
    refine Ends.ofExcept_bind (fun _ _ => .inr rfl) fun payload _ => ?_
    refine Ends.ofExcept_bind (fun _ _ => .inr rfl) fun rm2 _ => ?_
    refine Ends.ofExcept_bind (fun _ _ => .inr rfl) fun _ _ => ?_
    by_cases long : rm2.keyExchangeAuthCode.length ≠
        requiredKexAuthCodeLen (bmc.response met suite).authenticationPayload
    · rw [if_pos long]
      exact Ends.throw (.inr rfl)
    · rw [if_neg long]
      exact Ends.pure trivial

/-- One payload arrives first. -/
theorem Arrivals.Bring.unique {arrivals : Arrivals} {ty : PayloadType} {first second : List UInt8}
    (brings : arrivals.Bring ty first) (also : arrivals.Bring ty second) : first = second := by
  have same : handshakePacket ty first = handshakePacket ty second :=
    Except.ok.inj (brings.2.symm.trans also.2)
  exact congrArg (List.drop 12) same

/-- A BMC that knows the password is not rejected. -/
theorem calculateRakp3Data_ne_none {bmc : ManagedSystem} {password code : List UInt8} {kg : Option (List UInt8)}
    {hash : HashAlgorithm} {state : CryptoState} (implemented : suiteHash suite = some hash)
    (expects : provider.hmac hash password (bmc.exchanged met username) = .ok code)
    (length : code.length = hash.digestLen) :
    (CryptoState.newWithProvider kg password).calculateRakp3Data provider (bmc.response met suite)
      (bmc.rakp1 met username) (bmc.rakp2 met code) ≠ .ok (none, state) := by
  intro calculated
  unfold CryptoState.calculateRakp3Data at calculated
  rw [hashOf_response, implemented] at calculated
  obtain ⟨expected, expects', calculated⟩ := Checked.of_bind_eq_ok calculated
  obtain rfl : code = expected := Except.ok.inj (expects.symm.trans expects')
  split at calculated
  · rename_i refused
    exact absurd ⟨length, rfl⟩ (not_and_or.mpr refused)
  · obtain ⟨_, -, calculated⟩ := Checked.of_bind_eq_ok calculated
    obtain ⟨_, -, calculated⟩ := Checked.of_bind_eq_ok calculated
    obtain ⟨_, -, calculated⟩ := Checked.of_bind_eq_ok calculated
    cases (Prod.mk.inj (Except.ok.inj calculated)).1

theorem awaitConfirmation_ends {response : OpenSessionResponse} {rm1 : RakpMessage1} {rm2 : RakpMessage2}
    {rm3 : RakpMessage3} {state : CryptoState} :
    Ends (awaitConfirmation provider met response rm1 rm2 rm3 state) log (fun _ sent => sent = log)
      (fun _ sent => sent = log) := by
  refine Ends.ofExcept_bind (fun _ _ => rfl) fun payload _ => ?_
  refine Ends.ofExcept_bind (fun _ _ => rfl) fun rm4 _ => ?_
  refine Ends.ofExcept_bind (fun _ _ => rfl) fun _ _ => ?_
  refine Ends.ofExcept_bind (fun _ _ => rfl) fun _ _ => ?_
  refine Ends.ofExcept_bind (fun _ _ => rfl) fun verified _ => ?_
  cases verified with
  | true => exact Ends.pure rfl
  | false => exact Ends.throw rfl

/-- A proof leaves only for a BMC that knows the password. -/
theorem confirmKeys_ends {bmc : ManagedSystem} {password code body : List UInt8} {kg : Option (List UInt8)}
    (carried : (bmc.rakp2 met code).Carried body) (brought : met.rakp2.Bring .rakpMessage2 body) :
    Ends (confirmKeys provider met (bmc.response met suite) (bmc.rakp1 met username) (bmc.rakp2 met code)
        (.newWithProvider kg password)) log
      (fun _ sent => ∃ hash keys proof, bmc.Knows met username suite provider password hash ∧
        bmc.Derives met username provider password kg hash keys proof ∧
        sent = log ++ [bmc.rakp3Datagram (.success proof)])
      (fun error sent => sent = log ∨
        (error = .serverAuthenticationFailed ∧
          sent = log ++ [bmc.rakp3Datagram (.failure .invalidIntegrityCheckValue)] ∧
          ∀ hash, ¬bmc.Knows met username suite provider password hash) ∨
        ∃ hash keys proof, bmc.Knows met username suite provider password hash ∧
          bmc.Derives met username provider password kg hash keys proof ∧
          sent = log ++ [bmc.rakp3Datagram (.success proof)]) := by
  refine Ends.ofExcept_bind (fun _ _ => .inl rfl) ?_
  rintro ⟨message3Value, cryptoState⟩ calculated
  rw [mapError_eq_ok] at calculated
  refine Ends.bind sendRound_ends (fun _ _ => .inl) ?_
  rintro _ sent rfl
  cases message3Value with
  | none =>
    refine Ends.throw (.inr (.inl ⟨rfl, rfl, ?_⟩))
    rintro hash ⟨implemented, code', body', expects, length, carried', brought'⟩
    obtain rfl := brought.unique brought'
    have same : bmc.rakp2 met code = bmc.rakp2 met code' :=
      Except.ok.inj ((RakpMessage2.fromData_eq_ok.mpr carried).symm.trans (RakpMessage2.fromData_eq_ok.mpr carried'))
    rw [same] at calculated
    exact calculateRakp3Data_ne_none implemented expects length calculated
  | some proof =>
    obtain ⟨hash, keys, implemented, expects, length, derives, rfl⟩ := calculateRakp3Data_eq_ok.mp calculated
    have knows : bmc.Knows met username suite provider password hash :=
      ⟨implemented, code, body, expects, length, carried, brought⟩
    refine awaitConfirmation_ends.mono ?_ ?_
    · rintro _ sent rfl
      exact ⟨hash, keys, proof, knows, derives, rfl⟩
    · rintro _ sent rfl
      exact .inr (.inr ⟨hash, keys, proof, knows, derives, rfl⟩)

end stages

/-- However a handshake ends, the console has sent a digest of the password only to a BMC that opened the session
as it was asked and answered with the digest that the password gives. A BMC that answered with another one was told
that it is rejected, and nothing else. -/
theorem handshake_discloses (provider : CryptoProvider) (met : HandshakeConditions)
    (privilegeLevel : Option PrivilegeLevel) (username : Username) (password : List UInt8)
    (kg : Option (List UInt8)) (suite : CipherSuite) :
    HandshakeReached provider met privilegeLevel username password kg suite
      ((V2State.activate provider met privilegeLevel username password kg suite).eval []).1
      ((V2State.activate provider met privilegeLevel username password kg suite).eval []).2 := by
  apply Ends.result
  refine Ends.bind openSession_ends ?_ ?_
  · rintro error sent (rfl | rfl)
    · exact .start
    · exact .requested
  rintro response sent ⟨rfl, bmc, opened, rfl⟩
  dsimp only
  rw [bmc.rakp1_eq opened]
  refine Ends.bind exchangeRandom_ends ?_ ?_
  · rintro error sent (rfl | rfl)
    · exact .requested
    · exact .opened bmc opened
  rintro rm2 sent ⟨rfl, random, guid, code, body, rfl, carried, brought⟩
  replace opened := opened.contributing random guid
  have request : bmc.rakp1Datagram met username =
      { bmc with random, guid : ManagedSystem }.rakp1Datagram met username := rfl
  rw [request, ← bmc.response_contributing random guid, ← bmc.rakp1_contributing random guid]
  clear request
  generalize { bmc with random, guid : ManagedSystem } = bmc at *
  refine Ends.bind (confirmKeys_ends carried brought) ?_ ?_
  · rintro error sent (rfl | ⟨rfl, rfl, unknown⟩ | ⟨hash, keys, proof, knows, derives, rfl⟩)
    · exact .opened bmc opened
    · exact .rejected bmc opened unknown
    · exact .proven bmc hash opened knows derives
  · rintro state sent ⟨hash, keys, proof, knows, derives, rfl⟩
    exact Ends.pure (.proven bmc hash opened knows derives)

end IpmiRs.Rmcp
