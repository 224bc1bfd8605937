import IpmiRs.Rmcp.HandshakeReplies

/-! Whom the RMCP+ handshake accepts. It ends with a session exactly if every
reply is the one of a BMC that knows the password and Kg, and nothing that is
derived from them leaves before the BMC has shown that it knows the password. -/
namespace IpmiRs.Rmcp
open App.Auth Connection Library Library.Bytes Library.Stateful

/-- The hash of the suites that are implemented. -/
def suiteHash : CipherSuite → Option HashAlgorithm
  | .id3 => some .sha1
  | .id17 => some .sha256
  | _ => none

/-- What a BMC contributes to a handshake. -/
structure ManagedSystem where
  granted : PrivilegeLevel
  sessionId : NonZeroU32
  random : Bytes16
  guid : Bytes16

namespace ManagedSystem
variable (bmc : ManagedSystem) (met : HandshakeConditions) (username : Username) (suite : CipherSuite)

/-- Its reply to the request to open a session. -/
def response : OpenSessionResponse where
  messageTag := 0
  maximumPrivilegeLevel := bmc.granted
  remoteConsoleSessionId := met.consoleSessionId
  managedSystemSessionId := bmc.sessionId
  authenticationPayload := suite.authentication
  integrityPayload := suite.integrity
  confidentialityPayload := suite.confidentiality

/-- What the console sends it of its own. -/
def rakp1 : RakpMessage1 where
  messageTag := 0x0D
  managedSystemSessionId := bmc.sessionId
  remoteConsoleRandomNumber := met.random
  requestedMaximumPrivilegeLevel := bmc.granted
  username

/-- Its own random number, with a code. -/
def rakp2 (code : List UInt8) : RakpMessage2 where
  messageTag := 0x0D
  remoteConsoleSessionId := met.consoleSessionId
  managedSystemRandomNumber := bmc.random
  managedSystemGuid := bmc.guid
  keyExchangeAuthCode := code

def rakp3 (contents : RakpMessage3Contents) : RakpMessage3 where
  messageTag := 0x0A
  managedSystemSessionId := bmc.sessionId
  contents

/-- Its confirmation of the keys. -/
def rakp4 (value : List UInt8) : RakpMessage4 where
  messageTag := 0x0A
  managedSystemSessionId := met.consoleSessionId
  integrityCheckValue := value

/-- The role that both sides authenticate. -/
def role : List UInt8 := [bmc.granted.toByte, username.len]

/-- What its key exchange code is the digest of. -/
def exchanged : List (List UInt8) :=
  [toLe 4 met.consoleSessionId.1.toNat, toLe 4 bmc.sessionId.1.toNat, met.random.1, bmc.random.1, bmc.guid.1,
    bmc.role username, username.bytes]

/-- What the session integrity key is the digest of. -/
def keyed : List (List UInt8) := [met.random.1, bmc.random.1, bmc.role username, username.bytes]

/-- What the proof of the console is the digest of. -/
def proven : List (List UInt8) :=
  [bmc.random.1, toLe 4 met.consoleSessionId.1.toNat, bmc.role username, username.bytes]

/-- What its confirmation is the digest of. -/
def confirmed : List (List UInt8) := [met.random.1, toLe 4 bmc.sessionId.1.toNat, bmc.guid.1]

/-- It opened a session with the suite and privilege that were asked for. -/
structure Opened (privilegeLevel : Option PrivilegeLevel) : Prop where
  privilege : ∀ asked, privilegeLevel = some asked → bmc.granted = asked
  reply : ∃ body, (bmc.response met suite).Carried body ∧
    met.openSession.Bring .rmcpPlusOpenSessionResponse body

/-- It answered with a code that takes the password. -/
structure Knows (provider : CryptoProvider) (password : List UInt8) (hash : HashAlgorithm) : Prop where
  suite : suiteHash suite = some hash
  reply : ∃ code body, provider.hmac hash password (bmc.exchanged met username) = .ok code ∧
    code.length = hash.digestLen ∧ (bmc.rakp2 met code).Carried body ∧ met.rakp2.Bring .rakpMessage2 body

/-- The keys that the console derives, and its proof. -/
structure Derives (provider : CryptoProvider) (password : List UInt8) (kg : Option (List UInt8))
    (hash : HashAlgorithm) (keys : Keys) (proof : List UInt8) : Prop where
  sik : provider.hmac hash (kg.getD password) (bmc.keyed met username) = .ok keys.sik
  proof : provider.hmac hash password (bmc.proven met username) = .ok proof
  keys : Keys.derive provider hash keys.sik = .ok keys

/-- It confirmed the keys. -/
structure Confirms (provider : CryptoProvider) (hash : HashAlgorithm) (keys : Keys) : Prop where
  nonempty : keys.sik ≠ []
  reply : ∃ digest body, provider.hmac hash keys.sik (bmc.confirmed met) = .ok digest ∧
    CryptoState.checkLen hash ≤ digest.length ∧
    (rakp4 met (digest.take (CryptoState.checkLen hash))).Carried body ∧ met.rakp4.Bring .rakpMessage4 body

/-- The session that is entered. -/
def session (kg : Option (List UInt8)) (keys : Keys) : V2State where
  sessionId := bmc.sessionId
  sessionSequenceNumber := firstSequence
  consoleSessionId := met.consoleSessionId
  lastInboundSequence := none
  state := {
    password := []
    kg := kg.map fun _ => []
    state := {
      keys
      confidentialityAlgorithm := suite.confidentiality
      integrityAlgorithm := suite.integrity } }
  ipmbState := .default
  sol := none

end ManagedSystem

/-- The datagram of a message of the handshake. -/
def handshakeDatagram (ty : PayloadType) (payload : List UInt8) : List UInt8 :=
  RmcpHeader.newIpmi.bytes ++ handshakePacket ty payload

/-! ### The rounds -/

section rounds
variable {provider : CryptoProvider} {met : HandshakeConditions} {privilegeLevel : Option PrivilegeLevel}
  {username : Username} {suite : CipherSuite} {log log' : List (List UInt8)}

theorem sendRound_eq_ok {ty : PayloadType} {payload : List UInt8} {deadline : Instant} {sending : Sending}
    {failed : V2WriteError → V2ActivationError} {done : PUnit} :
    (sendRound provider ty payload deadline sending failed).eval log = (.ok done, log') ↔
      sending.Goes deadline ∧ payload.length ≤ 0xFFFF ∧ log' = log ++ [handshakeDatagram ty payload] := by
  unfold sendRound
  simp only [eval_bind_eq_ok, eval_ofExcept_eq_ok, mapError_eq_ok, sendHandshake_eq_ok, eval_modify_eq_ok]
  constructor
  · rintro ⟨datagram, between, ⟨⟨goes, fits, rfl⟩, rfl⟩, rfl⟩
    exact ⟨goes, fits, rfl⟩
  · rintro ⟨goes, fits, rfl⟩
    exact ⟨_, log, ⟨⟨goes, fits, rfl⟩, rfl⟩, rfl⟩

theorem validateOpenSession_eq_ok {req : OpenSessionRequest} {resp : OpenSessionResponse} {done : Unit} :
    validateOpenSession req resp = .ok done ↔
      resp.messageTag = req.messageTag ∧ resp.remoteConsoleSessionId = req.remoteConsoleSessionId ∧
        (∀ asked, req.requestedMaxPrivilege = some asked → resp.maximumPrivilegeLevel = asked) ∧
        resp.authenticationPayload = req.authenticationAlgorithms ∧
        resp.integrityPayload = req.integrityAlgorithms ∧
        resp.confidentialityPayload = req.confidentialityAlgorithms := by
  constructor
  · intro valid
    unfold validateOpenSession at valid
    dsimp only at valid
    split at valid
    · cases valid
    rename_i tag
    split at valid
    · cases valid
    rename_i console
    split at valid
    · cases valid
    rename_i privilege
    split at valid
    · cases valid
    split at valid
    · cases valid
    rename_i authentication
    split at valid
    · cases valid
    rename_i integrity
    split at valid
    · cases valid
    rename_i confidentiality
    rw [not_not] at tag console authentication integrity confidentiality
    refine ⟨tag, console, ?_, authentication, integrity, confidentiality⟩
    intro asked requested
    by_contra other
    exact privilege (by simpa [requested] using fun same => other same.symm)
  · rintro ⟨tag, console, privilege, authentication, integrity, confidentiality⟩
    have granted : ¬req.requestedMaxPrivilege.any (· ≠ resp.maximumPrivilegeLevel) = true := by
      cases asked : req.requestedMaxPrivilege with
      | none => simp
      | some level => simp [privilege level asked]
    unfold validateOpenSession
    dsimp only
    rw [if_neg (not_not.mpr tag), if_neg (not_not.mpr console), if_neg granted, authentication, integrity,
      confidentiality]
    simp

/-- A session is opened by a BMC that grants what was asked for. -/
theorem openSession_eq_ok {response : OpenSessionResponse} :
    (openSession provider met privilegeLevel suite).eval log = (.ok response, log') ↔
      met.requestSending.Goes met.deadline ∧
        log' = log ++ [handshakeDatagram .rmcpPlusOpenSessionRequest
          (openSessionRequest privilegeLevel met.consoleSessionId suite).writeData] ∧
        ∃ bmc : ManagedSystem, bmc.Opened met suite privilegeLevel ∧ response = bmc.response met suite := by
  unfold openSession
  simp only [eval_bind_eq_ok, eval_ofExcept_eq_ok, mapError_eq_ok, sendRound_eq_ok, handshakeReply_eq_ok,
    OpenSessionResponse.fromData_eq_ok, validateOpenSession_eq_ok, eval_pure_eq_ok]
  constructor
  · rintro ⟨_, _, ⟨goes, -, rfl⟩, body, _, ⟨brought, rfl⟩, response', _, ⟨carried, rfl⟩, _, _,
      ⟨⟨tag, console, privilege, authentication, integrity, confidentiality⟩, rfl⟩, rfl, rfl⟩
    obtain ⟨messageTag, granted, consoleId, sessionId, first, second, third⟩ := response'
    obtain rfl : messageTag = 0 := tag
    obtain rfl : consoleId = met.consoleSessionId := console
    obtain rfl : first = suite.authentication := authentication
    obtain rfl : second = suite.integrity := integrity
    obtain rfl : third = suite.confidentiality := confidentiality
    exact ⟨goes, rfl, ⟨granted, sessionId, met.random, met.random⟩, ⟨privilege, body, carried, brought⟩, rfl⟩
  · rintro ⟨goes, rfl, bmc, ⟨privilege, body, carried, brought⟩, rfl⟩
    refine ⟨⟨⟩, _, ⟨goes, ?_, rfl⟩, body, _, ⟨brought, rfl⟩, _, _, ⟨carried, rfl⟩, ⟨⟩, _,
      ⟨⟨rfl, rfl, privilege, rfl, rfl, rfl⟩, rfl⟩, rfl, rfl⟩
    simp [OpenSessionRequest.writeData, AlgorithmPayload.write]

theorem validateRm1Rm2_eq_ok {console : NonZeroU32} {rm1 : RakpMessage1} {rm2 : RakpMessage2} {done : Unit} :
    validateRm1Rm2 console rm1 rm2 = .ok done ↔
      rm2.messageTag = rm1.messageTag ∧ rm2.remoteConsoleSessionId = console := by
  unfold validateRm1Rm2
  by_cases tag : rm1.messageTag = rm2.messageTag
  · by_cases same : console = rm2.remoteConsoleSessionId
    · simp [tag, same]
    · simp [tag, same, Ne.symm same]
  · simp [tag, Ne.symm tag]

theorem validateRm3Rm4_eq_ok {console : NonZeroU32} {rm3 : RakpMessage3} {rm4 : RakpMessage4} {done : Unit} :
    validateRm3Rm4 console rm3 rm4 = .ok done ↔
      rm4.messageTag = rm3.messageTag ∧ rm4.managedSystemSessionId = console := by
  unfold validateRm3Rm4
  by_cases tag : rm3.messageTag = rm4.messageTag
  · by_cases same : rm4.managedSystemSessionId = console
    · simp [tag, same]
    · simp [tag, same]
  · simp [tag, Ne.symm tag]

/-- The BMC contributes a random number and its GUID, with a code of the right length. -/
theorem exchangeRandom_eq_ok {bmc : ManagedSystem} {rm2 : RakpMessage2} :
    (exchangeRandom provider met (bmc.response met suite) (bmc.rakp1 met username)).eval log = (.ok rm2, log') ↔
      met.rakp1Sending.Goes met.deadline ∧
        log' = log ++ [handshakeDatagram .rakpMessage1 (bmc.rakp1 met username).write] ∧
        ∃ random guid code body, rm2 = { bmc with random, guid : ManagedSystem }.rakp2 met code ∧
          code.length = requiredKexAuthCodeLen suite.authentication ∧
          rm2.Carried body ∧ met.rakp2.Bring .rakpMessage2 body := by
  have short : (bmc.rakp1 met username).write.length ≤ 0xFFFF := by
    have name := username.short
    have number := met.random.2
    simp only [RakpMessage1.write, ManagedSystem.rakp1, List.length_append, length_toLe, List.length_cons,
      List.length_nil]
    omega
  unfold exchangeRandom
  simp only [eval_bind_eq_ok, eval_ofExcept_eq_ok, mapError_eq_ok, sendRound_eq_ok, handshakeReply_eq_ok,
    RakpMessage2.fromData_eq_ok, validateRm1Rm2_eq_ok]
  constructor
  · rintro ⟨_, _, ⟨goes, -, rfl⟩, body, _, ⟨brought, rfl⟩, read, _, ⟨carried, rfl⟩, _, _,
      ⟨⟨tag, console⟩, rfl⟩, returned⟩
    split at returned
    · exact absurd returned eval_throw_ne_ok
    · rename_i length
      obtain ⟨rfl, rfl⟩ := eval_pure_eq_ok.mp returned
      obtain ⟨messageTag, consoleId, random, guid, code⟩ := read
      obtain rfl : messageTag = 0x0D := tag
      obtain rfl : consoleId = met.consoleSessionId := console
      exact ⟨goes, rfl, random, guid, code, body, rfl, not_not.mp length, carried, brought⟩
  · rintro ⟨goes, rfl, random, guid, code, body, rfl, length, carried, brought⟩
    refine ⟨⟨⟩, _, ⟨goes, short, rfl⟩, body, _, ⟨brought, rfl⟩, _, _, ⟨carried, rfl⟩, ⟨⟩, _, ⟨⟨rfl, rfl⟩, rfl⟩, ?_⟩
    split
    · rename_i other
      exact absurd length other
    · exact eval_pure_eq_ok.mpr ⟨rfl, rfl⟩

/-- The hash is that of the suite. -/
theorem hashOf_response (bmc : ManagedSystem) : CryptoState.hashOf (bmc.response met suite) = suiteHash suite := by
  cases suite <;> rfl

theorem derive_ok {hash : HashAlgorithm} {sik : List UInt8} {keys : Keys}
    (derived : Keys.derive provider hash sik = .ok keys) : keys.sik = sik ∧ keys.hash = hash := by
  obtain ⟨_, -, derived⟩ := Checked.of_bind_eq_ok derived
  obtain ⟨_, -, derived⟩ := Checked.of_bind_eq_ok derived
  obtain ⟨_, -, derived⟩ := Checked.of_bind_eq_ok derived
  cases Except.ok.inj derived
  exact ⟨rfl, rfl⟩

/-- What the keys protect once the credentials are wiped. -/
def wiped (kg : Option (List UInt8)) (suite : CipherSuite) (keys : Keys) : CryptoState where
  password := []
  kg := kg.map fun _ => []
  state := {
    keys
    confidentialityAlgorithm := suite.confidentiality
    integrityAlgorithm := suite.integrity }

/-- The console has a proof only for a code that takes the password. -/
theorem calculateRakp3Data_eq_ok {bmc : ManagedSystem} {password code : List UInt8} {kg : Option (List UInt8)}
    {proof : List UInt8} {state : CryptoState} :
    (CryptoState.newWithProvider kg password).calculateRakp3Data provider (bmc.response met suite)
        (bmc.rakp1 met username) (bmc.rakp2 met code) = .ok (some proof, state) ↔
      ∃ hash keys, suiteHash suite = some hash ∧
        provider.hmac hash password (bmc.exchanged met username) = .ok code ∧ code.length = hash.digestLen ∧
        bmc.Derives met username provider password kg hash keys proof ∧ state = wiped kg suite keys := by
  unfold CryptoState.calculateRakp3Data
  rw [hashOf_response]
  constructor
  · intro calculated
    split at calculated
    · cases (Prod.mk.inj (Except.ok.inj calculated)).1
    · rename_i hash implemented
      obtain ⟨expected, expects, calculated⟩ := Checked.of_bind_eq_ok calculated
      split at calculated
      · cases (Prod.mk.inj (Except.ok.inj calculated)).1
      · rename_i accepted
        rw [not_or, not_not, not_not] at accepted
        obtain ⟨length, rfl⟩ := accepted
        obtain ⟨sik, keyed, calculated⟩ := Checked.of_bind_eq_ok calculated
        obtain ⟨output, proves, calculated⟩ := Checked.of_bind_eq_ok calculated
        obtain ⟨keys, derived, calculated⟩ := Checked.of_bind_eq_ok calculated
        obtain ⟨made, rfl⟩ := Prod.mk.inj (Except.ok.inj calculated)
        obtain rfl := Option.some.inj made
        obtain ⟨rfl, -⟩ := derive_ok derived
        exact ⟨hash, keys, implemented, expects, length, ⟨keyed, proves, derived⟩, rfl⟩
  · rintro ⟨hash, keys, implemented, expects, length, ⟨keyed, proves, derived⟩, rfl⟩
    rw [implemented]
    refine Checked.bind_eq_ok.mpr ⟨code, expects, ?_⟩
    split
    · rename_i refused
      exact absurd ⟨length, rfl⟩ (not_and_or.mpr refused)
    · refine Checked.bind_eq_ok.mpr ⟨keys.sik, keyed, Checked.bind_eq_ok.mpr ⟨proof, proves, ?_⟩⟩
      exact Checked.bind_eq_ok.mpr ⟨keys, derived, rfl⟩

/-- What is taken for a confirmation of the keys. -/
theorem verify_eq_ok {bmc : ManagedSystem} {hash : HashAlgorithm} {kg : Option (List UInt8)} {keys : Keys}
    {value : List UInt8} (implemented : suiteHash suite = some hash) (own : keys.hash = hash) :
    (wiped kg suite keys).verify provider suite.authentication met.random bmc.sessionId.1 bmc.guid value = .ok true ↔
      keys.sik ≠ [] ∧ ∃ digest, provider.hmac hash keys.sik (bmc.confirmed met) = .ok digest ∧
        CryptoState.checkLen hash ≤ digest.length ∧ value = digest.take (CryptoState.checkLen hash) := by
  have checked : (wiped kg suite keys).verify provider suite.authentication met.random bmc.sessionId.1 bmc.guid value =
      if hash ≠ keys.hash ∨ keys.sik = [] then .ok false
      else do
        let integrity ← provider.hmac hash keys.sik (bmc.confirmed met)
        return value.length = CryptoState.checkLen hash ∧ value = integrity.take (CryptoState.checkLen hash) := by
    cases suite <;> cases implemented <;> rfl
  rw [checked]
  by_cases none : keys.sik = []
  · rw [if_pos (.inr none)]
    exact iff_of_false (fun same => by cases same) fun nonempty => nonempty.1 none
  · rw [if_neg (by simp [own, none]), Checked.bind_eq_ok]
    constructor
    · rintro ⟨digest, made, confirmed⟩
      obtain ⟨length, same⟩ := of_decide_eq_true (Except.ok.inj confirmed)
      refine ⟨none, digest, made, ?_, same⟩
      rw [same, List.length_take] at length
      omega
    · rintro ⟨-, digest, made, enough, rfl⟩
      refine ⟨digest, made, congrArg Except.ok (decide_eq_true ⟨?_, rfl⟩)⟩
      rw [List.length_take]
      omega

theorem validateRakp4MacLen_eq_ok {hash : HashAlgorithm} (implemented : suiteHash suite = some hash)
    {length : Nat} {done : Unit} :
    validateRakp4MacLen suite.authentication length = .ok done ↔ length = CryptoState.checkLen hash := by
  have own : validateRakp4MacLen suite.authentication length =
      if length ≠ CryptoState.checkLen hash then
        .error (.invalidRakpMessage4IntegrityCheckValueLen length suite.authentication)
      else .ok () := by
    cases suite <;> cases implemented <;> rfl
  rw [own]
  by_cases same : length = CryptoState.checkLen hash
  · rw [if_neg (not_not.mpr same)]
    exact iff_of_true rfl same
  · rw [if_pos same]
    exact iff_of_false (fun passed => by cases passed) same

/-- The keys are confirmed by a BMC that has them. -/
theorem awaitConfirmation_eq_ok {bmc : ManagedSystem} {hash : HashAlgorithm} {code proof : List UInt8}
    {kg : Option (List UInt8)} {keys : Keys} {state : CryptoState} (implemented : suiteHash suite = some hash)
    (own : keys.hash = hash) :
    (awaitConfirmation provider met (bmc.response met suite) (bmc.rakp1 met username) (bmc.rakp2 met code)
        (bmc.rakp3 (.success proof)) (wiped kg suite keys)).eval log = (.ok state, log') ↔
      bmc.Confirms met provider hash keys ∧ state = wiped kg suite keys ∧ log' = log := by
  unfold awaitConfirmation
  simp only [eval_bind_eq_ok, eval_ofExcept_eq_ok, mapError_eq_ok, handshakeReply_eq_ok,
    RakpMessage4.fromData_eq_ok, validateRm3Rm4_eq_ok]
  constructor
  · rintro ⟨body, _, ⟨brought, rfl⟩, ⟨messageTag, sessionId, value⟩, _, ⟨carried, rfl⟩, _, _,
      ⟨⟨tag, console⟩, rfl⟩, _, _, ⟨macLen, rfl⟩, verified, _, ⟨verifies, rfl⟩, returned⟩
    obtain rfl : messageTag = 0x0A := tag
    obtain rfl : sessionId = met.consoleSessionId := console
    cases verified with
    | false => exact absurd returned eval_throw_ne_ok
    | true =>
      obtain ⟨rfl, rfl⟩ := eval_pure_eq_ok.mp returned
      obtain ⟨nonempty, digest, made, enough, rfl⟩ := (verify_eq_ok implemented own).mp verifies
      exact ⟨⟨nonempty, digest, body, made, enough, carried, brought⟩, rfl, rfl⟩
  · rintro ⟨⟨nonempty, digest, body, made, enough, carried, brought⟩, rfl, rfl⟩
    have macLen : (digest.take (CryptoState.checkLen hash)).length = CryptoState.checkLen hash := by
      rw [List.length_take]
      omega
    exact ⟨body, _, ⟨brought, rfl⟩, _, _, ⟨carried, rfl⟩, ⟨⟩, _, ⟨⟨rfl, rfl⟩, rfl⟩, ⟨⟩, _,
      ⟨(validateRakp4MacLen_eq_ok implemented).mpr macLen, rfl⟩, true, _,
      ⟨(verify_eq_ok implemented own).mpr ⟨nonempty, digest, made, enough, rfl⟩, rfl⟩,
      eval_pure_eq_ok.mpr ⟨rfl, rfl⟩⟩

/-- The console sends its proof to a BMC that knows the password, and is told that it has the same keys. -/
theorem confirmKeys_eq_ok {bmc : ManagedSystem} {password code : List UInt8} {kg : Option (List UInt8)}
    {state : CryptoState} :
    (confirmKeys provider met (bmc.response met suite) (bmc.rakp1 met username) (bmc.rakp2 met code)
        (.newWithProvider kg password)).eval log = (.ok state, log') ↔
      ∃ hash keys proof, suiteHash suite = some hash ∧
        provider.hmac hash password (bmc.exchanged met username) = .ok code ∧ code.length = hash.digestLen ∧
        bmc.Derives met username provider password kg hash keys proof ∧
        met.rakp3Sending.Goes met.deadline ∧ proof.length + 8 ≤ 0xFFFF ∧
        log' = log ++ [handshakeDatagram .rakpMessage3 (bmc.rakp3 (.success proof)).write] ∧
        bmc.Confirms met provider hash keys ∧ state = wiped kg suite keys := by
  have width (proof : List UInt8) : (bmc.rakp3 (.success proof)).write.length = proof.length + 8 := by
    simp only [RakpMessage3.write, RakpMessage3.afterId, ManagedSystem.rakp3, List.length_append, length_toLe,
      List.length_cons, List.length_nil]
    omega
  unfold confirmKeys
  constructor
  · intro confirmed
    obtain ⟨⟨message3Value, cryptoState⟩, _, made, sends⟩ := eval_bind_eq_ok.mp confirmed
    obtain ⟨calculated, rfl⟩ := eval_ofExcept_eq_ok.mp made
    rw [mapError_eq_ok] at calculated
    obtain ⟨_, _, sent, awaits⟩ := eval_bind_eq_ok.mp sends
    cases message3Value with
    | none => exact absurd awaits eval_throw_ne_ok
    | some proof =>
      obtain ⟨goes, fits, rfl⟩ := sendRound_eq_ok.mp sent
      obtain ⟨hash, keys, implemented, expects, length, derives, rfl⟩ := calculateRakp3Data_eq_ok.mp calculated
      obtain ⟨confirms, rfl, rfl⟩ := (awaitConfirmation_eq_ok implemented (derive_ok derives.keys).2).mp awaits
      exact ⟨hash, keys, proof, implemented, expects, length, derives, goes, by rw [← width]; exact fits, rfl,
        confirms, rfl⟩
  · rintro ⟨hash, keys, proof, implemented, expects, length, derives, goes, fits, rfl, confirms, rfl⟩
    have calculated := calculateRakp3Data_eq_ok.mpr ⟨hash, keys, implemented, expects, length, derives, rfl⟩
    exact eval_bind_eq_ok.mpr ⟨_, _, eval_ofExcept_eq_ok.mpr ⟨mapError_eq_ok.mpr calculated, rfl⟩,
      eval_bind_eq_ok.mpr ⟨⟨⟩, _, sendRound_eq_ok.mpr ⟨goes, by rw [← width] at fits; exact fits, rfl⟩,
        (awaitConfirmation_eq_ok implemented (derive_ok derives.keys).2).mpr ⟨confirms, rfl, rfl⟩⟩⟩

/-- What the console sends it is what was asked for. -/
theorem ManagedSystem.rakp1_eq (bmc : ManagedSystem) (opened : bmc.Opened met suite privilegeLevel) :
    RakpMessage1.mk 0x0D (bmc.response met suite).managedSystemSessionId met.random
      (privilegeLevel.getD (bmc.response met suite).maximumPrivilegeLevel) username = bmc.rakp1 met username := by
  have granted : privilegeLevel.getD bmc.granted = bmc.granted := by
    cases asked : privilegeLevel with
    | none => rfl
    | some level => exact (opened.privilege level asked).symm
  exact congrArg (RakpMessage1.mk 0x0D bmc.sessionId met.random · username) granted

/-- What a BMC says when it opens the session does not tell what it draws at random. -/
theorem ManagedSystem.Opened.contributing {bmc : ManagedSystem} (opened : bmc.Opened met suite privilegeLevel)
    (random guid : Bytes16) : { bmc with random, guid : ManagedSystem }.Opened met suite privilegeLevel :=
  ⟨opened.privilege, opened.reply⟩

theorem ManagedSystem.response_contributing (bmc : ManagedSystem) (random guid : Bytes16) :
    { bmc with random, guid : ManagedSystem }.response met suite = bmc.response met suite := rfl

theorem ManagedSystem.rakp1_contributing (bmc : ManagedSystem) (random guid : Bytes16) :
    { bmc with random, guid : ManagedSystem }.rakp1 met username = bmc.rakp1 met username := rfl

theorem required_eq {hash : HashAlgorithm} (implemented : suiteHash suite = some hash) :
    requiredKexAuthCodeLen suite.authentication = hash.digestLen := by
  cases suite <;> cases implemented <;> rfl

end rounds

/-- Every send of a handshake that is completed goes out. -/
structure HandshakeConditions.Sends (met : HandshakeConditions) (proof : List UInt8) : Prop where
  request : met.requestSending.Goes met.deadline
  rakp1 : met.rakp1Sending.Goes met.deadline
  rakp3 : met.rakp3Sending.Goes met.deadline
  fits : proof.length + 8 ≤ 0xFFFF

/-- A handshake that ends with a session was held with a BMC that knows the password. -/
theorem activate_accepts {provider : CryptoProvider} {met : HandshakeConditions}
    {privilegeLevel : Option PrivilegeLevel} {username : Username} {password : List UInt8}
    {kg : Option (List UInt8)} {suite : CipherSuite} {s : V2State} {sent : List (List UInt8)}
    (accepted : (V2State.activate provider met privilegeLevel username password kg suite).eval [] = (.ok s, sent)) :
    ∃ (bmc : ManagedSystem) (hash : HashAlgorithm) (keys : Keys) (proof : List UInt8),
      bmc.Opened met suite privilegeLevel ∧ bmc.Knows met username suite provider password hash ∧
      bmc.Derives met username provider password kg hash keys proof ∧ bmc.Confirms met provider hash keys ∧
      met.Sends proof ∧ s = bmc.session met suite kg keys ∧
      sent = [handshakeDatagram .rmcpPlusOpenSessionRequest
          (openSessionRequest privilegeLevel met.consoleSessionId suite).writeData,
        handshakeDatagram .rakpMessage1 (bmc.rakp1 met username).write,
        handshakeDatagram .rakpMessage3 (bmc.rakp3 (.success proof)).write] := by
  unfold V2State.activate at accepted
  obtain ⟨response, _, opens, rest⟩ := eval_bind_eq_ok.mp accepted
  obtain ⟨request, rfl, opening, opened, rfl⟩ := openSession_eq_ok.mp opens
  rw [opening.rakp1_eq opened] at rest
  obtain ⟨rm2, _, exchanges, rest⟩ := eval_bind_eq_ok.mp rest
  obtain ⟨rakp1, rfl, random, guid, code, body, rfl, -, carried, brought⟩ := exchangeRandom_eq_ok.mp exchanges
  replace opened := opened.contributing random guid
  rw [← opening.response_contributing random guid, ← opening.rakp1_contributing random guid] at rest
  generalize { opening with random, guid : ManagedSystem } = bmc at *
  obtain ⟨state, _, confirming, returned⟩ := eval_bind_eq_ok.mp rest
  obtain ⟨hash, keys, proof, implemented, expects, length, derives, rakp3, fits, rfl, confirms, rfl⟩ :=
    confirmKeys_eq_ok.mp confirming
  obtain ⟨rfl, rfl⟩ := eval_pure_eq_ok.mp returned
  exact ⟨bmc, hash, keys, proof, opened, ⟨implemented, code, body, expects, length, carried, brought⟩, derives,
    confirms, ⟨request, rakp1, rakp3, fits⟩, rfl, rfl⟩

/-- The handshake ends with a session exactly if the BMC opened one with the suite and the privilege that were
asked for, showed with its key exchange code that it knows the password, and confirmed the keys that follow from
Kg and both random numbers. The session is that of these keys and of the IDs that both sides authenticated. -/
theorem handshake_accepted_iff (provider : CryptoProvider) (met : HandshakeConditions)
    (privilegeLevel : Option PrivilegeLevel) (username : Username) (password : List UInt8)
    (kg : Option (List UInt8)) (suite : CipherSuite) (s : V2State) (sent : List (List UInt8)) :
    (V2State.activate provider met privilegeLevel username password kg suite).eval [] = (.ok s, sent) ↔
      ∃ (bmc : ManagedSystem) (hash : HashAlgorithm) (keys : Keys) (proof : List UInt8),
        bmc.Opened met suite privilegeLevel ∧ bmc.Knows met username suite provider password hash ∧
        bmc.Derives met username provider password kg hash keys proof ∧ bmc.Confirms met provider hash keys ∧
        met.Sends proof ∧ s = bmc.session met suite kg keys ∧
        sent = [handshakeDatagram .rmcpPlusOpenSessionRequest
            (openSessionRequest privilegeLevel met.consoleSessionId suite).writeData,
          handshakeDatagram .rakpMessage1 (bmc.rakp1 met username).write,
          handshakeDatagram .rakpMessage3 (bmc.rakp3 (.success proof)).write] := by
  refine ⟨activate_accepts, ?_⟩
  rintro ⟨bmc, hash, keys, proof, opened, ⟨implemented, code, body, expects, length, carried, brought⟩, derives,
    confirms, sends, rfl, rfl⟩
  unfold V2State.activate
  refine eval_bind_eq_ok.mpr ⟨_, _, openSession_eq_ok.mpr ⟨sends.request, rfl, bmc, opened, rfl⟩, ?_⟩
  rw [bmc.rakp1_eq opened]
  refine eval_bind_eq_ok.mpr ⟨_, _, exchangeRandom_eq_ok.mpr ⟨sends.rakp1, rfl, bmc.random, bmc.guid, code, body,
    rfl, length.trans (required_eq implemented).symm, carried, brought⟩, ?_⟩
  refine eval_bind_eq_ok.mpr ⟨_, _, confirmKeys_eq_ok.mpr ⟨hash, keys, proof, implemented, expects, length,
    derives, sends.rakp3, sends.fits, rfl, confirms, rfl⟩, eval_pure_eq_ok.mpr ⟨rfl, rfl⟩⟩

end IpmiRs.Rmcp
