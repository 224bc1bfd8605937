import IpmiRs.Library.Stateful
import IpmiRs.Rmcp.HandshakeMessages
import IpmiRs.Rmcp.SessionV2

/-! The RMCP+ handshake, `State::activate` of `rmcp/v2_0` with the key exchange
of `rmcp/v2_0/crypto/state.rs`. What is drawn at random, what the sends meet and
what arrives are explicit inputs. Every datagram that is sent is logged. -/
namespace IpmiRs.Rmcp
open App.Auth Connection Library Library.Bytes

inductive ValidateSessionResponseError where
  | messageTagMismatch
  | remoteConsoleSessionIdMismatch
  | negotiatedCipherSuiteMismatch (requested : CipherSuite) (received : List UInt8)
  | privilegeLevelMismatch
  | authenticationAlgorithmMismatch (algorithm : AuthenticationAlgorithm)
  | integrityAlgorithmMismatch (algorithm : IntegrityAlgorithm)
  | confidentialityAlgorithmMismatch (algorithm : ConfidentialityAlgorithm)
  deriving DecidableEq

inductive ValidateRakpMessage2Error where
  | messageTagMismatch
  | remoteConsoleSessionIdMismatch
  deriving DecidableEq

inductive ValidateRakpMessage4Error where
  | messageTagMismatch
  | remoteConsoleSessionIdMismatch
  deriving DecidableEq

/-- `v2_0::ActivationError`. -/
inductive V2ActivationError where
  | invalidKeyExchangeAuthCodeLen (length : Nat) (algorithm : AuthenticationAlgorithm)
  | invalidRakpMessage4IntegrityCheckValueLen (length : Nat) (algorithm : AuthenticationAlgorithm)
  | openSessionRequestSend (error : V2WriteError)
  | openSessionResponseReceive (error : RmcpIpmiReceiveError)
  | openSessionResponseRead (error : UnwrapSessionError)
  | openSessionResponseParse (error : ParseSessionResponseError)
  | openSessionResponseValidate (error : ValidateSessionResponseError)
  | sendRakpMessage1 (error : V2WriteError)
  | rakpMessage2Receive (error : RmcpIpmiReceiveError)
  | rakpMessage2Read (error : UnwrapSessionError)
  | rakpMessage2Parse (error : RakpMessage2ParseError)
  | rakpMessage2Validate (error : ValidateRakpMessage2Error)
  | rakpMessage3Send (error : V2WriteError)
  | rakpMessage4Receive (error : RmcpIpmiReceiveError)
  | rakpMessage4Read (error : UnwrapSessionError)
  | rakpMessage4Parse (error : RakpMessage4ParseError)
  | rakpMessage4Validate (error : ValidateRakpMessage4Error)
  | rakpMessage4InvalidIntegrityCheckValue
  | serverAuthenticationFailed
  | unexpectedPayloadType (ty : PayloadType)
  | unexpectedSessionHeader
  | cryptoBackend (error : CryptoBackendError)
  deriving DecidableEq

/-! ### Checks of the replies -/

def openSessionRequest (requestedMaxPrivilege : Option PrivilegeLevel) (remoteConsoleSessionId : NonZeroU32)
    (suite : CipherSuite) : OpenSessionRequest where
  messageTag := 0
  requestedMaxPrivilege
  remoteConsoleSessionId
  authenticationAlgorithms := suite.authentication
  integrityAlgorithms := suite.integrity
  confidentialityAlgorithms := suite.confidentiality

def validateOpenSession (req : OpenSessionRequest) (resp : OpenSessionResponse) :
    Except ValidateSessionResponseError Unit :=
  let requested := [req.authenticationAlgorithms.toByte, req.integrityAlgorithms.toByte,
    req.confidentialityAlgorithms.toByte]
  let received := [resp.authenticationPayload.toByte, resp.integrityPayload.toByte,
    resp.confidentialityPayload.toByte]
  if resp.messageTag ≠ req.messageTag then .error .messageTagMismatch
  else if resp.remoteConsoleSessionId ≠ req.remoteConsoleSessionId then
    .error .remoteConsoleSessionIdMismatch
  else if req.requestedMaxPrivilege.any (· ≠ resp.maximumPrivilegeLevel) then .error .privilegeLevelMismatch
  else if requested = CipherSuite.id17.intoSuite ∧ received ≠ requested then
    .error (.negotiatedCipherSuiteMismatch .id17 received)
  else if resp.authenticationPayload ≠ req.authenticationAlgorithms then
    .error (.authenticationAlgorithmMismatch resp.authenticationPayload)
  else if resp.integrityPayload ≠ req.integrityAlgorithms then
    .error (.integrityAlgorithmMismatch resp.integrityPayload)
  else if resp.confidentialityPayload ≠ req.confidentialityAlgorithms then
    .error (.confidentialityAlgorithmMismatch resp.confidentialityPayload)
  else .ok ()

/-- `validate_rm1_rm2` -/
def validateRm1Rm2 (remoteConsoleSessionId : NonZeroU32) (rm1 : RakpMessage1) (rm2 : RakpMessage2) :
    Except ValidateRakpMessage2Error Unit :=
  if rm1.messageTag ≠ rm2.messageTag then .error .messageTagMismatch
  else if remoteConsoleSessionId ≠ rm2.remoteConsoleSessionId then .error .remoteConsoleSessionIdMismatch
  else .ok ()

/-- `validate_rm3_rm4` -/
def validateRm3Rm4 (remoteConsoleSessionId : NonZeroU32) (rm3 : RakpMessage3) (rm4 : RakpMessage4) :
    Except ValidateRakpMessage4Error Unit :=
  if rm3.messageTag ≠ rm4.messageTag then .error .messageTagMismatch
  else if rm4.managedSystemSessionId ≠ remoteConsoleSessionId then .error .remoteConsoleSessionIdMismatch
  else .ok ()

def validateHandshake (message : V2Message) (expected : PayloadType) : Except V2ActivationError Unit :=
  if message.ty ≠ expected then .error (.unexpectedPayloadType message.ty)
  else if message.sessionId ≠ 0 ∨ message.sessionSequenceNumber ≠ 0 then .error .unexpectedSessionHeader
  else .ok ()

/-- How long the key exchange code of an algorithm is. -/
def requiredKexAuthCodeLen : AuthenticationAlgorithm → Nat
  | .rakpNone => 0
  | .rakpHmacSha1 => 20
  | .rakpHmacSha256 => 32
  | .rakpHmacMd5 => 16

def validateRakp4MacLen (algorithm : AuthenticationAlgorithm) (actualLen : Nat) :
    Except V2ActivationError Unit :=
  let expectedLen := match algorithm with
    | .rakpHmacSha1 => 12
    | .rakpHmacSha256 => 16
    | .rakpNone => 0
    | .rakpHmacMd5 => 16
  if actualLen ≠ expectedLen then .error (.invalidRakpMessage4IntegrityCheckValueLen actualLen algorithm)
  else .ok ()

/-! ### Key exchange -/

namespace CryptoState
variable (provider : CryptoProvider)

/-- `new_with_provider` -/
def newWithProvider (kg : Option (List UInt8)) (password : List UInt8) : CryptoState where
  password
  kg
  state := .empty

/-- The role that both sides authenticate: the privilege level and the length of the name. -/
def role (m1 : RakpMessage1) : List UInt8 := [m1.requestedMaximumPrivilegeLevel.toByte, m1.username.len]

/-- The hash of the algorithms that were agreed on, if they are those of suite 3 or 17. -/
def hashOf (osr : OpenSessionResponse) : Option HashAlgorithm :=
  match osr.authenticationPayload, osr.integrityPayload, osr.confidentialityPayload with
  | .rakpHmacSha1, .hmacSha1_96, .aesCbc128 => some .sha1
  | .rakpHmacSha256, .hmacSha256_128, .aesCbc128 => some .sha256
  | _, _, _ => none

/-- `calculate_rakp3_data`. The credentials are wiped once the keys are derived. -/
def calculateRakp3Data (s : CryptoState) (osr : OpenSessionResponse) (m1 : RakpMessage1) (m2 : RakpMessage2) :
    Except CryptoBackendError (Option (List UInt8) × CryptoState) :=
  match hashOf osr with
  | none => .ok (none, s)
  | some hash => do
    let remoteId := toLe 4 m2.remoteConsoleSessionId.1.toNat
    let managedId := toLe 4 m1.managedSystemSessionId.1.toNat
    let expected ← provider.hmac hash s.password [remoteId, managedId, m1.remoteConsoleRandomNumber.1,
      m2.managedSystemRandomNumber.1, m2.managedSystemGuid.1, role m1, m1.username.bytes]
    if m2.keyExchangeAuthCode.length ≠ hash.digestLen ∨ m2.keyExchangeAuthCode ≠ expected then return (none, s)
    else
      let sik ← provider.hmac hash (s.kg.getD s.password) [m1.remoteConsoleRandomNumber.1,
        m2.managedSystemRandomNumber.1, role m1, m1.username.bytes]
      let output ← provider.hmac hash s.password [m2.managedSystemRandomNumber.1, remoteId, role m1,
        m1.username.bytes]
      let keys ← Keys.derive provider hash sik
      return (some output, {
        password := []
        kg := s.kg.map fun _ => []
        state := {
          keys
          confidentialityAlgorithm := osr.confidentialityPayload
          integrityAlgorithm := osr.integrityPayload } })

/-- How much of a digest a BMC sends in its last message. -/
def checkLen : HashAlgorithm → Nat
  | .sha1 => 12
  | .sha256 => 16

def verify (s : CryptoState) (algorithm : AuthenticationAlgorithm) (remoteConsoleRandomNumber : Bytes16)
    (managedSystemSessionId : UInt32) (managedSystemGuid : Bytes16) (integrityCheckValue : List UInt8) :
    Except CryptoBackendError Bool :=
  let check (hash : HashAlgorithm) : Except CryptoBackendError Bool :=
    if hash ≠ s.state.keys.hash ∨ s.state.keys.sik = [] then .ok false
    else do
      let integrity ← provider.hmac hash s.state.keys.sik
        [remoteConsoleRandomNumber.1, toLe 4 managedSystemSessionId.toNat, managedSystemGuid.1]
      return integrityCheckValue.length = checkLen hash ∧ integrityCheckValue = integrity.take (checkLen hash)
  match algorithm with
  | .rakpHmacSha1 => check .sha1
  | .rakpHmacSha256 => check .sha256
  | _ => .ok false

end CryptoState

/-! ### The handshake -/

/-- What a handshake meets: when it has to be over, what is drawn at random,
and for each round what the send meets and what arrives. -/
structure HandshakeConditions where
  deadline : Instant
  consoleSessionId : NonZeroU32
  random : Bytes16
  requestSending : Sending
  openSession : Arrivals
  rakp1Sending : Sending
  rakp2 : Arrivals
  rakp3Sending : Sending
  rakp4 : Arrivals
  deriving DecidableEq

/-- A computation over the datagrams that were sent. -/
abbrev Handshaking (α : Type) := Stateful (List (List UInt8)) V2ActivationError α

section activate
variable (provider : CryptoProvider)

/-- `send_handshake` -/
def sendHandshake (ty : PayloadType) (payload : List UInt8) (deadline : Instant) (sending : Sending) :
    Except V2WriteError (List UInt8) :=
  if sending.cancelled then .error .cancelled
  else if deadline ≤ sending.now then .error .deadlineExpired
  else sending.send .io fun buffer => SubState.empty.writePayload provider none ⟨ty, 0, 0, payload⟩ buffer

/-- Send the message of a round. -/
def sendRound (ty : PayloadType) (payload : List UInt8) (deadline : Instant) (sending : Sending)
    (failed : V2WriteError → V2ActivationError) : Handshaking Unit := do
  let datagram ← MonadExcept.ofExcept ((sendHandshake provider ty payload deadline sending).mapError failed)
  modify (· ++ [datagram])

/-- Receive the reply of a round: the payload of the first packet. -/
def handshakeReply (arrivals : Arrivals) (expected : PayloadType)
    (receive : RmcpIpmiReceiveError → V2ActivationError) (read : UnwrapSessionError → V2ActivationError) :
    Except V2ActivationError (List UInt8) := do
  let data ← (arrivals.recv 0).1.mapError receive
  let message ← (SubState.empty.readPayload provider data).mapError (fun error => read (.v2_0 error))
  validateHandshake message expected
  return message.payload

/-- The first round: the session is opened. -/
def openSession (met : HandshakeConditions) (privilegeLevel : Option PrivilegeLevel) (suite : CipherSuite) :
    Handshaking OpenSessionResponse := do
  let request := openSessionRequest privilegeLevel met.consoleSessionId suite
  sendRound provider .rmcpPlusOpenSessionRequest request.writeData met.deadline met.requestSending
    .openSessionRequestSend
  let payload ← MonadExcept.ofExcept (handshakeReply provider met.openSession .rmcpPlusOpenSessionResponse
    .openSessionResponseReceive .openSessionResponseRead)
  let response ← MonadExcept.ofExcept ((OpenSessionResponse.fromData payload).mapError
    .openSessionResponseParse)
  MonadExcept.ofExcept ((validateOpenSession request response).mapError .openSessionResponseValidate)
  return response

/-- The second round: the BMC answers with its random number and proves that it knows the password. -/
def exchangeRandom (met : HandshakeConditions) (response : OpenSessionResponse) (rm1 : RakpMessage1) :
    Handshaking RakpMessage2 := do
  sendRound provider .rakpMessage1 rm1.write met.deadline met.rakp1Sending .sendRakpMessage1
  let payload ← MonadExcept.ofExcept (handshakeReply provider met.rakp2 .rakpMessage2 .rakpMessage2Receive
    .rakpMessage2Read)
  let rm2 ← MonadExcept.ofExcept ((RakpMessage2.fromData payload).mapError .rakpMessage2Parse)
  MonadExcept.ofExcept ((validateRm1Rm2 met.consoleSessionId rm1 rm2).mapError .rakpMessage2Validate)
  if rm2.keyExchangeAuthCode.length ≠ requiredKexAuthCodeLen response.authenticationPayload then
    throw (.invalidKeyExchangeAuthCodeLen rm2.keyExchangeAuthCode.length response.authenticationPayload)
  else return rm2

/-- The message of the third round: a proof, if there is one. -/
def proofMessage (response : OpenSessionResponse) (message3Value : Option (List UInt8)) : RakpMessage3 where
  messageTag := 0x0A
  managedSystemSessionId := response.managedSystemSessionId
  contents := message3Value.elim (.failure .invalidIntegrityCheckValue) .success

/-- The BMC confirms the keys. -/
def awaitConfirmation (met : HandshakeConditions) (response : OpenSessionResponse) (rm1 : RakpMessage1)
    (rm2 : RakpMessage2) (rm3 : RakpMessage3) (cryptoState : CryptoState) : Handshaking CryptoState := do
  let payload ← MonadExcept.ofExcept (handshakeReply provider met.rakp4 .rakpMessage4 .rakpMessage4Receive
    .rakpMessage4Read)
  let rm4 ← MonadExcept.ofExcept ((RakpMessage4.fromData payload).mapError .rakpMessage4Parse)
  MonadExcept.ofExcept ((validateRm3Rm4 response.remoteConsoleSessionId rm3 rm4).mapError .rakpMessage4Validate)
  MonadExcept.ofExcept (validateRakp4MacLen response.authenticationPayload rm4.integrityCheckValue.length)
  let verified ← MonadExcept.ofExcept ((cryptoState.verify provider response.authenticationPayload
    rm1.remoteConsoleRandomNumber rm3.managedSystemSessionId.1 rm2.managedSystemGuid
    rm4.integrityCheckValue).mapError .cryptoBackend)
  if verified then return cryptoState else throw .rakpMessage4InvalidIntegrityCheckValue

/-- The third round: the console proves that it knows the password, or rejects the BMC. -/
def confirmKeys (met : HandshakeConditions) (response : OpenSessionResponse) (rm1 : RakpMessage1)
    (rm2 : RakpMessage2) (credentials : CryptoState) : Handshaking CryptoState := do
  let (message3Value, cryptoState) ← MonadExcept.ofExcept
    ((credentials.calculateRakp3Data provider response rm1 rm2).mapError .cryptoBackend)
  sendRound provider .rakpMessage3 (proofMessage response message3Value).write met.deadline met.rakp3Sending
    .rakpMessage3Send
  if (proofMessage response message3Value).isFailure then throw .serverAuthenticationFailed
  else awaitConfirmation provider met response rm1 rm2 (proofMessage response message3Value) cryptoState

/-- `State::activate` -/
def V2State.activate (met : HandshakeConditions) (privilegeLevel : Option PrivilegeLevel) (username : Username)
    (password : List UInt8) (kg : Option (List UInt8)) (suite : CipherSuite) : Handshaking V2State := do
  let response ← openSession provider met privilegeLevel suite
  let rm1 : RakpMessage1 := {
    messageTag := 0x0D
    managedSystemSessionId := response.managedSystemSessionId
    remoteConsoleRandomNumber := met.random
    requestedMaximumPrivilegeLevel := privilegeLevel.getD response.maximumPrivilegeLevel
    username }
  let rm2 ← exchangeRandom provider met response rm1
  let state ← confirmKeys provider met response rm1 rm2 (.newWithProvider kg password)
  return {
    sessionId := response.managedSystemSessionId
    sessionSequenceNumber := firstSequence
    consoleSessionId := met.consoleSessionId
    lastInboundSequence := none
    state
    ipmbState := .default
    sol := none }

end activate
end IpmiRs.Rmcp
