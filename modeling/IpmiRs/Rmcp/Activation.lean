import IpmiRs.App.Session
import IpmiRs.Rmcp.Active
import IpmiRs.Rmcp.Asf
import IpmiRs.Rmcp.CipherPolicy
import IpmiRs.Rmcp.Handshake

/-! How a session is activated, `Rmcp::activate_with_selection` of `rmcp/mod.rs`
over `activate` of `rmcp/internal.rs` and of `rmcp/v1_5`. The commands before
the session go through an IPMI 1.5 state that has none yet. -/
namespace IpmiRs.Rmcp
open App App.Auth Connection Library

/-! ### The IPMI 1.5 session -/

/-- An IPMI 1.5 state, and the calls made through it. -/
structure V1Connection where
  state : V1State
  calls : List (Exchange RmcpIpmiError)

/-- `send_recv` of `rmcp/v1_5`. -/
def V1State.sendRecv (digests : Digests) (request : Request) (met : Conditions) (s : V1State) :
    Except RmcpIpmiError Response × V1State :=
  match s.send digests request met.deadline met.checked met.sending with
  | (.error error, s) => (.error error.intoOperationError, s)
  | (.ok _, s) => ((V1State.transport digests).recvUntil s met.turns).map (·.mapError .outcomeUnknown) id

/-- `impl IpmiConnection for State` of `rmcp/v1_5`. -/
def v1_5 (digests : Digests) (world : List (Exchange RmcpIpmiError) → Conditions) :
    IpmiConnection V1Connection RmcpIpmiError where
  transact request c :=
    let (result, state) := c.state.sendRecv digests request (world c.calls)
    (result, ⟨state, c.calls ++ [⟨request, result⟩]⟩)

/-- `v1_5::ActivationError`, of which one is never returned. -/
inductive V1ActivationError where
  | io
  | passwordTooLong
  | usernameTooLong
  | getSessionChallenge (error : IpmiError RmcpIpmiError AuthError)
  | noSupportedAuthenticationType
  | activateSession (error : IpmiError RmcpIpmiError AuthError)
  deriving DecidableEq

/-- The password with zeros behind it. -/
def paddedPassword : Option (List UInt8) → Except V1ActivationError (Option Password)
  | none => .ok none
  | some password => if 16 < password.length then .error .passwordTooLong else .ok (some (padded password))

/-- The state that `ActivateSession` is sent from. -/
def V1State.challenged (s : V1State) (challenge : SessionChallenge) (authType : AuthType) : V1State :=
  { s with sessionId := some challenge.temporarySessionId, authType }

/-- The state after the reply to it. -/
def V1State.begun (s : V1State) (info : BeginSessionInfo) : V1State :=
  { s with
    sessionSequence := info.initialSequenceNumber
    sessionId := some info.sessionId
    lastInboundSequence := none
    activated := true }

/-- `activate` of `rmcp/v1_5`. It gives what only serial redirection reads of
the session, which the state does not hold. -/
def V1State.activate (digests : Digests) (world : List (Exchange RmcpIpmiError) → Conditions)
    (authenticationCaps : ChannelAuthenticationCapabilities) (privilegeLevel : PrivilegeLevel)
    (username : Option String) (password : Option (List UInt8)) :
    Stateful V1Connection V1ActivationError (V1State × BeginSessionInfo) := do
  let password ← MonadExcept.ofExcept (paddedPassword password)
  modify fun c => { c with state := { c.state with password } }
  match GetSessionChallenge.new .none username with
  | none => throw .usernameTooLong
  | some challengeCommand =>
    let challenge ← ExceptT.adapt .getSessionChallenge ((v1_5 digests world).sendRecv challengeCommand.command)
    match authenticationCaps.bestAuth with
    | none => throw .noSupportedAuthenticationType
    | some activationAuthType =>
      modify fun c => { c with state := c.state.challenged challenge activationAuthType }
      let info ← ExceptT.adapt .activateSession ((v1_5 digests world).sendRecv (ActivateSession.command {
        authType := activationAuthType
        maximumPrivilegeLevel := privilegeLevel
        challengeString := challenge.challengeString
        initialSequenceNumber := 0xDEADBEEF }))
      let c ← get
      return (c.state.begun info, info)

/-! ### Either session -/

/-- `CipherSuitePolicy` -/
inductive CipherSuitePolicy where
  | exact (suite : CipherSuite)
  | bestAvailable
  deriving DecidableEq

/-- `CryptoProvider`, and whether it is compiled in. -/
structure Backend where
  provider : CryptoProvider
  available : Bool

/-- `ensure_available` -/
def Backend.ensureAvailable (backend : Backend) : Except CryptoBackendError Unit :=
  if backend.available then .ok () else .error .unavailable

/-- `SessionConfig` -/
structure SessionConfig where
  username : Option String
  password : Option (List UInt8)
  kg : Option (List UInt8)
  privilege : PrivilegeLevel
  cipherSuite : CipherSuitePolicy
  backend : Backend

/-- `SessionConfig::new`, with the default backend. -/
def SessionConfig.new (username : Option String) (password : Option (List UInt8)) (backend : Backend) :
    SessionConfig where
  username
  password
  kg := none
  privilege := .administrator
  cipherSuite := .exact .id3
  backend

/-- `rmcp::ActivationError`. -/
inductive RmcpActivationError where
  | bindSocket
  | pingSend
  | pongReceive (error : RmcpIpmiReceiveError)
  | pongRead
  | ipmiNotSupported
  | noSupportedIpmiLANVersions
  | requiredRmcpPlusNotSupported
  | unsupportedCipherSuite (suite : CipherSuite)
  /-- The suites could not be listed, or none of them can be used. -/
  | cipherSuites (error : ActivationError RmcpIpmiError)
  | rmcpPlusRequired
  | invalidUsername
  | cryptoBackend (error : CryptoBackendError)
  | getChannelAuthenticationCapabilities (error : IpmiError RmcpIpmiError NotEnoughData)
  | v1_5 (error : V1ActivationError)
  | v2_0 (error : V2ActivationError)
  deriving DecidableEq

/-- What an activation meets outside the session: whether a socket is bound,
whether it was cancelled, whether the ping goes out, what arrives after it, and
what either session meets. -/
structure ActivationConditions where
  bound : Bool
  cancelled : Bool
  pinged : Bool
  pong : Arrivals
  world : List (Exchange RmcpIpmiError) → Conditions
  handshake : HandshakeConditions

/-- `recv_datagram`: the first datagram. -/
def Arrivals.recvDatagram (arrivals : Arrivals) : Except RmcpIpmiReceiveError (List UInt8) :=
  match arrivals.datagrams with
  | [] => .error arrivals.waiting.error
  | datagram :: _ => if MAX_DATAGRAM < datagram.length then .error .datagramTooLarge else .ok datagram

/-- The tag of the ping. -/
def PING_TAG : UInt8 := 0xC8

/-- The entities that the pong names. -/
def readPong (datagram : List UInt8) : Except RmcpActivationError SupportedEntities :=
  match RmcpHeader.fromBytes datagram with
  | .error _ => .error .pongRead
  | .ok (header, data) =>
    if header.cls.ty ≠ .asf then .error .pongRead
    else
      match ASFMessage.fromBytes data with
      | none => .error .pongRead
      | some message =>
        if message.messageTag ≠ PING_TAG then .error .pongRead
        else
          match message.messageType with
          | .pong _ _ supportedEntities _ => .ok supportedEntities
          | .ping => .error .pongRead

/-- The suite that a policy comes to. -/
def chooseSuite (digests : Digests) (world : List (Exchange RmcpIpmiError) → Conditions) :
    Option CipherSuitePolicy → Stateful V1Connection RmcpActivationError CipherSuite
  | some (.exact suite) => return suite
  | some .bestAvailable => ExceptT.adapt .cipherSuites (bestAvailable (v1_5 digests world))
  | none => return .id3

/-- The name that RMCP+ authenticates. -/
def handshakeUsername (username : Option String) : Except RmcpActivationError Username :=
  let username := username.getD ""
  if 16 < username.utf8ByteSize then .error .invalidUsername
  else (Username.new username).elim (.error .invalidUsername) .ok

/-- `RmcpWithState<Inactive>::activate`. -/
def activateInactive (digests : Digests) (requireRmcpPlus rmcpPlus : Bool)
    (suitePolicy : Option CipherSuitePolicy) (config : SessionConfig) (met : ActivationConditions) :
    Stateful V1Connection RmcpActivationError Active := do
  if met.cancelled then throw (.pongReceive .cancelled)
  else if !met.pinged then throw .pingSend
  else
    let datagram ← MonadExcept.ofExcept (met.pong.recvDatagram.mapError .pongReceive)
    let supportedEntities ← MonadExcept.ofExcept (readPong datagram)
    if !supportedEntities.ipmi then throw .ipmiNotSupported
    else
      let caps ← ExceptT.adapt .getChannelAuthenticationCapabilities ((v1_5 digests met.world).sendRecv
        (GetChannelAuthenticationCapabilities.command ⟨.current, config.privilege⟩))
      if caps.ipmi2ConnectionsSupported && rmcpPlus then
        let suite ← chooseSuite digests met.world suitePolicy
        let username ← MonadExcept.ofExcept (handshakeUsername config.username)
        let state ← MonadExcept.ofExcept (((V2State.activate config.backend.provider met.handshake
          (some config.privilege) username (config.password.getD []) config.kg suite).eval []).1.mapError .v2_0)
        return .v2_0 state
      else if suitePolicy.isSome then throw .requiredRmcpPlusNotSupported
      else if caps.ipmi15ConnectionsSupported then
        if rmcpPlus && requireRmcpPlus then throw .rmcpPlusRequired
        else
          let (state, _) ← ExceptT.adapt .v1_5
            (V1State.activate digests met.world caps config.privilege config.username config.password)
          return .v1_5 state
      else throw .noSupportedIpmiLANVersions

/-- A suite that a policy names is implemented. -/
def checkPolicy : Option CipherSuitePolicy → Except RmcpActivationError Unit
  | some (.exact suite) =>
    if suite = .id3 ∨ suite = .id17 then .ok () else .error (.unsupportedCipherSuite suite)
  | _ => .ok ()

/-- RMCP+ needs a backend. -/
def checkBackend (rmcpPlus : Bool) (suitePolicy : Option CipherSuitePolicy) (backend : Backend) :
    Except RmcpActivationError Unit :=
  if rmcpPlus || suitePolicy.isSome then backend.ensureAvailable.mapError .cryptoBackend else .ok ()

/-- `Rmcp::activate_with_selection`. Nothing is shut down at the far end of a
session that is left. -/
def activateWithSelection (digests : Digests) (requireRmcpPlus rmcpPlus : Bool)
    (suitePolicy : Option CipherSuitePolicy) (config : SessionConfig) (met : ActivationConditions) :
    Stateful RmcpConnection RmcpActivationError Unit := do
  MonadExcept.ofExcept (checkPolicy suitePolicy)
  MonadExcept.ofExcept (checkBackend rmcpPlus suitePolicy config.backend)
  modify fun c => { c with active := none }
  if !met.bound then throw .bindSocket
  else
    let active ← MonadExcept.ofExcept
      ((activateInactive digests requireRmcpPlus rmcpPlus suitePolicy config met).eval ⟨.new, []⟩).1
    modify fun c => { c with active := some active }

/-! ### Its entry points -/

/-- `Rmcp::activate` -/
def activate (digests : Digests) (requireRmcpPlus rmcpPlus : Bool) (username : Option String)
    (password : Option (List UInt8)) (backend : Backend) (met : ActivationConditions) :
    Stateful RmcpConnection RmcpActivationError Unit :=
  activateWithSelection digests requireRmcpPlus rmcpPlus none (.new username password backend) met

/-- `Rmcp::activate_with_provider` -/
def activateWithProvider (digests : Digests) (requireRmcpPlus : Bool) (suite : CipherSuite)
    (username : Option String) (password : Option (List UInt8)) (backend : Backend)
    (met : ActivationConditions) : Stateful RmcpConnection RmcpActivationError Unit :=
  activateWithSelection digests requireRmcpPlus true (some (.exact suite)) (.new username password backend) met

/-- `Rmcp::activate_with_session_config` -/
def activateWithSessionConfig (digests : Digests) (requireRmcpPlus : Bool) (config : SessionConfig)
    (met : ActivationConditions) : Stateful RmcpConnection RmcpActivationError Unit :=
  activateWithSelection digests requireRmcpPlus true (some config.cipherSuite) config met

end IpmiRs.Rmcp
