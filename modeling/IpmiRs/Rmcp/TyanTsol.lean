import IpmiRs.App.DeviceId
import IpmiRs.Library.Runs
import IpmiRs.Library.Stateful
import IpmiRs.Rmcp.Errors
import IpmiRs.Rmcp.Socket

/-! The serial console of a Tyan board over IPMI 1.5, `rmcp/tyan_tsol.rs`. What
each command comes to, what the listener receives and what the clock and a
cancellation do are explicit inputs. Every command, datagram and byte handed
over is logged. -/
namespace IpmiRs.Rmcp
open App App.Auth Connection Library

namespace Tsol

def MAX_UNRELATED : Nat := 32
def KEEPALIVE_INTERVAL : Nat := 30000

/-! ### Endpoints and errors -/

abbrev Ipv4Addr := UInt32

/-- The source of a datagram. -/
inductive SocketAddr where
  | v4 (ip : Ipv4Addr) (port : UInt16)
  | v6
  deriving DecidableEq

/-- The address is a port of an IPv4 host. -/
def SocketAddr.isHost (source : SocketAddr) (host : Ipv4Addr) : Bool :=
  match source with
  | .v4 ip _ => ip == host
  | .v6 => false

/-- An address identifies a single IPv4 host. -/
def single (address : Ipv4Addr) : Bool :=
  address ≠ 0 ∧ address &&& 0xF0000000 ≠ 0xE0000000 ∧ address ≠ 0xFFFFFFFF

structure TsolEndpoint where
  address : Ipv4Addr
  port : UInt16
  bounds : port ≠ 0 ∧ single address = true
  deriving DecidableEq

def TsolEndpoint.new (address : Ipv4Addr) (port : UInt16) : Option TsolEndpoint :=
  if bounds : port ≠ 0 ∧ single address = true then some ⟨address, port, bounds⟩ else none

structure UnexpectedTsolResponse where
  length : Nat
  deriving DecidableEq

inductive SetSessionPrivilegeError where
  | invalidLength (length : Nat)
  | invalidPrivilege (value : UInt8)
  deriving DecidableEq

abbrev CommandError := IpmiError RmcpIpmiError UnexpectedTsolResponse
abbrev ProbeError := IpmiError RmcpIpmiError NotEnoughData
abbrev PrivilegeError := IpmiError RmcpIpmiError SetSessionPrivilegeError

inductive TsolReceiveError where
  | io
  | timeout
  | cancelled
  | truncatedHeader
  | datagramTooLarge
  | tooManyUnrelatedDatagrams
  deriving DecidableEq

inductive TsolInterruptionReason where
  | receive (error : TsolReceiveError)
  | keepalive (error : ProbeError)
  | keystroke (error : CommandError)
  | stop (error : CommandError)
  | closedWithBufferedOutput
  deriving DecidableEq

structure TsolInterruption where
  reason : TsolInterruptionReason
  confirmedInput : Nat
  inputDeliveryUncertain : Bool
  remoteCloseUnconfirmed : Bool
  bufferedOutput : List UInt8
  deriving DecidableEq

inductive TsolError where
  | ipmi15Required
  | authenticatedAdministratorRequired
  | ipv4LanRequired
  | io
  | deviceId (error : ProbeError)
  | wrongDevice (manufacturer : UInt32)
  | channelAuthentication (error : ProbeError)
  | channelInfo (error : ProbeError)
  | channelAccess (error : ProbeError)
  | unsupportedChannel
  | setSessionPrivilege (error : PrivilegeError)
  | activePrivilegeMismatch (privilege : PrivilegeLevel)
  | invalidInputLength
  | closed
  | start (source : CommandError) (remoteCloseUnconfirmed : Bool)
  | interrupted (interruption : TsolInterruption)
  deriving DecidableEq

/-- `may_have_executed`: every failure but a refusal by the BMC and those
before anything is sent. -/
def mayHaveExecuted : CommandError → Bool
  | .failed _ _ _ _ => false
  | .connection .notActive => false
  | .connection (.send error) =>
    match error with
    | .cancelled | .deadlineExpired | .requestPending | .ipmbSequenceExhausted
    | .sessionSequenceExhausted | .unsupportedTarget | .invalidNetfn _ => false
    | _ => true
  | _ => true

/-! ### The connection -/

/-- What the checks read of an IPMI 1.5 session. -/
structure V15 where
  activated : Bool
  maximumPrivilege : Option PrivilegeLevel
  negotiatedAuth : Option AuthType
  authType : AuthType
  password : Bool
  activePrivilege : Option PrivilegeLevel
  deriving DecidableEq

def V15.tsolEligible (state : V15) : Bool :=
  state.activated ∧ state.maximumPrivilege = some .administrator ∧
    state.negotiatedAuth = some state.authType ∧ (state.authType = .md2 ∨ state.authType = .md5) ∧
    state.password

def V15.tsolCapable (state : V15) : Bool :=
  state.tsolEligible ∧ state.activePrivilege = some .administrator

inductive ActiveState where
  | v1_5 (state : V15)
  | v2_0
  deriving DecidableEq

/-- What is read of an `Rmcp`: its remote address, if that is an IPv4 one, and its session. -/
structure Connected where
  remote : Option Ipv4Addr
  active : Option ActiveState
  deriving DecidableEq

def Connected.eligible (c : Connected) : Except TsolError V15 :=
  match c.active with
  | some (.v1_5 state) =>
    if state.tsolEligible then .ok state else .error .authenticatedAdministratorRequired
  | _ => .error .ipmi15Required

def Connected.authenticated (c : Connected) : Except TsolError V15 := do
  let state ← c.eligible
  if state.tsolCapable then return state else throw .authenticatedAdministratorRequired

def Connected.setTsolActivePrivilege (c : Connected) (state : V15) (privilege : Option PrivilegeLevel) :
    Connected :=
  { c with active := some (.v1_5 { state with activePrivilege := privilege }) }

/-! ### What is logged -/

/-- A datagram that reached the listener. -/
structure Datagram where
  bytes : List UInt8
  source : SocketAddr
  deriving DecidableEq

inductive Event where
  | probe
  | start (endpoint : TsolEndpoint) (result : Except CommandError Unit)
  | stop (endpoint : TsolEndpoint)
  | keepalive
  | keystroke (bytes : List UInt8) (sequence : UInt8)
  | received (datagram : Datagram)
  | read (bytes : List UInt8)
  | buffered (bytes : List UInt8)
  deriving DecidableEq

/-- Why a call stops before its end: it has not returned yet, or it fails. -/
inductive Halt where
  | waiting
  | error (error : TsolError)
  deriving DecidableEq

/-- `stop_bounded`, with what the command comes to if it is sent. -/
def stopBounded (c : Connected) (endpoint : TsolEndpoint) (stopped : Except CommandError Unit) :
    Except CommandError Unit × List Event :=
  match c.authenticated with
  | .error _ => (.error (.connection .notActive), [])
  | .ok _ => (stopped, [.stop endpoint])

/-! ### Opening -/

inductive ChannelMediumType where
  | lan802_3
  | other (value : UInt8)
  deriving DecidableEq

inductive ChannelProtocolType where
  | ipmbV1_0
  | other (value : UInt8)
  deriving DecidableEq

inductive ChannelSessionSupport where
  | sessionless
  | singleSession
  | multiSession
  | sessionBased
  | reserved (value : UInt8)
  deriving DecidableEq

inductive ChannelAccessMode where
  | disabled
  | preBootOnly
  | alwaysAvailable
  | shared
  | unknown (value : UInt8)
  deriving DecidableEq

inductive ChannelPrivilegeLevel where
  | reserved
  | callback
  | user
  | operator
  | administrator
  | oem
  | noAccess
  | unknown (value : UInt8)
  deriving DecidableEq

/-- What `preflight_tyan_tsol` reads of the replies to its commands. -/
structure AuthenticationCaps where
  ipmi15ConnectionsSupported : Bool
  perMessageAuthenticationEnabled : Bool
  userLevelAuthenticationEnabled : Bool
  deriving DecidableEq

structure ChannelInfo where
  mediumType : ChannelMediumType
  protocolType : ChannelProtocolType
  sessionSupport : ChannelSessionSupport
  deriving DecidableEq

structure ChannelAccess where
  accessMode : ChannelAccessMode
  privilegeLevelLimit : ChannelPrivilegeLevel
  perMsgAuthDisabled : Bool
  userLevelAuthDisabled : Bool
  deriving DecidableEq

def AuthenticationCaps.usable (caps : AuthenticationCaps) : Bool :=
  caps.ipmi15ConnectionsSupported && caps.perMessageAuthenticationEnabled && caps.userLevelAuthenticationEnabled

def ChannelInfo.usable (info : ChannelInfo) : Bool :=
  info.mediumType == .lan802_3 && info.protocolType == .ipmbV1_0 &&
    match info.sessionSupport with
    | .sessionless | .reserved _ => false
    | _ => true

def ChannelAccess.usable (access : ChannelAccess) : Bool :=
  (access.accessMode == .alwaysAvailable || access.accessMode == .shared) &&
    (access.privilegeLevelLimit == .administrator || access.privilegeLevelLimit == .oem) &&
    !access.perMsgAuthDisabled && !access.userLevelAuthDisabled

/-- What opening a session meets: the route of the connection, what each
command comes to, and the listener that is bound. -/
structure OpenConditions where
  route : Option (Ipv4Addr × Ipv4Addr)
  device : Except ProbeError DeviceId
  caps : Except ProbeError AuthenticationCaps
  info : Except ProbeError ChannelInfo
  access : Except ProbeError ChannelAccess
  privilege : Except PrivilegeError PrivilegeLevel
  bound : Option UInt16
  start : Except CommandError Unit
  stopped : Except CommandError Unit
  now : Instant

/-- A computation over a connection and the log. -/
abbrev Opening (α : Type) := Stateful (Connected × List Event) TsolError α

/-- A command of the preflight. -/
def probe {α β : Type} (reply : Except β α) (error : β → TsolError) : Opening α := do
  modify fun (c, log) => (c, log ++ [.probe])
  MonadExcept.ofExcept (reply.mapError error)

/-- The privilege the session is known to run at is set. -/
def setActivePrivilege (privilege : Option PrivilegeLevel) : Opening Unit := do
  let (c, _) ← get
  let state ← MonadExcept.ofExcept c.eligible
  modify fun (c, log) => (c.setTsolActivePrivilege state privilege, log)

/-- `preflight_tyan_tsol` -/
def preflightTyanTsol (met : OpenConditions) : Opening (Ipv4Addr × Ipv4Addr) := do
  let (c, _) ← get
  match c.remote with
  | none => throw .ipv4LanRequired
  | some remote =>
    let _ ← MonadExcept.ofExcept c.eligible
    match met.route with
    | none => throw .ipv4LanRequired
    | some (localAddr, peer) =>
      if peer ≠ remote ∨ (TsolEndpoint.new localAddr 1).isNone then throw .ipv4LanRequired
      else
        let device ← probe met.device .deviceId
        if device.manufacturerId ≠ 6653 then throw (.wrongDevice device.manufacturerId)
        else
          let caps ← probe met.caps .channelAuthentication
          if !caps.usable then throw .unsupportedChannel
          else
            let info ← probe met.info .channelInfo
            if !info.usable then throw .unsupportedChannel
            else
              let access ← probe met.access .channelAccess
              if !access.usable then throw .unsupportedChannel
              else
                setActivePrivilege none
                let active ← probe met.privilege .setSessionPrivilege
                if active ≠ .administrator then throw (.activePrivilegeMismatch active)
                else
                  setActivePrivilege (some active)
                  return (localAddr, remote)

structure TsolSession where
  connection : Connected
  endpoint : TsolEndpoint
  peer : Ipv4Addr
  active : Bool
  lastControlActivity : Instant
  keySequence : UInt8
  buffer : List UInt8
  pendingStart : Nat
  pendingEnd : Nat

/-- `open_tyan_tsol` -/
def openTyanTsol (met : OpenConditions) : Opening TsolSession := do
  let (localAddr, peer) ← preflightTyanTsol met
  match met.bound with
  | none => throw .io
  | some port =>
    match TsolEndpoint.new localAddr port with
    | none => throw .ipv4LanRequired
    | some endpoint =>
      modify fun (c, log) => (c, log ++ [.start endpoint met.start])
      match met.start with
      | .error source =>
        if mayHaveExecuted source then
          let stopped ← modifyGet fun (c, log) =>
            ((stopBounded c endpoint met.stopped).1, c, log ++ (stopBounded c endpoint met.stopped).2)
          throw (.start source (!stopped.isOk))
        else throw (.start source false)
      | .ok () =>
        let (c, _) ← get
        return {
          connection := c
          endpoint
          peer
          active := true
          lastControlActivity := met.now
          keySequence := 0
          buffer := List.replicate (MAX_DATAGRAM + 1) 0
          pendingStart := 0
          pendingEnd := 0 }

/-! ### A session -/

abbrev Logged := TsolSession × List Event

/-- A computation over a session and the log. -/
abbrev Console (α : Type) := Stateful Logged Halt α

def tell (event : Event) : Console Unit := modify fun (s, log) => (s, log ++ [event])

/-- The bytes of the last datagram that are still to be read. -/
def TsolSession.pending (s : TsolSession) : List UInt8 := (s.buffer.take s.pendingEnd).drop s.pendingStart

def TsolSession.hasPending (s : TsolSession) : Bool := s.pendingStart < s.pendingEnd

/-- A session is ended and stopped, and its unread bytes are taken. -/
def shutDown (stopped : Except CommandError Unit) : Console (Except CommandError Unit × List UInt8) :=
  modifyGet fun (s, log) =>
    let (result, events) := stopBounded s.connection s.endpoint stopped
    ((result, s.pending), { s with active := false, pendingStart := 0, pendingEnd := 0 }, log ++ events)

/-- The error a session ends with, with the bytes it hands over. -/
def interrupted {α : Type} (reason : TsolInterruptionReason) (inputDeliveryUncertain remoteCloseUnconfirmed : Bool)
    (output : List UInt8) : Console α := do
  tell (.buffered output)
  throw (.error (.interrupted ⟨reason, 0, inputDeliveryUncertain, remoteCloseUnconfirmed, output⟩))

def interrupt {α : Type} (reason : TsolInterruptionReason) (inputDeliveryUncertain : Bool)
    (stopped : Except CommandError Unit) : Console α := do
  let (result, output) ← shutDown stopped
  interrupted reason inputDeliveryUncertain (!result.isOk) output

def closeInner (stopped : Except CommandError Unit) : Console Unit := do
  let (s, _) ← get
  if !s.active then throw (.error .closed)
  else
    let (result, output) ← shutDown stopped
    match result with
    | .error error => interrupted (.stop error) false true output
    | .ok () => if output ≠ [] then interrupted .closedWithBufferedOutput false false output else return ()

/-- What a keepalive meets. -/
structure KeepaliveConditions where
  elapsedAt : Instant
  cancelled : Bool
  now : Instant
  result : Except ProbeError Unit
  doneAt : Instant
  deriving DecidableEq

def keepaliveIfDue (deadline : Instant) (met : KeepaliveConditions) (stopped : Except CommandError Unit) :
    Console Unit := do
  let (s, _) ← get
  if met.elapsedAt - s.lastControlActivity < KEEPALIVE_INTERVAL then return ()
  else if met.cancelled then interrupt (.receive .cancelled) false stopped
  else if deadline ≤ met.now then interrupt (.receive .timeout) false stopped
  else
    match s.connection.authenticated with
    | .error error => throw (.error error)
    | .ok _ =>
      tell .keepalive
      match met.result with
      | .ok () => modify fun (s, log) => ({ s with lastControlActivity := met.doneAt }, log)
      | .error error => interrupt (.keepalive error) false stopped

/-- What the listener makes of a read. A retry is one that timed out, would
block or was interrupted. -/
inductive ListenerRead where
  | datagram (datagram : Datagram)
  | retry
  | failed
  deriving DecidableEq

/-- One turn of the loop of `read_until`. -/
structure ReadTurn where
  now : Instant
  cancelled : Bool
  keepalive : KeepaliveConditions
  cancelledLater : Bool
  nowLater : Instant
  timeoutSet : Bool
  listener : ListenerRead
  stopped : Except CommandError Unit
  deriving DecidableEq

/-- `read_pending` -/
def readPending (length : Nat) : Console Nat := do
  let (s, _) ← get
  let count := min length (s.pendingEnd - s.pendingStart)
  tell (.read (s.pending.take count))
  modify fun (s, log) => ({ s with pendingStart := s.pendingStart + count }, log)
  return count

/-- What a received datagram leads to: an error, or how many unrelated ones there are now. -/
def acceptDatagram (unrelated : Nat) (datagram : Datagram) : Console (Except TsolReceiveError Nat) := do
  let (s, _) ← get
  let received := min datagram.bytes.length (MAX_DATAGRAM + 1)
  modify fun (s, log) =>
    ({ s with buffer := datagram.bytes.take received ++ s.buffer.drop received }, log ++ [.received datagram])
  if !datagram.source.isHost s.peer then
    return if MAX_UNRELATED ≤ unrelated + 1 then .error .tooManyUnrelatedDatagrams else .ok (unrelated + 1)
  else if MAX_DATAGRAM < received then return .error .datagramTooLarge
  else if received < 4 then return .error .truncatedHeader
  else if received = 4 then
    return if MAX_UNRELATED ≤ unrelated + 1 then .error .tooManyUnrelatedDatagrams else .ok (unrelated + 1)
  else
    modify fun (s, log) => ({ s with pendingStart := 4, pendingEnd := received }, log)
    return .ok unrelated

/-- The loop of `read_until`. -/
def readLoop (length : Nat) (deadline : Instant) : Nat → List ReadTurn → Console Nat
  | _, [] => throw .waiting
  | unrelated, turn :: turns => do
    let (s, _) ← get
    if s.hasPending && (decide (deadline ≤ turn.now) || turn.cancelled) then readPending length
    else
      keepaliveIfDue deadline turn.keepalive turn.stopped
      let (s, _) ← get
      if s.hasPending then readPending length
      else if turn.cancelledLater then interrupt (.receive .cancelled) false turn.stopped
      else if deadline ≤ turn.nowLater then interrupt (.receive .timeout) false turn.stopped
      else if !turn.timeoutSet then interrupt (.receive .io) false turn.stopped
      else
        match turn.listener with
        | .retry => readLoop length deadline unrelated turns
        | .failed => interrupt (.receive .io) false turn.stopped
        | .datagram datagram =>
          match ← acceptDatagram unrelated datagram with
          | .error error => interrupt (.receive error) false turn.stopped
          | .ok unrelated => readLoop length deadline unrelated turns

/-- `read_until`, of as many bytes as there is room for. -/
def readUntil (length : Nat) (deadline policyDeadline : Instant) (turns : List ReadTurn) : Console Nat := do
  let (s, _) ← get
  if !s.active then throw (.error .closed)
  else if length = 0 then return 0
  else readLoop length (min deadline policyDeadline) 0 turns

/-- What sending input meets. -/
structure InputConditions where
  cancelled : Bool
  deadline : Instant
  keepalive : KeepaliveConditions
  result : Except CommandError Unit
  doneAt : Instant
  stopped : Except CommandError Unit
  deriving DecidableEq

def sendInput (bytes : List UInt8) (met : InputConditions) : Console Nat := do
  let (s, _) ← get
  if !s.active then throw (.error .closed)
  else if ¬(1 ≤ bytes.length ∧ bytes.length ≤ 14) then throw (.error .invalidInputLength)
  else if met.cancelled then interrupt (.receive .cancelled) false met.stopped
  else
    keepaliveIfDue met.deadline met.keepalive met.stopped
    modify fun (s, log) => ({ s with keySequence := s.keySequence + 1 }, log)
    match s.connection.authenticated with
    | .error error => throw (.error error)
    | .ok _ =>
      tell (.keystroke bytes s.keySequence)
      match met.result with
      | .ok () =>
        modify fun (s, log) => ({ s with lastControlActivity := met.doneAt }, log)
        return bytes.length
      | .error error => interrupt (.keystroke error) (mayHaveExecuted error) met.stopped

/-! ### Calls in turn -/

/-- Where a console is in its life. A call that has not returned keeps its session. -/
inductive Stage where
  | unopened (connection : Connected)
  | opened (session : TsolSession)
  | waiting (session : TsolSession)
  | closed

inductive Call where
  | open (met : OpenConditions)
  | read (length : Nat) (deadline policyDeadline : Instant) (turns : List ReadTurn)
  | sendInput (bytes : List UInt8) (met : InputConditions)
  | close (stopped : Except CommandError Unit)

inductive Outcome where
  | opened
  | returned (count : Nat)
  | failed (error : TsolError)
  | waiting
  | blocked
  deriving DecidableEq

/-- What a call of an open session leaves. -/
def called (result : Except Halt Nat × Logged) : Outcome × (Stage × List Event) :=
  match result with
  | (.ok count, s, log) => (.returned count, .opened s, log)
  | (.error .waiting, s, log) => (.waiting, .waiting s, log)
  | (.error (.error error), s, log) => (.failed error, .opened s, log)

/-- A call of a console: a session is opened once, used, and ended by `close`. -/
def step : Stage × List Event → Call → Outcome × (Stage × List Event)
  | (.unopened c, log), .open met =>
    match (openTyanTsol met).eval (c, log) with
    | (.ok s, _, log) => (.opened, .opened s, log)
    | (.error error, _, log) => (.failed error, .closed, log)
  | (.opened s, log), .read length deadline policyDeadline turns =>
    called ((readUntil length deadline policyDeadline turns).eval (s, log))
  | (.opened s, log), .sendInput bytes met => called ((sendInput bytes met).eval (s, log))
  | (.opened s, log), .close stopped =>
    match (closeInner stopped).eval (s, log) with
    | (.ok (), _, log) => (.returned 0, .closed, log)
    | (.error .waiting, s, log) => (.waiting, .waiting s, log)
    | (.error (.error error), _, log) => (.failed error, .closed, log)
  | s, _ => (.blocked, s)

end Tsol
end IpmiRs.Rmcp
