import IpmiRs.Library.Chunks
import IpmiRs.Rmcp.Activation
import IpmiRs.Rmcp.SolFrames

/-! The life of a console session, `rmcp/sol.rs`: opening, reading, input,
controls, closing and reconnecting. What the clock, a cancellation and the
network do is an explicit input of each call. Every frame that the flow takes
and every frame that is sent with a data sequence is logged. -/
namespace IpmiRs.Rmcp.Sol
open App App.Auth Connection Library Library.Bytes

def MAX_RETRANSMISSIONS : Nat := 2
def MAX_INPUT_CALL : Nat := 4096

/-! ### Commands -/

/-- `SolInstance`, a payload instance. -/
structure SolInstance where
  value : UInt8
  bounds : 1 ≤ value ∧ value ≤ 15
  deriving DecidableEq

def SolInstance.new (value : UInt8) : Option SolInstance :=
  if bounds : 1 ≤ value ∧ value ≤ 15 then some ⟨value, bounds⟩ else none

structure SolActivation where
  auxiliary : List UInt8
  maxInput : UInt16
  maxOutput : UInt16
  port : UInt16
  vlan : UInt16
  deriving DecidableEq

inductive SolPayloadError where
  | invalidLength (length : Nat)
  | invalidLimits
  | alreadyActive
  | disabled
  | limitReached
  | encryptionUnavailable
  | encryptionRequired
  | alreadyInactive
  deriving DecidableEq

/-- The number in the two bytes from a place on. -/
def word (data : List UInt8) (n : Nat) : UInt16 := UInt16.ofNat (ofLe ((data.drop n).take 2))

/-- `ActivateSol`, with both authentication and encryption. -/
def activateSolCommand (inst : SolInstance) : IpmiCommand SolActivation SolPayloadError where
  message := .newRequest .app 0x48 [1, inst.value, 0xC6, 0, 0, 0]
  parse data :=
    if data.length ≠ 12 then .error (.invalidLength data.length)
    else if word data 4 ≤ 4 ∨ word data 6 ≤ 4 ∨ word data 8 = 0 then .error .invalidLimits
    else .ok ⟨data.take 4, word data 4, word data 6, word data 8, word data 10⟩
  handleCompletionCode code _ :=
    match code with
    | .commandSpecific value =>
      match value.toNat with
      | 0x80 => some .alreadyActive
      | 0x81 => some .disabled
      | 0x82 => some .limitReached
      | 0x83 => some .encryptionUnavailable
      | 0x84 => some .encryptionRequired
      | _ => none
    | _ => none

/-- `DeactivateSol` -/
def deactivateSolCommand (inst : SolInstance) : IpmiCommand Unit SolPayloadError where
  message := .newRequest .app 0x49 [1, inst.value, 0, 0, 0, 0]
  parse data := if data = [] then .ok () else .error (.invalidLength data.length)
  handleCompletionCode code _ :=
    match code with
    | .commandSpecific value =>
      match value.toNat with
      | 0x80 => some .alreadyInactive
      | 0x81 => some .disabled
      | _ => none
    | _ => none

abbrev PayloadError := IpmiError RmcpIpmiError SolPayloadError

/-! ### Errors -/

inductive SolInterruptionReason where
  | receive (error : RmcpIpmiReceiveError)
  | send (error : RmcpIpmiError)
  | remoteNack
  | noProgress
  | deactivation
  | closedWithBufferedOutput
  | reconnect
  deriving DecidableEq

structure SolInterruption where
  reason : SolInterruptionReason
  confirmedInput : Nat
  inputDeliveryUncertain : Bool
  outputDeliveryUncertain : Bool
  remoteCloseUnconfirmed : Bool
  bufferedOutput : List UInt8
  deriving DecidableEq

inductive SolError where
  | rmcpPlusRequired
  | invalidOperation
  | activation (source : PayloadError)
  | activationWithOutput (source : PayloadError) (bufferedOutput : List UInt8)
  | activationUncertain (source : PayloadError) (remoteCloseUnconfirmed : Bool) (bufferedOutput : List UInt8)
  | unsupportedRoute (port vlan : UInt16) (remoteCloseUnconfirmed : Bool) (bufferedOutput : List UInt8)
  | bufferedOutputPending
  | interrupted (interruption : SolInterruption)
  deriving DecidableEq

/-- The output that an error carries. -/
def SolError.output : SolError → List UInt8
  | .activationWithOutput _ bufferedOutput => bufferedOutput
  | .activationUncertain _ _ bufferedOutput => bufferedOutput
  | .unsupportedRoute _ _ _ bufferedOutput => bufferedOutput
  | .interrupted interruption => interruption.bufferedOutput
  | _ => []

structure CaptureGap where
  outputMissing : Bool
  previousRemoteCloseUnconfirmed : Bool
  attempts : Nat
  deriving DecidableEq

/-- The payload may have been activated: every failure but a refusal by the BMC
and those before anything is sent. -/
def possiblyActivated : PayloadError → Bool
  | .command .alreadyActive _ _ _ _ | .command .disabled _ _ _ _ | .command .limitReached _ _ _ _
  | .command .encryptionUnavailable _ _ _ _ | .command .encryptionRequired _ _ _ _ => false
  | .failed _ _ _ _ => false
  | .connection .notActive => false
  | .connection (.send error) =>
    match error with
    | .cancelled | .deadlineExpired | .requestPending | .ipmbSequenceExhausted
    | .sessionSequenceExhausted | .unsupportedTarget | .invalidNetfn _ => false
    | _ => true
  | _ => true

/-! ### A session -/

/-- What a call stops with: the network has not let it return yet, it panics, or it fails. -/
inductive Halt where
  | waiting
  | panicked
  | error (error : SolError)
  deriving DecidableEq

inductive Event where
  /-- The flow took a frame, which came with a session sequence number, and some bytes of it. -/
  | received (sequence : UInt32) (frame : SolFrame) (bytes : List UInt8)
  /-- A frame may have reached the BMC. -/
  | sent (frame : SolFrame)
  deriving DecidableEq

/-- `SolSession` with its connection, of which `requireRmcpPlus` is part. -/
structure SolSession where
  connection : RmcpConnection
  requireRmcpPlus : Bool
  inst : SolInstance
  active : Bool
  remoteCloseUnconfirmed : Bool

abbrev Logged := SolSession × List Event

/-- A computation over a session and the log. -/
abbrev Console (α : Type) := Stateful Logged Halt α

/-- What a flow makes of some frames. -/
def flowEvents : SolFlow → List Numbered → List Event
  | _, [] => []
  | flow, ⟨sequence, frame⟩ :: rest =>
    .received sequence frame (flow.taken frame) :: flowEvents (flow.accept frame).2 rest

def tell (events : List Event) : Console Unit := modify fun (s, log) => (s, log ++ events)

/-- The flow, if there is one, takes some frames. -/
def tellFrames (flow : Option SolFlow) (frames : List Numbered) : Console Unit :=
  tell (flow.elim [] (flowEvents · frames))

/-- `state`: the active RMCP+ session. -/
def state : Console V2State := do
  let (s, _) ← get
  match s.connection.active with
  | some (.v2_0 state) => return state
  | _ => throw (.error .rmcpPlusRequired)

def setState (state : V2State) : Console Unit :=
  modify fun (s, log) => ({ s with connection := { s.connection with active := some (.v2_0 state) } }, log)

/-- `sol_flow` -/
def solFlow : Console SolFlow := do
  match (← state).sol with
  | some flow => return flow
  | none => throw .panicked

def setFlow (flow : SolFlow) : Console Unit := do
  setState { ← state with sol := some flow }

def setActive (active : Bool) : Console Unit := modify fun (s, log) => ({ s with active }, log)

def setUnconfirmed (remoteCloseUnconfirmed : Bool) : Console Unit :=
  modify fun (s, log) => ({ s with remoteCloseUnconfirmed }, log)

section session
variable (digests : Digests) (backend : Backend) (remotePort : UInt16)

/-- `Ipmi::send_recv` of the connection. -/
def transact {α : Type} (command : IpmiCommand α SolPayloadError) (met : Conditions) :
    Console (Except PayloadError α) := do
  let (s, _) ← get
  tellFrames s.connection.sol (s.connection.frames backend.provider command.request met)
  modifyGet fun (s, log) =>
    let (result, connection) := ((rmcp digests backend.provider fun _ => met).sendRecv command).eval s.connection
    (result, { s with connection }, log)

/-- `poll_sol` -/
def pollSol (deadline : Instant) (waitAck : Bool) (turns : List Turn) :
    Console (Except RmcpIpmiReceiveError Unit) := do
  let s ← state
  tellFrames s.sol (s.pollFrames backend.provider deadline waitAck turns 0)
  let call := V2State.pollSol backend.provider deadline waitAck turns 0 s
  setState call.state
  match call.result with
  | some (.returned result) => return result
  | some .panicked => throw .panicked
  | none => throw .waiting

/-- The queue of the flow is taken, and the flow is closed. -/
def takeOutput : Console (List UInt8) := do
  let flow ← solFlow
  setState (← state).solClose
  return flow.output

/-- `deactivate_bounded`, which may be given a fresh cancellation and time. -/
def deactivateBounded (met : Conditions) : Console (Except PayloadError Unit × List UInt8) := do
  let (s, _) ← get
  match s.connection.active with
  | some (.v2_0 _) =>
    let result ← transact digests backend (deactivateSolCommand s.inst) met
    let (s, _) ← get
    match s.connection.active with
    | some (.v2_0 _) => return (result, ← takeOutput)
    | _ => return (result, [])
  | _ => return (.error (.connection .notActive), [])

/-! ### Opening -/

/-- What opening meets: the activation, and the deactivation if one follows. -/
structure OpenConditions where
  activating : Conditions
  cleanup : Conditions

/-- `activate_sol` -/
def activateSol (met : OpenConditions) : Console Unit := do
  setState (← state).solOpen
  let (s, _) ← get
  match ← transact digests backend (activateSolCommand s.inst) met.activating with
  | .error error =>
    if possiblyActivated error then
      let (cleanup, bufferedOutput) ← deactivateBounded digests backend met.cleanup
      throw (.error (.activationUncertain error (!cleanup.isOk) bufferedOutput))
    else
      let bufferedOutput ← takeOutput
      if bufferedOutput ≠ [] then throw (.error (.activationWithOutput error bufferedOutput))
      else throw (.error (.activation error))
  | .ok activation =>
    if activation.port ≠ remotePort ∨ activation.vlan ≠ 0 then
      let (cleanup, bufferedOutput) ← deactivateBounded digests backend met.cleanup
      throw (.error (.unsupportedRoute activation.port activation.vlan (!cleanup.isOk) bufferedOutput))
    else setState ((← state).solLimits activation.maxInput activation.maxOutput)

/-- `open_sol_capture` and `open_sol_interactive` -/
def openSol (inst : SolInstance) (met : OpenConditions) : Console Unit := do
  modify fun (s, log) => ({ s with inst }, log)
  activateSol digests backend remotePort met
  setActive true
  setUnconfirmed false

/-! ### Reading and closing -/

/-- `interrupted` -/
def interrupted {α : Type} (reason : SolInterruptionReason) (confirmedInput : Nat) (inputDeliveryUncertain : Bool)
    (cleanup : Conditions) : Console α := do
  let (s, _) ← get
  if s.active then
    setActive false
    let (cleanup, bufferedOutput) ← deactivateBounded digests backend cleanup
    setUnconfirmed (!cleanup.isOk)
    throw (.error (.interrupted
      ⟨reason, confirmedInput, inputDeliveryUncertain, true, !cleanup.isOk, bufferedOutput⟩))
  else
    setUnconfirmed true
    throw (.error (.interrupted ⟨reason, confirmedInput, inputDeliveryUncertain, true, true, []⟩))

/-- What a read meets. -/
structure ReadConditions where
  cancelled : Bool
  socketDeadline : Instant
  turns : List Turn
  cleanup : Conditions

/-- `SolFlow::read` -/
def readFlow (room : Nat) : Console (List UInt8) := do
  let (bytes, flow) := (← solFlow).read room
  setFlow flow
  return bytes

/-- `read_until`, into a buffer of some room. -/
def readUntil (room : Nat) (deadline : Instant) (met : ReadConditions) : Console (List UInt8) := do
  let (s, _) ← get
  if !s.active then throw (.error .invalidOperation)
  else if room = 0 then return []
  else
    let bytes ← readFlow room
    if bytes ≠ [] then return bytes
    else if met.cancelled then interrupted digests backend (.receive .cancelled) 0 false met.cleanup
    else
      match ← pollSol backend (min deadline met.socketDeadline) false met.turns with
      | .ok () => readFlow room
      | .error error => interrupted digests backend (.receive error) 0 false met.cleanup

/-- `read` -/
def read (room : Nat) (met : ReadConditions) : Console (List UInt8) := do
  let _ ← state
  readUntil digests backend room met.socketDeadline met

/-- The error of a session that is closed with some output. -/
def closeError (reason : SolInterruptionReason) (remoteCloseUnconfirmed : Bool) (bufferedOutput : List UInt8) :
    Halt :=
  .error (.interrupted ⟨reason, 0, false, true, remoteCloseUnconfirmed, bufferedOutput⟩)

/-- `close_inner` -/
def closeInner (cleanup : Conditions) : Console Unit := do
  let (s, _) ← get
  if !s.active then
    if s.remoteCloseUnconfirmed then throw (closeError .deactivation true []) else return ()
  else
    setActive false
    let (result, bufferedOutput) ← deactivateBounded digests backend cleanup
    setUnconfirmed (!result.isOk)
    if !result.isOk then throw (closeError .deactivation true bufferedOutput)
    else if bufferedOutput ≠ [] then throw (closeError .closedWithBufferedOutput false bufferedOutput)
    else return ()

/-! ### Reconnecting -/

/-- What one attempt to reconnect meets. -/
structure ReconnectAttempt where
  activation : ActivationConditions
  opening : OpenConditions

structure ReconnectConditions where
  cleanup : Conditions
  cancelled : Bool
  attempts : List ReconnectAttempt

/-- `Rmcp::activate`, of the connection. -/
def reactivate (username : String) (password : List UInt8) (met : ActivationConditions) :
    Console (Except RmcpActivationError Unit) := do
  let (s, _) ← get
  Stateful.attempt (Stateful.zoom (fun (s, _) => s.connection) (fun connection (s, log) => ({ s with connection }, log))
    (activate digests s.requireRmcpPlus true (some username) (some password) backend met))

/-- An attempt that fails: whether the remote close is unconfirmed after it, if
the error carries no output. -/
def afterFailure (error : SolError) (remoteCloseUnconfirmed : Bool) : Except SolError Bool :=
  match error with
  | .activationUncertain _ unconfirmed bufferedOutput | .unsupportedRoute _ _ unconfirmed bufferedOutput =>
    if bufferedOutput = [] then .ok (remoteCloseUnconfirmed || unconfirmed) else .error error
  | .activationWithOutput _ _ => .error error
  | _ => .ok remoteCloseUnconfirmed

/-- One attempt: it succeeds, or the next one follows unless there is to be none. -/
def reconnectOnce (username : String) (password : List UInt8) (met : ReconnectAttempt) (unconfirmed : Bool) :
    Console (Except (Bool × Bool) Unit) := do
  match ← reactivate digests backend username password met.activation with
  | .error error => return .error (unconfirmed, error = .pongReceive .cancelled)
  | .ok () =>
    match ← Stateful.attempt (activateSol digests backend remotePort met.opening) with
    | .ok () =>
      setActive true
      return .ok ()
    | .error (.error error) =>
      match afterFailure error unconfirmed with
      | .error error => throw (.error error)
      | .ok unconfirmed => return .error (unconfirmed, false)
    | .error halt => throw halt

/-- The attempts that are left, after some. -/
def reconnectLoop (username : String) (password : List UInt8) :
    Nat → Nat → List ReconnectAttempt → Bool → Console CaptureGap
  | 0, _, _, unconfirmed => throw (closeError .reconnect unconfirmed [])
  | _ + 1, _, [], _ => throw .waiting
  | left + 1, attempts, met :: rest, unconfirmed => do
    match ← reconnectOnce digests backend remotePort username password met unconfirmed with
    | .ok () => return ⟨true, unconfirmed, attempts⟩
    | .error (unconfirmed, stop) =>
      if stop then throw (closeError .reconnect unconfirmed [])
      else reconnectLoop username password left (attempts + 1) rest unconfirmed

/-- A live session is closed before it is replaced. -/
def closePrevious (cleanup : Conditions) : Console Bool := do
  let (s, _) ← get
  if !s.active then return s.remoteCloseUnconfirmed
  else
    match ← Stateful.attempt (closeInner digests backend cleanup) with
    | .ok () => return false
    | .error (.error error) => if error.output ≠ [] then throw (.error error) else return true
    | .error halt => throw halt

/-- Whether a live session has output that was not read. -/
def unread : Console Bool := do
  let (s, _) ← get
  if s.active then return (← solFlow).hasOutput else return false

/-- `reconnect` -/
def reconnect (username : String) (password : List UInt8) (maxAttempts : Nat) (met : ReconnectConditions) :
    Console CaptureGap := do
  if ¬(1 ≤ maxAttempts ∧ maxAttempts ≤ 3) then throw (.error .invalidOperation)
  else
    if ← unread then throw (.error .bufferedOutputPending)
    else
      let unconfirmed ← closePrevious digests backend met.cleanup
      if met.cancelled then throw (closeError .reconnect unconfirmed [])
      else
        modify fun (s, log) => ({ s with requireRmcpPlus := true }, log)
        reconnectLoop digests backend remotePort username password maxAttempts 1 met.attempts unconfirmed

end session
end IpmiRs.Rmcp.Sol
