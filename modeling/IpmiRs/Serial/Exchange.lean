import IpmiRs.Library.Checksum
import IpmiRs.Library.Checked
import IpmiRs.Library.Runs
import IpmiRs.Library.Stateful
import IpmiRs.Serial.Frame

/-! Requests and replies over a serial connection, `serial.rs`: `send` and
`recv` of `SerialConnection`, with the matcher they share. What the port, the
clock and a cancellation do is an explicit input of each call. -/
namespace IpmiRs.Serial
open Connection Library Library.Checked

def BMC : UInt8 := 0x20
def REQUESTER : UInt8 := 0x81
def MAX_UNRELATED : Nat := 32

/-- The kind of `io::Error` an uncertain send is told with. -/
inductive SendFailure where
  | interrupted
  | timedOut
  | writeZero
  | io
  deriving DecidableEq

inductive SerialSendError where
  | requestPending
  | connectionUncertain
  | unsupportedTarget
  | invalidNetfn
  | requestTooLong
  | cancelled
  | outcomeUnknown (failure : SendFailure)
  deriving DecidableEq

/-- What a reply is matched against. -/
structure Expected where
  netfn : UInt8
  cmd : UInt8
  seq : UInt8
  target : UInt8
  deriving DecidableEq

structure Pending where
  outer : Expected
  inner : Option Expected
  deadline : Instant
  deriving DecidableEq

structure SerialConnection where
  mode : SerialMode
  timeout : Nat
  sequence : UInt8
  pending : Option Pending
  uncertain : Bool
  deriving DecidableEq

def SerialConnection.withPort (mode : SerialMode) (timeout : Nat) : SerialConnection where
  mode
  timeout
  sequence := 0
  pending := none
  uncertain := false

/-! ### Packets -/

def checksum (data : List UInt8) : UInt8 := 0 - Checksum.total data

def ipmb (target netfn source seq cmd : UInt8) (data : List UInt8) : List UInt8 :=
  let msg := [target, netfn]
  let msg := msg ++ [checksum msg]
  let msg := msg ++ [source, seq <<< 2, cmd]
  let msg := msg ++ data
  msg ++ [checksum (msg.drop 3)]

/-- `parse_ipmb`. Each field is read once those before it are as expected. -/
def parseIpmb (frame : List UInt8) (expected : Expected) :
    Checked SerialRecvError (Option (List UInt8)) := do
  if frame.length < 8 then return none
  if checksum (← slice frame 0 3) ≠ 0 then return none
  if checksum (← slice frame 3 frame.length) ≠ 0 then return none
  if (← index frame 0) ≠ REQUESTER then return none
  if (← index frame 1) ≠ ((expected.netfn ||| 4) &&& ~~~3) then return none
  if (← index frame 3) ≠ expected.target then return none
  if (← index frame 4) ≠ (expected.seq <<< 2) ||| (expected.netfn &&& 3) then return none
  if (← index frame 5) ≠ expected.cmd then return none
  return some (← slice frame 6 (frame.length - 1))

/-- How `receive_matching` matches a frame. -/
def matchFrame (mode : SerialMode) (expected : Expected) (frame : List UInt8) :
    Checked SerialRecvError (Option (List UInt8)) :=
  match mode with
  | .basic => parseIpmb frame expected
  | .terminal => do
    if frame.length < 4 then return none
    if (← index frame 0) ≠ expected.netfn ||| 4 then return none
    if ((← index frame 1) &&& ~~~(3 : UInt8)) ≠ expected.seq <<< 2 then return none
    if (← index frame 2) ≠ expected.cmd then return none
    return some (← slice frame 3 frame.length)

/-! ### Sending -/

/-- What `port.write` makes of the bytes it is handed. A retry is a timeout of
the port, an interruption or a write that would block. -/
inductive PortWrite where
  | wrote (count : Nat)
  | retry
  | failed
  deriving DecidableEq

/-- One turn of the loop that writes: what the checks find, whether it is
cancelled when an error is made of them, and the write. -/
structure WriteTurn where
  cancelled : Bool
  now : Instant
  cancelledThen : Bool
  write : PortWrite
  deriving DecidableEq

/-- What a call of `send` meets: whether it is cancelled, the time, the deadline
of the operation it is part of, if that has one, and the turns of its loop. -/
structure SendConditions where
  cancelled : Bool
  now : Instant
  operationDeadline : Option Instant
  writes : List WriteTurn
  deriving DecidableEq

/-- Where a request is bridged to, if it does not go to the BMC itself. -/
def bridge : RequestTargetAddress → Except SerialSendError (Option (Address × UInt8))
  | .bmc _ => .ok none
  | .bmcOrIpmb address channel _ =>
    if address = BMC ∧ channel.value = 0 then .ok none
    else if channel.value ≤ 0xB then .ok (some (address, channel.value))
    else .error .unsupportedTarget
  | .bridged _ _ => .error .unsupportedTarget

/-- `RequestTargetAddress::lun` -/
def lun : RequestTargetAddress → LogicalUnit
  | .bmc lun | .bmcOrIpmb _ _ lun => lun
  | .bridged target _ => target.lun

def maxData (mode : SerialMode) (bridged : Bool) : Nat :=
  match mode, bridged with
  | .basic, false => 33
  | .terminal, false => 37
  | .basic, true => 25
  | .terminal, true => 29

/-- The network function and logical unit of a request, as one byte. -/
def headerByte (request : Request) : UInt8 := (request.netfnRaw <<< 2) ||| (lun request.target).value

/-- What the reply of a bridged target is matched against. -/
def innerExpected (request : Request) (seq : UInt8) (target : Address × UInt8) : Expected :=
  ⟨headerByte request, request.cmd, seq, target.1⟩

/-- What the reply of the BMC is matched against: that of Send Message, if the
request is bridged. -/
def outerExpected (request : Request) (seq : UInt8) (bridged : Option (Address × UInt8)) : Expected where
  netfn := if bridged.isSome then 0x18 else headerByte request
  cmd := if bridged.isSome then 0x34 else request.cmd
  seq
  target := BMC

/-- The bytes a request is sent as. -/
def requestWire (mode : SerialMode) (request : Request) (seq : UInt8) (bridged : Option (Address × UInt8)) :
    List UInt8 :=
  let outer := outerExpected request seq bridged
  let body := match bridged with
    | some (target, channel) =>
      (channel ||| 0x40) :: ipmb target (headerByte request) REQUESTER seq request.cmd request.data
    | none => request.data
  let payload := match mode with
    | .basic => ipmb BMC outer.netfn REQUESTER seq outer.cmd body
    | .terminal => [outer.netfn, seq <<< 2, outer.cmd] ++ body
  encode mode payload

/-- The end of the loop that writes, unless the turns run out, with the bytes
each turn handed to the port. -/
def writeAll (wire : List UInt8) (deadline : Instant) :
    Nat → List WriteTurn → Option (Except SendFailure Unit) × List (List UInt8)
  | offset, turns =>
    if wire.length ≤ offset then
      (some (if offset = wire.length then .ok () else .error .writeZero), [])
    else
      match turns with
      | [] => (none, [])
      | turn :: turns =>
        if turn.cancelled ∨ deadline ≤ turn.now then
          (some (.error (if turn.cancelledThen then .interrupted else .timedOut)), [])
        else
          match turn.write with
          | .wrote 0 => (some (.error .writeZero), [wire.drop offset])
          | .wrote count =>
            let rest := writeAll wire deadline (offset + count) turns
            (rest.1, wire.drop offset :: rest.2)
          | .retry =>
            let rest := writeAll wire deadline offset turns
            (rest.1, wire.drop offset :: rest.2)
          | .failed => (some (.error .io), [wire.drop offset])

/-- What a call of `send` came to: its result, unless it has not returned, the
bytes each write handed to the port, and the connection it leaves. -/
structure Sending where
  result : Option (Except SerialSendError Unit)
  offered : List (List UInt8)
  after : SerialConnection
  deriving DecidableEq

/-- The time a call that begins now gives its request, within that of its operation. -/
def SendConditions.deadline (met : SendConditions) (timeout : Nat) : Instant :=
  let deadline := met.now + timeout
  match met.operationDeadline with
  | some limit => min limit deadline
  | none => deadline

namespace SerialConnection
variable (c : SerialConnection)

/-- The checks of `send` before anything is written, with the bridge it finds. -/
def admission (request : Request) (cancelled : Bool) :
    Except SerialSendError (Option (Address × UInt8)) :=
  if c.uncertain then .error .connectionUncertain
  else if c.pending.isSome then .error .requestPending
  else if cancelled then .error .cancelled
  else if request.netfnRaw &&& 1 ≠ 0 ∨ 0x3e < request.netfnRaw then .error .invalidNetfn
  else
    match bridge request.target with
    | .error error => .error error
    | .ok bridged =>
      if maxData c.mode bridged.isSome < request.data.length then .error .requestTooLong
      else .ok bridged

def poisonSend : SerialConnection := { c with pending := none, uncertain := true }

def send (request : Request) (met : SendConditions) : Sending :=
  match c.admission request met.cancelled with
  | .error error => ⟨some (.error error), [], c⟩
  | .ok bridged =>
    let deadline := met.deadline c.timeout
    let seq := (c.sequence + 1) &&& 0x3f
    let after := { c with
      sequence := seq
      pending := some {
        outer := outerExpected request seq bridged
        inner := bridged.map (innerExpected request seq)
        deadline } }
    let (result, offered) := writeAll (requestWire c.mode request seq bridged) deadline 0 met.writes
    match result with
    | none => ⟨none, offered, after⟩
    | some (.ok ()) => ⟨some (.ok ()), offered, after⟩
    | some (.error failure) => ⟨some (.error (.outcomeUnknown failure)), offered, after.poisonSend⟩

end SerialConnection

/-! ### Receiving -/

/-- Why a call that reads stops before its end: it still waits for the port,
it panics, or it returns an error. -/
inductive Stop where
  | waiting
  | panicked
  | error (error : SerialRecvError)
  deriving DecidableEq

/-- A computation that reads from the port. -/
abbrev Reading (α : Type) := Stateful (List Attempt) Stop α

/-- A step that reads nothing. -/
def Reading.ofChecked {α : Type} (x : Checked SerialRecvError α) : Reading α :=
  match x.run with
  | none => throw .panicked
  | some (.error error) => throw (.error error)
  | some (.ok value) => pure value

@[simp] theorem Reading.ofChecked_pure {α : Type} (value : α) :
    Reading.ofChecked (pure value) = pure value := rfl

/-- `SerialConnection::frame` -/
def readFrame (mode : SerialMode) (deadline : Instant) : Reading (List UInt8) :=
  ExceptT.mk fun attempts =>
    match Serial.frame mode deadline .new attempts with
    | (none, rest) => (.error .waiting, rest)
    | (some (.error error), rest) => (.error (.error error), rest)
    | (some (.ok frame), rest) => (.ok frame, rest)

/-- The loop of `receive_matching`, with the unrelated frames it still passes over. -/
def receiveWithin (mode : SerialMode) (expected : Expected) (deadline : Instant) :
    Nat → Reading (List UInt8)
  | 0 => throw (.error .tooManyUnrelated)
  | more + 1 => do
    let frame ← readFrame mode deadline
    let matched ← Reading.ofChecked (matchFrame mode expected frame)
    match matched with
    | some body => return body
    | none => receiveWithin mode expected deadline more

def receiveMatching (mode : SerialMode) (expected : Expected) (deadline : Instant) :
    Reading (List UInt8) := receiveWithin mode expected deadline MAX_UNRELATED

/-- The response that a matched reply is returned as. -/
def respond (expected : Expected) (body : List UInt8) : Reading Response :=
  let netfn := (expected.netfn >>> 2) ||| 1
  match Response.new ⟨netfn, expected.cmd, body⟩ expected.seq.toNat with
  | some response => return response
  | none => throw (.error .invalidFrame)

/-- The reply to a request that is pending, read and matched. -/
def receiveReply (mode : SerialMode) (pending : Pending) : Reading Response := do
  let body ← receiveMatching mode pending.outer pending.deadline
  match pending.inner with
  | none => respond pending.outer body
  | some inner =>
    let code ← Reading.ofChecked (index body 0)
    if code ≠ 0 then
      -- The completion code of Send Message itself is the reply.
      respond inner body
    else if body.length = 1 then
      let body ← receiveMatching mode inner pending.deadline
      respond inner body
    else if 10 ≤ body.length then
      let packet ← Reading.ofChecked (slice body 2 body.length)
      let matched ← Reading.ofChecked (parseIpmb packet inner)
      match matched with
      | some body => respond inner body
      | none => throw (.error .invalidFrame)
    else throw (.error .invalidFrame)

/-- What a call of `recv` came to. -/
inductive Received where
  | waiting
  | panicked
  | returned (result : Except SerialRecvError Response)
  deriving DecidableEq

def SerialConnection.recv (c : SerialConnection) (attempts : List Attempt) :
    Received × SerialConnection :=
  match c.pending with
  | none => (.returned (.error .noPendingRequest), c)
  | some pending =>
    let c := { c with pending := none }
    match ((receiveReply c.mode pending).eval attempts).1 with
    | .ok response => (.returned (.ok response), c)
    | .error .waiting => (.waiting, c)
    | .error .panicked => (.panicked, c)
    | .error (.error error) => (.returned (.error error), { c with uncertain := true })

/-! ### Calls in turn -/

/-- A call of a connection, with what it meets. -/
inductive Call where
  | send (request : Request) (met : SendConditions)
  | recv (attempts : List Attempt)
  deriving DecidableEq

/-- What a call came to. Nothing can be called while another call has not returned. -/
inductive Outcome where
  | sent (result : Option (Except SerialSendError Unit)) (offered : List (List UInt8))
  | received (received : Received)
  | blocked
  deriving DecidableEq

/-- A call of a connection, if there is one that is free to be called. -/
def step : Option SerialConnection → Call → Outcome × Option SerialConnection
  | none, _ => (.blocked, none)
  | some c, .send request met =>
    let sending := c.send request met
    (.sent sending.result sending.offered, if sending.result.isSome then some sending.after else none)
  | some c, .recv attempts =>
    let (received, after) := c.recv attempts
    match received with
    | .returned result => (.received (.returned result), some after)
    | .waiting => (.received .waiting, none)
    | .panicked => (.received .panicked, none)

end IpmiRs.Serial
