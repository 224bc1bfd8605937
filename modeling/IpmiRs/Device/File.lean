import IpmiRs.Connection

/-! The connection to the local device, `file.rs`: the kernel driver queues its
answers on the descriptor, each with the ID of its request. What the driver
does, and when, is an input of every call. -/
namespace IpmiRs.Device
open Connection

/-- Completion code, Sun file header and data. -/
def MAX_DEVICE_RESPONSE : Nat := 1 + 9 + 1024

/-- What the driver queues on the descriptor, `IpmiRecv`. -/
structure IpmiRecv where
  msgId : Int
  netfn : UInt8
  cmd : UInt8
  data : List UInt8
  deriving DecidableEq

inductive CreateResponseError where
  | notAResponse
  | notEnoughData
  deriving DecidableEq

/-- `Response::try_from` -/
def tryFrom (value : IpmiRecv) : Except CreateResponseError Response :=
  if (NetFn.ofByte value.netfn).responseValue = value.netfn then
    match Response.new ⟨value.netfn, value.cmd, value.data⟩ value.msgId with
    | some response => .ok response
    | none => .error .notEnoughData
  else .error .notAResponse

/-- The errors of the device: those of the system, with their number, and its own. -/
inductive DeviceError where
  | errno (number : Nat)
  | wouldBlock
  | interrupted
  | timedOut
  | unsupported
  | truncated
  | invalidSequence (expected got : Int)
  | creating (error : CreateResponseError)
  deriving DecidableEq

/-- Where a request is submitted to, `IpmiAddr`. -/
inductive IpmiAddr where
  | sysIface (lun : UInt8)
  | ipmb (channel : UInt8) (targetAddr lun : UInt8)
  deriving DecidableEq

def IpmiAddr.tryFrom : RequestTargetAddress → Except DeviceError IpmiAddr
  | .bmc lun => .ok (.sysIface lun.value)
  | .bmcOrIpmb address channel lun => .ok (.ipmb channel.value address lun.value)
  | .bridged _ _ => .error .unsupported

/-- The descriptor as its user sees it, with the answers that are queued on it. -/
structure File where
  seq : Int := -1
  myAddr : Address := 0x20
  queue : List IpmiRecv := []
  deriving DecidableEq

namespace File

/-- The request's own target, where the BMC's own address is the BMC. -/
def target (file : File) : RequestTargetAddress → RequestTargetAddress
  | .bmcOrIpmb address channel lun =>
    if address = file.myAddr then .bmc lun else .bmcOrIpmb address channel lun
  | target => target

/-- `File::send`, with the error that the driver refuses the request with, if it does. -/
def send (file : File) (request : Request) (refused : Option DeviceError) :
    Except DeviceError Unit × File :=
  match IpmiAddr.tryFrom (file.target request.target) with
  | .error error => (.error error, file)
  | .ok _ =>
    let file := { file with seq := file.seq + 1 }
    match refused with
    | some error => (.error error, file)
    | none => (.ok (), file)

/-- What `recv` makes of an answer that it takes from the queue. -/
def read (seq : Int) (answer : IpmiRecv) : Except DeviceError Response :=
  if MAX_DEVICE_RESPONSE < answer.data.length then .error .truncated
  else
    match tryFrom answer with
    | .error error => .error (.creating error)
    | .ok response =>
      if response.seq = seq then .ok response else .error (.invalidSequence seq response.seq)

end File

/-- What happens when the descriptor is polled: answers are queued before one is
taken, if any is there, or a system call fails with a number. -/
inductive Wait where
  | polled (arrived : List IpmiRecv)
  | failed (number : Nat) (arrived : List IpmiRecv)
  deriving DecidableEq

/-- The answers that are queued during a wait. -/
def Wait.arrived : Wait → List IpmiRecv
  | .polled arrived => arrived
  | .failed _ arrived => arrived

namespace File

/-- Answers are queued on the descriptor. -/
def arrive (file : File) (arrived : List IpmiRecv) : File := { file with queue := file.queue ++ arrived }

/-- `File::recv` -/
def recv (file : File) (wait : Wait) : Except DeviceError Response × File :=
  match wait with
  | .failed number arrived => (.error (.errno number), file.arrive arrived)
  | .polled arrived =>
    match file.queue ++ arrived with
    | [] => (.error .wouldBlock, file)
    | answer :: queue => (read file.seq answer, { file with queue })

/-- `File::send_recv` -/
def sendRecv (file : File) (request : Request) (refused : Option DeviceError) (wait : Wait) :
    Except DeviceError Response × File :=
  match file.send request refused with
  | (.error error, file) => (.error error, file.arrive wait.arrived)
  | (.ok (), file) => file.recv wait

/-- The loop of `send_recv_deadline`: it waits while nothing comes, and at the
end it is cancelled or out of time. What comes after it returned is queued too. -/
def recvUntil (file : File) (ending : DeviceError) : List Wait → Except DeviceError Response × File
  | [] => (.error ending, file)
  | wait :: later =>
    match file.recv wait with
    | (.error .wouldBlock, file) => recvUntil file ending later
    | (result, file) => (result, file.arrive (later.flatMap Wait.arrived))

/-- `File::send_recv_deadline`, with what stops it before it sends, if it is
cancelled or out of time by then. -/
def sendRecvDeadline (file : File) (request : Request) (early refused : Option DeviceError)
    (waits : List Wait) (ending : DeviceError) : Except DeviceError Response × File :=
  match early with
  | some error => (.error error, file.arrive (waits.flatMap Wait.arrived))
  | none =>
    match file.send request refused with
    | (.error error, file) => (.error error, file.arrive (waits.flatMap Wait.arrived))
    | (.ok (), file) => file.recvUntil ending waits

end File

end IpmiRs.Device
