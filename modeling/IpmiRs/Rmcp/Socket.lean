import IpmiRs.Connection
import IpmiRs.Rmcp.Errors

/-! The UDP socket of a session, `rmcp/socket.rs` with the RMCP header of
`rmcp/header.rs`. What the operating system does (which datagrams arrive, what
the clock reads, whether a send goes out) is an explicit input of every
operation. -/
namespace IpmiRs.Rmcp
open Connection

inductive RmcpType where
  | asf
  | ipmi
  | oemDefined
  deriving DecidableEq

structure RmcpClass where
  ty : RmcpType
  isAck : Bool
  deriving DecidableEq

def RmcpClass.toByte (cls : RmcpClass) : UInt8 :=
  (match cls.ty with
    | .asf => 0x06
    | .ipmi => 0x07
    | .oemDefined => 0x08) ||| cls.isAck.toUInt8 <<< 7

def RmcpClass.ofByte (value : UInt8) : Option RmcpClass :=
  let isAck := value &&& 0x80 == 0x80
  match (value &&& 0x7F).toNat with
  | 0x06 => some ⟨.asf, isAck⟩
  | 0x07 => some ⟨.ipmi, isAck⟩
  | 0x08 => some ⟨.oemDefined, isAck⟩
  | _ => none

structure RmcpHeader where
  version : UInt8
  sequenceNumber : UInt8
  cls : RmcpClass
  deriving DecidableEq

def RmcpHeader.newIpmi : RmcpHeader := ⟨6, 0xFF, ⟨.ipmi, false⟩⟩

/-- The four bytes `RmcpHeader::write` puts before the data. -/
def RmcpHeader.bytes (header : RmcpHeader) : List UInt8 :=
  [header.version, 0, if header.cls.ty = .ipmi then 0xFF else header.sequenceNumber,
    header.cls.toByte]

def RmcpHeader.fromBytes (data : List UInt8) : Except RmcpHeaderError (RmcpHeader × List UInt8) :=
  match data with
  | version :: reserved :: sequenceNumber :: cls :: rest =>
    if version ≠ 6 then .error (.invalidVersion version)
    else if reserved ≠ 0 then .error .invalidReservedByte
    else
      match RmcpClass.ofByte cls with
      | none => .error .invalidRmcpClass
      | some cls =>
        if cls.ty = .ipmi ∧ sequenceNumber ≠ 0xff then .error .invalidSequence
        else .ok (⟨version, sequenceNumber, cls⟩, rest)
  | _ => .error .notEnoughData

def MAX_DATAGRAM : Nat := 4096
def MAX_UNRELATED : Nat := 32

/-- `count_unrelated`: the new count, while it stays within the budget. -/
def countUnrelated (unrelated : Nat) : Except RmcpIpmiReceiveError Nat :=
  if MAX_UNRELATED ≤ unrelated + 1 then .error .tooManyUnrelatedPackets else .ok (unrelated + 1)

/-- `record_unrelated` of `rmcp/internal.rs`: the first mismatch is remembered. -/
def recordUnrelated (error : RmcpIpmiReceiveError) (firstMismatch : Option RmcpIpmiReceiveError)
    (unrelated : Nat) : Except RmcpIpmiReceiveError (Option RmcpIpmiReceiveError × Nat) :=
  (countUnrelated unrelated).map fun unrelated => (firstMismatch.or (some error), unrelated)

/-- Why `recv_datagram` gives up waiting. -/
inductive WaitEnd where
  | timeout
  | cancelled
  | io
  deriving DecidableEq

def WaitEnd.error : WaitEnd → RmcpIpmiReceiveError
  | .timeout => .timeout
  | .cancelled => .cancelled
  | .io => .io

/-- What the socket meets while one packet is awaited: the datagrams that
arrive, and how the waiting ends when they run out. -/
structure Arrivals where
  datagrams : List (List UInt8)
  waiting : WaitEnd
  deriving DecidableEq

/-- `recv_until_with_budget`: what follows the header of the first IPMI
datagram, and how many unrelated ones were counted by then. -/
def recvUntilWithBudget (waiting : WaitEnd) :
    List (List UInt8) → Nat → Except RmcpIpmiReceiveError (List UInt8) × Nat
  | [], unrelated => (.error waiting.error, unrelated)
  | datagram :: datagrams, unrelated =>
    if MAX_DATAGRAM < datagram.length then (.error .datagramTooLarge, unrelated)
    else
      match RmcpHeader.fromBytes datagram with
      | .error error => (.error (.rmcpHeader error), unrelated)
      | .ok (header, data) =>
        if header.cls.ty = .ipmi ∧ header.cls.isAck = false then (.ok data, unrelated)
        else
          match countUnrelated unrelated with
          | .error error => (.error error, unrelated)
          | .ok unrelated => recvUntilWithBudget waiting datagrams unrelated

def Arrivals.recv (arrivals : Arrivals) (unrelated : Nat) :
    Except RmcpIpmiReceiveError (List UInt8) × Nat :=
  recvUntilWithBudget arrivals.waiting arrivals.datagrams unrelated

/-- What a send meets: whether the caller cancelled it, the clock, the
randomness drawn for it, and whether the datagram left the socket whole. -/
structure Sending where
  cancelled : Bool
  now : Instant
  iv : Option (Vector UInt8 16)
  delivered : Bool
  deriving DecidableEq

/-- `RmcpIpmiSocket::send`: the datagram that was sent, if it could be written
and the socket took it. -/
def Sending.send {ε : Type} (sending : Sending) (io : ε) (data : List UInt8 → Except ε (List UInt8)) :
    Except ε (List UInt8) :=
  match data RmcpHeader.newIpmi.bytes with
  | .error error => .error error
  | .ok datagram => if sending.delivered then .ok datagram else .error io

/-- The checks every send makes first. -/
def Sending.refused (sending : Sending) (deadline : Instant) : Option RmcpIpmiSendError :=
  if sending.cancelled then some .cancelled
  else if deadline ≤ sending.now then some .deadlineExpired
  else none

end IpmiRs.Rmcp
