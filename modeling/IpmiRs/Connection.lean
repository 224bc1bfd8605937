import Mathlib.Data.Fintype.Basic

/-! Data model of an IPMI connection: messages, targets, requests and
responses, as `ipmi-rs-core/src/connection` declares them. -/
namespace IpmiRs.Connection

/-- A point in time, in milliseconds. -/
abbrev Instant := Nat

abbrev NonZeroU32 := { value : UInt32 // value ≠ 0 }

/-- `connection::Address`. -/
abbrev Address := UInt8

/-- `connection::ChannelNumber`: a numbered channel is nonzero and at most 0xB. -/
structure ChannelNumber where
  value : UInt8
  bounds : 1 ≤ value ∧ value ≤ 0xB
  deriving DecidableEq

inductive Channel where
  | primary
  | numbered (number : ChannelNumber)
  | system
  | current
  deriving DecidableEq

/-- `Channel::new`: the channels a number names. -/
def Channel.new (value : UInt8) : Option Channel :=
  if value = 0 then some .primary
  else if value = 0xE then some .current
  else if value = 0xF then some .system
  else if bounds : 1 ≤ value ∧ value ≤ 0xB then some (.numbered ⟨value, bounds⟩)
  else none

def Channel.value : Channel → UInt8
  | .primary => 0x0
  | .numbered number => number.value
  | .current => 0xE
  | .system => 0xF

inductive LogicalUnit where
  | zero
  | one
  | two
  | three
  deriving DecidableEq, Repr

def LogicalUnit.value : LogicalUnit → UInt8
  | .zero => 0
  | .one => 1
  | .two => 2
  | .three => 3

/-- `LogicalUnit::from_low_bits`: every bit but the lowest two is ignored. The masked value is
at most `0b11`, so that the last arm is `0b11`, and the source's `unreachable!` arm after it is none here. -/
def LogicalUnit.fromLowBits (value : UInt8) : LogicalUnit :=
  match (value &&& 0b11).toNat with
  | 0b00 => .zero
  | 0b01 => .one
  | 0b10 => .two
  | _ => .three

structure IpmbTarget where
  address : Address
  channel : Channel
  lun : LogicalUnit
  deriving DecidableEq

/-- `RequestTargetAddress`: the BMC itself, a BMC or IPMB address, or a bridged
target with at most one transit hop. -/
inductive RequestTargetAddress where
  | bmc (lun : LogicalUnit)
  | bmcOrIpmb (address : Address) (channel : Channel) (lun : LogicalUnit)
  | bridged (target : IpmbTarget) (transit : Option IpmbTarget)
  deriving DecidableEq

inductive NetFn where
  | chassis
  | bridge
  | sensorEvent
  | app
  | firmware
  | storage
  | transport
  | reserved (value : UInt8)
  deriving DecidableEq

/-- `NetFn::from`: request and response values of a named function share it. -/
def NetFn.ofByte (value : UInt8) : NetFn :=
  if value = 0x00 ∨ value = 0x01 then .chassis
  else if value = 0x02 ∨ value = 0x03 then .bridge
  else if value = 0x04 ∨ value = 0x05 then .sensorEvent
  else if value = 0x06 ∨ value = 0x07 then .app
  else if value = 0x08 ∨ value = 0x09 then .firmware
  else if value = 0x0A ∨ value = 0x0B then .storage
  else if value = 0x0C ∨ value = 0x0D then .transport
  else .reserved value

def NetFn.requestValue : NetFn → UInt8
  | .chassis => 0x00
  | .bridge => 0x02
  | .sensorEvent => 0x04
  | .app => 0x06
  | .firmware => 0x08
  | .storage => 0x0A
  | .transport => 0x0C
  | .reserved value => if value % 2 = 1 then value - 1 else value

def NetFn.responseValue : NetFn → UInt8
  | .chassis => 0x01
  | .bridge => 0x03
  | .sensorEvent => 0x05
  | .app => 0x07
  | .firmware => 0x09
  | .storage => 0x0B
  | .transport => 0x0D
  | .reserved value => if value % 2 = 0 then value + 1 else value

structure Message where
  netfnRaw : UInt8
  cmd : UInt8
  data : List UInt8
  deriving DecidableEq

def Message.netfn (message : Message) : NetFn := NetFn.ofByte message.netfnRaw

def Message.newRequest (netfn : NetFn) (cmd : UInt8) (data : List UInt8) : Message :=
  ⟨netfn.requestValue, cmd, data⟩

structure Request where
  target : RequestTargetAddress
  message : Message
  deriving DecidableEq

def Request.netfn (request : Request) : NetFn := request.message.netfn
def Request.netfnRaw (request : Request) : UInt8 := request.message.netfnRaw
def Request.cmd (request : Request) : UInt8 := request.message.cmd
def Request.data (request : Request) : List UInt8 := request.message.data

/-- A response carries at least its completion code. -/
structure Response where
  seq : Int
  message : Message
  nonempty : message.data ≠ []
  deriving DecidableEq

/-- `Response::new`: a message without a completion code is no response. -/
def Response.new (message : Message) (seq : Int) : Option Response :=
  if nonempty : message.data ≠ [] then some ⟨seq, message, nonempty⟩ else none

def Response.netfn (response : Response) : NetFn := response.message.netfn
def Response.netfnRaw (response : Response) : UInt8 := response.message.netfnRaw
def Response.cmd (response : Response) : UInt8 := response.message.cmd

/-- The completion code is the first byte. -/
def Response.cc (response : Response) : UInt8 := response.message.data.head response.nonempty

def Response.data (response : Response) : List UInt8 := response.message.data.tail

end IpmiRs.Connection
