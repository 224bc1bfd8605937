import IpmiRs.Library.BigEndian
import IpmiRs.Rmcp.Socket

/-! Presence ping and pong, `rmcp/asf.rs`. -/
namespace IpmiRs.Rmcp
open Library.Bytes

structure SupportedInteractions where
  rcmpSecurity : Bool
  dmtfDash : Bool
  deriving DecidableEq

/-- `SupportedInteractions::try_from`: no other bits may be set. -/
def SupportedInteractions.ofByte (value : UInt8) : Option SupportedInteractions :=
  if value &&& 0b01101111 ≠ 0 then none
  else some ⟨value &&& 0x80 = 0x80, value &&& 0x10 = 0x10⟩

structure SupportedEntities where
  ipmi : Bool
  deriving DecidableEq

def SupportedEntities.ofByte (value : UInt8) : SupportedEntities := ⟨value &&& 0x80 = 0x80⟩

inductive ASFMessageType where
  | ping
  | pong (enterpriseNumber oemData : UInt32) (supportedEntities : SupportedEntities)
      (supportedInteractions : SupportedInteractions)
  deriving DecidableEq

namespace ASFMessageType

/-- `from_type_byte_and_data`, of what follows the reserved byte. -/
def fromTypeByteAndData (ty : UInt8) (data : List UInt8) : Option ASFMessageType :=
  match data with
  | [] => none
  | dataLen :: rest =>
    if rest.length ≠ dataLen.toNat then none
    else if ty = 0x80 ∧ dataLen = 0 then some .ping
    else if ty = 0x40 ∧ dataLen = 0x10 then
      (SupportedInteractions.ofByte rest[9]!).map fun supportedInteractions =>
        .pong (UInt32.ofNat (ofBe (rest.take 4))) (UInt32.ofNat (ofBe ((rest.drop 4).take 4)))
          (.ofByte rest[8]!) supportedInteractions
    else none

end ASFMessageType

structure ASFMessage where
  messageTag : UInt8
  messageType : ASFMessageType
  deriving DecidableEq

namespace ASFMessage

def fromBytes (data : List UInt8) : Option ASFMessage :=
  if data.length < 8 then none
  else if data.take 4 ≠ toBe 4 4542 then none
  else if data[6]! ≠ 0 then none
  else (ASFMessageType.fromTypeByteAndData data[4]! (data.drop 7)).map (⟨data[5]!, ·⟩)

end ASFMessage

end IpmiRs.Rmcp
