import IpmiRs.App.Auth
import IpmiRs.App.DeviceId
import IpmiRs.Library.Bytes

/-! The commands that open an IPMI 1.5 session, `ipmi-rs-core/src/app/auth`. -/
namespace IpmiRs.App.Auth
open Connection Library.Bytes

/-- `AuthError` -/
inductive AuthError where
  | notEnoughData
  | invalidZeroSession
  | invalidAuthType (value : UInt8)
  | invalidPrivilegeLevel (value : UInt8)
  deriving DecidableEq

def AuthType.ofByte (value : UInt8) : Option AuthType :=
  match value.toNat with
  | 0x00 => some .none
  | 0x01 => some .md2
  | 0x02 => some .md5
  | 0x04 => some .key
  | _ => Option.none

/-- `NonZeroU32::try_from`, of four bytes. -/
def sessionId (bytes : List UInt8) : Except AuthError NonZeroU32 :=
  if nonzero : UInt32.ofNat (ofLe bytes) ≠ 0 then .ok ⟨UInt32.ofNat (ofLe bytes), nonzero⟩
  else .error .invalidZeroSession

/-- What is read of a string of at most sixteen bytes: the rest is zero. -/
def padded (bytes : List UInt8) : Vector UInt8 16 := Vector.ofFn fun i => bytes.getD i 0

/-! ### What a channel can do -/

structure ChannelAuthenticationCapabilities where
  channelNumber : UInt8
  oemProprietary : Bool
  key : Bool
  md5 : Bool
  md2 : Bool
  none : Bool
  kgStatus : Bool
  perMessageAuthenticationEnabled : Bool
  userLevelAuthenticationEnabled : Bool
  nonNullUsernamesEnabled : Bool
  nullUsernamesEnabled : Bool
  anonymousLoginEnabled : Bool
  ipmi2ConnectionsSupported : Bool
  ipmi15ConnectionsSupported : Bool
  oemId : List UInt8
  oemAuxiliaryData : UInt8
  deriving DecidableEq

/-- `best_auth`, the strongest type that the channel has. -/
def ChannelAuthenticationCapabilities.bestAuth (caps : ChannelAuthenticationCapabilities) : Option AuthType :=
  if caps.md5 then some .md5
  else if caps.md2 then some .md2
  else if caps.key then some .key
  else if caps.none then some .none
  else Option.none

structure GetChannelAuthenticationCapabilities where
  channelNumber : Channel
  privilegeLevel : PrivilegeLevel
  deriving DecidableEq

namespace GetChannelAuthenticationCapabilities

/-- What only a reply with the extended capabilities tells: whether Kg is set,
both versions, and the OEM data that is moved by it. -/
def extended (data : List UInt8) : Except NotEnoughData (Bool × Bool × Bool × List UInt8 × UInt8) :=
  if data[1]! &&& 0x80 = 0x80 then
    if data.length < 8 then .error .notEnoughData
    else .ok (data[2]! &&& 0x20 = 0x20, data[3]! &&& 0x02 = 0x02, data[3]! &&& 0x01 = 0x01,
      [data[4]!, data[5]!, data[6]!], data[7]!)
  else .ok (false, false, false, [data[3]!, data[4]!, data[5]!], data[6]!)

def parse (data : List UInt8) : Except NotEnoughData ChannelAuthenticationCapabilities :=
  if data.length < 7 then .error .notEnoughData
  else do
    let (kgStatus, ipmi2ConnectionsSupported, ipmi15ConnectionsSupported, oemId, oemAuxiliaryData) ← extended data
    return {
      channelNumber := data[0]!
      oemProprietary := data[1]! &&& 0x20 = 0x20
      key := data[1]! &&& 0x10 = 0x10
      md5 := data[1]! &&& 0x04 = 0x04
      md2 := data[1]! &&& 0x02 = 0x02
      none := data[1]! &&& 0x01 = 0x01
      kgStatus
      perMessageAuthenticationEnabled := ¬data[2]! &&& 0x10 = 0x10
      userLevelAuthenticationEnabled := ¬data[2]! &&& 0x08 = 0x08
      nonNullUsernamesEnabled := data[2]! &&& 0x04 = 0x04
      nullUsernamesEnabled := data[2]! &&& 0x02 = 0x02
      anonymousLoginEnabled := data[2]! &&& 0x01 = 0x01
      ipmi2ConnectionsSupported
      ipmi15ConnectionsSupported
      oemId
      oemAuxiliaryData }

def command (get : GetChannelAuthenticationCapabilities) :
    IpmiCommand ChannelAuthenticationCapabilities NotEnoughData where
  message := .newRequest .app 0x38 [0x80 ||| get.channelNumber.value, get.privilegeLevel.toByte]
  parse := parse

end GetChannelAuthenticationCapabilities

/-! ### The session -/

structure SessionChallenge where
  temporarySessionId : NonZeroU32
  challengeString : List UInt8
  deriving DecidableEq

structure GetSessionChallenge where
  authType : AuthType
  username : Vector UInt8 16
  deriving DecidableEq

namespace GetSessionChallenge

def new (authType : AuthType) (username : Option String) : Option GetSessionChallenge :=
  let bytes := username.elim [] (·.toUTF8.data.toList)
  if 16 < bytes.length then none else some ⟨authType, padded bytes⟩

def parse (data : List UInt8) : Except AuthError SessionChallenge :=
  if data.length ≠ 20 then .error .notEnoughData
  else do
    let temporarySessionId ← sessionId (data.take 4)
    return ⟨temporarySessionId, data.drop 4⟩

def command (get : GetSessionChallenge) : IpmiCommand SessionChallenge AuthError where
  message := .newRequest .app 0x39 (get.authType.toByte :: get.username.toList)
  parse := parse

end GetSessionChallenge

structure ActivateSession where
  authType : AuthType
  maximumPrivilegeLevel : PrivilegeLevel
  challengeString : List UInt8
  initialSequenceNumber : UInt32
  deriving DecidableEq

structure BeginSessionInfo where
  authType : AuthType
  sessionId : NonZeroU32
  initialSequenceNumber : UInt32
  maximumPrivilegeLevel : PrivilegeLevel
  deriving DecidableEq

namespace ActivateSession

def parse (data : List UInt8) : Except AuthError BeginSessionInfo :=
  if data.length < 10 then .error .notEnoughData
  else do
    let authType ← (AuthType.ofByte data[0]!).elim (.error (.invalidAuthType data[0]!)) .ok
    let sessionId ← Auth.sessionId ((data.drop 1).take 4)
    let maximumPrivilegeLevel ← (PrivilegeLevel.ofByte data[9]!).elim
      (.error (.invalidPrivilegeLevel data[9]!)) .ok
    return {
      authType
      sessionId
      initialSequenceNumber := UInt32.ofNat (ofLe ((data.drop 5).take 4))
      maximumPrivilegeLevel }

def command (activate : ActivateSession) : IpmiCommand BeginSessionInfo AuthError where
  message := .newRequest .app 0x3A
    ([activate.authType.toByte, activate.maximumPrivilegeLevel.toByte] ++ activate.challengeString ++
      toLe 4 activate.initialSequenceNumber.toNat)
  parse := parse

end ActivateSession
end IpmiRs.App.Auth
