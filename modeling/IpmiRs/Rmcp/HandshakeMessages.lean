import IpmiRs.App.Auth
import IpmiRs.Connection
import IpmiRs.Library.Bytes

/-! The messages of the RMCP+ handshake, `rmcp/v2_0/messages`: what the console
writes, and what it reads of the replies. -/
namespace IpmiRs.Rmcp
open App.Auth Connection Library.Bytes

/-- `[u8; 16]` -/
abbrev Bytes16 := { bytes : List UInt8 // bytes.length = 16 }

/-- The session sequence number of the first packet. -/
def firstSequence : NonZeroU32 := ⟨1, by decide⟩

/-- `NonZeroU32::new`, of four bytes. -/
def nonZeroU32 (bytes : List UInt8) : Option NonZeroU32 :=
  if nonzero : UInt32.ofNat (ofLe bytes) ≠ 0 then some ⟨UInt32.ofNat (ofLe bytes), nonzero⟩ else none

/-! ### Opening a session -/

inductive AlgorithmPayloadError where
  | incorrectDataLen
  | incorrectPayloadLenValue
  | unknownAuthAlgorithm (value : UInt8)
  | unknownIntegrityAlgorithm (value : UInt8)
  | unknownConfidentialityAlgorithm (value : UInt8)
  | unknownPayloadType (value : UInt8)
  deriving DecidableEq

inductive AlgorithmPayload where
  | authentication (algorithm : AuthenticationAlgorithm)
  | integrity (algorithm : IntegrityAlgorithm)
  | confidentiality (algorithm : ConfidentialityAlgorithm)
  deriving DecidableEq

namespace AlgorithmPayload

/-- The type of the payload. -/
def ty : AlgorithmPayload → UInt8
  | .authentication _ => 0x00
  | .integrity _ => 0x01
  | .confidentiality _ => 0x02

/-- The number of the algorithm. -/
def value : AlgorithmPayload → UInt8
  | .authentication algorithm => algorithm.toByte
  | .integrity algorithm => algorithm.toByte
  | .confidentiality algorithm => algorithm.toByte

def write (payload : AlgorithmPayload) (nullByte : Bool) : List UInt8 :=
  [payload.ty, 0x00, 0x00, if nullByte then 0x00 else 0x08, payload.value, 0x00, 0x00, 0x00]

def fromData (data : List UInt8) : Except AlgorithmPayloadError AlgorithmPayload :=
  match data with
  | [ty, _, _, payloadLen, algo, _, _, _] =>
    if payloadLen ≠ 8 then .error .incorrectPayloadLenValue
    else
      match ty.toNat with
      | 0x00 => (AuthenticationAlgorithm.ofByte algo).elim (.error (.unknownAuthAlgorithm algo))
          (.ok ∘ .authentication)
      | 0x01 => (IntegrityAlgorithm.ofByte algo).elim (.error (.unknownIntegrityAlgorithm algo))
          (.ok ∘ .integrity)
      | 0x02 => (ConfidentialityAlgorithm.ofByte algo).elim (.error (.unknownConfidentialityAlgorithm algo))
          (.ok ∘ .confidentiality)
      | _ => .error (.unknownPayloadType ty)
  | _ => .error .incorrectDataLen

end AlgorithmPayload

structure OpenSessionRequest where
  messageTag : UInt8
  requestedMaxPrivilege : Option PrivilegeLevel
  remoteConsoleSessionId : NonZeroU32
  authenticationAlgorithms : AuthenticationAlgorithm
  integrityAlgorithms : IntegrityAlgorithm
  confidentialityAlgorithms : ConfidentialityAlgorithm
  deriving DecidableEq

/-- `write_data` -/
def OpenSessionRequest.writeData (request : OpenSessionRequest) : List UInt8 :=
  [request.messageTag, request.requestedMaxPrivilege.elim 0 PrivilegeLevel.toByte, 0, 0] ++
    toLe 4 request.remoteConsoleSessionId.1.toNat ++
    (AlgorithmPayload.authentication request.authenticationAlgorithms).write false ++
    (AlgorithmPayload.integrity request.integrityAlgorithms).write false ++
    (AlgorithmPayload.confidentiality request.confidentialityAlgorithms).write false

/-- The status codes all replies of the handshake share. -/
inductive RakpErrorStatusCode where
  | insufficientResourcesForSessionCreation
  | invalidSessionId
  | illegalOrUnrecognizedParameter
  deriving DecidableEq

def RakpErrorStatusCode.ofByte (value : UInt8) : Option RakpErrorStatusCode :=
  match value.toNat with
  | 0x01 => some .insufficientResourcesForSessionCreation
  | 0x02 => some .invalidSessionId
  | 0x12 => some .illegalOrUnrecognizedParameter
  | _ => none

def RakpErrorStatusCode.toByte : RakpErrorStatusCode → UInt8
  | .insufficientResourcesForSessionCreation => 0x01
  | .invalidSessionId => 0x02
  | .illegalOrUnrecognizedParameter => 0x12

inductive OpenSessionResponseErrorStatusCode where
  | commonRakp (code : RakpErrorStatusCode)
  | invalidPayloadType
  | invalidAuthenticationAlgorithm
  | invalidIntegrityAlgorithm
  | invalidConfidentialityAlgorithm
  | noMatchingAuthenticationPayload
  | noMatchingIntegrityPayload
  | noMatchingCipherSuite
  | invalidRole
  deriving DecidableEq

def OpenSessionResponseErrorStatusCode.ofByte (value : UInt8) :
    Option OpenSessionResponseErrorStatusCode :=
  match RakpErrorStatusCode.ofByte value with
  | some code => some (.commonRakp code)
  | none =>
    match value.toNat with
    | 0x03 => some .invalidPayloadType
    | 0x04 => some .invalidAuthenticationAlgorithm
    | 0x05 => some .invalidIntegrityAlgorithm
    | 0x10 => some .invalidConfidentialityAlgorithm
    | 0x06 => some .noMatchingAuthenticationPayload
    | 0x07 => some .noMatchingIntegrityPayload
    | 0x11 => some .noMatchingCipherSuite
    | 0x09 => some .invalidRole
    | _ => none

inductive ParseSessionResponseError where
  | notEnoughData
  /-- A known status code, or the byte. -/
  | haveErrorCode (code : Except UInt8 OpenSessionResponseErrorStatusCode)
  | zeroRemoteConsoleSessionId
  | zeroManagedSystemSessionId
  | invalidPrivilegeLevel (value : UInt8)
  | authPayloadWasNonAuthAlgorithm
  | integrityPayloadWasNonIntegrityAlgorithm
  | confidentialityPayloadWasNonConfidentialityAlgorithm
  | algorithmPayloadError (error : AlgorithmPayloadError)
  deriving DecidableEq

structure OpenSessionResponse where
  messageTag : UInt8
  maximumPrivilegeLevel : PrivilegeLevel
  remoteConsoleSessionId : NonZeroU32
  managedSystemSessionId : NonZeroU32
  authenticationPayload : AuthenticationAlgorithm
  integrityPayload : IntegrityAlgorithm
  confidentialityPayload : ConfidentialityAlgorithm
  deriving DecidableEq

namespace OpenSessionResponse

/-- The privilege level in the third byte. -/
def privilegeLevel (value : UInt8) : Except ParseSessionResponseError PrivilegeLevel :=
  if value &&& 0xF0 ≠ 0 then .error (.invalidPrivilegeLevel value)
  else (PrivilegeLevel.ofByte value).elim (.error (.invalidPrivilegeLevel value)) .ok

/-- The algorithm payload in eight bytes. -/
def algorithm (data : List UInt8) : Except ParseSessionResponseError AlgorithmPayload :=
  (AlgorithmPayload.fromData data).mapError .algorithmPayloadError

def fromData (data : List UInt8) : Except ParseSessionResponseError OpenSessionResponse :=
  if data.length < 2 then .error .notEnoughData
  else if data[1]! ≠ 0 then
    .error (.haveErrorCode ((OpenSessionResponseErrorStatusCode.ofByte data[1]!).elim (.error data[1]!) .ok))
  else if data.length ≠ 36 then .error .notEnoughData
  else do
    let maximumPrivilegeLevel ← privilegeLevel data[2]!
    let remoteConsoleSessionId ← (nonZeroU32 ((data.drop 4).take 4)).elim
      (.error .zeroRemoteConsoleSessionId) .ok
    let managedSystemSessionId ← (nonZeroU32 ((data.drop 8).take 4)).elim
      (.error .zeroManagedSystemSessionId) .ok
    match ← algorithm ((data.drop 12).take 8) with
    | .authentication authenticationPayload =>
      match ← algorithm ((data.drop 20).take 8) with
      | .integrity integrityPayload =>
        match ← algorithm ((data.drop 28).take 8) with
        | .confidentiality confidentialityPayload =>
          return {
            messageTag := data[0]!
            maximumPrivilegeLevel
            remoteConsoleSessionId
            managedSystemSessionId
            authenticationPayload
            integrityPayload
            confidentialityPayload }
        | _ => throw .confidentialityPayloadWasNonConfidentialityAlgorithm
      | _ => throw .integrityPayloadWasNonIntegrityAlgorithm
    | _ => throw .authPayloadWasNonAuthAlgorithm

end OpenSessionResponse

/-! ### Key exchange -/

/-- A user name of at most sixteen bytes. -/
structure Username where
  bytes : List UInt8
  short : bytes.length ≤ 16
  deriving DecidableEq

/-- `Username::new`, of the first sixteen characters. -/
def Username.new (data : String) : Option Username :=
  if (data.toList.take 16).all (fun char => decide (char.toNat < 0x80) && char.toNat != 0) then
    some ⟨(data.toList.take 16).map (fun char => UInt8.ofNat char.toNat), by simp⟩
  else none

def Username.len (username : Username) : UInt8 := UInt8.ofNat username.bytes.length

structure RakpMessage1 where
  messageTag : UInt8
  managedSystemSessionId : NonZeroU32
  remoteConsoleRandomNumber : Bytes16
  requestedMaximumPrivilegeLevel : PrivilegeLevel
  username : Username
  deriving DecidableEq

def RakpMessage1.write (message : RakpMessage1) : List UInt8 :=
  [message.messageTag, 0x00, 0x00, 0x00] ++ toLe 4 message.managedSystemSessionId.1.toNat ++
    message.remoteConsoleRandomNumber.1 ++
    [message.requestedMaximumPrivilegeLevel.toByte, 0x00, 0x00, message.username.len] ++
    message.username.bytes

inductive RakpMessage2ErrorStatusCode where
  | common (code : RakpErrorStatusCode)
  | inactiveSessionId
  | invalidRole
  | unauthorizedRoleOrPrivilegeLevelRequested
  | insufficientResourcesToCreateSessionAtRequestedRole
  | invalidNameLength
  | unauthorizedName
  deriving DecidableEq

def RakpMessage2ErrorStatusCode.ofByte (value : UInt8) : Option RakpMessage2ErrorStatusCode :=
  match RakpErrorStatusCode.ofByte value with
  | some code => some (.common code)
  | none =>
    match value.toNat with
    | 0x08 => some .inactiveSessionId
    | 0x09 => some .invalidRole
    | 0x0A => some .unauthorizedRoleOrPrivilegeLevelRequested
    | 0x0B => some .insufficientResourcesToCreateSessionAtRequestedRole
    | 0x0C => some .invalidNameLength
    | 0x0D => some .unauthorizedName
    | _ => none

inductive RakpMessage2ParseError where
  | notEnoughData
  | errorStatusCode (code : RakpMessage2ErrorStatusCode)
  | unknownErrorStatusCode (value : UInt8)
  | invalidRemoteConsoleSessionId
  deriving DecidableEq

structure RakpMessage2 where
  messageTag : UInt8
  remoteConsoleSessionId : NonZeroU32
  managedSystemRandomNumber : Bytes16
  managedSystemGuid : Bytes16
  keyExchangeAuthCode : List UInt8
  deriving DecidableEq

def RakpMessage2.fromData (data : List UInt8) : Except RakpMessage2ParseError RakpMessage2 :=
  if data.length < 4 then .error .notEnoughData
  else if data[1]! ≠ 0 then
    .error ((RakpMessage2ErrorStatusCode.ofByte data[1]!).elim (.unknownErrorStatusCode data[1]!)
      .errorStatusCode)
  else if short : data.length < 40 then .error .notEnoughData
  else
    match nonZeroU32 ((data.drop 4).take 4) with
    | none => .error .invalidRemoteConsoleSessionId
    | some remoteConsoleSessionId =>
      .ok {
        messageTag := data[0]!
        remoteConsoleSessionId
        managedSystemRandomNumber := ⟨(data.drop 8).take 16, by rw [List.length_take, List.length_drop]; omega⟩
        managedSystemGuid := ⟨(data.drop 24).take 16, by rw [List.length_take, List.length_drop]; omega⟩
        keyExchangeAuthCode := data.drop 40 }

inductive RakpMessage3ErrorStatusCode where
  | common (code : RakpErrorStatusCode)
  | inactiveSessionId
  | unauthorizedGuid
  | invalidIntegrityCheckValue
  deriving DecidableEq

def RakpMessage3ErrorStatusCode.toByte : RakpMessage3ErrorStatusCode → UInt8
  | .common code => code.toByte
  | .inactiveSessionId => 0x08
  | .unauthorizedGuid => 0x0E
  | .invalidIntegrityCheckValue => 0x0F

inductive RakpMessage3Contents where
  | failure (status : RakpMessage3ErrorStatusCode)
  | success (data : List UInt8)
  deriving DecidableEq

structure RakpMessage3 where
  messageTag : UInt8
  managedSystemSessionId : NonZeroU32
  contents : RakpMessage3Contents
  deriving DecidableEq

namespace RakpMessage3

/-- The status code, and what follows the session ID. -/
def afterId (message : RakpMessage3) : UInt8 × List UInt8 :=
  match message.contents with
  | .failure status => (status.toByte, [])
  | .success data => (0x00, data)

def write (message : RakpMessage3) : List UInt8 :=
  [message.messageTag, message.afterId.1, 0x00, 0x00] ++ toLe 4 message.managedSystemSessionId.1.toNat ++
    message.afterId.2

def isFailure (message : RakpMessage3) : Bool :=
  match message.contents with
  | .failure _ => true
  | .success _ => false

end RakpMessage3

inductive RakpMessage4ErrorStatusCode where
  | common (code : RakpErrorStatusCode)
  | inactiveSessionId
  | invalidIntegrityCheckValue
  deriving DecidableEq

def RakpMessage4ErrorStatusCode.ofByte (value : UInt8) : Option RakpMessage4ErrorStatusCode :=
  match RakpErrorStatusCode.ofByte value with
  | some code => some (.common code)
  | none =>
    if value = 0x08 then some .inactiveSessionId
    else if value = 0x0F then some .invalidIntegrityCheckValue
    else none

inductive RakpMessage4ParseError where
  | notEnoughData
  | errorStatusCode (code : RakpMessage4ErrorStatusCode)
  | unknownErrorStatusCode (value : UInt8)
  | zeroManagedSystemSessionId
  deriving DecidableEq

/-- Its session ID is that of the console, despite the name. -/
structure RakpMessage4 where
  messageTag : UInt8
  managedSystemSessionId : NonZeroU32
  integrityCheckValue : List UInt8
  deriving DecidableEq

def RakpMessage4.fromData (data : List UInt8) : Except RakpMessage4ParseError RakpMessage4 :=
  if data.length < 4 then .error .notEnoughData
  else if data[1]! ≠ 0 then
    .error ((RakpMessage4ErrorStatusCode.ofByte data[1]!).elim (.unknownErrorStatusCode data[1]!)
      .errorStatusCode)
  else if data.length < 8 then .error .notEnoughData
  else
    match nonZeroU32 ((data.drop 4).take 4) with
    | none => .error .zeroManagedSystemSessionId
    | some managedSystemSessionId =>
      .ok { messageTag := data[0]!, managedSystemSessionId, integrityCheckValue := data.drop 8 }

end IpmiRs.Rmcp
