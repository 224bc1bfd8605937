import IpmiRs.Library.Bytes
import IpmiRs.Rmcp.Errors

/-! RMCP+ packets, `rmcp/v2_0/crypto`: what is encrypted, padded and
authenticated on the way out, and how it is checked on the way in. The hash
and the cipher are those of a backend outside the repository. -/
namespace IpmiRs.Rmcp
open App.Auth Library.Bytes

inductive HashAlgorithm where
  | sha1
  | sha256
  deriving DecidableEq

def HashAlgorithm.digestLen : HashAlgorithm → Nat
  | .sha1 => 20
  | .sha256 => 32

/-- A cryptographic backend: HMAC as a function of the key and the bytes fed to
it, and AES-CBC without padding. -/
structure CryptoProvider where
  mac : HashAlgorithm → List UInt8 → List UInt8 → Except CryptoBackendError (List UInt8)
  cbcEncrypt : List UInt8 → List UInt8 → List UInt8 → Except CryptoBackendError (List UInt8)
  cbcDecrypt : List UInt8 → List UInt8 → List UInt8 → Except CryptoBackendError (List UInt8)

namespace CryptoProvider
variable (provider : CryptoProvider)

/-- What is relied on in a backend: digests have their length, and decryption
inverts encryption, block by block. -/
structure Lawful : Prop where
  digest : ∀ hash key message tag, provider.mac hash key message = .ok tag →
    tag.length = hash.digestLen
  cipher : ∀ key iv plain sealed, plain.length % 16 = 0 →
    provider.cbcEncrypt key iv plain = .ok sealed →
    sealed.length = plain.length ∧ provider.cbcDecrypt key iv sealed = .ok plain

def hmac (hash : HashAlgorithm) (key : List UInt8) (parts : List (List UInt8)) :
    Except CryptoBackendError (List UInt8) :=
  provider.mac hash key parts.flatten

def encrypt (key iv data : List UInt8) : Except CryptoBackendError (List UInt8) :=
  if data = [] ∨ data.length % 16 ≠ 0 then .error .operationFailed
  else provider.cbcEncrypt key iv data

def decrypt (key iv data : List UInt8) : Except CryptoBackendError (List UInt8) :=
  if data = [] ∨ data.length % 16 ≠ 0 then .error .operationFailed
  else provider.cbcDecrypt key iv data

end CryptoProvider

structure Keys where
  sik : List UInt8
  k1 : List UInt8
  k2 : List UInt8
  aesKey : List UInt8
  k3 : List UInt8
  hash : HashAlgorithm
  deriving DecidableEq

def Keys.empty : Keys where
  sik := []
  k1 := []
  k2 := []
  k3 := []
  aesKey := List.replicate 16 0
  hash := .sha1

/-- `Keys::derive`. -/
def Keys.derive (provider : CryptoProvider) (hash : HashAlgorithm) (sik : List UInt8) :
    Except CryptoBackendError Keys := do
  let k1 ← provider.hmac hash sik [List.replicate 20 0x01]
  let k2 ← provider.hmac hash sik [List.replicate 20 0x02]
  let k3 ← provider.hmac hash sik [List.replicate 20 0x03]
  return { sik, k1, k2, k3, aesKey := k2.take 16, hash }

inductive PayloadType where
  | ipmiMessage
  | sol
  | rmcpPlusOpenSessionRequest
  | rmcpPlusOpenSessionResponse
  | rakpMessage1
  | rakpMessage2
  | rakpMessage3
  | rakpMessage4
  deriving DecidableEq

def PayloadType.ofByte (value : UInt8) : Option PayloadType :=
  match value.toNat with
  | 0x00 => some .ipmiMessage
  | 0x01 => some .sol
  | 0x10 => some .rmcpPlusOpenSessionRequest
  | 0x11 => some .rmcpPlusOpenSessionResponse
  | 0x12 => some .rakpMessage1
  | 0x13 => some .rakpMessage2
  | 0x14 => some .rakpMessage3
  | 0x15 => some .rakpMessage4
  | _ => none

def PayloadType.toByte : PayloadType → UInt8
  | .ipmiMessage => 0x00
  | .sol => 0x01
  | .rmcpPlusOpenSessionRequest => 0x10
  | .rmcpPlusOpenSessionResponse => 0x11
  | .rakpMessage1 => 0x12
  | .rakpMessage2 => 0x13
  | .rakpMessage3 => 0x14
  | .rakpMessage4 => 0x15

/-- `v2_0::Message`. -/
structure V2Message where
  ty : PayloadType
  sessionId : UInt32
  sessionSequenceNumber : UInt32
  payload : List UInt8
  deriving DecidableEq

/-- The keys and algorithms packets are protected with. -/
structure SubState where
  keys : Keys
  confidentialityAlgorithm : ConfidentialityAlgorithm
  integrityAlgorithm : IntegrityAlgorithm
  deriving DecidableEq

namespace SubState

def empty : SubState where
  keys := .empty
  confidentialityAlgorithm := .none
  integrityAlgorithm := .none

section write
variable (provider : CryptoProvider) (s : SubState)

def encrypted : Bool := s.confidentialityAlgorithm != .none

def authenticated : Bool := s.integrityAlgorithm != .none

/-- `integrity_parameters`: the hash and how much of its digest is sent. -/
def integrityParameters : Option (HashAlgorithm × Nat) :=
  match s.integrityAlgorithm, s.keys.hash with
  | .hmacSha1_96, .sha1 => some (.sha1, 12)
  | .hmacSha256_128, .sha256 => some (.sha256, 16)
  | _, _ => none

/-- `write_trailer`, on a buffer that starts with the four bytes of the RMCP
header. -/
def writeTrailer (buffer : List UInt8) : Except V2WriteError (List UInt8) :=
  if s.authenticated then
    -- The pad length and the next header are covered as well.
    let authCodeDataLen := (buffer.drop 4).length + 2
    let padLength := (4 - authCodeDataLen % 4) % 4
    let buffer := buffer ++ List.replicate padLength 0xFF ++ [UInt8.ofNat padLength, 0x07]
    match s.integrityParameters with
    | none => .error (.unsupportedIntegrityAlgorithm s.integrityAlgorithm)
    | some (hash, tagLen) =>
      match provider.hmac hash s.keys.k1 [buffer.drop 4] with
      | .error error => .error (.cryptoBackend error)
      | .ok tag => .ok (buffer ++ tag.take tagLen)
  else .ok buffer

/-- Padding up to whole blocks, for the data, its pad length and the header. -/
def confidentialityPadLen (dataLen : Nat) : Nat := (16 - (dataLen + 1 + 16) % 16) % 16

/-- What is encrypted: the data, padding that counts up from one, and its length. -/
def withConfidentialityTrailer (data : List UInt8) : List UInt8 :=
  let padLen := confidentialityPadLen data.length
  data ++ (List.range padLen).map (fun i => UInt8.ofNat (i + 1)) ++ [UInt8.ofNat padLen]

/-- `write_data_encrypted`, with the initialization vector the random source
gave, if it gave one. -/
def writeDataEncrypted (iv : Option (Vector UInt8 16)) (data buffer : List UInt8) :
    Except V2WriteError (List UInt8) :=
  if 0xFFFF < data.length then .error .payloadTooLong
  else
    match s.confidentialityAlgorithm with
    | .none => .ok (buffer ++ toLe 2 data.length ++ data)
    | .aesCbc128 =>
      match iv with
      | none => .error .random
      | some iv =>
        let paddedLen := data.length + 1 + 16 + confidentialityPadLen data.length
        if 0xFFFF < paddedLen then .error .encryptedPayloadTooLong
        else
          match provider.encrypt s.keys.aesKey iv.toList (withConfidentialityTrailer data) with
          | .error error => .error (.cryptoBackend error)
          | .ok sealed => .ok (buffer ++ toLe 2 paddedLen ++ iv.toList ++ sealed)
    | unsupported => .error (.unsupportedConfidentialityAlgorithm unsupported)

/-- `write_payload`, appended to the RMCP header in `buffer`. -/
def writePayload (iv : Option (Vector UInt8 16)) (message : V2Message) (buffer : List UInt8) :
    Except V2WriteError (List UInt8) :=
  let encrypted : UInt8 := if s.encrypted then 1 else 0
  let authenticated : UInt8 := if s.authenticated then 1 else 0
  let flags : UInt8 := encrypted <<< 7 ||| authenticated <<< 6 ||| message.ty.toByte
  let buffer : List UInt8 := buffer ++ [0x06, flags] ++
    toLe 4 message.sessionId.toNat ++ toLe 4 message.sessionSequenceNumber.toNat
  match s.writeDataEncrypted provider iv message.payload buffer with
  | .error error => .error error
  | .ok buffer => s.writeTrailer provider buffer

end write

section read
variable (provider : CryptoProvider) (s : SubState)

/-- `validate_trailer`: the packet without its integrity trailer. -/
def validateTrailer (data : List UInt8) : Except CryptoUnwrapError (List UInt8) :=
  if !s.authenticated then .ok data
  else
    match s.integrityParameters with
    | none => .error (.unsupportedIntegrityAlgorithm s.integrityAlgorithm)
    | some (hash, authCodeLen) =>
      if data.length < authCodeLen + 2 then .error .incorrectIntegrityTrailerLen
      else
        let authenticatedData := data.take (data.length - authCodeLen)
        let tag := data.drop (data.length - authCodeLen)
        match provider.hmac hash s.keys.k1 [authenticatedData] with
        | .error error => .error (.cryptoBackend error)
        | .ok checksum =>
          if tag ≠ checksum.take authCodeLen then .error .authCodeMismatch
          else
            let data := authenticatedData.take (authenticatedData.length - 2)
            let padLen := authenticatedData[authenticatedData.length - 2]!.toNat
            let nextHeader := authenticatedData[authenticatedData.length - 1]!
            if nextHeader ≠ 0x07 then .error (.unknownNextHeader nextHeader)
            else if data.length < 12 ∨ 3 < padLen ∨ data.length - 12 < padLen ∨
                (data.length + 2) % 4 ≠ 0 then .error .incorrectIntegrityTrailerLen
            else if (data.drop (data.length - padLen)).any (· != 0xff) then
              .error .invalidIntegrityPadding
            else .ok (data.take (data.length - padLen))

/-- `read_data_encrypted`. -/
def readDataEncrypted (data : List UInt8) : Except CryptoUnwrapError (List UInt8) :=
  match s.confidentialityAlgorithm with
  | .none => .ok data
  | .aesCbc128 =>
    if data.length < 16 then .error .notEnoughData
    else
      let dataAndTrailer := data.drop 16
      if dataAndTrailer = [] ∨ dataAndTrailer.length % 16 ≠ 0 then .error .invalidCiphertext
      else
        match provider.decrypt s.keys.aesKey (data.take 16) dataAndTrailer with
        | .error error => .error (.cryptoBackend error)
        | .ok plain =>
          match plain.getLast? with
          | none => .error .incorrectConfidentialityTrailerLen
          | some last =>
            let confidentialityPadLen := last.toNat
            let payloadAndPad := plain.dropLast
            let dataLen := payloadAndPad.length - confidentialityPadLen
            let confidentialityPad := payloadAndPad.drop dataLen
            if confidentialityPad.length ≠ confidentialityPadLen then
              .error .incorrectConfidentialityTrailerLen
            else if confidentialityPad.zipIdx.any (fun (byte, i) => byte != UInt8.ofNat (i + 1)) then
              .error .invalidConfidentialityTrailer
            else .ok (payloadAndPad.take dataLen)
  | unsupported => .error (.unsupportedConfidentialityAlgorithm unsupported)

/-- `read_payload`, on the bytes after the RMCP header. -/
def readPayload (data : List UInt8) : Except V2ReadError V2Message :=
  if data.length < 10 then .error .notEnoughData
  else if data[0]! ≠ 0x06 then .error .notIpmiV2_0
  else
    let encrypted := data[1]! &&& 0x80 == 0x80
    let authenticated := data[1]! &&& 0x40 == 0x40
    match PayloadType.ofByte (data[1]! &&& 0x3F) with
    | none => .error (.invalidPayloadType (data[1]! &&& 0x3F))
    | some ty =>
      if s.encrypted ≠ encrypted then .error (.decryptionError .mismatchingEncryptionState)
      else if s.authenticated ≠ authenticated then
        .error (.decryptionError .mismatchingAuthenticationState)
      else
        let sessionId := UInt32.ofNat (ofLe ((data.drop 2).take 4))
        let sessionSequenceNumber := UInt32.ofNat (ofLe ((data.drop 6).take 4))
        match s.validateTrailer provider data with
        | .error error => .error (.decryptionError error)
        | .ok dataWithHeader =>
          if dataWithHeader.length < 12 then .error (.decryptionError .notEnoughData)
          else
            let dataLen := ofLe ((dataWithHeader.drop 10).take 2)
            let data := dataWithHeader.drop 12
            if dataLen ≠ data.length then .error (.decryptionError .incorrectPayloadLen)
            else
              match s.readDataEncrypted provider data with
              | .error error => .error (.decryptionError error)
              | .ok payload => .ok { ty, sessionId, sessionSequenceNumber, payload }

end read

end SubState

/-- `CryptoState`: the credentials, wiped once the keys are derived, and what
packets are protected with. -/
structure CryptoState where
  password : List UInt8
  kg : Option (List UInt8)
  state : SubState
  deriving DecidableEq

end IpmiRs.Rmcp
