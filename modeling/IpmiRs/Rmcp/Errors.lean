import IpmiRs.App.Auth

/-! Errors of the RMCP transports. An operating-system error carries no data
that any modelled decision reads, so it is represented by its constructor. -/
namespace IpmiRs.Rmcp
open App.Auth

inductive RmcpHeaderError where
  | notEnoughData
  | invalidRmcpClass
  | invalidVersion (version : UInt8)
  | invalidReservedByte
  | invalidSequence
  deriving DecidableEq

inductive CryptoBackendError where
  | unavailable
  | operationFailed
  deriving DecidableEq

inductive CryptoUnwrapError where
  | notEnoughData
  | mismatchingEncryptionState
  | mismatchingAuthenticationState
  | incorrectPayloadLen
  | incorrectConfidentialityTrailerLen
  | invalidConfidentialityTrailer
  | authCodeMismatch
  | incorrectIntegrityTrailerLen
  | unknownNextHeader (value : UInt8)
  | invalidIntegrityPadding
  | invalidCiphertext
  | unsupportedIntegrityAlgorithm (algorithm : IntegrityAlgorithm)
  | unsupportedConfidentialityAlgorithm (algorithm : ConfidentialityAlgorithm)
  | cryptoBackend (error : CryptoBackendError)
  deriving DecidableEq

/-- `v2_0::ReadError`. -/
inductive V2ReadError where
  | notIpmiV2_0
  | notEnoughData
  | invalidPayloadType (value : UInt8)
  | decryptionError (error : CryptoUnwrapError)
  deriving DecidableEq

/-- `v2_0::WriteError`. -/
inductive V2WriteError where
  | io
  | random
  | payloadTooLong
  | encryptedPayloadTooLong
  | unsupportedIntegrityAlgorithm (algorithm : IntegrityAlgorithm)
  | unsupportedConfidentialityAlgorithm (algorithm : ConfidentialityAlgorithm)
  | cancelled
  | deadlineExpired
  | cryptoBackend (error : CryptoBackendError)
  deriving DecidableEq

/-- `v1_5::ReadError`. -/
inductive V1ReadError where
  | notEnoughData
  | unsupportedAuthType (value : UInt8)
  | incorrectPayloadLen
  | authcodeError
  deriving DecidableEq

/-- `v1_5::WriteError`. -/
inductive V1WriteError where
  | io
  | missingPassword
  | payloadTooLarge (length : Nat)
  | unsupportedAuthType (ty : AuthType)
  deriving DecidableEq

inductive UnwrapSessionError where
  | v1_5 (error : V1ReadError)
  | v2_0 (error : V2ReadError)
  deriving DecidableEq

inductive SolFrameError where
  | invalidLength
  | invalidHeader
  | conflictingRetransmission
  | outputGap
  | invalidAck
  | exceedsNegotiatedLimit
  | remoteInactive
  | outputOverrun
  deriving DecidableEq

inductive RmcpIpmiSendError where
  | v1_5 (error : V1WriteError)
  | v2_0 (error : V2WriteError)
  | requestPending
  | unsupportedTarget
  | invalidBridgeTarget
  | bridgePayloadTooLarge (length : Nat)
  | invalidNetfn (netfn : UInt8)
  | ipmbSequenceExhausted
  | ipmbSequenceReserved
  | sessionSequenceExhausted
  | solFrame
  | cancelled
  | deadlineExpired
  deriving DecidableEq

inductive RmcpIpmiReceiveError where
  | io
  | rmcpHeader (error : RmcpHeaderError)
  | session (error : UnwrapSessionError)
  | notEnoughData
  | emptyMessage
  | ipmbChecksumFailed
  | ipmbResponseMismatch
  | bridgeCompletion (hop : Nat) (code : UInt8)
  | bridgeQueueCompletion (command : UInt8) (code : UInt8)
  | bridgePollSend (error : RmcpIpmiSendError)
  | noPendingRequest
  | sessionIdMismatch
  | invalidSessionSequence
  | unexpectedPayloadType
  | sol (error : SolFrameError)
  | solAckFailed
  | datagramTooLarge
  | tooManyUnrelatedPackets
  | timeout
  | cancelled
  deriving DecidableEq

inductive RmcpIpmiError where
  | notActive
  | receive (error : RmcpIpmiReceiveError)
  | send (error : RmcpIpmiSendError)
  | sendOutcomeUnknown (error : RmcpIpmiSendError)
  | outcomeUnknown (error : RmcpIpmiReceiveError)
  deriving DecidableEq

/-- `RmcpIpmiSendError::into_operation_error`: an I/O failure may have reached
the BMC, every other send error has not. -/
def RmcpIpmiSendError.intoOperationError : RmcpIpmiSendError → RmcpIpmiError
  | .v1_5 .io => .sendOutcomeUnknown (.v1_5 .io)
  | .v2_0 .io => .sendOutcomeUnknown (.v2_0 .io)
  | error => .send error

end IpmiRs.Rmcp
