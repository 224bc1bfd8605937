import IpmiRs.Connection

/-! Commands over a connection, `Ipmi::send_recv`. What is at the other end is
any function from the requests sent so far to a reply or a connection error. -/
namespace IpmiRs
open Connection

inductive ResponseUnavailableReason where
  | unknown
  | sdrInUpdate
  | deviceInFwUpdate
  | bmcInitializing
  deriving DecidableEq

inductive CompletionErrorCode where
  | nodeBusy
  | invalidCommand
  | invalidCommandForLun
  | processingTimeout
  | outOfSpace
  | reservationCancelledOrInvalidId
  | requestDataTruncated
  | requestDataLenInvalid
  | requestDataLengthLimitExceeded
  | parameterOutOfRange
  | cannotReturnNumOfRequestedBytes
  | requestedDatapointNotPresent
  | invalidDataFieldInRequest
  | commandIllegalForSensorOrRecord
  | responseUnavailable (reason : ResponseUnavailableReason)
  | cannotExecuteDuplicateRequest
  | destinationUnavailable
  | insufficientPrivilege
  | cannotExecuteCommandInCurrentState
  | subFunctionDisabled
  | unspecified
  | oem (value : UInt8)
  | commandSpecific (value : UInt8)
  | reserved (value : UInt8)
  deriving DecidableEq

/-- `CompletionErrorCode::try_from`; zero is success. -/
def CompletionErrorCode.ofByte (value : UInt8) : Option CompletionErrorCode :=
  match value.toNat with
  | 0 => none
  | 0xC0 => some .nodeBusy
  | 0xC1 => some .invalidCommand
  | 0xC2 => some .invalidCommandForLun
  | 0xC3 => some .processingTimeout
  | 0xC4 => some .outOfSpace
  | 0xC5 => some .reservationCancelledOrInvalidId
  | 0xC6 => some .requestDataTruncated
  | 0xC7 => some .requestDataLenInvalid
  | 0xC8 => some .requestDataLengthLimitExceeded
  | 0xC9 => some .parameterOutOfRange
  | 0xCA => some .cannotReturnNumOfRequestedBytes
  | 0xCB => some .requestedDatapointNotPresent
  | 0xCC => some .invalidDataFieldInRequest
  | 0xCD => some .commandIllegalForSensorOrRecord
  | 0xCE => some (.responseUnavailable .unknown)
  | 0xCF => some .cannotExecuteDuplicateRequest
  | 0xD0 => some (.responseUnavailable .sdrInUpdate)
  | 0xD1 => some (.responseUnavailable .deviceInFwUpdate)
  | 0xD2 => some (.responseUnavailable .bmcInitializing)
  | 0xD3 => some .destinationUnavailable
  | 0xD4 => some .insufficientPrivilege
  | 0xD5 => some .cannotExecuteCommandInCurrentState
  | 0xD6 => some .subFunctionDisabled
  | 0xFF => some .unspecified
  | _ =>
    if value ≤ 0x7E then some (.oem value)
    else if 0x80 ≤ value ∧ value ≤ 0xBE then some (.commandSpecific value)
    else some (.reserved value)

/-- Only the code of success is no error. -/
theorem CompletionErrorCode.ofByte_eq_none (value : UInt8) : ofByte value = none ↔ value = 0 := by
  constructor
  · intro success
    unfold ofByte at success
    split at success
    case h_1 zero => exact UInt8.toNat_inj.mp zero
    all_goals repeat' split at success
    all_goals cases success
  · rintro rfl
    rfl

/-- `IpmiError`, for a connection that fails with `ε` and a command that fails
with `β`. -/
inductive IpmiError (ε β : Type) where
  | unexpectedResponse (netfnSent netfnRecvd : NetFn) (cmdSent cmdRecvd : UInt8)
  | failed (netfn : NetFn) (cmd : UInt8) (completionCode : CompletionErrorCode) (data : List UInt8)
  | command (error : β) (netfn : NetFn) (cmd : UInt8)
      (completionCode : Option CompletionErrorCode) (data : List UInt8)
  | connection (error : ε)
  deriving DecidableEq

/-- `IpmiCommand`: the message of a command and how its response is read. -/
structure IpmiCommand (α β : Type) where
  message : Message
  parse : List UInt8 → Except β α
  handleCompletionCode : CompletionErrorCode → List UInt8 → Option β := fun _ _ => none
  target : Option (Address × Channel) := none
  targetLun : LogicalUnit := .zero

/-- A connection as its user sees it: what has been sent, and what the other
end answers to it. -/
structure Link (ε : Type) where
  reply : List Request → Except ε Response
  sent : List Request

/-- Send one request and get the reply to it. -/
def Link.transact {ε : Type} (link : Link ε) (request : Request) : Except ε Response × Link ε :=
  (link.reply (link.sent ++ [request]), { link with sent := link.sent ++ [request] })

section sendRecv
variable {ε α β : Type}

def IpmiCommand.targetAddress (command : IpmiCommand α β) : RequestTargetAddress :=
  match command.target with
  | some (address, channel) => .bmcOrIpmb address channel command.targetLun
  | none => .bmc command.targetLun

def IpmiCommand.request (command : IpmiCommand α β) : Request :=
  ⟨command.targetAddress, command.message⟩

/-- The response bytes an error may carry: none where they may echo a secret. -/
def errorData (response : Response) : List UInt8 :=
  if (response.netfn = .app ∧ response.cmd = 0x47) ∨ response.netfn.requestValue = 0x2E then []
  else response.data

/-- What `send_recv` makes of a response. -/
def IpmiCommand.read (command : IpmiCommand α β) (response : Response) :
    Except (IpmiError ε β) α :=
  if response.netfnRaw ≠ command.message.netfn.responseValue ∨ response.cmd ≠ command.message.cmd then
    .error (.unexpectedResponse command.message.netfn response.netfn command.message.cmd response.cmd)
  else
    match CompletionErrorCode.ofByte response.cc with
    | some code =>
      match command.handleCompletionCode code response.data with
      | some error =>
        .error (.command error response.netfn response.cmd (some code) (errorData response))
      | none => .error (.failed response.netfn response.cmd code (errorData response))
    | none =>
      match command.parse response.data with
      | .ok output => .ok output
      | .error error => .error (.command error response.netfn response.cmd none (errorData response))

/-- `Ipmi::send_recv`. -/
def Link.sendRecv (link : Link ε) (command : IpmiCommand α β) :
    Except (IpmiError ε β) α × Link ε :=
  match link.transact command.request with
  | (.error error, link) => (.error (.connection error), link)
  | (.ok response, link) => (command.read response, link)

/-- Sending notes the request, and changes nothing at the other end. -/
theorem Link.sendRecv_link (link : Link ε) (command : IpmiCommand α β) :
    (link.sendRecv command).2 = { link with sent := link.sent ++ [command.request] } := by
  unfold sendRecv Link.transact
  cases link.reply (link.sent ++ [command.request]) <;> rfl

/-- What `send_recv` makes of a reply. -/
def IpmiCommand.readReply (command : IpmiCommand α β) :
    Except ε Response → Except (IpmiError ε β) α
  | .error error => .error (.connection error)
  | .ok response => command.read response

theorem Link.sendRecv_result (link : Link ε) (command : IpmiCommand α β) :
    (link.sendRecv command).1 =
      command.readReply (link.reply (link.sent ++ [command.request])) := by
  unfold sendRecv Link.transact IpmiCommand.readReply
  cases link.reply (link.sent ++ [command.request]) <;> rfl

/-- A command succeeds on its own successful response, if that can be parsed. -/
theorem IpmiCommand.readReply_eq_ok {command : IpmiCommand α β} {reply : Except ε Response}
    {output : α} :
    command.readReply reply = .ok output ↔
      ∃ response, reply = .ok response ∧
        response.netfnRaw = command.message.netfn.responseValue ∧
        response.cmd = command.message.cmd ∧ response.cc = 0 ∧
        command.parse response.data = .ok output := by
  cases reply with
  | error error => simp [readReply]
  | ok response =>
    simp only [readReply, Except.ok.injEq, exists_eq_left']
    unfold read
    split
    · grind
    · rename_i same
      push Not at same
      split
      · rename_i code failed
        have bad : response.cc ≠ 0 := fun zero => by simp [zero, CompletionErrorCode.ofByte] at failed
        split <;> simp [bad]
      · rename_i success
        have good := (CompletionErrorCode.ofByte_eq_none _).mp success
        split <;> simp_all

/-- A reply that answers a request with a completion code and data. -/
def Connection.Request.Answered (request : Request) (reply : Except ε Response) (cc : UInt8)
    (data : List UInt8) : Prop :=
  ∃ response, reply = .ok response ∧ response.netfnRaw = request.netfn.responseValue ∧
    response.cmd = request.cmd ∧ response.cc = cc ∧ response.data = data

/-- The response that answers a request so. -/
def Connection.Request.answer (request : Request) (cc : UInt8) (data : List UInt8) : Response :=
  ⟨0, ⟨request.netfn.responseValue, request.cmd, cc :: data⟩, List.cons_ne_nil _ _⟩

theorem Connection.Request.answered_answer (request : Request) (cc : UInt8) (data : List UInt8) :
    request.Answered (.ok (request.answer cc data) : Except ε Response) cc data :=
  ⟨_, rfl, rfl, rfl, rfl, rfl⟩

/-- A command succeeds on an answer it can parse. -/
theorem IpmiCommand.readReply_answered {command : IpmiCommand α β} {reply : Except ε Response}
    {data : List UInt8} {output : α} (answered : command.request.Answered reply 0 data)
    (parsed : command.parse data = .ok output) : command.readReply reply = .ok output := by
  obtain ⟨response, replied, netfn, cmd, cc, rfl⟩ := answered
  exact readReply_eq_ok.mpr ⟨response, replied, netfn, cmd, cc, parsed⟩

/-- A command that leaves a completion code alone fails with it. -/
theorem IpmiCommand.readReply_refused {command : IpmiCommand α β} {reply : Except ε Response}
    {cc : UInt8} {data : List UInt8} {code : CompletionErrorCode}
    (answered : command.request.Answered reply cc data)
    (known : CompletionErrorCode.ofByte cc = some code)
    (plain : command.handleCompletionCode code data = none) :
    ∃ netfn detail, command.readReply reply =
      .error (.failed netfn command.message.cmd code detail) := by
  obtain ⟨response, rfl, netfn, cmd, rfl, rfl⟩ := answered
  have same : ¬(response.netfnRaw ≠ command.message.netfn.responseValue ∨
      response.cmd ≠ command.message.cmd) := by
    rw [not_or, not_not, not_not]
    exact ⟨netfn, cmd⟩
  refine ⟨response.netfn, errorData response, ?_⟩
  rw [readReply, read, if_neg same, known]
  simp only [plain, cmd]
  rfl

end sendRecv

/-- A request, and the reply to it. -/
structure Exchange (ε : Type) where
  request : Request
  reply : Except ε Response

/-- The exchanges of a number of requests, after earlier ones. -/
def exchanges {ε : Type} (reply : List Request → Except ε Response) :
    List Request → List Request → List (Exchange ε)
  | _, [] => []
  | earlier, request :: later =>
    ⟨request, reply (earlier ++ [request])⟩ :: exchanges reply (earlier ++ [request]) later

theorem exchanges_append {ε : Type} (reply : List Request → Except ε Response)
    (earlier first second : List Request) :
    exchanges reply earlier (first ++ second) =
      exchanges reply earlier first ++ exchanges reply (earlier ++ first) second := by
  induction first generalizing earlier with
  | nil => simp [exchanges]
  | cons request first ih => simp [exchanges, ih]

/-- What was exchanged over a link since an earlier time. -/
def Link.since {ε : Type} (link start : Link ε) : List (Exchange ε) :=
  exchanges link.reply start.sent (link.sent.drop start.sent.length)

/-- The same other end, asked more. -/
structure Link.Extends {ε : Type} (start link : Link ε) : Prop where
  reply : link.reply = start.reply
  sent : start.sent <+: link.sent

section since
variable {ε α β : Type} {start link : Link ε}

theorem Link.Extends.refl (link : Link ε) : link.Extends link := ⟨rfl, List.prefix_rfl⟩

theorem Link.since_self (link : Link ε) : link.since link = [] := by
  simp [since, exchanges]

theorem Link.Extends.trans {mid : Link ε} (first : start.Extends mid) (second : mid.Extends link) :
    start.Extends link :=
  ⟨second.reply.trans first.reply, first.sent.trans second.sent⟩

/-- What was exchanged since an earlier time goes on from a time between. -/
theorem Link.since_trans {mid : Link ε} (first : start.Extends mid) (second : mid.Extends link) :
    link.since start = mid.since start ++ link.since mid := by
  obtain ⟨earlier, early⟩ := first.sent
  obtain ⟨later, late⟩ := second.sent
  rw [since, since, since, ← late, ← early, List.append_assoc, List.drop_left, List.drop_left,
    ← List.append_assoc, List.drop_left, second.reply, exchanges_append]

theorem Link.Extends.sendRecv (extended : start.Extends link) (command : IpmiCommand α β) :
    start.Extends (link.sendRecv command).2 := by
  rw [Link.sendRecv_link]
  exact ⟨extended.reply, extended.sent.trans (List.prefix_append _ _)⟩

/-- A command adds its own exchange to those since an earlier time. -/
theorem Link.since_sendRecv (extended : start.Extends link) (command : IpmiCommand α β) :
    (link.sendRecv command).2.since start =
      link.since start ++ [⟨command.request, link.reply (link.sent ++ [command.request])⟩] := by
  obtain ⟨more, sent⟩ := extended.sent
  rw [Link.sendRecv_link, since, since, ← sent, List.append_assoc, List.drop_left,
    List.drop_left, exchanges_append]
  simp [exchanges]

end since

end IpmiRs
