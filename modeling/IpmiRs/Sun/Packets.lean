import IpmiRs.App.SystemInfo
import IpmiRs.Library.Faults
import IpmiRs.OemExchanges

/-! Checked commands of Sun ILOM, `oem/sun.rs`: each packet follows a check of
the device, and only the last exchange of a run can be one that failed. -/
namespace IpmiRs.Sun
open Connection App Library Library.Checked Library.Stateful OverLink

/-- The bytes of an ASCII text. -/
def ascii (text : String) : List UInt8 := text.toList.map fun c => UInt8.ofNat c.toNat

/-- `MAX_REPLY`: the header of a file block and 1024 bytes. -/
def maxReply : Nat := 1033

/-- `MAX_FILE` -/
def maxFile : Nat := 1024 * 1024

inductive ProtocolError where
  | truncated
  | invalidValue
  | invalidSequence
  | exceededLimit
  | invalidVersion
  deriving DecidableEq

/-- The ILOM version of a service processor, with the bytes of its text. -/
structure Version where
  major : UInt8
  minor : UInt8
  update : UInt8
  micro : UInt8
  text : List UInt8
  deriving DecidableEq

inductive VersionError where
  | tooShort (length : Nat)
  | invalidText
  deriving DecidableEq

inductive SunError (ε : Type) where
  | invalidInput (message : String)
  | protocol (error : ProtocolError)
  | unsupportedVersion (version : Version)
  | limit
  | oem (error : OemError ε ProtocolError)
  | version (error : OemError ε VersionError)
  deriving DecidableEq

/-- What is done with Sun packets over a link. -/
abbrev OverSun (ε α : Type) := OverLink ε (Fault (SunError ε)) α

def invalidVersion : List UInt8 := ascii "Invalid version" ++ [0]

/-- `is_cli_version_rejection` -/
def isCliVersionRejection (data : List UInt8) : Bool :=
  decide (8 ≤ data.length) && invalidVersion.isPrefixOf (data.drop 8) ||
    decide (9 ≤ data.length) && invalidVersion.isPrefixOf (data.drop 9)

/-- `Packet`, to the BMC itself. -/
def packet (cmd : UInt8) (data : List UInt8) : OemCommand (List UInt8) ProtocolError where
  message := .newRequest (.reserved 0x2E) cmd data
  parse reply := if maxReply < reply.length then .error .exceededLimit else .ok reply
  handleCompletionCode _ reply := if isCliVersionRejection reply then some .invalidVersion else none
  manufacturerId := 42

/-- `GetVersion`: a text of at most forty bytes ends at the first zero. -/
def getVersion : OemCommand Version VersionError where
  message := .newRequest (.reserved 0x2E) 0x24 []
  parse data :=
    match range data 25 65 with
    | none => .error (.tooShort data.length)
    | some bytes =>
      let text := bytes.takeWhile (· != 0)
      if SystemInfo.isUtf8 text then .ok ⟨data[1]!, data[2]!, data[3]!, data[4]!, text⟩
      else .error .invalidText
  manufacturerId := 42

variable {ε : Type}

/-- `sun_packet` -/
def sunPacket (cmd : UInt8) (data : List UInt8) : OverSun ε (List UInt8) :=
  ExceptT.adapt (fun error => .error (.oem error)) (sendOem (packet cmd data))

/-- `sun_version_at` -/
def sunVersion : OverSun ε Version := ExceptT.adapt (fun error => .error (.version error)) (sendOem getVersion)

/-- `sun_require_3200` -/
def sunRequire3200 : OverSun ε Unit := do
  let version ← sunVersion
  if [version.major, version.minor, version.update, version.micro] < [3, 2, 0, 0] then
    throw (.error (.unsupportedVersion version))
  else pure ()

/-- `identifier` -/
def identifier (input : List UInt8) (max : Nat) : Checked (SunError ε) (List UInt8) :=
  if input = [] ∨ max < input.length ∨ 0 ∈ input then
    throw (.invalidInput "identifier must be nonempty, bounded and NUL-free")
  else pure input

/-! ### What packets exchange -/

/-- The packets of a command among some exchanges. -/
def packets (cmd : UInt8) (log : List (Exchange ε)) : List (Exchange ε) :=
  log.filter fun one => one.request.netfnRaw == 0x2E && one.request.cmd == cmd

theorem packets_append (cmd : UInt8) (first second : List (Exchange ε)) :
    packets cmd (first ++ second) = packets cmd first ++ packets cmd second :=
  List.filter_append first second

/-- The device is not one of Sun's, or the packet failed. -/
def Failed (one : Exchange ε) : Prop :=
  (one.request = (targetDeviceId none).request ∧ identified (packet 0 []) one = false) ∨
    ∃ cmd data error, one.request = (packet cmd data).request ∧
      (packet cmd data).readReply one.reply = (.error error : Except (IpmiError ε ProtocolError) _)

/-- Only the last exchange can be one that `failed` tells. -/
def OnlyLast (failed : Exchange ε → Prop) (log : List (Exchange ε)) : Prop :=
  ∀ before one after, log = before ++ one :: after → failed one → after = []

theorem OnlyLast.of_none {failed : Exchange ε → Prop} {log : List (Exchange ε)} (none : ∀ one ∈ log, ¬failed one) :
    OnlyLast failed log := by
  rintro before one after rfl failing
  exact absurd failing (none one (List.mem_append_right _ List.mem_cons_self))

theorem OnlyLast.append {failed : Exchange ε → Prop} {early late : List (Exchange ε)}
    (none : ∀ one ∈ early, ¬failed one) (last : OnlyLast failed late) : OnlyLast failed (early ++ late) := by
  induction early with
  | nil => exact last
  | cons first early ih =>
    rw [List.forall_mem_cons] at none
    intro before one after same failing
    cases before with
    | nil =>
      obtain ⟨rfl, -⟩ := List.cons.inj same
      exact absurd failing none.1
    | cons _ before => exact ih none.2 before one after (List.cons.inj same).2 failing

theorem OnlyLast.singleton (failed : Exchange ε → Prop) (one : Exchange ε) : OnlyLast failed [one] := by
  intro before other after same _
  cases before with
  | nil => exact (List.cons.inj same).2.symm
  | cons first before => exact absurd (List.cons.inj same).2.symm (by simp)

/-- A step that does not exchange anything, and does not panic. -/
theorem checked_tells {α β : Type} {x : Checked (SunError ε) α} {f : α → OverSun ε β} {P : α → Prop}
    {Q : β → List (Exchange ε) → Prop} {E : Fault (SunError ε) → List (Exchange ε) → Prop} (yields : Yields P x)
    (fails : ∀ error, E (.error error) []) (next : ∀ value, P value → Tells (f value) Q E) :
    Tells (checked x >>= f) Q E := by
  intro link
  refine Ends.checked_bind yields (fun error => ⟨.refl link, ?_⟩) (fun value holds => next value holds link)
  rw [Link.since_self]
  exact fails error

theorem tells_attempt {α β γ δ : Type} {x : OverLink ε γ α} {f : Except γ α → OverLink ε δ β}
    {P : α → List (Exchange ε) → Prop} {F : γ → List (Exchange ε) → Prop} {R : β → List (Exchange ε) → Prop}
    {G : δ → List (Exchange ε) → Prop} (first : Tells x P F)
    (returns : ∀ value log, P value log →
      Tells (f (.ok value)) (fun result more => R result (log ++ more)) (fun error more => G error (log ++ more)))
    (fails : ∀ error log, F error log →
      Tells (f (.error error)) (fun result more => R result (log ++ more)) (fun error more => G error (log ++ more))) :
    Tells (x.attempt >>= f) R G := by
  intro link
  have goesOn : ∀ (result : Except γ α) mid, link.Extends mid →
      Tells (f result) (fun result more => R result (mid.since link ++ more))
        (fun error more => G error (mid.since link ++ more)) →
      Ends (f result) mid (fun value after => link.Extends after ∧ R value (after.since link))
        (fun error after => link.Extends after ∧ G error (after.since link)) := by
    intro result mid reached tells
    refine Ends.mono (tells mid) ?_ ?_
    · rintro value after ⟨later, told⟩
      refine ⟨reached.trans later, ?_⟩
      rwa [Link.since_trans reached later]
    · rintro error after ⟨later, told⟩
      refine ⟨reached.trans later, ?_⟩
      rwa [Link.since_trans reached later]
  refine Ends.attempt_bind (first link) ?_ ?_
  · exact fun value mid told => goesOn _ mid told.1 (returns value _ told.2)
  · exact fun error mid told => goesOn _ mid told.1 (fails error _ told.2)

/-- The exchange of a packet, by what is made of the reply. -/
def Sent (cmd : UInt8) (data : List UInt8) (result : Except (IpmiError ε ProtocolError) (List UInt8))
    (one : Exchange ε) : Prop :=
  one.request = (packet cmd data).request ∧ (packet cmd data).readReply one.reply = result

theorem check_not_packet (cmd : UInt8) {check : Exchange ε} (asked : check.request = (targetDeviceId none).request) :
    packets cmd [check] = [] := by
  have netfn : check.request.netfnRaw = 0x06 := by
    rw [asked]
    rfl
  rw [packets, List.filter_cons_of_neg, List.filter_nil]
  rw [netfn]
  exact Bool.noConfusion

theorem packets_sent {cmd : UInt8} {data : List UInt8} {result : Except (IpmiError ε ProtocolError) (List UInt8)}
    {one : Exchange ε} (sent : Sent cmd data result one) (other : UInt8) :
    packets other [one] = if cmd = other then [one] else [] := by
  have netfn : one.request.netfnRaw = 0x2E := by
    rw [sent.1]
    exact show NetFn.requestValue (.reserved 0x2E) = 0x2E by decide
  have asked : one.request.cmd = cmd := by
    rw [sent.1]
    rfl
  rw [packets, List.filter_cons, netfn, asked, List.filter_nil]
  by_cases same : cmd = other
  · rw [if_pos same, if_pos (by rw [same]; simp)]
  · rw [if_neg same, if_neg (by simpa using same)]

theorem check_passed {check : Exchange ε} (asked : check.request = (targetDeviceId none).request)
    (same : identified (packet 0 []) check = true) : ¬Failed check := by
  rintro (⟨-, other⟩ | ⟨cmd, data, error, sent, -⟩)
  · cases same.symm.trans other
  · have netfn := congrArg Request.netfnRaw (asked.symm.trans sent)
    exact absurd netfn (show ¬NetFn.requestValue .app = NetFn.requestValue (.reserved 0x2E) by decide)

theorem sent_passed {cmd : UInt8} {data reply : List UInt8} {one : Exchange ε} (sent : Sent cmd data (.ok reply) one) :
    ¬Failed one := by
  rintro (⟨asked, -⟩ | ⟨cmd, data, error, again, failed⟩)
  · have netfn := congrArg Request.netfnRaw (asked.symm.trans sent.1)
    exact absurd netfn (show ¬NetFn.requestValue .app = NetFn.requestValue (.reserved 0x2E) by decide)
  · have same := again.symm.trans sent.1
    have message : (packet cmd data).message = (packet _ _).message := congrArg Request.message same
    simp only [packet, Message.newRequest, Message.mk.injEq] at message
    obtain ⟨-, rfl, rfl⟩ := message
    cases failed.symm.trans sent.2

/-- What a packet returns is what it was answered. -/
theorem sent_answered {cmd : UInt8} {data reply : List UInt8} {one : Exchange ε} (sent : Sent cmd data (.ok reply) one) :
    one.request.Answered one.reply 0 reply := by
  obtain ⟨response, answered, netfn, asked, success, parsed⟩ := IpmiCommand.readReply_eq_ok.mp sent.2
  rw [sent.1]
  refine ⟨response, answered, netfn, asked, success, ?_⟩
  simp only [packet] at parsed
  split at parsed
  · cases parsed
  · exact Except.ok.inj parsed

/-- A reply answers a request with one completion code and one data. -/
theorem answered_unique {request : Request} {reply : Except ε Response} {cc other : UInt8} {data more : List UInt8}
    (answered : request.Answered reply cc data) (again : request.Answered reply other more) : cc = other ∧ data = more := by
  obtain ⟨response, rfl, -, -, rfl, rfl⟩ := answered
  obtain ⟨_, same, -, -, rfl, rfl⟩ := again
  cases same
  exact ⟨rfl, rfl⟩

/-- A packet follows a check of the device, and is sent once if that passes. -/
theorem sunPacket_tells (cmd : UInt8) (data : List UInt8) :
    Tells (sunPacket cmd data : OverSun ε (List UInt8))
      (fun reply log => (∀ one ∈ log, ¬Failed one) ∧ ∃ one, packets cmd log = [one] ∧ Sent cmd data (.ok reply) one)
      (fun fault log => OnlyLast Failed log ∧ ∃ error, fault = .error (.oem error) ∧
        (packets cmd log = [] ∧ (∀ failure, error ≠ .command failure) ∧ (∃ one ∈ log, Failed one) ∨
          ∃ one failure, error = .command failure ∧ packets cmd log = [one] ∧
            Sent cmd data (.error failure) one ∧ ∀ other ∈ log, Failed other → other = one)) := by
  refine Tells.adapt fun link => Ends.mono (sendOem_told (packet cmd data) link) ?_ ?_
  · rintro reply after ⟨extends_, check, one, log, asked, same, sent, read⟩
    have packet : Sent cmd data (.ok reply) one := ⟨sent, read⟩
    refine ⟨extends_, ?_⟩
    rw [log]
    refine ⟨List.forall_mem_cons.mpr ⟨check_passed asked same, List.forall_mem_singleton.mpr (sent_passed packet)⟩,
      one, ?_, packet⟩
    rw [show [check, one] = [check] ++ [one] from rfl, packets_append, check_not_packet cmd asked,
      packets_sent packet, if_pos rfl, List.nil_append]
  · rintro error after ⟨extends_, check, asked, ⟨other, log, kind⟩ | ⟨one, failure, same, log, sent, rfl, read⟩⟩
    · refine ⟨extends_, ?_⟩
      rw [log]
      exact ⟨.singleton _ check, error, rfl, .inl ⟨check_not_packet cmd asked, kind, check, List.mem_singleton_self check,
        .inl ⟨asked, other⟩⟩⟩
    · have packet : Sent cmd data (.error failure) one := ⟨sent, read⟩
      refine ⟨extends_, ?_⟩
      rw [log]
      have passed := check_passed asked same
      refine ⟨OnlyLast.append (List.forall_mem_singleton.mpr passed) (.singleton _ one), _, rfl,
        .inr ⟨one, failure, rfl, ?_, packet, ?_⟩⟩
      · rw [show [check, one] = [check] ++ [one] from rfl, packets_append, check_not_packet cmd asked,
          packets_sent packet, if_pos rfl, List.nil_append]
      · exact List.forall_mem_cons.mpr ⟨fun failed => absurd failed passed, List.forall_mem_singleton.mpr fun _ => rfl⟩

/-- Reading the version sends no other packet. -/
theorem sunVersion_tells {cmd : UInt8} (other : (0x24 : UInt8) ≠ cmd) :
    Tells (sunVersion : OverSun ε Version) (fun _ log => packets cmd log = [])
      (fun fault log => packets cmd log = [] ∧ ∃ error, fault = .error error) := by
  have version : ∀ one : Exchange ε, one.request = getVersion.request → packets cmd [one] = [] := by
    intro one asked
    have sent : one.request.cmd = 0x24 := by
      rw [asked]
      rfl
    rw [packets, List.filter_cons_of_neg, List.filter_nil]
    rw [sent, Bool.and_eq_true, beq_iff_eq, beq_iff_eq]
    exact fun same => other same.2
  refine Tells.adapt fun link => Ends.mono (sendOem_told getVersion link) ?_ ?_
  · rintro reply after ⟨extends_, check, one, log, asked, -, sent, -⟩
    refine ⟨extends_, ?_⟩
    rw [log, show [check, one] = [check] ++ [one] from rfl, packets_append, check_not_packet cmd asked, version one sent]
    rfl
  · rintro error after ⟨extends_, check, asked, ⟨-, log, -⟩ | ⟨one, failure, -, log, sent, rfl, -⟩⟩
    · refine ⟨extends_, ?_, _, rfl⟩
      rw [log, check_not_packet cmd asked]
    · refine ⟨extends_, ?_, _, rfl⟩
      rw [log, show [check, one] = [check] ++ [one] from rfl, packets_append, check_not_packet cmd asked,
        version one sent]
      rfl

theorem sunRequire3200_tells {cmd : UInt8} (other : (0x24 : UInt8) ≠ cmd) :
    Tells (sunRequire3200 : OverSun ε Unit) (fun _ log => packets cmd log = [])
      (fun fault log => packets cmd log = [] ∧ ∃ error, fault = .error error) := by
  refine Tells.bind (sunVersion_tells other) (fun _ _ told => told) ?_
  intro version log none
  split
  · refine Tells.throw ⟨?_, _, rfl⟩
    rw [List.append_nil, none]
  · refine Tells.pure ?_
    rw [List.append_nil, none]

theorem identifier_yields (input : List UInt8) (max : Nat) :
    Yields (fun id => id = input ∧ input ≠ [] ∧ input.length ≤ max ∧ 0 ∉ input)
      (identifier input max : Checked (SunError ε) _) := by
  refine yields_check fun sound => Yields.pure ⟨rfl, ?_⟩
  simpa only [not_or, Nat.not_lt] using sound

/-! ### A device of Sun's -/

/-- The link, with more requests sent. -/
def sending (link : Link ε) (requests : List Request) : Link ε := { link with sent := link.sent ++ requests }

/-- The check before each packet. -/
def identity : Request := (targetDeviceId none).request

/-- The device always is one of Sun's. -/
def IsSun (link : Link ε) : Prop :=
  ∀ sent, ∃ data device, identity.Answered (link.reply (sent ++ [identity])) 0 data ∧
    DeviceId.fromData data = some device ∧ device.manufacturerId = 42

theorem sendRecv_read {α β : Type} {command : IpmiCommand α β} {link : Link ε} {value : α}
    (read : command.readReply (link.reply (link.sent ++ [command.request])) = .ok value) :
    Ends (sendRecv command) link (fun returned after => returned = value ∧ after = sending link [command.request])
      (fun _ _ => False) := by
  have result := link.sendRecv_result command
  rw [read] at result
  refine Ends.call (fun returned same => ⟨?_, link.sendRecv_link command⟩) (fun error failed => ?_)
  · exact (Except.ok.inj (result.symm.trans same)).symm
  · cases result.symm.trans failed

/-- A command that the device answers is sent after the check. -/
theorem sendOem_answered {α β : Type} {command : OemCommand α β} {link : Link ε} {value : α} (sun : IsSun link)
    (bmc : command.target = none) (manufacturer : command.manufacturerId = 42) (any : command.productId = none)
    (supported : ∀ device, device.manufacturerId = 42 → command.supports device = true)
    (read : command.readReply (link.reply (link.sent ++ [identity, command.request])) = .ok value) :
    Ends (sendOem command) link
      (fun returned after => returned = value ∧ after = sending link [identity, command.request])
      (fun _ _ => False) := by
  obtain ⟨data, device, answered, parsed, same⟩ := sun link.sent
  have known : (targetDeviceId none).readReply (link.reply (link.sent ++ [identity])) = .ok device := by
    refine IpmiCommand.readReply_answered answered ?_
    simp only [targetDeviceId, getDeviceId, parsed, Option.elim_some]
  have again : command.readReply ((sending link [identity]).reply
      ((sending link [identity]).sent ++ [command.request])) = .ok value := by
    rw [← read, sending, List.append_assoc, List.singleton_append]
  have both : sending (sending link [identity]) [command.request] = sending link [identity, command.request] := by
    rw [sending, sending, sending, List.append_assoc, List.singleton_append]
  unfold sendOem
  rw [bmc]
  refine Ends.bind (Ends.adapt (Ends.mono (sendRecv_read known) (fun _ _ told => told)
    (fun _ _ never => never.elim))) (fun _ _ never => never) ?_
  rintro device _ ⟨rfl, rfl⟩
  rw [if_neg]
  · refine Ends.adapt (Ends.mono (sendRecv_read again) ?_ (fun _ _ never => never))
    rintro _ _ ⟨rfl, rfl⟩
    exact ⟨rfl, both⟩
  · rw [manufacturer, any, supported _ same]
    simpa using same

theorem sunPacket_answered {link : Link ε} (sun : IsSun link) {cmd : UInt8} {data reply : List UInt8}
    (answered : (packet cmd data).request.Answered
      (link.reply (link.sent ++ [identity, (packet cmd data).request])) 0 reply) (short : reply.length ≤ maxReply) :
    Ends (sunPacket cmd data) link
      (fun returned after => returned = reply ∧ after = sending link [identity, (packet cmd data).request])
      (fun _ _ => False) := by
  have manufacturer : ∀ device : DeviceId, device.manufacturerId = 42 → (packet cmd data).supports device = true := by
    intro device same
    simp only [packet, same]
    rfl
  refine Ends.adapt (Ends.mono (sendOem_answered sun rfl rfl rfl manufacturer ?_) (fun _ _ told => told)
    (fun _ _ never => never))
  exact IpmiCommand.readReply_answered answered (if_neg (Nat.not_lt.mpr short))

/-- A version from 3.2 on passes. -/
theorem sunRequire3200_answered {link : Link ε} (sun : IsSun link) {data : List UInt8} {version : Version}
    (answered : getVersion.request.Answered (link.reply (link.sent ++ [identity, getVersion.request])) 0 data)
    (parsed : getVersion.parse data = .ok version)
    (recent : ¬[version.major, version.minor, version.update, version.micro] < [3, 2, 0, 0]) :
    Ends sunRequire3200 link (fun _ after => after = sending link [identity, getVersion.request])
      (fun _ _ => False) := by
  have manufacturer : ∀ device : DeviceId, device.manufacturerId = 42 → getVersion.supports device = true := by
    intro device same
    simp only [getVersion, same]
    rfl
  refine Ends.bind (Ends.adapt (Ends.mono (sendOem_answered sun rfl rfl rfl manufacturer
    (IpmiCommand.readReply_answered answered parsed)) (fun _ _ told => told) (fun _ _ never => never.elim)))
    (fun _ _ never => never) ?_
  rintro _ _ ⟨rfl, rfl⟩
  rw [if_neg recent]
  exact Ends.pure rfl

end IpmiRs.Sun
