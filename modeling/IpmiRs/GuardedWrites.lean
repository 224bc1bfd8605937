import IpmiRs.App.SystemInfoWrite
import IpmiRs.Transport.LanWrite

/-! The guarded writes of `ipmi-rs-core`, whatever is answered to what they
send: a transaction that was opened is closed once, as the last thing, and no
failure is left out of the report. -/
namespace IpmiRs
open Connection Library Library.Stateful Library.Transaction

section
variable {σ ε : Type}

open Transport in
/-- What a write of LAN parameters returns is nothing to report if and only if
it was valid and every command sent was acknowledged. -/
theorem lanTold_ok {channel : Channel} {writes : List (LanConfigParameter × LanConfigParameterRequest)}
    {classifyBegin : ε → LanBeginFailure} {log : Log SetLanConfigParameters ε}
    {result : Except (LanWriteError ε) Unit}
    (told : LanTold channel writes classifyBegin log result) :
    result = .ok () ↔ (validated channel writes).isOk = true ∧ ∀ one ∈ log, one.2 = .ok () := by
  unfold LanTold at told
  cases valid : validated channel writes with
  | error error =>
    rw [valid] at told
    obtain ⟨rfl, rfl⟩ := told
    simp [Except.isOk, Except.toBool]
  | ok commands =>
    rw [valid] at told
    cases commands with
    | nil =>
      obtain ⟨rfl, rfl⟩ := told
      simp [Except.isOk, Except.toBool]
    | cons first rest =>
      obtain ⟨report, ran, rfl⟩ := told
      rw [lanResult_eq_ok, ran.clean_iff]
      exact ⟨fun all => ⟨rfl, all⟩, fun all => all.2⟩

open App.SystemInfo in
theorem systemInfoTold_ok {value : SystemInfoString} {commitMode : SystemInfoCommitMode}
    {log : Log SetSystemInfoParameter ε} {result : Except (SystemInfoWriteError ε) Unit}
    (told : SystemInfoTold value commitMode log result) :
    result = .ok () ↔ ∀ one ∈ log, one.2 = .ok () := by
  obtain ⟨report, ran, rfl⟩ := told
  rw [systemInfoResult_eq_ok, ran.clean_iff]

open Transport App.SystemInfo in
/-- Whatever is acknowledged, refused or lost of the commands a guarded write
sends, they are those of one transaction, its result reports exactly those that
failed, and it is a success if and only if there were none. -/
theorem guarded_writes_bracketed :
    (∀ (send : Sender σ SetLanConfigParameters ε) (channel : Channel)
        (writes : List (LanConfigParameter × LanConfigParameterRequest))
        (classifyBegin : ε → LanBeginFailure) (s : σ),
      let (result, _, log) := (lanWriteGuarded (recording send) channel writes classifyBegin).eval (s, [])
      LanTold channel writes classifyBegin log result ∧
        (∀ commands, validated channel writes = .ok commands →
          List.Forall₂ (Encodes channel) writes commands) ∧
        (result = .ok () ↔
          (validated channel writes).isOk = true ∧ ∀ one ∈ log, one.2 = .ok ())) ∧
    ∀ (send : Sender σ SetSystemInfoParameter ε) (value : SystemInfoString)
        (commitMode : SystemInfoCommitMode) (s : σ),
      let (result, _, log) := (systemInfoWriteGuarded (recording send) value commitMode).eval (s, [])
      SystemInfoTold value commitMode log result ∧
        (result = .ok () ↔ ∀ one ∈ log, one.2 = .ok ()) := by
  constructor
  · intro send channel writes classifyBegin s
    have told := Ends.result (P := fun result (t : σ × Log SetLanConfigParameters ε) =>
      LanTold channel writes classifyBegin t.2 result) (lanWriteGuarded_ends send s)
    exact ⟨told, fun _ valid => validate_encodes (Checked.of_outcome_eq_ok valid), lanTold_ok told⟩
  · intro send value commitMode s
    have told := Ends.result (P := fun result (t : σ × Log SetSystemInfoParameter ε) =>
      SystemInfoTold value commitMode t.2 result) (systemInfoWriteGuarded_ends send s)
    exact ⟨told, systemInfoTold_ok told⟩

open Transport in
/-- A controller that refuses a VLAN, and nothing else. -/
def refusingVlan : Sender Unit SetLanConfigParameters Unit := fun command s =>
  (if command.parameter = .vlanId then .error () else .ok (), s)

open Transport in
/-- The write that is refused is the last one before the transaction is closed, and what is reported. -/
theorem guarded_writes_bracketed_vlan :
    let writes : List (LanConfigParameter × LanConfigParameterRequest) :=
      [(.vlanPriority, .vlanPriority 3), (.vlanId, .vlanId ⟨true, 5⟩), (.vlanPriority, .vlanPriority 2)]
    let ran := (lanWriteGuarded (recording refusingVlan) .primary writes (fun _ => .rejected)).eval ((), [])
    LanTold .primary writes (fun _ => .rejected) ran.2.2 ran.1 ∧
      ran.2.2 = [(⟨.primary, .setInProgress, [1]⟩, .ok ()), (⟨.primary, .vlanPriority, [3]⟩, .ok ()),
        (⟨.primary, .vlanId, [5, 0x80]⟩, .error ()), (⟨.primary, .setInProgress, [0]⟩, .ok ())] ∧
      ran.1 = .error (.uncertain (some (1, ())) none none) :=
  ⟨(guarded_writes_bracketed.1 refusingVlan .primary _ (fun _ => .rejected) ()).1, by decide +kernel, rfl⟩

end
end IpmiRs
