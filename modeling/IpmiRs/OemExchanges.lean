import IpmiRs.Oem

/-! What is exchanged over a link by a command and by the check before an OEM
command: the device ID was read, and the command was sent once if that was of a
device it is for. -/
namespace IpmiRs.OverLink
open Connection App Library Library.Stateful

variable {ε α β γ : Type}

/-- The exchange a command makes. -/
def exchange (link : Link ε) (command : IpmiCommand α β) : Exchange ε :=
  ⟨command.request, link.reply (link.sent ++ [command.request])⟩

theorem since_sendRecv_self (link : Link ε) (command : IpmiCommand α β) :
    (link.sendRecv command).2.since link = [exchange link command] := by
  rw [Link.since_sendRecv (.refl link), Link.since_self]
  rfl

/-- The reply to a read of the device ID is of a device the command is for. -/
def identified (command : OemCommand α β) (check : Exchange ε) : Bool :=
  match ((targetDeviceId command.target).readReply check.reply : Except (IpmiError ε NotEnoughData) _) with
  | .ok device =>
    device.manufacturerId == command.manufacturerId &&
      command.productId.all (device.productId == ·) && command.supports device
  | .error _ => false

/-- What a command returns is what it makes of the reply. -/
theorem sendRecv_told (command : IpmiCommand α β) (link : Link ε) :
    Ends (sendRecv command) link
      (fun value after => after = (link.sendRecv command).2 ∧
        command.readReply (exchange link command).reply = .ok value)
      (fun error after => after = (link.sendRecv command).2 ∧
        command.readReply (exchange link command).reply = .error error) := by
  refine Ends.call (fun value returned => ⟨rfl, ?_⟩) (fun error failed => ⟨rfl, ?_⟩)
  · rw [← returned]
    exact (link.sendRecv_result command).symm
  · rw [← failed]
    exact (link.sendRecv_result command).symm

/-- The two ways the device is compared are one. -/
theorem identified_eq (command : OemCommand α β) {check : Exchange ε} {device : DeviceId}
    (read : (targetDeviceId command.target).readReply check.reply = .ok device) :
    identified command check = true ↔
      ¬(device.manufacturerId ≠ command.manufacturerId ∨
        command.productId.any (device.productId != ·) ∨ ¬command.supports device) := by
  rw [identified, read]
  cases command.productId <;> simp [and_assoc]

/-- An OEM command reads the device ID, and is sent if that is of a device it is for. -/
theorem sendOem_told (command : OemCommand α β) (link : Link ε) :
    Ends (sendOem command) link
      (fun value after => link.Extends after ∧ ∃ check one, after.since link = [check, one] ∧
        check.request = (targetDeviceId command.target).request ∧
        identified command check = true ∧ one.request = command.request ∧
        command.readReply one.reply = (.ok value : Except (IpmiError ε β) α))
      (fun error after => link.Extends after ∧
        ∃ check, check.request = (targetDeviceId command.target).request ∧
          (identified command check = false ∧ after.since link = [check] ∧
              (∀ failure, error ≠ .command failure) ∨
            ∃ one failure, identified command check = true ∧ after.since link = [check, one] ∧
              one.request = command.request ∧ error = .command failure ∧
              command.readReply one.reply = .error failure)) := by
  have first : link.Extends (link.sendRecv (targetDeviceId command.target)).2 :=
    .sendRecv (.refl link) _
  have alone := since_sendRecv_self link (targetDeviceId command.target)
  have identity : Ends (ExceptT.adapt .identity (oemDeviceId command.target)) link
      (fun device after => after = (link.sendRecv (targetDeviceId command.target)).2 ∧
        (targetDeviceId command.target).readReply
          (exchange link (targetDeviceId command.target)).reply = .ok device)
      (fun (error : OemError ε β) after => ∃ failure, error = .identity failure ∧
        after = (link.sendRecv (targetDeviceId command.target)).2 ∧
        (targetDeviceId command.target).readReply
          (exchange link (targetDeviceId command.target)).reply = .error failure) := by
    refine Ends.adapt (Ends.mono (sendRecv_told (targetDeviceId command.target) link)
      (fun _ _ read => read) (fun failure _ failed => ⟨failure, rfl, failed⟩))
  refine Ends.bind identity ?_ ?_
  · rintro _ _ ⟨failure, rfl, rfl, failed⟩
    refine ⟨first, _, rfl, .inl ⟨?_, alone, fun _ => nofun⟩⟩
    rw [identified, failed]
  · rintro device _ ⟨rfl, read⟩
    split
    · rename_i other
      refine Ends.throw ⟨first, _, rfl, .inl ⟨?_, alone, fun _ => nofun⟩⟩
      rw [← Bool.not_eq_true, identified_eq command read, not_not]
      exact other
    · rename_i same
      have known : identified command (exchange link (targetDeviceId command.target)) = true :=
        (identified_eq command read).mpr same
      generalize (link.sendRecv (targetDeviceId command.target)).2 = checked at first alone ⊢
      have both : (checked.sendRecv command.toIpmiCommand).2.since link =
          [exchange link (targetDeviceId command.target), exchange checked command.toIpmiCommand] := by
        rw [Link.since_sendRecv first, alone]
        rfl
      refine Ends.adapt (Ends.mono (sendRecv_told command.toIpmiCommand checked) ?_ ?_)
      · rintro value _ ⟨rfl, answered⟩
        exact ⟨.sendRecv first _, _, _, both, rfl, known, rfl, answered⟩
      · rintro error _ ⟨rfl, failed⟩
        exact ⟨.sendRecv first _, _, rfl, .inr ⟨_, error, known, both, rfl, rfl, failed⟩⟩


/-- What a computation exchanges: over any link, it returns after the exchanges
that `Q` speaks of or fails after those that `E` speaks of. -/
def Tells (x : OverLink ε γ α) (Q : α → List (Exchange ε) → Prop)
    (E : γ → List (Exchange ε) → Prop) : Prop :=
  ∀ link, Ends x link (fun value after => link.Extends after ∧ Q value (after.since link))
    (fun error after => link.Extends after ∧ E error (after.since link))

section tells
variable {δ : Type} {P Q : α → List (Exchange ε) → Prop} {E F : γ → List (Exchange ε) → Prop}

theorem Tells.pure {value : α} (holds : Q value []) : Tells (pure value) Q E := by
  intro link
  refine Ends.pure ⟨.refl link, ?_⟩
  rwa [Link.since_self]

theorem Tells.throw {error : γ} (holds : E error []) : Tells (throw error) Q E := by
  intro link
  refine Ends.throw ⟨.refl link, ?_⟩
  rwa [Link.since_self]

theorem Tells.mono {x : OverLink ε γ α} (first : Tells x P F) (returns : ∀ value log, P value log → Q value log)
    (fails : ∀ error log, F error log → E error log) : Tells x Q E := fun link =>
  Ends.mono (first link) (fun value _ told => ⟨told.1, returns value _ told.2⟩)
    (fun error _ told => ⟨told.1, fails error _ told.2⟩)

theorem Tells.adapt {f : γ → δ} {x : OverLink ε γ α} {E : δ → List (Exchange ε) → Prop}
    (first : Tells x Q (fun error => E (f error))) : Tells (ExceptT.adapt f x) Q E := fun link =>
  Ends.adapt (first link)

/-- What is exchanged later comes after what was exchanged first. -/
theorem Tells.bind {x : OverLink ε γ α} {f : α → OverLink ε γ β} {R : β → List (Exchange ε) → Prop}
    (first : Tells x P F) (fails : ∀ error log, F error log → E error log)
    (next : ∀ value log, P value log →
      Tells (f value) (fun result more => R result (log ++ more)) (fun error more => E error (log ++ more))) :
    Tells (x >>= f) R E := by
  intro link
  refine Ends.bind (first link) (fun error after told => ⟨told.1, fails error _ told.2⟩) ?_
  intro value mid told
  refine Ends.mono (next value _ told.2 mid) ?_ ?_
  · intro result after later
    refine ⟨told.1.trans later.1, ?_⟩
    rw [Link.since_trans told.1 later.1]
    exact later.2
  · intro error after later
    refine ⟨told.1.trans later.1, ?_⟩
    rw [Link.since_trans told.1 later.1]
    exact later.2

end tells

/-- What a command exchanges, with what it makes of the reply. -/
theorem sendRecv_tells (command : IpmiCommand α β) :
    Tells (sendRecv command : OverLink ε (IpmiError ε β) α)
      (fun value log => ∃ one, log = [one] ∧ one.request = command.request ∧
        command.readReply one.reply = .ok value)
      (fun error log => ∃ one, log = [one] ∧ one.request = command.request ∧
        command.readReply one.reply = .error error) := by
  intro link
  refine Ends.mono (sendRecv_told command link) ?_ ?_
  · rintro value _ ⟨rfl, read⟩
    exact ⟨.sendRecv (.refl link) _, _, since_sendRecv_self link command, rfl, read⟩
  · rintro error _ ⟨rfl, read⟩
    exact ⟨.sendRecv (.refl link) _, _, since_sendRecv_self link command, rfl, read⟩

end IpmiRs.OverLink
