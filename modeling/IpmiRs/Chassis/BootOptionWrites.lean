import IpmiRs.Chassis.BootOptions

/-! Writes of boot options and their payloads: what is parsed is what the write
encodes, bit by bit, and every write is parsed back. -/
namespace IpmiRs.Chassis
open Library Library.Bytes Library.Checked

/-! ### What is parsed is encoded again -/

theorem checkParameterLength_yields (length : Nat) (data : List UInt8) :
    Yields (fun _ => data.length = length) (checkParameterLength length data) := by
  unfold checkParameterLength
  split
  · exact .throw _
  · rename_i same
    exact .pure (not_not.mp same)

/-- A parameter is parsed where its length has been checked. -/
theorem parseParameter_yields {α : Type} {parameter : BootParameter α} {data : List UInt8} {P : α → Prop}
    (parses : data.length = parameter.length → Yields P (parameter.parse data)) :
    Yields P (parseParameter parameter data) :=
  Yields.bind (checkParameterLength_yields _ _) fun _ length => parses length

theorem selector_yields (selector : UInt8) :
    Yields (fun known => known.value = selector) (BootOptionSelector.ofByte selector) := by
  unfold BootOptionSelector.ofByte
  split
  case h_9 => exact .throw _
  all_goals
    rename_i value
    exact .pure (UInt8.toNat_inj.mp value.symm)

/-- A single byte, where one is expected. -/
theorem byte_yields {data : List UInt8} (length : data.length = 1) :
    Yields (fun value => data = [value]) (index data 0 : Parsing UInt8) := by
  obtain ⟨value, rfl⟩ := List.length_eq_one_iff.mp length
  exact .pure rfl

theorem setInProgress_yields (data : List UInt8) :
    Yields (fun option => data = [option.value]) (parseParameter SetInProgress.parameter data) := by
  refine parseParameter_yields fun _ => ?_
  refine Yields.bind (checkParameterLength_yields 1 data) fun _ length => ?_
  refine Yields.bind (byte_yields length) ?_
  rintro value rfl
  split
  case h_4 => exact .throw _
  all_goals
    rename_i same
    exact .pure (congrArg (fun byte => [byte]) (UInt8.toNat_inj.mp same))

theorem servicePartitionSelector_yields (data : List UInt8) :
    Yields (fun option => data = [option.partition]) (parseParameter ServicePartitionSelector.parameter data) := by
  refine parseParameter_yields fun _ => ?_
  refine Yields.bind (checkParameterLength_yields 1 data) fun _ length => ?_
  refine Yields.bind (byte_yields length) ?_
  rintro value rfl
  exact .pure rfl

theorem fromBits_yields (bits : UInt8) (error : BootOptionError) :
    Yields (fun flags => bits = flags.bits) (okOr (Flags.fromBits bits) error) := by
  refine Yields.mono (yields_okOr _ _) fun flags found => ?_
  unfold Flags.fromBits at found
  split at found
  · cases found
    rfl
  · cases found

theorem validBitClearing_yields (data : List UInt8) :
    Yields (fun option => data = [option.bits]) (parseParameter BootValidBitClearing.parameter data) := by
  refine parseParameter_yields fun _ => ?_
  refine Yields.bind (checkParameterLength_yields 1 data) fun _ length => ?_
  refine Yields.bind (byte_yields length) ?_
  rintro value rfl
  exact Yields.mono (fromBits_yields value _) fun flags same => congrArg (fun byte => [byte]) same

theorem bootInfoAcknowledge_yields (data : List UInt8) :
    Yields (fun option => data = [option.writeMask.bits, option.flags.bits])
      (parseParameter BootInfoAcknowledge.parameter data) := by
  refine parseParameter_yields fun _ => ?_
  refine Yields.bind (checkParameterLength_yields 2 data) fun _ length => ?_
  obtain ⟨mask, value, rfl⟩ := List.length_eq_two.mp length
  refine Yields.bind (P := fun first => first = mask) (.pure rfl) ?_
  rintro _ rfl
  refine Yields.bind (fromBits_yields _ _) fun writeMask known => ?_
  refine Yields.bind (P := fun second => second = value) (.pure rfl) ?_
  rintro _ rfl
  refine Yields.bind (fromBits_yields _ _) fun flags same => ?_
  exact .pure (by rw [known, same])

/-- A number of four bytes is recovered from them. -/
theorem u32_bytes (first second third fourth : UInt8) :
    toLe 4 (UInt32.ofNat (ofLe [first, second, third, fourth])).toNat = [first, second, third, fourth] := by
  have small : ofLe [first, second, third, fourth] < 256 ^ 4 := ofLe_lt _
  have small : ofLe [first, second, third, fourth] < 2 ^ 32 := small.trans_eq (by decide)
  rw [UInt32.toNat_ofNat', Nat.mod_eq_of_lt small]
  exact toLe_ofLe rfl

/-- Of boot flags whose bits all have a meaning, the last three bytes are zero. -/
theorem unmodelled_none {first second third fourth fifth : UInt8}
    (modelled : unmodelled [first, second, third, fourth, fifth] = none) :
    first &&& ~~~0xE0 = 0 ∧ second &&& ~~~0xBC = 0 ∧ third = 0 ∧ fourth = 0 ∧ fifth = 0 := by
  have all := List.find?_eq_none.mp modelled
  have zero : ∀ byte : UInt8, byte &&& ~~~0 = 0 → byte = 0 := by
    apply forall_of_table
    decide +kernel
  simp only [allowedFlags, List.zip_cons_cons, List.zip_nil_left, List.zipIdx_cons, List.zipIdx_nil,
    List.forall_mem_cons, bne_iff_ne, not_not] at all
  exact ⟨all.1, all.2.1, zero _ all.2.2.1, zero _ all.2.2.2.1, zero _ all.2.2.2.2.1⟩

/-- Flags of which the first byte has no other bits. -/
theorem first_flags (byte : UInt8) : byte &&& ~~~0xE0 = 0 → byte &&& 0x80 ≠ 0 →
    0x80 ||| (if (if byte &&& 0x40 = 0 then BootOverrideDuration.oneTime else .persistent) = .persistent
      then 0x40 else 0) ||| (if byte &&& 0x20 != 0 then 0x20 else 0) = byte := by
  revert byte
  apply forall_of_table
  decide +kernel

theorem device_value {value : UInt8} {device : BootDevice} (known : BootDevice.ofByte value = .ok device) :
    device.value = value := by
  unfold BootDevice.ofByte at known
  split at known
  case h_13 => cases known
  all_goals
    rename_i same
    cases known
    exact UInt8.toNat_inj.mp same.symm

/-- The device and the flag of the second byte. -/
theorem second_flags (byte : UInt8) : byte &&& ~~~0xBC = 0 →
    ((byte >>> 2) &&& 0x0F) <<< 2 ||| (if byte &&& 0x80 != 0 then 0x80 else 0) = byte := by
  revert byte
  apply forall_of_table
  decide +kernel

theorem bootFlags_yields (data : List UInt8) :
    Yields (fun flags => data.length = 5 ∧ ∀ override, flags = .valid override → data = override.toBytes)
      (parseParameter BootFlags.parameter data) := by
  refine parseParameter_yields fun length => ?_
  obtain ⟨first, second, third, fourth, fifth, rfl⟩ : ∃ a b c d e, data = [a, b, c, d, e] := by
    match data, length with
    | [a, b, c, d, e], _ => exact ⟨a, b, c, d, e, rfl⟩
  refine Yields.bind (checkParameterLength_yields 5 _) fun _ length => ?_
  refine Yields.bind (P := fun _ => True) (.pure trivial) fun raw _ => ?_
  split
  · exact .pure ⟨length, fun _ other => nomatch other⟩
  rename_i modelled
  have modelled := Option.not_isSome_iff_eq_none.mp modelled
  obtain ⟨low, high, rfl, rfl, rfl⟩ := unmodelled_none modelled
  refine Yields.bind (P := fun value => value = second) (.pure rfl) ?_
  rintro _ rfl
  split
  · exact .pure ⟨length, fun _ other => nomatch other⟩
  rename_i device known
  refine Yields.bind (P := fun value => value = first) (.pure rfl) ?_
  rintro _ rfl
  split
  · exact .pure ⟨length, fun _ other => nomatch other⟩
  rename_i valid
  refine .pure ⟨length, ?_⟩
  rintro override same
  cases same
  have lowest := first_flags _ low valid
  have next := second_flags _ high
  rw [← device_value known] at next
  exact congrArg₂ (fun low high => [low, high, 0, 0, 0]) lowest.symm next.symm

/-- What is parsed is what is encoded. -/
theorem tryFromRaw_yields (selector : UInt8) (data : List UInt8) :
    Yields (fun write => write.toBytes = selector :: data) (BootOptionWrite.tryFromRaw selector data) := by
  refine Yields.bind (selector_yields selector) ?_
  rintro known rfl
  cases known with
  | setInProgress =>
    refine Yields.bind (setInProgress_yields data) ?_
    rintro value rfl
    exact .pure rfl
  | servicePartitionSelector =>
    refine Yields.bind (servicePartitionSelector_yields data) ?_
    rintro value rfl
    exact .pure rfl
  | servicePartitionScan =>
    refine Yields.bind (checkParameterLength_yields 1 data) fun _ length => ?_
    refine Yields.bind (byte_yields length) ?_
    rintro value rfl
    split
    · rename_i same
      have zero : value = 0 := UInt8.toNat_inj.mp same
      rw [zero]
      exact .pure rfl
    · rename_i same
      have one : value = 1 := UInt8.toNat_inj.mp same
      rw [one]
      exact .pure rfl
    · exact .throw _
  | validBitClearing =>
    refine Yields.bind (validBitClearing_yields data) ?_
    rintro value rfl
    exact .pure rfl
  | bootInfoAcknowledge =>
    refine Yields.bind (bootInfoAcknowledge_yields data) ?_
    rintro value rfl
    exact .pure rfl
  | bootFlags =>
    refine Yields.bind (bootFlags_yields data) ?_
    rintro (_ | override | raw) ⟨length, encoded⟩
    · refine Yields.bind (yields_index (by omega)) fun value _ => ?_
      exact .throw _
    · rw [encoded override rfl]
      exact .pure rfl
    · dsimp only
      split
      · exact .throw _
      · refine Yields.bind (yields_index (by omega)) fun value _ => ?_
        exact .throw _
  | bootInitiatorInfo =>
    refine Yields.bind (checkParameterLength_yields 9 data) fun _ length => ?_
    obtain ⟨channel, a, b, c, d, e, f, g, h, rfl⟩ : ∃ channel a b c d e f g h,
        data = [channel, a, b, c, d, e, f, g, h] := by
      match data, length with
      | [channel, a, b, c, d, e, f, g, h], _ => exact ⟨channel, a, b, c, d, e, f, g, h, rfl⟩
    refine Yields.bind (P := fun value => value = channel) (.pure rfl) ?_
    rintro channel rfl
    refine Yields.bind (P := fun value => value = UInt32.ofNat (ofLe [a, b, c, d])) (.pure rfl) ?_
    rintro _ rfl
    refine Yields.bind (P := fun value => value = UInt32.ofNat (ofLe [e, f, g, h])) (.pure rfl) ?_
    rintro _ rfl
    unfold BootInitiatorInfoWrite.new
    split
    · refine .pure ?_
      change 6 :: channel :: (toLe 4 (UInt32.ofNat (ofLe [a, b, c, d])).toNat ++
        toLe 4 (UInt32.ofNat (ofLe [e, f, g, h])).toNat) = _
      rw [u32_bytes, u32_bytes]
      rfl
    · exact .throw _
  | bootMailbox => exact .throw _

/-! ### What is encoded is parsed again -/

theorem fromBits_bits (flags : Flags) : Flags.fromBits flags.bits = some flags := by
  unfold Flags.fromBits
  rw [dif_pos flags.known]

theorem tryFromRaw_toBytes (write : BootOptionWrite) {selector : UInt8} {data : List UInt8}
    (encoded : write.toBytes = selector :: data) :
    BootOptionWrite.tryFromRaw selector data = pure write := by
  cases write with
  | setInProgress value =>
    cases encoded
    cases value <;> rfl
  | servicePartitionSelector value =>
    cases encoded
    rfl
  | servicePartitionScanRequest scan =>
    cases encoded
    cases scan <;> rfl
  | validBitClearing value =>
    cases encoded
    change (do return BootOptionWrite.validBitClearing (← okOr (Flags.fromBits value.bits) (.invalidValue 3 value.bits)))
      = (pure _ : Parsing BootOptionWrite)
    rw [fromBits_bits]
    rfl
  | bootInfoAcknowledge value =>
    cases encoded
    have parsed : parseParameter BootInfoAcknowledge.parameter [value.writeMask.bits, value.flags.bits] =
        pure value := by
      change (do
        let writeMask ← okOr (Flags.fromBits value.writeMask.bits) (.invalidValue 4 value.writeMask.bits)
        let flags ← okOr (Flags.fromBits value.flags.bits) (.invalidValue 4 value.flags.bits)
        pure (BootInfoAcknowledge.mk writeMask flags)) = (pure value : Parsing BootInfoAcknowledge)
      rw [fromBits_bits, fromBits_bits]
      rfl
    change (do return BootOptionWrite.bootInfoAcknowledge (← parseParameter BootInfoAcknowledge.parameter
      [value.writeMask.bits, value.flags.bits])) = (pure _ : Parsing BootOptionWrite)
    rw [parsed]
    rfl
  | bootFlags value =>
    cases encoded
    obtain ⟨device, duration, efi, clearCmos⟩ := value
    cases device <;> cases duration <;> cases efi <;> cases clearCmos <;> rfl
  | bootInitiatorInfo value =>
    cases encoded
    obtain ⟨channel, sessionId, timestamp, valid⟩ := value
    have session : UInt32.ofNat (ofLe (toLe 4 sessionId.toNat)) = sessionId := by
      rw [ofLe_toLe_of_lt (UInt32.toNat_lt _), UInt32.ofNat_toNat]
    have time : UInt32.ofNat (ofLe (toLe 4 timestamp.toNat)) = timestamp := by
      rw [ofLe_toLe_of_lt (UInt32.toNat_lt _), UInt32.ofNat_toNat]
    have new : BootInitiatorInfoWrite.new channel sessionId timestamp = pure ⟨channel, sessionId, timestamp, valid⟩ := by
      unfold BootInitiatorInfoWrite.new
      rw [dif_pos valid]
    change (do return BootOptionWrite.bootInitiatorInfo (← BootInitiatorInfoWrite.new channel
      (UInt32.ofNat (ofLe (toLe 4 sessionId.toNat))) (UInt32.ofNat (ofLe (toLe 4 timestamp.toNat))))) =
        (pure _ : Parsing BootOptionWrite)
    rw [session, time, new]
    rfl

/-- Boot option writes are what is accepted, no more and no less: parsing a payload never panics, what is
parsed is encoded as that very selector and payload, and every write is parsed back from what it encodes. -/
theorem boot_option_writes_bijective :
    (∀ selector data, ∃ result, BootOptionWrite.tryFromRaw selector data = some result) ∧
    (∀ selector data write, BootOptionWrite.tryFromRaw selector data = pure write →
      write.toBytes = selector :: data) ∧
    ∀ (write : BootOptionWrite) (selector : UInt8) (data : List UInt8), write.toBytes = selector :: data →
      BootOptionWrite.tryFromRaw selector data = pure write :=
  ⟨fun selector data => (tryFromRaw_yields selector data).returns,
    fun selector data _ parsed => (tryFromRaw_yields selector data).ok parsed,
    fun write _ _ encoded => tryFromRaw_toBytes write encoded⟩

/-- The initiator's channel, session and time, parsed back from their nine bytes. -/
theorem boot_option_writes_bijective_initiator :
    ∃ info : BootInitiatorInfoWrite, info.channel = 3 ∧ info.sessionId = 0x12345678 ∧ info.timestamp = 0x60A0B0C0 ∧
      BootOptionWrite.tryFromRaw 6 [3, 0x78, 0x56, 0x34, 0x12, 0xC0, 0xB0, 0xA0, 0x60] =
        pure (.bootInitiatorInfo info) :=
  ⟨⟨3, 0x12345678, 0x60A0B0C0, by decide⟩, rfl, rfl, rfl, boot_option_writes_bijective.2.2 _ _ _ rfl⟩

end IpmiRs.Chassis
