import IpmiRs.Library.Checked
import IpmiRs.Rmcp.Handshake
import IpmiRs.Rmcp.PacketAuthentication

/-! The replies that the RMCP+ handshake takes. Each parser accepts exactly the
bytes of its message, whatever stands in the bytes it does not read, and a
packet outside a session is accepted exactly as it is written. -/
namespace IpmiRs.Rmcp
open App.Auth Connection Library Library.Bytes

/-! ### Fields -/

theorem nonZeroU32_toLe (id : NonZeroU32) : nonZeroU32 (toLe 4 id.1.toNat) = some id := by
  have same : UInt32.ofNat (ofLe (toLe 4 id.1.toNat)) = id.1 := by
    rw [ofLe_toLe_of_lt id.1.toNat_lt, UInt32.ofNat_toNat]
  unfold nonZeroU32
  simp only [same]
  rw [dif_pos id.2]

theorem nonZeroU32_eq_some {bytes : List UInt8} (four : bytes.length = 4) {id : NonZeroU32} :
    nonZeroU32 bytes = some id ↔ bytes = toLe 4 id.1.toNat := by
  constructor
  · intro read
    unfold nonZeroU32 at read
    split at read
    · have small := ofLe_lt bytes
      rw [four] at small
      rw [← Option.some.inj read, UInt32.toNat_ofNat', Nat.mod_eq_of_lt (by omega), toLe_ofLe four]
    · cases read
  · rintro rfl
    exact nonZeroU32_toLe id

/-- What is made of a value that is found. -/
theorem elim_eq_ok {ε α β : Type} {found : Option α} {error : ε} {f : α → β} {result : β}
    (read : found.elim (Except.error error) (Except.ok ∘ f) = Except.ok result) :
    ∃ value, found = some value ∧ f value = result := by
  cases found with
  | none => cases read
  | some value => exact ⟨value, rfl, Except.ok.inj read⟩

/-- A field, and what follows it. -/
theorem take_append_drop_field (bytes : List UInt8) (n k : Nat) :
    (bytes.drop n).take k ++ bytes.drop (n + k) = bytes.drop n := by
  rw [← List.drop_drop, List.take_append_drop]

/-- The field between two parts of what it was made of. -/
theorem field_eq (front field back : List UInt8) {data : List UInt8} {n k : Nat}
    (made : data = front ++ field ++ back) (before : front.length = n) (width : field.length = k) :
    (data.drop n).take k = field := by
  rw [made, List.append_assoc, List.drop_left' before, List.take_left' width]

theorem AuthenticationAlgorithm.eq_toByte {value : UInt8} {algorithm : AuthenticationAlgorithm}
    (known : AuthenticationAlgorithm.ofByte value = some algorithm) : value = algorithm.toByte := by
  unfold AuthenticationAlgorithm.ofByte at known
  apply UInt8.toNat_inj.mp
  split at known
  all_goals first | cases known; assumption | cases known

theorem IntegrityAlgorithm.eq_toByte {value : UInt8} {algorithm : IntegrityAlgorithm}
    (known : IntegrityAlgorithm.ofByte value = some algorithm) : value = algorithm.toByte := by
  unfold IntegrityAlgorithm.ofByte at known
  apply UInt8.toNat_inj.mp
  split at known
  all_goals first | cases known; assumption | cases known

theorem ConfidentialityAlgorithm.eq_toByte {value : UInt8} {algorithm : ConfidentialityAlgorithm}
    (known : ConfidentialityAlgorithm.ofByte value = some algorithm) : value = algorithm.toByte := by
  unfold ConfidentialityAlgorithm.ofByte at known
  apply UInt8.toNat_inj.mp
  split at known
  all_goals first | cases known; assumption | cases known

namespace AlgorithmPayload

/-- The eight bytes carry the payload, beside bytes that are not read. -/
def Carried (payload : AlgorithmPayload) (data : List UInt8) : Prop :=
  ∃ first second third fourth fifth,
    data = [payload.ty, first, second, 0x08, payload.value, third, fourth, fifth]

theorem Carried.length {payload : AlgorithmPayload} {data : List UInt8} (carried : payload.Carried data) :
    data.length = 8 := by
  obtain ⟨_, _, _, _, _, rfl⟩ := carried
  rfl

theorem fromData_eq_ok {payload : AlgorithmPayload} {data : List UInt8} :
    fromData data = .ok payload ↔ payload.Carried data := by
  constructor
  · intro read
    unfold fromData at read
    split at read
    · rename_i ty first second payloadLen algo third fourth fifth
      split at read
      · cases read
      rename_i whole
      rw [not_not] at whole
      subst whole
      refine ⟨first, second, third, fourth, fifth, ?_⟩
      split at read
      · rename_i zero
        obtain ⟨algorithm, known, rfl⟩ := elim_eq_ok read
        rw [AuthenticationAlgorithm.eq_toByte known, show ty = 0x00 from UInt8.toNat_inj.mp zero]
        rfl
      · rename_i one
        obtain ⟨algorithm, known, rfl⟩ := elim_eq_ok read
        rw [IntegrityAlgorithm.eq_toByte known, show ty = 0x01 from UInt8.toNat_inj.mp one]
        rfl
      · rename_i two
        obtain ⟨algorithm, known, rfl⟩ := elim_eq_ok read
        rw [ConfidentialityAlgorithm.eq_toByte known, show ty = 0x02 from UInt8.toNat_inj.mp two]
        rfl
      · cases read
    · cases read
  · rintro ⟨first, second, third, fourth, fifth, rfl⟩
    unfold fromData
    dsimp only
    rw [if_neg (by decide)]
    rcases payload with algorithm | algorithm | algorithm
    · simp [ty, value, AuthenticationAlgorithm.ofByte_toByte]
    · simp [ty, value, IntegrityAlgorithm.ofByte_toByte]
    · simp [ty, value, ConfidentialityAlgorithm.ofByte_toByte]

end AlgorithmPayload

/-! ### Messages -/

namespace OpenSessionResponse

theorem privilegeLevel_toByte (level : PrivilegeLevel) : privilegeLevel level.toByte = .ok level := by
  cases level <;> rfl

theorem privilegeLevel_eq_ok {value : UInt8} {level : PrivilegeLevel} :
    privilegeLevel value = .ok level ↔ value = level.toByte := by
  refine ⟨fun read => ?_, fun same => by rw [same, privilegeLevel_toByte]⟩
  unfold privilegeLevel at read
  split at read
  · cases read
  rename_i low
  have kept : value &&& 0x0F = value := by
    revert low
    exact forall_of_table (p := fun value => ¬value &&& 0xF0 ≠ 0 → value &&& 0x0F = value)
      (by decide +kernel) value
  unfold PrivilegeLevel.ofByte at read
  rw [kept] at read
  apply UInt8.toNat_inj.mp
  split at read
  all_goals first | cases read; assumption | cases read

/-- The bytes carry the response, beside bytes that are not read. -/
def Carried (response : OpenSessionResponse) (data : List UInt8) : Prop :=
  ∃ reserved authentication integrity confidentiality,
    (AlgorithmPayload.authentication response.authenticationPayload).Carried authentication ∧
    (AlgorithmPayload.integrity response.integrityPayload).Carried integrity ∧
    (AlgorithmPayload.confidentiality response.confidentialityPayload).Carried confidentiality ∧
    data = [response.messageTag, 0x00, response.maximumPrivilegeLevel.toByte, reserved] ++
      toLe 4 response.remoteConsoleSessionId.1.toNat ++ toLe 4 response.managedSystemSessionId.1.toNat ++
      authentication ++ integrity ++ confidentiality

private theorem found_of_elim {ε α : Type} {found : Option α} {error : ε} {value : α}
    (read : found.elim (Except.error error) Except.ok = Except.ok value) : found = some value := by
  obtain ⟨_, present, rfl⟩ := elim_eq_ok (f := id) read
  exact present

private theorem algorithm_eq_ok {data : List UInt8} {payload : AlgorithmPayload} :
    algorithm data = .ok payload ↔ payload.Carried data := by
  rw [algorithm, Stateful.mapError_eq_ok, AlgorithmPayload.fromData_eq_ok]

/-- What a run of `from_data` that returns has passed. -/
private theorem fromData_passed {data : List UInt8} {response : OpenSessionResponse}
    (read : fromData data = .ok response) :
    data.length = 36 ∧ data[1]! = 0 ∧ data[0]! = response.messageTag ∧
      privilegeLevel data[2]! = .ok response.maximumPrivilegeLevel ∧
      nonZeroU32 ((data.drop 4).take 4) = some response.remoteConsoleSessionId ∧
      nonZeroU32 ((data.drop 8).take 4) = some response.managedSystemSessionId ∧
      (AlgorithmPayload.authentication response.authenticationPayload).Carried ((data.drop 12).take 8) ∧
      (AlgorithmPayload.integrity response.integrityPayload).Carried ((data.drop 20).take 8) ∧
      (AlgorithmPayload.confidentiality response.confidentialityPayload).Carried ((data.drop 28).take 8) := by
  unfold fromData at read
  split at read
  · cases read
  split at read
  · cases read
  rename_i status
  split at read
  · cases read
  rename_i length
  rw [not_not] at status length
  obtain ⟨level, leveled, read⟩ := Checked.of_bind_eq_ok read
  obtain ⟨console, consoleRead, read⟩ := Checked.of_bind_eq_ok read
  obtain ⟨managed, managedRead, read⟩ := Checked.of_bind_eq_ok read
  obtain ⟨first, firstRead, read⟩ := Checked.of_bind_eq_ok read
  rcases first with first | first | first
  · obtain ⟨second, secondRead, read⟩ := Checked.of_bind_eq_ok read
    rcases second with second | second | second
    · cases read
    · obtain ⟨third, thirdRead, read⟩ := Checked.of_bind_eq_ok read
      rcases third with third | third | third
      · cases read
      · cases read
      · cases Except.ok.inj read
        exact ⟨length, status, rfl, leveled, found_of_elim consoleRead, found_of_elim managedRead,
          algorithm_eq_ok.mp firstRead, algorithm_eq_ok.mp secondRead, algorithm_eq_ok.mp thirdRead⟩
    · cases read
  · cases read
  · cases read

theorem fromData_eq_ok {data : List UInt8} {response : OpenSessionResponse} :
    fromData data = .ok response ↔ response.Carried data := by
  constructor
  · intro read
    obtain ⟨length, status, tag, level, console, managed, first, second, third⟩ := fromData_passed read
    have word : ∀ n, n ≤ 32 → ((data.drop n).take 4).length = 4 := by
      intro n inside
      rw [List.length_take, List.length_drop]
      omega
    refine ⟨data[3]!, _, _, _, first, second, third, ?_⟩
    rw [← (nonZeroU32_eq_some (word 4 (by decide))).mp console,
      ← (nonZeroU32_eq_some (word 8 (by decide))).mp managed, ← privilegeLevel_eq_ok.mp level, ← tag, ← status]
    have last : (data.drop 28).take 8 = data.drop 28 := by
      apply List.take_of_length_le
      rw [List.length_drop, length]
    have header : [data[0]!, data[1]!, data[2]!, data[3]!] ++ data.drop 4 = data := by
      match data, length with
      | _ :: _ :: _ :: _ :: _, _ => rfl
    rw [last, List.append_assoc, List.append_assoc, List.append_assoc, List.append_assoc,
      take_append_drop_field data 20 8, take_append_drop_field data 12 8, take_append_drop_field data 8 4,
      take_append_drop_field data 4 4, header]
  · rintro ⟨reserved, first, second, third, firstCarried, secondCarried, thirdCarried, rfl⟩
    have console := nonZeroU32_toLe response.remoteConsoleSessionId
    have managed := nonZeroU32_toLe response.managedSystemSessionId
    have consoleWidth := length_toLe 4 response.remoteConsoleSessionId.1.toNat
    have managedWidth := length_toLe 4 response.managedSystemSessionId.1.toNat
    generalize toLe 4 response.remoteConsoleSessionId.1.toNat = consoleBytes at *
    generalize toLe 4 response.managedSystemSessionId.1.toNat = managedBytes at *
    obtain ⟨header, headed⟩ : ∃ header,
      header = [response.messageTag, 0x00, response.maximumPrivilegeLevel.toByte, reserved] := ⟨_, rfl⟩
    have headerWidth : header.length = 4 := by rw [headed]; rfl
    rw [← headed]
    have firstWidth := firstCarried.length
    have secondWidth := secondCarried.length
    have thirdWidth := thirdCarried.length
    generalize made : header ++ consoleBytes ++ managedBytes ++ first ++ second ++ third = data
    have consoleField : (data.drop 4).take 4 = consoleBytes :=
      field_eq header consoleBytes (managedBytes ++ first ++ second ++ third) (by simp [← made]) headerWidth
        consoleWidth
    have managedField : (data.drop 8).take 4 = managedBytes :=
      field_eq (header ++ consoleBytes) managedBytes (first ++ second ++ third) (by simp [← made])
        (by simp [*]) managedWidth
    have firstField : (data.drop 12).take 8 = first :=
      field_eq (header ++ consoleBytes ++ managedBytes) first (second ++ third) (by simp [← made])
        (by simp [*]) firstWidth
    have secondField : (data.drop 20).take 8 = second :=
      field_eq (header ++ consoleBytes ++ managedBytes ++ first) second third made.symm (by simp [*]) secondWidth
    have thirdField : (data.drop 28).take 8 = third :=
      field_eq (header ++ consoleBytes ++ managedBytes ++ first ++ second) third [] (by simp [← made])
        (by simp [*]) thirdWidth
    have length : data.length = 36 := by simp [← made, *]
    rw [headed] at made
    unfold fromData
    rw [consoleField, managedField, firstField, secondField, thirdField, console, managed,
      algorithm_eq_ok.mpr firstCarried, algorithm_eq_ok.mpr secondCarried, algorithm_eq_ok.mpr thirdCarried]
    rw [if_neg (by omega), if_neg (by simp [← made]), if_neg (by omega)]
    have level : data[2]! = response.maximumPrivilegeLevel.toByte := by simp [← made]
    have tag : data[0]! = response.messageTag := by simp [← made]
    rw [level, privilegeLevel_toByte, tag]
    rfl

end OpenSessionResponse

/-- The bytes carry the message, beside bytes that are not read. -/
def RakpMessage2.Carried (message : RakpMessage2) (data : List UInt8) : Prop :=
  ∃ first second, data = [message.messageTag, 0x00, first, second] ++
    toLe 4 message.remoteConsoleSessionId.1.toNat ++ message.managedSystemRandomNumber.1 ++
    message.managedSystemGuid.1 ++ message.keyExchangeAuthCode

theorem RakpMessage2.fromData_eq_ok {data : List UInt8} {message : RakpMessage2} :
    RakpMessage2.fromData data = .ok message ↔ message.Carried data := by
  constructor
  · intro read
    unfold fromData at read
    split at read
    · cases read
    split at read
    · cases read
    rename_i status
    rw [not_not] at status
    split at read
    · cases read
    rename_i long
    split at read
    · cases read
    rename_i console found
    obtain rfl := Except.ok.inj read
    have word : ((data.drop 4).take 4).length = 4 := by
      rw [List.length_take, List.length_drop]
      omega
    have header : [data[0]!, data[1]!, data[2]!, data[3]!] ++ data.drop 4 = data := by
      match data, long with
      | _ :: _ :: _ :: _ :: _, _ => rfl
      | [], short | [_], short | [_, _], short | [_, _, _], short =>
        exact absurd (by simp) short
    refine ⟨data[2]!, data[3]!, ?_⟩
    rw [← (nonZeroU32_eq_some word).mp found, ← status]
    simp only [List.append_assoc]
    rw [take_append_drop_field data 24 16, take_append_drop_field data 8 16, take_append_drop_field data 4 4,
      header]
  · rintro ⟨first, second, rfl⟩
    have console := nonZeroU32_toLe message.remoteConsoleSessionId
    have consoleWidth := length_toLe 4 message.remoteConsoleSessionId.1.toNat
    have randomWidth := message.managedSystemRandomNumber.2
    have guidWidth := message.managedSystemGuid.2
    generalize toLe 4 message.remoteConsoleSessionId.1.toNat = consoleBytes at *
    generalize made : [message.messageTag, 0x00, first, second] ++ consoleBytes ++
      message.managedSystemRandomNumber.1 ++ message.managedSystemGuid.1 ++ message.keyExchangeAuthCode = data
    have consoleField : (data.drop 4).take 4 = consoleBytes :=
      field_eq [message.messageTag, 0x00, first, second] consoleBytes
        (message.managedSystemRandomNumber.1 ++ message.managedSystemGuid.1 ++ message.keyExchangeAuthCode)
        (by simp [← made]) rfl consoleWidth
    have randomField : (data.drop 8).take 16 = message.managedSystemRandomNumber.1 :=
      field_eq ([message.messageTag, 0x00, first, second] ++ consoleBytes) _
        (message.managedSystemGuid.1 ++ message.keyExchangeAuthCode) (by simp [← made]) (by simp [consoleWidth])
        randomWidth
    have front : ([message.messageTag, 0x00, first, second] ++ consoleBytes ++
        message.managedSystemRandomNumber.1).length = 24 := by simp [consoleWidth, randomWidth]
    have guidField : (data.drop 24).take 16 = message.managedSystemGuid.1 :=
      field_eq _ _ message.keyExchangeAuthCode made.symm front guidWidth
    have codeField : data.drop 40 = message.keyExchangeAuthCode := by
      rw [← made, List.drop_left' (by rw [List.length_append, front, guidWidth])]
    have long : 40 ≤ data.length := by
      rw [← made, List.length_append, List.length_append, front, guidWidth]
      omega
    have tag : data[0]! = message.messageTag := by simp [← made]
    unfold fromData
    rw [if_neg (by omega), if_neg (by simp [← made]), dif_neg (by omega)]
    simp only [consoleField, randomField, guidField, codeField, console, tag]

/-- The bytes carry the message, beside bytes that are not read. -/
def RakpMessage4.Carried (message : RakpMessage4) (data : List UInt8) : Prop :=
  ∃ first second, data = [message.messageTag, 0x00, first, second] ++
    toLe 4 message.managedSystemSessionId.1.toNat ++ message.integrityCheckValue

theorem RakpMessage4.fromData_eq_ok {data : List UInt8} {message : RakpMessage4} :
    RakpMessage4.fromData data = .ok message ↔ message.Carried data := by
  constructor
  · intro read
    unfold fromData at read
    split at read
    · cases read
    split at read
    · cases read
    rename_i status
    rw [not_not] at status
    split at read
    · cases read
    rename_i long
    split at read
    · cases read
    rename_i console found
    obtain rfl := Except.ok.inj read
    have word : ((data.drop 4).take 4).length = 4 := by
      rw [List.length_take, List.length_drop]
      omega
    have header : [data[0]!, data[1]!, data[2]!, data[3]!] ++ data.drop 4 = data := by
      match data, long with
      | _ :: _ :: _ :: _ :: _, _ => rfl
      | [], short | [_], short | [_, _], short | [_, _, _], short =>
        exact absurd (by simp) short
    refine ⟨data[2]!, data[3]!, ?_⟩
    rw [← (nonZeroU32_eq_some word).mp found, ← status, List.append_assoc, take_append_drop_field data 4 4,
      header]
  · rintro ⟨first, second, rfl⟩
    have console := nonZeroU32_toLe message.managedSystemSessionId
    have consoleWidth := length_toLe 4 message.managedSystemSessionId.1.toNat
    generalize toLe 4 message.managedSystemSessionId.1.toNat = consoleBytes at *
    generalize made : [message.messageTag, 0x00, first, second] ++ consoleBytes ++
      message.integrityCheckValue = data
    have front : ([message.messageTag, 0x00, first, second] ++ consoleBytes).length = 8 := by
      simp [consoleWidth]
    have consoleField : (data.drop 4).take 4 = consoleBytes :=
      field_eq [message.messageTag, 0x00, first, second] _ _ made.symm rfl consoleWidth
    have valueField : data.drop 8 = message.integrityCheckValue := by
      rw [← made, List.drop_left' front]
    have long : 8 ≤ data.length := by
      rw [← made, List.length_append, front]
      omega
    have tag : data[0]! = message.messageTag := by simp [← made]
    unfold fromData
    rw [if_neg (by omega), if_neg (by simp [← made]), if_neg (by omega)]
    simp only [consoleField, valueField, console, tag]

/-! ### Packets outside a session -/

/-- A packet of the handshake: neither encrypted nor authenticated, with a zero session header. -/
def handshakePacket (ty : PayloadType) (payload : List UInt8) : List UInt8 :=
  [0x06, ty.toByte] ++ List.replicate 8 0 ++ toLe 2 payload.length ++ payload

theorem PayloadType.eq_toByte {value : UInt8} {ty : PayloadType} (known : PayloadType.ofByte value = some ty) :
    value = ty.toByte := by
  unfold PayloadType.ofByte at known
  apply UInt8.toNat_inj.mp
  split at known
  all_goals first | cases known; assumption | cases known

/-- The flags of a packet that is neither encrypted nor authenticated are its payload type. -/
private theorem flags_eq_toByte {flags : UInt8} {ty : PayloadType} (encrypted : (flags &&& 0x80 == 0x80) = false)
    (authenticated : (flags &&& 0x40 == 0x40) = false) (known : PayloadType.ofByte (flags &&& 0x3F) = some ty) :
    flags = ty.toByte := by
  have low : flags &&& 0x3F = flags := by
    revert encrypted authenticated
    exact forall_of_table (p := fun flags => (flags &&& 0x80 == 0x80) = false →
      (flags &&& 0x40 == 0x40) = false → flags &&& 0x3F = flags) (by decide +kernel) flags
  rw [low] at known
  exact PayloadType.eq_toByte known

private theorem toLe_eq_zero {bytes : List UInt8} (four : bytes.length = 4)
    (zero : (0 : UInt32) = UInt32.ofNat (ofLe bytes)) : bytes = List.replicate 4 0 := by
  have small := ofLe_lt bytes
  rw [four] at small
  have nothing : ofLe bytes = 0 := by
    have read := congrArg UInt32.toNat zero
    rw [UInt32.toNat_ofNat', Nat.mod_eq_of_lt (by omega)] at read
    exact read.symm
  rw [← toLe_ofLe four, nothing]
  rfl

/-- What a session that has no keys reads is what it writes. -/
theorem readPayload_empty {provider : CryptoProvider} {data payload : List UInt8} {ty : PayloadType} :
    SubState.empty.readPayload provider data = .ok ⟨ty, 0, 0, payload⟩ ↔
      payload.length ≤ 0xFFFF ∧ data = handshakePacket ty payload := by
  constructor
  · intro read
    obtain ⟨packet, long, version, known, encrypted, authenticated, validated, whole, length, opened, sessionId,
      sequence⟩ := SubState.readPayload_ok read
    cases Except.ok.inj validated
    cases Except.ok.inj opened
    have word : ∀ n, n ≤ 6 → ((data.drop n).take 4).length = 4 := by
      intro n inside
      rw [List.length_take, List.length_drop]
      omega
    have two : ((data.drop 10).take 2).length = 2 := by
      rw [List.length_take, List.length_drop]
      omega
    have small := ofLe_lt ((data.drop 10).take 2)
    rw [two, length] at small
    refine ⟨by omega, ?_⟩
    have session : List.replicate 8 (0 : UInt8) = (data.drop 2).take 4 ++ (data.drop 6).take 4 := by
      rw [toLe_eq_zero (word 2 (by decide)) sessionId, toLe_eq_zero (word 6 (by decide)) sequence]
      rfl
    rw [handshakePacket, ← flags_eq_toByte encrypted authenticated known, ← version, ← length, toLe_ofLe two,
      session, ← List.append_assoc]
    exact (SubState.header_fields whole).symm
  · rintro ⟨fits, rfl⟩
    have count : ofLe (toLe 2 payload.length) = payload.length := ofLe_toLe_of_lt (by omega)
    have two := length_toLe 2 payload.length
    rw [handshakePacket]
    generalize toLe 2 payload.length = lengthBytes at *
    obtain ⟨low, high, rfl⟩ := List.length_eq_two.mp two
    have flags : (ty.toByte &&& 0x80 == 0x80) = false ∧ (ty.toByte &&& 0x40 == 0x40) = false ∧
        PayloadType.ofByte (ty.toByte &&& 0x3F) = some ty := by
      cases ty <;> decide
    obtain ⟨plain, unauthenticated, known⟩ := flags
    change SubState.empty.readPayload provider
      (0x06 :: ty.toByte :: 0 :: 0 :: 0 :: 0 :: 0 :: 0 :: 0 :: 0 :: low :: high :: payload) = _
    unfold SubState.readPayload
    simp [plain, unauthenticated, known, SubState.empty, SubState.encrypted, SubState.authenticated,
      SubState.validateTrailer, SubState.readDataEncrypted, count, ofLe]
    rw [if_neg (by omega), if_neg (by omega)]

/-- A send that goes out before the deadline. -/
structure Sending.Goes (sending : Sending) (deadline : Instant) : Prop where
  uncancelled : sending.cancelled = false
  early : sending.now < deadline
  delivered : sending.delivered = true

/-- A packet of the handshake is sent as it is, if it is sent. -/
theorem sendHandshake_eq_ok {provider : CryptoProvider} {ty : PayloadType} {payload datagram : List UInt8}
    {deadline : Instant} {sending : Sending} :
    sendHandshake provider ty payload deadline sending = .ok datagram ↔
      sending.Goes deadline ∧ payload.length ≤ 0xFFFF ∧
        datagram = RmcpHeader.newIpmi.bytes ++ handshakePacket ty payload := by
  have written : SubState.empty.writePayload provider none ⟨ty, 0, 0, payload⟩ RmcpHeader.newIpmi.bytes =
      if 0xFFFF < payload.length then .error .payloadTooLong
      else .ok (RmcpHeader.newIpmi.bytes ++ handshakePacket ty payload) := by
    unfold SubState.writePayload SubState.writeDataEncrypted
    by_cases long : 0xFFFF < payload.length
    · simp only [long, ↓reduceIte]
    · simp only [long, ↓reduceIte]
      simp [SubState.empty, SubState.encrypted, SubState.authenticated, SubState.writeTrailer, toLe,
        handshakePacket, List.replicate]
  unfold sendHandshake Sending.send
  simp only [written]
  constructor
  · intro sent
    split at sent
    · cases sent
    rename_i uncancelled
    split at sent
    · cases sent
    rename_i early
    split at sent
    · cases sent
    rename_i packet made
    split at made
    · cases made
    rename_i fits
    split at sent
    · rename_i delivered
      cases Except.ok.inj made
      exact ⟨⟨by simpa using uncancelled, Nat.lt_of_not_le early, delivered⟩, by omega, (Except.ok.inj sent).symm⟩
    · cases sent
  · rintro ⟨⟨uncancelled, early, delivered⟩, fits, rfl⟩
    rw [if_neg (by simp [uncancelled]), if_neg (Nat.not_le.mpr early), if_neg (by omega)]
    exact if_pos delivered

theorem validateHandshake_eq_ok {message : V2Message} {expected : PayloadType} :
    validateHandshake message expected = .ok () ↔
      message.ty = expected ∧ message.sessionId = 0 ∧ message.sessionSequenceNumber = 0 := by
  unfold validateHandshake
  split
  · rename_i other
    exact iff_of_false (fun passed => by cases passed) fun same => other same.1
  · rename_i same
    rw [not_not] at same
    split
    · rename_i header
      exact iff_of_false (fun passed => by cases passed) fun zero => header.elim (· zero.2.1) (· zero.2.2)
    · rename_i header
      rw [not_or, not_not, not_not] at header
      exact iff_of_true rfl ⟨same, header⟩

/-- The packet of the payload is the first that arrives. -/
def Arrivals.Bring (arrivals : Arrivals) (ty : PayloadType) (payload : List UInt8) : Prop :=
  payload.length ≤ 0xFFFF ∧ (arrivals.recv 0).1 = .ok (handshakePacket ty payload)

theorem handshakeReply_eq_ok {provider : CryptoProvider} {arrivals : Arrivals} {expected : PayloadType}
    {receive : RmcpIpmiReceiveError → V2ActivationError} {read : UnwrapSessionError → V2ActivationError}
    {payload : List UInt8} :
    handshakeReply provider arrivals expected receive read = .ok payload ↔ arrivals.Bring expected payload := by
  constructor
  · intro replied
    obtain ⟨data, arrived, read⟩ := Checked.of_bind_eq_ok replied
    obtain ⟨message, opened, checked⟩ := Checked.of_bind_eq_ok read
    obtain ⟨_, validated, returned⟩ := Checked.of_bind_eq_ok checked
    rw [Stateful.mapError_eq_ok] at arrived opened
    obtain ⟨rfl, sessionId, sequence⟩ := validateHandshake_eq_ok.mp validated
    obtain rfl : message.payload = payload := Except.ok.inj returned
    obtain ⟨messageTy, messageId, messageSequence, messagePayload⟩ := message
    obtain rfl : messageId = 0 := sessionId
    obtain rfl : messageSequence = 0 := sequence
    obtain ⟨fits, rfl⟩ := readPayload_empty.mp opened
    exact ⟨fits, arrived⟩
  · rintro ⟨fits, arrived⟩
    have opened : SubState.empty.readPayload provider (handshakePacket expected payload) =
        .ok ⟨expected, 0, 0, payload⟩ := readPayload_empty.mpr ⟨fits, rfl⟩
    have validated : validateHandshake ⟨expected, 0, 0, payload⟩ expected = .ok () :=
      validateHandshake_eq_ok.mpr ⟨rfl, rfl, rfl⟩
    unfold handshakeReply
    rw [arrived]
    change ((SubState.empty.readPayload provider (handshakePacket expected payload)).mapError _ >>=
      fun message => validateHandshake message expected >>= fun _ => pure message.payload) = _
    rw [opened]
    change (validateHandshake ⟨expected, 0, 0, payload⟩ expected >>= fun _ => pure payload) = _
    rw [validated]
    rfl

end IpmiRs.Rmcp
