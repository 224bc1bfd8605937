import IpmiRs.Library.Checked
import IpmiRs.Rmcp.Md2
import IpmiRs.Rmcp.SessionV15

/-! Messages of an IPMI 1.5 session on their way through a packet. A legacy pad
may follow the payload, and every slice that is taken of a packet is in range. -/
namespace IpmiRs.Rmcp
open App.Auth Library Library.Bytes Library.Checked

namespace V1Message
variable (digests : Digests)

/-- The payload behind its length byte, with the slices that may panic. -/
def payloadOfChecked (dataLen : UInt8) (data : List UInt8) : Checked V1ReadError (List UInt8) :=
  if (dataLen = 0 ∧ data = []) ∨ (dataLen = 0 ∧ data.length = 1) then pure []
  else if data.length = dataLen.toNat then pure data
  else if data ≠ [] ∧ data.length - 1 = dataLen.toNat ∧ data.getLast? = some 0 then
    do slice data 0 (← sub data.length 1)
  else throw .incorrectPayloadLen

/-- The type of a code, the code, and the bytes after it. -/
def authenticationOf (data : List UInt8) :
    Checked V1ReadError (AuthType × Option (List UInt8) × List UInt8) := do
  let first ← index data 0
  if first = 0x00 then return (.none, none, ← slice data 9 data.length)
  else if data.length < 26 then throw .notEnoughData
  else
    let authCode ← fixed 16 (← slice data 9 25)
    match authTypeOf first with
    | .error error => throw error
    | .ok authType => return (authType, some authCode, ← slice data 25 data.length)

/-- `Message::from_data`, with the slices that may panic. -/
def fromDataChecked (password : Option Password) (data : List UInt8) : Checked V1ReadError V1Message :=
  if data.length < 10 then throw .notEnoughData
  else do
    let sessionSequence ← fixed 4 (← slice data 1 5)
    let sessionId ← fixed 4 (← slice data 5 9)
    let (authType, authCode, data) ← authenticationOf data
    let dataLen ← index data 0
    let data ← slice data 1 data.length
    let payload ← payloadOfChecked dataLen data
    let message : V1Message :=
      ⟨authType, UInt32.ofNat (ofLe sessionSequence), UInt32.ofNat (ofLe sessionId), payload⟩
    match authCode with
    | some authCode => if message.verify digests password authCode then pure message else throw .authcodeError
    | none => pure message

/-- The pad is taken off where there is one. -/
theorem payloadOfChecked_eq (dataLen : UInt8) (data : List UInt8) :
    payloadOfChecked dataLen data = some (payloadOf dataLen data) := by
  have none_or_one : (dataLen = 0 ∧ data = []) ∨ (dataLen = 0 ∧ data.length = 1) ↔
      dataLen = 0 ∧ data.length ≤ 1 := by
    rw [← and_or_left, ← List.length_eq_zero_iff]
    exact and_congr_right fun _ => by omega
  have padded : data ≠ [] ∧ data.length - 1 = dataLen.toNat ∧ data.getLast? = some 0 ↔
      data.length = dataLen.toNat + 1 ∧ data.getLast? = some 0 := by
    rw [← and_assoc, ← List.length_pos_iff]
    exact and_congr_left fun _ => by omega
  unfold payloadOfChecked payloadOf
  simp only [none_or_one, padded]
  split
  · rfl
  split
  · rfl
  split
  · rename_i pad
    rw [sub_eq (by omega), pure_bind, slice_eq (by omega) (by omega), List.drop_zero, List.dropLast_eq_take]
    rfl
  · rfl

/-- An array out of a slice that has its length. -/
theorem fixed_slice {data : List UInt8} {low high n : Nat} (inside : high ≤ data.length) (wide : low + n = high) :
    (do fixed n (← slice data low high) : Checked V1ReadError (List UInt8)) = pure ((data.drop low).take n) := by
  have length : ((data.drop low).take n).length = n := by
    rw [List.length_take, List.length_drop]
    omega
  rw [slice_eq (by omega) inside, pure_bind, List.drop_take, show high - low = n by omega, fixed_eq length]

/-- Reading a message never panics. -/
theorem fromDataChecked_eq (password : Option Password) (data : List UInt8) :
    fromDataChecked digests password data = some (fromData digests password data) := by
  unfold fromDataChecked fromData
  split
  · rfl
  rename_i long
  rw [← bind_assoc, fixed_slice (by omega) (show 1 + 4 = 5 from rfl), pure_bind, ← bind_assoc,
    fixed_slice (by omega) (show 5 + 4 = 9 from rfl), pure_bind]
  have rest {low : Nat} (more : low < data.length) :
      (slice data low data.length : Checked V1ReadError (List UInt8)) = pure (data.drop low) ∧
      (index (data.drop low) 0 : Checked V1ReadError UInt8) = pure data[low]! ∧
      (slice (data.drop low) 1 (data.drop low).length : Checked V1ReadError (List UInt8)) =
        pure (data.drop (low + 1)) := by
    refine ⟨?_, ?_, ?_⟩
    · rw [slice_eq more.le (Nat.le_refl _), List.take_length]
    · rw [List.drop_eq_getElem_cons more, index_zero, getElem!_pos data low more]
    · rw [List.drop_eq_getElem_cons more, slice_tail]
  unfold authenticationOf
  rw [index_eq (by omega), pure_bind]
  by_cases plain : data[0]! = 0x00
  · obtain ⟨after, next, payload⟩ := @rest 9 (by omega)
    rw [if_pos plain, if_pos plain, after, pure_bind, pure_bind]
    dsimp only
    rw [next, pure_bind, payload, pure_bind, payloadOfChecked_eq]
    cases payloadOf data[9]! (data.drop 10) <;> rfl
  · rw [if_neg plain, if_neg plain]
    split
    · rfl
    obtain ⟨after, next, payload⟩ := @rest 25 (by omega)
    rw [← bind_assoc, fixed_slice (by omega) (show 9 + 16 = 25 from rfl), pure_bind]
    cases authTypeOf data[0]! with
    | error error => rfl
    | ok authType =>
      dsimp only
      rw [after, pure_bind, pure_bind]
      dsimp only
      rw [next, pure_bind, payload, pure_bind, payloadOfChecked_eq]
      cases payloadOf data[25]! (data.drop 26) with
      | error error => rfl
      | ok payload =>
        change (if _ then pure _ else throw _ : Checked V1ReadError V1Message) = some (if _ then .ok _ else .error _)
        split <;> rfl

/-! ### Through a packet and back -/

/-- A payload is told from a pad after it by its length, whatever its last byte. -/
theorem payloadOf_append {payload pad : List UInt8} (short : payload.length ≤ 0xFF) (legacy : pad = [] ∨ pad = [0]) :
    payloadOf (UInt8.ofNat payload.length) (payload ++ pad) = .ok payload := by
  have length : (UInt8.ofNat payload.length).toNat = payload.length := by
    rw [UInt8.toNat_ofNat']
    omega
  unfold payloadOf
  rw [length, List.length_append]
  split
  · rename_i none
    have empty : payload.length = 0 := length ▸ congrArg UInt8.toNat none.1
    rw [List.length_eq_zero_iff.mp empty]
  rename_i some
  obtain rfl | rfl := legacy
  · rw [List.length_nil, Nat.add_zero, if_pos rfl, List.append_nil]
  · rw [List.length_singleton, if_neg (by omega), if_pos ⟨rfl, List.getLast?_concat⟩, List.dropLast_concat]

/-- The bytes of a packet before its length byte. -/
def header (message : V1Message) (code : List UInt8) : List UInt8 :=
  message.authType.toByte :: toLe 4 message.sessionSequenceNumber.toNat ++ toLe 4 message.sessionId.toNat ++ code

theorem verify_calculate {password : Option Password} {message : V1Message} {code : List UInt8} :
    message.calculate digests password = .ok (some code) ↔
      message.authType ≠ .none ∧ message.verify digests password code = true := by
  unfold calculate verify
  cases message.authType <;> cases password <;> simp
  cases digests.md5 <;> simp

/-- The element that a list goes on with. -/
theorem getElem_of_drop {xs rest : List UInt8} {x : UInt8} {i : Nat} (goes : xs.drop i = x :: rest) :
    xs[i]! = x ∧ xs.drop (i + 1) = rest ∧ i + 1 ≤ xs.length := by
  have inside : i < xs.length := by
    by_contra past
    rw [List.drop_eq_nil_of_le (Nat.le_of_not_lt past)] at goes
    cases goes
  rw [List.drop_eq_getElem_cons inside] at goes
  obtain ⟨first, others⟩ := List.cons.inj goes
  exact ⟨(getElem!_pos xs i inside).trans first, others, inside⟩

/-- A message without a code is not authenticated. -/
theorem calculate_none {password : Option Password} {message : V1Message} :
    message.calculate digests password = .ok none ↔ message.authType = .none := by
  unfold calculate
  cases message.authType <;> cases password <;> simp
  cases digests.md5 <;> simp

theorem authTypeOf_toByte {authType : AuthType} (authenticated : authType ≠ .none) :
    authType.toByte ≠ 0x00 ∧ authTypeOf authType.toByte = .ok authType := by
  cases authType with
  | none => exact absurd rfl authenticated
  | md2 => exact ⟨by decide, rfl⟩
  | md5 => exact ⟨by decide, rfl⟩
  | key => exact ⟨by decide, rfl⟩

theorem fromData_packet {password : Option Password} {message : V1Message} {code : Option (List UInt8)}
    (calculated : message.calculate digests password = .ok code) (sized : ∀ bytes ∈ code, bytes.length = 16)
    (short : message.payload.length ≤ 0xFF) {pad : List UInt8} (legacy : pad = [] ∨ pad = [0]) :
    fromData digests password (message.header (code.getD []) ++
      UInt8.ofNat message.payload.length :: (message.payload ++ pad)) = .ok message := by
  generalize packet : message.header (code.getD []) ++
    UInt8.ofNat message.payload.length :: (message.payload ++ pad) = data
  have first : data[0]! = message.authType.toByte := by
    rw [← packet]
    rfl
  have sequence : UInt32.ofNat (ofLe ((data.drop 1).take 4)) = message.sessionSequenceNumber := by
    rw [← packet]
    change UInt32.ofNat (ofLe (toLe 4 message.sessionSequenceNumber.toNat)) = _
    rw [ofLe_toLe_of_lt (UInt32.toNat_lt _), UInt32.ofNat_toNat]
  have session : UInt32.ofNat (ofLe ((data.drop 5).take 4)) = message.sessionId := by
    rw [← packet]
    change UInt32.ofNat (ofLe (toLe 4 message.sessionId.toNat)) = _
    rw [ofLe_toLe_of_lt (UInt32.toNat_lt _), UInt32.ofNat_toNat]
  have rest : data.drop 9 = code.getD [] ++ UInt8.ofNat message.payload.length :: (message.payload ++ pad) := by
    rw [← packet]
    rfl
  unfold fromData
  rw [first, sequence, session]
  cases code with
  | none =>
    obtain ⟨length, payload, long⟩ := getElem_of_drop rest
    have plain := (calculate_none digests).mp calculated
    rw [if_neg (by omega), plain, length, payload, payloadOf_append short legacy]
    exact congrArg (fun authType => Except.ok (V1Message.mk authType _ _ _)) plain.symm
  | some code =>
    have wide := sized code rfl
    obtain ⟨authenticated, verified⟩ := (verify_calculate digests).mp calculated
    obtain ⟨nonzero, known⟩ := authTypeOf_toByte authenticated
    have own : (data.drop 9).take 16 = code := by
      rw [rest]
      exact List.take_left' wide
    have after : data.drop 25 = UInt8.ofNat message.payload.length :: (message.payload ++ pad) := by
      rw [show (25 : Nat) = 9 + 16 from rfl, ← List.drop_drop, rest]
      exact List.drop_left' wide
    obtain ⟨length, payload, long⟩ := getElem_of_drop after
    rw [if_neg (by omega), if_neg nonzero, if_neg (by omega), known]
    dsimp only
    rw [length, payload, payloadOf_append short legacy, own]
    exact if_pos verified

/-- What was accepted with a code carried the code of what is returned. -/
theorem fromData_authenticated {password : Option Password} {data : List UInt8} {message : V1Message}
    (accepted : fromData digests password data = .ok message) (authenticated : message.authType ≠ .none) :
    message.calculate digests password = .ok (some ((data.drop 9).take 16)) := by
  unfold fromData at accepted
  split at accepted
  · cases accepted
  dsimp only at accepted
  split at accepted
  · cases parsed : payloadOf data[9]! (data.drop 10) with
    | error error =>
      rw [parsed] at accepted
      cases accepted
    | ok payload =>
      rw [parsed] at accepted
      cases accepted
      exact absurd rfl authenticated
  split at accepted
  · cases accepted
  split at accepted
  · cases accepted
  split at accepted
  · cases accepted
  split at accepted
  · rename_i verified
    cases accepted
    exact (verify_calculate digests).mpr ⟨authenticated, verified⟩
  · cases accepted

end V1Message

/-- The codes of both digests have sixteen bytes. -/
def Digests.Sized (digests : Digests) : Prop :=
  (∀ bytes, (digests.md2 bytes).length = 16) ∧ ∀ md5 ∈ digests.md5, ∀ bytes, (md5 bytes).length = 16

theorem V1Message.calculate_sized {digests : Digests} (sized : digests.Sized) {password : Option Password}
    {message : V1Message} {code : List UInt8} (calculated : message.calculate digests password = .ok (some code)) :
    code.length = 16 := by
  unfold calculate at calculated
  split at calculated
  · cases calculated
  · cases calculated
    exact sized.1 _
  · split at calculated
    · rename_i md5 present
      cases calculated
      exact sized.2 md5 present _
    · cases calculated
  · cases calculated
    exact Vector.length_toList
  · cases calculated

/-- Messages of an IPMI 1.5 session come through their packets. A message whose code can be calculated is
written as a packet that ends in a pad, and is read back from it whether or not the pad is still there.
Reading never panics, and a message that is read with a code has that code. -/
theorem v1_messages_carried (digests : Digests) (sized : digests.Sized) :
    (∀ (password : Option Password) (message : V1Message) (code : Option (List UInt8)) (buffer : List UInt8),
      message.payload.length ≤ 0xFF → message.calculate digests password = .ok code →
      ∃ packet, message.writeData digests password buffer = .ok (buffer ++ packet ++ [0]) ∧
        V1Message.fromDataChecked digests password (packet ++ [0]) = some (.ok message) ∧
        V1Message.fromDataChecked digests password packet = some (.ok message)) ∧
    (∀ password data, ∃ result, V1Message.fromDataChecked digests password data = some result) ∧
    ∀ (password : Option Password) (data : List UInt8) (message : V1Message),
      V1Message.fromDataChecked digests password data = some (.ok message) → message.authType ≠ .none →
      message.calculate digests password = .ok (some ((data.drop 9).take 16)) := by
  refine ⟨?_, ?_, ?_⟩
  · intro password message code buffer short calculated
    have wide : ∀ bytes ∈ code, bytes.length = 16 := by
      rintro bytes rfl
      exact V1Message.calculate_sized sized calculated
    refine ⟨message.header (code.getD []) ++ UInt8.ofNat message.payload.length :: message.payload, ?_, ?_, ?_⟩
    · unfold V1Message.writeData
      rw [calculated]
      dsimp only
      rw [if_neg (by omega)]
      simp [V1Message.header]
    · have read := V1Message.fromData_packet digests calculated wide short (.inr rfl)
      rw [V1Message.fromDataChecked_eq, List.append_assoc]
      exact congrArg some read
    · have read := V1Message.fromData_packet digests calculated wide short (.inl rfl)
      rw [List.append_nil] at read
      rw [V1Message.fromDataChecked_eq]
      exact congrArg some read
  · intro password data
    exact ⟨_, V1Message.fromDataChecked_eq digests password data⟩
  · intro password data message accepted authenticated
    rw [V1Message.fromDataChecked_eq] at accepted
    exact V1Message.fromData_authenticated digests (Option.some.inj accepted) authenticated

/-- The code of a message with an MD2 digest. -/
theorem V1Message.calculate_md2 (digests : Digests) (password : Password) (sequence session : UInt32)
    (payload : List UInt8) : ∃ code, (V1Message.mk .md2 sequence session payload).calculate digests
      (some password) = .ok code := ⟨_, rfl⟩

/-- A message with an MD2 code, whose payload ends in a zero. -/
theorem v1_messages_carried_md2 :
    let digests : Digests := ⟨Md2.md2, none⟩
    let message : V1Message := ⟨.md2, 8, 0x1234, [0x81, 0xC4, 0]⟩
    digests.Sized ∧
    ∃ packet, message.writeData digests (some (Vector.replicate 16 9)) [6, 0, 0xFF, 7] =
      .ok ([6, 0, 0xFF, 7] ++ packet ++ [0]) ∧
    V1Message.fromDataChecked digests (some (Vector.replicate 16 9)) (packet ++ [0]) = some (.ok message) ∧
    V1Message.fromDataChecked digests (some (Vector.replicate 16 9)) packet = some (.ok message) := by
  have sized : Digests.Sized ⟨Md2.md2, none⟩ := by
    refine ⟨fun bytes => ?_, fun _ missing => nomatch missing⟩
    dsimp only
    exact Md2.length_md2 bytes
  refine ⟨sized, ?_⟩
  obtain ⟨code, calculated⟩ := V1Message.calculate_md2 ⟨Md2.md2, none⟩ (Vector.replicate 16 9) 8 0x1234
    [0x81, 0xC4, 0]
  have short : [0x81, 0xC4, (0 : UInt8)].length ≤ 0xFF := by decide
  exact (v1_messages_carried ⟨Md2.md2, none⟩ sized).1 (some (Vector.replicate 16 9)) _ code [6, 0, 0xFF, 7]
    short calculated

end IpmiRs.Rmcp
