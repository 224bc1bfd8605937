import IpmiRs.Library.Checked
import IpmiRs.Rmcp.PacketAuthentication

/-! Reading a packet with overflow checks. Three lengths inside each other come
from the peer: every slice they select and every sum they enter is an operation
that may panic. All are in range but one: the counter that padding is compared
with is stepped past its last value when padding has its greatest length. -/
namespace IpmiRs.Rmcp
open App.Auth Library Library.Bytes Library.Checked

/-- Whether padding differs from 1, 2, and so on. The counter is a range of
bytes without an end, which steps before it yields. -/
def padMismatch : List UInt8 → UInt8 → Checked CryptoUnwrapError Bool
  | [], _ => pure false
  | byte :: rest, counter => do
    let following ← addByte counter 1
    if byte ≠ counter then pure true else padMismatch rest following

namespace SubState

section read
variable (width : PointerWidth) (provider : CryptoProvider) (s : SubState)

/-- `validate_trailer` -/
def validateTrailerChecked (data : List UInt8) : Checked CryptoUnwrapError (List UInt8) :=
  if !s.authenticated then pure data
  else do
    let (hash, authCodeLen) ← okOr s.integrityParameters
      (.unsupportedIntegrityAlgorithm s.integrityAlgorithm)
    let shortest ← add width authCodeLen 2
    if data.length < shortest then throw .incorrectIntegrityTrailerLen
    else do
      let (authenticatedData, tag) ← splitAt data (← sub data.length authCodeLen)
      match provider.hmac hash s.keys.k1 [authenticatedData] with
      | .error error => throw (.cryptoBackend error)
      | .ok checksum => do
        if tag ≠ (← slice checksum 0 authCodeLen) then throw .authCodeMismatch
        else
          match authenticatedData.drop (authenticatedData.length - 2) with
          | [padLen, nextHeader] =>
            let data := authenticatedData.take (authenticatedData.length - 2)
            let padLen := padLen.toNat
            if nextHeader ≠ 0x07 then throw (.unknownNextHeader nextHeader)
            else if data.length < 12 ∨ 3 < padLen then throw .incorrectIntegrityTrailerLen
            else do
              if (← sub data.length 12) < padLen then throw .incorrectIntegrityTrailerLen
              else do
                if (← add width data.length 2) % 4 ≠ 0 then throw .incorrectIntegrityTrailerLen
                else do
                  let (data, padding) ← splitAt data (← sub data.length padLen)
                  if padding.any (· != 0xff) then throw .invalidIntegrityPadding else pure data
          | _ => throw .incorrectIntegrityTrailerLen

/-- The payload and its confidentiality padding, decrypted. -/
def splitPadding (data : List UInt8) : Checked CryptoUnwrapError (List UInt8 × List UInt8) :=
  match s.confidentialityAlgorithm with
  | .none => pure (data, [])
  | .aesCbc128 =>
    if data.length < 16 then throw .notEnoughData
    else
      let iv := data.take 16
      let dataAndTrailer := data.drop 16
      if dataAndTrailer = [] ∨ dataAndTrailer.length % 16 ≠ 0 then throw .invalidCiphertext
      else
        match provider.decrypt s.keys.aesKey iv dataAndTrailer with
        | .error error => throw (.cryptoBackend error)
        | .ok plain =>
          match plain.getLast? with
          | none => throw .incorrectConfidentialityTrailerLen
          | some last => do
            let confidentialityPadLen := last.toNat
            let payloadAndPad := plain.dropLast
            -- The length saturates at zero.
            let (payload, confidentialityPad) ←
              splitAt payloadAndPad (payloadAndPad.length - confidentialityPadLen)
            if confidentialityPad.length ≠ confidentialityPadLen then
              throw .incorrectConfidentialityTrailerLen
            else pure (payload, confidentialityPad)
  | unsupported => throw (.unsupportedConfidentialityAlgorithm unsupported)

/-- `read_data_encrypted` -/
def readDataEncryptedChecked (data : List UInt8) : Checked CryptoUnwrapError (List UInt8) := do
  let (payload, confidentialityPad) ← s.splitPadding provider data
  if ← padMismatch confidentialityPad 1 then throw .invalidConfidentialityTrailer else pure payload

/-- `read_payload` -/
def readPayloadChecked (data : List UInt8) : Checked V2ReadError V2Message :=
  if data.length < 10 then throw .notEnoughData
  else do
    if (← index data 0) ≠ 0x06 then throw .notIpmiV2_0
    else do
      let flags ← index data 1
      let encrypted := flags &&& 0x80 == 0x80
      let authenticated := flags &&& 0x40 == 0x40
      match PayloadType.ofByte (flags &&& 0x3F) with
      | none => throw (.invalidPayloadType (flags &&& 0x3F))
      | some ty =>
        if s.encrypted ≠ encrypted then throw (.decryptionError .mismatchingEncryptionState)
        else if s.authenticated ≠ authenticated then
          throw (.decryptionError .mismatchingAuthenticationState)
        else do
          let sessionId ← fixed 4 (← slice data 2 6)
          let sessionSequenceNumber ← fixed 4 (← slice data 6 10)
          let dataWithHeader ← ExceptT.adapt .decryptionError
            (s.validateTrailerChecked width provider data)
          if dataWithHeader.length < 10 then throw (.decryptionError .notEnoughData)
          else do
            let data := dataWithHeader.drop 10
            if data.length < 2 then throw (.decryptionError .notEnoughData)
            else do
              let dataLen ← fixed 2 (← slice data 0 2)
              let data ← slice data 2 data.length
              if ofLe dataLen ≠ data.length then throw (.decryptionError .incorrectPayloadLen)
              else do
                let payload ← ExceptT.adapt .decryptionError
                  (s.readDataEncryptedChecked provider data)
                pure
                  { ty
                    sessionId := UInt32.ofNat (ofLe sessionId)
                    sessionSequenceNumber := UInt32.ofNat (ofLe sessionSequenceNumber)
                    payload }

end read

end SubState

/-! ### What can panic -/

/-- The bytes from a number on. -/
def countUp (counter n : Nat) : List UInt8 := (List.range' counter n).map UInt8.ofNat

/-- Padding that keeps up with a counter until no byte is left for the next. -/
def RunsOver (pad : List UInt8) (counter : Nat) : Prop :=
  255 - counter < pad.length ∧ pad.take (255 - counter) = countUp counter (255 - counter)

theorem runsOver_cons (byte : UInt8) (rest : List UInt8) {counter : Nat} (small : counter < 255) :
    RunsOver (byte :: rest) counter ↔ byte = UInt8.ofNat counter ∧ RunsOver rest (counter + 1) := by
  have room : 255 - counter = 255 - (counter + 1) + 1 := by omega
  simp only [RunsOver, room, List.length_cons, Nat.add_lt_add_iff_right, List.take_succ_cons, countUp,
    List.range'_succ, List.map_cons, List.cons.injEq]
  tauto

/-- Comparing padding with the counter panics when the counter is stepped past
255, and only then. -/
theorem padMismatch_eq (pad : List UInt8) {counter : Nat} (small : counter ≤ 255) :
    (RunsOver pad counter → padMismatch pad (UInt8.ofNat counter) = panicked) ∧
    (¬ RunsOver pad counter → padMismatch pad (UInt8.ofNat counter) =
      pure ((pad.zipIdx counter).any fun (byte, i) => byte != UInt8.ofNat i)) := by
  induction pad generalizing counter with
  | nil =>
    constructor
    · exact fun full => absurd full.1 (Nat.not_lt_zero _)
    · exact fun _ => rfl
  | cons byte rest ih =>
    rw [padMismatch]
    by_cases last : counter = 255
    · subst last
      constructor
      · exact fun _ => rfl
      · exact fun fits => absurd ⟨by simp, rfl⟩ fits
    have below : counter < 255 := by omega
    have stepped : (addByte (UInt8.ofNat counter) 1 : Checked CryptoUnwrapError UInt8) =
        pure (UInt8.ofNat (counter + 1)) := by
      rw [addByte, UInt8.toNat_ofNat', if_pos, UInt8.ofNat_add]
      · rfl
      · change counter % 256 + 1 < 256
        omega
    rw [stepped, pure_bind, runsOver_cons byte rest below]
    by_cases same : byte = UInt8.ofNat counter
    · obtain ⟨full, within⟩ := @ih (counter + 1) (by omega)
      rw [if_neg (not_not.mpr same)]
      constructor
      · exact fun more => full more.2
      · intro fits
        rw [within fun more => fits ⟨same, more⟩, List.zipIdx_cons, List.any_cons, same]
        simp
    · rw [if_pos same]
      constructor
      · exact fun full => absurd full.1 same
      · intro _
        have differs : (byte != UInt8.ofNat counter) = true := bne_iff_ne.mpr same
        simp only [List.zipIdx_cons, List.any_cons, differs, Bool.true_or]

namespace SubState
variable {width : PointerWidth} {provider : CryptoProvider} {s : SubState} {data : List UInt8}

theorem authCodeLen_small {hash : HashAlgorithm} {authCodeLen : Nat}
    (parameters : s.integrityParameters = some (hash, authCodeLen)) : authCodeLen ≤ 32 := by
  have shorter := integrityParameters_le parameters
  cases hash <;> simp only [HashAlgorithm.digestLen] at shorter <;> omega

/-- Validating a trailer never panics. -/
theorem validateTrailerChecked_eq
    (digests : ∀ hash key message tag, provider.mac hash key message = .ok tag →
      tag.length = hash.digestLen) (slice : data.length ≤ width.isizeMax) :
    s.validateTrailerChecked width provider data = some (s.validateTrailer provider data) := by
  unfold validateTrailerChecked validateTrailer
  by_cases plain : s.authenticated = true
  swap
  · simp only [Bool.not_eq_true] at plain
    simp only [plain, Bool.not_false, if_true]
    rfl
  simp only [plain, Bool.not_true, Bool.false_eq_true, if_false]
  cases parameters : s.integrityParameters with
  | none => rfl
  | some found =>
    obtain ⟨hash, authCodeLen⟩ := found
    have few := authCodeLen_small parameters
    have tagged := integrityParameters_le parameters
    have machine : authCodeLen ≤ width.isizeMax := by cases width <;> simp [PointerWidth.isizeMax] <;> omega
    have known : (okOr (some (hash, authCodeLen)) (.unsupportedIntegrityAlgorithm s.integrityAlgorithm) :
      Checked CryptoUnwrapError _) = pure (hash, authCodeLen) := rfl
    rw [known, pure_bind]
    simp only
    rw [add_eq machine (by decide), pure_bind]
    by_cases short : data.length < authCodeLen + 2
    · rw [if_pos short, if_pos short]
      rfl
    rw [if_neg short, if_neg short, sub_eq (by omega), pure_bind, splitAt_eq (by omega), pure_bind]
    simp only
    generalize covered : data.take (data.length - authCodeLen) = authenticatedData
    have size : authenticatedData.length = data.length - authCodeLen := by
      rw [← covered, List.length_take]
      omega
    cases digest : provider.hmac hash s.keys.k1 [authenticatedData] with
    | error error => rfl
    | ok checksum =>
      have long := digests _ _ _ _ digest
      simp only
      rw [slice_eq (Nat.zero_le _) (by omega), pure_bind, List.drop_zero]
      by_cases mismatch : data.drop (data.length - authCodeLen) ≠ checksum.take authCodeLen
      · rw [if_pos mismatch, if_pos mismatch]
        rfl
      rw [if_neg mismatch, if_neg mismatch]
      rw [drop_last_two (by omega)]
      simp only
      generalize body : authenticatedData.take (authenticatedData.length - 2) = packet
      generalize authenticatedData[authenticatedData.length - 2]! = padLen
      generalize authenticatedData[authenticatedData.length - 1]! = nextHeader
      have within : packet.length ≤ width.isizeMax := by
        rw [← body, List.length_take]
        omega
      by_cases unknown : nextHeader ≠ 0x07
      · rw [if_pos unknown, if_pos unknown]
        rfl
      rw [if_neg unknown, if_neg unknown]
      by_cases early : packet.length < 12 ∨ 3 < padLen.toNat
      · rw [if_pos early, if_pos (by tauto)]
        rfl
      rw [if_neg early, sub_eq (by omega), pure_bind]
      by_cases crowded : packet.length - 12 < padLen.toNat
      · rw [if_pos crowded, if_pos (by tauto)]
        rfl
      rw [if_neg crowded, add_eq within (by decide), pure_bind]
      by_cases unaligned : (packet.length + 2) % 4 ≠ 0
      · rw [if_pos unaligned, if_pos (by tauto)]
        rfl
      rw [if_neg unaligned, if_neg (by tauto), sub_eq (by omega), pure_bind, splitAt_eq (by omega), pure_bind]
      simp only
      split <;> rfl

/-- What a session decrypts to bytes that end in padding of the greatest length,
counted up right to its last byte but one. -/
def FullPadding (provider : CryptoProvider) (s : SubState) (sent : List UInt8) : Prop :=
  s.confidentialityAlgorithm = .aesCbc128 ∧ ∃ iv sealed payload last,
    sent = iv ++ sealed ∧ iv.length = 16 ∧
    provider.decrypt s.keys.aesKey iv sealed = .ok (payload ++ countUp 1 254 ++ [last, 0xFF])

/-- The last byte says how much before it is padding. -/
theorem runsOver_drop_iff (body : List UInt8) (last : UInt8) :
    ((body.drop (body.length - last.toNat)).length = last.toNat ∧
      RunsOver (body.drop (body.length - last.toNat)) 1) ↔
    ∃ payload final, body ++ [last] = payload ++ countUp 1 254 ++ [final, 0xFF] := by
  have width : (countUp 1 254).length = 254 := by simp [countUp]
  constructor
  · rintro ⟨whole, long, counted⟩
    have small := last.toNat_lt
    have full : last.toNat = 255 := by omega
    rw [full] at whole long counted
    obtain ⟨final, ending⟩ : ∃ final, (body.drop (body.length - 255)).drop 254 = [final] := by
      apply List.length_eq_one_iff.mp
      rw [List.length_drop, whole]
    refine ⟨body.take (body.length - 255), final, ?_⟩
    have pad : body.drop (body.length - 255) = countUp 1 254 ++ [final] := by
      rw [← List.take_append_drop 254 (body.drop _), counted, ending]
    have byte : last = 0xFF := UInt8.toNat_inj.mp full
    calc body ++ [last]
        = body.take (body.length - 255) ++ body.drop (body.length - 255) ++ [0xFF] := by
          rw [List.take_append_drop, byte]
      _ = _ := by rw [pad]; simp
  · rintro ⟨payload, final, shape⟩
    have parts : body = payload ++ countUp 1 254 ++ [final] ∧ last = 0xFF := by
      rw [show payload ++ countUp 1 254 ++ [final, 0xFF] =
        (payload ++ countUp 1 254 ++ [final]) ++ [0xFF] by simp] at shape
      obtain ⟨same, byte⟩ := List.append_inj' shape rfl
      exact ⟨same, List.singleton_inj.mp byte⟩
    obtain ⟨rfl, rfl⟩ := parts
    have cut : (payload ++ countUp 1 254 ++ [final]).length - (0xFF : UInt8).toNat = payload.length := by
      simp only [List.length_append, width, List.length_singleton]
      change payload.length + 254 + 1 - 255 = _
      omega
    rw [cut, List.append_assoc, List.drop_left]
    refine ⟨?_, ?_, ?_⟩
    · rw [List.length_append, width]
      rfl
    · rw [List.length_append, width, List.length_singleton]
      decide
    · change (countUp 1 254 ++ [final]).take 254 = countUp 1 254
      exact List.take_left' width

/-- Reading what was encrypted panics on full padding, and else never. -/
theorem readDataEncryptedChecked_eq (provider : CryptoProvider) (s : SubState) (data : List UInt8) :
    (s.FullPadding provider data → s.readDataEncryptedChecked provider data = panicked) ∧
    (¬ s.FullPadding provider data →
      s.readDataEncryptedChecked provider data = some (s.readDataEncrypted provider data)) := by
  unfold readDataEncryptedChecked splitPadding readDataEncrypted FullPadding
  cases s.confidentialityAlgorithm with
  | none => exact ⟨fun full => absurd full.1 (by decide), fun _ => rfl⟩
  | xrc4_128 => exact ⟨fun full => absurd full.1 (by decide), fun _ => rfl⟩
  | xrc4_40 => exact ⟨fun full => absurd full.1 (by decide), fun _ => rfl⟩
  | aesCbc128 =>
    simp only [true_and]
    by_cases short : data.length < 16
    · rw [if_pos short, if_pos short]
      refine ⟨?_, fun _ => rfl⟩
      rintro ⟨iv, sealed, -, -, rfl, ivLength, -⟩
      rw [List.length_append] at short
      omega
    rw [if_neg short, if_neg short]
    have whole : data.take 16 ++ data.drop 16 = data := List.take_append_drop ..
    have ivLength : (data.take 16).length = 16 := by rw [List.length_take]; omega
    -- Only one cut gives an initialization vector of sixteen bytes.
    have cut : (∃ iv sealed payload last, data = iv ++ sealed ∧ iv.length = 16 ∧
        provider.decrypt s.keys.aesKey iv sealed =
          .ok (payload ++ countUp 1 254 ++ [last, 0xFF])) ↔
        ∃ payload last, provider.decrypt s.keys.aesKey (data.take 16) (data.drop 16) =
          .ok (payload ++ countUp 1 254 ++ [last, 0xFF]) := by
      constructor
      · rintro ⟨iv, sealed, payload, last, rfl, sixteen, opened⟩
        rw [← sixteen, List.take_left, List.drop_left]
        exact ⟨payload, last, opened⟩
      · rintro ⟨payload, last, opened⟩
        exact ⟨_, _, payload, last, whole.symm, ivLength, opened⟩
    rw [cut]
    generalize data.take 16 = iv
    generalize data.drop 16 = sealed
    by_cases unaligned : sealed = [] ∨ sealed.length % 16 ≠ 0
    · rw [if_pos unaligned, if_pos unaligned]
      refine ⟨?_, fun _ => rfl⟩
      rintro ⟨payload, last, opened⟩
      rw [CryptoProvider.decrypt, if_pos unaligned] at opened
      cases opened
    rw [if_neg unaligned, if_neg unaligned]
    cases provider.decrypt s.keys.aesKey iv sealed with
    | error error =>
      refine ⟨?_, fun _ => rfl⟩
      rintro ⟨payload, last, opened⟩
      cases opened
    | ok plain =>
      rcases List.eq_nil_or_concat plain with rfl | ⟨body, last, rfl⟩
      · refine ⟨?_, fun _ => rfl⟩
        rintro ⟨payload, last, opened⟩
        have nonempty := congrArg List.length (Except.ok.inj opened)
        simp at nonempty
      rw [List.concat_eq_append]
      simp only [List.getLast?_append, List.getLast?_singleton, Option.some_or,
        List.dropLast_concat, Except.ok.injEq]
      rw [← runsOver_drop_iff, splitAt_eq (Nat.sub_le ..), pure_bind]
      simp only
      generalize body.drop (body.length - last.toNat) = pad
      by_cases cutShort : pad.length ≠ last.toNat
      · rw [if_pos cutShort, if_pos cutShort]
        exact ⟨fun full => absurd full.1 cutShort, fun _ => rfl⟩
      rw [if_neg cutShort, if_neg cutShort, pure_bind]
      obtain ⟨full, within⟩ := @padMismatch_eq pad 1 (by decide)
      have start : (UInt8.ofNat 1) = 1 := rfl
      rw [start] at full within
      have shifted : (pad.zipIdx 1).any (fun (byte, i) => byte != UInt8.ofNat i) =
          pad.zipIdx.any (fun (byte, i) => byte != UInt8.ofNat (i + 1)) := by
        rw [List.zipIdx_succ, List.any_map]
        rfl
      rw [shifted] at within
      constructor
      · rintro ⟨-, counted⟩
        simp only [full counted]
        rfl
      · intro fits
        simp only [within fun counted => fits ⟨not_not.mp cutShort, counted⟩, pure_bind]
        split <;> rfl

/-! ### What is decrypted -/

/-- What a session expects behind a packet: nothing, or padding to four bytes,
its length, the next header and the tag over all of it. -/
inductive Trailed (provider : CryptoProvider) (s : SubState) (packet : List UInt8) :
    List UInt8 → Prop
  | bare (plain : s.authenticated = false) : Trailed provider s packet []
  | tagged (hash : HashAlgorithm) (tagLen padLen : Nat) (tag : List UInt8)
      (parameters : s.integrityParameters = some (hash, tagLen)) (few : padLen ≤ 3)
      (aligned : (packet.length + padLen + 2) % 4 = 0)
      (sealed : provider.hmac hash s.keys.k1
        [packet ++ List.replicate padLen 0xFF ++ [UInt8.ofNat padLen, 0x07]] = .ok tag) :
      Trailed provider s packet
        (List.replicate padLen 0xFF ++ [UInt8.ofNat padLen, 0x07] ++ tag.take tagLen)

/-- A packet this session opens, and what it decrypts: a header with the
session's flags, the length and the bytes sent, and the trailer expected. -/
def Opens (provider : CryptoProvider) (s : SubState) (data sent : List UInt8) : Prop :=
  ∃ flags session trailer, session.length = 8 ∧ sent.length ≤ 0xFFFF ∧
    (flags &&& 0x80 == 0x80) = s.encrypted ∧ (flags &&& 0x40 == 0x40) = s.authenticated ∧
    (PayloadType.ofByte (flags &&& 0x3F)).isSome = true ∧
    data = [0x06, flags] ++ session ++ toLe 2 sent.length ++ sent ++ trailer ∧
    s.Trailed provider ([0x06, flags] ++ session ++ toLe 2 sent.length ++ sent) trailer

/-- `read_payload` before anything is decrypted: the message with the payload
that was sent. -/
def sentMessage (provider : CryptoProvider) (s : SubState) (data : List UInt8) :
    Except V2ReadError V2Message :=
  if data.length < 10 then .error .notEnoughData
  else if data[0]! ≠ 0x06 then .error .notIpmiV2_0
  else
    match PayloadType.ofByte (data[1]! &&& 0x3F) with
    | none => .error (.invalidPayloadType (data[1]! &&& 0x3F))
    | some ty =>
      if s.encrypted ≠ (data[1]! &&& 0x80 == 0x80) then
        .error (.decryptionError .mismatchingEncryptionState)
      else if s.authenticated ≠ (data[1]! &&& 0x40 == 0x40) then
        .error (.decryptionError .mismatchingAuthenticationState)
      else
        match s.validateTrailer provider data with
        | .error error => .error (.decryptionError error)
        | .ok packet =>
          if packet.length < 12 then .error (.decryptionError .notEnoughData)
          else if ofLe ((packet.drop 10).take 2) ≠ (packet.drop 12).length then
            .error (.decryptionError .incorrectPayloadLen)
          else .ok
            { ty
              sessionId := UInt32.ofNat (ofLe ((data.drop 2).take 4))
              sessionSequenceNumber := UInt32.ofNat (ofLe ((data.drop 6).take 4))
              payload := packet.drop 12 }

theorem readPayload_sent (provider : CryptoProvider) (s : SubState) (data : List UInt8) :
    s.readPayload provider data =
      match s.sentMessage provider data with
      | .error error => .error error
      | .ok sent =>
        match s.readDataEncrypted provider sent.payload with
        | .error error => .error (.decryptionError error)
        | .ok payload => .ok { sent with payload } := by
  unfold readPayload sentMessage
  simp only
  split
  · rfl
  split
  · rfl
  cases PayloadType.ofByte (data[1]! &&& 0x3F) with
  | none => rfl
  | some ty =>
    simp only
    split
    · rfl
    split
    · rfl
    cases s.validateTrailer provider data with
    | error error => rfl
    | ok packet =>
      simp only
      split
      · rfl
      split <;> rfl

section digests
variable (digests : ∀ hash key message tag, provider.mac hash key message = .ok tag →
  tag.length = hash.digestLen)
include digests

theorem readPayloadChecked_sent (slice : data.length ≤ width.isizeMax) :
    s.readPayloadChecked width provider data =
      match s.sentMessage provider data with
      | .error error => throw error
      | .ok sent =>
        ExceptT.adapt .decryptionError (s.readDataEncryptedChecked provider sent.payload) >>=
          fun payload => pure { sent with payload } := by
  unfold readPayloadChecked sentMessage
  by_cases short : data.length < 10
  · rw [if_pos short, if_pos short]
  rw [if_neg short, if_neg short, index_eq (by omega), pure_bind, index_eq (by omega)]
  by_cases version : data[0]! ≠ 0x06
  · rw [if_pos version, if_pos version]
  rw [if_neg version, if_neg version, pure_bind]
  cases PayloadType.ofByte (data[1]! &&& 0x3F) with
  | none => rfl
  | some ty =>
    simp only
    by_cases encrypted : s.encrypted ≠ (data[1]! &&& 0x80 == 0x80)
    · rw [if_pos encrypted, if_pos encrypted]
    rw [if_neg encrypted, if_neg encrypted]
    by_cases authenticated : s.authenticated ≠ (data[1]! &&& 0x40 == 0x40)
    · rw [if_pos authenticated, if_pos authenticated]
    rw [if_neg authenticated, if_neg authenticated, slice_eq (by omega) (by omega), pure_bind,
      fixed_eq (by simp; omega), pure_bind, slice_eq (by omega) (by omega), pure_bind,
      fixed_eq (by simp; omega), pure_bind, validateTrailerChecked_eq digests slice]
    cases s.validateTrailer provider data with
    | error error => rfl
    | ok packet =>
      have adapted : (ExceptT.adapt V2ReadError.decryptionError
          (some (.ok packet) : Checked CryptoUnwrapError (List UInt8)) : Checked _ _) = pure packet := rfl
      rw [adapted, pure_bind]
      simp only
      by_cases headless : packet.length < 10
      · rw [if_pos headless, if_pos (by omega)]
      rw [if_neg headless]
      by_cases lengthless : (packet.drop 10).length < 2
      · rw [if_pos lengthless, if_pos (by rw [List.length_drop] at lengthless; omega)]
      rw [if_neg lengthless, if_neg (by rw [List.length_drop] at lengthless; omega)]
      rw [slice_eq (by omega) (by omega), pure_bind, fixed_eq (by simp at lengthless ⊢; omega), pure_bind,
        slice_eq (by omega) (by omega), pure_bind]
      simp only [List.take_length, List.drop_drop, List.drop_take]
      split
      · rfl
      · rfl

/-- An accepted trailer is the one expected, and what is before it has a header. -/
theorem validateTrailer_ok_iff {packet : List UInt8} :
    s.validateTrailer provider data = .ok packet ↔
      (∃ trailer, data = packet ++ trailer ∧ s.Trailed provider packet trailer) ∧
        (s.authenticated = true → 12 ≤ packet.length) := by
  constructor
  · intro accepted
    cases plain : s.authenticated with
    | false =>
      rw [validateTrailer, plain] at accepted
      obtain rfl := Except.ok.inj accepted
      exact ⟨⟨[], (List.append_nil _).symm, .bare plain⟩, fun sealed => absurd sealed Bool.false_ne_true⟩
    | true =>
      cases parameters : s.integrityParameters with
      | none =>
        rw [validateTrailer, plain, parameters] at accepted
        cases accepted
      | some found =>
        obtain ⟨hash, tagLen⟩ := found
        obtain ⟨padLen, few, long, aligned, tag, sealed, -, whole⟩ :=
          validateTrailer_ok parameters accepted
        refine ⟨⟨_, ?_, .tagged hash tagLen padLen tag parameters few aligned sealed⟩, fun _ => long⟩
        rw [whole]
        simp
  · rintro ⟨⟨trailer, rfl, trailed⟩, long⟩
    cases trailed with
    | bare plain =>
      rw [validateTrailer, plain, List.append_nil]
      rfl
    | tagged hash tagLen padLen tag parameters few aligned sealed =>
      have cut := integrityParameters_le parameters
      have digest := digests _ _ _ _ sealed
      rw [← List.append_assoc, ← List.append_assoc]
      exact validateTrailer_tagged parameters (long (authenticated_of_parameters parameters))
        (by omega) aligned sealed (by simp [digest, cut])

/-- Exactly what a session opens is taken to decryption. -/
theorem sentMessage_ok_iff {sent : List UInt8} :
    (∃ message, s.sentMessage provider data = .ok message ∧ message.payload = sent) ↔
      s.Opens provider data sent := by
  constructor
  · rintro ⟨message, accepted, rfl⟩
    unfold sentMessage at accepted
    split at accepted
    · cases accepted
    split at accepted
    · cases accepted
    rename_i version
    split at accepted
    · cases accepted
    rename_i ty known
    split at accepted
    · cases accepted
    rename_i encrypted
    split at accepted
    · cases accepted
    rename_i authenticated
    split at accepted
    · cases accepted
    rename_i packet validated
    split at accepted
    · cases accepted
    rename_i header
    split at accepted
    · cases accepted
    rename_i length
    obtain rfl := Except.ok.inj accepted
    rw [not_not] at version encrypted authenticated length
    obtain ⟨⟨trailer, rfl, trailed⟩, -⟩ := (validateTrailer_ok_iff digests).mp validated
    obtain ⟨first, second, -, -⟩ := header_prefix trailer (Nat.not_lt.mp header)
    rw [first] at version
    rw [second] at known encrypted authenticated
    have word : ((packet.drop 10).take 2).length = 2 := by
      rw [List.length_take, List.length_drop]
      omega
    have small := ofLe_lt ((packet.drop 10).take 2)
    rw [word, length] at small
    have parts : ([0x06, packet[1]!] : List UInt8) ++ ((packet.drop 2).take 4 ++ (packet.drop 6).take 4) ++
        toLe 2 (packet.drop 12).length ++ packet.drop 12 = packet := by
      rw [← length, toLe_ofLe word, ← List.append_assoc, ← version]
      exact header_fields (Nat.not_lt.mp header)
    refine ⟨packet[1]!, (packet.drop 2).take 4 ++ (packet.drop 6).take 4, trailer, ?_, ?_,
      encrypted.symm, authenticated.symm, ?_, ?_, ?_⟩
    · simp only [List.length_append, List.length_take, List.length_drop]
      omega
    · exact Nat.le_of_lt_succ small
    · rw [known]
      rfl
    · rw [parts]
    · rw [parts]
      exact trailed
  · rintro ⟨flags, session, trailer, eight, fits, encrypted, authenticated, known, rfl, trailed⟩
    obtain ⟨ty, named⟩ := Option.isSome_iff_exists.mp known
    generalize whole : [0x06, flags] ++ session ++ toLe 2 sent.length ++ sent = packet at trailed ⊢
    have size : packet.length = 12 + sent.length := by
      rw [← whole]
      simp only [List.length_append, List.length_cons, List.length_nil, eight, length_toLe]
    have validated : s.validateTrailer provider (packet ++ trailer) = .ok packet :=
      (validateTrailer_ok_iff digests).mpr ⟨⟨trailer, rfl, trailed⟩, fun _ => by omega⟩
    have front : ([0x06, flags] ++ session).length = 10 := by simp [eight]
    have length : (packet.drop 10).take 2 = toLe 2 sent.length := by
      rw [← whole, List.append_assoc, ← front, List.drop_left]
      exact List.take_left' (length_toLe ..)
    have body : packet.drop 12 = sent := by
      rw [← whole]
      apply List.drop_left'
      rw [List.length_append, front, length_toLe]
    have first : (packet ++ trailer)[0]! = 0x06 ∧ (packet ++ trailer)[1]! = flags := by
      rw [← whole]
      exact ⟨rfl, rfl⟩
    have counted : ofLe ((packet.drop 10).take 2) = (packet.drop 12).length := by
      rw [length, body]
      exact ofLe_toLe_of_lt (by omega)
    refine ⟨⟨ty, UInt32.ofNat (ofLe (((packet ++ trailer).drop 2).take 4)),
      UInt32.ofNat (ofLe (((packet ++ trailer).drop 6).take 4)), packet.drop 12⟩, ?_, body⟩
    unfold sentMessage
    rw [if_neg (by rw [List.length_append]; omega), first.1, first.2, named, validated]
    simp only [ne_eq, not_true_eq_false, if_false, encrypted, authenticated, counted]
    rw [if_neg (by omega)]

/-- Where reading does not panic it gives what reading without the checks gives. -/
theorem readPayloadChecked_eq (slice : data.length ≤ width.isizeMax) :
    ((∃ sent, s.Opens provider data sent ∧ s.FullPadding provider sent) →
      s.readPayloadChecked width provider data = panicked) ∧
    (¬ (∃ sent, s.Opens provider data sent ∧ s.FullPadding provider sent) →
      s.readPayloadChecked width provider data = some (s.readPayload provider data)) := by
  rw [readPayloadChecked_sent digests slice, readPayload_sent]
  cases opened : s.sentMessage provider data with
  | error error =>
    refine ⟨?_, fun _ => rfl⟩
    rintro ⟨sent, opens, -⟩
    obtain ⟨message, accepted, -⟩ := (sentMessage_ok_iff digests).mpr opens
    cases opened.symm.trans accepted
  | ok message =>
    obtain ⟨panics, returns⟩ := readDataEncryptedChecked_eq provider s message.payload
    constructor
    · rintro ⟨sent, opens, full⟩
      obtain ⟨same, accepted, rfl⟩ := (sentMessage_ok_iff digests).mpr opens
      obtain rfl := Except.ok.inj (opened.symm.trans accepted)
      simp only [panics full]
      rfl
    · intro fits
      have opens := (sentMessage_ok_iff digests).mp ⟨message, opened, rfl⟩
      simp only [returns fun full => fits ⟨_, opens, full⟩]
      cases s.readDataEncrypted provider message.payload <;> rfl

end digests

/-- For every key set and every byte string that fits in memory: a trailer is
validated without a panic, and reading panics on full confidentiality padding
and on nothing else. -/
theorem reading_returns_iff (width : PointerWidth) (provider : CryptoProvider) (s : SubState)
    (digests : ∀ hash key message tag, provider.mac hash key message = .ok tag →
      tag.length = hash.digestLen) (data : List UInt8) (slice : data.length ≤ width.isizeMax) :
    (∃ result, s.validateTrailerChecked width provider data = some result) ∧
    ((∃ result, s.readDataEncryptedChecked provider data = some result) ↔
      ¬ s.FullPadding provider data) ∧
    ((∃ result, s.readPayloadChecked width provider data = some result) ↔
      ¬ ∃ sent, s.Opens provider data sent ∧ s.FullPadding provider sent) := by
  refine ⟨⟨_, validateTrailerChecked_eq digests slice⟩, ?_, ?_⟩
  · obtain ⟨panics, returns⟩ := readDataEncryptedChecked_eq provider s data
    constructor
    · rintro ⟨result, returned⟩ full
      cases (panics full).symm.trans returned
    · exact fun fits => ⟨_, returns fits⟩
  · obtain ⟨panics, returns⟩ := readPayloadChecked_eq digests slice
    constructor
    · rintro ⟨result, returned⟩ full
      cases (panics full).symm.trans returned
    · exact fun fits => ⟨_, returns fits⟩

/-- The AES-CBC ciphertext of 1 to 254, a zero and 255. -/
private def fullCiphertext : List UInt8 := [
  0xbf, 0xce, 0x4c, 0x54, 0x9a, 0x55, 0x18, 0x4b, 0xa8, 0xc5, 0x08, 0xae, 0x77, 0x4e, 0x09, 0x65,
  0x84, 0xe0, 0x87, 0x65, 0xfd, 0xe9, 0x53, 0xad, 0xf4, 0xb3, 0xae, 0x35, 0x23, 0xb4, 0xdb, 0x9b,
  0xfa, 0x0c, 0x2e, 0x4a, 0x8e, 0x14, 0x25, 0x8e, 0x97, 0xef, 0x2b, 0x12, 0x39, 0x5d, 0xd0, 0xf2,
  0xdd, 0x39, 0x26, 0x9f, 0x2e, 0xed, 0x9c, 0xae, 0xeb, 0x28, 0x43, 0xb8, 0xf0, 0xb3, 0xb1, 0x08,
  0x09, 0x41, 0x76, 0x3e, 0x5b, 0xa6, 0x80, 0x5a, 0x88, 0x46, 0x36, 0xc7, 0x30, 0x69, 0x7b, 0x9a,
  0xd8, 0xd4, 0xdd, 0xd8, 0x79, 0x37, 0xbe, 0x81, 0x40, 0xff, 0xae, 0x57, 0x88, 0xfe, 0x57, 0x83,
  0xfe, 0x43, 0x95, 0xd6, 0x15, 0xb3, 0x94, 0x0b, 0xa9, 0x8f, 0x9c, 0xf4, 0x64, 0x1a, 0xad, 0xca,
  0x27, 0xac, 0x49, 0x28, 0xc2, 0x13, 0x19, 0x69, 0x5b, 0x64, 0x13, 0x3c, 0x54, 0x42, 0x44, 0x67,
  0xff, 0x12, 0x37, 0x7f, 0x9e, 0x3f, 0x7c, 0x1c, 0x76, 0xbf, 0x30, 0x21, 0x94, 0x60, 0x06, 0xd2,
  0x1c, 0xb2, 0x68, 0x08, 0xda, 0x1b, 0x5d, 0x54, 0xa7, 0x03, 0xa1, 0xa0, 0x26, 0x08, 0xc9, 0xa0,
  0x39, 0xcb, 0x73, 0xa9, 0xc3, 0xc4, 0x62, 0x29, 0x4d, 0x4c, 0xad, 0x71, 0x38, 0xcc, 0xac, 0x7c,
  0x25, 0xbe, 0x67, 0x84, 0xf7, 0x4f, 0x59, 0x70, 0x89, 0xaa, 0x1e, 0x76, 0xc3, 0xa0, 0xb1, 0x0e,
  0x24, 0xf4, 0x67, 0x6d, 0x18, 0xe9, 0x9a, 0x2c, 0xf4, 0x5b, 0x51, 0xea, 0x0e, 0x4f, 0x9a, 0x01,
  0x08, 0x46, 0x77, 0x98, 0x8d, 0x1d, 0xdb, 0xcf, 0xf5, 0x40, 0xc0, 0x78, 0x0b, 0x93, 0x3e, 0x04,
  0x8b, 0x75, 0xe6, 0xa3, 0xc4, 0x10, 0xa9, 0x13, 0x18, 0x05, 0x83, 0xde, 0xba, 0xb4, 0xfb, 0xbf,
  0xe2, 0x6e, 0x62, 0x36, 0xb3, 0x9a, 0xf9, 0xfe, 0xbc, 0x93, 0x6c, 0xeb, 0xad, 0xef, 0x58, 0xe3]

/-- The header of a packet with that ciphertext under suite 3, its
initialization vector, the ciphertext and the integrity padding. -/
private def fullCovered : List UInt8 :=
  [0x06, 0xc0, 0x44, 0x33, 0x22, 0x11, 0x02, 0x00, 0x00, 0x00, 0x10, 0x01] ++ countUp 1 16 ++
    fullCiphertext ++ [0xff, 0xff, 0x02, 0x07]

private def fullTag : List UInt8 := [0x4e, 0x74, 0x0e, 0xd8, 0x21, 0x4c, 0x89, 0x65, 0xb3, 0x24, 0xde,
  0x72, 0x9e, 0x64, 0xf2, 0x88, 0x52, 0x10, 0xe7, 0x78]

private def fullProvider : CryptoProvider :=
  .recorded [(.sha1, suite3Keys.k1, fullCovered, fullTag)] (countUp 1 254 ++ [0, 0xff]) fullCiphertext

/-- A packet with the digest and the ciphertext that HMAC-SHA1 and AES-CBC give
for it: reading it panics. -/
theorem reading_full_padding_panics :
    suite3State.readPayloadChecked .bits64 fullProvider
      (fullCovered ++ fullTag.take 12) = panicked := by
  decide +kernel

/-- A packet whose padding ends before its length is read. -/
theorem reading_returns_iff_padded :
    ∃ result, suite3State.readPayloadChecked .bits64 sentProvider (sentCovered ++ sentTag.take 12) = some result := by
  refine (reading_returns_iff .bits64 sentProvider suite3State sentProvider_lawful.digest
    (sentCovered ++ sentTag.take 12) (by decide)).2.2.mpr ?_
  rintro ⟨sent, opens, full⟩
  obtain ⟨message, accepted, rfl⟩ := (sentMessage_ok_iff sentProvider_lawful.digest).mpr opens
  obtain ⟨-, iv, sealed, payload, last, parts, sixteen, decrypted⟩ := full
  have read : ((suite3State.sentMessage sentProvider (sentCovered ++ sentTag.take 12)).toOption.map
      fun message => message.payload.drop 16) = some sentSealed := by decide +kernel
  rw [accepted] at read
  have rest : message.payload.drop 16 = sentSealed := Option.some.inj read
  rw [parts, List.drop_left' sixteen] at rest
  rw [rest] at decrypted
  have plain := congrArg (fun result => result.toOption.map List.length) decrypted
  have block : (sentProvider.decrypt suite3State.keys.aesKey iv sentSealed).toOption.map List.length = some 16 := rfl
  rw [block] at plain
  have short := Option.some.inj plain
  simp only [List.length_append, countUp, List.length_map, List.length_range'] at short
  omega

end SubState
end IpmiRs.Rmcp
