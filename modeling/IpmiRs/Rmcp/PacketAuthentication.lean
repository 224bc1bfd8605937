import IpmiRs.Rmcp.PacketRoundTrip

/-! The integrity tag covers everything a packet is read from. What is accepted
is a packet whose every byte stands before the tag, in its place, and a packet
with another tag is refused before anything behind the flags is interpreted. -/
namespace IpmiRs.Rmcp
open App.Auth Library.Bytes

namespace SubState

/-- The bytes a tag is computed over, for what is sent as a payload. -/
def coveredBytes (flags : UInt8) (sessionId sessionSequenceNumber : UInt32) (sent : List UInt8)
    (padLen : Nat) : List UInt8 :=
  [0x06, flags] ++ toLe 4 sessionId.toNat ++ toLe 4 sessionSequenceNumber.toNat ++
    toLe 2 sent.length ++ sent ++ List.replicate padLen 0xFF ++ [UInt8.ofNat padLen, 0x07]

/-- Everything the message says is read off the covered bytes: the flags and the
type in the second byte, the session, its sequence, the length and the payload. -/
def Carries (provider : CryptoProvider) (s : SubState) (covered : List UInt8)
    (message : V2Message) : Prop :=
  ∃ flags sent padLen,
    covered = coveredBytes flags message.sessionId message.sessionSequenceNumber sent padLen ∧
    (flags &&& 0x80 == 0x80) = s.encrypted ∧ (flags &&& 0x40 == 0x40) = s.authenticated ∧
    PayloadType.ofByte (flags &&& 0x3F) = some message.ty ∧
    sent.length ≤ 0xFFFF ∧ padLen ≤ 3 ∧ covered.length % 4 = 0 ∧
    s.readDataEncrypted provider sent = .ok message.payload

/-- The packet is the covered bytes and their truncated digest under K1. -/
def Tagged (provider : CryptoProvider) (s : SubState) (hash : HashAlgorithm) (tagLen : Nat)
    (data covered : List UInt8) : Prop :=
  ∃ digest, provider.hmac hash s.keys.k1 [covered] = .ok digest ∧
    (digest.take tagLen).length = tagLen ∧ data = covered ++ digest.take tagLen

/-- The last bytes of the packet are not the truncated digest of those before. -/
def TagMismatch (provider : CryptoProvider) (s : SubState) (hash : HashAlgorithm) (tagLen : Nat)
    (data : List UInt8) : Prop :=
  ∃ digest, provider.hmac hash s.keys.k1 [data.take (data.length - tagLen)] = .ok digest ∧
    data.drop (data.length - tagLen) ≠ digest.take tagLen

/-- What a packet of this many bytes is refused with on its two first bytes alone. -/
def refusal (s : SubState) (tagLen length : Nat) (version flags : UInt8) : V2ReadError :=
  if length < 10 then .notEnoughData
  else if version ≠ 0x06 then .notIpmiV2_0
  else if PayloadType.ofByte (flags &&& 0x3F) = none then .invalidPayloadType (flags &&& 0x3F)
  else if s.encrypted ≠ (flags &&& 0x80 == 0x80) then .decryptionError .mismatchingEncryptionState
  else if s.authenticated ≠ (flags &&& 0x40 == 0x40) then
    .decryptionError .mismatchingAuthenticationState
  else if length < tagLen + 2 then .decryptionError .incorrectIntegrityTrailerLen
  else .decryptionError .authCodeMismatch

variable {provider : CryptoProvider} {s : SubState} {hash : HashAlgorithm} {tagLen : Nat}
  {data : List UInt8} {message : V2Message}

/-- The two last bytes. -/
theorem drop_last_two {bytes : List UInt8} (long : 2 ≤ bytes.length) :
    bytes.drop (bytes.length - 2) = [bytes[bytes.length - 2]!, bytes[bytes.length - 1]!] := by
  have first : bytes.length - 2 < bytes.length := by omega
  have second : bytes.length - 1 < bytes.length := by omega
  have next : bytes.length - 2 + 1 = bytes.length - 1 := by omega
  rw [List.drop_eq_getElem_cons first, next, List.drop_eq_getElem_cons second,
    List.drop_eq_nil_of_le (by omega), getElem!_pos bytes _ first, getElem!_pos bytes _ second]

private theorem take_append_last_two {bytes : List UInt8} (long : 2 ≤ bytes.length) :
    bytes.take (bytes.length - 2) ++ [bytes[bytes.length - 2]!, bytes[bytes.length - 1]!] =
      bytes := by
  rw [← drop_last_two long, List.take_append_drop]

/-- What an accepted trailer is: the packet, padding, its length, the next
header and the tag over all of it. -/
theorem validateTrailer_ok (parameters : s.integrityParameters = some (hash, tagLen))
    {packet : List UInt8} (accepted : s.validateTrailer provider data = .ok packet) :
    ∃ padLen, padLen ≤ 3 ∧ 12 ≤ packet.length ∧ (packet.length + padLen + 2) % 4 = 0 ∧
      s.Tagged provider hash tagLen data
        (packet ++ List.replicate padLen 0xFF ++ [UInt8.ofNat padLen, 0x07]) := by
  unfold validateTrailer at accepted
  rw [authenticated_of_parameters parameters, parameters] at accepted
  simp only [Bool.not_true, Bool.false_eq_true, ↓reduceIte] at accepted
  split at accepted
  · cases accepted
  rename_i enough
  split at accepted
  · cases accepted
  rename_i digest sealed
  split at accepted
  · cases accepted
  rename_i tagged
  rw [not_not] at tagged
  split at accepted
  · cases accepted
  rename_i nextHeader
  split at accepted
  · cases accepted
  rename_i fits
  split at accepted
  · cases accepted
  rename_i filled
  obtain rfl := Except.ok.inj accepted
  rw [not_not] at nextHeader
  rw [not_or, not_or, not_or] at fits
  rw [Bool.not_eq_true, List.any_eq_false] at filled
  generalize authenticatedData : data.take (data.length - tagLen) = covered at *
  have size : covered.length = data.length - tagLen := by
    rw [← authenticatedData, List.length_take]
    omega
  have parts := take_append_last_two (show 2 ≤ covered.length by omega)
  generalize covered.take (covered.length - 2) = body at *
  generalize padByte : covered[covered.length - 2]! = pad at *
  have padding : body.drop (body.length - pad.toNat) = List.replicate pad.toNat 0xFF := by
    apply List.eq_replicate_iff.mpr
    constructor
    · rw [List.length_drop]
      omega
    · intro byte member
      simpa using filled byte member
  have packet : body.take (body.length - pad.toNat) ++ List.replicate pad.toNat 0xFF = body := by
    rw [← padding, List.take_append_drop]
  refine ⟨pad.toNat, by omega, ?_, ?_, digest, ?_, ?_, ?_⟩
  · rw [List.length_take]
    omega
  · rw [List.length_take]
    omega
  · rw [packet, UInt8.ofNat_toNat, ← nextHeader, parts]
    exact sealed
  · rw [← tagged, List.length_drop]
    omega
  · rw [packet, UInt8.ofNat_toNat, ← nextHeader, parts, ← tagged, ← authenticatedData,
      List.take_append_drop]

/-- An accepted packet passed every check of `read_payload`. -/
theorem readPayload_ok (accepted : s.readPayload provider data = .ok message) :
    ∃ packet, 10 ≤ data.length ∧ data[0]! = 0x06 ∧
      PayloadType.ofByte (data[1]! &&& 0x3F) = some message.ty ∧
      (data[1]! &&& 0x80 == 0x80) = s.encrypted ∧ (data[1]! &&& 0x40 == 0x40) = s.authenticated ∧
      s.validateTrailer provider data = .ok packet ∧ 12 ≤ packet.length ∧
      ofLe ((packet.drop 10).take 2) = (packet.drop 12).length ∧
      s.readDataEncrypted provider (packet.drop 12) = .ok message.payload ∧
      message.sessionId = UInt32.ofNat (ofLe ((data.drop 2).take 4)) ∧
      message.sessionSequenceNumber = UInt32.ofNat (ofLe ((data.drop 6).take 4)) := by
  unfold readPayload at accepted
  split at accepted
  · cases accepted
  rename_i long
  split at accepted
  · cases accepted
  rename_i version
  simp only at accepted
  split at accepted
  · cases accepted
  rename_i ty known
  split at accepted
  · cases accepted
  rename_i encrypted
  split at accepted
  · cases accepted
  rename_i authenticated
  split at accepted
  · cases accepted
  rename_i packet validated
  split at accepted
  · cases accepted
  rename_i header
  split at accepted
  · cases accepted
  rename_i length
  split at accepted
  · cases accepted
  rename_i payload opened
  obtain rfl := Except.ok.inj accepted
  rw [not_not] at version encrypted authenticated length
  exact ⟨packet, by omega, version, known, encrypted.symm, authenticated.symm, validated,
    by omega, length, opened, rfl, rfl⟩

theorem header_fields {bytes : List UInt8} (long : 12 ≤ bytes.length) :
    [bytes[0]!, bytes[1]!] ++ (bytes.drop 2).take 4 ++ (bytes.drop 6).take 4 ++
      (bytes.drop 10).take 2 ++ bytes.drop 12 = bytes := by
  match bytes, long with
  | _ :: _ :: _ :: _ :: _ :: _ :: _ :: _ :: _ :: _ :: _ :: _ :: _, _ => rfl

theorem header_prefix {packet : List UInt8} (rest : List UInt8) (long : 12 ≤ packet.length) :
    (packet ++ rest)[0]! = packet[0]! ∧ (packet ++ rest)[1]! = packet[1]! ∧
    ((packet ++ rest).drop 2).take 4 = (packet.drop 2).take 4 ∧
    ((packet ++ rest).drop 6).take 4 = (packet.drop 6).take 4 := by
  match packet, long with
  | _ :: _ :: _ :: _ :: _ :: _ :: _ :: _ :: _ :: _ :: _ :: _ :: _, _ => exact ⟨rfl, rfl, rfl, rfl⟩

private theorem toLe_word {bytes : List UInt8} (wide : bytes.length = 4) :
    toLe 4 (UInt32.ofNat (ofLe bytes)).toNat = bytes := by
  have small := ofLe_lt bytes
  rw [wide] at small
  rw [UInt32.toNat_ofNat', Nat.mod_eq_of_lt (by omega), toLe_ofLe wide]

/-- An accepted packet is its covered bytes and their tag, and its message is
what the covered bytes say. -/
theorem tagged_and_carried (parameters : s.integrityParameters = some (hash, tagLen))
    (accepted : s.readPayload provider data = .ok message) :
    ∃ covered, s.Tagged provider hash tagLen data covered ∧ s.Carries provider covered message := by
  obtain ⟨packet, -, version, known, encrypted, authenticated, validated, header, length, opened,
    sessionId, sequence⟩ := readPayload_ok accepted
  obtain ⟨padLen, few, -, aligned, tagged⟩ := validateTrailer_ok parameters validated
  refine ⟨_, tagged, data[1]!, packet.drop 12, padLen, ?_, encrypted, authenticated, known, ?_, few,
    ?_, opened⟩
  · obtain ⟨digest, -, -, whole⟩ := tagged
    rw [List.append_assoc, List.append_assoc] at whole
    obtain ⟨same, flags, session, sent⟩ := header_prefix
      (List.replicate padLen 0xFF ++ ([UInt8.ofNat padLen, 0x07] ++ digest.take tagLen)) header
    rw [← whole] at same flags session sent
    rw [session] at sessionId
    rw [sent] at sequence
    rw [same] at version
    rw [coveredBytes, sessionId, sequence, toLe_word (by simp; omega), toLe_word (by simp; omega),
      ← length, toLe_ofLe (by simp; omega), flags, ← version, header_fields header]
  · rw [← length]
    have small := ofLe_lt ((packet.drop 10).take 2)
    rw [List.length_take, List.length_drop] at small
    have two : min 2 (packet.length - 10) = 2 := by omega
    rw [two] at small
    omega
  · simp only [List.length_append, List.length_replicate, List.length_cons, List.length_nil]
    omega

/-- A packet with another tag is refused on its length and its first two bytes,
and nothing is decrypted. -/
theorem readPayload_mismatch (parameters : s.integrityParameters = some (hash, tagLen))
    (mismatch : s.TagMismatch provider hash tagLen data) :
    s.readPayload provider data = .error (s.refusal tagLen data.length data[0]! data[1]!) := by
  obtain ⟨digest, sealed, different⟩ := mismatch
  have refused : s.validateTrailer provider data =
      .error (if data.length < tagLen + 2 then .incorrectIntegrityTrailerLen
        else .authCodeMismatch) := by
    unfold validateTrailer
    rw [authenticated_of_parameters parameters, parameters]
    simp only [Bool.not_true, Bool.false_eq_true, ↓reduceIte, sealed, if_pos different]
    split <;> rfl
  unfold readPayload refusal
  simp only [refused]
  split
  · rfl
  split
  · rfl
  split
  · rename_i unknown
    rw [if_pos unknown]
  rename_i ty known
  have present : PayloadType.ofByte (data[1]! &&& 0x3F) ≠ none := by
    rw [known]
    exact Option.some_ne_none ty
  rw [if_neg present]
  split
  · rfl
  split
  · rfl
  split <;> rfl

/-- A packet whose flags say otherwise than the session is never accepted. -/
theorem readPayload_flags
    (differ : (data[1]! &&& 0x80 == 0x80) ≠ s.encrypted ∨
      (data[1]! &&& 0x40 == 0x40) ≠ s.authenticated) :
    ∃ error, s.readPayload provider data = .error error := by
  cases outcome : s.readPayload provider data with
  | error error => exact ⟨error, rfl⟩
  | ok message =>
    obtain ⟨packet, -, -, -, encrypted, authenticated, -⟩ := readPayload_ok outcome
    rcases differ with differ | differ
    · exact absurd encrypted differ
    · exact absurd authenticated differ

/-- For every key set with integrity (suites 3 and 17) and every byte string: what is accepted is
covered by the tag, down to the last byte; another tag is refused without
regard to what is behind the flags; and other flags are refused. -/
theorem integrity_covers_all_that_is_read (provider : CryptoProvider) (s : SubState)
    (hash : HashAlgorithm) (tagLen : Nat)
    (parameters : s.integrityParameters = some (hash, tagLen)) (data : List UInt8) :
    (∀ message, s.readPayload provider data = .ok message →
      ∃ covered, s.Tagged provider hash tagLen data covered ∧
        s.Carries provider covered message) ∧
    (s.TagMismatch provider hash tagLen data →
      s.readPayload provider data = .error (s.refusal tagLen data.length data[0]! data[1]!)) ∧
    ((data[1]! &&& 0x80 == 0x80) ≠ s.encrypted ∨ (data[1]! &&& 0x40 == 0x40) ≠ s.authenticated →
      ∃ error, s.readPayload provider data = .error error) :=
  ⟨fun _ => tagged_and_carried parameters, readPayload_mismatch parameters, readPayload_flags⟩

/-- A packet under suite 3, which is read off the bytes before its tag; the same bytes with another tag, which are
refused; and without their encryption flag, which are refused too. -/
theorem integrity_covers_all_that_is_read_suite3 :
    (∃ covered, suite3State.Tagged sentProvider .sha1 12 (sentCovered ++ sentTag.take 12) covered ∧
      suite3State.Carries sentProvider covered sentRequest) ∧
    suite3State.readPayload sentProvider (sentCovered ++ List.replicate 12 0x01) =
      .error (.decryptionError .authCodeMismatch) ∧
    ∃ error, suite3State.readPayload sentProvider ([0x06, 0x40] ++ sentCovered.drop 2 ++ sentTag.take 12) =
      .error error :=
  ⟨(integrity_covers_all_that_is_read sentProvider suite3State .sha1 12 rfl _).1 _ (by decide +kernel),
    (integrity_covers_all_that_is_read sentProvider suite3State .sha1 12 rfl _).2.1
      ⟨sentTag, by decide +kernel, by decide⟩,
    (integrity_covers_all_that_is_read sentProvider suite3State .sha1 12 rfl _).2.2 (.inl (by decide))⟩

end SubState
end IpmiRs.Rmcp
