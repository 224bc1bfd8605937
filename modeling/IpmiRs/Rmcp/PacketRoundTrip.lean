import IpmiRs.Rmcp.Crypto

/-! Reading undoes writing: the integrity trailer, the confidentiality padding
and the packet around them are each taken apart as they were put together, for
every length of the payload. -/
namespace IpmiRs.Rmcp
open App.Auth Library.Bytes

theorem PayloadType.ofByte_toByte (ty : PayloadType) : ofByte ty.toByte = some ty := by
  cases ty <;> rfl

private theorem last_two (rest : List UInt8) (a b : UInt8) :
    (rest ++ [a, b]).length = rest.length + 2 ∧
    (rest ++ [a, b]).take ((rest ++ [a, b]).length - 2) = rest ∧
    (rest ++ [a, b])[(rest ++ [a, b]).length - 2]! = a ∧
    (rest ++ [a, b])[(rest ++ [a, b]).length - 1]! = b := by
  refine ⟨by simp, ?_, ?_, ?_⟩
  · rw [List.length_append, List.length_cons, List.length_cons, List.length_nil,
      Nat.add_sub_cancel, List.take_left]
  · simp
  · simp

/-- Decryption undoes encryption. -/
theorem CryptoProvider.Lawful.decrypt_encrypt {provider : CryptoProvider} (lawful : provider.Lawful)
    {key iv plain sealed : List UInt8} (encrypted : provider.encrypt key iv plain = .ok sealed) :
    sealed.length = plain.length ∧ provider.decrypt key iv sealed = .ok plain := by
  unfold CryptoProvider.encrypt at encrypted
  split at encrypted
  · cases encrypted
  rename_i blocks
  rw [not_or, not_not] at blocks
  obtain ⟨sameLength, decrypted⟩ := lawful.cipher _ _ _ _ blocks.2 encrypted
  have nonempty : sealed ≠ [] := by
    rw [← List.length_pos_iff, sameLength]
    exact List.length_pos_iff.mpr blocks.1
  refine ⟨sameLength, ?_⟩
  rw [CryptoProvider.decrypt, if_neg (by simp [nonempty, sameLength, blocks.2]), decrypted]

namespace SubState
variable {provider : CryptoProvider} {s : SubState}

/-- The tag is never longer than the digest it is cut from. -/
theorem integrityParameters_le {hash : HashAlgorithm} {tagLen : Nat}
    (parameters : s.integrityParameters = some (hash, tagLen)) : tagLen ≤ hash.digestLen := by
  unfold integrityParameters at parameters
  split at parameters
  · cases parameters
    decide
  · cases parameters
    decide
  · cases parameters

/-- The trailer a written packet carries: padding to four bytes, its length,
the next header and the tag over all of it. -/
theorem writeTrailer_ok {header body out : List UInt8} (four : header.length = 4)
    (written : s.writeTrailer provider (header ++ body) = .ok out) :
    (s.authenticated = false ∧ out = header ++ body) ∨
    (s.authenticated = true ∧ ∃ hash tagLen tag pad,
      s.integrityParameters = some (hash, tagLen) ∧ pad < 4 ∧ (body.length + pad + 2) % 4 = 0 ∧
      provider.hmac hash s.keys.k1
        [body ++ List.replicate pad 0xFF ++ [UInt8.ofNat pad, 0x07]] = .ok tag ∧
      out = header ++
        (body ++ List.replicate pad 0xFF ++ [UInt8.ofNat pad, 0x07] ++ tag.take tagLen)) := by
  unfold writeTrailer at written
  have tail (rest : List UInt8) : (header ++ rest).drop 4 = rest := by
    rw [← four, List.drop_left]
  by_cases authenticated : s.authenticated = true
  · simp only [authenticated, ↓reduceIte, List.append_assoc, tail] at written
    cases parameters : s.integrityParameters with
    | none =>
      rw [parameters] at written
      cases written
    | some chosen =>
      obtain ⟨hash, tagLen⟩ := chosen
      rw [parameters] at written
      simp only at written
      split at written
      · cases written
      · rename_i tag sealed
        obtain rfl := Except.ok.inj written
        refine .inr ⟨authenticated, hash, tagLen, tag, (4 - (body.length + 2) % 4) % 4, rfl, ?_, ?_,
          ?_, ?_⟩
        · omega
        · omega
        · simpa using sealed
        · simp
  · rw [Bool.not_eq_true] at authenticated
    rw [if_neg (by simp [authenticated])] at written
    exact .inl ⟨authenticated, (Except.ok.inj written).symm⟩

/-- Only a session with integrity has integrity parameters. -/
theorem authenticated_of_parameters {hash : HashAlgorithm} {tagLen : Nat}
    (parameters : s.integrityParameters = some (hash, tagLen)) : s.authenticated = true := by
  unfold integrityParameters at parameters
  unfold authenticated
  split at parameters
  · rename_i sha1 _
    simp [sha1]
  · rename_i sha256 _
    simp [sha256]
  · cases parameters

/-- Padding, its length, the next header and the tag over all of it are removed. -/
theorem validateTrailer_tagged {hash : HashAlgorithm} {tagLen : Nat}
    (parameters : s.integrityParameters = some (hash, tagLen)) {body tag : List UInt8} {pad : Nat}
    (long : 12 ≤ body.length) (few : pad < 4) (aligned : (body.length + pad + 2) % 4 = 0)
    (sealed : provider.hmac hash s.keys.k1
      [body ++ List.replicate pad 0xFF ++ [UInt8.ofNat pad, 0x07]] = .ok tag)
    (tagged : (tag.take tagLen).length = tagLen) :
    s.validateTrailer provider
      (body ++ List.replicate pad 0xFF ++ [UInt8.ofNat pad, 0x07] ++ tag.take tagLen) = .ok body := by
  generalize covered : body ++ List.replicate pad 0xFF ++ [UInt8.ofNat pad, 0x07] = data at sealed ⊢
  obtain ⟨size, padded, padByte, nextHeader⟩ :=
    last_two (body ++ List.replicate pad 0xFF) (UInt8.ofNat pad) 0x07
  rw [covered] at size padded padByte nextHeader
  have split : (data ++ tag.take tagLen).length - tagLen = data.length := by simp [tagged]
  have padLen : (UInt8.ofNat pad).toNat = pad := by
    rw [UInt8.toNat_ofNat']
    omega
  unfold validateTrailer
  rw [authenticated_of_parameters parameters, parameters]
  simp only [Bool.not_true, Bool.false_eq_true, ↓reduceIte, split, List.take_left,
    List.drop_left, sealed, ne_eq, not_true_eq_false, padded, padByte, nextHeader, padLen]
  have enough : ¬ (data ++ tag.take tagLen).length < tagLen + 2 := by
    rw [List.length_append]
    omega
  have accepted : ¬ ((body ++ List.replicate pad 0xFF).length < 12 ∨ 3 < pad ∨
      (body ++ List.replicate pad 0xFF).length - 12 < pad ∨
      ¬ ((body ++ List.replicate pad 0xFF).length + 2) % 4 = 0) := by
    simp only [List.length_append, List.length_replicate]
    omega
  have inner : (body ++ List.replicate pad 0xFF).length - pad = body.length := by simp
  rw [if_neg enough, if_neg accepted, inner, List.drop_left, List.take_left]
  simp

/-- A written trailer is accepted and removed. -/
theorem validateTrailer_written (lawful : provider.Lawful) {header body out : List UInt8}
    (four : header.length = 4) (long : 12 ≤ body.length)
    (written : s.writeTrailer provider (header ++ body) = .ok out) :
    s.validateTrailer provider (out.drop 4) = .ok body := by
  have tail (rest : List UInt8) : (header ++ rest).drop 4 = rest := by
    rw [← four, List.drop_left]
  rcases writeTrailer_ok four written with ⟨plain, rfl⟩ |
    ⟨-, hash, tagLen, tag, pad, parameters, small, aligned, sealed, rfl⟩
  · rw [tail, validateTrailer, plain]
    rfl
  · rw [tail]
    have digest := lawful.digest _ _ _ _ sealed
    have cut := integrityParameters_le parameters
    exact validateTrailer_tagged parameters long small aligned sealed (by simp [digest, cut])

theorem confidentialityPadLen_lt (dataLen : Nat) : confidentialityPadLen dataLen < 16 :=
  Nat.mod_lt _ (by decide)

/-- What is encrypted fills whole blocks, and at least one. -/
theorem withConfidentialityTrailer_blocks (data : List UInt8) :
    (withConfidentialityTrailer data).length = data.length + confidentialityPadLen data.length + 1 ∧
    (data.length + confidentialityPadLen data.length + 1) % 16 = 0 := by
  constructor
  · simp [withConfidentialityTrailer]
    omega
  · unfold confidentialityPadLen
    omega

/-- What is encrypted ends in padding that counts up from one, and its length. -/
private theorem withConfidentialityTrailer_shape (data : List UInt8) :
    ∃ pad padByte, withConfidentialityTrailer data = data ++ pad ++ [padByte] ∧
      padByte.toNat = pad.length ∧
      pad.zipIdx.any (fun (byte, i) => byte != UInt8.ofNat (i + 1)) = false := by
  refine ⟨_, _, rfl, ?_, ?_⟩
  · have small := confidentialityPadLen_lt data.length
    rw [UInt8.toNat_ofNat', List.length_map, List.length_range]
    omega
  · rw [List.any_eq_false]
    rintro ⟨byte, i⟩ member
    obtain ⟨-, -, same⟩ := List.mem_zipIdx member
    simp [same]

/-- What decrypts to data with its trailer is read as the data. -/
private theorem readDataEncrypted_sealed (sealing : s.confidentialityAlgorithm = .aesCbc128)
    {iv data sealed : List UInt8} (ivLength : iv.length = 16) (nonempty : sealed ≠ [])
    (whole : sealed.length % 16 = 0)
    (decrypted : provider.decrypt s.keys.aesKey iv sealed = .ok (withConfidentialityTrailer data)) :
    s.readDataEncrypted provider (iv ++ sealed) = .ok data := by
  have enough : ¬ (iv ++ sealed).length < 16 := by
    rw [List.length_append]
    omega
  have present : ¬ (sealed = [] ∨ sealed.length % 16 ≠ 0) := by simp [nonempty, whole]
  obtain ⟨pad, padByte, shape, padLength, counted⟩ := withConfidentialityTrailer_shape data
  have dataLen : (data ++ pad).length - pad.length = data.length := by simp
  rw [readDataEncrypted, sealing]
  simp only [← ivLength, List.take_left, List.drop_left] at enough ⊢
  rw [if_neg enough, ivLength, if_neg present, decrypted, shape]
  simp only [List.getLast?_append, List.getLast?_singleton, Option.some_or, List.dropLast_concat,
    padLength, dataLen, List.drop_left, List.take_left, ne_eq, not_true_eq_false, ↓reduceIte,
    counted, Bool.false_eq_true]

/-- Written payload data is its length and a payload that reads back. -/
theorem readDataEncrypted_written (lawful : provider.Lawful) {iv : Option (Vector UInt8 16)}
    {data buffer out : List UInt8}
    (written : s.writeDataEncrypted provider iv data buffer = .ok out) :
    ∃ payload, out = buffer ++ (toLe 2 payload.length ++ payload) ∧ payload.length ≤ 0xFFFF ∧
      s.readDataEncrypted provider payload = .ok data := by
  unfold writeDataEncrypted at written
  split at written
  · cases written
  rename_i fits
  split at written
  · rename_i plain
    obtain rfl := Except.ok.inj written
    refine ⟨data, by simp, by omega, ?_⟩
    rw [readDataEncrypted, plain]
  · rename_i sealing
    split at written
    · cases written
    rename_i iv
    simp only at written
    split at written
    · cases written
    rename_i fits
    split at written
    · cases written
    rename_i sealed encrypted
    obtain rfl := Except.ok.inj written
    obtain ⟨sameLength, decrypted⟩ := lawful.decrypt_encrypt encrypted
    obtain ⟨filled, whole⟩ := withConfidentialityTrailer_blocks data
    rw [filled] at sameLength
    have ivLength : iv.toList.length = 16 := by simp
    have length : (iv.toList ++ sealed).length =
        data.length + 1 + 16 + confidentialityPadLen data.length := by
      rw [List.length_append, ivLength, sameLength]
      omega
    refine ⟨iv.toList ++ sealed, ?_, by omega, ?_⟩
    · rw [length]
      simp
    · apply readDataEncrypted_sealed sealing ivLength _ (sameLength ▸ whole) decrypted
      intro empty
      rw [empty] at sameLength
      cases sameLength
  · cases written

/-- The flag bits and the payload type share a byte and are told apart. -/
private theorem flags_read (encrypted authenticated : Bool) (ty : PayloadType) :
    let high : UInt8 := if encrypted then 1 else 0
    let low : UInt8 := if authenticated then 1 else 0
    let flags := high <<< 7 ||| low <<< 6 ||| ty.toByte
    (flags &&& 0x80 == 0x80) = encrypted ∧ (flags &&& 0x40 == 0x40) = authenticated ∧
      flags &&& 0x3F = ty.toByte := by
  cases encrypted <;> cases authenticated <;> cases ty <;> decide

private theorem four_of_length {bytes : List UInt8} (width : bytes.length = 4) :
    ∃ a b c d, bytes = [a, b, c, d] := by
  match bytes, width with
  | [a, b, c, d], _ => exact ⟨a, b, c, d, rfl⟩

/-- The packet that `write_payload` builds before it adds the trailer. -/
private theorem writePayload_ok (lawful : provider.Lawful) {iv : Option (Vector UInt8 16)}
    {message : V2Message} {header out : List UInt8}
    (written : s.writePayload provider iv message header = .ok out) :
    ∃ flags payload,
      (flags &&& 0x80 == 0x80) = s.encrypted ∧ (flags &&& 0x40 == 0x40) = s.authenticated ∧
      flags &&& 0x3F = message.ty.toByte ∧
      payload.length ≤ 0xFFFF ∧ s.readDataEncrypted provider payload = .ok message.payload ∧
      s.writeTrailer provider (header ++ (0x06 :: flags :: (toLe 4 message.sessionId.toNat ++
        (toLe 4 message.sessionSequenceNumber.toNat ++ (toLe 2 payload.length ++ payload))))) =
        .ok out := by
  unfold writePayload at written
  simp only at written
  split at written
  · cases written
  rename_i buffer sealed
  obtain ⟨payload, rfl, fits, opened⟩ := readDataEncrypted_written lawful sealed
  obtain ⟨encrypted, authenticated, ty⟩ := flags_read s.encrypted s.authenticated message.ty
  refine ⟨_, payload, encrypted, authenticated, ty, fits, opened, ?_⟩
  simpa using written

/-- A packet that `write_payload` produced is read back as the same message:
every suite, key set and payload length it accepts. -/
theorem readPayload_writePayload (provider : CryptoProvider) (s : SubState)
    (lawful : provider.Lawful) (iv : Option (Vector UInt8 16)) (message : V2Message)
    (header out : List UInt8) (four : header.length = 4)
    (written : s.writePayload provider iv message header = .ok out) :
    s.readPayload provider (out.drop 4) = .ok message := by
  obtain ⟨flags, payload, encrypted, authenticated, ty, fits, opened, trailed⟩ :=
    writePayload_ok lawful written
  have session : ofLe (toLe 4 message.sessionId.toNat) = message.sessionId.toNat :=
    ofLe_toLe_of_lt message.sessionId.toNat_lt
  have sequence : ofLe (toLe 4 message.sessionSequenceNumber.toNat) =
      message.sessionSequenceNumber.toNat := ofLe_toLe_of_lt message.sessionSequenceNumber.toNat_lt
  have length : ofLe (toLe 2 payload.length) = payload.length :=
    ofLe_toLe_of_lt (show payload.length < 256 ^ 2 by omega)
  generalize sid : toLe 4 message.sessionId.toNat = sessionBytes at trailed session
  generalize seq : toLe 4 message.sessionSequenceNumber.toNat = sequenceBytes at trailed sequence
  generalize len : toLe 2 payload.length = lengthBytes at trailed length
  have sessionWidth : sessionBytes.length = 4 := by simp [← sid]
  have sequenceWidth : sequenceBytes.length = 4 := by simp [← seq]
  have lengthWidth : lengthBytes.length = 2 := by simp [← len]
  have validated := validateTrailer_written lawful four (by simp; omega) trailed
  obtain ⟨trailer, rfl⟩ : ∃ trailer, out = header ++ (0x06 :: flags :: (sessionBytes ++
      (sequenceBytes ++ (lengthBytes ++ payload))) ++ trailer) := by
    rcases writeTrailer_ok four trailed with ⟨-, same⟩ | ⟨-, hash, tagLen, tag, pad, -, -, -, -, same⟩
    · exact ⟨[], by rw [same, List.append_nil]⟩
    · exact ⟨_, by rw [same, List.append_assoc, List.append_assoc]⟩
  have whole : (header ++ (0x06 :: flags :: (sessionBytes ++ (sequenceBytes ++ (lengthBytes ++
      payload))) ++ trailer)).drop 4 = 0x06 :: flags :: (sessionBytes ++ (sequenceBytes ++
      (lengthBytes ++ payload))) ++ trailer := by
    rw [← four, List.drop_left]
  rw [whole] at validated ⊢
  obtain ⟨a, b, c, d, rfl⟩ := four_of_length sessionWidth
  obtain ⟨e, f, g, h, rfl⟩ := four_of_length sequenceWidth
  obtain ⟨i, j, rfl⟩ := List.length_eq_two.mp lengthWidth
  unfold readPayload
  simp only [List.cons_append, List.nil_append, List.length_cons, List.getElem!_cons_zero,
    List.getElem!_cons_succ, List.drop_succ_cons, List.drop_zero, List.take_succ_cons,
    List.take_zero] at validated ⊢
  rw [if_neg (by omega), if_neg (by simp), ty, PayloadType.ofByte_toByte]
  simp only [encrypted, authenticated, ne_eq, not_true_eq_false, ↓reduceIte, validated,
    List.length_cons, List.drop_succ_cons, List.drop_zero, List.take_succ_cons, List.take_zero,
    session, sequence, length, opened]
  rw [if_neg (by omega)]
  simp

end SubState

/-- A backend that replays recorded digests and one recorded encryption. -/
def CryptoProvider.recorded
    (tags : List (HashAlgorithm × List UInt8 × List UInt8 × List UInt8))
    (plain sealed : List UInt8) : CryptoProvider where
  mac hash key message := .ok <|
    match tags.find? fun t => t.1 = hash ∧ t.2.1 = key ∧ t.2.2.1 = message with
    | some t => t.2.2.2
    | none => List.replicate hash.digestLen 0
  cbcEncrypt _ _ data := .ok (if data = plain then sealed else if data = sealed then plain else data)
  cbcDecrypt _ _ data := .ok (if data = sealed then plain else if data = plain then sealed else data)

theorem CryptoProvider.recorded_lawful
    {tags : List (HashAlgorithm × List UInt8 × List UInt8 × List UInt8)} {plain sealed : List UInt8}
    (digests : ∀ t ∈ tags, t.2.2.2.length = t.1.digestLen)
    (same : sealed.length = plain.length) : (recorded tags plain sealed).Lawful where
  digest := by
    intro hash key message tag found
    obtain rfl := Except.ok.inj found
    split
    · rename_i t known
      have matched := List.find?_some known
      simp only [decide_eq_true_eq] at matched
      rw [digests t (List.mem_of_find?_eq_some known), matched.1]
    · simp
  cipher := by
    intro key iv data out _ encrypted
    obtain rfl := Except.ok.inj encrypted
    simp only [recorded]
    constructor
    · split
      · simp_all
      · split <;> simp_all
    · congr 1
      split
      · simp_all
      · split <;> simp_all

/-- The keys of a session under suite 3. -/
def suite3Keys : Keys :=
  { Keys.empty with
    k1 := [0xcf, 0x7e, 0x65, 0xa4, 0xf2, 0x49, 0x27, 0x72, 0x38, 0x51, 0x88, 0x80, 0xec, 0xb9, 0x2c, 0x4e, 0x1c, 0xb5,
      0x99, 0xde]
    aesKey := [0x09, 0x83, 0x9e, 0xa6, 0xc3, 0xdf, 0xd7, 0x4f, 0xca, 0x14, 0x58, 0xd8, 0x55, 0xac, 0xd2, 0xe1] }

def suite3State : SubState := ⟨suite3Keys, .aesCbc128, .hmacSha1_96⟩

/-- The AES-CBC ciphertext of a request with its padding. -/
def sentSealed : List UInt8 :=
  [0x95, 0xa5, 0xa0, 0x3a, 0x82, 0x27, 0x80, 0x46, 0x1d, 0x49, 0xd3, 0xea, 0x94, 0xe2, 0xd7, 0xdb]

/-- The bytes of its packet before the tag, and the digest that HMAC-SHA1 gives for them. -/
def sentCovered : List UInt8 :=
  [0x06, 0xc0, 0x44, 0x33, 0x22, 0x11, 0x01, 0x00, 0x00, 0x00, 0x20, 0x00] ++
    [1, 2, 3, 4, 5, 6, 7, 8, 9, 10, 11, 12, 13, 14, 15, 16] ++ sentSealed ++
    [0xff, 0xff, 0x02, 0x07]

def sentTag : List UInt8 := [0xbf, 0xab, 0xa9, 0x8d, 0x1d, 0x8f, 0x87, 0x38, 0x3f, 0x1e, 0x0f, 0x61, 0xca, 0x4f, 0x85,
  0x8b, 0x3f, 0x7c, 0x63, 0xef]

/-- A backend that gives that digest and that ciphertext. -/
def sentProvider : CryptoProvider :=
  .recorded [(.sha1, suite3Keys.k1, sentCovered, sentTag)]
    [0x20, 0x18, 0xc8, 0x81, 0x00, 0x01, 0x7e, 1, 2, 3, 4, 5, 6, 7, 8, 8] sentSealed

def sentRequest : V2Message := ⟨.ipmiMessage, 0x11223344, 1, [0x20, 0x18, 0xc8, 0x81, 0x00, 0x01, 0x7e]⟩

theorem sentProvider_lawful : sentProvider.Lawful := CryptoProvider.recorded_lawful (by decide) (by decide)

theorem readPayload_writePayload_suite3 :
    suite3State.readPayload sentProvider (sentCovered ++ sentTag.take 12) = .ok sentRequest :=
  SubState.readPayload_writePayload _ _ sentProvider_lawful
    (some #v[1, 2, 3, 4, 5, 6, 7, 8, 9, 10, 11, 12, 13, 14, 15, 16]) _ [0x06, 0x00, 0xff, 0x07]
    ([0x06, 0x00, 0xff, 0x07] ++ _) rfl (by decide)

end IpmiRs.Rmcp
