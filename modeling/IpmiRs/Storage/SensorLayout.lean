import IpmiRs.Storage.FullSensorRecord

/-! The packed fields of a full sensor record as the IPMI specification lays
them out, and when the decoder agrees with it: the flag of the hysteresis, the
accuracy and three of the linearizations are decoded as something else. -/
namespace IpmiRs.Storage
open Connection Library Library.Bytes

/-- The linearizations the specification numbers. -/
def Linearization.ofCode (code : Nat) : Linearization :=
  match code with
  | 0 => .linear
  | 1 => .ln
  | 2 => .log10
  | 3 => .log2
  | 4 => .e
  | 5 => .exp10
  | 6 => .exp2
  | 7 => .oneOverX
  | 8 => .sqr
  | 9 => .cube
  | 10 => .sqrt
  | 11 => .cubeRoot
  | _ => if 0x71 ≤ code ∧ code ≤ 0x7F then .oem (UInt8.ofNat code) else .unknown (UInt8.ofNat code)

def Direction.code : Direction → Nat
  | .unspecifiedNotApplicable => 0
  | .input => 1
  | .output => 2

/-- A number of so many bits in two's complement. -/
def twosComplement (width value : Nat) : Int :=
  if value < 2 ^ (width - 1) then value else (value : Int) - 2 ^ width

/-- The packed fields of a full sensor record. -/
structure SensorFields where
  initialization : SensorInitialization
  linearization : Linearization
  m : Int
  tolerance : Nat
  b : Int
  accuracy : Nat
  accuracyExponent : Nat
  direction : Nat
  resultExponent : Int
  bExponent : Int
  deriving DecidableEq

/-- The fields a decoded record has. -/
def FullSensorRecord.fields (record : FullSensorRecord) : SensorFields where
  initialization := record.common.initialization
  linearization := record.linearization
  m := record.m.toInt
  tolerance := record.tolerance.toNat
  b := record.b.toInt
  accuracy := record.accuracy.toNat
  accuracyExponent := record.accuracyExponent.toNat
  direction := record.direction.code
  resultExponent := record.resultExponent.toInt
  bExponent := record.bExponent.toInt

/-- The flags of a byte, each from its own bit. -/
def SensorInitialization.specified (flags : UInt8) : SensorInitialization where
  settable := bits flags 7 7 = 1
  scanning := bits flags 6 6 = 1
  events := bits flags 5 5 = 1
  thresholds := bits flags 4 4 = 1
  hysteresis := bits flags 3 3 = 1
  sensorType := bits flags 2 2 = 1
  eventGenerationEnabledOnStartup := bits flags 1 1 = 1
  sensorScanningEnabledOnStartup := bits flags 0 0 = 1

/-- The fields of a body by the layout of the specification. -/
def SensorFields.specified (body : List UInt8) : SensorFields where
  initialization := .specified body[5]!
  linearization := .ofCode (bits body[18]! 6 0)
  m := twosComplement 10 (bits body[19]! 7 0 + 256 * bits body[20]! 7 6)
  tolerance := bits body[20]! 5 0
  b := twosComplement 10 (bits body[21]! 7 0 + 256 * bits body[22]! 7 6)
  accuracy := bits body[23]! 7 4 * 64 + bits body[22]! 5 0
  accuracyExponent := bits body[23]! 3 2
  direction := bits body[23]! 1 0
  resultExponent := twosComplement 4 (bits body[24]! 7 4)
  bExponent := twosComplement 4 (bits body[24]! 3 0)

/-- The number of a linearization. -/
def Linearization.code : Linearization → Nat
  | .linear => 0
  | .ln => 1
  | .log10 => 2
  | .log2 => 3
  | .e => 4
  | .exp10 => 5
  | .exp2 => 6
  | .oneOverX => 7
  | .sqr => 8
  | .cube => 9
  | .sqrt => 10
  | .cubeRoot => 11
  | .oem value | .unknown value => value.toNat

/-- The fields fit their bits. -/
structure SensorFields.Fits (fields : SensorFields) : Prop where
  linearization : fields.linearization.code < 128 ∧
    Linearization.ofCode fields.linearization.code = fields.linearization
  m : -512 ≤ fields.m ∧ fields.m < 512
  tolerance : fields.tolerance < 64
  b : -512 ≤ fields.b ∧ fields.b < 512
  accuracy : fields.accuracy < 1024
  accuracyExponent : fields.accuracyExponent < 4
  direction : fields.direction < 3
  resultExponent : -8 ≤ fields.resultExponent ∧ fields.resultExponent < 8
  bExponent : -8 ≤ fields.bExponent ∧ fields.bExponent < 8

/-- The flags in their bits. -/
def SensorInitialization.byte (flags : SensorInitialization) : Nat :=
  flags.settable.toNat * 128 + flags.scanning.toNat * 64 + flags.events.toNat * 32 +
    flags.thresholds.toNat * 16 + flags.hysteresis.toNat * 8 + flags.sensorType.toNat * 4 +
    flags.eventGenerationEnabledOnStartup.toNat * 2 + flags.sensorScanningEnabledOnStartup.toNat

/-- The low bits of a number in two's complement. -/
def lowBits (width : Nat) (value : Int) : Nat := (value % 2 ^ width).toNat

/-- The bytes of the fields by the layout of the specification, from byte 18 on. -/
def SensorFields.packed (fields : SensorFields) : List Nat :=
  let m := lowBits 10 fields.m
  let b := lowBits 10 fields.b
  [fields.linearization.code, m % 256, m / 256 * 64 + fields.tolerance, b % 256,
    b / 256 * 64 + fields.accuracy % 64,
    fields.accuracy / 64 * 16 + fields.accuracyExponent * 4 + fields.direction,
    lowBits 4 fields.resultExponent * 16 + lowBits 4 fields.bExponent]

/-- A body with the fields in it. -/
def SensorFields.encode (fields : SensorFields) (body : List UInt8) : List UInt8 :=
  (body.take 5 ++ UInt8.ofNat fields.initialization.byte :: (body.drop 6).take 12) ++
    fields.packed.map UInt8.ofNat ++ body.drop 25

/-- Where the decoder agrees with the layout: the two flags are the same, the
linearization is none that it confuses, and the accuracy is zero. -/
def DecodedAsSpecified (body : List UInt8) : Prop :=
  bits body[5]! 3 3 = bits body[5]! 4 4 ∧ ¬(9 ≤ bits body[18]! 6 0 ∧ bits body[18]! 6 0 ≤ 12) ∧
    bits body[22]! 5 0 = 0 ∧ bits body[23]! 7 4 = 0

/-- The fields come back from the decoder as they are. -/
def SensorFields.Survive (fields : SensorFields) : Prop :=
  fields.initialization.hysteresis = fields.initialization.thresholds ∧
    ¬(9 ≤ fields.linearization.code ∧ fields.linearization.code ≤ 12) ∧ fields.accuracy = 0

section decoding
variable {body : List UInt8}

theorem initialization_specified_iff (flags : UInt8) :
    SensorInitialization.ofByte flags = .specified flags ↔ bits flags 3 3 = bits flags 4 4 := by
  revert flags
  apply forall_of_table
  decide +kernel

theorem linearization_specified_iff (byte : UInt8) :
    Linearization.ofByte (byte &&& 0x7F) = .ofCode (bits byte 6 0) ↔
      ¬(9 ≤ bits byte 6 0 ∧ bits byte 6 0 ≤ 12) := by
  revert byte
  apply forall_of_table
  decide +kernel

theorem toInt_wordFromLe (low high : UInt8) :
    (wordFromLe low high).toInt16.toInt =
      if low.toNat + 256 * high.toNat < 2 ^ 15 then (low.toNat + 256 * high.toNat : Int)
      else (low.toNat + 256 * high.toNat : Int) - 2 ^ 16 := by
  have first := low.toNat_lt
  have second := high.toNat_lt
  have word : (wordFromLe low high).toNat = low.toNat + 256 * high.toNat := by
    rw [wordFromLe, ofLe, ofLe, ofLe, UInt16.toNat_ofNat', Nat.mod_eq_of_lt (by omega)]
    omega
  have signed : (wordFromLe low high).toInt16.toInt = (wordFromLe low high).toBitVec.toInt := rfl
  rw [signed, BitVec.toInt_eq_toNat_cond, UInt16.toNat_toBitVec, word]
  split <;> split <;> omega

/-- Ten bits in two bytes, with the sign at the top of the second one. -/
theorem tenBits_specified (low byte : UInt8) :
    (wordFromLe low (signBits byte ||| ((byte >>> 6) &&& 0x3))).toInt16.toInt =
      twosComplement 10 (bits low 7 0 + 256 * bits byte 7 6) := by
  have table : ∀ byte : UInt8, (signBits byte ||| ((byte >>> 6) &&& 0x3)).toNat =
      bits byte 7 6 + if 2 ≤ bits byte 7 6 then 252 else 0 := by
    apply forall_of_table
    decide +kernel
  have first := low.toNat_lt
  have top : bits byte 7 6 < 4 := Nat.mod_lt _ (by decide)
  have whole : bits low 7 0 = low.toNat := by
    simp only [bits, Nat.pow_zero, Nat.div_one]
    omega
  rw [toInt_wordFromLe, table, whole, twosComplement]
  split <;> split <;> split <;> omega

theorem masked_top (byte : UInt8) : (byte >>> 6 &&& 0x3 : UInt8) = byte >>> 6 := by
  revert byte
  apply forall_of_table
  decide +kernel

theorem nibbles_specified (byte : UInt8) :
    (nibbleSign byte 0x80 ||| ((byte >>> 4) &&& 0x7)).toInt8.toInt = twosComplement 4 (bits byte 7 4) ∧
      (nibbleSign byte 0x8 ||| (byte &&& 0x7)).toInt8.toInt = twosComplement 4 (bits byte 3 0) := by
  revert byte
  apply forall_of_table
  decide +kernel

theorem small_specified (byte : UInt8) :
    (byte &&& 0x3F : UInt8).toNat = bits byte 5 0 ∧
      (byte >>> 2 &&& 0x3 : UInt8).toNat = bits byte 3 2 ∧
      (byte &&& 0b11 : UInt8).toNat = bits byte 1 0 ∧
      (byte >>> 4 &&& 0xF : UInt8).toNat = bits byte 7 4 := by
  revert byte
  apply forall_of_table
  decide +kernel

/-- The accuracy is put together the wrong way round, which only zero survives. -/
theorem accuracy_specified_iff (low byte : UInt8) :
    (wordFromLe ((byte >>> 4) &&& 0xF) (low &&& 0x3F)).toNat = bits byte 7 4 * 64 + bits low 5 0 ↔
      bits low 5 0 = 0 ∧ bits byte 7 4 = 0 := by
  have six : bits low 5 0 < 64 := Nat.mod_lt _ (by decide)
  have four : bits byte 7 4 < 16 := Nat.mod_lt _ (by decide)
  rw [wordFromLe, ofLe, ofLe, ofLe, (small_specified byte).2.2.2, (small_specified low).1,
    UInt16.toNat_ofNat', Nat.mod_eq_of_lt (by omega)]
  omega

theorem direction_specified {value : UInt8} {direction : Direction}
    (known : Direction.ofBits value = .ok direction) : direction.code = value.toNat := by
  unfold Direction.ofBits at known
  split at known <;> cases known <;> simp_all [Direction.code]

theorem getElem!_drop (body : List UInt8) (n i : Nat) : (body.drop n)[i]! = body[n + i]! := by
  rw [List.getElem!_eq_getElem?_getD, List.getElem!_eq_getElem?_getD, List.getElem?_drop]

/-- Every field of a record is read from its byte. -/
theorem fields_of_parse {record : FullSensorRecord} (parsed : FullSensorRecord.parse body = .ok record) :
    43 ≤ body.length ∧ SensorKey.parse (body.take 3) = .ok record.common.key ∧
      SensorId.parse body[42]! (body.drop 43) = .ok record.common.sensorId ∧
      Direction.ofBits (body[23]! &&& 0b11) = .ok record.direction ∧
      record.common.initialization = .ofByte body[5]! ∧
      record.linearization = .ofByte (body[18]! &&& 0x7F) ∧
      record.m = (wordFromLe body[19]! (signBits body[20]! ||| (body[20]! >>> 6 &&& 0x3))).toInt16 ∧
      record.tolerance = body[20]! &&& 0x3F ∧
      record.b = (wordFromLe body[21]! (signBits body[22]! ||| body[22]! >>> 6)).toInt16 ∧
      record.accuracy = wordFromLe (body[23]! >>> 4 &&& 0xF) (body[22]! &&& 0x3F) ∧
      record.accuracyExponent = body[23]! >>> 2 &&& 0x3 ∧
      record.resultExponent = (nibbleSign body[24]! 0x80 ||| (body[24]! >>> 4 &&& 0x7)).toInt8 ∧
      record.bExponent = (nibbleSign body[24]! 0x8 ||| (body[24]! &&& 0x7)).toInt8 := by
  unfold FullSensorRecord.parse SensorRecordCommon.parseWithoutId at parsed
  simp only [bind, Except.bind, pure, Except.pure, throw, throwThe, MonadExceptOf.throw] at parsed
  split at parsed
  · cases parsed
  · rename_i long
    rw [if_neg (by omega)] at parsed
    cases key : SensorKey.parse (body.take 3) with
    | error error =>
      rw [key] at parsed
      cases parsed
    | ok key' =>
      rw [key] at parsed
      simp only [getElem!_drop, List.drop_drop] at parsed
      split at parsed
      · cases parsed
      · split at parsed
        · cases parsed
        · rename_i direction known
          split at parsed
          · cases parsed
          · rename_i id identified
            cases parsed
            exact ⟨Nat.not_lt.mp long, rfl, identified, known, rfl, rfl, rfl, rfl, rfl, rfl, rfl, rfl, rfl⟩

/-- The decoded fields are those of the layout if and only if the body is one
that is decoded as specified. -/
theorem fields_specified_iff {record : FullSensorRecord}
    (parsed : FullSensorRecord.parse body = .ok record) :
    record.fields = .specified body ↔ DecodedAsSpecified body := by
  obtain ⟨-, -, -, direction, initialization, linearization, m, tolerance, b, accuracy, accuracyExponent,
    resultExponent, bExponent⟩ := fields_of_parse parsed
  have b' : record.b.toInt = twosComplement 10 (bits body[21]! 7 0 + 256 * bits body[22]! 7 6) := by
    rw [b, ← masked_top, tenBits_specified]
  unfold FullSensorRecord.fields SensorFields.specified DecodedAsSpecified
  rw [SensorFields.mk.injEq, initialization, linearization, initialization_specified_iff,
    linearization_specified_iff, m, tenBits_specified, tolerance, (small_specified _).1, b', accuracy,
    accuracy_specified_iff, accuracyExponent, (small_specified _).2.1, direction_specified direction,
    (small_specified _).2.2.1, resultExponent, (nibbles_specified _).1, bExponent,
    (nibbles_specified _).2]
  simp only [and_true, true_and]

theorem code_ofCode (byte : UInt8) : (Linearization.ofCode (bits byte 6 0)).code = bits byte 6 0 := by
  revert byte
  apply forall_of_table
  decide +kernel

/-- A body is decoded as specified if and only if the fields in it survive. -/
theorem decodedAsSpecified_iff (body : List UInt8) :
    DecodedAsSpecified body ↔ (SensorFields.specified body).Survive := by
  have hysteresis : bits body[5]! 3 3 < 2 := Nat.mod_lt _ (by decide)
  have thresholds : bits body[5]! 4 4 < 2 := Nat.mod_lt _ (by decide)
  have flags : (SensorInitialization.specified body[5]!).hysteresis =
      (SensorInitialization.specified body[5]!).thresholds ↔
        bits body[5]! 3 3 = bits body[5]! 4 4 := by
    rw [SensorInitialization.specified, decide_eq_decide]
    omega
  unfold DecodedAsSpecified SensorFields.Survive SensorFields.specified
  rw [flags, code_ofCode]
  dsimp only
  omega

/-- The record that a repository keeps of a full sensor is that of its body. -/
theorem parseFullSensor_eq (body : List UInt8) :
    RecordContents.parseFullSensor body = (FullSensorRecord.parse body).map fun record =>
      .fullSensor record.common.key record.direction record.common.sensorId := by
  unfold RecordContents.parseFullSensor FullSensorRecord.parse SensorRecordCommon.parseWithoutId
  simp only [bind, Except.bind, pure, Except.pure, throw, throwThe, MonadExceptOf.throw]
  by_cases short : body.length < 43
  · rw [if_pos short, if_pos short]
    rfl
  · rw [if_neg short, if_neg short, if_neg (by omega)]
    cases SensorKey.parse (body.take 3) with
    | error error => rfl
    | ok key =>
      simp only [getElem!_drop, List.drop_drop]
      rw [if_neg (by rw [List.length_drop]; omega)]
      cases Direction.ofBits (body[18 + 5]! &&& 0b11) with
      | error error => rfl
      | ok direction =>
        cases SensorId.parse body[18 + 24]! (body.drop (18 + 25)) with
        | error error => rfl
        | ok id => rfl

theorem direction_accepted {byte : UInt8} (known : bits byte 1 0 < 3) :
    ∃ direction, Direction.ofBits (byte &&& 0b11) = .ok direction := by
  have table : ∀ byte : UInt8, bits byte 1 0 < 3 → (Direction.ofBits (byte &&& 0b11)).isOk := by
    apply forall_of_table
    decide +kernel
  have accepted := table byte known
  cases directed : Direction.ofBits (byte &&& 0b11) with
  | ok direction => exact ⟨direction, rfl⟩
  | error error =>
    rw [directed] at accepted
    cases accepted

/-- What the parser refuses does not depend on the packed fields, but for the direction. -/
theorem accepted_iff :
    (∃ record, FullSensorRecord.parse body = .ok record) ↔
      43 ≤ body.length ∧ (∃ key, SensorKey.parse (body.take 3) = .ok key) ∧
        (∃ direction, Direction.ofBits (body[23]! &&& 0b11) = .ok direction) ∧
        ∃ id, SensorId.parse body[42]! (body.drop 43) = .ok id := by
  constructor
  · rintro ⟨record, parsed⟩
    obtain ⟨long, key, id, direction, -⟩ := fields_of_parse parsed
    exact ⟨long, ⟨_, key⟩, ⟨_, direction⟩, ⟨_, id⟩⟩
  · rintro ⟨long, ⟨key, keyed⟩, ⟨direction, directed⟩, id, identified⟩
    unfold FullSensorRecord.parse SensorRecordCommon.parseWithoutId
    simp only [bind, Except.bind, pure, Except.pure, throw, throwThe, MonadExceptOf.throw]
    rw [if_neg (by omega), if_neg (by omega), keyed]
    simp only [getElem!_drop, List.drop_drop]
    rw [if_neg (by rw [List.length_drop]; omega), directed]
    simp only [identified]
    exact ⟨_, rfl⟩

end decoding

section encoding
variable {fields : SensorFields} {body : List UInt8}

theorem getElem!_append_right {front rest : List UInt8} {n : Nat} (long : front.length = n) (i : Nat) :
    (front ++ rest)[n + i]! = rest[i]! := by
  subst long
  rw [List.getElem!_eq_getElem?_getD, List.getElem!_eq_getElem?_getD,
    List.getElem?_append_right (Nat.le_add_right _ _), Nat.add_sub_cancel_left]

/-- The flags are in byte 5 and the packed fields in bytes 18 to 24. -/
theorem encode_at (fields : SensorFields) (long : 43 ≤ body.length) :
    (fields.encode body)[5]! = UInt8.ofNat fields.initialization.byte ∧
      ∀ i, (fields.encode body)[18 + i]! = (fields.packed.map UInt8.ofNat ++ body.drop 25)[i]! := by
  have five : (body.take 5).length = 5 := by
    rw [List.length_take]
    omega
  have front : (body.take 5 ++ UInt8.ofNat fields.initialization.byte ::
      (body.drop 6).take 12).length = 18 := by
    rw [List.length_append, List.length_cons, five, List.length_take, List.length_drop]
    omega
  constructor
  · rw [SensorFields.encode, List.append_assoc, List.append_assoc]
    exact getElem!_append_right five 0
  · intro i
    rw [SensorFields.encode, List.append_assoc]
    exact getElem!_append_right front i

/-- What else is read of a body stays as it was. -/
theorem encode_rest (fields : SensorFields) (long : 43 ≤ body.length) :
    (fields.encode body).length = body.length ∧ (fields.encode body).take 3 = body.take 3 ∧
      (fields.encode body)[42]! = body[42]! ∧ (fields.encode body).drop 43 = body.drop 43 := by
  have seven : (fields.packed.map UInt8.ofNat).length = 7 := rfl
  have front : (body.take 5 ++ UInt8.ofNat fields.initialization.byte ::
      (body.drop 6).take 12).length = 18 := by
    simp only [List.length_append, List.length_cons, List.length_take, List.length_drop]
    omega
  refine ⟨?_, ?_, ?_, ?_⟩
  · rw [SensorFields.encode, List.length_append, List.length_append, front, seven, List.length_drop]
    omega
  · rw [SensorFields.encode, List.append_assoc, List.append_assoc,
      List.take_append_of_le_length (by rw [List.length_take]; omega), List.take_take]
    rfl
  · have last := (encode_at fields long).2 24
    rw [show 24 = 7 + 17 from rfl, getElem!_append_right seven, getElem!_drop] at last
    exact last
  · have whole : (body.take 5 ++ UInt8.ofNat fields.initialization.byte :: (body.drop 6).take 12 ++
        fields.packed.map UInt8.ofNat).length = 25 := by
      rw [List.length_append, front, seven]
    rw [SensorFields.encode, show 43 = 25 + 18 from rfl, ← List.drop_drop, List.drop_left' whole,
      List.drop_drop]

theorem byte_specified (flags : SensorInitialization) :
    SensorInitialization.specified (UInt8.ofNat flags.byte) = flags := by
  obtain ⟨_ | _, _ | _, _ | _, _ | _, _ | _, _ | _, _ | _, _ | _⟩ := flags <;> rfl

theorem twosComplement_lowBits {value : Int} : 
    (-512 ≤ value ∧ value < 512 → twosComplement 10 (lowBits 10 value) = value) ∧
      (-8 ≤ value ∧ value < 8 → twosComplement 4 (lowBits 4 value) = value) := by
  unfold twosComplement lowBits
  constructor <;> rintro ⟨low, high⟩ <;> split <;> omega

/-- The layout reads back the fields that were written in it. -/
theorem specified_encode (long : 43 ≤ body.length) (fits : fields.Fits) :
    SensorFields.specified (fields.encode body) = fields := by
  obtain ⟨flags, packed⟩ := encode_at fields long
  obtain ⟨code, known⟩ := fits.linearization
  have accuracy := fits.accuracy
  have accuracyExponent := fits.accuracyExponent
  have direction := fits.direction
  have tolerance := fits.tolerance
  have m : lowBits 10 fields.m < 1024 := by unfold lowBits; omega
  have b : lowBits 10 fields.b < 1024 := by unfold lowBits; omega
  have resultExponent : lowBits 4 fields.resultExponent < 16 := by unfold lowBits; omega
  have bExponent : lowBits 4 fields.bExponent < 16 := by unfold lowBits; omega
  have at18 : (fields.encode body)[18]! = UInt8.ofNat fields.linearization.code := packed 0
  have at19 : (fields.encode body)[19]! = UInt8.ofNat (lowBits 10 fields.m % 256) := packed 1
  have at20 : (fields.encode body)[20]! =
    UInt8.ofNat (lowBits 10 fields.m / 256 * 64 + fields.tolerance) := packed 2
  have at21 : (fields.encode body)[21]! = UInt8.ofNat (lowBits 10 fields.b % 256) := packed 3
  have at22 : (fields.encode body)[22]! =
    UInt8.ofNat (lowBits 10 fields.b / 256 * 64 + fields.accuracy % 64) := packed 4
  have at23 : (fields.encode body)[23]! =
    UInt8.ofNat (fields.accuracy / 64 * 16 + fields.accuracyExponent * 4 + fields.direction) := packed 5
  have at24 : (fields.encode body)[24]! =
    UInt8.ofNat (lowBits 4 fields.resultExponent * 16 + lowBits 4 fields.bExponent) := packed 6
  have linearization' : bits (UInt8.ofNat fields.linearization.code) 6 0 = fields.linearization.code := by
    rw [bits, UInt8.toNat_ofNat']
    omega
  have m' : bits (UInt8.ofNat (lowBits 10 fields.m % 256)) 7 0 +
      256 * bits (UInt8.ofNat (lowBits 10 fields.m / 256 * 64 + fields.tolerance)) 7 6 =
      lowBits 10 fields.m := by
    simp only [bits, UInt8.toNat_ofNat']
    omega
  have tolerance' :
      bits (UInt8.ofNat (lowBits 10 fields.m / 256 * 64 + fields.tolerance)) 5 0 = fields.tolerance := by
    simp only [bits, UInt8.toNat_ofNat']
    omega
  have b' : bits (UInt8.ofNat (lowBits 10 fields.b % 256)) 7 0 +
      256 * bits (UInt8.ofNat (lowBits 10 fields.b / 256 * 64 + fields.accuracy % 64)) 7 6 =
      lowBits 10 fields.b := by
    simp only [bits, UInt8.toNat_ofNat']
    omega
  have low : bits (UInt8.ofNat (lowBits 10 fields.b / 256 * 64 + fields.accuracy % 64)) 5 0 =
      fields.accuracy % 64 := by
    simp only [bits, UInt8.toNat_ofNat']
    omega
  have byte23 : (UInt8.ofNat (fields.accuracy / 64 * 16 + fields.accuracyExponent * 4 +
      fields.direction)).toNat =
        fields.accuracy / 64 * 16 + fields.accuracyExponent * 4 + fields.direction := by
    rw [UInt8.toNat_ofNat', Nat.mod_eq_of_lt (by omega)]
  have byte24 : (UInt8.ofNat (lowBits 4 fields.resultExponent * 16 + lowBits 4 fields.bExponent)).toNat =
      lowBits 4 fields.resultExponent * 16 + lowBits 4 fields.bExponent := by
    rw [UInt8.toNat_ofNat', Nat.mod_eq_of_lt (by omega)]
  rw [SensorFields.specified, flags, byte_specified, at18, at19, at20, at21, at22, at23, at24,
    linearization', known, m', tolerance', b', low, twosComplement_lowBits.1 fits.m,
    twosComplement_lowBits.1 fits.b]
  simp only [bits, byte23, byte24]
  congr 1
  · omega
  · omega
  · omega
  · rw [show (lowBits 4 fields.resultExponent * 16 + lowBits 4 fields.bExponent) / 2 ^ 4 %
      2 ^ (7 - 4 + 1) = lowBits 4 fields.resultExponent by omega]
    exact twosComplement_lowBits.2 fits.resultExponent
  · rw [show (lowBits 4 fields.resultExponent * 16 + lowBits 4 fields.bExponent) / 2 ^ 0 %
      2 ^ (3 - 0 + 1) = lowBits 4 fields.bExponent by omega]
    exact twosComplement_lowBits.2 fits.bExponent

/-- A record's packed fields are those of the layout if and only if two flags
are the same, the linearization is none that is confused with another and the
accuracy is zero, and so do fields come back that are encoded by the layout. -/
theorem layout_inverted_iff {record : FullSensorRecord}
    (parsed : FullSensorRecord.parse body = .ok record) :
    (record.fields = .specified body ↔ DecodedAsSpecified body) ∧
      ∀ fields : SensorFields, fields.Fits →
        ∃ decoded, FullSensorRecord.parse (fields.encode body) = .ok decoded ∧
          (decoded.fields = fields ↔ fields.Survive) := by
  refine ⟨fields_specified_iff parsed, fun fields fits => ?_⟩
  obtain ⟨long, key, -, id⟩ := accepted_iff.mp ⟨record, parsed⟩
  have written := specified_encode long fits
  obtain ⟨length, same, typeLength, rest⟩ := encode_rest fields long
  have direction : ∃ direction, Direction.ofBits ((fields.encode body)[23]! &&& 0b11) = .ok direction := by
    have code : bits (fields.encode body)[23]! 1 0 = fields.direction :=
      congrArg SensorFields.direction written
    exact direction_accepted (code ▸ fits.direction)
  obtain ⟨decoded, again⟩ := accepted_iff.mpr ⟨by omega, same ▸ key, direction, by rwa [typeLength, rest]⟩
  refine ⟨decoded, again, ?_⟩
  have agreed := fields_specified_iff again
  rwa [decodedAsSpecified_iff, written] at agreed

/-- A body with the flags, the linearization and the two parts of the accuracy. -/
def sensorBody (flags linearization low high : UInt8) : List UInt8 :=
  [0x20, 0, 1, 3, 1, flags, 0, 1, 1] ++ List.replicate 9 (0 : UInt8) ++
    [linearization, 1, 0, 0, low, high <<< 4] ++ List.replicate 18 (0 : UInt8) ++ [0xC0]

theorem layout_inverted_iff_square :
    ∃ record, FullSensorRecord.parse (sensorBody 0x7F 8 0 0) = .ok record ∧
      record.fields = .specified (sensorBody 0x7F 8 0 0) :=
  ⟨_, rfl, (layout_inverted_iff rfl).1.mpr (by unfold DecodedAsSpecified; decide)⟩

/-- The hysteresis is missing, a cube is a square root and an accuracy of 65 is one of 257. -/
theorem layout_not_inverted :
    ∃ record, FullSensorRecord.parse (sensorBody 0x08 9 1 1) = .ok record ∧
      record.fields ≠ .specified (sensorBody 0x08 9 1 1) ∧
      record.fields.initialization.hysteresis = false ∧
      (SensorFields.specified (sensorBody 0x08 9 1 1)).initialization.hysteresis = true ∧
      record.fields.linearization = .sqrt ∧
      (SensorFields.specified (sensorBody 0x08 9 1 1)).linearization = .cube ∧
      record.fields.accuracy = 257 ∧ (SensorFields.specified (sensorBody 0x08 9 1 1)).accuracy = 65 :=
  ⟨_, rfl, by decide, rfl, rfl, rfl, rfl, rfl, rfl⟩

end encoding
end IpmiRs.Storage
