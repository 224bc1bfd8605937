import IpmiRs.Storage.SensorLayout
import IpmiRs.Storage.TypedRecords

/-! The record parsers never panic: each comes to what the parser without
indices in it comes to, and an ID string lies within its record. -/
namespace IpmiRs.Storage.Typed
open Connection Library Library.Bytes Library.Checked

variable {recordData : List UInt8}

theorem EntityInstance.ofByte_eq (value : UInt8) : EntityInstance.ofByte value = pure (Storage.EntityInstance.ofByte value) := by
  have below : ∀ value : UInt8, (value &&& 0x7F).toNat < 0x80 := by
    apply forall_of_table
    decide +kernel
  rw [EntityInstance.ofByte, covered_eq (below value)]
  rfl

theorem SensorCapabilities.new_eq (caps : UInt8) (assertLower deassertUpper discrete : UInt16) :
    SensorCapabilities.new caps assertLower deassertUpper discrete =
      pure (Storage.SensorCapabilities.new caps assertLower deassertUpper discrete) := by
  have below : ∀ caps : UInt8, ((caps &&& 0x30) >>> 4).toNat < 4 ∧ ((caps &&& 0xC) >>> 2).toNat < 4 := by
    apply forall_of_table
    decide +kernel
  rw [SensorCapabilities.new, covered_eq (below caps).1, covered_eq (below caps).2]
  rfl

theorem SensorUnits.ofBytes_eq (sensorUnits1 baseUnit modifierUnit : UInt8) :
    SensorUnits.ofBytes sensorUnits1 baseUnit modifierUnit =
      pure (Storage.SensorUnits.ofBytes sensorUnits1 baseUnit modifierUnit) := by
  have below : ∀ units : UInt8, ((units >>> 3) &&& 0b111).toNat < 8 ∧ ((units >>> 1) &&& 0b11).toNat < 4 := by
    apply forall_of_table
    decide +kernel
  rw [SensorUnits.ofBytes, covered_eq (below sensorUnits1).1, covered_eq (below sensorUnits1).2]
  rfl

theorem GlobalInitialization.ofBits_eq (psnAndGi : UInt8) :
    GlobalInitialization.ofBits (psnAndGi &&& 0b00000011) = pure (match (psnAndGi &&& 0b00000011).toNat with
      | 0b00 => .enableEventMessageGeneration
      | 0b01 => .disableEventMessageGeneration
      | 0b10 => .doNotInitialize
      | _ => .reserved) := by
  have below : ∀ value : UInt8, (value &&& 0b00000011).toNat < 4 := by
    apply forall_of_table
    decide +kernel
  have small := below psnAndGi
  unfold GlobalInitialization.ofBits
  generalize (psnAndGi &&& 0b00000011).toNat = code at small
  match code, small with
  | 0, _ => rfl
  | 1, _ => rfl
  | 2, _ => rfl
  | 3, _ => rfl

theorem SensorKey.parse_eq (recordData : List UInt8) :
    SensorKey.parse recordData = total (Storage.SensorKey.parse recordData) := by
  unfold SensorKey.parse
  match recordData with
  | [owner, channelLun, number] =>
    rw [if_neg (not_not.mpr (show [owner, channelLun, number].length = 3 from rfl))]
    simp only [index_zero, index_succ, pure_bind]
    unfold Storage.SensorKey.parse nonMax
    dsimp only
    cases Channel.new ((channelLun &&& 0xF0) >>> 4) with
    | none => rfl
    | some ownerChannel =>
      by_cases numbered : number ≠ 0xFF
      · simp only [dif_pos numbered]
        rfl
      · simp only [dif_neg numbered]
        rfl
  | [] => rfl
  | [_] => rfl
  | [_, _] => rfl
  | _ :: _ :: _ :: _ :: rest =>
    refine if_pos ?_
    simp only [List.length_cons]
    omega

/-- The string is cut out of what there is. -/
theorem SensorId.parse_eq (value : UInt8) (data : List UInt8) :
    SensorId.parse value data = total (Storage.SensorId.parse value data) := by
  have below : ∀ value : UInt8, (value >>> 6).toNat < 4 := by
    apply forall_of_table
    decide +kernel
  unfold SensorId.parse Storage.SensorId.parse
  dsimp only
  rw [masked_top]
  by_cases short : data.length < (value &&& 0x1F).toNat
  · rw [if_pos short, if_pos short]
    rfl
  · rw [if_neg short, if_neg short, slice_eq (Nat.zero_le _) (Nat.not_lt.mp short), pure_bind, List.drop_zero]
    have code := below value
    generalize (value >>> 6).toNat = typeCode at code
    match typeCode, code with
    | 0, _ =>
      cases String.fromUTF8? ⟨(data.take (value &&& 0x1F).toNat).toArray⟩ <;> rfl
    | 1, _ => rfl
    | 2, _ => rfl
    | 3, _ => rfl

/-- The common data is read in range. -/
theorem SensorRecordCommon.parseWithoutId_eq (recordData : List UInt8) :
    SensorRecordCommon.parseWithoutId recordData = total (Storage.SensorRecordCommon.parseWithoutId recordData) := by
  unfold SensorRecordCommon.parseWithoutId Storage.SensorRecordCommon.parseWithoutId
  by_cases short : recordData.length < 18
  · rw [if_pos short, if_pos short]
    rfl
  · rw [if_neg short, if_neg short]
    have long := Nat.not_lt.mp short
    simp (disch := omega) only [wordAt, index_eq, slice_eq, pure_bind, EntityInstance.ofByte_eq,
      SensorCapabilities.new_eq, SensorUnits.ofBytes_eq, SensorKey.parse_eq, List.drop_zero, List.take_length]
    cases Storage.SensorKey.parse (recordData.take 3) with
    | error => rfl
    | ok key => rfl

/-- The common data fails with the key, or has it; what follows is all that is left of the body. -/
theorem parseWithoutId_cases (long : 18 ≤ recordData.length) :
    (∃ error, Storage.SensorKey.parse (recordData.take 3) = .error error ∧
      Storage.SensorRecordCommon.parseWithoutId recordData = .error error) ∨
    ∃ common : SensorRecordCommon, Storage.SensorKey.parse (recordData.take 3) = .ok common.key ∧
      Storage.SensorRecordCommon.parseWithoutId recordData = .ok (common, recordData.drop 18) := by
  unfold Storage.SensorRecordCommon.parseWithoutId
  rw [if_neg (Nat.not_lt.mpr long)]
  cases Storage.SensorKey.parse (recordData.take 3) with
  | error error => exact .inl ⟨error, rfl, rfl⟩
  | ok key => exact .inr ⟨_, rfl, rfl⟩

theorem FullSensorRecord.parse_eq (recordData : List UInt8) :
    FullSensorRecord.parse recordData = total (Storage.FullSensorRecord.parse recordData) := by
  unfold FullSensorRecord.parse Storage.FullSensorRecord.parse
  by_cases short : recordData.length < 43
  · rw [if_pos short, if_pos short]
    rfl
  · rw [if_neg short, if_neg short]
    have long := Nat.not_lt.mp short
    have below : ∀ units : UInt8, ((units >>> 6) &&& 0x03).toNat < 4 := by
      apply forall_of_table
      decide +kernel
    rw [index_eq (show 15 < recordData.length by omega), pure_bind, covered_eq (below _), pure_bind,
      SensorRecordCommon.parseWithoutId_eq]
    rcases parseWithoutId_cases (show 18 ≤ recordData.length by omega) with ⟨error, -, parsed⟩ | ⟨common, -, parsed⟩
    · rw [parsed]
      rfl
    · rw [parsed]
      have left : ¬(recordData.drop 18).length < 25 := by
        rw [List.length_drop]
        omega
      generalize recordData.drop 18 = data at left
      change _ = total (if data.length < 25 then _ else _)
      rw [if_neg left, total_ok, pure_bind]
      simp (disch := omega) only [if_neg left, pure_bind, index_eq, slice_eq, List.take_length,
        SensorId.parse_eq]
      cases Direction.ofBits (data[5]! &&& 0b11) with
      | error => rfl
      | ok direction =>
        cases Storage.SensorId.parse data[24]! (data.drop 25) with
        | error => rfl
        | ok sensorId => rfl

theorem FruDeviceLocator.parse_eq (recordData : List UInt8) :
    FruDeviceLocator.parse recordData = total (Storage.FruDeviceLocator.parse recordData) := by
  unfold FruDeviceLocator.parse Storage.FruDeviceLocator.parse
  by_cases short : recordData.length < 11
  · rw [if_pos short, if_pos short]
    rfl
  · rw [if_neg short, if_neg short]
    have long := Nat.not_lt.mp short
    simp (disch := omega) only [index_eq, slice_eq, pure_bind, List.take_length, SensorId.parse_eq]
    cases Storage.SensorId.parse recordData[10]! (recordData.drop 11) with
    | error => rfl
    | ok idString => rfl

theorem McDeviceLocatorRecord.parse_eq (recordData : List UInt8) :
    McDeviceLocatorRecord.parse recordData = total (Storage.McDeviceLocatorRecord.parse recordData) := by
  unfold McDeviceLocatorRecord.parse Storage.McDeviceLocatorRecord.parse
  by_cases short : recordData.length < 11
  · rw [if_pos short, if_pos short]
    rfl
  · rw [if_neg short, if_neg short]
    have long := Nat.not_lt.mp short
    simp (disch := omega) only [index_eq, slice_eq, pure_bind, List.take_length, SensorId.parse_eq,
      GlobalInitialization.ofBits_eq]
    cases Storage.SensorId.parse recordData[10]! (recordData.drop 11) with
    | error => rfl
    | ok idString => rfl

/-- The contents of a record, as a repository keeps them. -/
def RecordContents.kept : RecordContents → Storage.RecordContents
  | .fullSensor full => .fullSensor full.common.key full.direction full.common.sensorId
  | .compactSensor compact =>
    .compactSensor compact.common.key compact.direction compact.recordSharing.idStringModifier compact.common.sensorId
  | .eventOnlySensor event =>
    .eventOnlySensor event.key event.direction event.recordSharing.idStringModifier event.idString
  | .genericDeviceLocator generic => .genericDeviceLocator generic.idString
  | .fruDeviceLocator fru => .fruDeviceLocator fru.idString
  | .mcDeviceLocator mc => .mcDeviceLocator mc.idString
  | .unknown ty data => .unknown ty data

theorem CompactSensorRecord.parse_kept (recordData : List UInt8) :
    (fun record => RecordContents.kept (.compactSensor record)) <$> CompactSensorRecord.parse recordData =
      total (Storage.RecordContents.parseCompactSensor recordData) := by
  unfold CompactSensorRecord.parse
  by_cases short : recordData.length < 27
  · unfold Storage.RecordContents.parseCompactSensor
    rw [if_pos short, if_pos short]
    rfl
  · rw [if_neg short, SensorRecordCommon.parseWithoutId_eq]
    have long := Nat.not_lt.mp short
    unfold Storage.RecordContents.parseCompactSensor
    rw [if_neg short]
    rcases parseWithoutId_cases (show 18 ≤ recordData.length by omega) with
      ⟨error, key, parsed⟩ | ⟨common, key, parsed⟩
    · rw [parsed, key]
      rfl
    · rw [parsed, key, total_ok, pure_bind]
      have left : 9 ≤ (recordData.drop 18).length := by
        rw [List.length_drop]
        omega
      simp (disch := omega) only [index_eq, slice_eq, pure_bind, List.take_length, SensorId.parse_eq, directionSharing,
        getElem!_drop, List.drop_drop, Nat.reduceAdd, Nat.add_zero]
      cases Direction.ofBits ((recordData[18]! &&& 0xC0) >>> 6) with
      | error => rfl
      | ok direction =>
        cases IdStringModifier.ofBits ((recordData[18]! &&& 0x30) >>> 4) with
        | error => rfl
        | ok modifier =>
          cases Storage.SensorId.parse recordData[26]! (recordData.drop 27) with
          | error => rfl
          | ok idString => rfl

theorem EventOnlySensorRecord.parse_kept (recordData : List UInt8) :
    (fun record => RecordContents.kept (.eventOnlySensor record)) <$> EventOnlySensorRecord.parse recordData =
      total (Storage.RecordContents.parseEventOnlySensor recordData) := by
  unfold EventOnlySensorRecord.parse Storage.RecordContents.parseEventOnlySensor
  by_cases short : recordData.length < 12
  · rw [if_pos short, if_pos short]
    rfl
  · rw [if_neg short, if_neg short]
    have long := Nat.not_lt.mp short
    simp (disch := omega) only [index_eq, slice_eq, pure_bind, List.take_length, List.drop_zero, SensorId.parse_eq,
      SensorKey.parse_eq, EntityInstance.ofByte_eq, directionSharing]
    cases Storage.SensorKey.parse (recordData.take 3) with
    | error => rfl
    | ok key =>
      cases Direction.ofBits ((recordData[7]! &&& 0xC0) >>> 6) with
      | error => rfl
      | ok direction =>
        cases IdStringModifier.ofBits ((recordData[7]! &&& 0x30) >>> 4) with
        | error => rfl
        | ok modifier =>
          cases Storage.SensorId.parse recordData[11]! (recordData.drop 12) with
          | error => rfl
          | ok idString => rfl

theorem GenericDeviceLocator.parse_kept (recordData : List UInt8) :
    (fun record => RecordContents.kept (.genericDeviceLocator record)) <$> GenericDeviceLocator.parse recordData =
      total (Storage.RecordContents.parseLocator .genericDeviceLocator recordData) := by
  unfold GenericDeviceLocator.parse Storage.RecordContents.parseLocator
  by_cases short : recordData.length < 11
  · rw [if_pos short, if_pos short]
    rfl
  · rw [if_neg short, if_neg short]
    have long := Nat.not_lt.mp short
    simp (disch := omega) only [index_eq, slice_eq, pure_bind, List.take_length, SensorId.parse_eq]
    cases Storage.SensorId.parse recordData[10]! (recordData.drop 11) with
    | error => rfl
    | ok idString => rfl

/-- The typed parsers come to the contents that a repository keeps. -/
theorem RecordContents.parse_kept (recordType : UInt8) (recordData : List UInt8) :
    RecordContents.kept <$> RecordContents.parse recordType recordData =
      total (Storage.RecordContents.parse recordType recordData) := by
  unfold RecordContents.parse
  by_cases full : recordType = 0x01
  · subst full
    rw [if_pos rfl, FullSensorRecord.parse_eq, map_total, map_total]
    change _ = total (Storage.RecordContents.parseFullSensor recordData)
    rw [parseFullSensor_eq]
    cases Storage.FullSensorRecord.parse recordData <;> rfl
  rw [if_neg full]
  by_cases compact : recordType = 0x02
  · subst compact
    rw [if_pos rfl, ← comp_map]
    exact CompactSensorRecord.parse_kept recordData
  rw [if_neg compact]
  by_cases event : recordType = 0x03
  · subst event
    rw [if_pos rfl, ← comp_map]
    exact EventOnlySensorRecord.parse_kept recordData
  rw [if_neg event]
  by_cases generic : recordType = 0x10
  · subst generic
    rw [if_pos rfl, ← comp_map]
    exact GenericDeviceLocator.parse_kept recordData
  rw [if_neg generic]
  by_cases fru : recordType = 0x11
  · subst fru
    rw [if_pos rfl, FruDeviceLocator.parse_eq, map_total, map_total]
    change _ = total (Storage.RecordContents.parseLocator .fruDeviceLocator recordData)
    rw [← LocatorContents.parse_fruDeviceLocator]
    cases Storage.FruDeviceLocator.parse recordData <;> rfl
  rw [if_neg fru]
  by_cases mc : recordType = 0x12
  · subst mc
    rw [if_pos rfl, McDeviceLocatorRecord.parse_eq, map_total, map_total]
    change _ = total (Storage.RecordContents.parseLocator .mcDeviceLocator recordData)
    rw [← LocatorContents.parse_mcDeviceLocator]
    cases Storage.McDeviceLocatorRecord.parse recordData <;> rfl
  rw [if_neg mc]
  have other : Storage.RecordContents.parse recordType recordData = .ok (.unknown recordType recordData) := by
    have number : ∀ code : UInt8, recordType ≠ code → recordType.toNat ≠ code.toNat :=
      fun code other same => other (UInt8.toNat_inj.mp same)
    unfold Storage.RecordContents.parse
    split
    · exact absurd ‹_› (number 0x01 full)
    · exact absurd ‹_› (number 0x02 compact)
    · exact absurd ‹_› (number 0x03 event)
    · exact absurd ‹_› (number 0x10 generic)
    · exact absurd ‹_› (number 0x11 fru)
    · exact absurd ‹_› (number 0x12 mc)
    · rfl
  rw [other]
  rfl

def Record.kept (record : Record) : Storage.Record := ⟨record.header, record.contents.kept⟩

/-- A record is parsed as a repository keeps it. -/
theorem Record.parse_kept (data : List UInt8) : Record.kept <$> Record.parse data = total (Storage.Record.parse data) := by
  unfold Record.parse
  match data with
  | low :: high :: version :: recordType :: length :: recordData =>
    have long : 5 ≤ (low :: high :: version :: recordType :: length :: recordData).length := by
      simp only [List.length_cons]
      omega
    rw [if_neg (Nat.not_lt.mpr long), slice_eq long (Nat.le_refl _), List.take_length]
    simp only [index_zero, index_succ, pure_bind, List.drop_succ_cons, List.drop_zero]
    unfold Storage.Record.parse
    dsimp only
    by_cases same : recordData.length ≠ length.toNat
    · rw [if_pos same, if_pos same]
      rfl
    · rw [if_neg same, if_neg same]
      obtain ⟨parsed, total_, kept⟩ := of_map_eq_total (RecordContents.parse_kept recordType recordData)
      rw [total_, ← kept]
      cases parsed <;> rfl
  | [] => rfl
  | [_] => rfl
  | [_, _] => rfl
  | [_, _, _] => rfl
  | [_, _, _, _] => rfl

/-! ### ID strings -/

/-- What the bytes of an ID string are decoded to, by the two high bits of the type and length byte. -/
inductive Decodes (typeLength : UInt8) (bytes : List UInt8) : SensorId → Prop
  | unicode {text : String} (typed : typeLength >>> 6 = 0b00) (same : text.toByteArray = ⟨bytes.toArray⟩) :
      Decodes typeLength bytes (.unicode text)
  | bcdPlus (typed : typeLength >>> 6 = 0b01) : Decodes typeLength bytes (.bcdPlus bytes)
  | ascii6BPacked (typed : typeLength >>> 6 = 0b10) : Decodes typeLength bytes (.ascii6BPacked bytes)
  | ascii8BAndLatin1 {text : String} (typed : typeLength >>> 6 = 0b11)
      (same : text.toList.map Char.toNat = bytes.map UInt8.toNat) : Decodes typeLength bytes (.ascii8BAndLatin1 text)

/-- The bytes at a place declare an ID string, which lies within them. -/
structure IdAt (data : List UInt8) (place : Nat) (id : SensorId) : Prop where
  declared : ∃ typeLength, data[place]? = some typeLength ∧
    place + 1 + (typeLength &&& 0x1F).toNat ≤ data.length ∧
    Decodes typeLength ((data.drop (place + 1)).take (typeLength &&& 0x1F).toNat) id

/-- Where the type and length byte of a record is. -/
def idPlace (recordType : UInt8) : Option Nat :=
  if recordType = 0x01 then some (5 + 42)
  else if recordType = 0x02 then some (5 + 26)
  else if recordType = 0x03 then some (5 + 11)
  else if recordType = 0x10 ∨ recordType = 0x11 ∨ recordType = 0x12 then some (5 + 10)
  else none

theorem toByteArray_of_fromUTF8? {bytes : ByteArray} {text : String} (decoded : String.fromUTF8? bytes = some text) :
    text.toByteArray = bytes := by
  unfold String.fromUTF8? at decoded
  split at decoded
  · cases decoded
    rfl
  · cases decoded

/-- What is parsed is what the bytes that are declared decode to. -/
theorem decodes_of_parse {typeLength : UInt8} {rest : List UInt8} {id : SensorId}
    (parsed : Storage.SensorId.parse typeLength rest = .ok id) :
    (typeLength &&& 0x1F).toNat ≤ rest.length ∧ Decodes typeLength (rest.take (typeLength &&& 0x1F).toNat) id := by
  have code : ∀ byte : UInt8, (byte >>> 6).toNat < 4 := by
    apply forall_of_table
    decide +kernel
  have latin : ∀ byte : UInt8, (Char.ofNat byte.toNat).toNat = byte.toNat := by
    apply forall_of_table
    decide +kernel
  unfold Storage.SensorId.parse at parsed
  dsimp only at parsed
  split at parsed
  · cases parsed
  rename_i long
  refine ⟨Nat.not_lt.mp long, ?_⟩
  generalize rest.take (typeLength &&& 0x1F).toNat = bytes at parsed
  split at parsed
  · rename_i typed
    split at parsed
    · rename_i text decoded
      cases parsed
      exact .unicode (UInt8.toNat_inj.mp typed) (toByteArray_of_fromUTF8? decoded)
    · cases parsed
  · rename_i typed
    cases parsed
    exact .bcdPlus (UInt8.toNat_inj.mp typed)
  · rename_i typed
    cases parsed
    exact .ascii6BPacked (UInt8.toNat_inj.mp typed)
  · rename_i unicode bcd packed
    cases parsed
    refine .ascii8BAndLatin1 (UInt8.toNat_inj.mp ?_) ?_
    · have small := code typeLength
      generalize (typeLength >>> 6).toNat = typeCode at small unicode bcd packed
      match typeCode, small with
      | 0, _ => exact absurd rfl unicode
      | 1, _ => exact absurd rfl bcd
      | 2, _ => exact absurd rfl packed
      | 3, _ => rfl
    · rw [String.toList_ofList, List.map_map]
      refine List.map_congr_left fun byte _ => ?_
      exact latin byte

/-- The ID string of a record, as a repository keeps it. -/
def keptId : Storage.RecordContents → Option SensorId
  | .fullSensor _ _ idString => some idString
  | .compactSensor _ _ _ idString => some idString
  | .eventOnlySensor _ _ _ idString => some idString
  | .genericDeviceLocator idString => some idString
  | .fruDeviceLocator idString => some idString
  | .mcDeviceLocator idString => some idString
  | .unknown _ _ => none

theorem keptId_kept (contents : RecordContents) : keptId contents.kept = contents.id := by
  cases contents <;> rfl

/-- An ID string is at a place of the bytes. -/
def IdIn (recordData : List UInt8) (place : Nat) (contents : Storage.RecordContents) : Prop :=
  ∃ id, keptId contents = some id ∧ place < recordData.length ∧
    Storage.SensorId.parse recordData[place]! (recordData.drop (place + 1)) = .ok id

section kept
variable {contents : Storage.RecordContents}

theorem idIn_fullSensor (parsed : Storage.RecordContents.parseFullSensor recordData = .ok contents) :
    IdIn recordData 42 contents := by
  unfold Storage.RecordContents.parseFullSensor at parsed
  by_cases short : recordData.length < 43
  · rw [if_pos short] at parsed
    cases parsed
  · rw [if_neg short] at parsed
    obtain ⟨key, -, parsed⟩ := of_bind_eq_ok parsed
    obtain ⟨direction, -, parsed⟩ := of_bind_eq_ok parsed
    obtain ⟨id, read, parsed⟩ := of_bind_eq_ok parsed
    cases parsed
    exact ⟨id, rfl, by omega, read⟩

theorem idIn_compactSensor (parsed : Storage.RecordContents.parseCompactSensor recordData = .ok contents) :
    IdIn recordData 26 contents := by
  unfold Storage.RecordContents.parseCompactSensor at parsed
  by_cases short : recordData.length < 27
  · rw [if_pos short] at parsed
    cases parsed
  · rw [if_neg short] at parsed
    obtain ⟨key, -, parsed⟩ := of_bind_eq_ok parsed
    obtain ⟨direction, -, parsed⟩ := of_bind_eq_ok parsed
    obtain ⟨modifier, -, parsed⟩ := of_bind_eq_ok parsed
    obtain ⟨id, read, parsed⟩ := of_bind_eq_ok parsed
    cases parsed
    exact ⟨id, rfl, by omega, read⟩

theorem idIn_eventOnlySensor (parsed : Storage.RecordContents.parseEventOnlySensor recordData = .ok contents) :
    IdIn recordData 11 contents := by
  unfold Storage.RecordContents.parseEventOnlySensor at parsed
  by_cases short : recordData.length < 12
  · rw [if_pos short] at parsed
    cases parsed
  · rw [if_neg short] at parsed
    obtain ⟨key, -, parsed⟩ := of_bind_eq_ok parsed
    obtain ⟨direction, -, parsed⟩ := of_bind_eq_ok parsed
    obtain ⟨modifier, -, parsed⟩ := of_bind_eq_ok parsed
    obtain ⟨id, read, parsed⟩ := of_bind_eq_ok parsed
    cases parsed
    exact ⟨id, rfl, by omega, read⟩

theorem idIn_locator {locator : SensorId → Storage.RecordContents} (named : ∀ id, keptId (locator id) = some id)
    (parsed : Storage.RecordContents.parseLocator locator recordData = .ok contents) :
    IdIn recordData 10 contents := by
  unfold Storage.RecordContents.parseLocator at parsed
  by_cases short : recordData.length < 11
  · rw [if_pos short] at parsed
    cases parsed
  · rw [if_neg short] at parsed
    obtain ⟨id, read, parsed⟩ := of_bind_eq_ok parsed
    cases parsed
    exact ⟨id, named id, by omega, read⟩

/-- Contents have an ID string at the place of their type, or are kept as they are. -/
theorem located_of_parse {recordType : UInt8} (parsed : Storage.RecordContents.parse recordType recordData = .ok contents) :
    (idPlace recordType = none ∧ contents = .unknown recordType recordData) ∨
      ∃ place, idPlace recordType = some (5 + place) ∧ IdIn recordData place contents := by
  have code : ∀ {code : UInt8}, recordType.toNat = code.toNat → recordType = code := UInt8.toNat_inj.mp
  unfold Storage.RecordContents.parse at parsed
  split at parsed
  · rename_i full
    obtain rfl : recordType = 0x01 := code full
    exact .inr ⟨42, rfl, idIn_fullSensor parsed⟩
  · rename_i compact
    obtain rfl : recordType = 0x02 := code compact
    exact .inr ⟨26, rfl, idIn_compactSensor parsed⟩
  · rename_i event
    obtain rfl : recordType = 0x03 := code event
    exact .inr ⟨11, rfl, idIn_eventOnlySensor parsed⟩
  · rename_i generic
    obtain rfl : recordType = 0x10 := code generic
    exact .inr ⟨10, rfl, idIn_locator (fun _ => rfl) parsed⟩
  · rename_i fru
    obtain rfl : recordType = 0x11 := code fru
    exact .inr ⟨10, rfl, idIn_locator (fun _ => rfl) parsed⟩
  · rename_i mc
    obtain rfl : recordType = 0x12 := code mc
    exact .inr ⟨10, rfl, idIn_locator (fun _ => rfl) parsed⟩
  · rename_i full compact event generic fru mc
    have number : ∀ code : UInt8, (recordType.toNat = code.toNat → False) → recordType ≠ code :=
      fun code other same => other (congrArg UInt8.toNat same)
    refine .inl ⟨?_, (Except.ok.inj parsed).symm⟩
    rw [idPlace, if_neg (number 0x01 full), if_neg (number 0x02 compact), if_neg (number 0x03 event), if_neg]
    rintro (same | same | same)
    · exact number 0x10 generic same
    · exact number 0x11 fru same
    · exact number 0x12 mc same

end kept

theorem IdIn.idAt {place : Nat} {contents : RecordContents} (inside : IdIn recordData place contents.kept)
    {header : List UInt8} (five : header.length = 5) :
    ∃ id, contents.id = some id ∧ IdAt (header ++ recordData) (5 + place) id := by
  obtain ⟨id, named, within, parsed⟩ := inside
  obtain ⟨fits, decodes⟩ := decodes_of_parse parsed
  rw [keptId_kept] at named
  refine ⟨id, named, recordData[place]!, ?_, ?_, ?_⟩
  · rw [List.getElem?_append_right (by omega), five, Nat.add_sub_cancel_left, List.getElem?_eq_getElem within,
      getElem!_pos recordData place within]
  · rw [List.length_drop] at fits
    rw [List.length_append, five]
    omega
  · have rest : (header ++ recordData).drop (5 + place + 1) = recordData.drop (place + 1) := by
      rw [Nat.add_assoc, ← five, ← List.drop_drop, List.drop_append_length]
    rw [rest]
    exact decodes

theorem kept_eq_unknown {contents : RecordContents} {ty : UInt8} {data : List UInt8}
    (unknown : contents.kept = .unknown ty data) : contents = .unknown ty data := by
  cases contents <;> cases unknown
  rfl

/-- Records are parsed within their bytes: a parser never panics, it only accepts a body of the length that the header
declares, and the ID string is what the bytes that its type and length byte declares decode to, inside the record. -/
theorem records_parsed_within (data : List UInt8) :
    ∃ result, Record.parse data = total result ∧ result.map Record.kept = Storage.Record.parse data ∧
      ∀ record, result = .ok record →
        ∃ recordType length, data[3]? = some recordType ∧ data[4]? = some length ∧
          (data.drop 5).length = length.toNat ∧
          ((idPlace recordType = none ∧ record.contents = .unknown recordType (data.drop 5)) ∨
            ∃ place id, idPlace recordType = some place ∧ record.contents.id = some id ∧ IdAt data place id) := by
  obtain ⟨result, parsed, kept⟩ := of_map_eq_total (Record.parse_kept data)
  refine ⟨result, parsed, kept, ?_⟩
  rintro record rfl
  match data with
  | low :: high :: version :: recordType :: length :: recordData =>
    refine ⟨recordType, length, rfl, rfl, ?_⟩
    change Except.ok record.kept = _ at kept
    unfold Storage.Record.parse at kept
    dsimp only at kept
    by_cases same : recordData.length ≠ length.toNat
    · rw [if_pos same] at kept
      cases kept
    rw [if_neg same] at kept
    refine ⟨not_not.mp same, ?_⟩
    cases body : Storage.RecordContents.parse recordType recordData with
    | error error =>
      rw [body] at kept
      cases kept
    | ok contents =>
      rw [body] at kept
      have both : record.contents.kept = contents := congrArg Storage.Record.contents (Except.ok.inj kept)
      subst both
      rcases located_of_parse body with ⟨none, unknown⟩ | ⟨place, known, inside⟩
      · exact .inl ⟨none, kept_eq_unknown unknown⟩
      · have five : [low, high, version, recordType, length].length = 5 := rfl
        obtain ⟨id, named, idAt⟩ := inside.idAt five
        exact .inr ⟨5 + place, id, known, named, idAt⟩
  | [] => cases kept
  | [_] => cases kept
  | [_, _] => cases kept
  | [_, _, _] => cases kept
  | [_, _, _, _] => cases kept

end IpmiRs.Storage.Typed
