import IpmiRs.Storage.Fru
import Mathlib.Data.List.ReduceOption

/-! What a parsed inventory says about its image. Each part of it is written
out again from its decoded fields alone, and these bytes are the ones the image
has: no field or record is dropped, and no byte is read as part of two areas. -/
namespace IpmiRs.Storage
open Library Library.Checked

/-! ### Writing an inventory out again -/

/-- `length` bytes of an image. -/
def part (image : List UInt8) (start length : Nat) : List UInt8 := (image.drop start).take length

def FieldEncoding.code : FieldEncoding → Nat
  | .binary => 0
  | .bcdPlus => 1
  | .sixBitAscii => 2
  | .eightBitAscii => 3

/-- A field behind its type/length descriptor. -/
def FruField.serialise (f : FruField) : List UInt8 :=
  UInt8.ofNat (f.encoding.code * 64 + f.raw.length) :: f.raw

/-- Bytes followed by their checksum. -/
def sealBytes (bytes : List UInt8) : List UInt8 := bytes ++ [-Checksum.total bytes]

/-- An information area of `units` times eight bytes: what precedes the fields,
the fields, their terminator and zeros. -/
def serialiseArea (units : UInt8) (fixed : List UInt8) (fields : List FruField) : List UInt8 :=
  let body := 1 :: units :: fixed ++ fields.flatMap FruField.serialise ++ [0xc1]
  sealBytes (body ++ .replicate (units.toNat * 8 - 1 - body.length) 0)

def ChassisInfo.serialise (info : ChassisInfo) (units : UInt8) : List UInt8 :=
  serialiseArea units [info.chassisType] (info.partNumber :: info.serialNumber :: info.extra)

def BoardInfo.serialise (info : BoardInfo) (units : UInt8) : List UInt8 :=
  let minutes := info.manufacturingMinutes
  serialiseArea units
    [info.language, minutes.toUInt8, (minutes >>> 8).toUInt8, (minutes >>> 16).toUInt8]
    (info.manufacturer :: info.productName :: info.serialNumber :: info.partNumber :: info.fileId ::
      info.extra)

def ProductInfo.serialise (info : ProductInfo) (units : UInt8) : List UInt8 :=
  serialiseArea units [info.language]
    (info.manufacturer :: info.productName :: info.partNumber :: info.version ::
      info.serialNumber :: info.assetTag :: info.fileId :: info.extra)

def MultiRecord.serialise (record : MultiRecord) : List UInt8 :=
  sealBytes [record.recordType, record.formatVersion ||| (if record.endOfList then 0x80 else 0),
    UInt8.ofNat record.raw.length, -Checksum.total record.raw] ++ record.raw

/-! ### Fields -/

theorem take_extend {α : Type} (xs : List α) {low high : Nat} (ordered : low ≤ high) :
    xs.take high = xs.take low ++ (xs.take high).drop low := by
  have both := List.take_append_drop low (xs.take high)
  rw [List.take_take, Nat.min_eq_left ordered] at both
  exact both.symm

theorem bcdPlusText_yields (raw : List UInt8) : Yields (fun _ => True) (bcdPlusText raw) := by
  have nibble {value : UInt8} (small : value.toNat < 16) :
      Yields (fun _ => True) (index BCD value.toNat : Parsing Char) :=
    (yields_index small).mono fun _ _ => trivial
  induction raw with
  | nil => exact .pure trivial
  | cons byte rest ih =>
    refine .bind (nibble ?_) fun high _ => ?_
    · rw [UInt8.toNat_shiftRight]
      have := byte.toNat_lt
      simp only [UInt8.reduceToNat, Nat.shiftRight_eq_div_pow, Nat.reduceMod, Nat.reducePow]
      omega
    refine .bind (nibble ?_) fun low _ => ?_
    · rw [UInt8.toNat_and]
      exact Nat.and_lt_two_pow (n := 4) _ (by decide)
    exact .bind ih fun text _ => .pure trivial

/-- A field keeps the two parts of its descriptor, and its bytes. -/
theorem FruField.decode_yields (descriptor : UInt8) (raw : List UInt8) (language : Option UInt8) :
    Yields (fun f : FruField => f.encoding.code = descriptor.toNat / 64 ∧ f.raw = raw)
      (FruField.decode descriptor raw language) := by
  have kind : (descriptor >>> 6).toNat = descriptor.toNat / 64 := by
    simp [UInt8.toNat_shiftRight, Nat.shiftRight_eq_div_pow]
  have small := descriptor.toNat_lt
  unfold FruField.decode
  rw [kind]
  split
  · rename_i zero
    exact .pure ⟨zero.symm, rfl⟩
  · rename_i one
    exact .bind (bcdPlusText_yields raw) fun text _ => .pure ⟨one.symm, rfl⟩
  · rename_i two
    exact .pure ⟨two.symm, rfl⟩
  · rename_i three
    split
    · split
      · exact .pure ⟨three.symm, rfl⟩
      · exact .throw _
    · exact .pure ⟨three.symm, rfl⟩
  · rename_i zero one two three
    have below : descriptor.toNat / 64 < 4 := by omega
    grind

theorem FruField.serialise_eq {f : FruField} {descriptor : UInt8}
    (encoding : f.encoding.code = descriptor.toNat / 64)
    (length : f.raw.length = (descriptor &&& 0x3f).toNat) : f.serialise = descriptor :: f.raw := by
  have low : (descriptor &&& 0x3f).toNat = descriptor.toNat % 64 := by
    rw [UInt8.toNat_and]
    exact Nat.and_two_pow_sub_one_eq_mod (n := 6) _
  have small := descriptor.toNat_lt
  unfold FruField.serialise
  congr 1
  apply UInt8.toNat_inj.mp
  rw [encoding, length, low, UInt8.toNat_ofNat']
  omega

/-- A field as it stands in an area: no terminator, and with as many bytes as its descriptor says. -/
structure RawField where
  descriptor : UInt8
  bytes : List UInt8
  length : bytes.length = (descriptor &&& 0x3f).toNat
  more : descriptor ≠ 0xc1

namespace RawField
variable {raw : RawField} {language : Option UInt8} {field : FruField}

/-- The bytes of the field, behind its descriptor. -/
def written (raw : RawField) : List UInt8 := raw.descriptor :: raw.bytes

/-- What the field is decoded to. -/
def DecodedAs (language : Option UInt8) (raw : RawField) (field : FruField) : Prop :=
  FruField.decode raw.descriptor raw.bytes language = pure field

theorem DecodedAs.kept (decoded : DecodedAs language raw field) :
    field.encoding.code = raw.descriptor.toNat / 64 ∧ field.raw = raw.bytes := by
  have kept := FruField.decode_yields raw.descriptor raw.bytes language
  rw [decoded] at kept
  exact kept

theorem DecodedAs.serialise (decoded : DecodedAs language raw field) : field.serialise = raw.written := by
  obtain ⟨encoding, same⟩ := decoded.kept
  rw [FruField.serialise_eq encoding (same ▸ raw.length), same, written]

theorem flatMap_serialise {raws : List RawField} {fields : List FruField}
    (decoded : List.Forall₂ (DecodedAs language) raws fields) :
    fields.flatMap FruField.serialise = raws.flatMap written := by
  induction decoded with
  | nil => rfl
  | cons first _ ih => rw [List.flatMap_cons, List.flatMap_cons, first.serialise, ih]

end RawField

/-- The loop reads fields up to a terminator, and passes over no byte. -/
theorem parseFieldsLoop_yields (area : List UInt8) {stop : Nat} (sealed : stop < area.length)
    (language : Option UInt8) (turns : Nat) {pos : Nat} (fields : List FruField)
    (begun : pos ≤ stop) (enough : stop < pos + turns) :
    Yields (fun r : List FruField × Nat => ∃ raws more, r.1 = fields ++ more ∧
        List.Forall₂ (RawField.DecodedAs language) raws more ∧ r.2 ≤ stop ∧
        area.take r.2 = area.take pos ++ raws.flatMap RawField.written ++ [0xc1])
      (parseFieldsLoop area stop language turns pos fields) := by
  induction turns generalizing pos fields with
  | zero => omega
  | succ turns ih =>
    refine .bind (yields_okOr _ _) fun descriptor found => ?_
    obtain ⟨found, inside⟩ := Option.filter_eq_some_iff.mp found
    have inside : pos < stop := by simpa using inside
    have first : area.take (pos + 1) = area.take pos ++ [descriptor] := by
      rw [List.take_add_one, found, Option.toList_some]
    simp only
    split
    · rename_i last
      subst last
      exact .pure ⟨[], [], by simp, .nil, by omega, by simpa using first⟩
    · rename_i goesOn
      refine .bind (yields_sub (by omega)) fun left counted => ?_
      subst counted
      split
      · exact .throw _
      rename_i fits
      refine .bind (yields_slice (by omega) (by omega)) fun bytes sliced => ?_
      have length : bytes.length = (descriptor &&& 0x3f).toNat := by
        rw [sliced, List.length_drop, List.length_take]
        omega
      refine .bind (FruField.decode_yields descriptor bytes language).self fun field decoded => ?_
      have written : area.take (pos + 1 + (descriptor &&& 0x3f).toNat) =
          area.take pos ++ RawField.written ⟨descriptor, bytes, length, goesOn⟩ := by
        rw [take_extend area (Nat.le_add_right (pos + 1) _), first, ← sliced, List.append_assoc]
        rfl
      refine (ih (fields ++ [field]) (by omega) (by omega)).mono fun r holds => ?_
      obtain ⟨raws, more, result, all, within, rest⟩ := holds
      exact ⟨⟨descriptor, bytes, length, goesOn⟩ :: raws, field :: more, by simp [result], .cons decoded.1 all, within,
        by rw [rest, written]; simp⟩

/-- The fields of an area as they stand in it, before their terminator, zeros and the last byte. -/
def FieldsAt (area : List UInt8) (start : Nat) (raws : List RawField) : Prop :=
  ∃ padding last, area = area.take start ++ raws.flatMap RawField.written ++ [0xc1] ++
    List.replicate padding 0 ++ [last]

theorem parseFields_reads (area : List UInt8) {start : Nat} (minFields : Nat)
    (language : Option UInt8) (begun : start < area.length) :
    Yields (fun fields => minFields ≤ fields.length ∧ ∃ raws, FieldsAt area start raws ∧
        List.Forall₂ (RawField.DecodedAs language) raws fields)
      (parseFields area start minFields language) := by
  unfold parseFields
  refine .bind (yields_sub (by omega)) fun stop counted => ?_
  have sealed : stop < area.length := by omega
  refine .bind (parseFieldsLoop_yields area sealed language (area.length + 1) [] (by omega)
    (by omega)) fun r holds => ?_
  obtain ⟨fields, pos⟩ := r
  obtain ⟨raws, more, result, decoded, within, written⟩ := holds
  simp only [List.nil_append] at result within written
  subst result
  refine .bind (yields_slice within (Nat.le_of_lt sealed)) fun padding sliced => ?_
  split
  · exact .throw _
  rename_i kept
  simp only [List.any_eq_true, ne_eq, decide_eq_true_eq, not_or, not_exists, not_and,
    not_not, Nat.not_lt] at kept
  obtain ⟨many, zeros⟩ := kept
  refine .pure ⟨many, raws, ⟨padding.length, area.getLast (List.ne_nil_of_length_pos (by omega)), ?_⟩, decoded⟩
  have padded : padding = List.replicate padding.length 0 :=
    List.eq_replicate_iff.mpr ⟨rfl, zeros⟩
  have last : area = area.take stop ++ [area.getLast (List.ne_nil_of_length_pos (by omega))] := by
    have dropped := List.dropLast_append_getLast (List.ne_nil_of_length_pos (by omega : 0 < area.length))
    rw [List.dropLast_eq_take, ← counted] at dropped
    exact dropped.symm
  rw [← padded, sliced, ← written, ← take_extend area within]
  exact last

/-- What the fields of an area are written out to. -/
def Fields (area : List UInt8) (start : Nat) (fields : List FruField) : Prop :=
  ∃ padding last, area = area.take start ++ fields.flatMap FruField.serialise ++ [0xc1] ++
    List.replicate padding 0 ++ [last]

theorem FieldsAt.fields {area : List UInt8} {start : Nat} {raws : List RawField} {language : Option UInt8}
    {fields : List FruField} (stand : FieldsAt area start raws)
    (decoded : List.Forall₂ (RawField.DecodedAs language) raws fields) : Fields area start fields := by
  unfold Fields
  rw [RawField.flatMap_serialise decoded]
  exact stand

/-! ### Information areas -/

theorem range_eq_part {xs ys : List UInt8} {start length : Nat}
    (found : range xs start (start + length) = some ys) :
    start + length ≤ xs.length ∧ ys = part xs start length := by
  obtain ⟨-, inside, same⟩ := range_eq_some found
  rw [List.drop_take, Nat.add_sub_cancel_left] at same
  exact ⟨inside, same⟩

theorem part_length {xs : List UInt8} {start length : Nat} (inside : start + length ≤ xs.length) :
    (part xs start length).length = length := by
  rw [part, List.length_take, List.length_drop]
  omega

theorem part_getElem? (xs : List UInt8) {start length i : Nat} (below : i < length) :
    (part xs start length)[i]? = xs[start + i]? := by
  rw [part, List.getElem?_take_of_lt below, List.getElem?_drop]

theorem checkSum_yields (bytes : List UInt8) :
    Yields (fun _ => Checksum.total bytes = 0) (checkSum bytes) := by
  unfold checkSum
  split
  · rename_i zero
    exact .pure zero
  · exact .throw _

/-- What a decoded information area occupies, `units` times eight bytes. -/
structure AreaAt (image : List UInt8) (start limit : Nat) (units : UInt8)
    (bytes : List UInt8) : Prop where
  inside : start + units.toNat * 8 ≤ image.length
  within : start + units.toNat * 8 ≤ limit
  least : 8 ≤ units.toNat * 8
  held : bytes = part image start (units.toNat * 8)
  version : bytes[0]? = some 1
  length : bytes[1]? = some units
  sealed : Checksum.total bytes = 0

theorem area_yields (image : List UInt8) (start limit : Nat) :
    Yields (fun r : List UInt8 × Nat => ∃ units, AreaAt image start limit units r.1)
      (area image start limit 8) := by
  refine .bind (yields_okOr _ _) fun head found => ?_
  obtain ⟨inside, rfl⟩ := range_eq_part found
  have two := part_length inside
  refine .bind (yields_index (by omega)) fun version first => ?_
  rw [part_getElem? image (by decide)] at first
  split
  · exact .throw _
  rename_i known
  refine .bind (yields_index (by omega)) fun units second => ?_
  rw [part_getElem? image (by decide)] at second
  simp only
  split
  · exact .throw _
  rename_i least
  split
  · exact .throw _
  rename_i within
  refine .bind (yields_okOr _ _) fun bytes read => ?_
  obtain ⟨inside, rfl⟩ := range_eq_part read
  refine .bind (checkSum_yields _) fun _ sealed => ?_
  refine .pure ⟨units, inside, by omega, by omega, rfl, ?_, ?_, sealed⟩
  · rw [part_getElem? image (by omega), first]
    exact congrArg some (not_not.mp known)
  · rw [part_getElem? image (by omega), second]

theorem AreaAt.bytes_length {image bytes : List UInt8} {start limit : Nat} {units : UInt8}
    (read : AreaAt image start limit units bytes) : bytes.length = units.toNat * 8 := by
  rw [read.held, part_length read.inside]

/-- An area is its fixed bytes, its fields, their terminator, zeros and the
one byte that makes the sum zero. -/
theorem AreaAt.serialise {image bytes : List UInt8} {start limit : Nat} {units : UInt8}
    (read : AreaAt image start limit units bytes) {fixed : List UInt8} {fields : List FruField}
    (begins : bytes.take (fixed.length + 2) = 1 :: units :: fixed)
    (rest : Fields bytes (fixed.length + 2) fields) :
    bytes = serialiseArea units fixed fields := by
  obtain ⟨padding, last, written⟩ := rest
  have length := read.bytes_length
  have sealed := read.sealed
  rw [begins] at written
  rw [written] at length sealed ⊢
  rw [Checksum.total_concat_eq_zero_iff] at sealed
  rw [sealed]
  have padded : padding = units.toNat * 8 - 1 -
      (1 :: units :: fixed ++ fields.flatMap FruField.serialise ++ [0xc1]).length := by
    simp only [List.length_append, List.length_cons, List.length_nil, List.length_replicate]
      at length ⊢
    omega
  unfold serialiseArea sealBytes
  simp only
  rw [← padded]

/-- The first bytes of an area, from the ones that were read. -/
theorem take_eq_of_getElem? {xs ys : List UInt8} (same : ∀ i < ys.length, xs[i]? = ys[i]?) :
    xs.take ys.length = ys := by
  apply List.ext_getElem?
  intro i
  by_cases inside : i < ys.length
  · rw [List.getElem?_take_of_lt inside, same i inside]
  · rw [List.getElem?_take_eq_none (Nat.le_of_not_lt inside),
      List.getElem?_eq_none (Nat.le_of_not_lt inside)]

/-- What a decoded area gives: it is the area written out again. -/
def Rewritten (image : List UInt8) (start limit : Nat) (serialise : UInt8 → List UInt8) : Prop :=
  ∃ units, AreaAt image start limit units (serialise units)

theorem Rewritten.of_fields {image bytes : List UInt8} {start limit : Nat} {units : UInt8}
    (read : AreaAt image start limit units bytes) {fixed : List UInt8} {fields : List FruField}
    (begins : ∀ i < fixed.length, bytes[i + 2]? = fixed[i]?)
    (rest : Fields bytes (fixed.length + 2) fields) :
    Rewritten image start limit fun units => serialiseArea units fixed fields := by
  refine ⟨units, ?_⟩
  have start : bytes.take (1 :: units :: fixed).length = 1 :: units :: fixed := by
    apply take_eq_of_getElem?
    rintro (- | - | i) below
    · exact read.version
    · exact read.length
    · exact begins i (by simpa using below)
  have same := read.serialise start rest
  subst same
  exact read

/-- What an area was read as: what precedes its fields, and the fields. -/
def AreaReads (image : List UInt8) (start limit : Nat) (fixed : List UInt8) (language : Option UInt8)
    (fields : List FruField) : Prop :=
  ∃ units bytes raws, AreaAt image start limit units bytes ∧ (∀ i < fixed.length, bytes[i + 2]? = fixed[i]?) ∧
    FieldsAt bytes (fixed.length + 2) raws ∧ List.Forall₂ (RawField.DecodedAs language) raws fields

theorem AreaReads.rewritten {image fixed : List UInt8} {start limit : Nat} {language : Option UInt8}
    {fields : List FruField} (reads : AreaReads image start limit fixed language fields) :
    Rewritten image start limit fun units => serialiseArea units fixed fields := by
  obtain ⟨units, bytes, raws, read, begins, stand, decoded⟩ := reads
  exact .of_fields read begins (stand.fields decoded)

theorem ChassisInfo.parse_yields (image : List UInt8) (start limit : Nat) :
    Yields (fun info : ChassisInfo => Rewritten image start limit info.serialise)
      (ChassisInfo.parse image start limit) := by
  refine .bind (area_yields image start limit) fun r found => ?_
  obtain ⟨bytes, stop⟩ := r
  obtain ⟨units, read⟩ := found
  have length := read.bytes_length
  have least := read.least
  simp only at read length ⊢
  refine .bind (parseFields_reads bytes 2 (some 0) (by omega)) fun fields decoded => ?_
  obtain ⟨many, raws, stand, decoded⟩ := decoded
  refine .bind (yields_index (by omega)) fun chassisType third => ?_
  refine .bind (yields_next many) ?_
  clear many
  rintro ⟨partNumber, fields⟩ ⟨rfl, many⟩
  refine .bind (yields_next many) ?_
  clear many
  rintro ⟨serialNumber, fields⟩ ⟨rfl, many⟩
  have begins : ∀ i < [chassisType].length, bytes[i + 2]? = [chassisType][i]? := by
    rintro (- | i) below
    · exact third
    · simp at below
  exact .pure (AreaReads.rewritten ⟨units, bytes, raws, read, begins, stand, decoded⟩)

/-- Three bytes, least significant first, are recovered from the number they make. -/
theorem minutes_bytes (low middle high : UInt8) :
    let minutes := low.toUInt32 ||| middle.toUInt32 <<< 8 ||| high.toUInt32 <<< 16
    minutes.toUInt8 = low ∧ (minutes >>> 8).toUInt8 = middle ∧ (minutes >>> 16).toUInt8 = high := by
  intro minutes
  have := low.toNat_lt
  have := middle.toNat_lt
  have := high.toNat_lt
  have first : low.toNat ||| middle.toNat <<< 8 = middle.toNat * 256 + low.toNat := by
    rw [Nat.or_comm, ← Nat.shiftLeft_add_eq_or_of_lt (by omega), Nat.shiftLeft_eq]
  have second : (middle.toNat * 256 + low.toNat) ||| high.toNat <<< 16 =
      high.toNat * 65536 + (middle.toNat * 256 + low.toNat) := by
    rw [Nat.or_comm, ← Nat.shiftLeft_add_eq_or_of_lt (by omega), Nat.shiftLeft_eq]
  have value : minutes.toNat = high.toNat * 65536 + (middle.toNat * 256 + low.toNat) := by
    have small (byte : UInt8) (shift : Nat) (below : shift ≤ 16) :
        byte.toNat <<< shift % 2 ^ 32 = byte.toNat <<< shift := by
      apply Nat.mod_eq_of_lt
      calc byte.toNat <<< shift = byte.toNat * 2 ^ shift := Nat.shiftLeft_eq _ _
        _ < 2 ^ 8 * 2 ^ 16 := Nat.mul_lt_mul_of_lt_of_le byte.toNat_lt
          (Nat.pow_le_pow_right (by decide) below) (by decide)
        _ ≤ 2 ^ 32 := by decide
    simp only [minutes, UInt32.toNat_or, UInt32.toNat_shiftLeft, UInt8.toNat_toUInt32,
      UInt32.reduceToNat, Nat.reduceMod]
    rw [small middle 8 (by decide), small high 16 (by decide), first, second]
  refine ⟨?_, ?_, ?_⟩
  · apply UInt8.toNat_inj.mp
    rw [UInt32.toNat_toUInt8, value]
    omega
  · apply UInt8.toNat_inj.mp
    rw [UInt32.toNat_toUInt8, UInt32.toNat_shiftRight, value]
    simp only [UInt32.reduceToNat, Nat.reduceMod, Nat.shiftRight_eq_div_pow]
    omega
  · apply UInt8.toNat_inj.mp
    rw [UInt32.toNat_toUInt8, UInt32.toNat_shiftRight, value]
    simp only [UInt32.reduceToNat, Nat.reduceMod, Nat.shiftRight_eq_div_pow]
    omega

/-- The fields of a board area, in order. -/
def BoardInfo.fields (info : BoardInfo) : List FruField :=
  info.manufacturer :: info.productName :: info.serialNumber :: info.partNumber :: info.fileId :: info.extra

/-- The number that three bytes make, least significant first. -/
def minutesOf (low middle high : UInt8) : UInt32 :=
  low.toUInt32 ||| middle.toUInt32 <<< 8 ||| high.toUInt32 <<< 16

theorem BoardInfo.parse_reads (image : List UInt8) (start limit : Nat) :
    Yields (fun info : BoardInfo => ∃ low middle high, info.manufacturingMinutes = minutesOf low middle high ∧
        AreaReads image start limit [info.language, low, middle, high] (some info.language) info.fields)
      (BoardInfo.parse image start limit) := by
  refine .bind (area_yields image start limit) fun r found => ?_
  obtain ⟨bytes, stop⟩ := r
  obtain ⟨units, read⟩ := found
  have length := read.bytes_length
  have least := read.least
  simp only at read length ⊢
  refine .bind (yields_index (by omega)) fun language third => ?_
  refine .bind (parseFields_reads bytes 5 (some language) (by omega)) fun fields decoded => ?_
  obtain ⟨many, raws, stand, decoded⟩ := decoded
  refine .bind (yields_index (by omega)) fun again same => ?_
  obtain rfl : language = again := Option.some.inj (third.symm.trans same)
  refine .bind (yields_index (by omega)) fun low fourth => ?_
  refine .bind (yields_index (by omega)) fun middle fifth => ?_
  refine .bind (yields_index (by omega)) fun high sixth => ?_
  refine .bind (yields_next many) ?_
  clear many
  rintro ⟨manufacturer, fields⟩ ⟨rfl, many⟩
  refine .bind (yields_next many) ?_
  clear many
  rintro ⟨productName, fields⟩ ⟨rfl, many⟩
  refine .bind (yields_next many) ?_
  clear many
  rintro ⟨serialNumber, fields⟩ ⟨rfl, many⟩
  refine .bind (yields_next many) ?_
  clear many
  rintro ⟨partNumber, fields⟩ ⟨rfl, many⟩
  refine .bind (yields_next many) ?_
  clear many
  rintro ⟨fileId, fields⟩ ⟨rfl, many⟩
  have begins : ∀ i < [language, low, middle, high].length,
      bytes[i + 2]? = [language, low, middle, high][i]? := by
    rintro (- | - | - | - | i) below
    · exact third
    · exact fourth
    · exact fifth
    · exact sixth
    · simp only [List.length_cons, List.length_nil] at below
      omega
  exact .pure ⟨low, middle, high, rfl, units, bytes, raws, read, begins, stand, decoded⟩

theorem BoardInfo.parse_yields (image : List UInt8) (start limit : Nat) :
    Yields (fun info : BoardInfo => Rewritten image start limit info.serialise)
      (BoardInfo.parse image start limit) := by
  refine (BoardInfo.parse_reads image start limit).mono fun info reads => ?_
  obtain ⟨low, middle, high, minutes, reads⟩ := reads
  obtain ⟨first, second, third⟩ := minutes_bytes low middle high
  have rewritten := reads.rewritten
  unfold BoardInfo.serialise
  rw [minutes]
  unfold minutesOf
  simp only
  rwa [first, second, third]

/-- The fields of a product area, in order. -/
def ProductInfo.fields (info : ProductInfo) : List FruField :=
  info.manufacturer :: info.productName :: info.partNumber :: info.version ::
    info.serialNumber :: info.assetTag :: info.fileId :: info.extra

theorem ProductInfo.parse_reads (image : List UInt8) (start limit : Nat) :
    Yields (fun info : ProductInfo =>
        AreaReads image start limit [info.language] (some info.language) info.fields)
      (ProductInfo.parse image start limit) := by
  refine .bind (area_yields image start limit) fun r found => ?_
  obtain ⟨bytes, stop⟩ := r
  obtain ⟨units, read⟩ := found
  have length := read.bytes_length
  have least := read.least
  simp only at read length ⊢
  refine .bind (yields_index (by omega)) fun language third => ?_
  refine .bind (parseFields_reads bytes 7 (some language) (by omega)) fun fields decoded => ?_
  obtain ⟨many, raws, stand, decoded⟩ := decoded
  refine .bind (yields_index (by omega)) fun again same => ?_
  obtain rfl : language = again := Option.some.inj (third.symm.trans same)
  refine .bind (yields_next many) ?_
  clear many
  rintro ⟨manufacturer, fields⟩ ⟨rfl, many⟩
  refine .bind (yields_next many) ?_
  clear many
  rintro ⟨productName, fields⟩ ⟨rfl, many⟩
  refine .bind (yields_next many) ?_
  clear many
  rintro ⟨partNumber, fields⟩ ⟨rfl, many⟩
  refine .bind (yields_next many) ?_
  clear many
  rintro ⟨version, fields⟩ ⟨rfl, many⟩
  refine .bind (yields_next many) ?_
  clear many
  rintro ⟨serialNumber, fields⟩ ⟨rfl, many⟩
  refine .bind (yields_next many) ?_
  clear many
  rintro ⟨assetTag, fields⟩ ⟨rfl, many⟩
  refine .bind (yields_next many) ?_
  clear many
  rintro ⟨fileId, fields⟩ ⟨rfl, many⟩
  have begins : ∀ i < [language].length, bytes[i + 2]? = [language][i]? := by
    rintro (- | i) below
    · exact third
    · simp at below
  exact .pure ⟨units, bytes, raws, read, begins, stand, decoded⟩

theorem ProductInfo.parse_yields (image : List UInt8) (start limit : Nat) :
    Yields (fun info : ProductInfo => Rewritten image start limit info.serialise)
      (ProductInfo.parse image start limit) :=
  (ProductInfo.parse_reads image start limit).mono fun _ reads => reads.rewritten

/-! ### Multirecords -/

theorem unsignedAt_yields {payload : List UInt8} {offset : Nat} (inside : offset + 1 < payload.length) :
    Yields (fun _ => True) (unsignedAt payload offset) :=
  .bind (yields_index (by omega)) fun _ _ =>
    .bind (yields_index inside) fun _ _ => .pure trivial

theorem signedAt_yields {payload : List UInt8} {offset : Nat} (inside : offset + 1 < payload.length) :
    Yields (fun _ => True) (signedAt payload offset) :=
  .bind (unsignedAt_yields inside) fun _ _ => .pure trivial

theorem multiRecordData_yields (recordType : UInt8) (payload : List UInt8) :
    Yields (fun _ => True) (multiRecordData recordType payload) := by
  unfold multiRecordData
  split
  · split
    · exact .throw _
    rename_i long
    have long : payload.length = 13 := not_not.mp long
    have power : Yields (fun _ => True) (dcRecord recordType payload) := by
      refine .bind (yields_index (by omega)) fun flags _ => ?_
      refine .bind (yields_index (by omega)) fun standby _ => ?_
      refine .bind (signedAt_yields (by omega)) fun nominal _ => ?_
      refine .bind (signedAt_yields (by omega)) fun minimum _ => ?_
      refine .bind (signedAt_yields (by omega)) fun maximum _ => ?_
      refine .bind (unsignedAt_yields (by omega)) fun ripple _ => ?_
      refine .bind (unsignedAt_yields (by omega)) fun least _ => ?_
      refine .bind (unsignedAt_yields (by omega)) fun most _ => ?_
      exact .pure trivial
    exact .bind power fun record _ => .pure trivial
  split
  · split
    · exact .throw _
    · exact .pure trivial
  split
  · exact .pure trivial
  · exact .pure trivial

/-- The format byte is the version and whether the record is the last one. -/
theorem format_eq {format : UInt8} (version : format &&& 0x7f = 2) :
    format = 2 ||| (if (format &&& 0x80 != 0) = true then 0x80 else 0) := by
  have low : format.toNat % 128 = 2 := by
    have same := congrArg UInt8.toNat version
    rw [UInt8.toNat_and] at same
    rwa [show (0x7f : UInt8).toNat = 2 ^ 7 - 1 from rfl, Nat.and_two_pow_sub_one_eq_mod] at same
  have below := format.toNat_lt
  have either : format.toNat = (2 : UInt8).toNat ∨ format.toNat = (0x82 : UInt8).toNat := by
    simp only [UInt8.reduceToNat]
    omega
  rcases either with same | same
  · obtain rfl := UInt8.toNat_inj.mp same
    rfl
  · obtain rfl := UInt8.toNat_inj.mp same
    rfl

/-- What is decoded of a record is the record written out again. -/
theorem MultiRecord.serialise_eq {header payload : List UInt8} {record : MultiRecord}
    {format length checksum : UInt8} (five : header.length = 5)
    (type : header[0]? = some record.recordType) (second : header[1]? = some format)
    (third : header[2]? = some length) (fourth : header[3]? = some checksum)
    (version : format &&& 0x7f = 2) (known : record.formatVersion = 2)
    (last : record.endOfList = (format &&& 0x80 != 0)) (raw : record.raw = payload)
    (counted : payload.length = length.toNat) (headerSum : Checksum.total header = 0)
    (payloadSum : checksum + Checksum.total payload = 0) :
    record.serialise = header ++ payload := by
  obtain ⟨a, b, c, d, e, rfl⟩ : ∃ a b c d e, header = [a, b, c, d, e] := by
    match header, five with
    | [a, b, c, d, e], _ => exact ⟨a, b, c, d, e, rfl⟩
  obtain rfl := Option.some.inj type
  obtain rfl := Option.some.inj second
  obtain rfl := Option.some.inj third
  obtain rfl := Option.some.inj fourth
  have size : UInt8.ofNat payload.length = c := by
    rw [counted, UInt8.ofNat_toNat]
  have sealed : d = -Checksum.total payload := by grind
  have closing : e = -Checksum.total [record.recordType, b, c, d] :=
    (Checksum.total_concat_eq_zero_iff _ _).mp headerSum
  unfold MultiRecord.serialise sealBytes
  rw [known, last, ← format_eq version, raw, size, ← sealed, ← closing]
  rfl

theorem parseMultirecordsLoop_yields (area : List UInt8) (turns : Nat) {pos : Nat}
    (records : List MultiRecord) (begun : pos ≤ area.length) (enough : area.length < pos + turns) :
    Yields (fun r : List MultiRecord × Nat => ∃ more, r.1 = records ++ more ∧
        r.2 ≤ area.length ∧ area.take r.2 = area.take pos ++ more.flatMap MultiRecord.serialise)
      (parseMultirecordsLoop area turns pos records) := by
  induction turns generalizing pos records with
  | zero => omega
  | succ turns ih =>
    refine .bind (yields_okOr _ _) fun header found => ?_
    obtain ⟨-, inside, read⟩ := range_eq_some found
    have five : header.length = 5 := by
      rw [read, List.length_drop, List.length_take]
      omega
    refine .bind (yields_index (by omega)) fun format second => ?_
    split
    · exact .throw _
    rename_i version
    refine .bind (checkSum_yields header) fun _ headerSum => ?_
    refine .bind (yields_index (by omega)) fun length third => ?_
    refine .bind (yields_okOr _ _) fun payload found => ?_
    obtain ⟨-, inside', read'⟩ := range_eq_some found
    have counted : payload.length = length.toNat := by
      rw [read', List.length_drop, List.length_take]
      omega
    refine .bind (yields_index (by omega)) fun checksum fourth => ?_
    split
    · exact .throw _
    rename_i payloadSum
    refine .bind (yields_index (by omega)) fun recordType first => ?_
    refine .bind (multiRecordData_yields recordType payload) fun data _ => ?_
    generalize decoded : MultiRecord.mk recordType 2 (format &&& 0x80 != 0) payload data = record
    have written : record.serialise = header ++ payload := by
      subst decoded
      exact MultiRecord.serialise_eq five first second third fourth (not_not.mp version) rfl rfl rfl
        counted headerSum (not_not.mp payloadSum)
    have extended : area.take (pos + (5 + length.toNat)) = area.take pos ++ record.serialise :=
      calc area.take (pos + (5 + length.toNat))
          = area.take (pos + 5) ++ payload := by
            rw [← Nat.add_assoc, read']
            exact take_extend area (Nat.le_add_right (pos + 5) _)
        _ = area.take pos ++ header ++ payload := by
            rw [read, ← take_extend area (Nat.le_add_right pos 5)]
        _ = area.take pos ++ record.serialise := by rw [written, List.append_assoc]
    simp only
    split
    · exact .pure ⟨[record], by simp [← decoded], by omega, by simpa using extended⟩
    · refine (ih _ (by omega) (by omega)).mono fun r holds => ?_
      obtain ⟨more, result, within, rest⟩ := holds
      exact ⟨record :: more, by simp [result, ← decoded], within, by rw [rest, extended]; simp⟩

theorem parseMultirecords_yields (area : List UInt8) :
    Yields (fun r : List MultiRecord × Nat => r.2 ≤ area.length ∧
        area.take r.2 = r.1.flatMap MultiRecord.serialise) (parseMultirecords area) := by
  refine (parseMultirecordsLoop_yields area (area.length + 1) [] (Nat.zero_le _) (by omega)).mono ?_
  rintro ⟨records, consumed⟩ ⟨more, result, within, written⟩
  simp only [List.nil_append, List.take_zero] at result within written
  exact ⟨within, result ▸ written⟩

/-! ### The header -/

/-- The offset a byte of the header stands for. -/
def offsetOf (raw : UInt8) : Option Nat := if raw ≠ 0 then some (raw.toNat * 8) else none

/-- What the header says: where areas start, no two at one place. -/
structure HeaderAt (image : List UInt8) (h : FruHeader) : Prop where
  long : 8 ≤ image.length
  read : h.offsets = (part image 1 5).map offsetOf
  inside : ∀ offset, some offset ∈ h.offsets → 8 ≤ offset ∧ offset < image.length
  distinct : h.offsets.Pairwise fun x y => ∀ offset, x = some offset → y ≠ some offset

theorem FruHeader.slot_yields (length : Nat) (seen : List (Option Nat)) (raw : UInt8) :
    Yields (fun offset => offset = offsetOf raw ∧ (∀ start, offset = some start →
      8 ≤ start ∧ start < length ∧ some start ∉ seen)) (slot length seen raw) := by
  unfold slot offsetOf
  split
  · rename_i nonzero
    simp only
    split
    · exact .throw _
    rename_i fresh
    have positive : 0 < raw.toNat := Nat.pos_of_ne_zero fun zero => nonzero (UInt8.toNat_inj.mp zero)
    refine .pure ⟨rfl, fun start same => ?_⟩
    obtain rfl := Option.some.inj same
    exact ⟨by omega, by omega, fun member => fresh (.inr member)⟩
  · exact .pure ⟨rfl, by simp⟩

theorem FruHeader.parse_yields (image : List UInt8) :
    Yields (HeaderAt image) (FruHeader.parse image) := by
  unfold FruHeader.parse
  split
  · exact .throw _
  rename_i short
  have long : 8 ≤ image.length := Nat.le_of_not_lt short
  refine .bind (yields_index (by omega)) fun version _ => ?_
  refine .bind (yields_index (by omega)) fun reserved _ => ?_
  split
  · exact .throw _
  refine .bind (yields_slice (by omega) long) fun bytes _ => ?_
  refine .bind (checkSum_yields bytes) fun _ _ => ?_
  refine .bind (yields_slice (by decide) (by omega)) fun raw sliced => ?_
  have same : part image 1 5 = raw := by
    rw [sliced, List.drop_take]
    rfl
  obtain ⟨a, b, c, d, e, rfl⟩ : ∃ a b c d e, raw = [a, b, c, d, e] := by
    have five : raw.length = 5 := by
      rw [← same, part_length (by omega)]
    match raw, five with
    | [a, b, c, d, e], _ => exact ⟨a, b, c, d, e, rfl⟩
  refine .bind (yields_index (by simp)) fun _ found => ?_
  obtain rfl := Option.some.inj found
  refine .bind (slot_yields _ _ _) fun internalUse first => ?_
  refine .bind (yields_index (by simp)) fun _ found => ?_
  obtain rfl := Option.some.inj found
  refine .bind (slot_yields _ _ _) fun chassis second => ?_
  refine .bind (yields_index (by simp)) fun _ found => ?_
  obtain rfl := Option.some.inj found
  refine .bind (slot_yields _ _ _) fun board third => ?_
  refine .bind (yields_index (by simp)) fun _ found => ?_
  obtain rfl := Option.some.inj found
  refine .bind (slot_yields _ _ _) fun product fourth => ?_
  refine .bind (yields_index (by simp)) fun _ found => ?_
  obtain rfl := Option.some.inj found
  refine .bind (slot_yields _ _ _) fun multirecord fifth => ?_
  refine .pure ⟨long, ?_, ?_, ?_⟩
  · rw [same]
    simp only [offsets, List.map, first.1, second.1, third.1, fourth.1, fifth.1]
  · intro offset member
    simp only [offsets, List.mem_cons, List.not_mem_nil, or_false] at member
    rcases member with held | held | held | held | held
    · exact ⟨(first.2 offset held.symm).1, (first.2 offset held.symm).2.1⟩
    · exact ⟨(second.2 offset held.symm).1, (second.2 offset held.symm).2.1⟩
    · exact ⟨(third.2 offset held.symm).1, (third.2 offset held.symm).2.1⟩
    · exact ⟨(fourth.2 offset held.symm).1, (fourth.2 offset held.symm).2.1⟩
    · exact ⟨(fifth.2 offset held.symm).1, (fifth.2 offset held.symm).2.1⟩
  · have apart {seen : List (Option Nat)} {mine : Option Nat}
        (fresh : ∀ start, mine = some start →
          8 ≤ start ∧ start < image.length ∧ some start ∉ seen)
        {other : Option Nat} (earlier : other ∈ seen) (offset : Nat) (held : other = some offset) :
        mine ≠ some offset := fun same => (fresh offset same).2.2 (held ▸ earlier)
    simp only [offsets, List.pairwise_cons, List.mem_cons, List.not_mem_nil, or_false,
      forall_eq_or_imp, forall_eq]
    refine ⟨⟨?_, ?_, ?_, ?_⟩, ⟨?_, ?_, ?_⟩, ⟨?_, ?_⟩, ?_, ?_⟩
    · exact apart second.2 (by simp)
    · exact apart third.2 (by simp)
    · exact apart fourth.2 (by simp)
    · exact apart fifth.2 (by simp)
    · exact apart third.2 (by simp)
    · exact apart fourth.2 (by simp)
    · exact apart fifth.2 (by simp)
    · exact apart fourth.2 (by simp)
    · exact apart fifth.2 (by simp)
    · exact apart fifth.2 (by simp)
    · simp

theorem FruHeader.limit_le_next {h : FruHeader} (length : Nat) {start next : Nat}
    (offset : some next ∈ h.offsets) (after : start < next) : h.limit length start ≤ next := by
  unfold limit
  have member : next ∈ h.offsets.reduceOption.filter (start < ·) := by
    simpa [List.mem_filter, List.reduceOption_mem_iff] using ⟨offset, after⟩
  cases least : (h.offsets.reduceOption.filter (start < ·)).min? with
  | none =>
    rw [List.min?_eq_none_iff.mp least] at member
    cases member
  | some low => exact (List.min?_eq_some_iff.mp least).2 next member

theorem FruHeader.limit_bounds {image : List UInt8} {h : FruHeader} (read : HeaderAt image h)
    {start : Nat} (offset : some start ∈ h.offsets) :
    start < h.limit image.length start ∧ h.limit image.length start ≤ image.length := by
  unfold limit
  cases least : (h.offsets.reduceOption.filter (start < ·)).min? with
  | none => exact ⟨(read.inside start offset).2, Nat.le_refl _⟩
  | some low =>
    have member := (List.min?_eq_some_iff.mp least).1
    simp only [List.mem_filter, List.reduceOption_mem_iff, decide_eq_true_eq] at member
    exact ⟨member.2, Nat.le_of_lt (read.inside low member.1).2⟩

/-! ### The whole inventory -/

/-- One area: where it starts, and its bytes. -/
structure Area where
  start : Nat
  bytes : List UInt8

/-- The length byte of the information area at `start`, in eights. -/
def unitsAt (image : List UInt8) (start : Nat) : UInt8 := image[start + 1]?.getD 0

/-- A decoded information area, written out again. -/
def writtenArea {α : Type} (image : List UInt8) (serialise : α → UInt8 → List UInt8)
    (start : Option Nat) (info : Option α) : Option Area :=
  start.bind fun start => info.map fun info => ⟨start, serialise info (unitsAt image start)⟩

namespace FruInventory
variable (image : List UInt8) (inventory : FruInventory)

/-- The chassis, board and product areas, written out again. -/
def informationAreas : List (Option Area) :=
  [writtenArea image ChassisInfo.serialise inventory.header.chassis inventory.chassis,
    writtenArea image BoardInfo.serialise inventory.header.board inventory.board,
    writtenArea image ProductInfo.serialise inventory.header.product inventory.product]

/-- Every area, in the order of the header. -/
def areas : List (Option Area) :=
  (inventory.header.internalUse.bind fun start => inventory.internalUse.map (⟨start, ·⟩)) ::
    inventory.informationAreas image ++
    [inventory.header.multirecord.map fun start =>
      ⟨start, inventory.multirecords.flatMap MultiRecord.serialise ++ inventory.multirecordTail⟩]

end FruInventory

/-- What a parsed inventory is worth. The areas the header names are there, lie
inside the image and apart from each other, and are the image's bytes; their
checksums and those of the records are right. -/
structure Lossless (image : List UInt8) (inventory : FruInventory) : Prop where
  present : (inventory.areas image).map (Option.map Area.start) = (part image 1 5).map offsetOf
  inside : ∀ a, some a ∈ inventory.areas image →
    8 ≤ a.start ∧ a.start + a.bytes.length ≤ image.length
  disjoint : (inventory.areas image).Pairwise fun x y => ∀ a b, x = some a → y = some b →
    a.start + a.bytes.length ≤ b.start ∨ b.start + b.bytes.length ≤ a.start
  preserved : ∀ a, some a ∈ inventory.areas image → part image a.start a.bytes.length = a.bytes
  areaSums : ∀ a, some a ∈ inventory.informationAreas image →
    a.bytes.length = (unitsAt image a.start).toNat * 8 ∧
    Checksum.total (part image a.start ((unitsAt image a.start).toNat * 8)) = 0
  recordSums : ∀ start, inventory.header.multirecord = some start →
    ∀ before record after, inventory.multirecords = before ++ record :: after →
      let position := start + (before.flatMap MultiRecord.serialise).length
      Checksum.total (part image position 5) = 0 ∧
      Checksum.total (part image (position + 3) 1 ++ part image (position + 5) record.raw.length) = 0

/-- An area is the image's bytes, and ends where it has to. -/
structure Held (image : List UInt8) (limit : Nat) (a : Area) : Prop where
  within : a.start + a.bytes.length ≤ limit
  bytes : part image a.start a.bytes.length = a.bytes

theorem Rewritten.held {image : List UInt8} {start limit : Nat} {serialise : UInt8 → List UInt8}
    (rewritten : Rewritten image start limit serialise) :
    Held image limit ⟨start, serialise (unitsAt image start)⟩ ∧
    (serialise (unitsAt image start)).length = (unitsAt image start).toNat * 8 ∧
    Checksum.total (part image start ((unitsAt image start).toNat * 8)) = 0 := by
  obtain ⟨units, read⟩ := rewritten
  have same : unitsAt image start = units := by
    have second := read.length
    rw [read.held, part_getElem? image (by have := read.least; omega)] at second
    rw [unitsAt, second, Option.getD_some]
  rw [same]
  have length := read.bytes_length
  refine ⟨⟨?_, ?_⟩, length, read.held ▸ read.sealed⟩
  · simp only [length]
    exact read.within
  · simp only [length]
    exact read.held.symm

/-- Two optional values that are there together, joined. -/
theorem map_start_bind {α : Type} {offset : Option Nat} {value : Option α}
    (present : value.isSome = offset.isSome) (bytes : Nat → α → List UInt8) :
    (offset.bind fun start => value.map fun value =>
      Area.mk start (bytes start value)).map Area.start = offset := by
  cases offset with
  | none => rfl
  | some start =>
    obtain ⟨value, rfl⟩ := Option.isSome_iff_exists.mp present
    rfl

theorem writtenArea_held {α : Type} {image : List UInt8} {limit : Nat → Nat}
    {serialise : α → UInt8 → List UInt8} {offset : Option Nat} {info : Option α}
    (rewritten : ∀ start value, offset = some start → info = some value →
      Rewritten image start (limit start) (serialise value))
    {a : Area} (written : writtenArea image serialise offset info = some a) :
    Held image (limit a.start) a ∧ a.bytes.length = (unitsAt image a.start).toNat * 8 ∧
      Checksum.total (part image a.start ((unitsAt image a.start).toNat * 8)) = 0 := by
  obtain ⟨start, rfl, located⟩ := Option.bind_eq_some_iff.mp written
  obtain ⟨value, rfl, rfl⟩ := Option.map_eq_some_iff.mp located
  exact (rewritten start value rfl rfl).held

theorem ifPresent_yields {α : Type} {offset : Option Nat} {decode : Nat → Parsing α}
    {P : Nat → α → Prop}
    (decodes : ∀ start, offset = some start → Yields (P start) (decode start)) :
    Yields (fun found => found.isSome = offset.isSome ∧
      ∀ start value, offset = some start → found = some value → P start value)
      (ifPresent offset decode) := by
  cases offset with
  | none => exact .pure ⟨rfl, by simp⟩
  | some start =>
    change Yields _ (some <$> decode start)
    rw [map_eq_pure_bind]
    refine .bind (decodes start rfl) fun value holds => .pure ⟨rfl, ?_⟩
    intro again found same located
    obtain rfl := Option.some.inj same
    obtain rfl := Option.some.inj located
    exact holds

theorem multirecordArea_yields (image : List UInt8) {start limit : Nat} (ordered : start ≤ limit)
    (inside : limit ≤ image.length) :
    Yields (fun r : List MultiRecord × List UInt8 =>
        Held image limit ⟨start, r.1.flatMap MultiRecord.serialise ++ r.2⟩)
      (multirecordArea image start limit) := by
  refine .bind (yields_slice ordered inside) fun raw sliced => ?_
  refine .bind (parseMultirecords_yields raw) fun r decoded => ?_
  obtain ⟨records, consumed⟩ := r
  obtain ⟨within, written⟩ := decoded
  refine .bind (yields_slice within (Nat.le_refl _)) fun tail rest => .pure ?_
  have whole : records.flatMap MultiRecord.serialise ++ tail = raw := by
    rw [← written, rest, List.take_length, List.take_append_drop]
  have same : raw = part image start (limit - start) := by
    rw [sliced, List.drop_take]
    rfl
  have length : raw.length = limit - start := by
    rw [same, part_length (by omega)]
  simp only [whole]
  exact ⟨by simp only [length]; omega, by simp only [length]; exact same.symm⟩

theorem part_middle {image : List UInt8} {start : Nat} (xs ys zs : List UInt8)
    (held : part image start (xs ++ ys ++ zs).length = xs ++ ys ++ zs) :
    part image (start + xs.length) ys.length = ys := by
  have inner := congrArg (fun bytes => (bytes.drop xs.length).take ys.length) held
  simp only [part, List.drop_take, List.drop_drop, List.take_take, List.append_assoc,
    List.drop_left, List.take_left, List.length_append] at inner
  rwa [Nat.min_eq_left (by omega)] at inner

/-- The checksums of a record are right wherever its bytes are found. -/
theorem MultiRecord.sums {image : List UInt8} {position : Nat} {record : MultiRecord}
    (held : part image position record.serialise.length = record.serialise) :
    Checksum.total (part image position 5) = 0 ∧
    Checksum.total (part image (position + 3) 1 ++ part image (position + 5) record.raw.length) = 0 := by
  let front := [record.recordType, record.formatVersion ||| (if record.endOfList then 0x80 else 0),
    UInt8.ofNat record.raw.length]
  let sum := -Checksum.total record.raw
  let head := sealBytes (front ++ [sum])
  change part image position (head ++ record.raw).length = head ++ record.raw at held
  constructor
  · have first : part image (position + 0) head.length = head := part_middle [] head record.raw held
    change Checksum.total (part image (position + 0) head.length) = 0
    rw [first]
    exact (Checksum.total_concat_eq_zero_iff _ _).mpr rfl
  · have middle : part image (position + front.length) [sum].length = [sum] :=
      part_middle front [sum] ([-Checksum.total (front ++ [sum])] ++ record.raw) held
    have last : part image (position + head.length) record.raw.length = record.raw := by
      refine part_middle head record.raw [] ?_
      rwa [List.append_nil]
    change Checksum.total (part image (position + front.length) [sum].length ++
      part image (position + head.length) record.raw.length) = 0
    rw [middle, last, Checksum.total_append, Checksum.total_cons, Checksum.total_nil]
    grind

theorem lossless_of_held {image : List UInt8} {inventory : FruInventory}
    (read : HeaderAt image inventory.header)
    (starts : (inventory.areas image).map (Option.map Area.start) = inventory.header.offsets)
    (held : ∀ a, some a ∈ inventory.areas image →
      Held image (inventory.header.limit image.length a.start) a)
    (sums : ∀ a, some a ∈ inventory.informationAreas image →
      a.bytes.length = (unitsAt image a.start).toNat * 8 ∧
      Checksum.total (part image a.start ((unitsAt image a.start).toNat * 8)) = 0) :
    Lossless image inventory := by
  have located (a : Area) (member : some a ∈ inventory.areas image) :
      some a.start ∈ inventory.header.offsets := by
    rw [← starts]
    exact List.mem_map_of_mem (f := Option.map Area.start) member
  refine ⟨starts.trans read.read, ?_, ?_, fun a member => (held a member).bytes, sums, ?_⟩
  · intro a member
    have within := (held a member).within
    have bounds := FruHeader.limit_bounds read (located a member)
    exact ⟨(read.inside _ (located a member)).1, by omega⟩
  · have distinct := read.distinct
    rw [← starts, List.pairwise_map] at distinct
    refine distinct.imp_of_mem ?_
    rintro x y here there apart a b rfl rfl
    have first := (held a here).within
    have second := (held b there).within
    have different : a.start ≠ b.start := fun same => apart a.start rfl (by simp [same])
    rcases Nat.lt_or_gt_of_ne different with before | after
    · have := FruHeader.limit_le_next image.length (located b there) before
      exact .inl (by omega)
    · have := FruHeader.limit_le_next image.length (located a here) after
      exact .inr (by omega)
  · intro start offset before record after split
    apply MultiRecord.sums
    have whole := (held ⟨start, inventory.multirecords.flatMap MultiRecord.serialise ++
      inventory.multirecordTail⟩ (by simp [FruInventory.areas, offset])).bytes
    simp only [split, List.flatMap_append, List.flatMap_cons] at whole
    refine part_middle _ _ (after.flatMap MultiRecord.serialise ++ inventory.multirecordTail) ?_
    simpa only [List.append_assoc] using whole

theorem FruInventory.parse_yields (image : List UInt8) :
    Yields (Lossless image) (FruInventory.parse image) := by
  refine .bind (FruHeader.parse_yields image) fun header read => ?_
  simp only
  generalize ends : header.limit image.length = limit
  have bounds (start : Nat) (member : some start ∈ header.offsets) :
      start < limit start ∧ limit start ≤ image.length := ends ▸ FruHeader.limit_bounds read member
  have internal (start : Nat) (offset : header.internalUse = some start) :
      Yields (fun bytes => Held image (limit start) ⟨start, bytes⟩)
        (slice image start (limit start) : Parsing (List UInt8)) := by
    obtain ⟨ordered, inside⟩ := bounds start (by simp [FruHeader.offsets, offset])
    refine (yields_slice (Nat.le_of_lt ordered) inside).mono fun bytes sliced => ?_
    have same : bytes = part image start (limit start - start) := by
      rw [sliced, List.drop_take]
      rfl
    have length : bytes.length = limit start - start := by
      rw [same, part_length (by omega)]
    exact ⟨by simp only [length]; omega, by simp only [length]; exact same.symm⟩
  have records (start : Nat) (offset : header.multirecord = some start) :=
    have ⟨ordered, inside⟩ := bounds start (by simp [FruHeader.offsets, offset])
    multirecordArea_yields image (Nat.le_of_lt ordered) inside
  refine .bind (ifPresent_yields internal) fun internalUse first => ?_
  refine .bind (ifPresent_yields fun start _ => ChassisInfo.parse_yields image start (limit start))
    fun chassis second => ?_
  refine .bind (ifPresent_yields fun start _ => BoardInfo.parse_yields image start (limit start))
    fun board third => ?_
  refine .bind (ifPresent_yields fun start _ => ProductInfo.parse_yields image start (limit start))
    fun product fourth => ?_
  refine .bind (ifPresent_yields records) fun multirecord fifth => ?_
  have areas {a : Area} (member : some a ∈
      [writtenArea image ChassisInfo.serialise header.chassis chassis,
      writtenArea image BoardInfo.serialise header.board board,
      writtenArea image ProductInfo.serialise header.product product]) :
      Held image (limit a.start) a ∧ a.bytes.length = (unitsAt image a.start).toNat * 8 ∧
        Checksum.total (part image a.start ((unitsAt image a.start).toNat * 8)) = 0 := by
    simp only [List.mem_cons, List.not_mem_nil, or_false] at member
    rcases member with written | written | written
    · exact writtenArea_held second.2 written.symm
    · exact writtenArea_held third.2 written.symm
    · exact writtenArea_held fourth.2 written.symm
  refine .pure (lossless_of_held read ?_ ?_ fun a member => (areas member).2)
  · simp only [FruInventory.areas, FruInventory.informationAreas, FruHeader.offsets, writtenArea,
      List.map_cons, List.cons_append, List.nil_append, List.map_nil, Option.map_map]
    rw [map_start_bind first.1, map_start_bind second.1, map_start_bind third.1,
      map_start_bind fourth.1]
    simp [Function.comp_def]
  · intro a member
    rw [ends]
    simp only [FruInventory.areas, List.cons_append, List.mem_cons, List.mem_append,
      List.not_mem_nil, or_false] at member
    rcases member with inner | information | records
    · obtain ⟨start, offset, located⟩ := Option.bind_eq_some_iff.mp inner.symm
      obtain ⟨bytes, held, rfl⟩ := Option.map_eq_some_iff.mp located
      exact first.2 start bytes offset held
    · exact (areas information).1
    · obtain ⟨start, offset, rfl⟩ := Option.map_eq_some_iff.mp records.symm
      obtain ⟨found, held⟩ := Option.isSome_iff_exists.mp (fifth.1.trans (offset ▸ rfl))
      have area := fifth.2 start found offset held
      subst held
      exact area

/-- `FruInventory::parse` as its callers see it: it never panics. -/
def parseInventory (image : List UInt8) : Except FruParseError FruInventory :=
  Option.get (FruInventory.parse image)
    (Option.isSome_iff_exists.mpr (FruInventory.parse_yields image).returns)

/-- Parsing is total, and what it accepts it has understood: for every image it
returns without a panic, and an inventory it returns is the image written out
again, area by area. -/
theorem fru_inventory_lossless (image : List UInt8) :
    (∃ result, FruInventory.parse image = some result) ∧
    ∀ inventory, FruInventory.parse image = some (.ok inventory) → Lossless image inventory :=
  ⟨(FruInventory.parse_yields image).returns,
    fun _ returned => (FruInventory.parse_yields image).ok returned⟩

/-- An image with a chassis area and one record, and two bytes nobody reads. -/
theorem fru_inventory_lossless_chassis :
    let image : List UInt8 := [1, 0, 1, 0, 0, 3, 0, 0xfb,
      1, 2, 0x17, 0xc3, 0x41, 0x42, 0x43, 0x82, 1, 2, 0xc1, 0, 0, 0, 0, 0x17,
      0xc0, 0x82, 3, 0xfa, 0xc1, 1, 2, 3, 9, 9]
    let inventory : FruInventory := {
      header := ⟨none, some 8, none, none, some 24⟩
      internalUse := none
      chassis := some ⟨0x17, ⟨.eightBitAscii, [0x41, 0x42, 0x43], some "ABC"⟩,
        ⟨.sixBitAscii, [1, 2], some "!("⟩, []⟩
      board := none
      product := none
      multirecords := [⟨0xc0, 2, true, [1, 2, 3], .oem [1, 2, 3]⟩]
      multirecordTail := [9, 9] }
    FruInventory.parse image = some (.ok inventory) ∧ Lossless image inventory :=
  ⟨by decide +kernel, (fru_inventory_lossless _).2 _ (by decide +kernel)⟩

end IpmiRs.Storage
