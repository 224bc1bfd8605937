import IpmiRs.Storage.FruLossless
import Mathlib.Data.List.Forall2

/-! What each part of an inventory is parsed from. Images that agree where an
area lies give the same area, and the fields of an area are told from its bytes
in one way only. -/
namespace IpmiRs.Storage
open Library Library.Checked

/-- What is returned is returned once. -/
theorem returned_unique {α : Type} {first second : α} (same : (pure first : Parsing α) = pure second) :
    first = second := Except.ok.inj (Option.some.inj same)

/-! ### Images that agree -/

/-- Images of one length, with the same bytes from `start` up to `stop`. -/
structure Agree (image other : List UInt8) (start stop : Nat) : Prop where
  length : other.length = image.length
  bytes : ∀ i, start ≤ i → i < stop → other[i]? = image[i]?

namespace Agree
variable {image other : List UInt8} {start stop : Nat}

theorem within (agree : Agree image other start stop) {low high : Nat} (above : start ≤ low) (below : high ≤ stop) :
    Agree image other low high :=
  ⟨agree.length, fun i first last => agree.bytes i (by omega) (by omega)⟩

theorem refl (image : List UInt8) (start stop : Nat) : Agree image image start stop := ⟨rfl, fun _ _ _ => rfl⟩

theorem symm (agree : Agree image other start stop) : Agree other image start stop :=
  ⟨agree.length.symm, fun i above below => (agree.bytes i above below).symm⟩

theorem take_drop (agree : Agree image other start stop) :
    (other.take stop).drop start = (image.take stop).drop start := by
  apply List.ext_getElem?
  intro i
  rw [List.getElem?_drop, List.getElem?_drop]
  by_cases inside : start + i < stop
  · rw [List.getElem?_take_of_lt inside, List.getElem?_take_of_lt inside]
    exact agree.bytes _ (Nat.le_add_right _ _) inside
  · rw [List.getElem?_take_eq_none (Nat.le_of_not_lt inside), List.getElem?_take_eq_none (Nat.le_of_not_lt inside)]

theorem range (agree : Agree image other start stop) : range other start stop = range image start stop := by
  unfold Checked.range
  rw [agree.length, agree.take_drop]

theorem slice (agree : Agree image other start stop) :
    (slice other start stop : Parsing (List UInt8)) = slice image start stop := by
  unfold Checked.slice
  rw [agree.range]

theorem index (agree : Agree image other start stop) {i : Nat} (above : start ≤ i) (below : i < stop) :
    (index other i : Parsing UInt8) = index image i := by
  unfold Checked.index
  rw [agree.bytes i above below]

theorem part {length : Nat} (agree : Agree image other start (start + length)) :
    part other start length = part image start length := by
  have same := agree.take_drop
  rwa [List.drop_take, List.drop_take, Nat.add_sub_cancel_left] at same

end Agree

/-! ### What the parts are parsed from -/

section
variable {image other : List UInt8} {start limit : Nat}

theorem FruHeader.parse_agree (agree : Agree image other 0 8) : FruHeader.parse other = FruHeader.parse image := by
  unfold FruHeader.parse
  rw [agree.length, agree.index (Nat.zero_le 0) (by decide), agree.index (Nat.zero_le 6) (by decide),
    agree.slice, (agree.within (Nat.zero_le 1) (by decide : 6 ≤ 8)).slice]

theorem area_agree (agree : Agree image other start limit) {bytes : List UInt8} {stop : Nat}
    (read : area image start limit 8 = pure (bytes, stop)) : area other start limit 8 = pure (bytes, stop) := by
  obtain ⟨units, found⟩ := (area_yields image start limit).ok read
  have least := found.least
  have within := found.within
  unfold area at read ⊢
  rw [(agree.within (Nat.le_refl _) (by omega : start + 2 ≤ limit)).range]
  obtain ⟨head, first, read⟩ := of_bind_eq_pure read
  obtain ⟨version, second, read⟩ := of_bind_eq_pure read
  rw [first, pure_bind, second, pure_bind]
  obtain ⟨known, read⟩ := of_check_eq_pure read
  rw [if_neg known]
  obtain ⟨length, third, read⟩ := of_bind_eq_pure read
  rw [third, pure_bind]
  dsimp only at read ⊢
  obtain ⟨enough, read⟩ := of_check_eq_pure read
  obtain ⟨fits, read⟩ := of_check_eq_pure read
  rw [if_neg enough, if_neg fits,
    (agree.within (Nat.le_refl _) (Nat.le_of_not_lt fits)).range]
  exact read

theorem ChassisInfo.parse_agree (agree : Agree image other start limit) {info : ChassisInfo}
    (read : ChassisInfo.parse image start limit = pure info) : ChassisInfo.parse other start limit = pure info := by
  unfold ChassisInfo.parse at read ⊢
  obtain ⟨⟨bytes, stop⟩, found, read⟩ := of_bind_eq_pure read
  rw [area_agree agree found]
  exact read

theorem multirecordArea_agree (agree : Agree image other start limit) :
    multirecordArea other start limit = multirecordArea image start limit := by
  unfold multirecordArea
  rw [agree.slice]

end

theorem ifPresent_some {α : Type} {start : Nat} {decode : Nat → Parsing α} {found : Option α}
    (present : ifPresent (some start) decode = pure found) : ∃ value, found = some value ∧ decode start = pure value := by
  change some <$> decode start = pure found at present
  rw [map_eq_pure_bind] at present
  obtain ⟨value, read, present⟩ := of_bind_eq_pure present
  exact ⟨value, (Except.ok.inj (Option.some.inj present)).symm, read⟩

theorem ifPresent_eq {α : Type} {offset : Option Nat} {decode other : Nat → Parsing α}
    (same : ∀ start, offset = some start → other start = decode start) :
    ifPresent offset other = ifPresent offset decode := by
  cases offset with
  | none => rfl
  | some start => exact congrArg (some <$> ·) (same start rfl)

theorem ifPresent_congr {α : Type} {offset : Option Nat} {decode other : Nat → Parsing α} {found : Option α}
    (same : ∀ start value, offset = some start → decode start = pure value → other start = pure value)
    (present : ifPresent offset decode = pure found) : ifPresent offset other = pure found := by
  cases offset with
  | none => exact present
  | some start =>
    obtain ⟨value, rfl, read⟩ := ifPresent_some present
    change some <$> other start = pure (some value)
    rw [same start value rfl read]
    rfl

/-! ### The parts of an inventory -/

/-- The parts an inventory was parsed from. -/
structure Parsed (image : List UInt8) (inventory : FruInventory) : Prop where
  header : FruHeader.parse image = pure inventory.header
  internalUse : ifPresent inventory.header.internalUse
    (fun start => slice image start (inventory.header.limit image.length start)) = pure inventory.internalUse
  chassis : ifPresent inventory.header.chassis
    (fun start => ChassisInfo.parse image start (inventory.header.limit image.length start)) = pure inventory.chassis
  board : ifPresent inventory.header.board
    (fun start => BoardInfo.parse image start (inventory.header.limit image.length start)) = pure inventory.board
  product : ifPresent inventory.header.product
    (fun start => ProductInfo.parse image start (inventory.header.limit image.length start)) = pure inventory.product
  multirecords : (fun found => found.getD ([], [])) <$> ifPresent inventory.header.multirecord
    (fun start => multirecordArea image start (inventory.header.limit image.length start)) =
      pure (inventory.multirecords, inventory.multirecordTail)

theorem FruInventory.parse_parts {image : List UInt8} {inventory : FruInventory}
    (read : FruInventory.parse image = pure inventory) : Parsed image inventory := by
  unfold FruInventory.parse at read
  obtain ⟨header, first, read⟩ := of_bind_eq_pure read
  obtain ⟨internalUse, second, read⟩ := of_bind_eq_pure read
  obtain ⟨chassis, third, read⟩ := of_bind_eq_pure read
  obtain ⟨board, fourth, read⟩ := of_bind_eq_pure read
  obtain ⟨product, fifth, read⟩ := of_bind_eq_pure read
  obtain ⟨multirecord, sixth, read⟩ := of_bind_eq_pure read
  obtain rfl := Except.ok.inj (Option.some.inj read)
  exact ⟨first, second, third, fourth, fifth, by rw [sixth]; rfl⟩

theorem parseInventory_eq_ok {image : List UInt8} {inventory : FruInventory}
    (read : parseInventory image = .ok inventory) : FruInventory.parse image = pure inventory := by
  have same := Option.some_get (Option.isSome_iff_exists.mpr (FruInventory.parse_yields image).returns)
  exact same.symm.trans (congrArg some read)

/-- Of two areas, one has to end before the other starts. -/
theorem FruHeader.limit_apart (image : List UInt8) {h : FruHeader} {first second : Nat}
    (here : some first ∈ h.offsets) (there : some second ∈ h.offsets) (distinct : first ≠ second) :
    h.limit image.length first ≤ second ∨ h.limit image.length second ≤ first := by
  rcases Nat.lt_or_gt_of_ne distinct with before | after
  · exact .inl (FruHeader.limit_le_next _ there before)
  · exact .inr (FruHeader.limit_le_next _ here after)

/-! ### The fields of an area -/

namespace RawField

/-- The fields before a terminator are told from their bytes. -/
theorem flatMap_written_injective {raws others : List RawField} {rest tail : List UInt8}
    (same : raws.flatMap written ++ 0xc1 :: rest = others.flatMap written ++ 0xc1 :: tail) : raws = others := by
  induction raws generalizing others with
  | nil =>
    cases others with
    | nil => rfl
    | cons other others => exact absurd (List.cons.inj same).1.symm other.more
  | cons raw raws ih =>
    cases others with
    | nil => exact absurd (List.cons.inj same).1 raw.more
    | cons other others =>
      rw [List.flatMap_cons, List.flatMap_cons, List.append_assoc, List.append_assoc] at same
      obtain ⟨descriptor, same⟩ := List.cons.inj same
      have length : raw.bytes.length = other.bytes.length := by rw [raw.length, other.length, descriptor]
      obtain ⟨bytes, same⟩ := List.append_inj same length
      rw [ih same]
      cases raw
      cases other
      congr

theorem decodedAs_unique (language : Option UInt8) : Relator.RightUnique (DecodedAs language) := by
  intro raw field other decoded again
  exact Except.ok.inj (Option.some.inj (decoded.symm.trans again))

/-- Fields that were written with one field replaced are decoded as before, but for that field. -/
theorem decoded_replaced {language : Option UInt8} {before after : List RawField} {target replaced : RawField}
    {fields others : List FruField}
    (decoded : List.Forall₂ (DecodedAs language) (before ++ target :: after) fields)
    (again : List.Forall₂ (DecodedAs language) (before ++ replaced :: after) others) :
    ∃ front old new back, fields = front ++ old :: back ∧ others = front ++ new :: back ∧
      front.length = before.length ∧ DecodedAs language replaced new := by
  induction before generalizing fields others with
  | nil =>
    obtain ⟨old, back, -, rest, rfl⟩ := List.forall₂_cons_left_iff.mp decoded
    obtain ⟨new, other, first, same, rfl⟩ := List.forall₂_cons_left_iff.mp again
    obtain rfl := List.right_unique_forall₂' (decodedAs_unique language) rest same
    exact ⟨[], old, new, back, rfl, rfl, rfl, first⟩
  | cons raw before ih =>
    obtain ⟨field, _, first, rest, rfl⟩ := List.forall₂_cons_left_iff.mp decoded
    obtain ⟨other, _, second, same, rfl⟩ := List.forall₂_cons_left_iff.mp again
    obtain rfl := decodedAs_unique language first second
    obtain ⟨front, old, new, back, rfl, rfl, length, last⟩ := ih rest same
    exact ⟨field :: front, old, new, back, rfl, rfl, congrArg Nat.succ length, last⟩

end RawField

/-- How an information area lies in an image: what precedes its fields, the
fields up to their terminator, and what follows. -/
structure LaidOut (image : List UInt8) (start : Nat) (units : UInt8) (fixed : List UInt8) (raws : List RawField)
    (rest : List UInt8) : Prop where
  inside : start + units.toNat * 8 ≤ image.length
  bytes : part image start (units.toNat * 8) =
    1 :: units :: fixed ++ (raws.flatMap RawField.written ++ 0xc1 :: rest)

section
variable {image other : List UInt8} {start limit : Nat} {units : UInt8} {fixed : List UInt8} {raws : List RawField}
  {rest : List UInt8} {language : Option UInt8} {fields : List FruField}

theorem LaidOut.agree (laid : LaidOut image start units fixed raws rest)
    (agree : Agree image other start (start + units.toNat * 8)) : LaidOut other start units fixed raws rest :=
  ⟨agree.length ▸ laid.inside, agree.part.trans laid.bytes⟩

theorem LaidOut.long (laid : LaidOut image start units fixed raws rest) :
    units.toNat * 8 = fixed.length + 2 + (raws.flatMap RawField.written).length + 1 + rest.length := by
  have length := congrArg List.length laid.bytes
  rw [part_length laid.inside] at length
  simp only [List.length_append, List.length_cons] at length
  omega

/-- The length byte of an area is where `unitsAt` looks for it. -/
theorem LaidOut.units_eq (laid : LaidOut image start units fixed raws rest) : image[start + 1]? = some units := by
  have long := laid.long
  rw [← part_getElem? image (by omega : 1 < units.toNat * 8), laid.bytes]
  rfl

/-- A field of an area lies behind its type and length byte, within the area. -/
theorem LaidOut.field_at {before after : List RawField} {target : RawField} {last : UInt8}
    (laid : LaidOut image start units fixed (before ++ target :: after) (rest ++ [last])) :
    start + (fixed.length + 2 + (before.flatMap RawField.written).length + 1) + target.bytes.length + 1 <
        start + units.toNat * 8 ∧
      part image (start + (fixed.length + 2 + (before.flatMap RawField.written).length + 1)) target.bytes.length =
        target.bytes := by
  have long := laid.long
  have place := laid.bytes
  rw [List.flatMap_append, List.flatMap_cons] at long place
  rw [List.length_append, List.length_append, RawField.written, List.length_cons, List.length_append,
    List.length_singleton] at long
  refine ⟨by omega, ?_⟩
  have whole : (1 :: units :: fixed ++ before.flatMap RawField.written ++ [target.descriptor]) ++ target.bytes ++
      (after.flatMap RawField.written ++ 0xc1 :: (rest ++ [last])) =
      1 :: units :: fixed ++ (before.flatMap RawField.written ++ (target.written ++
        after.flatMap RawField.written) ++ 0xc1 :: (rest ++ [last])) := by
    simp [RawField.written]
  have middle := @part_middle image start (1 :: units :: fixed ++ before.flatMap RawField.written ++
    [target.descriptor]) target.bytes (after.flatMap RawField.written ++ 0xc1 :: (rest ++ [last]))
    (by rw [whole, ← place, part_length laid.inside])
  rw [List.length_append, List.length_append] at middle
  exact middle

/-- An area that was read lies in the image as its fields. -/
theorem AreaReads.laidOut (reads : AreaReads image start limit fixed language fields) :
    ∃ units raws rest last, LaidOut image start units fixed raws (rest ++ [last]) ∧
      start + units.toNat * 8 ≤ limit ∧ List.Forall₂ (RawField.DecodedAs language) raws fields := by
  obtain ⟨units, bytes, raws, read, begins, stand, decoded⟩ := reads
  obtain ⟨padding, last, written⟩ := stand
  refine ⟨units, raws, List.replicate padding 0, last, ⟨read.inside, ?_⟩, read.within, decoded⟩
  have front : bytes.take (1 :: units :: fixed).length = 1 :: units :: fixed := by
    apply take_eq_of_getElem?
    rintro (- | - | i) below
    · exact read.version
    · exact read.length
    · exact begins i (by simpa using below)
  change bytes.take (fixed.length + 2) = _ at front
  rw [← read.held, written, front]
  simp only [List.append_assoc, List.cons_append, List.nil_append]

theorem AreaReads.agree {before : List UInt8} (reads : AreaReads image start limit before language fields)
    (agree : Agree image other start limit) : AreaReads other start limit before language fields := by
  obtain ⟨units, bytes, raws, read, begins, stand, decoded⟩ := reads
  have same := (agree.within (Nat.le_refl _) read.within).part
  exact ⟨units, bytes, raws, ⟨agree.length ▸ read.inside, read.within, read.least, read.held.trans same.symm,
    read.version, read.length, read.sealed⟩, begins, stand, decoded⟩

/-- One of the fields that were read, where it lies. -/
theorem AreaReads.split {before : List UInt8} {front back : List FruField} {field : FruField}
    (reads : AreaReads image start limit before language (front ++ field :: back)) :
    ∃ units earlier target after rest last,
      LaidOut image start units before (earlier ++ target :: after) (rest ++ [last]) ∧
      start + units.toNat * 8 ≤ limit ∧ earlier.length = front.length ∧
      earlier.flatMap RawField.written = front.flatMap FruField.serialise ∧ target.bytes = field.raw := by
  obtain ⟨units, raws, rest, last, laid, within, decoded⟩ := reads.laidOut
  have first := List.forall₂_take_append raws front _ decoded
  obtain ⟨target, after, found, -, split⟩ := List.forall₂_cons_right_iff.mp (List.forall₂_drop_append raws front _ decoded)
  have whole : raws = raws.take front.length ++ target :: after := by
    rw [← split, List.take_append_drop]
  rw [whole] at laid
  exact ⟨units, _, target, after, rest, last, laid, within, first.length_eq,
    (RawField.flatMap_serialise first).symm, found.kept.2.symm⟩

/-- What is read of an area is what lies there. -/
theorem AreaReads.decoded {before : List UInt8} (reads : AreaReads image start limit before language fields)
    (laid : LaidOut image start units fixed raws rest) (same : before.length = fixed.length) :
    before = fixed ∧ List.Forall₂ (RawField.DecodedAs language) raws fields := by
  obtain ⟨count, others, tail, last, found, -, decoded⟩ := reads.laidOut
  obtain rfl : count = units := Option.some.inj (found.units_eq.symm.trans laid.units_eq)
  have both := found.bytes.symm.trans laid.bytes
  obtain ⟨begins, ends⟩ := List.append_inj both (by simp [same])
  obtain rfl := RawField.flatMap_written_injective ends
  exact ⟨(List.cons.inj (List.cons.inj begins).2).2, decoded⟩

end

/-! ### A field that is replaced -/

/-- An area as it was and as it is, with other bytes in one field behind `front` of them. -/
def FieldReplaced (image other : List UInt8) (start fixedLength front : Nat) (bytes : List UInt8) : Prop :=
  ∃ units fixed before target replaced after rest tail,
    LaidOut image start units fixed (before ++ target :: after) rest ∧
    LaidOut other start units fixed (before ++ replaced :: after) tail ∧
    fixed.length = fixedLength ∧ before.length = front ∧ replaced.bytes = bytes

section
variable {image other : List UInt8} {start limit : Nat} {bytes : List UInt8}

theorem FieldReplaced.agree {first last : List UInt8} {fixedLength front : Nat}
    (replaced : FieldReplaced image other start fixedLength front bytes)
    (before : Agree image first start limit) (after : Agree other last start limit)
    (within : ∀ units, image[start + 1]? = some units → start + units.toNat * 8 ≤ limit) :
    FieldReplaced first last start fixedLength front bytes := by
  obtain ⟨units, fixed, earlier, target, replacement, later, rest, tail, old, new, holds⟩ := replaced
  have inside := within units old.units_eq
  exact ⟨units, fixed, earlier, target, replacement, later, rest, tail,
    old.agree (before.within (Nat.le_refl _) inside), new.agree (after.within (Nat.le_refl _) inside), holds⟩

/-- Two readings of an area and of what it became agree, but for the field. -/
theorem FieldReplaced.fields {fixedLength front : Nat}
    (replaced : FieldReplaced image other start fixedLength front bytes)
    {fixed changed : List UInt8} {language changedLanguage : Option UInt8} {fields others : List FruField}
    (reads : AreaReads image start limit fixed language fields)
    (again : AreaReads other start limit changed changedLanguage others)
    (length : fixed.length = fixedLength) (same : changed.length = fixedLength)
    (languages : changed = fixed → changedLanguage = language) :
    changed = fixed ∧ ∃ before old new after, fields = before ++ old :: after ∧ others = before ++ new :: after ∧
      before.length = front ∧ new.raw = bytes := by
  obtain ⟨units, fixed, before, target, replacement, after, rest, tail, old, new, rfl, rfl, rfl⟩ := replaced
  obtain ⟨rfl, decoded⟩ := reads.decoded old length
  obtain ⟨rfl, decodedAgain⟩ := again.decoded new same
  rw [languages rfl] at decodedAgain
  obtain ⟨front, former, latter, back, rfl, rfl, place, last⟩ := RawField.decoded_replaced decoded decodedAgain
  exact ⟨rfl, front, former, latter, back, rfl, rfl, place, last.kept.2⟩

/-- A board area with another serial number is parsed as before, but for the serial number. -/
theorem BoardInfo.parse_replaced (replaced : FieldReplaced image other start 4 2 bytes) {info changed : BoardInfo}
    (read : BoardInfo.parse image start limit = pure info)
    (again : BoardInfo.parse other start limit = pure changed) :
    changed = { info with serialNumber := changed.serialNumber } ∧ changed.serialNumber.raw = bytes := by
  obtain ⟨low, middle, high, minutes, reads⟩ := (BoardInfo.parse_reads image start limit).ok read
  obtain ⟨low', middle', high', minutes', reads'⟩ := (BoardInfo.parse_reads other start limit).ok again
  obtain ⟨fixed, before, old, new, after, fields, others, two, holds⟩ := replaced.fields reads reads' rfl rfl
    fun same => congrArg some (List.cons.inj same).1
  obtain ⟨first, second, rfl⟩ := List.length_eq_two.mp two
  simp only [List.cons.injEq, and_true] at fixed
  obtain ⟨language, rfl, rfl, rfl⟩ := fixed
  simp only [BoardInfo.fields, List.cons_append, List.nil_append, List.cons.injEq] at fields others
  obtain ⟨rfl, rfl, rfl, back⟩ := fields
  obtain ⟨manufacturer, productName, rfl, back'⟩ := others
  have rest := back'.trans back.symm
  simp only [List.cons.injEq] at rest
  obtain ⟨partNumber, fileId, extra⟩ := rest
  refine ⟨?_, holds⟩
  cases info
  cases changed
  simp only [BoardInfo.mk.injEq, true_and]
  exact ⟨language, minutes'.trans minutes.symm, manufacturer, productName, partNumber, fileId, extra⟩

/-- A product area with another serial number is parsed as before, but for the serial number. -/
theorem ProductInfo.parse_replaced (replaced : FieldReplaced image other start 1 4 bytes) {info changed : ProductInfo}
    (read : ProductInfo.parse image start limit = pure info)
    (again : ProductInfo.parse other start limit = pure changed) :
    changed = { info with serialNumber := changed.serialNumber } ∧ changed.serialNumber.raw = bytes := by
  have reads := (ProductInfo.parse_reads image start limit).ok read
  have readsAgain := (ProductInfo.parse_reads other start limit).ok again
  obtain ⟨fixed, before, old, new, after, fields, others, four, holds⟩ := replaced.fields reads readsAgain rfl rfl
    fun same => congrArg some (List.cons.inj same).1
  obtain ⟨first, second, third, fourth, rfl⟩ := List.length_eq_four.mp four
  have language := (List.cons.inj fixed).1
  simp only [ProductInfo.fields, List.cons_append, List.nil_append, List.cons.injEq] at fields others
  obtain ⟨rfl, rfl, rfl, rfl, rfl, back⟩ := fields
  obtain ⟨manufacturer, productName, partNumber, version, rfl, back'⟩ := others
  have rest := back'.trans back.symm
  simp only [List.cons.injEq] at rest
  obtain ⟨assetTag, fileId, extra⟩ := rest
  refine ⟨?_, holds⟩
  cases info
  cases changed
  simp only [ProductInfo.mk.injEq, true_and]
  exact ⟨language, manufacturer, productName, partNumber, version, assetTag, fileId, extra⟩

end

end IpmiRs.Storage
