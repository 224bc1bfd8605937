import IpmiRs.Kontron.SerialAgreement

/-! Where the cursor of a replacement comes by. It is not the cursor of the
inventory parser and has bounds of its own, but it lands on the fields that the
parser found, and on nothing else. -/
namespace IpmiRs.Kontron
open Library Library.Checked Storage

/-- The walk over an area comes to each of its fields: to the type and length byte
in front of what the inventory parser read, with the whole field in the area. -/
def Walks (ε : Type) (image : List UInt8) (area : Span) (fixedLength : Nat) (fields : List FruField) : Prop :=
  ∀ before field after, fields = before ++ field :: after →
    ∃ place, (skipFields image area before.length (area.start + (fixedLength + 2)) :
        Checked (KontronPreparationError ε) (Option Nat)) = pure (some place) ∧
      place + 1 = fieldAt area.start fixedLength before ∧
      place + 1 + field.raw.length < area.stop ∧ part image (place + 1) field.raw.length = field.raw

section
variable {image fixed : List UInt8} {area : Span} {limit : Nat} {language : Option UInt8} {fields : List FruField}

theorem walks_of_reads {ε : Type} (reads : AreaReads image area.start limit fixed language fields)
    (ends : ∀ units, image[area.start + 1]? = some units → area.stop = area.start + units.toNat * 8) :
    Walks ε image area fixed.length fields := by
  rintro before field after rfl
  obtain ⟨units, earlier, target, later, rest, last, laid, -, many, written, bytes⟩ := reads.split
  have stop := ends units laid.units_eq
  obtain ⟨inside, place⟩ := laid.field_at
  have long : units.toNat * 8 = (1 :: units :: fixed ++
      ((earlier ++ target :: later).flatMap RawField.written ++ 0xc1 :: (rest ++ [last]))).length := by
    rw [← laid.bytes, part_length laid.inside]
  obtain ⟨front, post, begins, around⟩ := (around_iff long).mp laid
  have here : image = (front ++ 1 :: units :: fixed) ++ (earlier.flatMap RawField.written ++
      (target.written ++ later.flatMap RawField.written ++ 0xc1 :: (rest ++ [last]) ++ post)) := by
    rw [around, List.flatMap_append, List.flatMap_cons]
    simp only [List.append_assoc, List.cons_append]
  have head : (front ++ 1 :: units :: fixed).length = area.start + (fixed.length + 2) := by
    rw [List.length_append, List.length_cons, List.length_cons, begins]
  have reached := @skipFields_eq (KontronPreparationError ε) image area earlier _ _ here (by omega)
  rw [head, many] at reached
  rw [bytes, written] at place inside
  have sum : area.start + (fixed.length + 2) + (earlier.flatMap RawField.written).length + 1 =
      fieldAt area.start fixed.length before := by
    rw [written, fieldAt]
    omega
  refine ⟨_, reached, sum, ?_, ?_⟩
  · rw [sum, fieldAt]
    omega
  · rw [sum]
    exact place

/-- The areas of an image that is parsed can be backed up. -/
theorem areaRange_of_laidOut {start : Nat} {units : UInt8} {raws : List RawField} {rest : List UInt8}
    (laid : LaidOut image start units fixed raws rest) :
    ∃ range, areaRange image start = .ok range ∧ range.val.start = start := by
  have long := laid.long
  have inside := laid.inside
  unfold areaRange
  rw [laid.units_eq]
  dsimp only
  rw [dif_neg (by omega)]
  exact ⟨_, rfl, rfl⟩

end

/-- What holds of an image with both areas before any serial number is replaced: it is
backed up, its areas lie apart, and the walks over them land on the fields that were parsed. -/
structure Prepares (ε : Type) (image : List UInt8) (inventory : FruInventory) (original : KontronFruBackup) : Prop where
  kept : backup image = .ok (some original)
  image_eq : original.image = image
  boardAt : inventory.header.board = some original.board.start
  productAt : inventory.header.product = some original.product.start
  apart : original.board.stop ≤ original.product.start ∨ original.product.stop ≤ original.board.start
  walks : ∃ board product, inventory.board = some board ∧ inventory.product = some product ∧
    Walks ε image original.board 4 board.fields ∧ Walks ε image original.product 1 product.fields

theorem prepares_of_parsed (ε : Type) {image : List UInt8} {inventory : FruInventory} {boardStart productStart : Nat}
    (read : parseInventory image = .ok inventory) (boardAt : inventory.header.board = some boardStart)
    (productAt : inventory.header.product = some productStart) :
    ∃ original, Prepares ε image inventory original := by
  have parts := FruInventory.parse_parts (parseInventory_eq_ok read)
  have header := (FruHeader.parse_yields image).ok parts.header
  have boardMember : some boardStart ∈ inventory.header.offsets := by simp [FruHeader.offsets, boardAt]
  have productMember : some productStart ∈ inventory.header.offsets := by simp [FruHeader.offsets, productAt]
  have either := FruHeader.limit_apart image boardMember productMember
    (HeaderAt.offsets_ne header boardAt productAt).1
  have boardPart := parts.board
  have productPart := parts.product
  rw [boardAt] at boardPart
  rw [productAt] at productPart
  obtain ⟨board, boardIs, boardParsed⟩ := ifPresent_some boardPart
  obtain ⟨product, productIs, productParsed⟩ := ifPresent_some productPart
  obtain ⟨low, middle, high, -, boardReads⟩ := (BoardInfo.parse_reads _ _ _).ok boardParsed
  have productReads := (ProductInfo.parse_reads _ _ _).ok productParsed
  obtain ⟨_, _, _, _, boardLaid, boardWithin, -⟩ := boardReads.laidOut
  obtain ⟨_, _, _, _, productLaid, productWithin, -⟩ := productReads.laidOut
  obtain ⟨boardRange, boardKept, rfl⟩ := areaRange_of_laidOut boardLaid
  obtain ⟨productRange, productKept, rfl⟩ := areaRange_of_laidOut productLaid
  have kept : backup image =
      .ok (some ⟨image, boardRange, productRange, boardRange.property, productRange.property⟩) := by
    unfold backup
    rw [read]
    dsimp only [bind, Except.bind]
    rw [boardAt, productAt]
    dsimp only
    rw [boardKept]
    dsimp only
    rw [productKept]
    rfl
  obtain ⟨-, -, -, -, -, boardStop, productStop⟩ := backup_eq_ok kept
  refine ⟨_, kept, rfl, boardAt, productAt, ?_, board, product, boardIs, productIs,
    walks_of_reads boardReads boardStop, walks_of_reads productReads productStop⟩
  have boardEnd := boardStop _ boardLaid.units_eq
  have productEnd := productStop _ productLaid.units_eq
  dsimp only at boardEnd productEnd ⊢
  omega

/-- A preparation of the serial numbers panics for no image. Over an image with both areas its cursor lands only on
fields that the parser found, and what it replaces is the two serial numbers and their checksums. -/
theorem serial_change_stays_in_fields {σ ε : Type} (con : IpmiConnection σ ε) (device : FruDevice) (s : σ) :
    (∀ image inventory boardStart productStart, parseInventory image = .ok inventory →
      inventory.header.board = some boardStart → inventory.header.product = some productStart →
      ∃ original, Prepares ε image inventory original ∧ ∀ serial,
        Yields (fun proposed : Buffer image.length => ∀ changed, parseInventory proposed.val = .ok changed →
            OnlySerials image proposed.val serial)
          (replaceSerials (ε := ε) original.board original.product serial ⟨image, rfl⟩)) ∧
    ((prepareKontronSerial con device).eval s).1 ≠ .error .panicked ∧
    ∀ change, ((prepareKontronSerial con device).eval s).1 = .ok change →
      ∃ serial, Prepared con device s change serial := by
  refine ⟨?_, ?_⟩
  · intro image inventory boardStart productStart read boardAt productAt
    obtain ⟨original, prepares⟩ := prepares_of_parsed ε read boardAt productAt
    exact ⟨original, prepares, fun serial => @replaceSerials_yields ε _ ⟨image, rfl⟩ _ prepares.kept serial⟩
  · obtain ⟨returns, fails⟩ := (prepareKontronSerial_ends con device s).evaluated
    exact ⟨fun panics => fails _ panics rfl, returns⟩

/-- The serial number of a small FRU: both walks come to it, and its change is prepared. -/
theorem serial_change_stays_in_fields_relabelled :
    (∃ inventory original, parseInventory (smallFru [0x53, 0x31] 0xB9 0x2B) = .ok inventory ∧
      Prepares Unit (smallFru [0x53, 0x31] 0xB9 0x2B) inventory original) ∧
    ∃ change serial, Prepared relabelled ⟨0, none, .zero⟩ () change serial ∧
      change.proposed = smallFru [0x58, 0x39] 0xAC 0x1E := by
  have holds := serial_change_stays_in_fields relabelled ⟨0, none, .zero⟩ ()
  refine ⟨?_, ?_⟩
  · have parsed : (parseInventory (smallFru [0x53, 0x31] 0xB9 0x2B)).toOption.map
        (fun inventory => (inventory.header.board, inventory.header.product)) = some (some 8, some 32) := by
      decide +kernel
    cases read : parseInventory (smallFru [0x53, 0x31] 0xB9 0x2B) with
    | error error =>
      rw [read] at parsed
      cases parsed
    | ok inventory =>
      rw [read] at parsed
      obtain ⟨boardAt, productAt⟩ := Prod.mk.inj (Option.some.inj parsed)
      obtain ⟨original, prepares, -⟩ := holds.1 _ inventory 8 32 read boardAt productAt
      exact ⟨inventory, original, rfl, prepares⟩
  · have prepared : ((prepareKontronSerial relabelled ⟨0, none, .zero⟩).eval ()).1.toOption.map
        (fun change => change.proposed) = some (smallFru [0x58, 0x39] 0xAC 0x1E) := by decide +kernel
    cases ran : ((prepareKontronSerial relabelled ⟨0, none, .zero⟩).eval ()).1 with
    | error error =>
      rw [ran] at prepared
      cases prepared
    | ok change =>
      rw [ran] at prepared
      obtain ⟨serial, done⟩ := holds.2.2 change ran
      exact ⟨change, serial, done, Option.some.inj prepared⟩

end IpmiRs.Kontron
