import IpmiRs.Kontron.SerialPreparation
import IpmiRs.Storage.FruAgreement

/-! What the preparation of a serial number touches. It walks over the fields of
an area with a cursor of its own; the walk ends where the inventory parser found
the serial number, so no other field changes, and no access is out of range. -/
namespace IpmiRs.Kontron
open Library Library.Checked Storage

/-! ### Changing bytes in place -/

section
variable {γ : Type} {size : Nat}

theorem setByte_eq (image : Buffer size) {front more : List UInt8} {old : UInt8} (byte : UInt8)
    (held : image.val = front ++ old :: more) :
    ∃ changed, (setByte image front.length byte : Checked γ (Buffer size)) = pure changed ∧
      changed.val = front ++ byte :: more := by
  have inside : front.length < size := by
    rw [← image.property, held, List.length_append, List.length_cons]
    omega
  rw [setByte, if_pos inside]
  refine ⟨_, rfl, ?_⟩
  simp only [held, List.set_append_right _ _ (Nat.le_refl _), Nat.sub_self, List.set_cons_zero]

theorem copyFromSlice_eq (image : Buffer size) {front old bytes more : List UInt8}
    (held : image.val = front ++ (old ++ more)) (length : bytes.length = old.length) :
    ∃ copied, (copyFromSlice image front.length (front.length + old.length) bytes : Checked γ (Buffer size)) =
        pure copied ∧ copied.val = front ++ (bytes ++ more) := by
  have fits : front.length ≤ front.length + old.length ∧ front.length + old.length ≤ image.val.length ∧
      bytes.length = front.length + old.length - front.length := by
    rw [held, List.length_append, List.length_append]
    omega
  rw [copyFromSlice, dif_pos fits]
  refine ⟨_, rfl, ?_⟩
  simp only [held, List.take_left]
  rw [← List.append_assoc front old more, ← List.length_append, List.drop_left]

theorem checksum_eq (image : Buffer size) {area : Span} {front more : List UInt8} {last : UInt8}
    (held : image.val = front ++ last :: more) (begun : area.start ≤ front.length)
    (ends : area.stop = front.length + 1) :
    ∃ changed sum, (checksum image area : Checked γ (Buffer size)) = pure changed ∧
      changed.val = front ++ sum :: more := by
  have inside : front.length ≤ image.val.length := by
    rw [held, List.length_append]
    omega
  unfold checksum
  rw [sub_eq (by omega), pure_bind, show area.stop - 1 = front.length by omega, slice_eq begun inside, pure_bind]
  obtain ⟨changed, set, value⟩ := setByte_eq image
    (-Checksum.total ((image.val.take front.length).drop area.start)) held
  exact ⟨changed, _, set, value⟩

/-! ### The walk over the fields -/

theorem descriptorAt_eq {image front more : List UInt8} {area : Span} {descriptor : UInt8}
    (held : image = front ++ descriptor :: more) (room : front.length + 1 < area.stop) :
    (descriptorAt image area front.length : Checked γ (Option UInt8)) = pure (some descriptor) := by
  have found : image[front.length]? = some descriptor := by
    rw [held, List.getElem?_append_right (Nat.le_refl _), Nat.sub_self, List.getElem?_cons_zero]
  unfold descriptorAt
  rw [found]
  dsimp only
  rw [sub_eq (by omega), pure_bind, if_pos (by omega)]

/-- The walk over fields that are there ends behind the last of them. -/
theorem skipFields_eq {image : List UInt8} {area : Span} (before : List RawField) {front more : List UInt8}
    (held : image = front ++ (before.flatMap RawField.written ++ more))
    (room : front.length + (before.flatMap RawField.written).length + 1 < area.stop) :
    (skipFields image area before.length front.length : Checked γ (Option Nat)) =
      pure (some (front.length + (before.flatMap RawField.written).length)) := by
  induction before generalizing front with
  | nil => rfl
  | cons raw before ih =>
    rw [List.flatMap_cons, List.length_append] at room
    rw [List.flatMap_cons, List.append_assoc] at held
    have written : raw.written.length = 1 + (raw.descriptor &&& 0x3f).toNat := by
      rw [RawField.written, List.length_cons, raw.length]
      omega
    have here : image = front ++ raw.descriptor :: (raw.bytes ++ (before.flatMap RawField.written ++ more)) := held
    change (descriptorAt image area front.length >>= _) = _
    rw [descriptorAt_eq here (by omega), pure_bind]
    dsimp only
    rw [if_neg (by omega), ← written, ← List.length_append]
    rw [ih (by rw [held, List.append_assoc]) (by rw [List.length_append]; omega)]
    rw [List.flatMap_cons, List.length_append, List.length_append, Nat.add_assoc]

/-! ### One serial number -/

theorem part_append (front bytes more : List UInt8) :
    part (front ++ (bytes ++ more)) front.length bytes.length = bytes := by
  rw [part, List.drop_left, List.take_left]

/-- Where bytes that were put into the place of others differ from them. -/
theorem differs_inside {front old new more : List UInt8} (length : new.length = old.length) {i : Nat}
    (differs : (front ++ (new ++ more))[i]? ≠ (front ++ (old ++ more))[i]?) :
    front.length ≤ i ∧ i < front.length + old.length := by
  by_contra outside
  refine differs ?_
  by_cases below : i < front.length
  · rw [List.getElem?_append_left below, List.getElem?_append_left below]
  · have above : front.length ≤ i := Nat.le_of_not_lt below
    rw [List.getElem?_append_right above, List.getElem?_append_right above,
      List.getElem?_append_right (by omega), List.getElem?_append_right (by omega), length]

/-- The bytes of a field, and the last byte of its area. -/
def Touched (field length last i : Nat) : Prop := (field ≤ i ∧ i < field + length) ∨ i = last

/-- An area within its image. -/
theorem around_iff {image : List UInt8} {start : Nat} {units : UInt8} {fixed : List UInt8} {raws : List RawField}
    {rest : List UInt8} (long : units.toNat * 8 =
      (1 :: units :: fixed ++ (raws.flatMap RawField.written ++ 0xc1 :: rest)).length) :
    LaidOut image start units fixed raws rest ↔ ∃ front post, front.length = start ∧
      image = front ++ ((1 :: units :: fixed ++ (raws.flatMap RawField.written ++ 0xc1 :: rest)) ++ post) := by
  constructor
  · intro laid
    refine ⟨image.take start, image.drop (start + units.toNat * 8), ?_, ?_⟩
    · have := laid.inside
      rw [List.length_take]
      omega
    · rw [← laid.bytes, part, ← List.drop_drop, List.take_append_drop, List.take_append_drop]
  · rintro ⟨front, post, rfl, rfl⟩
    refine ⟨?_, ?_⟩
    · rw [List.length_append, List.length_append]
      omega
    · rw [long, part_append]

/-- A serial number that is replaced takes the place of the field that stands
there, and nothing but this field and the checksum changes. -/
theorem replaceSerial_yields {image : Buffer size} {area : Span} {units : UInt8} {fixed : List UInt8}
    {before after : List RawField} {target : RawField} {rest : List UInt8} {last : UInt8} (serial : List UInt8)
    (laid : LaidOut image.val area.start units fixed (before ++ target :: after) (rest ++ [last]))
    (ends : area.stop = area.start + units.toNat * 8)
    (fields : fixed.length + 2 = if before.length = 2 then 6 else 3) :
    Yields (fun r : Bool × Buffer size => r.1 = true →
        target.bytes.length = serial.length ∧
        FieldReplaced image.val r.2.val area.start fixed.length before.length serial ∧
        ∀ i, r.2.val[i]? ≠ image.val[i]? → (area.start ≤ i ∧ i < area.stop) ∧
          Touched (area.start + (fixed.length + 2 + (before.flatMap RawField.written).length + 1)) serial.length
            (area.stop - 1) i)
      (replaceSerial image area before.length serial : Checked γ (Bool × Buffer size)) := by
  have long : units.toNat * 8 = (1 :: units :: fixed ++
      ((before ++ target :: after).flatMap RawField.written ++ 0xc1 :: (rest ++ [last]))).length := by
    rw [← laid.bytes, part_length laid.inside]
  obtain ⟨front, post, begins, around⟩ := (around_iff long).mp laid
  rw [List.flatMap_append, List.flatMap_cons] at around long
  -- The area up to its fields, and from the field that is replaced up to the checksum.
  generalize flattened : before.flatMap RawField.written = skipped at around long ⊢
  generalize onwards : after.flatMap RawField.written ++ 0xc1 :: rest = tail
  have here : image.val = (front ++ 1 :: units :: fixed) ++ (before.flatMap RawField.written ++
      target.descriptor :: (target.bytes ++ (tail ++ last :: post))) := by
    rw [around, flattened, ← onwards]
    simp [RawField.written]
  have stops : area.stop = (front ++ 1 :: units :: fixed).length + skipped.length + 1 + target.bytes.length +
      tail.length + 1 := by
    rw [ends, ← begins, long, ← onwards]
    simp [RawField.written]
    omega
  have head : (front ++ 1 :: units :: fixed).length = area.start + (fixed.length + 2) := by
    rw [← begins]
    simp
  have reached : image.val = (front ++ 1 :: units :: fixed ++ skipped) ++
      target.descriptor :: (target.bytes ++ (tail ++ last :: post)) := by
    rw [here, flattened]
    simp only [List.append_assoc]
  unfold replaceSerial
  dsimp only
  rw [← fields, ← head, skipFields_eq before here (by rw [flattened]; omega), pure_bind, flattened]
  dsimp only
  rw [← List.length_append, descriptorAt_eq reached (by rw [List.length_append]; omega), pure_bind]
  dsimp only
  split
  · exact .pure fun never => Bool.noConfusion never
  rename_i fits
  simp only [not_or, not_not] at fits
  obtain ⟨-, described, -⟩ := fits
  have length : target.bytes.length = serial.length := target.length.trans described
  rw [← target.length]
  generalize whole : front ++ 1 :: units :: fixed ++ skipped ++ [target.descriptor] = passed
  have place : passed.length = (front ++ 1 :: units :: fixed).length + skipped.length + 1 := by
    rw [← whole, List.length_append, List.length_append]
    rfl
  have slot : image.val = passed ++ (target.bytes ++ (tail ++ last :: post)) := by
    rw [reached, ← whole]
    simp only [List.append_assoc, List.cons_append, List.nil_append]
  obtain ⟨copied, done, value⟩ := @copyFromSlice_eq γ size image _ _ serial _ slot length.symm
  rw [show (front ++ 1 :: units :: fixed ++ skipped).length + 1 = passed.length by
    rw [place, List.length_append], done, pure_bind]
  have sealing : copied.val = (passed ++ (serial ++ tail)) ++ last :: post := by
    rw [value]
    simp only [List.append_assoc]
  obtain ⟨changed, sum, done, result⟩ := @checksum_eq γ size copied area _ _ _ sealing
    (by rw [List.length_append]; omega)
    (by rw [List.length_append, List.length_append]; omega)
  rw [done, pure_bind]
  refine .pure fun _ => ⟨length, ?_, ?_⟩
  · let replaced : RawField := ⟨target.descriptor, serial, described.symm, target.more⟩
    have shape : (1 :: units :: fixed ++
        ((before ++ replaced :: after).flatMap RawField.written ++ 0xc1 :: (rest ++ [sum]))).length =
        units.toNat * 8 := by
      rw [long]
      simp [RawField.written, replaced, flattened, length]
    refine ⟨units, fixed, before, target, replaced, after, rest ++ [last], rest ++ [sum], laid, ?_, rfl, rfl, rfl⟩
    refine (around_iff shape.symm).mpr ⟨front, post, begins, ?_⟩
    rw [result, ← whole, ← onwards, List.flatMap_append, List.flatMap_cons, flattened]
    simp [RawField.written, replaced]
  · intro i differs
    rw [← Nat.add_assoc, ← Nat.add_assoc, ← head, ← place]
    by_cases same : copied.val[i]? = image.val[i]?
    · rw [← same, sealing, result] at differs
      have bounds := @differs_inside (passed ++ (serial ++ tail)) [last] [sum] post rfl i differs
      rw [List.length_append, List.length_append, List.length_singleton] at bounds
      exact ⟨by omega, .inr (by omega)⟩
    · rw [slot, value] at same
      have bounds := differs_inside length.symm same
      exact ⟨by omega, .inl ⟨bounds.1, by omega⟩⟩

/-- Where a field lies in its area, behind some fixed bytes and the fields before it. -/
def fieldAt (start fixedLength : Nat) (before : List FruField) : Nat :=
  start + (fixedLength + 2 + (before.flatMap FruField.serialise).length + 1)

/-- One serial number of an image was replaced: the field that was read behind
`before`, and the checksum of its area. -/
structure SerialReplaced (image changed : List UInt8) (area : Span) (limit fixedLength : Nat)
    (before : List FruField) (field : FruField) (serial : List UInt8) : Prop where
  within : area.stop ≤ limit
  length : changed.length = image.length
  inside : fieldAt area.start fixedLength before + serial.length < area.stop
  found : part image (fieldAt area.start fixedLength before) serial.length = field.raw
  replaced : FieldReplaced image changed area.start fixedLength before.length serial
  changes : ∀ i, changed[i]? ≠ image[i]? → (area.start ≤ i ∧ i < area.stop) ∧
    Touched (fieldAt area.start fixedLength before) serial.length (area.stop - 1) i

/-- What lies outside of the area is as it was. -/
theorem SerialReplaced.agree {image changed : List UInt8} {area : Span} {limit fixedLength : Nat}
    {before : List FruField} {field : FruField} {serial : List UInt8}
    (replaced : SerialReplaced image changed area limit fixedLength before field serial) {low high : Nat}
    (apart : high ≤ area.start ∨ area.stop ≤ low) : Agree image changed low high := by
  refine ⟨replaced.length, fun i above below => ?_⟩
  by_contra differs
  have inside := (replaced.changes i differs).1
  omega

theorem replaceSerialField_yields {ε : Type} {image : Buffer size} {area : Span} {limit : Nat} {fixed : List UInt8}
    {language : Option UInt8} {before after : List FruField} {field : FruField} (kind : KontronArea)
    (serial : List UInt8)
    (reads : AreaReads image.val area.start limit fixed language (before ++ field :: after))
    (ends : ∀ units, image.val[area.start + 1]? = some units → area.stop = area.start + units.toNat * 8)
    (fields : fixed.length + 2 = if before.length = 2 then 6 else 3) :
    Yields (fun changed : Buffer size =>
        SerialReplaced image.val changed.val area limit fixed.length before field serial)
      (replaceSerialField (ε := ε) image kind area before.length serial) := by
  obtain ⟨units, earlier, target, later, rest, last, laid, within, many, written, bytes⟩ := reads.split
  have stop := ends units laid.units_eq
  rw [← many] at fields ⊢
  refine .bind (replaceSerial_yields serial laid stop fields) ?_
  rintro ⟨replaced, changed⟩ changes
  dsimp only
  split
  · exact .throw _
  rename_i done
  obtain ⟨length, field, touched⟩ := changes (by simpa using done)
  rw [written] at touched
  obtain ⟨inside, place⟩ := laid.field_at
  rw [written, length] at inside place
  refine .pure ⟨by omega, changed.property.trans image.property.symm, by rw [fieldAt]; omega, ?_,
    many ▸ field, touched⟩
  rw [fieldAt, place, bytes]

end

/-! ### Both serial numbers -/

/-- Where the serial number of a board area lies. -/
def boardSerialAt (start : Nat) (board : BoardInfo) : Nat :=
  fieldAt start 4 [board.manufacturer, board.productName]

/-- Where the serial number of a product area lies. -/
def productSerialAt (start : Nat) (product : ProductInfo) : Nat :=
  fieldAt start 1 [product.manufacturer, product.productName, product.partNumber, product.version]

/-- The last byte of the area at `start`. -/
def checksumAt (image : List UInt8) (start : Nat) : Nat := start + (unitsAt image start).toNat * 8 - 1

/-- An image and what is proposed for it: the bytes of the two serial numbers
and the two checksums are all that differs, and it is parsed to the same
inventory with `serial` in both places. -/
structure OnlySerials (image proposed serial : List UInt8) : Prop where
  length : proposed.length = image.length
  parsed : ∃ inventory boardStart productStart board product boardSerial productSerial,
    parseInventory image = .ok inventory ∧
    inventory.header.board = some boardStart ∧ inventory.board = some board ∧
    inventory.header.product = some productStart ∧ inventory.product = some product ∧
    part image (boardSerialAt boardStart board) serial.length = board.serialNumber.raw ∧
    part image (productSerialAt productStart product) serial.length = product.serialNumber.raw ∧
    (∀ i, proposed[i]? ≠ image[i]? →
      Touched (boardSerialAt boardStart board) serial.length (checksumAt image boardStart) i ∨
      Touched (productSerialAt productStart product) serial.length (checksumAt image productStart) i) ∧
    boardSerial.raw = serial ∧ productSerial.raw = serial ∧
    parseInventory proposed = .ok { inventory with
      board := some { board with serialNumber := boardSerial }
      product := some { product with serialNumber := productSerial } }

section
variable {image middle proposed serial : List UInt8} {inventory changed : FruInventory} {board : BoardInfo}
  {product : ProductInfo} {boardArea productArea : Span}

/-- The offsets of a header are apart. -/
theorem HeaderAt.offsets_ne {h : FruHeader} (read : HeaderAt image h) {boardStart productStart : Nat}
    (boardAt : h.board = some boardStart) (productAt : h.product = some productStart) :
    boardStart ≠ productStart ∧
    (∀ start, h.internalUse = some start ∨ h.chassis = some start ∨ h.multirecord = some start →
      start ≠ boardStart ∧ start ≠ productStart) := by
  have distinct := read.distinct
  simp only [FruHeader.offsets, List.pairwise_cons, List.mem_cons, List.not_mem_nil, or_false, forall_eq_or_imp,
    forall_eq, ne_eq] at distinct
  obtain ⟨⟨-, first, second, -⟩, ⟨third, fourth, -⟩, ⟨fifth, sixth⟩, seventh, -⟩ := distinct
  refine ⟨fun same => fifth boardStart boardAt (same ▸ productAt), ?_⟩
  rintro start (here | here | here)
  · exact ⟨fun same => first start here (same ▸ boardAt), fun same => second start here (same ▸ productAt)⟩
  · exact ⟨fun same => third start here (same ▸ boardAt), fun same => fourth start here (same ▸ productAt)⟩
  · exact ⟨fun same => sixth boardStart boardAt (same ▸ here), fun same => seventh productStart productAt (same ▸ here)⟩

/-- An image with both serial numbers replaced, where it can be parsed, is parsed to
what it was with other serial numbers. -/
theorem parts_of_replaced (read : Parsed image inventory) (again : Parsed proposed changed)
    (boardAt : inventory.header.board = some boardArea.start) (boardIs : inventory.board = some board)
    (productAt : inventory.header.product = some productArea.start) (productIs : inventory.product = some product)
    (boardStop : ∀ units, image[boardArea.start + 1]? = some units →
      boardArea.stop = boardArea.start + units.toNat * 8)
    (productStop : ∀ units, middle[productArea.start + 1]? = some units →
      productArea.stop = productArea.start + units.toNat * 8)
    (first : SerialReplaced image middle boardArea (inventory.header.limit image.length boardArea.start) 4
      [board.manufacturer, board.productName] board.serialNumber serial)
    (second : SerialReplaced middle proposed productArea (inventory.header.limit image.length productArea.start) 1
      [product.manufacturer, product.productName, product.partNumber, product.version] product.serialNumber serial) :
    ∃ boardSerial productSerial, boardSerial.raw = serial ∧ productSerial.raw = serial ∧
      changed = { inventory with
        board := some { board with serialNumber := boardSerial }
        product := some { product with serialNumber := productSerial } } := by
  have header := (FruHeader.parse_yields image).ok read.header
  have boardMember : some boardArea.start ∈ inventory.header.offsets := by simp [FruHeader.offsets, boardAt]
  have productMember : some productArea.start ∈ inventory.header.offsets := by simp [FruHeader.offsets, productAt]
  obtain ⟨distinct, others⟩ := HeaderAt.offsets_ne header boardAt productAt
  have boardBegins := (header.inside _ boardMember).1
  have productBegins := (header.inside _ productMember).1
  have boardWithin := first.within
  have productWithin := second.within
  have boardOrdered := boardArea.ordered
  have productOrdered := productArea.ordered
  generalize ends : inventory.header.limit image.length = limit at boardWithin productWithin
  have length : proposed.length = image.length := second.length.trans first.length
  have outside {low high : Nat} (board : high ≤ boardArea.start ∨ boardArea.stop ≤ low)
      (product : high ≤ productArea.start ∨ productArea.stop ≤ low) : Agree image proposed low high :=
    ⟨length, fun i above below => ((second.agree product).bytes i above below).trans
      ((first.agree board).bytes i above below)⟩
  have same : changed.header = inventory.header := by
    have both := again.header.symm.trans ((FruHeader.parse_agree (outside (.inl boardBegins) (.inl productBegins))).trans
      read.header)
    exact returned_unique both
  have apart {start : Nat} (member : some start ∈ inventory.header.offsets)
      (other : start ≠ boardArea.start ∧ start ≠ productArea.start) : Agree image proposed start (limit start) := by
    have board := FruHeader.limit_apart image member boardMember other.1
    have product := FruHeader.limit_apart image member productMember other.2
    rw [ends] at board product
    exact outside (by omega) (by omega)
  obtain ⟨-, internalUse, chassis, boardPart, productPart, records⟩ := again
  rw [same, length, ends] at internalUse chassis boardPart productPart records
  obtain ⟨-, internalUse', chassis', boardPart', productPart', records'⟩ := read
  rw [ends] at internalUse' chassis' boardPart' productPart' records'
  rw [boardAt, boardIs] at boardPart'
  rw [boardAt] at boardPart
  rw [productAt, productIs] at productPart'
  rw [productAt] at productPart
  have keptInternal : changed.internalUse = inventory.internalUse := by
    refine returned_unique (internalUse.symm.trans (Eq.trans (ifPresent_eq fun start here => ?_) internalUse'))
    exact (apart (by simp [FruHeader.offsets, here]) (others start (.inl here))).slice
  have keptChassis : changed.chassis = inventory.chassis := by
    refine returned_unique (chassis.symm.trans (ifPresent_congr (fun start info here parsed => ?_) chassis'))
    exact ChassisInfo.parse_agree (apart (by simp [FruHeader.offsets, here]) (others start (.inr (.inl here)))) parsed
  have keptRecords : (changed.multirecords, changed.multirecordTail) =
      (inventory.multirecords, inventory.multirecordTail) := by
    refine returned_unique (records.symm.trans (Eq.trans (congrArg _ (ifPresent_eq fun start here => ?_)) records'))
    exact multirecordArea_agree (apart (by simp [FruHeader.offsets, here]) (others start (.inr (.inr here))))
  have either := FruHeader.limit_apart image boardMember productMember distinct
  rw [ends] at either
  obtain ⟨value, found, parsed⟩ := ifPresent_some boardPart'
  obtain rfl := Option.some.inj found
  obtain ⟨newBoard, boardChanged, reparsed⟩ := ifPresent_some boardPart
  have boardReplaced : FieldReplaced image proposed boardArea.start 4 2 serial :=
    first.replaced.agree (.refl _ _ _) (second.agree (by omega))
      fun units units_eq => Nat.le_of_eq (boardStop units units_eq).symm
  obtain ⟨boardEq, boardRaw⟩ := BoardInfo.parse_replaced boardReplaced parsed reparsed
  obtain ⟨value, found, parsed⟩ := ifPresent_some productPart'
  obtain rfl := Option.some.inj found
  obtain ⟨newProduct, productChanged, reparsed⟩ := ifPresent_some productPart
  have productReplaced : FieldReplaced image proposed productArea.start 1 4 serial :=
    second.replaced.agree (first.agree (by omega)).symm (.refl _ _ _)
      fun units units_eq => Nat.le_of_eq (productStop units units_eq).symm
  obtain ⟨productEq, productRaw⟩ := ProductInfo.parse_replaced productReplaced parsed reparsed
  refine ⟨newBoard.serialNumber, newProduct.serialNumber, boardRaw, productRaw, ?_⟩
  obtain ⟨keptMulti, keptTail⟩ := Prod.mk.inj keptRecords
  rw [← boardEq, ← productEq, ← boardChanged, ← productChanged]
  cases changed
  cases inventory
  simp only [FruInventory.mk.injEq, true_and]
  exact ⟨same, keptInternal, keptChassis, keptMulti, keptTail⟩

end

/-! ### The preparation -/

theorem areaRange_eq_ok {image : List UInt8} {start : Nat} {span : SpanIn image}
    (found : areaRange image start = .ok span) :
    span.val.start = start ∧ ∀ units, image[start + 1]? = some units → span.val.stop = start + units.toNat * 8 := by
  unfold areaRange at found
  cases length : image[start + 1]? with
  | none =>
    rw [length] at found
    cases found
  | some units =>
    rw [length] at found
    dsimp only at found
    split at found
    · cases found
    · obtain rfl := Except.ok.inj found
      refine ⟨rfl, fun other same => ?_⟩
      obtain rfl := Option.some.inj same
      rfl

/-- What is backed up is an image that was parsed, with the areas its header names. -/
theorem backup_eq_ok {image : List UInt8} {original : KontronFruBackup} (kept : backup image = .ok (some original)) :
    original.image = image ∧ ∃ inventory, parseInventory image = .ok inventory ∧
      inventory.header.board = some original.board.start ∧ inventory.header.product = some original.product.start ∧
      (∀ units, image[original.board.start + 1]? = some units →
        original.board.stop = original.board.start + units.toNat * 8) ∧
      ∀ units, image[original.product.start + 1]? = some units →
        original.product.stop = original.product.start + units.toNat * 8 := by
  unfold backup at kept
  obtain ⟨inventory, read, kept⟩ := of_bind_eq_ok kept
  split at kept
  · rename_i board product boardAt productAt
    obtain ⟨boardSpan, first, kept⟩ := of_bind_eq_ok kept
    obtain ⟨productSpan, second, kept⟩ := of_bind_eq_ok kept
    obtain ⟨begins, stops⟩ := areaRange_eq_ok first
    obtain ⟨begins', stops'⟩ := areaRange_eq_ok second
    obtain rfl := Option.some.inj (Except.ok.inj kept)
    subst begins begins'
    exact ⟨rfl, inventory, read, boardAt, productAt, stops, stops'⟩
  · cases Except.ok.inj kept

theorem checksumAt_eq {image : List UInt8} {start : Nat} {units : UInt8} {fixed : List UInt8} {raws : List RawField}
    {rest : List UInt8} (laid : LaidOut image start units fixed raws rest) :
    checksumAt image start = start + units.toNat * 8 - 1 := by
  rw [checksumAt, unitsAt, laid.units_eq, Option.getD_some]

/-! ### What a replacement fails with -/

section
variable {γ : Type} {size : Nat} {E : γ → Prop}

theorem setByte_fails (image : Buffer size) (index : Nat) (byte : UInt8) : Fails E (setByte image index byte) := by
  unfold setByte
  split <;> trivial

theorem checksum_fails (image : Buffer size) (area : Span) : Fails E (checksum image area) :=
  .bind (fails_sub _ _) fun _ => .bind (.elim _) fun _ => setByte_fails _ _ _

theorem descriptorAt_fails (image : List UInt8) (area : Span) (pos : Nat) : Fails E (descriptorAt image area pos) := by
  unfold descriptorAt
  split
  · exact .pure _
  · exact .bind (fails_sub _ _) fun _ => .pure _

theorem skipFields_fails (image : List UInt8) (area : Span) (left pos : Nat) :
    Fails E (skipFields image area left pos) := by
  induction left generalizing pos with
  | zero => exact .pure _
  | succ left ih =>
    refine .bind (descriptorAt_fails _ _ _) fun found => ?_
    cases found with
    | none => exact .pure _
    | some descriptor =>
      dsimp only
      split
      · exact .pure _
      · exact ih _

theorem replaceSerial_fails (image : Buffer size) (area : Span) (precedingFields : Nat) (serial : List UInt8) :
    Fails E (replaceSerial image area precedingFields serial) := by
  refine .bind (skipFields_fails _ _ _ _) fun reached => ?_
  cases reached with
  | none => exact .pure _
  | some pos =>
    refine .bind (descriptorAt_fails _ _ _) fun found => ?_
    cases found with
    | none => exact .pure _
    | some descriptor =>
      dsimp only
      split
      · exact .pure _
      · refine .bind ?_ fun _ => .bind (checksum_fails _ _) fun _ => .pure _
        unfold copyFromSlice
        split <;> trivial

end

/-- A replacement fails only for the field it does not fit. -/
theorem replaceSerials_fails {ε : Type} {size : Nat} (board product : Span) (serial : List UInt8)
    (image : Buffer size) :
    Fails (· ≠ .panicked) (replaceSerials (ε := ε) board product serial image) := by
  have field (image : Buffer size) (kind : KontronArea) (range : Span) (skipped : Nat) :
      Fails (· ≠ .panicked) (replaceSerialField (ε := ε) image kind range skipped serial) := by
    refine .bind (replaceSerial_fails _ _ _ _) fun result => ?_
    dsimp only
    split
    · exact .throw (by simp)
    · exact .pure _
  exact .bind (field _ _ _ _) fun _ => field _ _ _ _

/-- Replacing both serial numbers of an image that was backed up panics for no
serial number, and where the result can be parsed nothing else has changed. -/
theorem replaceSerials_yields {ε : Type} {size : Nat} {image : Buffer size} {original : KontronFruBackup}
    (kept : backup image.val = .ok (some original)) (serial : List UInt8) :
    Yields (fun proposed : Buffer size => ∀ inventory, parseInventory proposed.val = .ok inventory →
        OnlySerials image.val proposed.val serial)
      (replaceSerials (ε := ε) original.board original.product serial image) := by
  obtain ⟨-, inventory, read, boardAt, productAt, boardStop, productStop⟩ := backup_eq_ok kept
  have parts := FruInventory.parse_parts (parseInventory_eq_ok read)
  have header := (FruHeader.parse_yields image.val).ok parts.header
  have boardMember : some original.board.start ∈ inventory.header.offsets := by simp [FruHeader.offsets, boardAt]
  have productMember : some original.product.start ∈ inventory.header.offsets := by
    simp [FruHeader.offsets, productAt]
  have either := FruHeader.limit_apart image.val boardMember productMember
    (HeaderAt.offsets_ne header boardAt productAt).1
  have boardPart := parts.board
  have productPart := parts.product
  rw [boardAt] at boardPart
  rw [productAt] at productPart
  obtain ⟨board, boardIs, boardParsed⟩ := ifPresent_some boardPart
  obtain ⟨product, productIs, productParsed⟩ := ifPresent_some productPart
  obtain ⟨low, middle, high, -, boardReads⟩ := (BoardInfo.parse_reads _ _ _).ok boardParsed
  have productReads := (ProductInfo.parse_reads _ _ _).ok productParsed
  obtain ⟨_, _, _, _, boardLaid, -, -⟩ := boardReads.laidOut
  obtain ⟨units, raws, rest, last, laid, within, -⟩ := productReads.laidOut
  have stop := productStop units laid.units_eq
  have boardBefore : AreaReads image.val original.board.start _ [board.language, low, middle, high] _
    ([board.manufacturer, board.productName] ++ board.serialNumber ::
      board.partNumber :: board.fileId :: board.extra) := boardReads
  refine .bind (replaceSerialField_yields .board serial boardBefore boardStop rfl) fun between first => ?_
  have boardWithin := first.within
  have boardOrdered := original.board.ordered
  have agree : Agree image.val between.val original.product.start
      (inventory.header.limit image.val.length original.product.start) := first.agree (by omega)
  have productStop' : ∀ units, between.val[original.product.start + 1]? = some units →
      original.product.stop = original.product.start + units.toNat * 8 := by
    intro other same
    have still := (laid.agree (agree.within (Nat.le_refl _) within)).units_eq
    obtain rfl := Option.some.inj (still.symm.trans same)
    exact stop
  have productBefore : AreaReads between.val original.product.start _ [product.language] _
    ([product.manufacturer, product.productName, product.partNumber, product.version] ++ product.serialNumber ::
      product.assetTag :: product.fileId :: product.extra) := productReads.agree agree
  refine (replaceSerialField_yields .product serial productBefore productStop' rfl).mono
    fun proposed second changed parsed => ?_
  obtain ⟨boardSerial, productSerial, boardRaw, productRaw, rfl⟩ := parts_of_replaced parts
    (FruInventory.parse_parts (parseInventory_eq_ok parsed)) boardAt boardIs productAt productIs boardStop productStop'
    first second
  have productField := second.found
  have productInside : productSerialAt original.product.start product + serial.length < original.product.stop :=
    second.inside
  have sums : original.board.stop - 1 = checksumAt image.val original.board.start ∧
      original.product.stop - 1 = checksumAt image.val original.product.start := by
    rw [checksumAt_eq boardLaid, checksumAt_eq laid, boardStop _ boardLaid.units_eq, stop]
    exact ⟨rfl, rfl⟩
  refine ⟨second.length.trans first.length, inventory, _, _, board, product, boardSerial, productSerial, read, boardAt,
    boardIs, productAt, productIs, first.found, ?_, ?_, boardRaw, productRaw, parsed⟩
  · rw [← productField]
    refine ((agree.within ?_ ?_).part).symm
    · rw [productSerialAt, fieldAt]
      omega
    · omega
  · intro i differs
    rw [← sums.1, ← sums.2]
    by_cases same : between.val[i]? = image.val[i]?
    · rw [← same] at differs
      exact .inr (second.changes i differs).2
    · exact .inl (first.changes i same).2

section
variable {σ ε : Type} (con : IpmiConnection σ ε)
open Stateful

/-- A step whose errors are errors of the preparation. -/
theorem adapt_ends {α β : Type} (x : Stateful σ β α) {f : β → KontronPreparationError ε}
    (named : ∀ error, f error ≠ .panicked) (s : σ) :
    Ends (ExceptT.adapt f x) s (fun value t => x.eval s = (.ok value, t)) (fun error _ => error ≠ .panicked) :=
  Ends.adapt (Ends.mono (Ends.self x s) (fun _ _ ended => ended) fun error _ _ => named error)

/-- What does not panic, and does not fail as if it did. -/
theorem unwinding_ends {α : Type} {x : Checked (KontronPreparationError ε) α} {P : α → Prop} (yields : Yields P x)
    (fails : Fails (· ≠ .panicked) x) {s : σ} :
    Ends (unwinding x) s (fun value _ => P value) (fun error _ => error ≠ .panicked) := by
  match x with
  | some (.ok value) => exact yields
  | some (.error error) => exact fails
  | none => exact yields.elim

/-- A change as it was prepared of a FRU: the image that was read, backed up. -/
structure Backed (con : IpmiConnection σ ε) (device : FruDevice) (identity : App.DeviceId) (s : σ)
    (change : KontronFruChange) : Prop where
  sameDevice : change.device = device
  sameIdentity : change.identity = identity
  read : ∃ asked after, (fruInfo con device).eval s = (.ok change.info, asked) ∧
    (readFruImage con device).eval asked = (.ok change.backup.image, after)
  kept : backup change.backup.image = .ok (some change.backup)

theorem prepareKontronFru_ends (device : FruDevice) (identity : App.DeviceId) (s : σ) :
    Ends (prepareKontronFru con device identity) s
      (fun change _ => Backed con device identity s change ∧ change.proposed = change.backup.image)
      (fun error _ => error ≠ .panicked) := by
  unfold prepareKontronFru
  refine Ends.bind (adapt_ends _ (fun error => by simp) s) (fun _ _ named => named) fun info asked first => ?_
  refine Ends.bind (adapt_ends _ (fun error => by simp) asked) (fun _ _ named => named) fun image after second => ?_
  split
  · exact Ends.throw (by simp)
  refine Ends.ofExcept_bind (fun error failed => ?_) fun found kept => ?_
  · obtain ⟨reason, -, rfl⟩ := mapError_eq_error.mp failed
    simp
  have kept := mapError_eq_ok.mp kept
  split
  · exact Ends.throw (by simp)
  rename_i original
  refine Ends.bind (adapt_ends _ (fun error => by simp) _) (fun _ _ named => named) fun _ _ _ => ?_
  obtain rfl := (backup_eq_ok kept).1
  exact Ends.pure ⟨⟨rfl, rfl, ⟨asked, after, first, second⟩, kept⟩, rfl⟩

/-- What a preparation of the serial numbers comes to: a change for the serial number that the device reported,
of the image that was read after it. -/
structure Prepared (con : IpmiConnection σ ε) (device : FruDevice) (s : σ) (change : KontronFruChange)
    (serial : List UInt8) : Prop where
  reported : ∃ asked answered, (kontronIdentity con device.target none).eval s = (.ok change.identity, asked) ∧
    (sendOem con (getSerialNumber device.target)).eval asked = (.ok serial, answered) ∧
    Backed con device change.identity answered change
  only : OnlySerials change.backup.image change.proposed serial

theorem prepareKontronSerial_ends (device : FruDevice) (s : σ) :
    Ends (prepareKontronSerial con device) s (fun change _ => ∃ serial, Prepared con device s change serial)
      (fun error _ => error ≠ .panicked) := by
  unfold prepareKontronSerial
  split
  · exact Ends.throw (by simp)
  refine Ends.bind (adapt_ends _ (fun error => by simp) s) (fun _ _ named => named) fun identity asked first => ?_
  refine Ends.bind (adapt_ends _ (fun error => by simp) asked) (fun _ _ named => named)
    fun serial answered second => ?_
  refine Ends.bind (prepareKontronFru_ends con device identity answered) (fun _ _ named => named)
    fun change t held => ?_
  obtain ⟨backed, same⟩ := held
  have kept : backup change.proposed = .ok (some change.backup) := same ▸ backed.kept
  refine Ends.bind (unwinding_ends (replaceSerials_yields kept serial) (replaceSerials_fails _ _ serial _))
    (fun _ _ named => named) fun proposed _ only => ?_
  refine Ends.ofExcept_bind (fun error failed => ?_) fun inventory parsed => ?_
  · obtain ⟨reason, -, rfl⟩ := mapError_eq_error.mp failed
    simp
  · have changed : OnlySerials change.proposed proposed.val serial := only inventory (mapError_eq_ok.mp parsed)
    rw [same] at changed
    obtain rfl := backed.sameIdentity
    exact Ends.pure ⟨serial, ⟨asked, answered, first, second, backed.sameDevice, rfl, backed.read, backed.kept⟩, changed⟩

/-- A preparation of the serial numbers never panics. The change it returns is
for the serial number that the device reported, and differs from the image that
was read in the two serial numbers and their checksums alone. -/
theorem prepared_serials_only (device : FruDevice) (s : σ) :
    ((prepareKontronSerial con device).eval s).1 ≠ .error .panicked ∧
    ∀ change, ((prepareKontronSerial con device).eval s).1 = .ok change →
      ∃ identity asked serial answered,
        (kontronIdentity con device.target none).eval s = (.ok identity, asked) ∧
        (sendOem con (getSerialNumber device.target)).eval asked = (.ok serial, answered) ∧
        OnlySerials change.backup.image change.proposed serial := by
  obtain ⟨returns, fails⟩ := (prepareKontronSerial_ends con device s).evaluated
  refine ⟨fun panics => fails _ panics rfl, fun change returned => ?_⟩
  obtain ⟨serial, ⟨asked, answered, first, second, -⟩, only⟩ := returns change returned
  exact ⟨_, asked, serial, answered, first, second, only⟩

end

/-- The image of a small FRU, with a serial number of two characters in its board and product areas, and what the
last byte of each area then is. -/
def smallFru (serial : List UInt8) (boardSum productSum : UInt8) : List UInt8 :=
  [1, 0, 0, 1, 4, 0, 0, 0xFA] ++
  [1, 3, 25, 0, 0, 0, 0xC2, 0x4B, 0x4F, 0xC2, 0x43, 0x42, 0xC2] ++ serial ++ [0xC0, 0xC0, 0xC1, 0, 0, 0, 0, 0, boardSum] ++
  [1, 3, 25, 0xC2, 0x4B, 0x4F, 0xC2, 0x43, 0x50, 0xC0, 0xC0, 0xC2] ++ serial ++
  [0xC0, 0xC0, 0xC1, 0, 0, 0, 0, 0, 0, productSum]

/-- A device of Kontron's with this image, which reports another serial number. -/
def relabelled : IpmiConnection Unit Unit where
  transact request _ :=
    let image := smallFru [0x53, 0x31] 0xB9 0x2B
    let bytes := (image.drop request.data[1]!.toNat).take request.data[3]!.toNat
    (.ok (request.answer 0 (
      if request.cmd = 0x01 then [0, 0, 0, 0, 2, 0x08, 0x98, 0x3A, 0, 1, 0]
      else if request.cmd = 0x0C then [0x58, 0x39]
      else if request.cmd = 0x10 then [UInt8.ofNat image.length, 0, 0]
      else UInt8.ofNat bytes.length :: bytes)), ())

/-- Its new serial number is put in both places, with the checksums of both areas. -/
theorem prepared_serials_only_relabelled :
    ∃ change, ((prepareKontronSerial relabelled ⟨0, none, .zero⟩).eval ()).1 = .ok change ∧
      change.backup.image = smallFru [0x53, 0x31] 0xB9 0x2B ∧ change.proposed = smallFru [0x58, 0x39] 0xAC 0x1E ∧
      ∃ identity asked serial answered,
        (kontronIdentity relabelled none none).eval () = (.ok identity, asked) ∧
        (sendOem relabelled (getSerialNumber none)).eval asked = (.ok serial, answered) ∧
        OnlySerials change.backup.image change.proposed serial := by
  have prepared : ((prepareKontronSerial relabelled ⟨0, none, .zero⟩).eval ()).1.toOption.map
      (fun change => (change.backup.image, change.proposed)) =
        some (smallFru [0x53, 0x31] 0xB9 0x2B, smallFru [0x58, 0x39] 0xAC 0x1E) := by decide +kernel
  have only := prepared_serials_only relabelled ⟨0, none, .zero⟩ ()
  cases ran : ((prepareKontronSerial relabelled ⟨0, none, .zero⟩).eval ()).1 with
  | error error =>
    rw [ran] at prepared
    cases prepared
  | ok change =>
    rw [ran] at prepared
    obtain ⟨backup, proposed⟩ := Prod.mk.inj (Option.some.inj prepared)
    exact ⟨change, rfl, backup, proposed, only.2 change ran⟩

end IpmiRs.Kontron
