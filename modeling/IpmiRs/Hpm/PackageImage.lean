import IpmiRs.Hpm.PackageChecked

/-! What an upgrade image is: a header, the records of its actions one after
another, and the digest of both. Parsing accepts these files and no others, and
what it returns is what the file was written from. -/
namespace IpmiRs.Hpm
open Library Library.Bytes Library.Checksum

/-- The bytes the checksum of an upload record completes: the first three of
the record, or its header with that of the image. -/
inductive ChecksumForm where
  | record
  | header
  deriving DecidableEq

namespace PackageAction

/-- The mask in the record of an action. -/
def bits : PackageAction → UInt8
  | .backup mask | .prepare mask => mask.bits
  | .upload component _ _ _ => component.bit

/-- The components an action has an image for. -/
def uploads : PackageAction → UInt8
  | .backup _ | .prepare _ => 0
  | .upload component _ _ _ => component.bit

/-- What precedes the image in an upload record, after its first three bytes. -/
def imageHeader (version : FirmwareVersion) (description : Vector UInt8 21) (data : List UInt8) :
    List UInt8 :=
  version.toList ++ description.toList ++ toLe 4 data.length

/-- What the checksum of an upload record is computed over. -/
def covered (component : ComponentId) (header : List UInt8) : ChecksumForm → List UInt8
  | .record => [2, component.bit]
  | .header => [2, component.bit] ++ header

/-- The record of an action. -/
def record (form : ChecksumForm) : PackageAction → List UInt8
  | .backup mask => [0, mask.bits, -total [0, mask.bits]]
  | .prepare mask => [1, mask.bits, -total [1, mask.bits]]
  | .upload component version description data =>
    let header := imageHeader version description data
    [2, component.bit, -total (covered component header form)] ++ header ++ data

/-- An action only concerns declared components, and what it uploads is not empty. -/
structure Valid (components : ComponentMask) (action : PackageAction) : Prop where
  declared : action.bits &&& ~~~components.bits = 0
  image : ∀ component version description data,
    action = .upload component version description data → data ≠ []

end PackageAction

/-! ### Reading what was written -/

section bytes
variable {bytes : List UInt8}

theorem length_slice {start stop : Nat} (inside : stop ≤ bytes.length) :
    (slice bytes start stop).length = stop - start := by
  rw [slice, List.length_take, List.length_drop]
  omega

/-- A part of a slice is a part of the whole. -/
theorem slice_within {pos stop low high : Nat} (inside : pos + high ≤ stop) :
    slice bytes (pos + low) (pos + high) = ((slice bytes pos stop).take high).drop low := by
  rw [slice, slice, List.take_take, List.drop_take, List.drop_drop, Nat.min_eq_left (by omega)]
  congr 1
  omega

theorem slice_start {pos stop high : Nat} (inside : pos + high ≤ stop) :
    slice bytes pos (pos + high) = (slice bytes pos stop).take high := by
  have same := @slice_within bytes pos stop 0 high inside
  rwa [Nat.add_zero, List.drop_zero] at same

/-- The array at an offset holds the bytes there. -/
theorem fixed_eq_iff {size start : Nat} {v : Vector UInt8 size} (inside : start + size ≤ bytes.length) :
    fixed size bytes start = v ↔ (bytes.drop start).take size = v.toList := by
  have held : (fixed size bytes start).toList = (bytes.drop start).take size := by
    apply List.ext_getElem
    · rw [Vector.length_toList, List.length_take, List.length_drop]
      omega
    · intro i first second
      rw [Vector.length_toList] at first
      rw [Vector.getElem_toList, List.getElem_take, List.getElem_drop]
      simp only [fixed, Vector.getElem_ofFn]
      rw [getElem!_pos bytes (start + i) (by omega)]
  rw [← held]
  exact ⟨fun same => by rw [same], Vector.toList_inj.mp⟩

end bytes

/-- A mask of one is the bit of its component. -/
theorem ofSingle_eq_iff {bits : UInt8} (single : countOnes bits = 1) {component : ComponentId} :
    ComponentId.ofSingle bits single = component ↔ bits = component.bit := by
  have table : ∀ n : Fin 256, countOnes (UInt8.ofNat n) = 1 →
      (1 : UInt8) <<< UInt8.ofNat (trailingZeros (UInt8.ofNat n)) = UInt8.ofNat n := by decide +kernel
  have back : (ComponentId.ofSingle bits single).bit = bits := by
    have entry := table ⟨bits.toNat, bits.toNat_lt⟩
    simp only [UInt8.ofNat_toNat] at entry
    exact entry single
  have injective : ∀ a b : Fin 8, (1 : UInt8) <<< UInt8.ofNat a = 1 <<< UInt8.ofNat b → a = b := by
    decide
  constructor
  · rintro rfl
    exact back.symm
  · intro same
    obtain ⟨value, bounds⟩ := component
    have equal := back.trans same
    have small := (ComponentId.ofSingle bits single).bounds
    rw [UInt8.lt_iff_toNat_lt] at bounds small
    have places := injective ⟨(ComponentId.ofSingle bits single).value.toNat, small⟩
      ⟨value.toNat, bounds⟩ (by simpa [ComponentId.bit] using equal)
    have values : (ComponentId.ofSingle bits single).value = value :=
      UInt8.toNat_inj.mp (Fin.mk.inj places)
    cases found : ComponentId.ofSingle bits single with
    | mk own _ =>
      rw [found] at values
      cases values
      rfl

theorem countOnes_bit (component : ComponentId) : countOnes component.bit = 1 := by
  obtain ⟨value, bounds⟩ := component
  have table : ∀ n : Fin 8, countOnes ((1 : UInt8) <<< UInt8.ofNat n) = 1 := by decide
  have entry := table ⟨value.toNat, UInt8.lt_iff_toNat_lt.mp bounds⟩
  simpa [ComponentId.bit] using entry

/-! ### Records -/

namespace PackageAction

@[simp] theorem length_imageHeader (version : FirmwareVersion) (description : Vector UInt8 21)
    (data : List UInt8) : (imageHeader version description data).length = 31 := by
  simp [imageHeader]

/-- An image header holds the version, the description and the filleds length. -/
theorem imageHeader_eq_iff {header : List UInt8} (whole : header.length = 31)
    {version : FirmwareVersion} {description : Vector UInt8 21} {data : List UInt8}
    (fits : data.length < 2 ^ 32) :
    header = imageHeader version description data ↔
      fixed 6 header 0 = version ∧ fixed 21 header 6 = description ∧
        ofLe (slice header 27 31) = data.length := by
  have four : (slice header 27 31).length = 4 := length_slice (by omega)
  have parts : header = (header.drop 0).take 6 ++ (header.drop 6).take 21 ++ slice header 27 31 := by
    have last : slice header 27 31 = header.drop 27 := by
      rw [slice, List.take_of_length_le]
      rw [List.length_drop]
      omega
    rw [last, List.drop_zero, ← List.take_add, List.take_append_drop]
  rw [fixed_eq_iff (by omega), fixed_eq_iff (by omega)]
  constructor
  · intro same
    rw [imageHeader, parts] at same
    obtain ⟨front, number⟩ := List.append_inj same (by
      simp only [List.length_append, List.length_take, List.length_drop, Vector.length_toList]
      omega)
    obtain ⟨first, second⟩ := List.append_inj front (by
      simp only [List.length_take, List.length_drop, Vector.length_toList]
      omega)
    exact ⟨first, second, number ▸ ofLe_toLe_of_lt (by omega)⟩
  · rintro ⟨first, second, number⟩
    rw [imageHeader, ← first, ← second, ← number, toLe_ofLe four]
    exact parts

section upload
variable {bytes : List UInt8} {contentEnd pos next : Nat} {action : PackageAction}
  {bits check : UInt8} {after : List UInt8}
  (within : contentEnd ≤ bytes.length) (limit : contentEnd < 2 ^ 32)
  (shape : slice bytes pos contentEnd = 2 :: bits :: check :: after) (inside : pos ≤ contentEnd)
include within limit shape inside

/-- What follows an upload's first three bytes decides the rest of it. -/
theorem parseUpload_ok_iff :
    parseUpload bytes contentEnd pos bits (total [2, bits, check] == 0) = .ok (action, next) ↔
      ∃ form component version description data tail,
        action = .upload component version description data ∧ data ≠ [] ∧
        2 :: bits :: check :: after = action.record form ++ tail ∧
        next = pos + (action.record form).length := by
  have size : contentEnd - pos = 3 + after.length := by
    rw [← length_slice within, shape]
    simp only [List.length_cons]
    omega
  unfold parseUpload IMAGE_HEADER_SIZE
  constructor
  · intro parsed
    split at parsed
    swap
    · cases parsed
    rename_i single
    simp only at parsed
    split at parsed
    · cases parsed
    rename_i room
    rw [Nat.not_lt] at room
    have header : slice bytes (pos + 3) (pos + (3 + 31)) = after.take 31 := by
      rw [slice_within (by omega), shape]
      rfl
    have summed : slice bytes pos (pos + (3 + 31)) = 2 :: bits :: check :: after.take 31 := by
      rw [slice_start (by omega), shape]
      rfl
    rw [header, summed] at parsed
    have whole : (after.take 31).length = 31 := by
      rw [List.length_take]
      omega
    split at parsed
    · cases parsed
    rename_i intact
    split at parsed
    · cases parsed
    rename_i nonempty
    split at parsed
    · cases parsed
    rename_i complete
    obtain ⟨rfl, rfl⟩ := Prod.mk.inj (Except.ok.inj parsed)
    generalize counted : ofLe (slice (after.take 31) 27 31) = imageLen at nonempty complete ⊢
    have image : slice bytes (pos + (3 + 31)) (pos + (3 + 31 + imageLen)) =
        (after.drop 31).take imageLen := by
      have bound : pos + (3 + 31 + imageLen) ≤ contentEnd := by omega
      rw [slice_within bound, shape, List.drop_take, Nat.add_sub_cancel_left]
      rfl
    have length : ((after.drop 31).take imageLen).length = imageLen := by
      rw [List.length_take, List.length_drop]
      omega
    rw [Nat.add_assoc pos, image]
    have described := (imageHeader_eq_iff whole (by omega)).mpr
      ⟨rfl, rfl, counted.trans length.symm⟩
    have rest : after = after.take 31 ++ (after.drop 31).take imageLen ++ after.drop (31 + imageLen) := by
      rw [List.append_assoc, ← List.drop_drop, List.take_append_drop, List.take_append_drop]
    have component : bits = (ComponentId.ofSingle bits single).bit := (ofSingle_eq_iff single).mp rfl
    generalize (after.drop 31).take imageLen = data at length described rest ⊢
    generalize ComponentId.ofSingle bits single = chosen at component ⊢
    generalize fixed 6 (after.take 31) 0 = version at described ⊢
    generalize fixed 21 (after.take 31) 6 = description at described ⊢
    have image : data ≠ [] := by
      rintro rfl
      exact nonempty length.symm
    -- The record is written in the form whose checksum holds, the short one first.
    have written : ∃ form, [2, bits, check] ++ imageHeader version description data ++ data =
        record form (.upload chosen version description data) := by
      by_cases short : total ([2, bits] ++ [check]) = 0
      · refine ⟨.record, ?_⟩
        rw [record, covered, (total_concat_eq_zero_iff _ _).mp short, component]
      · refine ⟨.header, ?_⟩
        have held : total ([2, bits] ++ imageHeader version description data ++ [check]) = 0 := by
          have failed : (total [2, bits, check] == 0) = false := beq_eq_false_iff_ne.mpr short
          rw [failed, described] at intact
          simp only [Bool.not_false, Bool.true_and, bne_iff_ne, ne_eq, not_not] at intact
          simp only [total_append, total_cons, total_nil, UInt8.add_zero] at intact ⊢
          grind
        rw [record, covered, (total_concat_eq_zero_iff _ _).mp held, component]
    obtain ⟨form, written⟩ := written
    refine ⟨form, chosen, version, description, data, after.drop (31 + imageLen), rfl, image, ?_, ?_⟩
    · rw [← written]
      conv => lhs; rw [rest, described]
      simp
    · rw [← written, List.length_append, List.length_append, length_imageHeader, length]
      rfl
  · rintro ⟨form, component, version, description, data, tail, rfl, filled, written, rfl⟩
    have opened : bits = component.bit ∧ check = -total (covered component
          (imageHeader version description data) form) ∧
        after = imageHeader version description data ++ data ++ tail := by
      simpa [record] using written
    obtain ⟨rfl, checked, parts⟩ := opened
    have room : after.length = 31 + data.length + tail.length := by
      rw [parts, List.length_append, List.length_append, length_imageHeader]
    have bound : pos + (3 + 31) ≤ contentEnd := by omega
    have header : slice bytes (pos + 3) (pos + (3 + 31)) = imageHeader version description data := by
      rw [slice_within bound, shape, parts, List.append_assoc]
      exact List.take_left' (length_imageHeader ..)
    have summed : slice bytes pos (pos + (3 + 31)) =
        2 :: component.bit :: check :: imageHeader version description data := by
      rw [slice_start bound, shape, parts, List.append_assoc]
      exact congrArg (2 :: component.bit :: check :: ·) (List.take_left' (length_imageHeader ..))
    have image : slice bytes (pos + (3 + 31)) (pos + (3 + 31 + data.length)) = data := by
      have bound : pos + (3 + 31 + data.length) ≤ contentEnd := by omega
      rw [slice_within bound, shape, List.drop_take, Nat.add_sub_cancel_left, parts, List.append_assoc]
      change ((imageHeader version description data ++ (data ++ tail)).drop 31).take data.length = data
      rw [List.drop_left' (length_imageHeader ..), List.take_left]
    obtain ⟨first, second, counted⟩ := (imageHeader_eq_iff (length_imageHeader version description data)
      (by omega)).mp rfl
    have intact : ¬ (!(total [2, component.bit, check] == 0) &&
        total (2 :: component.bit :: check :: imageHeader version description data) != 0) = true := by
      cases form with
      | record =>
        have held := (total_concat_eq_zero_iff [2, component.bit] check).mpr checked
        rw [show [2, component.bit] ++ [check] = [2, component.bit, check] from rfl] at held
        simp [held]
      | header =>
        have held := (total_concat_eq_zero_iff _ check).mpr checked
        have whole : total (2 :: component.bit :: check :: imageHeader version description data) = 0 := by
          simp only [covered, total_append, total_cons, total_nil] at held ⊢
          grind
        simp [whole]
    have nonempty : data.length ≠ 0 := fun none => filled (List.eq_nil_of_length_eq_zero none)
    have single : ComponentId.ofSingle component.bit (countOnes_bit component) = component :=
      (ofSingle_eq_iff _).mpr rfl
    rw [dif_pos (countOnes_bit component)]
    simp only
    rw [if_neg (by omega), header, summed, if_neg intact, counted, if_neg nonempty,
      if_neg (by omega), first, second, single, Nat.add_assoc pos, image]
    simp [record]
    omega

end upload

theorem bits_ne_zero (action : PackageAction) : action.bits ≠ 0 := by
  cases action with
  | backup mask => exact mask.nonempty
  | prepare mask => exact mask.nonempty
  | upload component => exact component.bit_ne_zero

/-- A record starts with its kind, the mask and a checksum. -/
theorem record_starts (action : PackageAction) (form : ChecksumForm) :
    ∃ kind check after, action.record form = kind :: action.bits :: check :: after := by
  cases action with
  | backup mask => exact ⟨_, _, _, rfl⟩
  | prepare mask => exact ⟨_, _, _, rfl⟩
  | upload => exact ⟨_, _, _, rfl⟩

/-- Backup and prepare records are alike: three bytes that add up to zero. -/
private theorem short_ok_iff {kind : UInt8} {make : ComponentMask → PackageAction}
    {components : ComponentMask} {action : PackageAction} {bits : UInt8} {pos next : Nat}
    (mask : UInt8) (nonempty : mask ≠ 0) (check : UInt8) (after : List UInt8)
    (declared : mask &&& ~~~components.bits = 0)
    (written : ∀ mask form, record form (make mask) = [kind, mask.bits, -total [kind, mask.bits]])
    (only : ∀ action form, (record form action).head? = some kind → ∃ mask, action = make mask)
    (plain : ∀ mask, (make mask).uploads = 0 ∧ (make mask).bits = mask.bits ∧
      ∀ component version description data, make mask ≠ .upload component version description data) :
    (if (total [kind, mask, check] == 0) = true then Except.ok (make ⟨mask, nonempty⟩, 0, pos + 3)
      else .error PackageError.checksum) = .ok (action, bits, next) ↔
    ∃ form tail, kind :: mask :: check :: after = action.record form ++ tail ∧
      next = pos + (action.record form).length ∧ bits = action.uploads ∧ action.Valid components := by
  have short : (total [kind, mask, check] == 0) = true ↔ check = -total [kind, mask] := by
    rw [beq_iff_eq]
    exact total_concat_eq_zero_iff [kind, mask] check
  constructor
  · intro parsed
    split at parsed
    · rename_i held
      cases parsed
      obtain ⟨none, own, other⟩ := plain ⟨mask, nonempty⟩
      refine ⟨.record, after, ?_, by rw [written]; rfl, none.symm, ?_, ?_⟩
      · rw [written, ← short.mp held]
        rfl
      · rw [own]
        exact declared
      · exact fun _ _ _ _ same => absurd same (other _ _ _ _)
    · cases parsed
  · rintro ⟨form, tail, shape, rfl, rfl, -⟩
    obtain ⟨chosen, rfl⟩ := only action form (by
      obtain ⟨first, second, third, starts⟩ := record_starts action form
      rw [starts] at shape ⊢
      rw [(List.cons.inj shape).1]
      rfl)
    rw [written] at shape ⊢
    obtain ⟨same, rest⟩ := List.cons.inj (List.cons.inj shape).2
    subst same
    rw [if_pos (short.mpr (List.cons.inj rest).1), (plain chosen).1]
    rfl

section record
variable {bytes : List UInt8} {contentEnd pos next : Nat} {action : PackageAction} {bits : UInt8}
  (within : contentEnd ≤ bytes.length) (limit : contentEnd < 2 ^ 32) (inside : pos ≤ contentEnd)
include within limit inside

/-- A record is accepted when it is the record of the action it is read as. -/
theorem parse_ok_iff (components : ComponentMask) :
    parse bytes contentEnd components pos = .ok (action, bits, next) ↔
      ∃ form tail, slice bytes pos contentEnd = action.record form ++ tail ∧
        next = pos + (action.record form).length ∧ bits = action.uploads ∧
        action.Valid components := by
  have length := @length_slice bytes pos contentEnd within
  unfold parse
  by_cases cut : contentEnd - pos < 3
  · rw [if_pos cut]
    constructor
    · intro parsed
      cases parsed
    · rintro ⟨form, tail, written, -, -, -⟩
      obtain ⟨kind, check, after, starts⟩ := record_starts action form
      rw [written, starts, List.length_append] at length
      simp only [List.length_cons] at length
      omega
  rw [if_neg cut]
  obtain ⟨kind, mask, check, after, shape⟩ :
      ∃ kind mask check after, slice bytes pos contentEnd = kind :: mask :: check :: after := by
    rcases shape : slice bytes pos contentEnd with _ | ⟨kind, _ | ⟨mask, _ | ⟨check, after⟩⟩⟩
    · rw [shape, List.length_nil] at length
      omega
    · rw [shape, List.length_singleton] at length
      omega
    · rw [shape] at length
      simp only [List.length_cons, List.length_nil] at length
      omega
    · exact ⟨kind, mask, check, after, rfl⟩
  have first : slice bytes pos (pos + 3) = [kind, mask, check] := by
    rw [slice_start (show pos + 3 ≤ contentEnd by omega), shape]
    rfl
  rw [first, shape]
  simp only [List.getElem!_cons_zero, List.getElem!_cons_succ]
  have masked (form : ChecksumForm) (tail : List UInt8)
      (written : kind :: mask :: check :: after = action.record form ++ tail) : mask = action.bits := by
    obtain ⟨_, _, _, starts⟩ := record_starts action form
    rw [starts] at written
    exact (List.cons.inj (List.cons.inj written).2).1
  by_cases empty : mask = 0
  · have refused : ComponentMask.new mask = none := by
      rw [ComponentMask.new, dif_neg (not_not.mpr empty)]
    rw [refused]
    constructor
    · intro parsed
      cases parsed
    · rintro ⟨form, tail, written, -, -, -⟩
      exact absurd ((masked form tail written).symm.trans empty) action.bits_ne_zero
  have accepted : ComponentMask.new mask = some ⟨mask, empty⟩ := by rw [ComponentMask.new, dif_pos empty]
  rw [accepted]
  simp only
  by_cases undeclared : mask &&& ~~~components.bits ≠ 0
  · rw [if_pos undeclared]
    constructor
    · intro parsed
      cases parsed
    · rintro ⟨form, tail, written, -, -, valid⟩
      exact absurd (masked form tail written ▸ valid.declared) undeclared
  rw [if_neg undeclared]
  rw [not_not] at undeclared
  by_cases backup : kind = 0
  · subst backup
    apply @short_ok_iff 0 .backup _ _ _ _ _ mask empty check after undeclared
    · exact fun _ _ => rfl
    · rintro (_ | _ | _) form starts <;> simp [record] at starts ⊢
    · exact fun _ => ⟨rfl, rfl, fun _ _ _ _ same => by cases same⟩
  by_cases prepare : kind = 1
  · subst prepare
    apply @short_ok_iff 1 .prepare _ _ _ _ _ mask empty check after undeclared
    · exact fun _ _ => rfl
    · rintro (_ | _ | _) form starts <;> simp [record] at starts ⊢
    · exact fun _ => ⟨rfl, rfl, fun _ _ _ _ same => by cases same⟩
  by_cases upload : kind = 2
  · subst upload
    change (parseUpload bytes contentEnd pos mask (total [2, mask, check] == 0)).map
      (fun read => (read.1, mask, read.2)) = .ok (action, bits, next) ↔ _
    constructor
    · intro parsed
      cases read : parseUpload bytes contentEnd pos mask (total [2, mask, check] == 0) with
      | error error =>
        rw [read] at parsed
        cases parsed
      | ok found =>
        rw [read] at parsed
        cases parsed
        obtain ⟨action, next⟩ := found
        obtain ⟨form, component, version, description, data, tail, rfl, filled, written, rfl⟩ :=
          (parseUpload_ok_iff within limit shape inside).mp read
        have same := masked form tail written
        refine ⟨form, tail, written, rfl, same, same ▸ undeclared, ?_⟩
        intro _ _ _ _ shown
        cases shown
        exact filled
    · rintro ⟨form, tail, written, rfl, rfl, valid⟩
      have same := masked form tail written
      cases action with
      | backup chosen => simp [record] at written
      | prepare chosen => simp [record] at written
      | upload component version description data =>
        have read := (parseUpload_ok_iff within limit shape inside).mpr
          ⟨form, component, version, description, data, tail, rfl,
            valid.image _ _ _ _ rfl, written, rfl⟩
        rw [read, same]
        rfl
  · constructor
    · intro parsed
      split at parsed
      · rename_i zero
        exact absurd (UInt8.toNat_inj.mp zero) backup
      · rename_i one
        exact absurd (UInt8.toNat_inj.mp one) prepare
      · rename_i two
        exact absurd (UInt8.toNat_inj.mp two) upload
      · cases parsed
    · rintro ⟨form, tail, written, -, -, -⟩
      cases action with
      | backup chosen => exact absurd (List.cons.inj written).1 backup
      | prepare chosen => exact absurd (List.cons.inj written).1 prepare
      | upload => exact absurd (List.cons.inj written).1 upload

end record

end PackageAction

/-! ### The records of a package -/

/-- The bytes of records one after another. -/
def records (entries : List (ChecksumForm × PackageAction)) : List UInt8 :=
  (entries.map fun entry => entry.2.record entry.1).flatten

/-- Everything the actions have an image for. -/
def uploaded (entries : List (ChecksumForm × PackageAction)) (start : UInt8) : UInt8 :=
  (entries.map fun entry => entry.2.uploads).foldl (· ||| ·) start

theorem record_ne_nil (action : PackageAction) (form : ChecksumForm) : action.record form ≠ [] := by
  obtain ⟨kind, check, after, starts⟩ := action.record_starts form
  rw [starts]
  exact List.cons_ne_nil _ _

theorem records_eq_nil_iff {entries : List (ChecksumForm × PackageAction)} :
    records entries = [] ↔ entries = [] := by
  constructor
  · intro empty
    cases entries with
    | nil => rfl
    | cons entry rest =>
      rw [records, List.map_cons, List.flatten_cons] at empty
      exact absurd (List.append_eq_nil_iff.mp empty).1 (record_ne_nil entry.2 entry.1)
  · rintro rfl
    rfl

/-- Nothing is left to read. -/
private theorem parseActions_finished {bytes : List UInt8} {contentEnd left pos : Nat}
    {components : ComponentMask} (finished : contentEnd ≤ pos) {actions found : List PackageAction}
    {start covered : UInt8} :
    Package.parseActions bytes contentEnd components left pos actions start = .ok (found, covered) ↔
      ∃ entries, found = actions ++ entries.map Prod.snd ∧ entries.length ≤ left ∧
        slice bytes pos contentEnd = records entries ∧
        (∀ entry ∈ entries, entry.2.Valid components) ∧ covered = uploaded entries start := by
  have empty : slice bytes pos contentEnd = [] := by
    rw [slice, Nat.sub_eq_zero_of_le finished, List.take_zero]
  rw [Package.parseActions.eq_def]
  simp only [finished, if_true]
  constructor
  · intro parsed
    cases parsed
    exact ⟨[], (List.append_nil _).symm, Nat.zero_le _, empty, nofun, rfl⟩
  · rintro ⟨entries, rfl, -, written, -, rfl⟩
    obtain rfl := records_eq_nil_iff.mp (written.symm.trans empty)
    rw [List.map_nil, List.append_nil]
    rfl

section records
variable {bytes : List UInt8} {contentEnd : Nat} (within : contentEnd ≤ bytes.length)
  (limit : contentEnd < 2 ^ 32) {components : ComponentMask}
include within limit

/-- The loop reads the records that fill what is left of the content. -/
theorem parseActions_ok_iff {left pos : Nat} (inside : pos ≤ contentEnd)
    {actions found : List PackageAction} {start covered : UInt8} :
    Package.parseActions bytes contentEnd components left pos actions start = .ok (found, covered) ↔
      ∃ entries, found = actions ++ entries.map Prod.snd ∧ entries.length ≤ left ∧
        slice bytes pos contentEnd = records entries ∧
        (∀ entry ∈ entries, entry.2.Valid components) ∧ covered = uploaded entries start := by
  induction left generalizing pos actions start with
  | zero =>
    by_cases finished : contentEnd ≤ pos
    · exact parseActions_finished finished
    rw [Package.parseActions.eq_def]
    simp only [finished, if_false]
    constructor
    · intro parsed
      cases parsed
    · rintro ⟨entries, -, none, written, -, -⟩
      obtain rfl := List.eq_nil_of_length_eq_zero (Nat.le_zero.mp none)
      have length := congrArg List.length written
      rw [length_slice within] at length
      change contentEnd - pos = 0 at length
      omega
  | succ left ih =>
    by_cases finished : contentEnd ≤ pos
    · exact parseActions_finished finished
    rw [Package.parseActions.eq_def]
    simp only [finished, if_false]
    have advance {one rest : List UInt8} (shape : slice bytes pos contentEnd = one ++ rest) :
        pos + one.length ≤ contentEnd ∧ slice bytes (pos + one.length) contentEnd = rest := by
      have length := congrArg List.length shape
      rw [length_slice within, List.length_append] at length
      refine ⟨by omega, ?_⟩
      obtain ⟨more, rfl⟩ := Nat.exists_eq_add_of_le (show pos + one.length ≤ contentEnd by omega)
      have bound : pos + (one.length + more) ≤ pos + one.length + more := by omega
      rw [Nat.add_assoc pos one.length more, slice_within bound, shape,
        List.take_of_length_le (by rw [List.length_append]; omega), List.drop_left]
    constructor
    · intro parsed
      split at parsed
      · cases parsed
      rename_i action bits next read
      obtain ⟨form, tail, written, rfl, rfl, valid⟩ :=
        (PackageAction.parse_ok_iff within limit inside components).mp read
      obtain ⟨further, rest⟩ := advance written
      obtain ⟨entries, rfl, few, remaining, all, rfl⟩ := (ih further).mp parsed
      refine ⟨(form, action) :: entries, by simp, Nat.succ_le_succ few, ?_, ?_, rfl⟩
      · rw [written, ← rest, remaining]
        rfl
      · rintro entry (_ | ⟨_, member⟩)
        · exact valid
        · exact all entry member
    · rintro ⟨entries, rfl, few, written, all, rfl⟩
      cases entries with
      | nil =>
        have length := congrArg List.length written
        rw [length_slice within] at length
        change contentEnd - pos = 0 at length
        omega
      | cons entry rest =>
        obtain ⟨form, action⟩ := entry
        have valid := all (form, action) (List.mem_cons_self ..)
        obtain ⟨further, remaining⟩ := advance written
        rw [(PackageAction.parse_ok_iff within limit inside components).mpr
          ⟨form, records rest, written, rfl, rfl, valid⟩]
        refine (ih further).mpr ⟨rest, by simp, Nat.le_of_succ_le_succ few, remaining, ?_, rfl⟩
        exact fun entry member => all entry (List.mem_cons_of_mem _ member)

end records

/-! ### Components -/

theorem and_or_ne_zero (bit a b : UInt8) :
    bit &&& (a ||| b) ≠ 0 ↔ bit &&& a ≠ 0 ∨ bit &&& b ≠ 0 := by
  have spread : bit &&& (a ||| b) = bit &&& a ||| bit &&& b := by
    apply UInt8.toBitVec_inj.mp
    simp [BitVec.and_or_distrib_left]
  rw [spread, ne_eq, UInt8.or_eq_zero_iff]
  tauto

/-- A byte is known by its bits. -/
theorem eq_of_bits {a b : UInt8}
    (same : ∀ component : ComponentId, component.bit &&& a ≠ 0 ↔ component.bit &&& b ≠ 0) :
    a = b := by
  have rebuilt : ∀ n : Fin 256, (List.finRange 8).foldl (fun byte i =>
      byte ||| if (1 : UInt8) <<< UInt8.ofNat i.val &&& UInt8.ofNat n ≠ 0
        then 1 <<< UInt8.ofNat i.val else 0) 0 = UInt8.ofNat n := by
    decide +kernel
  have first := rebuilt ⟨a.toNat, a.toNat_lt⟩
  have second := rebuilt ⟨b.toNat, b.toNat_lt⟩
  simp only [UInt8.ofNat_toNat] at first second
  rw [← first, ← second]
  congr 1
  funext byte i
  have place : UInt8.ofNat i.val < 8 := by
    rw [UInt8.lt_iff_toNat_lt, UInt8.toNat_ofNat']
    change i.val % 256 < 8
    omega
  have equal := same ⟨UInt8.ofNat i.val, place⟩
  simp only [ComponentId.bit] at equal
  simp only [equal]

/-- Different components have different bits. -/
theorem bit_and_bit_ne_zero_iff (a b : ComponentId) : a.bit &&& b.bit ≠ 0 ↔ a = b := by
  obtain ⟨a, small⟩ := a
  obtain ⟨b, little⟩ := b
  have table : ∀ m n : Fin 8, (1 : UInt8) <<< UInt8.ofNat m &&& 1 <<< UInt8.ofNat n ≠ 0 ↔ m = n := by
    decide
  have entry := table ⟨a.toNat, UInt8.lt_iff_toNat_lt.mp small⟩ ⟨b.toNat, UInt8.lt_iff_toNat_lt.mp little⟩
  simp only [UInt8.ofNat_toNat, Fin.mk.injEq, UInt8.toNat_inj] at entry
  simpa [ComponentId.bit] using entry

/-- Every declared component has an image among the actions. -/
def Complete (components : ComponentMask) (actions : List PackageAction) : Prop :=
  ∀ component : ComponentId, component.bit &&& components.bits ≠ 0 →
    ∃ version description data, .upload component version description data ∈ actions

/-- An image there is of a component, by the bits the actions upload. -/
theorem bit_and_uploaded_ne_zero_iff (component : ComponentId)
    (entries : List (ChecksumForm × PackageAction)) (start : UInt8) :
    component.bit &&& uploaded entries start ≠ 0 ↔ component.bit &&& start ≠ 0 ∨
      ∃ version description data,
        .upload component version description data ∈ entries.map Prod.snd := by
  induction entries generalizing start with
  | nil => simp [uploaded]
  | cons entry rest ih =>
    obtain ⟨form, action⟩ := entry
    have step : uploaded ((form, action) :: rest) start = uploaded rest (start ||| action.uploads) := rfl
    have own : component.bit &&& action.uploads ≠ 0 ↔
        ∃ version description data, action = .upload component version description data := by
      cases action with
      | backup mask => simp [PackageAction.uploads]
      | prepare mask => simp [PackageAction.uploads]
      | upload other version description data =>
        rw [PackageAction.uploads, bit_and_bit_ne_zero_iff]
        constructor
        · rintro rfl
          exact ⟨_, _, _, rfl⟩
        · rintro ⟨_, _, _, same⟩
          cases same
          rfl
    rw [step, ih, and_or_ne_zero, own, or_assoc]
    apply or_congr_right
    constructor
    · rintro (⟨version, description, data, rfl⟩ | ⟨version, description, data, member⟩)
      · exact ⟨version, description, data, List.mem_cons_self ..⟩
      · exact ⟨version, description, data, List.mem_cons_of_mem _ member⟩
    · rintro ⟨version, description, data, member⟩
      rcases List.mem_cons.mp member with same | member
      · exact .inl ⟨version, description, data, same.symm⟩
      · exact .inr ⟨version, description, data, member⟩

/-- The declared components are exactly those uploaded when none is missing. -/
theorem uploaded_eq_iff {components : ComponentMask} {entries : List (ChecksumForm × PackageAction)}
    (valid : ∀ entry ∈ entries, entry.2.Valid components) :
    uploaded entries 0 = components.bits ↔ Complete components (entries.map Prod.snd) := by
  have found (component : ComponentId) := bit_and_uploaded_ne_zero_iff component entries 0
  simp only [UInt8.and_zero, ne_eq, not_true_eq_false, false_or] at found
  constructor
  · intro same component declared
    rw [← same] at declared
    exact (found component).mp declared
  · intro complete
    apply eq_of_bits
    intro component
    constructor
    · intro held
      obtain ⟨version, description, data, member⟩ := (found component).mp held
      obtain ⟨entry, listed, same⟩ := List.mem_map.mp member
      have inside := (valid entry listed).declared
      rw [same] at inside
      intro missing
      apply component.bit_ne_zero
      have parts : component.bit = component.bit &&& components.bits ||| component.bit &&& ~~~components.bits := by
        apply UInt8.toBitVec_inj.mp
        apply BitVec.eq_of_getLsbD_eq
        intro i small
        simp only [UInt8.toBitVec_or, UInt8.toBitVec_and, UInt8.toBitVec_not, BitVec.getLsbD_or,
          BitVec.getLsbD_and, BitVec.getLsbD_not, small, decide_true, Bool.true_and]
        cases component.bit.toBitVec.getLsbD i <;> cases components.bits.toBitVec.getLsbD i <;> rfl
      rw [parts, missing]
      exact (UInt8.or_eq_zero_iff).mpr ⟨rfl, inside⟩
    · intro declared
      exact (found component).mpr (complete component declared)

/-! ### Images -/

/-- A header with its OEM area and its checksum, and what it says. -/
structure IsHeader (header : List UInt8) (parsed : PackageHeader) : Prop where
  length : header.length = HEADER_SIZE + ofLe [header[32]!, header[33]!] + 1
  signature : header.take 8 = PICMGFWU
  checksum : total header = 0
  components : header[20]! = parsed.components.bits
  fields : parsed = .ofBytes header parsed.components

/-- An upgrade image, and the package it holds: a header, at most as many
records as allowed, each of a valid action, an image for every component, and
the digest of all of it. -/
structure IsImage (md5 : List UInt8 → List UInt8) (bytes : List UInt8) (package : Package)
    (header : List UInt8) (entries : List (ChecksumForm × PackageAction)) : Prop where
  size : bytes.length ≤ MAX_IMAGE_SIZE
  whole : bytes = header ++ records entries ++ md5 (header ++ records entries)
  digest : (md5 (header ++ records entries)).length = SIGNATURE_SIZE
  header : IsHeader header package.header
  few : entries.length ≤ MAX_ACTIONS
  valid : ∀ entry ∈ entries, entry.2.Valid package.header.components
  complete : Complete package.header.components package.actions
  actions : package.actions = entries.map Prod.snd

def Image (md5 : List UInt8 → List UInt8) (bytes : List UInt8) (package : Package) : Prop :=
  ∃ header entries, IsImage md5 bytes package header entries

theorem getElem!_append_header {header : List UInt8} (rest : List UInt8) {i : Nat}
    (inside : i < header.length) : (header ++ rest)[i]! = header[i]! := by
  rw [getElem!_pos (header ++ rest) i (by rw [List.length_append]; omega), getElem!_pos header i inside,
    List.getElem_append_left inside]

/-- What a header says stands in the header. -/
theorem ofBytes_append {header : List UInt8} (rest : List UInt8) (long : 35 ≤ header.length)
    (components : ComponentMask) :
    PackageHeader.ofBytes (header ++ rest) components = .ofBytes header components := by
  have same {size start : Nat} (inside : start + size ≤ header.length) :
      fixed size (header ++ rest) start = fixed size header start := by
    apply Vector.ext
    intro i within
    simp only [fixed, Vector.getElem_ofFn]
    exact getElem!_append_header rest (by omega)
  have product : slice (header ++ rest) 13 15 = slice header 13 15 := by
    rw [slice, slice, List.drop_append_of_le_length (by omega),
      List.take_append_of_le_length (by rw [List.length_drop]; omega)]
  simp only [PackageHeader.ofBytes]
  rw [same (by omega), same (by omega), same (by omega), product]
  repeat rw [getElem!_append_header rest (by omega)]

/-- The fields of a format that are not part of its signature. -/
def Formatted (bytes : List UInt8) : Prop := bytes[8]! = 0 ∧ bytes[19]! &&& 0x0F = 0

section image
variable {md5 : List UInt8 → List UInt8} {bytes : List UInt8} {package : Package}

/-- What is accepted is an image. -/
theorem image_of_parse (parsed : Package.parse md5 bytes = .ok package) :
    Image md5 bytes package ∧ Formatted bytes := by
  unfold Package.parse HEADER_SIZE SIGNATURE_SIZE at parsed
  split at parsed
  · cases parsed
  rename_i size
  split at parsed
  · cases parsed
  rename_i long
  simp only at parsed
  split at parsed
  · cases parsed
  rename_i digest
  split at parsed
  · cases parsed
  rename_i format
  split at parsed
  · cases parsed
  rename_i crossing
  split at parsed
  · cases parsed
  rename_i checksum
  split at parsed
  · cases parsed
  rename_i components declared
  split at parsed
  · cases parsed
  rename_i actions covered read
  split at parsed
  · cases parsed
  rename_i everything
  obtain rfl := Except.ok.inj parsed
  have limit : MAX_IMAGE_SIZE = 67108864 := rfl
  rw [not_or, not_or, not_not, not_not, not_not] at format
  rw [not_not] at digest checksum everything
  generalize offsetEq : 34 + ofLe [bytes[32]!, bytes[33]!] + 1 = offset at *
  obtain ⟨entries, rfl, few, written, valid, rfl⟩ :=
    (parseActions_ok_iff (by omega) (by omega) (by omega)).mp read
  have parts : bytes.take offset ++ bytes.drop offset = bytes := List.take_append_drop ..
  have width : (bytes.take offset).length = offset := by
    rw [List.length_take]
    omega
  have inside {i : Nat} (early : i < offset) : (bytes.take offset)[i]! = bytes[i]! := by
    rw [← getElem!_append_header (bytes.drop offset) (by omega), parts]
  have content : bytes.take offset ++ records entries = bytes.take (bytes.length - 16) := by
    rw [← written, slice, ← List.take_add]
    congr 1
    omega
  have mask : components.bits = bytes[20]! := by
    unfold ComponentMask.new at declared
    split at declared
    · obtain rfl := Option.some.inj declared
      rfl
    · cases declared
  refine ⟨⟨bytes.take offset, entries, ?_⟩, format.2⟩
  exact
    { size := Nat.not_lt.mp size
      whole := by rw [content, digest, List.take_append_drop]
      digest := by
        rw [content, digest, List.length_drop]
        simp only [SIGNATURE_SIZE]
        omega
      header :=
        { length := by
            rw [width, inside (by omega), inside (by omega)]
            exact offsetEq.symm
          signature := by
            rw [List.take_take, Nat.min_eq_left (by omega)]
            exact format.1
          checksum
          components := by
            rw [inside (by omega)]
            exact mask.symm
          fields := by
            have long : 35 ≤ (bytes.take offset).length := by omega
            have same := ofBytes_append (bytes.drop offset) long components
            rw [parts] at same
            exact same }
      few
      valid
      complete := (uploaded_eq_iff valid).mp everything
      actions := rfl }

/-- An image is accepted as what it was written from. -/
theorem parse_of_image (image : Image md5 bytes package) (formatted : Formatted bytes) :
    Package.parse md5 bytes = .ok package := by
  obtain ⟨header, entries, image⟩ := image
  obtain ⟨version, reserved⟩ := formatted
  have limit : MAX_IMAGE_SIZE = 67108864 := rfl
  have digest := image.digest
  have length := image.header.length
  rw [SIGNATURE_SIZE] at digest
  rw [HEADER_SIZE] at length
  have split : bytes = header ++ (records entries ++ md5 (header ++ records entries)) := by
    rw [← List.append_assoc]
    exact image.whole
  have early {i : Nat} (inside : i < header.length) : bytes[i]! = header[i]! := by
    rw [split, getElem!_append_header _ inside]
  have size : bytes.length = (header ++ records entries).length + 16 := by
    rw [image.whole, List.length_append, digest]
  have room : header.length ≤ (header ++ records entries).length := by
    rw [List.length_append]
    omega
  have content : bytes.take (header ++ records entries).length = header ++ records entries := by
    conv => lhs; rw [image.whole]
    exact List.take_left
  have front : bytes.take header.length = header := by
    conv => lhs; rw [split]
    exact List.take_left
  have ending : bytes.drop (header ++ records entries).length = md5 (header ++ records entries) := by
    conv => lhs; rw [image.whole]
    exact List.drop_left
  have signature : bytes.take 8 = PICMGFWU := by
    rw [← image.header.signature, ← front, List.take_take, Nat.min_eq_left (by omega)]
  have offset : 34 + ofLe [bytes[32]!, bytes[33]!] + 1 = header.length := by
    rw [early (by omega), early (by omega)]
    exact length.symm
  have written : slice bytes header.length (header ++ records entries).length = records entries := by
    rw [← slice_eq_take_drop, content, List.drop_left]
  have within := image.size
  have read : Package.parseActions bytes (header ++ records entries).length package.header.components
      MAX_ACTIONS header.length [] 0 = .ok (package.actions, uploaded entries 0) :=
    (parseActions_ok_iff (by omega) (by omega) room).mpr
    ⟨entries, image.actions, image.few, written, image.valid, rfl⟩
  have declared : ComponentMask.new bytes[20]! = some package.header.components := by
    rw [early (by omega), image.header.components, ComponentMask.new,
      dif_pos package.header.components.nonempty]
  have fields : PackageHeader.ofBytes bytes package.header.components = package.header := by
    rw [split, ofBytes_append _ (by omega)]
    exact image.header.fields.symm
  have complete := image.complete
  rw [image.actions] at complete
  have everything := (uploaded_eq_iff image.valid).mpr complete
  have format : ¬ (bytes.take 8 ≠ PICMGFWU ∨ bytes[8]! ≠ 0 ∨ bytes[19]! &&& 0x0F ≠ 0) := by
    rintro (unsigned | newer | marked)
    · exact unsigned signature
    · exact newer version
    · exact marked reserved
  unfold Package.parse HEADER_SIZE SIGNATURE_SIZE
  have above : bytes.length - 16 = (header ++ records entries).length := by omega
  generalize (header ++ records entries).length = contentEnd at *
  rw [if_neg (by omega), if_neg (by omega)]
  simp only
  rw [above, content, ending, if_neg (by simp), if_neg format, offset,
    if_neg (by omega), front, if_neg (by simp [image.header.checksum]), declared]
  simp only
  rw [read]
  simp only
  rw [if_neg (by simp [everything]), fields]

end image

/-- For every file and whatever MD5 computes: parsing accepts exactly the
images of the supported format, and gives the package the file was written
from; no file makes it panic or run on. -/
theorem parse_accepts_images (md5 : List UInt8 → List UInt8) (bytes : List UInt8) :
    (∀ package, Package.parse md5 bytes = .ok package ↔
      Image md5 bytes package ∧ Formatted bytes) ∧
    (∀ width more, Package.parseChecked width (MAX_ACTIONS + 1 + more) md5 bytes =
      some (Package.parse md5 bytes)) := by
  constructor
  · intro package
    constructor
    · exact image_of_parse
    · rintro ⟨image, formatted⟩
      exact parse_of_image image formatted
  · exact fun width more => package_parseChecked_eq width more md5 bytes

/-- A header of format version 1. -/
private def newerHeader : List UInt8 := [
  0x50, 0x49, 0x43, 0x4d, 0x47, 0x46, 0x57, 0x55, 0x01, 0x20, 0x57, 0x01, 0x00, 0x34, 0x12, 0x00,
  0x00, 0x00, 0x00, 0x00, 0x01, 0x00, 0x00, 0x00, 0x00, 0x00, 0x01, 0x00, 0x00, 0x00, 0x00, 0x00,
  0x00, 0x00, 0xdd]

private def newerUpload : PackageAction :=
  .upload ⟨0, by decide⟩ #v[1, 0, 0, 0, 0, 0] (Vector.replicate 21 0) [0xaa]

private def newerContent : List UInt8 := newerHeader ++ records [(.record, newerUpload)]

/-- The MD5 digest of that content. -/
private def newerDigest (bytes : List UInt8) : List UInt8 :=
  if bytes = newerContent then [
    0x37, 0xfc, 0x6f, 0x5f, 0xf1, 0x3e, 0x04, 0x9f, 0x8b, 0x5c, 0x36, 0xc9, 0x9a, 0xdd, 0x1e, 0xc5]
  else List.replicate 16 0

/-- An image in every respect but its format version is refused. -/
theorem newer_image_refused :
    (∃ package, Image newerDigest (newerContent ++ newerDigest newerContent) package) ∧
    Package.parse newerDigest (newerContent ++ newerDigest newerContent) = .error .format := by
  constructor
  · refine ⟨⟨.ofBytes newerHeader ⟨1, by decide⟩, [newerUpload]⟩, newerHeader, [(.record, newerUpload)], ?_⟩
    exact
      { size := by decide +kernel
        whole := rfl
        digest := by decide +kernel
        header := ⟨by decide, by decide, by decide, rfl, rfl⟩
        few := by decide
        valid := by
          rintro entry (_ | ⟨_, ⟨⟩⟩)
          exact ⟨by decide, fun _ _ _ _ same => by cases same; decide⟩
        complete := by
          intro component declared
          have one : component.bit &&& ComponentId.bit ⟨0, by decide⟩ ≠ 0 := declared
          rw [bit_and_bit_ne_zero_iff] at one
          subst one
          exact ⟨_, _, _, List.mem_singleton.mpr rfl⟩
        actions := rfl }
  · decide +kernel

end IpmiRs.Hpm
