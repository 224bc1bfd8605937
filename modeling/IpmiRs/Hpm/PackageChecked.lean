import IpmiRs.Hpm.Package
import IpmiRs.Library.Checked

/-! Parsing a package with every index, slice, `unwrap` and sum of the source as
an operation that may panic, and its loop as one that may run out of turns.
None of them does, on machines of either pointer width. -/
namespace IpmiRs.Hpm
open Library Library.Bytes Library.Checked Library.Checksum

/-- `a.checked_add(b)`, of lengths. -/
def checkedAdd (width : PointerWidth) (a b : Nat) : Option Nat :=
  if a + b ≤ width.usizeMax then some (a + b) else none

/-- A slice as an array of a fixed size, unwrapped. -/
def array {ε : Type} (size : Nat) (bytes : List UInt8) : Checked ε (Vector UInt8 size) :=
  if exact : bytes.length = size then pure ⟨bytes.toArray, by simp [exact]⟩ else panicked

section parse
variable (width : PointerWidth)

/-- Whether neither checksum of an upload record holds; the longer one is only
computed when it is needed. -/
def corruptChecked (bytes : List UInt8) (pos headerEnd : Nat) (shortChecksum : Bool) :
    Checked PackageError Bool :=
  if shortChecksum then pure false
  else do pure (total (← Checked.slice bytes pos headerEnd) != 0)

def PackageAction.parseUploadChecked (bytes : List UInt8) (contentEnd pos : Nat) (bits : UInt8)
    (shortChecksum : Bool) : Checked PackageError (PackageAction × Nat) :=
  if countOnes bits ≠ 1 then throw .components
  else do
    let headerEnd ← okOr (checkedAdd width pos (3 + IMAGE_HEADER_SIZE)) .bounds
    if contentEnd < headerEnd then throw .bounds
    else do
      let imageHeader ← okOr (range bytes (← add width pos 3) headerEnd) .bounds
      if ← corruptChecked bytes pos headerEnd shortChecksum then throw .checksum
      else do
        let imageLen := ofLe (← Checked.fixed 4 (← Checked.slice imageHeader 27 31))
        if imageLen = 0 then throw .bounds
        else do
          let stop ← okOr (checkedAdd width headerEnd imageLen) .bounds
          let data ← okOr ((range bytes headerEnd stop).filter fun _ => stop ≤ contentEnd) .bounds
          let component ← (ComponentId.new (UInt8.ofNat (trailingZeros bits))).elim panicked pure
          let version ← array 6 (← Checked.slice imageHeader 0 6)
          let description ← array 21 (← Checked.slice imageHeader 6 27)
          pure (.upload component version description data, stop)

def PackageAction.parseChecked (bytes : List UInt8) (contentEnd : Nat) (components : ComponentMask)
    (pos : Nat) : Checked PackageError (PackageAction × UInt8 × Nat) := do
  if (← sub contentEnd pos) < 3 then throw .bounds
  else do
    let next ← add width pos 3
    let record ← Checked.slice bytes pos next
    let action ← index record 0
    let bits ← index record 1
    let mask ← okOr (ComponentMask.new bits) .components
    if bits &&& ~~~components.bits ≠ 0 then throw .components
    else do
      let shortChecksum := total record == 0
      match action.toNat with
      | 0 => if shortChecksum then pure (.backup mask, 0, next) else throw .checksum
      | 1 => if shortChecksum then pure (.prepare mask, 0, next) else throw .checksum
      | 2 => do
        let (action, stop) ← parseUploadChecked width bytes contentEnd pos bits shortChecksum
        pure (action, bits, stop)
      | _ => throw (.action action)

/-- The loop over the records, which has no bound but the one it checks. -/
def Package.parseActionsChecked (bytes : List UInt8) (contentEnd : Nat)
    (components : ComponentMask) :
    Nat → Nat → List PackageAction → UInt8 → Checked PackageError (List PackageAction × UInt8)
  | turns, pos, actions, uploaded =>
    if contentEnd ≤ pos then pure (actions, uploaded)
    else
      match turns with
      | 0 => panicked
      | turns + 1 =>
        if MAX_ACTIONS ≤ actions.length then throw .limit
        else do
          let (action, bits, next) ←
            PackageAction.parseChecked width bytes contentEnd components pos
          parseActionsChecked bytes contentEnd components turns next (actions ++ [action])
            (uploaded ||| bits)

def PackageHeader.parseChecked (bytes : List UInt8) (components : ComponentMask) :
    Checked PackageError PackageHeader := do
  let deviceId ← index bytes 9
  let manufacturer ← array 3 (← Checked.slice bytes 10 13)
  let product ← Checked.fixed 2 (← Checked.slice bytes 13 15)
  let capabilities ← index bytes 19
  let selfTestTimeout ← index bytes 21
  let rollbackTimeout ← index bytes 22
  let inaccessibleTimeout ← index bytes 23
  let earliestRevision ← array 2 (← Checked.slice bytes 24 26)
  let firmwareRevision ← array 6 (← Checked.slice bytes 26 32)
  pure { deviceId, manufacturer, product := UInt16.ofNat (ofLe product), capabilities, components,
         selfTestTimeout, rollbackTimeout, inaccessibleTimeout, earliestRevision, firmwareRevision }

def Package.parseChecked (turns : Nat) (md5 : List UInt8 → List UInt8) (bytes : List UInt8) :
    Checked PackageError Package :=
  if MAX_IMAGE_SIZE < bytes.length then throw .limit
  else if bytes.length < HEADER_SIZE + 1 + SIGNATURE_SIZE then throw .bounds
  else do
    let contentEnd ← sub bytes.length SIGNATURE_SIZE
    if md5 (← Checked.slice bytes 0 contentEnd) ≠ (← Checked.slice bytes contentEnd bytes.length) then
      throw .integrity
    else do
      if (← Checked.slice bytes 0 8) ≠ PICMGFWU then throw .format
      else do
        if (← index bytes 8) ≠ 0 then throw .format
        else do
          if (← index bytes 19) &&& 0x0F ≠ 0 then throw .format
          else do
            let oemLength := ofLe [← index bytes 32, ← index bytes 33]
            let offset ← okOr ((checkedAdd width HEADER_SIZE oemLength).bind (checkedAdd width · 1))
              .bounds
            if contentEnd < offset then throw .bounds
            else do
              if total (← Checked.slice bytes 0 offset) ≠ 0 then throw .checksum
              else do
                let components ← okOr (ComponentMask.new (← index bytes 20)) .components
                let header ← PackageHeader.parseChecked bytes components
                let (actions, uploaded) ←
                  parseActionsChecked width bytes contentEnd components turns offset [] 0
                if uploaded ≠ components.bits then throw .missingImage else pure ⟨header, actions⟩

end parse

/-! ### Nothing panics -/

theorem array_eq {ε : Type} {size start stop : Nat} {bytes : List UInt8} (exact : stop = start + size)
    (inside : stop ≤ bytes.length) :
    (array size ((bytes.take stop).drop start) : Checked ε _) = pure (fixed size bytes start) := by
  subst exact
  have length : ((bytes.take (start + size)).drop start).length = size := by
    rw [List.length_drop, List.length_take]
    omega
  rw [array, dif_pos length]
  congr 1
  apply Vector.ext
  intro i within
  simp only [fixed, Vector.getElem_mk, List.getElem_toArray, List.getElem_drop, List.getElem_take,
    Vector.getElem_ofFn]
  rw [getElem!_pos bytes (start + i) (by omega)]

theorem okOr_some {ε α : Type} (value : α) (error : ε) : okOr (some value) error = pure value := rfl

theorem okOr_none {ε α : Type} (error : ε) : (okOr none error : Checked ε α) = throw error := rfl

/-- A sum of lengths the format limits, far below what a machine can index. -/
theorem checkedAdd_eq {width : PointerWidth} {a b : Nat} (small : a + b < 2 ^ 32) :
    checkedAdd width a b = some (a + b) := by
  rw [checkedAdd, if_pos]
  cases width <;> simp only [PointerWidth.usizeMax] <;> omega

theorem add_small {ε : Type} {width : PointerWidth} {a b : Nat} (small : a + b < 2 ^ 32) :
    (add width a b : Checked ε Nat) = pure (a + b) := by
  rw [add, if_pos]
  cases width <;> simp only [PointerWidth.usizeMax] <;> omega

theorem slice_eq_take_drop (bytes : List UInt8) (start stop : Nat) :
    (bytes.take stop).drop start = slice bytes start stop := by
  rw [slice, List.drop_take]

theorem ofLe_four (bytes : List UInt8) (four : bytes.length = 4) : ofLe bytes < 2 ^ 32 := by
  have small := ofLe_lt bytes
  rw [four] at small
  omega

theorem header_parseChecked_eq {bytes : List UInt8} (components : ComponentMask) (long : 35 ≤ bytes.length) :
    PackageHeader.parseChecked bytes components = pure (PackageHeader.ofBytes bytes components) := by
  have two : ((bytes.take 15).drop 13).length = 2 := by
    rw [List.length_drop, List.length_take]
    omega
  unfold PackageHeader.parseChecked
  rw [index_eq (by omega), pure_bind, Checked.slice_eq (by omega) (by omega), pure_bind,
    array_eq rfl (by omega), pure_bind, Checked.slice_eq (by omega) (by omega), pure_bind,
    fixed_eq two, pure_bind, index_eq (by omega), pure_bind, index_eq (by omega), pure_bind,
    index_eq (by omega), pure_bind, index_eq (by omega), pure_bind,
    Checked.slice_eq (by omega) (by omega), pure_bind, array_eq rfl (by omega), pure_bind,
    Checked.slice_eq (by omega) (by omega), pure_bind, array_eq rfl (by omega), pure_bind,
    slice_eq_take_drop]
  rfl

section checked
variable {width : PointerWidth} {bytes : List UInt8} {contentEnd pos : Nat}
  (within : contentEnd ≤ bytes.length) (small : bytes.length ≤ MAX_IMAGE_SIZE)
include within small

theorem parseUploadChecked_eq (inside : pos + 3 ≤ contentEnd) (bits : UInt8)
    (shortChecksum : Bool) :
    PackageAction.parseUploadChecked width bytes contentEnd pos bits shortChecksum =
      some (PackageAction.parseUpload bytes contentEnd pos bits shortChecksum) := by
  have limit : MAX_IMAGE_SIZE = 67108864 := rfl
  unfold PackageAction.parseUploadChecked PackageAction.parseUpload IMAGE_HEADER_SIZE
  by_cases single : countOnes bits = 1
  swap
  · rw [if_pos single, dif_neg single]
    rfl
  rw [if_neg (not_not.mpr single), dif_pos single, checkedAdd_eq (by omega), okOr_some, pure_bind]
  simp only
  by_cases cut : contentEnd < pos + (3 + 31)
  · rw [if_pos cut, if_pos cut]
    rfl
  rw [if_neg cut, if_neg cut, add_small (by omega), pure_bind, range, if_pos ⟨by omega, by omega⟩,
    okOr_some, pure_bind, slice_eq_take_drop]
  have summed : corruptChecked bytes pos (pos + (3 + 31)) shortChecksum =
      pure (!shortChecksum && total (slice bytes pos (pos + (3 + 31))) != 0) := by
    cases shortChecksum with
    | true => rfl
    | false =>
      rw [corruptChecked, Checked.slice_eq (by omega) (by omega), slice_eq_take_drop]
      rfl
  rw [summed, pure_bind]
  by_cases corrupt : (!shortChecksum && total (slice bytes pos (pos + (3 + 31))) != 0) = true
  · rw [if_pos corrupt, if_pos corrupt]
    rfl
  rw [if_neg corrupt, if_neg corrupt]
  have length : (slice bytes (pos + 3) (pos + (3 + 31))).length = 31 := by
    rw [slice, List.length_take, List.length_drop]
    omega
  generalize slice bytes (pos + 3) (pos + (3 + 31)) = imageHeader at length
  have four : ((imageHeader.take 31).drop 27).length = 4 := by
    rw [List.length_drop, List.length_take, length]
    rfl
  have bounded := ofLe_four _ four
  rw [Checked.slice_eq (by omega) (by omega), pure_bind, fixed_eq four, pure_bind,
    slice_eq_take_drop] 
  rw [slice_eq_take_drop] at bounded
  generalize ofLe (slice imageHeader 27 31) = imageLen at bounded
  by_cases empty : imageLen = 0
  · rw [if_pos empty, if_pos empty]
    rfl
  rw [if_neg empty, if_neg empty]
  by_cases long : contentEnd < pos + (3 + 31) + imageLen
  · -- Past the end of the content or of the machine: the same error either way.
    rw [if_pos long, checkedAdd]
    split
    · rw [okOr_some, pure_bind, Option.filter_eq_none_iff.mpr (by simp; omega), okOr_none]
      rfl
    · rfl
  rw [if_neg long, checkedAdd_eq (by omega), okOr_some, pure_bind, range,
    if_pos ⟨by omega, by omega⟩, Option.filter_some, if_pos (by simpa using Nat.not_lt.mp long),
    okOr_some, pure_bind, slice_eq_take_drop]
  have eight := trailingZeros_lt single
  have component : ComponentId.new (UInt8.ofNat (trailingZeros bits)) = some (.ofSingle bits single) := by
    rw [ComponentId.new, dif_pos]
    rfl
  rw [component, Option.elim_some, pure_bind, Checked.slice_eq (by omega) (by omega), pure_bind,
    array_eq rfl (by omega), pure_bind, Checked.slice_eq (by omega) (by omega), pure_bind,
    array_eq rfl (by omega), pure_bind]
  rfl

theorem parseChecked_eq (components : ComponentMask) (inside : pos < contentEnd) :
    PackageAction.parseChecked width bytes contentEnd components pos =
      some (PackageAction.parse bytes contentEnd components pos) := by
  have limit : MAX_IMAGE_SIZE = 67108864 := rfl
  unfold PackageAction.parseChecked PackageAction.parse
  rw [sub_eq (by omega), pure_bind]
  by_cases cut : contentEnd - pos < 3
  · rw [if_pos cut, if_pos cut]
    rfl
  rw [if_neg cut, if_neg cut, add_small (by omega), pure_bind,
    Checked.slice_eq (by omega) (by omega), pure_bind, slice_eq_take_drop]
  have three : (slice bytes pos (pos + 3)).length = 3 := by
    rw [slice, List.length_take, List.length_drop]
    omega
  rw [index_eq (by omega), pure_bind, index_eq (by omega), pure_bind]
  simp only
  cases ComponentMask.new (slice bytes pos (pos + 3))[1]! with
  | none => rfl
  | some mask =>
    rw [okOr_some, pure_bind]
    simp only
    by_cases undeclared : (slice bytes pos (pos + 3))[1]! &&& ~~~components.bits ≠ 0
    · rw [if_pos undeclared, if_pos undeclared]
      rfl
    rw [if_neg undeclared, if_neg undeclared]
    generalize (slice bytes pos (pos + 3))[0]! = action
    rcases action.toNat with _ | _ | _ | n
    · cases total (slice bytes pos (pos + 3)) == 0 <;> rfl
    · cases total (slice bytes pos (pos + 3)) == 0 <;> rfl
    · simp only
      rw [parseUploadChecked_eq within small (by omega)]
      cases PackageAction.parseUpload bytes contentEnd pos (slice bytes pos (pos + 3))[1]!
        (total (slice bytes pos (pos + 3)) == 0) <;> rfl
    · rfl

/-- The loop ends within the turns it is given, whatever the records are. -/
theorem parseActionsChecked_eq (components : ComponentMask) {turns left : Nat}
    (actions : List PackageAction) (uploaded : UInt8) (count : actions.length + left = MAX_ACTIONS)
    (enough : left < turns) :
    Package.parseActionsChecked width bytes contentEnd components turns pos actions uploaded =
      some (Package.parseActions bytes contentEnd components left pos actions uploaded) := by
  induction turns generalizing pos left actions uploaded with
  | zero => exact absurd enough (Nat.not_lt_zero _)
  | succ turns ih =>
    rw [Package.parseActionsChecked, Package.parseActions.eq_def]
    simp only
    by_cases finished : contentEnd ≤ pos
    · rw [if_pos finished, if_pos finished]
      rfl
    rw [if_neg finished, if_neg finished]
    cases left with
    | zero =>
      rw [if_pos (by omega)]
      rfl
    | succ left =>
      rw [if_neg (by omega), parseChecked_eq within small components (by omega)]
      cases PackageAction.parse bytes contentEnd components pos with
      | error error => rfl
      | ok read =>
        obtain ⟨action, bits, next⟩ := read
        exact ih (actions ++ [action]) (uploaded ||| bits) (by simp; omega) (by omega)

end checked

/-- Parsing never panics and never runs on: a turn for each action allowed and
one more are enough. -/
theorem package_parseChecked_eq (width : PointerWidth) (more : Nat) (md5 : List UInt8 → List UInt8)
    (bytes : List UInt8) :
    Package.parseChecked width (MAX_ACTIONS + 1 + more) md5 bytes =
      some (Package.parse md5 bytes) := by
  have limit : MAX_IMAGE_SIZE = 67108864 := rfl
  unfold Package.parseChecked Package.parse HEADER_SIZE SIGNATURE_SIZE
  by_cases large : MAX_IMAGE_SIZE < bytes.length
  · rw [if_pos large, if_pos large]
    rfl
  rw [if_neg large, if_neg large]
  by_cases cut : bytes.length < 34 + 1 + 16
  · rw [if_pos cut, if_pos cut]
    rfl
  rw [if_neg cut, if_neg cut, sub_eq (by omega), pure_bind, Checked.slice_eq (by omega) (by omega),
    pure_bind, Checked.slice_eq (by omega) (by omega), pure_bind, List.take_length, List.drop_zero]
  simp only
  generalize ending : bytes.length - 16 = contentEnd
  by_cases tampered : md5 (bytes.take contentEnd) ≠ bytes.drop contentEnd
  · rw [if_pos tampered, if_pos tampered]
    rfl
  rw [if_neg tampered, if_neg tampered, Checked.slice_eq (by omega) (by omega), pure_bind,
    List.drop_zero]
  by_cases unsigned : bytes.take 8 ≠ PICMGFWU
  · rw [if_pos unsigned, if_pos (.inl unsigned)]
    rfl
  rw [if_neg unsigned, index_eq (by omega), pure_bind]
  by_cases version : bytes[8]! ≠ 0
  · rw [if_pos version, if_pos (.inr (.inl version))]
    rfl
  rw [if_neg version, index_eq (by omega), pure_bind]
  by_cases reserved : bytes[19]! &&& 0x0F ≠ 0
  · rw [if_pos reserved, if_pos (.inr (.inr reserved))]
    rfl
  rw [if_neg reserved, if_neg (by tauto), index_eq (by omega), pure_bind, index_eq (by omega),
    pure_bind]
  have oem := ofLe_lt [bytes[32]!, bytes[33]!]
  rw [List.length_cons, List.length_singleton] at oem
  generalize ofLe [bytes[32]!, bytes[33]!] = oemLength at oem ⊢
  rw [checkedAdd_eq (by omega), Option.bind_some, checkedAdd_eq (by omega), okOr_some, pure_bind]
  by_cases crossing : contentEnd < 34 + oemLength + 1
  · rw [if_pos crossing, if_pos crossing]
    rfl
  rw [if_neg crossing, if_neg crossing, Checked.slice_eq (by omega) (by omega), pure_bind,
    List.drop_zero]
  by_cases corrupt : total (bytes.take (34 + oemLength + 1)) ≠ 0
  · rw [if_pos corrupt, if_pos corrupt]
    rfl
  rw [if_neg corrupt, if_neg corrupt, index_eq (by omega), pure_bind]
  cases ComponentMask.new bytes[20]! with
  | none => rfl
  | some components =>
    rw [okOr_some, pure_bind, header_parseChecked_eq components (by omega), pure_bind,
      parseActionsChecked_eq (by omega) (by omega) components [] 0 (Nat.zero_add _) (by omega)]
    simp only
    cases Package.parseActions bytes contentEnd components MAX_ACTIONS (34 + oemLength + 1) [] 0 with
    | error error => rfl
    | ok read =>
      obtain ⟨actions, uploaded⟩ := read
      change (if uploaded ≠ components.bits then _ else _) = _
      simp only
      split <;> rfl

end IpmiRs.Hpm
