import IpmiRs.App.SystemInfo

/-! A string of system information is read back as it was written. The bytes of
set `n` are those from `16 * n - 2` on, two fewer in front of every later set
because the first one also carries the encoding and the length. -/
namespace IpmiRs.App.SystemInfo
open Library Library.Checked Library.Chunks
namespace SystemInfoString

/-- How many sets a length needs. -/
def setCount (total : Nat) : Nat := 1 + divCeil (total - 14) 16

/-- The bytes of a string that a set carries. -/
def part (value : SystemInfoString) (set : Nat) : List UInt8 :=
  (value.bytes.take (16 * (set + 1) - 2)).drop (16 * set - 2)

/-- A set of a string without padding. -/
def used (value : SystemInfoString) (set : Nat) : List UInt8 :=
  if set = 0 then [0, value.encoding.value, UInt8.ofNat value.bytes.length] ++ value.part set
  else UInt8.ofNat set :: value.part set

/-- The sets of a string, the last of which is as short as the string leaves it. -/
def unpadded (value : SystemInfoString) : List (List UInt8) :=
  (List.range (setCount value.bytes.length)).map value.used

/-- What a set is after decoding, with zeros after its bytes. -/
def decoded (value : SystemInfoString) (zeros : Nat) (set : Nat) : SystemInfoStringBlock where
  selector := value.selector
  setSelector := UInt8.ofNat set
  encoding := if set = 0 then some value.encoding else none
  totalLength := if set = 0 then some (UInt8.ofNat value.bytes.length) else none
  bytes := value.part set ++ List.replicate zeros 0

/-- A set of a parameter out of the reply to its request. -/
def readSet (selector : SystemInfoSelector) (set : Nat) (reply : List UInt8) :
    Info SystemInfoStringBlock := do
  let request ← GetSystemInfoParameter.string selector (UInt8.ofNat set)
  let response ← GetSystemInfoParameter.parseSuccessResponse (0x11 :: reply)
  match ← request.decode response with
  | .stringBlock block => return block
  | .setInProgress _ => panicked

/-- A string out of the replies for its sets, in order. -/
def readBack (selector : SystemInfoSelector) (replies : List (List UInt8)) : Info SystemInfoString := do
  assemble (← replies.zipIdx.mapM fun (reply, set) => readSet selector set reply)

section
variable {total set : Nat}

/-- Every set begins inside the string, except the first one of an empty string. -/
theorem within (inside : set < setCount total) : set = 0 ∨ 14 + (set - 1) * 16 < total := by
  cases set with
  | zero => exact .inl rfl
  | succ set =>
    have begun : set * 16 < total - 14 := by
      apply mul_lt_of_lt_divCeil (by decide)
      rw [setCount] at inside
      omega
    rw [Nat.add_sub_cancel]
    omega

theorem setCount_covers (total : Nat) : total ≤ 16 * setCount total - 2 := by
  have covered : total - 14 ≤ divCeil (total - 14) 16 * 16 := le_divCeil_mul (by decide) (total - 14)
  rw [setCount]
  omega

theorem setCount_le (short : total ≤ 255) : setCount total ≤ 17 := by
  rw [setCount, divCeil]
  omega

variable {value : SystemInfoString}

theorem length_part (value : SystemInfoString) (set : Nat) :
    (value.part set).length = min (16 * (set + 1) - 2) value.bytes.length - (16 * set - 2) := by
  rw [part, List.length_drop, List.length_take]

/-- A set needs as many bytes as its part of the string has. -/
theorem needed_eq (inside : set < setCount value.bytes.length) :
    needed value.bytes.length set = pure (value.part set).length := by
  rw [length_part]
  obtain rfl | begun := within inside
  · rw [needed, if_pos rfl, Nat.min_comm]
    rfl
  · by_cases zero : set = 0
    · subst zero
      rw [needed, if_pos rfl, Nat.min_comm]
      rfl
    · rw [needed, if_neg zero, sub_eq (by omega), pure_bind, sub_eq (by omega), pure_bind,
        sub_eq (by omega), pure_bind]
      congr 1
      omega

theorem length_used (inside : set < setCount value.bytes.length) : (value.used set).length ≤ 17 := by
  have length := length_part value set
  by_cases zero : set = 0
  · subst zero
    rw [used, if_pos rfl, List.length_append, List.length_cons, List.length_cons, List.length_singleton]
    omega
  · rw [used, if_neg zero, List.length_cons]
    omega

theorem resize_eq {size : Nat} {bytes : List UInt8} (short : bytes.length ≤ size) :
    resize size bytes = bytes ++ List.replicate (size - bytes.length) 0 := by
  rw [resize, List.take_of_length_le short]

theorem expect_pure {α : Type} (result : α) : expect (pure result : Info α) = pure result := rfl

theorem later_part (value : SystemInfoString) (set : Nat) :
    ((value.bytes.drop 14).drop (set * 16)).take 16 = value.part (set + 1) := by
  rw [part, List.drop_drop, List.drop_take, show 14 + set * 16 = 16 * (set + 1) - 2 by omega,
    show 16 * (set + 1 + 1) - 2 - (16 * (set + 1) - 2) = 16 by omega]

theorem first_part (value : SystemInfoString) : value.bytes.take 14 = value.part 0 := rfl

/-- A set after the first carries at least one byte. -/
theorem part_ne_nil (inside : set + 1 < setCount value.bytes.length) : value.part (set + 1) ≠ [] := by
  have begun := (within inside).resolve_left (Nat.succ_ne_zero set)
  apply List.ne_nil_of_length_pos
  rw [length_part]
  omega

theorem toNat_length (value : SystemInfoString) :
    (UInt8.ofNat value.bytes.length).toNat = value.bytes.length := by
  rw [UInt8.toNat_ofNat', Nat.mod_eq_of_lt (Nat.lt_succ_of_le value.bounded)]

theorem addByte_set {set : Nat} (small : set + 1 < 256) :
    (addByte (UInt8.ofNat set) 1 : Info UInt8) = pure (UInt8.ofNat (set + 1)) := by
  have fits : (UInt8.ofNat set).toNat + (1 : UInt8).toNat < 256 := by
    rw [UInt8.toNat_ofNat', Nat.mod_eq_of_lt (by omega), show (1 : UInt8).toNat = 1 from rfl]
    exact small
  rw [addByte, if_pos fits, UInt8.ofNat_add]
  rfl

/-- The writes are the sets of the string, each resized to its data area, and
nothing that was expected of them fails. -/
theorem toWrites_eq (value : SystemInfoString) :
    value.toWrites = pure (value.unpadded.map fun set => ⟨value.selector, resize 17 set⟩) := by
  have few := setCount_le value.bounded
  have length := toNat_length value
  have first : SetSystemInfoParameter.first value.selector value.encoding
      (UInt8.ofNat value.bytes.length) (value.part 0) =
        pure ⟨value.selector, resize 17 (value.used 0)⟩ := by
    have exact : ¬(value.part 0).length ≠ min (UInt8.ofNat value.bytes.length).toNat 14 := by
      rw [not_not, length_part, length]
      omega
    rw [SetSystemInfoParameter.first, if_neg value.isString, if_neg exact]
    rfl
  have next (set : Nat) (inside : set + 1 < setCount value.bytes.length) :
      SetSystemInfoParameter.next value.selector (UInt8.ofNat (set + 1)) (value.part (set + 1)) =
        pure ⟨value.selector, resize 17 (value.used (set + 1))⟩ := by
    have numbered : (UInt8.ofNat (set + 1)).toNat = set + 1 := by
      rw [UInt8.toNat_ofNat', Nat.mod_eq_of_lt (by omega)]
    have known : ¬(value.selector = .setInProgress ∨
        ¬(1 ≤ UInt8.ofNat (set + 1) ∧ UInt8.ofNat (set + 1) ≤ 16)) := by
      rintro (other | out)
      · exact value.isString other
      · apply out
        rw [UInt8.le_iff_toNat_le, UInt8.le_iff_toNat_le, numbered, show (1 : UInt8).toNat = 1 from rfl,
          show (16 : UInt8).toNat = 16 from rfl]
        omega
    have sized : ¬(value.part (set + 1) = [] ∨ 16 < (value.part (set + 1)).length) := by
      rintro (empty | long)
      · exact part_ne_nil inside empty
      · rw [length_part] at long
        omega
    rw [SetSystemInfoParameter.next, if_neg known, if_neg sized]
    rfl
  have start : (slice value.bytes 0 (min value.bytes.length 14) : Info (List UInt8)) =
      pure (value.part 0) := by
    rw [slice_eq (Nat.zero_le _) (Nat.min_le_left _ _), List.drop_zero, ← first_part, ← List.take_take,
      List.take_of_length_le (by simp)]
  have later : (slice value.bytes (min value.bytes.length 14) value.bytes.length : Info (List UInt8)) =
      pure (value.bytes.drop 14) := by
    rw [slice_eq (Nat.min_le_left _ _) (Nat.le_refl _), List.take_length]
    obtain short | long := Nat.le_total value.bytes.length 14
    · rw [Nat.min_eq_left short, List.drop_length, List.drop_of_length_le short]
    · rw [Nat.min_eq_right long]
  have sets : (chunks 16 (value.bytes.drop 14)).zipIdx.mapM (fun (chunk, set) => do
        expect (SetSystemInfoParameter.next value.selector (← addByte (UInt8.ofNat set) 1) chunk)) =
      (pure ((List.range (divCeil (value.bytes.length - 14) 16)).map fun set =>
        ⟨value.selector, resize 17 (value.used (set + 1))⟩) : Info (List SetSystemInfoParameter)) := by
    rw [← List.length_drop, ← length_chunks]
    refine mapM_zipIdx_eq_pure fun set inside => ?_
    have part : (chunks 16 (value.bytes.drop 14))[set] = value.part (set + 1) := by
      rw [← later_part]
      simp [chunks]
    rw [length_chunks, List.length_drop] at inside
    have within : set + 1 < setCount value.bytes.length := by
      rw [setCount]
      omega
    simp only [part, addByte_set (show set + 1 < 256 by omega), pure_bind, next set within, expect_pure]
  rw [toWrites, start, pure_bind, first, expect_pure, pure_bind, later, pure_bind, sets, pure_bind,
    unpadded, setCount, Nat.add_comm, List.range_succ_eq_map, List.map_cons, List.map_cons, List.map_map,
    List.map_map]
  rfl

theorem toNat_set (short : set < 256) : (UInt8.ofNat set).toNat = set := by
  rw [UInt8.toNat_ofNat', Nat.mod_eq_of_lt short]

theorem parseSuccessResponse_eq {reply : List UInt8} (some : reply ≠ []) :
    GetSystemInfoParameter.parseSuccessResponse (0x11 :: reply) = pure ⟨0x11, reply⟩ := by
  have long : ¬(0x11 :: reply).length < 2 := by
    have := List.length_pos_of_ne_nil some
    rw [List.length_cons]
    omega
  rw [GetSystemInfoParameter.parseSuccessResponse, if_neg long, index_zero, pure_bind,
    if_neg (by decide), slice_tail, pure_bind]

/-- The first set is decoded with the encoding and the length in front of it. -/
theorem decode_first {zeros : Nat} (room : (value.used 0).length + zeros ≤ 17) :
    SystemInfoResponse.decode ⟨0x11, value.used 0 ++ List.replicate zeros 0⟩ value.selector 0 =
      pure (.stringBlock (value.decoded zeros 0)) := by
  have length := toNat_length value
  have part := length_part value 0
  have shape : value.used 0 ++ List.replicate zeros 0 = 0 :: value.encoding.value ::
      UInt8.ofNat value.bytes.length :: (value.part 0 ++ List.replicate zeros 0) := rfl
  have sized : ¬((value.encoding.value :: UInt8.ofNat value.bytes.length ::
      (value.part 0 ++ List.replicate zeros 0)).length < 2 ∨ 16 < (value.encoding.value ::
        UInt8.ofNat value.bytes.length :: (value.part 0 ++ List.replicate zeros 0)).length) := by
    rw [used, if_pos rfl] at room
    simp only [List.length_append, List.length_cons, List.length_nil, List.length_replicate] at room ⊢
    omega
  have known : value.encoding.value &&& 0xF0 = 0 ∧
      SystemInfoEncoding.ofByte value.encoding.value = pure value.encoding := by
    cases value.encoding <;> exact ⟨rfl, rfl⟩
  have enough : ¬(value.part 0 ++ List.replicate zeros 0).length + 1 + 1 - 2 <
      min (UInt8.ofNat value.bytes.length).toNat 14 := by
    rw [List.length_append, length]
    omega
  have rest : (slice (value.encoding.value :: UInt8.ofNat value.bytes.length ::
      (value.part 0 ++ List.replicate zeros 0)) 2
        ((value.part 0 ++ List.replicate zeros 0).length + 1 + 1) : Info (List UInt8)) =
          pure (value.part 0 ++ List.replicate zeros 0) := by
    rw [slice_eq (by omega) (by simp), List.take_of_length_le (by simp)]
    rfl
  rw [SystemInfoResponse.decode, if_neg (not_not.mpr rfl), if_neg value.isString,
    if_neg (show ¬(16 : UInt8) < 0 by decide), shape]
  simp only
  rw [if_neg (not_not.mpr rfl), if_pos trivial, if_neg sized, index_zero, pure_bind,
    if_neg (not_not.mpr known.1), known.2, pure_bind, index_succ, index_zero, pure_bind,
    List.length_cons, List.length_cons, sub_eq (by omega), pure_bind, if_neg enough,
    rest]
  rfl

/-- A later set is decoded as the bytes after its number. -/
theorem decode_later {zeros : Nat} (inside : set + 1 < setCount value.bytes.length)
    (room : (value.used (set + 1)).length + zeros ≤ 17) :
    SystemInfoResponse.decode ⟨0x11, value.used (set + 1) ++ List.replicate zeros 0⟩ value.selector
      (UInt8.ofNat (set + 1)) = pure (.stringBlock (value.decoded zeros (set + 1))) := by
  have few := setCount_le value.bounded
  have shape : value.used (set + 1) ++ List.replicate zeros 0 =
      UInt8.ofNat (set + 1) :: (value.part (set + 1) ++ List.replicate zeros 0) := rfl
  have numbered := toNat_set (show set + 1 < 256 by omega)
  have known : ¬16 < UInt8.ofNat (set + 1) := by
    rw [UInt8.lt_iff_toNat_lt, numbered, show (16 : UInt8).toNat = 16 from rfl]
    omega
  have later : UInt8.ofNat (set + 1) ≠ 0 := by
    intro zero
    rw [zero] at numbered
    cases numbered
  have sized : ¬(value.part (set + 1) ++ List.replicate zeros 0 = [] ∨
      16 < (value.part (set + 1) ++ List.replicate zeros 0).length) := by
    rw [used, if_neg (Nat.succ_ne_zero set), List.length_cons] at room
    rintro (empty | long)
    · exact part_ne_nil inside (List.append_eq_nil_iff.mp empty).1
    · rw [List.length_append, List.length_replicate] at long
      omega
  rw [SystemInfoResponse.decode, if_neg (not_not.mpr rfl), if_neg value.isString, if_neg known, shape]
  simp only
  rw [if_neg (not_not.mpr rfl), if_neg later, if_neg sized]
  rfl

/-- The reply for a set, with zeros after its bytes or not, is decoded as the set. -/
theorem readSet_eq {zeros : Nat} (inside : set < setCount value.bytes.length)
    (room : (value.used set).length + zeros ≤ 17) :
    readSet value.selector set (value.used set ++ List.replicate zeros 0) =
      pure (value.decoded zeros set) := by
  have few := setCount_le value.bounded
  have some : value.used set ++ List.replicate zeros 0 ≠ [] := by
    rw [used]
    split <;> simp
  have known : ¬(value.selector = .setInProgress ∨ 16 < UInt8.ofNat set) := by
    rintro (other | many)
    · exact value.isString other
    · rw [UInt8.lt_iff_toNat_lt, toNat_set (by omega), show (16 : UInt8).toNat = 16 from rfl] at many
      omega
  have decoded : SystemInfoResponse.decode ⟨0x11, value.used set ++ List.replicate zeros 0⟩
      value.selector (UInt8.ofNat set) = pure (.stringBlock (value.decoded zeros set)) := by
    cases set with
    | zero => exact decode_first room
    | succ set => exact decode_later inside room
  rw [readSet, GetSystemInfoParameter.string, if_neg known, pure_bind,
    parseSuccessResponse_eq some, pure_bind, GetSystemInfoParameter.decode, if_neg (not_not.mpr rfl), decoded,
    pure_bind]

/-- The sets from one on, each with the part of the string it carries, make up
the string from there on. -/
theorem gather_eq {count : Nat} {zeros : Nat → Nat}
    (inside : set + count ≤ setCount value.bytes.length)
    (room : ∀ n < setCount value.bytes.length, (value.used n).length + zeros n ≤ 17) :
    gather value.selector value.bytes.length set (value.bytes.take (16 * set - 2))
      ((List.range' set count).map fun n => value.decoded (zeros n) n) =
        pure (value.bytes.take (16 * (set + count) - 2)) := by
  induction count generalizing set with
  | zero => rfl
  | succ count ih =>
    have here : set < setCount value.bytes.length := by omega
    have fits := room set here
    have bytes : (value.decoded (zeros set) set).bytes =
        value.part set ++ List.replicate (zeros set) 0 := rfl
    have same : ¬((value.decoded (zeros set) set).selector ≠ value.selector ∨
        (value.decoded (zeros set) set).setSelector ≠ UInt8.ofNat set) := by
      rintro (other | other) <;> exact other rfl
    have sized : ¬((value.decoded (zeros set) set).bytes.length < (value.part set).length ∨
        (if set = 0 then 14 else 16) < (value.decoded (zeros set) set).bytes.length ∨
        (0 < set ∧ ((value.decoded (zeros set) set).encoding.isSome ∨
          (value.decoded (zeros set) set).totalLength.isSome))) := by
      rw [bytes, List.length_append, List.length_replicate]
      rintro (short | long | ⟨later, marked⟩)
      · omega
      · rw [used] at fits
        split at fits <;> simp_all <;> omega
      · simp [decoded, Nat.ne_of_gt later] at marked
    have taken : (slice (value.decoded (zeros set) set).bytes 0 (value.part set).length : Info _) =
        pure (value.part set) := by
      rw [bytes, slice_eq (Nat.zero_le _) (by simp), List.drop_zero, List.take_left]
    have joined : value.bytes.take (16 * set - 2) ++ value.part set =
        value.bytes.take (16 * (set + 1) - 2) := by
      have front : (value.bytes.take (16 * (set + 1) - 2)).take (16 * set - 2) =
          value.bytes.take (16 * set - 2) := by
        rw [List.take_take, Nat.min_eq_left (by omega)]
      rw [part, ← front, List.take_append_drop]
    have later : gather value.selector value.bytes.length (set + 1)
        (value.bytes.take (16 * (set + 1) - 2))
        ((List.range' (set + 1) count).map fun n => value.decoded (zeros n) n) =
          pure (value.bytes.take (16 * (set + (count + 1)) - 2)) := by
      rw [ih (by omega), Nat.add_right_comm, Nat.add_assoc]
    rw [List.range'_succ, List.map_cons, gather, if_neg same, needed_eq here, pure_bind, if_neg sized,
      taken, pure_bind, joined, later]

theorem new_eq (value : SystemInfoString) :
    new value.selector value.encoding value.bytes = pure value := by
  obtain ⟨selector, encoding, bytes, isString, bounded, utf8, unicode⟩ := value
  rw [new, dif_neg isString, dif_neg (Nat.not_lt.mpr bounded),
    dif_neg fun ⟨declared, invalid⟩ => invalid (utf8 declared),
    dif_neg fun ⟨declared, odd⟩ => odd (unicode declared)]

theorem assemble_cons {first : SystemInfoStringBlock} {rest : List SystemInfoStringBlock}
    {encoding : SystemInfoEncoding} {total : UInt8} (zero : first.setSelector = 0)
    (encoded : first.encoding = some encoding) (declared : first.totalLength = some total)
    (exact : rest.length + 1 = setCount total.toNat) :
    assemble (first :: rest) = (do
      let bytes ← gather first.selector total.toNat 0 [] (first :: rest)
      new first.selector encoding bytes) := by
  rw [assemble, if_neg (not_not.mpr zero), encoded, declared]
  exact if_neg (not_not.mpr exact)

/-- The sets of a string are put together as the string. -/
theorem assemble_eq {zeros : Nat → Nat}
    (room : ∀ n < setCount value.bytes.length, (value.used n).length + zeros n ≤ 17) :
    assemble ((List.range (setCount value.bytes.length)).map fun n => value.decoded (zeros n) n) =
      pure value := by
  have gathered : gather value.selector value.bytes.length 0 []
      ((List.range (setCount value.bytes.length)).map fun n => value.decoded (zeros n) n) =
        pure value.bytes := by
    have all := gather_eq (Nat.le_of_eq (Nat.zero_add _)) room
    rwa [← List.range_eq_range', Nat.zero_add, List.take_of_length_le (setCount_covers _)] at all
  have counted : setCount value.bytes.length = divCeil (value.bytes.length - 14) 16 + 1 :=
    Nat.add_comm _ _
  rw [counted, List.range_succ_eq_map, List.map_cons] at gathered ⊢
  rw [assemble_cons rfl rfl rfl]
  · rw [toNat_length]
    exact gathered ▸ new_eq value
  · rw [toNat_length, List.length_map, List.length_map, List.length_range, counted]

/-- Replies with any number of zeros after the bytes of a set are read back as
the string. -/
theorem readBack_eq {zeros : Nat → Nat}
    (room : ∀ n < setCount value.bytes.length, (value.used n).length + zeros n ≤ 17) :
    readBack value.selector ((List.range (setCount value.bytes.length)).map fun n =>
      value.used n ++ List.replicate (zeros n) 0) = pure value := by
  rw [readBack, mapM_zipIdx_eq_pure (g := fun n => value.decoded (zeros n) n), pure_bind, List.length_map,
    List.length_range, assemble_eq room]
  intro n inside
  rw [List.length_map, List.length_range] at inside
  simp only [List.getElem_map, List.getElem_range]
  exact readSet_eq inside (room n inside)

/-- What the loop accepts are sets of the parameter, numbered from `set` on. -/
theorem of_gather {selector : SystemInfoSelector} {bytes result : List UInt8}
    {blocks : List SystemInfoStringBlock}
    (accepted : gather selector total set bytes blocks = pure result) :
    ∀ (i : Nat) (inside : i < blocks.length),
      blocks[i].selector = selector ∧ blocks[i].setSelector = UInt8.ofNat (set + i) := by
  induction blocks generalizing set bytes with
  | nil => exact fun i inside => absurd inside (Nat.not_lt_zero i)
  | cons block blocks ih =>
    obtain ⟨same, accepted⟩ := of_check_eq_pure accepted
    obtain ⟨needed, -, accepted⟩ := of_bind_eq_pure accepted
    obtain ⟨-, accepted⟩ := of_check_eq_pure accepted
    obtain ⟨taken, -, accepted⟩ := of_bind_eq_pure accepted
    rw [not_or, not_not, not_not] at same
    intro i inside
    cases i with
    | zero => exact same
    | succ i =>
      have later := ih accepted i (by simpa using inside)
      rwa [Nat.add_right_comm] at later

/-- The loop is never out of range while no more sets follow than needed. -/
theorem gather_yields {selector : SystemInfoSelector} {bytes : List UInt8}
    {blocks : List SystemInfoStringBlock} (few : set + blocks.length ≤ setCount total) :
    Yields (fun _ => True) (gather selector total set bytes blocks) := by
  induction blocks generalizing set bytes with
  | nil => trivial
  | cons block blocks ih =>
    rw [List.length_cons] at few
    have inside := within (show set < setCount total by omega)
    refine yields_check fun _ => Yields.bind (P := fun _ => True) ?_ fun needed _ => ?_
    · by_cases zero : set = 0
      · rw [needed, if_pos zero]
        trivial
      · rw [needed, if_neg zero, sub_eq (by omega), pure_bind, sub_eq (by omega), pure_bind,
          sub_eq (by omega), pure_bind]
        trivial
    · refine yields_check fun fits => ?_
      rw [slice_eq (Nat.zero_le _) (by omega), pure_bind]
      exact ih (by omega)

theorem assemble_yields (blocks : List SystemInfoStringBlock) :
    Yields (fun _ => True) (assemble blocks) := by
  cases blocks with
  | nil => trivial
  | cons first rest =>
    refine yields_check fun _ => ?_
    cases first.encoding with
    | none => trivial
    | some encoding =>
      cases first.totalLength with
      | none => trivial
      | some total =>
        refine yields_check fun counted => ?_
        refine Yields.bind (P := fun _ => True) (gather_yields ?_) fun bytes _ => ?_
        · rw [Nat.zero_add, List.length_cons]
          exact Nat.le_of_eq (not_not.mp counted)
        · unfold new
          split
          · trivial
          · split
            · trivial
            · split
              · trivial
              · split <;> trivial

theorem of_new {selector : SystemInfoSelector} {encoding : SystemInfoEncoding} {bytes : List UInt8}
    (accepted : new selector encoding bytes = pure value) : value.selector = selector := by
  unfold new at accepted
  split at accepted
  · cases accepted
  · split at accepted
    · cases accepted
    · split at accepted
      · cases accepted
      · split at accepted
        · cases accepted
        · cases accepted
          rfl

/-- The sets that are put together are of one parameter and numbered from zero,
as many as the length in the first one needs. -/
theorem of_assemble {blocks : List SystemInfoStringBlock} (accepted : assemble blocks = pure value) :
    (∀ (i : Nat) (inside : i < blocks.length),
      blocks[i].selector = value.selector ∧ blocks[i].setSelector.toNat = i) ∧
    ∃ first total, blocks.head? = some first ∧ first.totalLength = some total ∧
      blocks.length = setCount total.toNat := by
  cases blocks with
  | nil => cases accepted
  | cons first rest =>
    obtain ⟨-, accepted⟩ := of_check_eq_pure accepted
    cases encoded : first.encoding with
    | none =>
      rw [encoded] at accepted
      cases accepted
    | some encoding =>
      cases declared : first.totalLength with
      | none =>
        rw [encoded, declared] at accepted
        cases accepted
      | some total =>
        rw [encoded, declared] at accepted
        obtain ⟨counted, accepted⟩ := of_check_eq_pure accepted
        obtain ⟨bytes, gathered, accepted⟩ := of_bind_eq_pure accepted
        have count : (first :: rest).length = setCount total.toNat := not_not.mp counted
        have few := setCount_le (Nat.le_of_lt_succ total.toNat_lt)
        refine ⟨fun i inside => ?_, first, total, rfl, declared, count⟩
        obtain ⟨same, number⟩ := of_gather gathered i inside
        rw [same, number, Nat.zero_add, toNat_set (by omega), of_new accepted]
        exact ⟨rfl, rfl⟩


end
/-- A string survives its sets: the writes are its sets, each padded to the size
of the data area, and read back they are the string, as are the sets without
padding. No list of sets is out of range, and the string put together from one
is of one parameter, of sets numbered from zero, as many as its length needs. -/
theorem sets_put_together :
    (∀ value : SystemInfoString, ∃ writes, value.toWrites = pure writes ∧
      (∀ write ∈ writes, write.selector = value.selector ∧ write.bytes.length = 17) ∧
      writes.map (·.bytes) = value.unpadded.map (resize 17) ∧
      readBack value.selector (writes.map (·.bytes)) = pure value ∧
      readBack value.selector value.unpadded = pure value) ∧
    ∀ blocks, assemble blocks ≠ panicked ∧ ∀ value, assemble blocks = pure value →
      (∀ (i : Nat) (inside : i < blocks.length),
        blocks[i].selector = value.selector ∧ blocks[i].setSelector.toNat = i) ∧
      ∃ first total, blocks.head? = some first ∧ first.totalLength = some total ∧
        blocks.length = setCount total.toNat := by
  constructor
  · intro value
    have sized (n : Nat) (inside : n < setCount value.bytes.length) : (value.used n).length ≤ 17 :=
      length_used inside
    have padded : value.unpadded.map (resize 17) =
        (List.range (setCount value.bytes.length)).map fun n =>
          value.used n ++ List.replicate (17 - (value.used n).length) 0 := by
      rw [unpadded, List.map_map]
      apply List.map_congr_left
      intro n inside
      exact resize_eq (sized n (List.mem_range.mp inside))
    have bare : value.unpadded = (List.range (setCount value.bytes.length)).map fun n =>
        value.used n ++ List.replicate 0 0 := by
      simp [unpadded]
    refine ⟨_, toWrites_eq value, ?_, ?_, ?_, ?_⟩
    · intro write member
      obtain ⟨set, inside, rfl⟩ := List.mem_map.mp member
      refine ⟨rfl, ?_⟩
      simp [resize]
      omega
    · rw [List.map_map]
      rfl
    · rw [List.map_map]
      refine (congrArg (readBack value.selector) padded).trans (readBack_eq fun n inside => ?_)
      have := sized n inside
      omega
    · exact bare ▸ readBack_eq fun n inside => sized n inside
  · intro blocks
    obtain ⟨outcome, ran⟩ := (assemble_yields blocks).returns
    exact ⟨ran ▸ Option.some_ne_none _, fun value accepted => of_assemble accepted⟩

/-- A name of forty characters. -/
def longName : SystemInfoString :=
  ⟨.systemName, .asciiLatin1, List.replicate 40 0x61, by decide, by decide, by rintro ⟨⟩, by rintro ⟨⟩⟩

/-- The blocks that it is read in. -/
def longNameBlocks : List SystemInfoStringBlock :=
  [⟨.systemName, 0, some .asciiLatin1, some 40, List.replicate 14 0x61⟩,
    ⟨.systemName, 1, none, none, List.replicate 16 0x61⟩, ⟨.systemName, 2, none, none, List.replicate 10 0x61⟩]

/-- It is written in three sets, read back from them, and put together of three blocks. -/
theorem sets_put_together_three :
    (∃ writes, longName.toWrites = pure writes ∧ writes.map (·.bytes.length) = [17, 17, 17] ∧
      readBack .systemName (writes.map (·.bytes)) = pure longName ∧
      readBack .systemName longName.unpadded = pure longName) ∧
    assemble longNameBlocks = pure longName ∧
    ∀ (i : Nat) (inside : i < longNameBlocks.length),
      longNameBlocks[i].selector = .systemName ∧ longNameBlocks[i].setSelector.toNat = i := by
  have whole : assemble longNameBlocks = pure longName := rfl
  obtain ⟨writes, sets, -, bytes, padded, bare⟩ := sets_put_together.1 longName
  refine ⟨⟨writes, sets, ?_, padded, bare⟩, whole, ((sets_put_together.2 longNameBlocks).2 longName whole).1⟩
  have lengths := congrArg (List.map List.length) bytes
  rw [List.map_map] at lengths
  exact lengths.trans (by decide)

end SystemInfoString
end IpmiRs.App.SystemInfo
