import IpmiRs.Sun.PublicKey

/-! What `decode_base64` accepts is canonical base64, of enough characters. -/
namespace IpmiRs.Sun
open Library Library.Bytes Library.Chunks

variable {a b c d : UInt8} {last : Bool} {bytes : List UInt8}

theorem base64Digit_char {sextet : Nat} (small : sextet < 64) (padding : Bool) :
    base64Digit (Base64.char sextet) padding = some sextet := by
  have table : ∀ sextet : Fin 64, ∀ padding, base64Digit (Base64.char sextet) padding = some sextet.val := by
    decide +kernel
  exact table ⟨sextet, small⟩ padding

/-- The digits are the characters of the alphabet. -/
theorem base64Digit_eq {digit : Nat} (read : base64Digit b false = some digit) :
    digit < 64 ∧ b = Base64.char digit := by
  have table : ∀ b : UInt8, (base64Digit b false).all fun digit => decide (digit < 64 ∧ b = Base64.char digit) := by
    apply forall_of_table
    decide +kernel
  have entry := table b
  rw [read] at entry
  exact of_decide_eq_true entry

theorem zipIdx_foldlM (f : Nat → UInt8 × Nat → Option Nat) :
    [a, b, c, d].zipIdx.foldlM f 0 = (do
      let first ← f 0 (a, 0)
      let second ← f first (b, 1)
      let third ← f second (c, 2)
      f third (d, 3)) := by
  simp [List.zipIdx, List.foldlM]

theorem shift_or {value digit : Nat} (small : digit < 64) : value <<< 6 ||| digit = value * 64 + digit := by
  rw [← Nat.shiftLeft_add_eq_or_of_lt small, Nat.shiftLeft_eq]

/-- The value of four digits. -/
def quartetValue (p q r s : Nat) : Nat := ((p * 64 + q) * 64 + r) * 64 + s

theorem toBe_value (value : Nat) :
    toBe 4 value = [UInt8.ofNat (value / 256 / 256 / 256), UInt8.ofNat (value / 256 / 256), UInt8.ofNat (value / 256),
      UInt8.ofNat value] := rfl

theorem base64Digit_lt {padding : Bool} {digit : Nat} (read : base64Digit b padding = some digit) : digit < 64 := by
  have table : ∀ b : UInt8, ∀ padding, (base64Digit b padding).all fun digit => decide (digit < 64) := by
    apply forall_of_table
    decide +kernel
  have entry := table b padding
  rw [read] at entry
  exact of_decide_eq_true entry

/-- Four characters with so much padding: what the digits make, if no bits are left over. -/
theorem decodeQuartet_eq {count : Nat} (counted : ([a, b, c, d].reverse.takeWhile (· == 0x3D)).length = count)
    (few : count ≤ 2) (allowed : count ≠ 0 → last = true) :
    decodeQuartet [a, b, c, d] last = some bytes ↔
      ∃ p q r s, base64Digit a (last && decide (4 - count ≤ 0)) = some p ∧
        base64Digit b (last && decide (4 - count ≤ 1)) = some q ∧
        base64Digit c (last && decide (4 - count ≤ 2)) = some r ∧
        base64Digit d (last && decide (4 - count ≤ 3)) = some s ∧
        (count = 1 → quartetValue p q r s % 256 = 0) ∧ (count = 2 → quartetValue p q r s % 65536 = 0) ∧
        bytes = ((toBe 4 (quartetValue p q r s)).take (4 - count)).drop 1 := by
  have value : ∀ {p q r s : Nat}, p < 64 → q < 64 → r < 64 → s < 64 →
      (((0 <<< 6 ||| p) <<< 6 ||| q) <<< 6 ||| r) <<< 6 ||| s = quartetValue p q r s := by
    intro p q r s first second third fourth
    rw [shift_or first, shift_or second, shift_or third, shift_or fourth, Nat.zero_mul, Nat.zero_add, quartetValue]
  have eight : ∀ v : Nat, v &&& 0xFF = v % 256 := fun v => Nat.and_two_pow_sub_one_eq_mod v 8
  have sixteen : ∀ v : Nat, v &&& 0xFFFF = v % 65536 := fun v => Nat.and_two_pow_sub_one_eq_mod v 16
  have passed : ¬(2 < count ∨ (count ≠ 0 ∧ ¬last = true)) := by
    rintro (many | ⟨some, early⟩)
    · omega
    · exact early (allowed some)
  unfold decodeQuartet
  rw [counted]
  dsimp only
  rw [if_neg passed, zipIdx_foldlM]
  constructor
  · intro decoded
    simp only [Option.bind_eq_bind, Option.bind_eq_some_iff, Option.map_eq_some_iff] at decoded
    obtain ⟨_, ⟨_, ⟨p, first, rfl⟩, _, ⟨q, second, rfl⟩, _, ⟨r, third, rfl⟩, s, fourth, rfl⟩, made⟩ := decoded
    rw [value (base64Digit_lt first) (base64Digit_lt second) (base64Digit_lt third) (base64Digit_lt fourth),
      eight, sixteen] at made
    split at made
    · cases made
    · rename_i clean
      refine ⟨p, q, r, s, first, second, third, fourth, ?_, ?_, (Option.some.inj made).symm⟩
      · intro one
        by_contra left
        exact clean (.inl ⟨one, left⟩)
      · intro two
        by_contra left
        exact clean (.inr ⟨two, left⟩)
  · rintro ⟨p, q, r, s, first, second, third, fourth, one, two, rfl⟩
    simp only [first, second, third, fourth, Option.map_some, Option.bind_eq_bind, Option.bind_some]
    rw [value (base64Digit_lt first) (base64Digit_lt second) (base64Digit_lt third) (base64Digit_lt fourth),
      eight, sixteen, if_neg]
    rintro (⟨same, left⟩ | ⟨same, left⟩)
    · exact left (one same)
    · exact left (two same)

/-- The bytes of a value. -/
structure Bytes (value : Nat) (x y z : UInt8) : Prop where
  value : value = (x.toNat * 256 + y.toNat) * 256 + z.toNat

theorem Bytes.toBe {value : Nat} {x y z : UInt8} (made : Bytes value x y z) :
    (toBe 4 value).drop 1 = [x, y, z] := by
  have first := x.toNat_lt
  have second := y.toNat_lt
  have third := z.toNat_lt
  have same := made.value
  have high : UInt8.ofNat (value / 256 / 256) = x := by
    rw [← UInt8.toNat_inj, UInt8.toNat_ofNat']
    omega
  have middle : UInt8.ofNat (value / 256) = y := by
    rw [← UInt8.toNat_inj, UInt8.toNat_ofNat']
    omega
  have low : UInt8.ofNat value = z := by
    rw [← UInt8.toNat_inj, UInt8.toNat_ofNat']
    omega
  rw [toBe_value, List.drop_succ_cons, List.drop_zero, high, middle, low]

/-- Four digits have three bytes, which have the digits. -/
theorem exists_bytes {p q r s : Nat} (first : p < 64) (second : q < 64) (third : r < 64) (fourth : s < 64) :
    ∃ x y z : UInt8, Bytes (quartetValue p q r s) x y z ∧ p = x.toNat / 4 ∧ q = x.toNat % 4 * 16 + y.toNat / 16 ∧
      r = y.toNat % 16 * 4 + z.toNat / 64 ∧ s = z.toNat % 64 := by
  refine ⟨UInt8.ofNat (quartetValue p q r s / 65536), UInt8.ofNat (quartetValue p q r s / 256),
    UInt8.ofNat (quartetValue p q r s), ⟨?_⟩, ?_, ?_, ?_, ?_⟩ <;>
  · simp only [UInt8.toNat_ofNat', quartetValue]
    omega

theorem bytes_value (x y z : UInt8) : Bytes (quartetValue (x.toNat / 4) (x.toNat % 4 * 16 + y.toNat / 16)
    (y.toNat % 16 * 4 + z.toNat / 64) (z.toNat % 64)) x y z := by
  have first := x.toNat_lt
  have second := y.toNat_lt
  have third := z.toNat_lt
  constructor
  unfold quartetValue
  omega

theorem count_zero (ending : d ≠ Base64.pad) : ([a, b, c, d].reverse.takeWhile (· == 0x3D)).length = 0 := by
  have other : ¬d = 0x3D := ending
  simp [other]

theorem count_one (ending : c ≠ Base64.pad) :
    ([a, b, c, Base64.pad].reverse.takeWhile (· == 0x3D)).length = 1 := by
  have other : ¬c = 0x3D := ending
  simp [other, Base64.pad]

theorem count_two (ending : b ≠ Base64.pad) :
    ([a, b, Base64.pad, Base64.pad].reverse.takeWhile (· == 0x3D)).length = 2 := by
  have other : ¬b = 0x3D := ending
  simp [other, Base64.pad]

/-- Four characters without padding are three bytes. -/
theorem decodeQuartet_full (ending : d ≠ Base64.pad) :
    decodeQuartet [a, b, c, d] last = some bytes ↔
      ∃ x y z, bytes = [x, y, z] ∧ [a, b, c, d] = Base64.encode [x, y, z] := by
  rw [decodeQuartet_eq (count_zero ending) (Nat.zero_le 2) (absurd rfl)]
  simp only [Nat.sub_zero, Nat.reduceLeDiff, decide_false, Bool.and_false]
  constructor
  · rintro ⟨p, q, r, s, first, second, third, fourth, -, -, rfl⟩
    obtain ⟨p_lt, rfl⟩ := base64Digit_eq first
    obtain ⟨q_lt, rfl⟩ := base64Digit_eq second
    obtain ⟨r_lt, rfl⟩ := base64Digit_eq third
    obtain ⟨s_lt, rfl⟩ := base64Digit_eq fourth
    obtain ⟨x, y, z, made, rfl, rfl, rfl, rfl⟩ := exists_bytes p_lt q_lt r_lt s_lt
    exact ⟨x, y, z, made.toBe, rfl⟩
  · rintro ⟨x, y, z, rfl, same⟩
    simp only [Base64.encode, List.cons.injEq, and_true] at same
    obtain ⟨rfl, rfl, rfl, rfl⟩ := same
    have first := x.toNat_lt
    have second := y.toNat_lt
    have third := z.toNat_lt
    exact ⟨_, _, _, _, base64Digit_char (by omega) _, base64Digit_char (by omega) _, base64Digit_char (by omega) _,
      base64Digit_char (by omega) _, nofun, nofun, (bytes_value x y z).toBe.symm⟩

theorem base64Digit_pad {digit : Nat} : base64Digit Base64.pad true = some digit ↔ digit = 0 := by
  rw [show base64Digit Base64.pad true = some 0 from rfl, Option.some.injEq, eq_comm]

theorem Bytes.take {value count : Nat} {x y z : UInt8} (made : Bytes value x y z) :
    ((Library.Bytes.toBe 4 value).take (count + 1)).drop 1 = [x, y, z].take count := by
  rw [List.drop_take, made.toBe, Nat.add_sub_cancel]

/-- Three characters and padding are two bytes, with no bits left over. -/
theorem decodeQuartet_one (ending : c ≠ Base64.pad) :
    decodeQuartet [a, b, c, Base64.pad] true = some bytes ↔
      ∃ x y, bytes = [x, y] ∧ [a, b, c, Base64.pad] = Base64.encode [x, y] := by
  rw [decodeQuartet_eq (count_one ending) (Nat.le_succ 1) (fun _ => rfl)]
  simp only [Nat.reduceSub, Nat.reduceLeDiff, decide_false, decide_true, Bool.and_false, Bool.and_true,
    base64Digit_pad]
  constructor
  · rintro ⟨p, q, r, s, first, second, third, rfl, clean, -, rfl⟩
    obtain ⟨p_lt, rfl⟩ := base64Digit_eq first
    obtain ⟨q_lt, rfl⟩ := base64Digit_eq second
    obtain ⟨r_lt, rfl⟩ := base64Digit_eq third
    obtain ⟨x, y, z, made, rfl, rfl, rfl, -⟩ := exists_bytes p_lt q_lt r_lt (show 0 < 64 by decide)
    have zero : z.toNat = 0 := by
      have same := made.value
      have none := clean trivial
      have small := z.toNat_lt
      omega
    refine ⟨x, y, made.take, ?_⟩
    rw [zero]
    rfl
  · rintro ⟨x, y, rfl, same⟩
    simp only [Base64.encode, List.cons.injEq, and_true] at same
    obtain ⟨rfl, rfl, rfl⟩ := same
    have first := x.toNat_lt
    have second := y.toNat_lt
    have made : Bytes (quartetValue (x.toNat / 4) (x.toNat % 4 * 16 + y.toNat / 16) (y.toNat % 16 * 4) 0) x y 0 :=
      bytes_value x y 0
    have taken : ((Library.Bytes.toBe 4 (quartetValue (x.toNat / 4) (x.toNat % 4 * 16 + y.toNat / 16)
        (y.toNat % 16 * 4) 0)).take 3).drop 1 = [x, y] := made.take
    refine ⟨_, _, _, _, base64Digit_char (by omega) _, base64Digit_char (by omega) _, base64Digit_char (by omega) _,
      rfl, fun _ => ?_, nofun, taken.symm⟩
    have value := made.value
    rw [UInt8.toNat_zero] at value
    omega

/-- Two characters and padding are one byte, with no bits left over. -/
theorem decodeQuartet_two (ending : b ≠ Base64.pad) :
    decodeQuartet [a, b, Base64.pad, Base64.pad] true = some bytes ↔
      ∃ x, bytes = [x] ∧ [a, b, Base64.pad, Base64.pad] = Base64.encode [x] := by
  rw [decodeQuartet_eq (count_two ending) (Nat.le_refl 2) (fun _ => rfl)]
  simp only [Nat.reduceSub, Nat.reduceLeDiff, decide_false, decide_true, Bool.and_false, Bool.and_true,
    base64Digit_pad]
  constructor
  · rintro ⟨p, q, r, s, first, second, rfl, rfl, -, clean, rfl⟩
    obtain ⟨p_lt, rfl⟩ := base64Digit_eq first
    obtain ⟨q_lt, rfl⟩ := base64Digit_eq second
    obtain ⟨x, y, z, made, rfl, rfl, -, -⟩ := exists_bytes p_lt q_lt (show 0 < 64 by decide) (show 0 < 64 by decide)
    have zero : y.toNat = 0 := by
      have same := made.value
      have none := clean trivial
      have small := z.toNat_lt
      have bound := y.toNat_lt
      omega
    refine ⟨x, made.take, ?_⟩
    rw [zero]
    rfl
  · rintro ⟨x, rfl, same⟩
    simp only [Base64.encode, List.cons.injEq, and_true] at same
    obtain ⟨rfl, rfl⟩ := same
    have first := x.toNat_lt
    have made : Bytes (quartetValue (x.toNat / 4) (x.toNat % 4 * 16) 0 0) x 0 0 := bytes_value x 0 0
    have taken : ((Library.Bytes.toBe 4 (quartetValue (x.toNat / 4) (x.toNat % 4 * 16) 0 0)).take 2).drop 1 = [x] :=
      made.take
    refine ⟨_, _, _, _, base64Digit_char (by omega) _, base64Digit_char (by omega) _, rfl, rfl, nofun, fun _ => ?_,
      taken.symm⟩
    have value := made.value
    rw [UInt8.toNat_zero] at value
    omega

/-- More padding is no quartet. -/
theorem decodeQuartet_none : decodeQuartet [a, Base64.pad, Base64.pad, Base64.pad] last = none := by
  have many : 2 < ([a, Base64.pad, Base64.pad, Base64.pad].reverse.takeWhile (· == 0x3D)).length := by
    simp [Base64.pad]
  unfold decodeQuartet
  exact if_pos (.inl many)

/-- Padding ends the text. -/
theorem decodeQuartet_early : decodeQuartet [a, b, c, Base64.pad] false = none := by
  have some : ([a, b, c, Base64.pad].reverse.takeWhile (· == 0x3D)).length ≠ 0 := by
    simp [Base64.pad]
  unfold decodeQuartet
  exact if_pos (.inr ⟨some, Bool.noConfusion⟩)

/-- The last quartet is one to three bytes. -/
theorem decodeQuartet_last : decodeQuartet [a, b, c, d] true = some bytes ↔
    bytes ≠ [] ∧ bytes.length ≤ 3 ∧ [a, b, c, d] = Base64.encode bytes := by
  have small : ∀ x : UInt8, x.toNat < 256 := fun x => x.toNat_lt
  constructor
  · intro decoded
    by_cases fourth : d = Base64.pad
    · subst fourth
      by_cases third : c = Base64.pad
      · subst third
        by_cases second : b = Base64.pad
        · subst second
          rw [decodeQuartet_none] at decoded
          cases decoded
        · obtain ⟨x, rfl, same⟩ := (decodeQuartet_two second).mp decoded
          exact ⟨List.cons_ne_nil _ _, Nat.le_of_ble_eq_true rfl, same⟩
      · obtain ⟨x, y, rfl, same⟩ := (decodeQuartet_one third).mp decoded
        exact ⟨List.cons_ne_nil _ _, Nat.le_of_ble_eq_true rfl, same⟩
    · obtain ⟨x, y, z, rfl, same⟩ := (decodeQuartet_full fourth).mp decoded
      exact ⟨List.cons_ne_nil _ _, Nat.le_of_ble_eq_true rfl, same⟩
  · rintro ⟨some, few, same⟩
    match bytes, some, few with
    | [x], _, _ =>
      simp only [Base64.encode, List.cons.injEq, and_true] at same
      obtain ⟨rfl, rfl, rfl, rfl⟩ := same
      have bound := small x
      exact (decodeQuartet_two (Base64.char_ne_pad (by omega))).mpr ⟨x, rfl, rfl⟩
    | [x, y], _, _ =>
      simp only [Base64.encode, List.cons.injEq, and_true] at same
      obtain ⟨rfl, rfl, rfl, rfl⟩ := same
      have bound := small y
      exact (decodeQuartet_one (Base64.char_ne_pad (by omega))).mpr ⟨x, y, rfl, rfl⟩
    | [x, y, z], _, _ =>
      simp only [Base64.encode, List.cons.injEq, and_true] at same
      obtain ⟨rfl, rfl, rfl, rfl⟩ := same
      have bound := small z
      exact (decodeQuartet_full (Base64.char_ne_pad (by omega))).mpr ⟨x, y, z, rfl, rfl⟩
    | _ :: _ :: _ :: _ :: _, _, few =>
      simp only [List.length_cons] at few
      omega

/-- Any other quartet is three bytes. -/
theorem decodeQuartet_more : decodeQuartet [a, b, c, d] false = some bytes ↔
    ∃ x y z, bytes = [x, y, z] ∧ [a, b, c, d] = Base64.encode [x, y, z] := by
  by_cases fourth : d = Base64.pad
  · subst fourth
    rw [decodeQuartet_early]
    refine iff_of_false nofun ?_
    rintro ⟨x, y, z, -, same⟩
    simp only [Base64.encode, List.cons.injEq, and_true] at same
    have bound := z.toNat_lt
    exact Base64.char_ne_pad (show z.toNat % 64 < 64 by omega) same.2.2.2.symm
  · exact decodeQuartet_full fourth

/-- Quartets are decoded as what they are the encoding of. -/
theorem decodeQuartets (count : Nat) {encoded : List UInt8} (length : encoded.length = 4 * (count + 1)) (start : Nat) :
    (((chunks 4 encoded).zipIdx start).mapM fun (quartet, index) =>
      decodeQuartet quartet (index == start + count)).map List.flatten = some bytes ↔
    encoded = Base64.encode bytes := by
  induction count generalizing encoded start bytes with
  | zero =>
    match encoded, length with
    | [a, b, c, d], length =>
      have one : chunks 4 [a, b, c, d] = [[a, b, c, d]] := by
        rw [chunks_eq_cons (by decide) (List.cons_ne_nil _ _)]
        exact congrArg (List.cons _) (chunks_nil 4)
      have alone : (start == start + 0) = true := beq_self_eq_true start
      rw [one, List.zipIdx_singleton, List.mapM_cons, List.mapM_nil]
      dsimp only
      rw [alone]
      constructor
      · intro decoded
        simp only [Option.map_eq_some_iff, Option.bind_eq_bind, Option.bind_eq_some_iff, Option.pure_def,
          Option.some.injEq] at decoded
        obtain ⟨_, ⟨piece, read, _, rfl, rfl⟩, rfl⟩ := decoded
        rw [List.flatten_singleton]
        exact (decodeQuartet_last.mp read).2.2
      · intro same
        have four := congrArg List.length same
        rw [Base64.length_encode, length] at four
        have read : decodeQuartet [a, b, c, d] true = some bytes := by
          refine decodeQuartet_last.mpr ⟨List.ne_nil_of_length_pos (by omega), by omega, same⟩
        rw [read]
        exact congrArg some (List.flatten_singleton)
  | succ count ih =>
    match encoded, length with
    | a :: b :: c :: d :: encoded, length =>
      have rest : encoded.length = 4 * (count + 1) := by
        simp only [List.length_cons] at length
        omega
      have cut : chunks 4 (a :: b :: c :: d :: encoded) = [a, b, c, d] :: chunks 4 encoded :=
        chunks_eq_cons (by decide) (List.cons_ne_nil _ _)
      have early : (start == start + (count + 1)) = false := by
        rw [beq_eq_false_iff_ne]
        omega
      have shift : start + (count + 1) = start + 1 + count := by omega
      rw [cut, List.zipIdx_cons, List.mapM_cons]
      dsimp only
      rw [early, shift]
      constructor
      · intro decoded
        simp only [Option.map_eq_some_iff, Option.bind_eq_bind, Option.bind_eq_some_iff, Option.pure_def,
          Option.some.injEq] at decoded
        obtain ⟨_, ⟨piece, read, pieces, more, rfl⟩, rfl⟩ := decoded
        obtain ⟨x, y, z, rfl, same⟩ := decodeQuartet_more.mp read
        have later := (ih rest (start + 1)).mp (Option.map_eq_some_iff.mpr ⟨pieces, more, rfl⟩)
        simp only [Base64.encode, List.cons.injEq, and_true] at same
        obtain ⟨rfl, rfl, rfl, rfl⟩ := same
        rw [later]
        rfl
      · intro same
        have long := congrArg List.length same
        rw [Base64.length_encode, length] at long
        match bytes, long with
        | x :: y :: z :: bytes, _ =>
          simp only [Base64.encode, List.cons.injEq] at same
          obtain ⟨rfl, rfl, rfl, rfl, same⟩ := same
          have read := decodeQuartet_more.mpr ⟨x, y, z, rfl, rfl⟩
          obtain ⟨pieces, more, flat⟩ := Option.map_eq_some_iff.mp ((ih rest (start + 1)).mpr same)
          rw [read, more]
          exact congrArg some (congrArg ([x, y, z] ++ ·) flat)
        | [], long => simp at long
        | [_], long => simp at long
        | [_, _], long => simp at long

/-- What is decoded is canonical, and nothing else is. -/
theorem decodeBase64_iff (encoded bytes : List UInt8) :
    decodeBase64 encoded = some bytes ↔ 16 ≤ encoded.length ∧ encoded = Base64.encode bytes := by
  unfold decodeBase64
  split
  · rename_i rejected
    refine iff_of_false nofun ?_
    rintro ⟨long, same⟩
    have length := congrArg List.length same
    rw [Base64.length_encode] at length
    omega
  · rename_i accepted
    obtain ⟨long, whole⟩ := not_or.mp accepted
    have length : encoded.length = 4 * (encoded.length / 4 - 1 + 1) := by omega
    have decoded := @decodeQuartets bytes (encoded.length / 4 - 1) encoded length 0
    rw [Nat.zero_add] at decoded
    rw [decoded]
    exact (and_iff_right (Nat.not_lt.mp long)).symm

end IpmiRs.Sun
