import Mathlib.Algebra.Order.Ring.Nat

/-! Little-endian encodings of natural numbers in a given number of bytes. -/
namespace IpmiRs.Library.Bytes

/-- The low `width` bytes of a number, least significant first. -/
def toLe : Nat → Nat → List UInt8
  | 0, _ => []
  | width + 1, n => UInt8.ofNat n :: toLe width (n / 256)

/-- The number a list of bytes encodes, least significant first. -/
def ofLe : List UInt8 → Nat
  | [] => 0
  | byte :: rest => byte.toNat + 256 * ofLe rest

@[simp] theorem length_toLe (width n : Nat) : (toLe width n).length = width := by
  induction width generalizing n with
  | zero => rfl
  | succ width ih => simp [toLe, ih]

theorem ofLe_toLe (width n : Nat) : ofLe (toLe width n) = n % 256 ^ width := by
  induction width generalizing n with
  | zero => simp [toLe, ofLe, Nat.mod_one]
  | succ width ih =>
    rw [toLe, ofLe, ih, UInt8.toNat_ofNat', Nat.pow_succ 256, Nat.mul_comm (256 ^ width),
      Nat.mod_mul]

/-- A number that fits is recovered. -/
theorem ofLe_toLe_of_lt {width n : Nat} (fits : n < 256 ^ width) : ofLe (toLe width n) = n := by
  rw [ofLe_toLe, Nat.mod_eq_of_lt fits]

theorem ofLe_lt (bytes : List UInt8) : ofLe bytes < 256 ^ bytes.length := by
  induction bytes with
  | nil => simp [ofLe]
  | cons byte rest ih =>
    have small := byte.toNat_lt
    simp only [ofLe, List.length_cons, Nat.pow_succ]
    omega

/-- Bytes are recovered from the number they encode. -/
theorem toLe_ofLe {width : Nat} {bytes : List UInt8} (wide : bytes.length = width) :
    toLe width (ofLe bytes) = bytes := by
  subst wide
  induction bytes with
  | nil => rfl
  | cons byte rest ih =>
    have small := byte.toNat_lt
    have low : UInt8.ofNat (byte.toNat + 256 * ofLe rest) = byte := by
      apply UInt8.toNat_inj.mp
      rw [UInt8.toNat_ofNat']
      omega
    have high : (byte.toNat + 256 * ofLe rest) / 256 = ofLe rest := by omega
    rw [List.length_cons, toLe, ofLe, low, high, ih]

/-- The low bytes of a number stay when it loses higher ones. -/
theorem toLe_mod {width wide : Nat} (fits : width ≤ wide) (n : Nat) :
    toLe width (n % 256 ^ wide) = toLe width n := by
  induction width generalizing wide n with
  | zero => rfl
  | succ width ih =>
    obtain ⟨wide, rfl⟩ : ∃ wider, wide = wider + 1 := ⟨wide - 1, by omega⟩
    have low : UInt8.ofNat (n % 256 ^ (wide + 1)) = UInt8.ofNat n := by
      apply UInt8.toNat_inj.mp
      rw [UInt8.toNat_ofNat', UInt8.toNat_ofNat', Nat.pow_succ', Nat.mod_mul_right_mod]
    have high : n % 256 ^ (wide + 1) / 256 = n / 256 % 256 ^ wide := by
      rw [Nat.pow_succ', Nat.mod_mul_right_div_self]
    rw [toLe, toLe, low, high, ih (by omega)]

/-- The bits of a byte from `low` up to `high`. -/
def bits (byte : UInt8) (high low : Nat) : Nat := byte.toNat / 2 ^ low % 2 ^ (high - low + 1)

/-- What holds of every entry of a table of bytes holds of every byte. -/
theorem forall_of_table {p : UInt8 → Prop} (table : ∀ n : Fin 256, p (UInt8.ofNat n)) (byte : UInt8) :
    p byte := by
  have entry := table ⟨byte.toNat, byte.toNat_lt⟩
  rwa [UInt8.ofNat_toNat] at entry

end IpmiRs.Library.Bytes
