import Mathlib.Data.List.Basic

/-! Two's-complement byte checksums: a list of bytes is sealed by the one byte
that makes its wrapping sum zero. -/
namespace IpmiRs.Library.Checksum

/-- The wrapping sum of a list of bytes. -/
def total (bytes : List UInt8) : UInt8 := bytes.foldl (· + ·) 0

private theorem foldl_add (bytes : List UInt8) (start : UInt8) :
    bytes.foldl (· + ·) start = start + bytes.foldl (· + ·) 0 := by
  induction bytes generalizing start with
  | nil => simp
  | cons byte bytes ih =>
    rw [List.foldl_cons, List.foldl_cons, ih (start + byte), ih (0 + byte)]
    grind

@[simp] theorem total_nil : total [] = 0 := rfl

@[simp] theorem total_cons (byte : UInt8) (bytes : List UInt8) :
    total (byte :: bytes) = byte + total bytes := by
  rw [total, List.foldl_cons, foldl_add]
  simp [total]

@[simp] theorem total_append (first second : List UInt8) :
    total (first ++ second) = total first + total second := by
  induction first with
  | nil => simp
  | cons byte first ih => simp [ih, UInt8.add_assoc]

/-- The sealing byte is the complement of the sum plus one. -/
theorem not_add_one (byte : UInt8) : ~~~byte + 1 = -byte := by
  apply UInt8.toBitVec_inj.mp
  simp [BitVec.neg_eq_not_add]

/-- A sealed list sums to zero, and only the sealing byte achieves it. -/
theorem total_concat_eq_zero_iff (bytes : List UInt8) (last : UInt8) :
    total (bytes ++ [last]) = 0 ↔ last = -total bytes := by
  simp only [total_append, total_cons, total_nil]
  grind

end IpmiRs.Library.Checksum
