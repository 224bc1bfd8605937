import IpmiRs.Library.Bytes

/-! Big-endian encodings of natural numbers in a given number of bytes. -/
namespace IpmiRs.Library.Bytes

/-- The low `width` bytes of a number, most significant first. -/
def toBe (width n : Nat) : List UInt8 := (toLe width n).reverse

/-- The number a list of bytes encodes, most significant first. -/
def ofBe (bytes : List UInt8) : Nat := ofLe bytes.reverse

@[simp] theorem length_toBe (width n : Nat) : (toBe width n).length = width := by
  rw [toBe, List.length_reverse, length_toLe]

/-- A number that fits is recovered. -/
theorem ofBe_toBe_of_lt {width n : Nat} (fits : n < 256 ^ width) : ofBe (toBe width n) = n := by
  rw [ofBe, toBe, List.reverse_reverse, ofLe_toLe_of_lt fits]

/-- Bytes are recovered from the number they encode. -/
theorem toBe_ofBe {width : Nat} {bytes : List UInt8} (wide : bytes.length = width) :
    toBe width (ofBe bytes) = bytes := by
  rw [toBe, ofBe, toLe_ofLe (by rw [List.length_reverse, wide]), List.reverse_reverse]

theorem ofBe_lt (bytes : List UInt8) : ofBe bytes < 256 ^ bytes.length := by
  have bound := ofLe_lt bytes.reverse
  rwa [List.length_reverse] at bound

end IpmiRs.Library.Bytes
