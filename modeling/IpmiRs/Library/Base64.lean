import IpmiRs.Library.Bytes

/-! The canonical base64 encoding: four characters for three bytes, and padding
to four characters for one or two that are left. -/
namespace IpmiRs.Library.Base64

/-- The character for six bits. -/
def char (sextet : Nat) : UInt8 :=
  if sextet < 26 then UInt8.ofNat (0x41 + sextet)
  else if sextet < 52 then UInt8.ofNat (0x61 + (sextet - 26))
  else if sextet < 62 then UInt8.ofNat (0x30 + (sextet - 52))
  else if sextet = 62 then 0x2B
  else 0x2F

/-- The character that stands for no bits. -/
def pad : UInt8 := 0x3D

def encode : List UInt8 → List UInt8
  | [] => []
  | [x] => [char (x.toNat / 4), char (x.toNat % 4 * 16), pad, pad]
  | [x, y] => [char (x.toNat / 4), char (x.toNat % 4 * 16 + y.toNat / 16), char (y.toNat % 16 * 4), pad]
  | x :: y :: z :: rest =>
    char (x.toNat / 4) :: char (x.toNat % 4 * 16 + y.toNat / 16) :: char (y.toNat % 16 * 4 + z.toNat / 64) ::
      char (z.toNat % 64) :: encode rest

theorem length_encode (bytes : List UInt8) : (encode bytes).length = (bytes.length + 2) / 3 * 4 := by
  fun_induction encode bytes with
  | case1 => rfl
  | case2 => simp
  | case3 => simp
  | case4 x y z rest ih =>
    simp only [List.length_cons, ih]
    omega

theorem char_ne_pad {sextet : Nat} (small : sextet < 64) : char sextet ≠ pad := by
  have table : ∀ sextet : Fin 64, char sextet ≠ pad := by decide +kernel
  exact table ⟨sextet, small⟩

end IpmiRs.Library.Base64
