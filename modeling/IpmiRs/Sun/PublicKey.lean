import IpmiRs.Library.Base64
import IpmiRs.Library.BigEndian
import IpmiRs.Library.Chunks
import IpmiRs.Sun.Packets

/-! Validation of OpenSSH public keys, `validate_public_key`: a key names its
algorithm, and carries the fields of the algorithm in base64. -/
namespace IpmiRs.Sun
open Library Library.Bytes Library.Checked Library.Chunks

/-- What a character of base64 stands for, or padding where it may be. -/
def base64Digit (b : UInt8) (padding : Bool) : Option Nat :=
  if 0x41 ≤ b ∧ b ≤ 0x5A then some (b - 0x41).toNat
  else if 0x61 ≤ b ∧ b ≤ 0x7A then some (b - 0x61 + 26).toNat
  else if 0x30 ≤ b ∧ b ≤ 0x39 then some (b - 0x30 + 52).toNat
  else if b = 0x2B then some 62
  else if b = 0x2F then some 63
  else if b = 0x3D ∧ padding then some 0
  else none

/-- The bytes of four characters, of which the last ones may have padding. -/
def decodeQuartet (quartet : List UInt8) (last : Bool) : Option (List UInt8) := do
  let pad := (quartet.reverse.takeWhile (· == 0x3D)).length
  if 2 < pad ∨ (pad ≠ 0 ∧ ¬last) then none
  else do
    let value ← quartet.zipIdx.foldlM (fun value (b, position) =>
      (base64Digit b (last && decide (4 - pad ≤ position))).map fun digit => value <<< 6 ||| digit) 0
    if (pad = 1 ∧ value &&& 0xFF ≠ 0) ∨ (pad = 2 ∧ value &&& 0xFFFF ≠ 0) then none
    else some (((toBe 4 value).take (4 - pad)).drop 1)

/-- `decode_base64` -/
def decodeBase64 (encoded : List UInt8) : Option (List UInt8) :=
  if encoded.length < 16 ∨ encoded.length % 4 ≠ 0 then none
  else ((chunks 4 encoded).zipIdx.mapM fun (quartet, index) =>
    decodeQuartet quartet (index == encoded.length / 4 - 1)).map List.flatten

/-- `ssh_field`: the field at a place, and the place after it. A place that does not fit a length is
outside of the blob in any case. -/
def sshField (blob : List UInt8) (cursor : Nat) : Option (List UInt8 × Nat) := do
  let header ← range blob cursor (cursor + 4)
  let len := ofBe header
  let value ← range blob (cursor + 4) (cursor + 4 + len)
  some (value, cursor + 4 + len)

/-- The algorithms that are supported. -/
def algorithms : List (List UInt8) :=
  [ascii "ssh-rsa", ascii "ssh-ed25519", ascii "ecdsa-sha2-nistp256", ascii "ecdsa-sha2-nistp384",
    ascii "ecdsa-sha2-nistp521", ascii "sk-ssh-ed25519@openssh.com", ascii "sk-ecdsa-sha2-nistp256@openssh.com"]

/-- A field that passes a test, and the place after it. -/
def fieldWhere (blob : List UInt8) (cursor : Nat) (test : List UInt8 → Bool) : Option Nat := do
  let (value, cursor) ← sshField blob cursor
  if test value then some cursor else none

/-- The place after the fields that an algorithm has behind its name, if they are valid. -/
def keyFields (algorithm blob : List UInt8) (cursor : Nat) : Option Nat :=
  if algorithm = ascii "ssh-ed25519" then fieldWhere blob cursor (·.length == 32)
  else if algorithm = ascii "ssh-rsa" then do
    let cursor ← fieldWhere blob cursor (!·.isEmpty)
    fieldWhere blob cursor (32 ≤ ·.length)
  else if (ascii "ecdsa-sha2-").isPrefixOf algorithm then do
    let cursor ← fieldWhere blob cursor (· == algorithm.drop 11)
    fieldWhere blob cursor (!·.isEmpty)
  else if algorithm = ascii "sk-ssh-ed25519@openssh.com" then do
    let cursor ← fieldWhere blob cursor (·.length == 32)
    fieldWhere blob cursor (!·.isEmpty)
  else if algorithm = ascii "sk-ecdsa-sha2-nistp256@openssh.com" then do
    let cursor ← fieldWhere blob cursor (· == ascii "nistp256")
    let cursor ← fieldWhere blob cursor (!·.isEmpty)
    fieldWhere blob cursor (!·.isEmpty)
  else none

/-- `key.strip_suffix('\n').unwrap_or(key)` -/
def stripNewline (key : List UInt8) : List UInt8 := if key.getLast? = some 0x0A then key.dropLast else key

/-- `split_whitespace`, of ASCII. -/
def splitWhitespace (text : List UInt8) : List (List UInt8) :=
  (text.splitOnP fun b => (9 ≤ b && b ≤ 13) || b == 0x20).filter (!·.isEmpty)

/-- `validate_public_key` -/
def validatePublicKey (key : List UInt8) : Except String Unit := do
  let key := stripNewline key
  if key = [] ∨ 16384 < key.length ∨ ¬key.all (· < 0x80) ∨ key.any (fun b => b < 0x20 || b == 0x7F) then
    throw "invalid OpenSSH public key"
  else
    match splitWhitespace key with
    | [] => throw "missing public-key algorithm"
    | algorithm :: parts =>
      if algorithm ∉ algorithms then throw "unsupported public-key algorithm"
      else
        match parts with
        | [] => throw "missing public-key body"
        | encoded :: _ =>
          match decodeBase64 encoded with
          | none => throw "invalid public-key encoding"
          | some blob =>
            match sshField blob 0 with
            | none => throw "public-key algorithm does not match blob"
            | some (name, cursor) =>
              if name ≠ algorithm then throw "public-key algorithm does not match blob"
              else if keyFields algorithm blob cursor ≠ some blob.length then throw "invalid public-key encoding"
              else pure ()

end IpmiRs.Sun
