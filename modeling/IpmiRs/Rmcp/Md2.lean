import IpmiRs.Library.Bytes

/-! The MD2 digest, `rmcp/v1_5/md2.rs`: the message is padded while it is read, and
each block of it goes into the checksum and into the digest at once. -/
namespace IpmiRs.Rmcp.Md2

def S_TABLE : List UInt8 :=
  [
    0x29, 0x2E, 0x43, 0xC9, 0xA2, 0xD8, 0x7C, 0x01, 0x3D, 0x36, 0x54, 0xA1, 0xEC, 0xF0, 0x06, 0x13,
    0x62, 0xA7, 0x05, 0xF3, 0xC0, 0xC7, 0x73, 0x8C, 0x98, 0x93, 0x2B, 0xD9, 0xBC, 0x4C, 0x82, 0xCA,
    0x1E, 0x9B, 0x57, 0x3C, 0xFD, 0xD4, 0xE0, 0x16, 0x67, 0x42, 0x6F, 0x18, 0x8A, 0x17, 0xE5, 0x12,
    0xBE, 0x4E, 0xC4, 0xD6, 0xDA, 0x9E, 0xDE, 0x49, 0xA0, 0xFB, 0xF5, 0x8E, 0xBB, 0x2F, 0xEE, 0x7A,
    0xA9, 0x68, 0x79, 0x91, 0x15, 0xB2, 0x07, 0x3F, 0x94, 0xC2, 0x10, 0x89, 0x0B, 0x22, 0x5F, 0x21,
    0x80, 0x7F, 0x5D, 0x9A, 0x5A, 0x90, 0x32, 0x27, 0x35, 0x3E, 0xCC, 0xE7, 0xBF, 0xF7, 0x97, 0x03,
    0xFF, 0x19, 0x30, 0xB3, 0x48, 0xA5, 0xB5, 0xD1, 0xD7, 0x5E, 0x92, 0x2A, 0xAC, 0x56, 0xAA, 0xC6,
    0x4F, 0xB8, 0x38, 0xD2, 0x96, 0xA4, 0x7D, 0xB6, 0x76, 0xFC, 0x6B, 0xE2, 0x9C, 0x74, 0x04, 0xF1,
    0x45, 0x9D, 0x70, 0x59, 0x64, 0x71, 0x87, 0x20, 0x86, 0x5B, 0xCF, 0x65, 0xE6, 0x2D, 0xA8, 0x02,
    0x1B, 0x60, 0x25, 0xAD, 0xAE, 0xB0, 0xB9, 0xF6, 0x1C, 0x46, 0x61, 0x69, 0x34, 0x40, 0x7E, 0x0F,
    0x55, 0x47, 0xA3, 0x23, 0xDD, 0x51, 0xAF, 0x3A, 0xC3, 0x5C, 0xF9, 0xCE, 0xBA, 0xC5, 0xEA, 0x26,
    0x2C, 0x53, 0x0D, 0x6E, 0x85, 0x28, 0x84, 0x09, 0xD3, 0xDF, 0xCD, 0xF4, 0x41, 0x81, 0x4D, 0x52,
    0x6A, 0xDC, 0x37, 0xC8, 0x6C, 0xC1, 0xAB, 0xFA, 0x24, 0xE1, 0x7B, 0x08, 0x0C, 0xBD, 0xB1, 0x4A,
    0x78, 0x88, 0x95, 0x8B, 0xE3, 0x63, 0xE8, 0x6D, 0xE9, 0xCB, 0xD5, 0xFE, 0x3B, 0x00, 0x1D, 0x39,
    0xF2, 0xEF, 0xB7, 0x0E, 0x66, 0x58, 0xD0, 0xE4, 0xA6, 0x77, 0x72, 0xF8, 0xEB, 0x75, 0x4B, 0x0A,
    0x31, 0x44, 0x50, 0xB4, 0x8F, 0xED, 0x1F, 0x1A, 0xDB, 0x99, 0x8D, 0x33, 0x9F, 0x11, 0x83, 0x14]

/-- `S_TABLE[byte as usize]` -/
def substitute (byte : UInt8) : UInt8 := S_TABLE[byte.toNat]?.getD 0

/-- `PaddedIter`: the bytes that have not been read, and whether the padding has been given. -/
structure PaddedIter where
  data : List UInt8
  finished : Bool

/-- `PaddedIter::next`. A block that the data does not fill is filled with the number of
bytes that it lacks, and is the last. -/
def PaddedIter.next (iter : PaddedIter) : Option (List UInt8 × PaddedIter) :=
  let chunk := iter.data.take 16
  if chunk.length = 16 then some (chunk, { iter with data := iter.data.drop 16 })
  else if iter.finished then none
  else
    let i := 16 - chunk.length
    some (chunk ++ List.replicate i (UInt8.ofNat i), ⟨[], true⟩)

/-- The loop over the 48 bytes of a digest. -/
def pass : List UInt8 → UInt8 → List UInt8 × UInt8
  | [], t => ([], t)
  | byte :: rest, t =>
    let new := byte ^^^ substitute t
    let (rest, t) := pass rest new
    (new :: rest, t)

/-- The loop over the rounds from `j` on. -/
def rounds : Nat → Nat → List UInt8 → UInt8 → List UInt8
  | 0, _, digest, _ => digest
  | left + 1, j, digest, t =>
    let (digest, t) := pass digest t
    rounds left (j + 1) digest (t + UInt8.ofNat j)

/-- `md2_step` -/
def md2Step (chunk digest : List UInt8) : List UInt8 :=
  let state := digest.take 16
  rounds 18 0 (state ++ chunk ++ List.zipWith (· ^^^ ·) chunk state) 0

/-- The loop of `checksum_step`, over the bytes of the block and of the checksum. -/
def checksumLoop : List UInt8 → List UInt8 → UInt8 → List UInt8
  | byte :: chunk, sum :: checksum, l =>
    let new := sum ^^^ substitute (byte ^^^ l)
    new :: checksumLoop chunk checksum new
  | _, _, _ => []

/-- `checksum_step` -/
def checksumStep (chunk checksum : List UInt8) : List UInt8 :=
  checksumLoop chunk checksum (checksum[15]?.getD 0)

/-- The loop of `md2` over the blocks, of which there are at most as many as there are turns. -/
def md2Loop : Nat → PaddedIter → List UInt8 × List UInt8 → List UInt8 × List UInt8
  | 0, _, state => state
  | turns + 1, iter, (checksum, digest) =>
    match iter.next with
    | none => (checksum, digest)
    | some (chunk, iter) => md2Loop turns iter (checksumStep chunk checksum, md2Step chunk digest)

def md2 (data : List UInt8) : List UInt8 :=
  let (checksum, digest) :=
    md2Loop (data.length + 2) ⟨data, false⟩ (List.replicate 16 0, List.replicate 48 0)
  (md2Step checksum digest).take 16

/-! ### The length of a digest -/

theorem length_pass (digest : List UInt8) (t : UInt8) : (pass digest t).1.length = digest.length := by
  induction digest generalizing t with
  | nil => rfl
  | cons byte rest ih => exact congrArg Nat.succ (ih _)

theorem length_rounds (left j : Nat) (digest : List UInt8) (t : UInt8) :
    (rounds left j digest t).length = digest.length := by
  induction left generalizing j digest t with
  | zero => rfl
  | succ left ih => exact (ih _ _ _).trans (length_pass digest t)

theorem length_md2Step (chunk : List UInt8) {digest : List UInt8} (long : 16 ≤ digest.length) :
    16 ≤ (md2Step chunk digest).length := by
  rw [md2Step, length_rounds, List.length_append, List.length_append, List.length_take_of_le long]
  omega

theorem length_md2Loop (turns : Nat) (iter : PaddedIter) (checksum : List UInt8) {digest : List UInt8}
    (long : 16 ≤ digest.length) : 16 ≤ (md2Loop turns iter (checksum, digest)).2.length := by
  induction turns generalizing iter checksum digest with
  | zero => exact long
  | succ turns ih =>
    rw [md2Loop]
    cases iter.next with
    | none => exact long
    | some taken => exact ih taken.2 _ (length_md2Step taken.1 long)

theorem length_md2 (data : List UInt8) : (md2 data).length = 16 := by
  have long : 16 ≤ (List.replicate 48 (0 : UInt8)).length := by rw [List.length_replicate]; omega
  have looped := length_md2Loop (data.length + 2) ⟨data, false⟩ (List.replicate 16 0) long
  unfold md2
  generalize md2Loop _ _ _ = state at looped ⊢
  exact List.length_take_of_le (length_md2Step state.1 looped)

end IpmiRs.Rmcp.Md2
