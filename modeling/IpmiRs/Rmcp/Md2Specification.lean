import IpmiRs.Library.BlockPadding
import IpmiRs.Library.Sweep
import IpmiRs.Rmcp.Md2

/-! What MD2 is specified to be, in two passes over the whole padded message, and
that reading each block once computes the same. -/
namespace IpmiRs.Rmcp.Md2
open Library.BlockPadding Library.Chunks Library.Sweep

/-- A message that fills its blocks of 16 bytes. -/
structure Blocks where
  bytes : List UInt8
  whole : 16 ∣ bytes.length

namespace Blocks

def count (M : Blocks) : Nat := M.bytes.length / 16

theorem length_bytes (M : Blocks) : M.bytes.length = M.count * 16 := (Nat.div_mul_cancel M.whole).symm

/-- `M[i*16+j]` -/
def byte (M : Blocks) (i : Fin M.count) (j : Fin 16) : UInt8 :=
  M.bytes.get ⟨i.val * 16 + j.val, by rw [M.length_bytes]; omega⟩

/-- One more block at the end. -/
def append (M : Blocks) (block : Vector UInt8 16) : Blocks where
  bytes := M.bytes ++ block.toList
  whole := by
    rw [List.length_append, Vector.length_toList]
    exact Nat.dvd_add M.whole (Nat.dvd_refl 16)

end Blocks

namespace Specified

/-- The padding: `p` bytes of the value `p`, of which there are 1 to 16. -/
def appendPadding (message : List UInt8) : Blocks where
  bytes := padded 16 UInt8.ofNat message
  whole := dvd_length_padded (by decide) message

/-- A byte of the checksum: `C[j]` is set to `C[j] xor S[M[i*16+j] xor L]`, and `L` to `C[j]`. -/
def checksumByte (M : Blocks) (i : Fin M.count) (j : Nat) (inside : j < 16) (state : Vector UInt8 16 × UInt8) :
    Vector UInt8 16 × UInt8 :=
  let (C, L) := state
  let new := C[j] ^^^ substitute (M.byte i ⟨j, inside⟩ ^^^ L)
  (C.set j new, new)

/-- The checksum goes on over one block. -/
def checksumBlock (M : Blocks) (i : Fin M.count) (state : Vector UInt8 16 × UInt8) : Vector UInt8 16 × UInt8 :=
  Nat.fold 16 (checksumByte M i) state

/-- The first pass: the checksum of all blocks, from zeros on. -/
def checksum (M : Blocks) : Vector UInt8 16 :=
  (Nat.fold M.count (fun i inside => checksumBlock M ⟨i, inside⟩) (Vector.replicate 16 0, 0)).1

/-- A byte of the block is copied: `X[16+j]` is set to `M[i*16+j]`, and `X[32+j]` to `X[16+j] xor X[j]`. -/
def copyByte (M : Blocks) (i : Fin M.count) (j : Nat) (inside : j < 16) (X : Vector UInt8 48) : Vector UInt8 48 :=
  let X := X.set (16 + j) (M.byte i ⟨j, inside⟩)
  X.set (32 + j) (X[16 + j] ^^^ X[j])

/-- A byte is rewritten: `t` and `X[k]` are set to `X[k] xor S[t]`. -/
def roundByte (k : Nat) (inside : k < 48) (state : Vector UInt8 48 × UInt8) : Vector UInt8 48 × UInt8 :=
  let (X, t) := state
  let new := X[k] ^^^ substitute t
  (X.set k new, new)

/-- Round `j`: all bytes are rewritten, and `t` is set to `t + j` modulo 256. -/
def round (j : Nat) (state : Vector UInt8 48 × UInt8) : Vector UInt8 48 × UInt8 :=
  let (X, t) := Nat.fold 48 roundByte state
  (X, t + UInt8.ofNat j)

/-- One block goes through the 18 rounds. -/
def compressBlock (M : Blocks) (i : Fin M.count) (X : Vector UInt8 48) : Vector UInt8 48 :=
  (Nat.fold 18 (fun j _ => round j) (Nat.fold 16 (copyByte M i) X, 0)).1

/-- The second pass: all blocks go through the rounds, from zeros on. -/
def compress (M : Blocks) : Vector UInt8 48 :=
  Nat.fold M.count (fun i inside => compressBlock M ⟨i, inside⟩) (Vector.replicate 48 0)

/-- The digest of a message: the first 16 bytes, when the checksum of the padded message has been appended to it. -/
def md2 (message : List UInt8) : List UInt8 :=
  let M := appendPadding message
  (compress (M.append (checksum M))).toList.take 16

end Specified

/-! ### One block -/

theorem pass_eq_sweep (k : Nat) (digest : List UInt8) (t : UInt8) :
    pass digest t = sweep (fun _ byte t => (byte ^^^ substitute t, byte ^^^ substitute t)) k digest t := by
  induction digest generalizing k t with
  | nil => rfl
  | cons byte rest ih =>
    rw [sweep_cons, ← ih]
    rfl

theorem round_eq_pass (j : Nat) (X : Vector UInt8 48) (t : UInt8) :
    (Specified.round j (X, t)).1.toList = (pass X.toList t).1 ∧
      (Specified.round j (X, t)).2 = (pass X.toList t).2 + UInt8.ofNat j := by
  have swept := fold_eq_sweep (fun _ byte t => (byte ^^^ substitute t, byte ^^^ substitute t)) Specified.roundByte
    (fun _ _ _ => rfl) X t
  rw [← pass_eq_sweep] at swept
  rw [← swept, Specified.round]
  generalize Nat.fold 48 Specified.roundByte (X, t) = passed
  exact ⟨rfl, rfl⟩

theorem rounds_eq_foldl (left j : Nat) (X : Vector UInt8 48) (t : UInt8) :
    rounds left j X.toList t =
      ((List.range' j left).foldl (fun state j => Specified.round j state) (X, t)).1.toList := by
  induction left generalizing j X t with
  | zero => rfl
  | succ left ih =>
    obtain ⟨digest, carried⟩ := round_eq_pass j X t
    have rest := ih (j + 1) (Specified.round j (X, t)).1 (Specified.round j (X, t)).2
    rw [List.range'_succ, List.foldl_cons, ← rest, digest, carried, rounds]

/-- What the byte of the checksum for byte `j` of the block is set to. -/
def checksumWrite (block : List UInt8) (j : Nat) (sum l : UInt8) : UInt8 × UInt8 :=
  (sum ^^^ substitute (block[j]?.getD 0 ^^^ l), sum ^^^ substitute (block[j]?.getD 0 ^^^ l))

section block
variable (M : Blocks) (i : Fin M.count)

/-- The bytes of a block. -/
def Blocks.block : List UInt8 := List.ofFn (M.byte i)

/-- What is there when the first `k` bytes of a block have been copied behind the digest. -/
structure Copied (X : Vector UInt8 48) (k : Nat) (Y : Vector UInt8 48) : Prop where
  digest : ∀ j, (inside : j < 16) → Y[j] = X[j]
  block : ∀ j, (inside : j < 16) → j < k → Y[16 + j] = M.byte i ⟨j, inside⟩
  mixed : ∀ j, (inside : j < 16) → j < k → Y[32 + j] = M.byte i ⟨j, inside⟩ ^^^ X[j]

variable {M i} {X Y : Vector UInt8 48}

@[simp] theorem Blocks.length_block : (M.block i).length = 16 := List.length_ofFn

theorem Blocks.getElem_block {j : Nat} (inside : j < 16) (within : j < (M.block i).length) :
    (M.block i)[j] = M.byte i ⟨j, inside⟩ := List.getElem_ofFn within

theorem Copied.next {k : Nat} (copied : Copied M i X k Y) (inside : k < 16) :
    Copied M i X (k + 1) (Specified.copyByte M i k inside Y) where
  digest j within := by
    rw [Specified.copyByte, Vector.getElem_set_ne _ _ (by omega), Vector.getElem_set_ne _ _ (by omega)]
    exact copied.digest j within
  block j within before := by
    rw [Specified.copyByte, Vector.getElem_set_ne _ _ (by omega)]
    by_cases last : j = k
    · subst last
      exact Vector.getElem_set_self _
    · rw [Vector.getElem_set_ne _ _ (by omega)]
      exact copied.block j within (by omega)
  mixed j within before := by
    rw [Specified.copyByte]
    by_cases last : j = k
    · subst last
      rw [Vector.getElem_set_self, Vector.getElem_set_self, Vector.getElem_set_ne _ _ (by omega),
        copied.digest j within]
    · rw [Vector.getElem_set_ne _ _ (by omega), Vector.getElem_set_ne _ _ (by omega)]
      exact copied.mixed j within (by omega)

theorem copied_fold (k : Nat) (within : k ≤ 16) :
    Copied M i X k (Nat.fold k (fun j inside => Specified.copyByte M i j (Nat.lt_of_lt_of_le inside within)) X) := by
  induction k with
  | zero => exact ⟨fun _ _ => rfl, fun _ _ none => absurd none (Nat.not_lt_zero _),
      fun _ _ none => absurd none (Nat.not_lt_zero _)⟩
  | succ k ih =>
    rw [Nat.fold_succ]
    exact (ih (Nat.le_of_succ_le within)).next within

/-- Once all are copied, the block is behind the digest, and behind it what the two differ in. -/
theorem Copied.toList (copied : Copied M i X 16 Y) :
    Y.toList = X.toList.take 16 ++ M.block i ++ List.zipWith (· ^^^ ·) (M.block i) (X.toList.take 16) := by
  have kept : (X.toList.take 16).length = 16 := List.length_take_of_le (by rw [Vector.length_toList]; omega)
  have front : (X.toList.take 16 ++ M.block i).length = 32 := by
    rw [List.length_append, kept, Blocks.length_block]
  refine List.ext_getElem ?_ fun n inside within => ?_
  · rw [List.length_append, front, List.length_zipWith, kept, Blocks.length_block, Vector.length_toList]
    rfl
  rw [Vector.length_toList] at inside
  rw [Vector.getElem_toList]
  by_cases first : n < 16
  · rw [List.getElem_append_left (by omega), List.getElem_append_left (by omega), List.getElem_take,
      Vector.getElem_toList]
    exact copied.digest n first
  by_cases second : n < 32
  · rw [List.getElem_append_left (by omega), List.getElem_append_right (by omega)]
    obtain ⟨j, rfl⟩ := Nat.exists_eq_add_of_le (Nat.le_of_not_lt first)
    simp only [kept, Nat.add_sub_cancel_left]
    rw [copied.block j (by omega) (by omega), Blocks.getElem_block]
  · rw [List.getElem_append_right (by omega)]
    obtain ⟨j, rfl⟩ := Nat.exists_eq_add_of_le (Nat.le_of_not_lt second)
    simp only [List.getElem_zipWith, List.getElem_take, Vector.getElem_toList, front, Nat.add_sub_cancel_left]
    rw [copied.mixed j (by omega) (by omega), Blocks.getElem_block]

/-- A block goes through the rounds as `md2_step` says. -/
theorem toList_compressBlock (M : Blocks) (i : Fin M.count) (X : Vector UInt8 48) :
    (Specified.compressBlock M i X).toList = md2Step (M.block i) X.toList := by
  rw [md2Step, ← (copied_fold 16 (Nat.le_refl 16)).toList, rounds_eq_foldl, ← List.range_eq_range',
    ← fold_eq_foldl_range]
  rfl

theorem checksumLoop_eq_sweep (block sums : List UInt8) (k : Nat) (l : UInt8)
    (same : k + sums.length = block.length) :
    checksumLoop (block.drop k) sums l = (sweep (checksumWrite block) k sums l).1 := by
  induction sums generalizing k l with
  | nil =>
    rw [List.drop_of_length_le (by rw [← same]; exact Nat.le_refl k)]
    rfl
  | cons sum sums ih =>
    rw [List.length_cons] at same
    have inside : k < block.length := by omega
    rw [List.drop_eq_getElem_cons inside, checksumLoop, sweep_cons, ih (k + 1) _ (by omega), checksumWrite,
      List.getElem?_eq_getElem inside]
    rfl

/-- A block goes into the checksum as `checksum_step` says, and the last byte of it is carried on. -/
theorem checksumBlock_eq (M : Blocks) (i : Fin M.count) (C : Vector UInt8 16) :
    (Specified.checksumBlock M i (C, C[15])).1.toList = checksumStep (M.block i) C.toList ∧
      (Specified.checksumBlock M i (C, C[15])).2 = (Specified.checksumBlock M i (C, C[15])).1[15] := by
  have swept := fold_eq_sweep (checksumWrite (M.block i)) (Specified.checksumByte M i) (fun j inside state => by
    rw [checksumWrite, List.getElem?_eq_getElem (by rwa [Blocks.length_block]), Blocks.getElem_block inside]
    rfl) C C[15]
  rw [Specified.checksumBlock]
  generalize Nat.fold 16 (Specified.checksumByte M i) (C, C[15]) = state at swept
  have last : C.toList[15]? = some C[15] := by
    rw [Vector.getElem?_toList, Vector.getElem?_eq_getElem]
  constructor
  · have looped := checksumLoop_eq_sweep (M.block i) C.toList 0 C[15] (by
      rw [Blocks.length_block, Vector.length_toList])
    rw [checksumStep, last]
    exact (congrArg Prod.fst swept).trans looped.symm
  · have left := carried_eq_getLast (checksumWrite (M.block i)) (fun _ _ _ => rfl) 0 C.toList C[15]
    rw [← swept, List.getLast?_eq_getElem?, Vector.length_toList, Vector.getElem?_toList,
      Vector.getElem?_eq_getElem] at left
    exact left

end block

/-! ### All blocks -/

theorem chunks_bytes (M : Blocks) : chunks 16 M.bytes = (List.finRange M.count).map M.block :=
  chunks_eq_map_finRange (by decide) M.length_bytes fun _ _ => List.getElem?_eq_getElem _

/-- The first pass is that of `checksum_step` over the blocks. -/
theorem toList_checksum (M : Blocks) :
    (Specified.checksum M).toList =
      (chunks 16 M.bytes).foldl (fun checksum block => checksumStep block checksum) (List.replicate 16 0) := by
  rw [Specified.checksum, Nat.fold_eq_finRange_foldl, chunks_bytes, List.foldl_map]
  -- The byte that is carried from block to block is the last one of the checksum.
  refine (List.foldl_rel (r := fun (state : Vector UInt8 16 × UInt8) checksum =>
    state.1.toList = checksum ∧ state.2 = state.1[15]) ⟨rfl, rfl⟩ ?_).1
  rintro i - ⟨C, L⟩ _ ⟨rfl, carried⟩
  obtain rfl : L = C[15] := carried
  exact checksumBlock_eq M i C

/-- The second pass is that of `md2_step` over the blocks. -/
theorem toList_compress (M : Blocks) :
    (Specified.compress M).toList =
      (chunks 16 M.bytes).foldl (fun digest block => md2Step block digest) (List.replicate 48 0) := by
  rw [Specified.compress, Nat.fold_eq_finRange_foldl, chunks_bytes, List.foldl_map]
  refine List.foldl_rel (r := fun (X : Vector UInt8 48) digest => X.toList = digest) rfl ?_
  rintro i - X _ rfl
  exact toList_compressBlock M i X

theorem PaddedIter.next_of_le {data : List UInt8} {finished : Bool} (full : 16 ≤ data.length) :
    PaddedIter.next ⟨data, finished⟩ = some (data.take 16, ⟨data.drop 16, finished⟩) :=
  if_pos (List.length_take_of_le full)

theorem PaddedIter.next_of_lt {data : List UInt8} (short : data.length < 16) :
    PaddedIter.next ⟨data, false⟩ =
      some (data ++ List.replicate (16 - data.length) (UInt8.ofNat (16 - data.length)), ⟨[], true⟩) := by
  have all : data.take 16 = data := List.take_of_length_le (Nat.le_of_lt short)
  rw [PaddedIter.next, all]
  exact if_neg (Nat.ne_of_lt short)

theorem md2Loop_finished (turns : Nat) (state : List UInt8 × List UInt8) :
    md2Loop turns ⟨[], true⟩ state = state := by
  cases turns <;> rfl

/-- The one pass over what the iterator gives goes over the blocks of the padded message, with both states. -/
theorem md2Loop_eq_foldl {turns : Nat} {data : List UInt8} (checksum digest : List UInt8)
    (enough : data.length + 2 ≤ turns) :
    md2Loop turns ⟨data, false⟩ (checksum, digest) =
      ((chunks 16 (padded 16 UInt8.ofNat data)).foldl (fun checksum block => checksumStep block checksum) checksum,
        (chunks 16 (padded 16 UInt8.ofNat data)).foldl (fun digest block => md2Step block digest) digest) := by
  induction turns generalizing data checksum digest with
  | zero => omega
  | succ turns ih =>
    by_cases full : 16 ≤ data.length
    · have less : (data.drop 16).length + 2 ≤ turns := by
        rw [List.length_drop]
        omega
      have rest := ih (checksumStep (data.take 16) checksum) (md2Step (data.take 16) digest) less
      rw [md2Loop, PaddedIter.next_of_le full, chunks_padded_of_le (by decide) full, List.foldl_cons, List.foldl_cons,
        ← rest]
    · have short : data.length < 16 := Nat.lt_of_not_le full
      rw [md2Loop, PaddedIter.next_of_lt short, chunks_padded_of_lt short]
      exact md2Loop_finished turns _

theorem chunks_append_bytes (M : Blocks) (block : Vector UInt8 16) :
    chunks 16 (M.append block).bytes = chunks 16 M.bytes ++ [block.toList] := by
  have one : chunks 16 block.toList = [block.toList] := by
    have length : block.toList.length = 16 := Vector.length_toList
    rw [chunks_eq_cons (by decide) (List.ne_nil_of_length_pos (by omega)),
      List.take_of_length_le (Nat.le_of_eq length), List.drop_of_length_le (Nat.le_of_eq length), chunks_nil]
  rw [Blocks.append, chunks_append (by decide) M.whole, one]

/-- Reading each block once computes the digest that is specified in two passes over the padded message. -/
theorem md2_eq_specified (data : List UInt8) : md2 data = Specified.md2 data := by
  have looped := md2Loop_eq_foldl (List.replicate 16 0) (List.replicate 48 0) (Nat.le_refl (data.length + 2))
  unfold md2
  rw [looped]
  unfold Specified.md2
  dsimp only
  rw [toList_compress, chunks_append_bytes, List.foldl_concat, toList_checksum]
  rfl

example : md2 [0x61, 0x62, 0x63] =
    [0xDA, 0x85, 0x3B, 0x0D, 0x3F, 0x88, 0xD9, 0x9B, 0x30, 0x28, 0x3A, 0x69, 0xE6, 0xDE, 0xD6, 0xBB] := by
  decide +kernel

end IpmiRs.Rmcp.Md2
