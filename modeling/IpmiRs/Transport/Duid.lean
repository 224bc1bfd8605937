import Mathlib.Data.List.ModifyLast
import IpmiRs.Library.Chunks
import IpmiRs.Transport.LanTypes

/-! A DUID in blocks, `Ipv6Duid` of `transport/lan_types.rs`. The length stands
before the first byte, so a block ends one byte earlier in the DUID than in
what is sent; whatever the list of blocks, only an unbroken one is accepted. -/
namespace IpmiRs.Transport
open Library Library.Checked Library.Chunks

structure Ipv6Duid where
  setSelector : UInt8
  bytes : List UInt8
  deriving DecidableEq

namespace Ipv6Duid

/-- The loop of `from_blocks` over the blocks after the first. -/
def extend (first : Ipv6LanBlock) (total : Nat) :
    Nat → List UInt8 → List Ipv6LanBlock → Lan (List UInt8)
  | _, bytes, [] => pure bytes
  | index, bytes, block :: rest =>
    if block.setSelector ≠ first.setSelector ∨ block.blockSelector.toNat ≠ index ∨
        16 < block.bytes.length ∨ (index + 1 < total ∧ block.bytes.length ≠ 16) then
      throw .invalidBlockSequence
    else extend first total (index + 1) (bytes ++ block.bytes) rest

def fromBlocks : List Ipv6LanBlock → Lan Ipv6Duid
  | [] => throw .invalidBlockSequence
  | first :: rest =>
    if first.blockSelector ≠ 0 ∨ first.bytes = [] then throw .invalidBlockSequence
    else do
      let len ← UInt8.toNat <$> index first.bytes 0
      let start ← slice first.bytes 1 first.bytes.length
      let bytes ← extend first (rest.length + 1) 1 start rest
      if 1 < rest.length + 1 ∧ first.bytes.length ≠ 16 then throw .invalidBlockSequence
      else if bytes.length < len ∨ len + 15 < bytes.length ∨ 16 < rest.length + 1 then
        throw .invalidBlockSequence
      else return ⟨first.setSelector, bytes.take len⟩

def blocks (duid : Ipv6Duid) : Lan (List Ipv6LanBlock) :=
  if 255 < duid.bytes.length then throw (.invalidLength 255 duid.bytes.length)
  else
    (chunks 16 (UInt8.ofNat duid.bytes.length :: duid.bytes)).zipIdx.mapM fun (bytes, block) =>
      Ipv6LanBlock.new duid.setSelector (UInt8.ofNat block) bytes

/-- A block with zeros after its bytes. -/
def padded (block : Ipv6LanBlock) (zeros : Nat) : Ipv6LanBlock :=
  { block with bytes := block.bytes ++ List.replicate zeros 0 }

/-- The blocks with the last one padded to sixteen bytes. -/
def padLast (blocks : List Ipv6LanBlock) : List Ipv6LanBlock :=
  blocks.modifyLast fun block => padded block (16 - block.bytes.length)

/-- A block is the one that `index` asks for, and full if more follow. -/
def Fits (set : UInt8) (total index : Nat) (block : Ipv6LanBlock) : Prop :=
  block.setSelector = set ∧ block.blockSelector.toNat = index ∧
    (index + 1 < total → block.bytes.length = 16)

/-- The blocks fit one after the other, from `index` on. -/
def Follow (set : UInt8) (total index : Nat) (blocks : List Ipv6LanBlock) : Prop :=
  ∀ (i : Nat) (inside : i < blocks.length), Fits set total (index + i) blocks[i]

/-- Blocks of one set, counted from zero, of which only the last may be short. -/
def InOrder (set : UInt8) (blocks : List Ipv6LanBlock) : Prop := Follow set blocks.length 0 blocks

/-- What blocks carry one after the other. -/
def carried (blocks : List Ipv6LanBlock) : List UInt8 := (blocks.map (·.bytes)).flatten

section
variable {first : Ipv6LanBlock} {rest : List Ipv6LanBlock} {total : Nat}

theorem follow_cons {set : UInt8} {index : Nat} {block : Ipv6LanBlock} :
    Follow set total index (block :: rest) ↔
      Fits set total index block ∧ Follow set total (index + 1) rest := by
  constructor
  · intro follow
    refine ⟨follow 0 (by simp), fun k inside => ?_⟩
    rw [Nat.add_right_comm]
    exact follow (k + 1) (by simpa using inside)
  · rintro ⟨fits, follow⟩ k inside
    cases k with
    | zero => exact fits
    | succ k =>
      have later := follow k (by simpa using inside)
      rwa [Nat.add_right_comm] at later

/-- The loop accepts exactly blocks that fit and are not too long, and appends
what they carry. -/
theorem extend_eq_pure_iff (index : Nat) (bytes result : List UInt8) :
    extend first total index bytes rest = pure result ↔
      Follow first.setSelector total index rest ∧ (∀ block ∈ rest, block.bytes.length ≤ 16) ∧
        result = bytes ++ carried rest := by
  induction rest generalizing index bytes with
  | nil =>
    constructor
    · intro returned
      cases returned
      exact ⟨fun i inside => absurd inside (Nat.not_lt_zero i), nofun, by simp [carried]⟩
    · rintro ⟨-, -, rfl⟩
      simp [extend, carried]
  | cons block rest ih =>
    rw [follow_cons, List.forall_mem_cons]
    by_cases passed : Fits first.setSelector total index block ∧ block.bytes.length ≤ 16
    · obtain ⟨fits, short⟩ := passed
      have fine : ¬(block.setSelector ≠ first.setSelector ∨ block.blockSelector.toNat ≠ index ∨
          16 < block.bytes.length ∨ (index + 1 < total ∧ block.bytes.length ≠ 16)) := by
        rintro (other | other | long | ⟨more, part⟩)
        · exact other fits.1
        · exact other fits.2.1
        · omega
        · exact part (fits.2.2 more)
      rw [extend, if_neg fine, ih]
      simp only [carried, List.map_cons, List.flatten_cons, List.append_assoc, fits, short, true_and]
    · have failed : block.setSelector ≠ first.setSelector ∨ block.blockSelector.toNat ≠ index ∨
          16 < block.bytes.length ∨ (index + 1 < total ∧ block.bytes.length ≠ 16) := by
        unfold Fits at passed
        by_contra fine
        simp only [not_or, not_and, not_not, Nat.not_lt] at fine
        exact passed ⟨⟨fine.1, fine.2.1, fine.2.2.2⟩, fine.2.2.1⟩
      rw [extend, if_pos failed]
      constructor
      · intro returned
        cases returned
      · rintro ⟨⟨fits, -⟩, ⟨short, -⟩, -⟩
        exact absurd ⟨fits, short⟩ passed

theorem extend_yields (index : Nat) (bytes : List UInt8) :
    Yields (fun _ => True) (extend first total index bytes rest) := by
  induction rest generalizing index bytes with
  | nil => trivial
  | cons block rest ih => exact yields_check fun _ => ih _ _

/-- The blocks that are accepted are in order, and what they carry is a length
and at least so many bytes. -/
theorem of_fromBlocks {blocks : List Ipv6LanBlock} {duid : Ipv6Duid}
    (accepted : fromBlocks blocks = pure duid) :
    InOrder duid.setSelector blocks ∧ ∃ len following, carried blocks = len :: following ∧
      len.toNat ≤ following.length ∧ duid.bytes = following.take len.toNat := by
  cases blocks with
  | nil => cases accepted
  | cons first rest =>
    obtain ⟨set, number, bytes⟩ := first
    obtain ⟨checked, accepted⟩ := of_check_eq_pure accepted
    rw [not_or, not_not] at checked
    obtain ⟨rfl, some⟩ := checked
    obtain ⟨len, start, rfl⟩ := List.exists_cons_of_ne_nil some
    rw [index_zero, map_pure, pure_bind, slice_tail, pure_bind] at accepted
    obtain ⟨gathered, looped, accepted⟩ := of_bind_eq_pure accepted
    obtain ⟨follow, -, rfl⟩ := (extend_eq_pure_iff _ _ _).mp looped
    obtain ⟨full, accepted⟩ := of_check_eq_pure accepted
    obtain ⟨sized, accepted⟩ := of_check_eq_pure accepted
    cases accepted
    have inOrder : InOrder set (⟨set, 0, len :: start⟩ :: rest) := by
      refine follow_cons.mpr ⟨⟨rfl, rfl, fun more => ?_⟩, follow⟩
      by_contra part
      exact full ⟨more, part⟩
    exact ⟨inOrder, len, start ++ carried rest, by simp [carried], by omega, rfl⟩

/-- Blocks in order are put together, the later ones not being too long. -/
theorem fromBlocks_of_inOrder {set len : UInt8} {following : List UInt8} {blocks : List Ipv6LanBlock}
    (inOrder : InOrder set blocks) (short : ∀ block ∈ blocks, block.bytes.length ≤ 16)
    (few : blocks.length ≤ 16) (some : ∀ block ∈ blocks, block.bytes ≠ [])
    (whole : carried blocks = len :: following) (enough : len.toNat ≤ following.length)
    (padded : following.length ≤ len.toNat + 15) :
    fromBlocks blocks = pure ⟨set, following.take len.toNat⟩ := by
  cases blocks with
  | nil => cases whole
  | cons first rest =>
    obtain ⟨⟨rfl, zero, full⟩, follow⟩ := follow_cons.mp inOrder
    obtain ⟨start, bytes⟩ : ∃ start, first.bytes = len :: start ∧ following = start ++ carried rest := by
      obtain ⟨byte, start, bytes⟩ := List.exists_cons_of_ne_nil (some first (by simp))
      rw [carried, List.map_cons, List.flatten_cons, bytes, List.cons_append] at whole
      cases whole
      exact ⟨start, bytes, rfl⟩
    obtain ⟨bytes, rfl⟩ := bytes
    have looped : extend first (rest.length + 1) 1 start rest = pure (start ++ carried rest) :=
      (extend_eq_pure_iff _ _ _).mpr
        ⟨follow, fun block member => short block (by simp [member]), rfl⟩
    have fine : ¬(first.blockSelector ≠ 0 ∨ first.bytes = []) := by
      rw [not_or, not_not]
      exact ⟨UInt8.toNat_inj.mp zero, some first (by simp)⟩
    have filled : ¬(1 < rest.length + 1 ∧ (len :: start).length ≠ 16) := by
      rintro ⟨more, part⟩
      exact part (bytes ▸ full more)
    have sized : ¬((start ++ carried rest).length < len.toNat ∨
        len.toNat + 15 < (start ++ carried rest).length ∨ 16 < rest.length + 1) := by
      rw [List.length_cons] at few
      omega
    rw [fromBlocks, if_neg fine, bytes, index_zero, map_pure, pure_bind, slice_tail, pure_bind, looped,
      pure_bind, if_neg filled, if_neg sized]

theorem fromBlocks_yields (blocks : List Ipv6LanBlock) :
    Yields (fun _ => True) (fromBlocks blocks) := by
  cases blocks with
  | nil => trivial
  | cons first rest =>
    refine yields_check fun fine => ?_
    obtain ⟨byte, start, bytes⟩ := List.exists_cons_of_ne_nil (not_or.mp fine).2
    rw [bytes, index_zero, map_pure, pure_bind, slice_tail, pure_bind]
    refine Yields.bind (extend_yields _ _) fun _ _ => ?_
    exact yields_check fun _ => yields_check fun _ => trivial

end

/-- The blocks of a DUID that is not too long. -/
def cut (duid : Ipv6Duid) : List Ipv6LanBlock :=
  (chunks 16 (UInt8.ofNat duid.bytes.length :: duid.bytes)).zipIdx.map fun (bytes, block) =>
    ⟨duid.setSelector, UInt8.ofNat block, bytes⟩

theorem blocks_eq_cut {duid : Ipv6Duid} (short : duid.bytes.length ≤ 255) :
    duid.blocks = pure duid.cut := by
  rw [blocks, if_neg (Nat.not_lt.mpr short)]
  apply mapM_eq_pure
  intro (bytes, number) member
  have size := (length_of_mem_chunks (by decide) (List.fst_mem_of_mem_zipIdx member)).2
  exact if_neg (Nat.not_lt.mpr size)

section
variable {duid : Ipv6Duid}

theorem carried_cut (duid : Ipv6Duid) :
    carried duid.cut = UInt8.ofNat duid.bytes.length :: duid.bytes := by
  have bytes : duid.cut.map (·.bytes) = chunks 16 (UInt8.ofNat duid.bytes.length :: duid.bytes) := by
    rw [cut, List.map_map]
    exact List.zipIdx_map_fst _ _
  rw [carried, bytes, flatten_chunks (by decide)]

theorem length_cut (short : duid.bytes.length ≤ 255) : duid.cut.length ≤ 16 := by
  rw [cut, List.length_map, List.length_zipIdx, length_chunks, List.length_cons, divCeil]
  omega

theorem mem_cut {block : Ipv6LanBlock} (member : block ∈ duid.cut) :
    block.bytes ≠ [] ∧ block.bytes.length ≤ 16 := by
  obtain ⟨⟨bytes, number⟩, inside, rfl⟩ := List.mem_map.mp member
  obtain ⟨some, few⟩ := length_of_mem_chunks (by decide) (List.fst_mem_of_mem_zipIdx inside)
  exact ⟨List.ne_nil_of_length_pos some, few⟩

theorem inOrder_cut (short : duid.bytes.length ≤ 255) : InOrder duid.setSelector duid.cut := by
  intro i inside
  have few := length_cut short
  have count : duid.cut.length = (chunks 16 (UInt8.ofNat duid.bytes.length :: duid.bytes)).length := by
    simp [cut]
  have block : duid.cut[i] = ⟨duid.setSelector, UInt8.ofNat i,
      (chunks 16 (UInt8.ofNat duid.bytes.length :: duid.bytes))[i]⟩ := by
    simp [cut]
  rw [block, Nat.zero_add]
  refine ⟨rfl, ?_, fun more => length_getElem_chunks (by decide) _ (count ▸ more)⟩
  rw [UInt8.toNat_ofNat', Nat.mod_eq_of_lt (by omega)]

theorem follow_concat {set : UInt8} {total index : Nat} {front : List Ipv6LanBlock}
    {last : Ipv6LanBlock} : Follow set total index (front ++ [last]) ↔
      Follow set total index front ∧ Fits set total (index + front.length) last := by
  induction front generalizing index with
  | nil =>
    constructor
    · intro follow
      exact ⟨fun i inside => absurd inside (Nat.not_lt_zero i), (follow_cons.mp follow).1⟩
    · rintro ⟨-, fits⟩
      exact follow_cons.mpr ⟨fits, fun i inside => absurd inside (Nat.not_lt_zero i)⟩
  | cons block front ih =>
    rw [List.cons_append, follow_cons, follow_cons, ih, and_assoc, List.length_cons,
      Nat.add_right_comm, Nat.add_assoc]

/-- Zeros in the room that the last block has left do not change what is put
together. -/
theorem fromBlocks_cut_padded (short : duid.bytes.length ≤ 255) {front : List Ipv6LanBlock}
    {last : Ipv6LanBlock} (parts : duid.cut = front ++ [last]) {zeros : Nat}
    (room : last.bytes.length + zeros ≤ 16) :
    fromBlocks (front ++ [padded last zeros]) = pure duid := by
  have sized : ∀ block ∈ front ++ [last], block.bytes ≠ [] ∧ block.bytes.length ≤ 16 :=
    fun block member => mem_cut (parts ▸ member)
  have inOrder := inOrder_cut short
  have few := length_cut short
  have whole := carried_cut duid
  rw [parts] at inOrder few whole
  obtain ⟨follow, set, number, -⟩ := follow_concat.mp inOrder
  obtain ⟨some, -⟩ := sized last (by simp)
  have length : (UInt8.ofNat duid.bytes.length).toNat = duid.bytes.length := by
    rw [UInt8.toNat_ofNat', Nat.mod_eq_of_lt (by omega)]
  have following : carried (front ++ [padded last zeros]) =
      UInt8.ofNat duid.bytes.length :: (duid.bytes ++ List.replicate zeros 0) := by
    rw [← List.cons_append, ← whole]
    simp [carried, padded]
  have inOrder : InOrder duid.setSelector (front ++ [padded last zeros]) := by
    rw [List.length_append, List.length_singleton] at follow
    refine follow_concat.mpr ⟨?_, set, number, fun more => ?_⟩
    · rwa [List.length_append, List.length_singleton]
    · rw [List.length_append, List.length_singleton] at more
      omega
  have fits : ∀ block ∈ front ++ [padded last zeros], block.bytes ≠ [] ∧ block.bytes.length ≤ 16 := by
    intro block member
    rw [List.mem_append, List.mem_singleton] at member
    obtain inside | rfl := member
    · exact sized block (by simp [inside])
    · refine ⟨List.append_ne_nil_of_left_ne_nil some _, ?_⟩
      rw [padded, List.length_append, List.length_replicate]
      exact room
  have enough := List.length_pos_of_ne_nil some
  rw [fromBlocks_of_inOrder inOrder (fun block member => (fits block member).2) (by simpa using few)
    (fun block member => (fits block member).1) following (by rw [length]; simp)
    (by rw [length, List.length_append, List.length_replicate]; omega), length, List.take_left]

end
/-- A DUID in blocks is put together again, with zeros after the last block or
not. No list of blocks is out of range, and one that is accepted is unbroken
and carries the length and then the DUID. -/
theorem blocks_put_together :
    (∀ duid : Ipv6Duid, duid.bytes.length ≤ 255 → ∃ blocks, duid.blocks = pure blocks ∧
      fromBlocks blocks = pure duid ∧ fromBlocks (padLast blocks) = pure duid) ∧
    ∀ blocks, fromBlocks blocks ≠ panicked ∧ ∀ duid, fromBlocks blocks = pure duid →
      InOrder duid.setSelector blocks ∧ ∃ len following, carried blocks = len :: following ∧
        len.toNat ≤ following.length ∧ duid.bytes = following.take len.toNat := by
  constructor
  · intro duid short
    obtain empty | ⟨front, last, parts⟩ := List.eq_nil_or_concat' duid.cut
    · have whole := carried_cut duid
      rw [empty] at whole
      cases whole
    · have room := (mem_cut (parts ▸ List.mem_concat_self)).2
      refine ⟨front ++ [last], parts ▸ blocks_eq_cut short, ?_, ?_⟩
      · have same : padded last 0 = last := by simp [padded]
        exact same ▸ fromBlocks_cut_padded short parts room
      · rw [padLast, List.modifyLast_concat]
        exact fromBlocks_cut_padded short parts (by omega)
  · intro blocks
    obtain ⟨outcome, ran⟩ := (fromBlocks_yields blocks).returns
    exact ⟨ran ▸ Option.some_ne_none _, fun duid accepted => of_fromBlocks accepted⟩

theorem blocks_put_together_three :
    ∃ blocks, (Ipv6Duid.mk 3 (List.replicate 35 7)).blocks = pure blocks ∧
      fromBlocks blocks = pure ⟨3, List.replicate 35 7⟩ ∧
      fromBlocks (padLast blocks) = pure ⟨3, List.replicate 35 7⟩ :=
  blocks_put_together.1 ⟨3, List.replicate 35 7⟩ (by decide)

end Ipv6Duid
end IpmiRs.Transport
