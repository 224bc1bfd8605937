import IpmiRs.Library.Memory
import IpmiRs.Storage.FruReads
import IpmiRs.Storage.FruWrites

/-! FRU transfers with devices that hold an image in memory: what is read is
the memory, and what is written ends up in it. -/
namespace IpmiRs.Storage
open Connection Library Library.Bytes Library.Chunks Library.Memory Library.Script Library.Stateful Library.Logged

/-- A transfer of whole units, of bytes that there are. -/
structure Within (access : FruAccess) (size offset count : Nat) : Prop where
  some : 0 < count
  inside : offset + count ≤ size
  aligned : offset % access.unit = 0
  whole : count % access.unit = 0

/-- The completion codes of a device that finds a request too long. -/
def sizeRelated : List UInt8 := [0xC7, 0xC8, 0xCA]

section
variable {σ ε : Type}

/-- The device tells the size of its memory, answers reads of up to `limit` bytes with what it holds,
and finds longer ones too long. -/
structure ServesFru (con : IpmiConnection σ ε) (device : FruDevice) (access : FruAccess) (limit : Nat)
    (memory : σ → List UInt8) : Prop where
  info : ∀ s, ∃ flags : UInt8, (flags &&& 1 = 1 ↔ access = .word) ∧
    (getFruInventoryAreaInfo device).request.Answered
      (con.transact (getFruInventoryAreaInfo device).request s).1 0 (toLe 2 (memory s).length ++ [flags]) ∧
    memory (con.transact (getFruInventoryAreaInfo device).request s).2 = memory s
  served : ∀ s offset count, Within access (memory s).length (UInt16.toNat offset) (UInt8.toNat count) →
    count.toNat ≤ limit →
    let request := (ReadFruData.mk device offset count access).command.request
    request.Answered (con.transact request s).1 0
      (UInt8.ofNat (count.toNat / access.unit) :: bytesAt (memory s) offset.toNat count.toNat) ∧
    memory (con.transact request s).2 = memory s
  refused : ∀ s offset count, Within access (memory s).length (UInt16.toNat offset) (UInt8.toNat count) →
    limit < count.toNat →
    let request := (ReadFruData.mk device offset count access).command.request
    (∃ cc ∈ sizeRelated, ∃ data, request.Answered (con.transact request s).1 cc data) ∧
    memory (con.transact request s).2 = memory s

/-- The device stores what it acknowledges. -/
structure StoresFru (con : IpmiConnection σ ε) (device : FruDevice) (access : FruAccess)
    (memory : σ → List UInt8) : Prop where
  stored : ∀ s offset bytes, Within access (memory s).length (UInt16.toNat offset) (List.length bytes) →
    let write := WriteFruData.mk device offset bytes access
    (writeStep write).passed ⟨write.command.request, (con.transact write.command.request s).1⟩ →
    memory (con.transact write.command.request s).2 = overwrite (memory s) offset.toNat bytes

variable {con : IpmiConnection σ ε} {device : FruDevice} {access : FruAccess} {limit : Nat}
  {memory : σ → List UInt8}

/-- Longer requests fail so that the next one is shorter. -/
theorem sizeRelated_shrinkable {command : IpmiCommand ReadFruDataResponse FruCommandError}
    (plain : ∀ code data, command.handleCompletionCode code data = none) {reply : Except ε Response}
    {cc : UInt8} {data : List UInt8} (answered : command.request.Answered reply cc data)
    (related : cc ∈ sizeRelated) :
    ∃ error, command.readReply reply = .error error ∧ shrinkable error = true := by
  have known : ∃ code, CompletionErrorCode.ofByte cc = some code ∧
      ∀ netfn cmd detail, shrinkable (.failed netfn cmd code detail : IpmiError ε FruCommandError) = true := by
    simp only [sizeRelated, List.mem_cons, List.not_mem_nil, or_false] at related
    obtain rfl | rfl | rfl := related
    · exact ⟨.requestDataLenInvalid, rfl, fun _ _ _ => rfl⟩
    · exact ⟨.requestDataLengthLimitExceeded, rfl, fun _ _ _ => rfl⟩
    · exact ⟨.cannotReturnNumOfRequestedBytes, rfl, fun _ _ _ => rfl⟩
  obtain ⟨code, decoded, shrinks⟩ := known
  obtain ⟨netfn, detail, failed⟩ := IpmiCommand.readReply_refused answered decoded (plain _ _)
  exact ⟨_, failed, shrinks _ _ _⟩

/-- A read that is served is read as what the memory holds. -/
theorem served_read {read : ReadFruData} {memory : List UInt8} {reply : Except ε Response}
    (within : Within read.access memory.length read.offset.toNat read.count.toNat)
    (answered : read.command.request.Answered reply 0
      (UInt8.ofNat (read.count.toNat / read.access.unit) ::
        bytesAt memory read.offset.toNat read.count.toNat)) :
    ∃ response, read.command.readReply reply = (.ok response : Except (IpmiError ε FruCommandError) _) ∧
      read.verify response = .ok (bytesAt memory read.offset.toNat read.count.toNat) := by
  have small := read.count.toNat_lt
  have some := within.some
  have whole := within.whole
  have long := length_bytesAt within.inside
  have units : (UInt8.ofNat (read.count.toNat / read.access.unit)).toNat * read.access.unit = read.count.toNat := by
    rw [UInt8.toNat_ofNat']
    cases access : read.access <;> simp only [access, FruAccess.unit] at whole ⊢ <;> omega
  refine ⟨⟨UInt8.ofNat (read.count.toNat / read.access.unit),
    bytesAt memory read.offset.toNat read.count.toNat⟩, IpmiCommand.readReply_answered answered ?_, ?_⟩
  · simp only [ReadFruData.command]
    rw [if_neg]
    rintro (zero | none)
    · rw [zero, show (0 : UInt8).toNat = 0 from rfl, Nat.zero_mul] at units
      omega
    · rw [none, List.length_nil] at long
      omega
  · unfold ReadFruData.verify
    rw [if_neg (not_not.mpr units), if_neg (not_not.mpr long)]

/-! ### Reading a device that serves -/

/-- The sizes of chunks: each half of the one before it, and no smaller than a unit. -/
def ChunkSize (access : FruAccess) (chunkSize : Nat) : Prop :=
  chunkSize ∈ [1, 2, 4, 8, 16] ∧ access.unit ≤ chunkSize

theorem ChunkSize.half {chunkSize : Nat} (chunk : ChunkSize access chunkSize)
    (longer : access.unit < chunkSize) : ChunkSize access (max (chunkSize / 2) access.unit) := by
  obtain ⟨size, -⟩ := chunk
  simp only [List.mem_cons, List.not_mem_nil, or_false] at size
  cases access <;> obtain rfl | rfl | rfl | rfl | rfl := size <;>
    simp only [FruAccess.unit] at longer ⊢ <;> first | omega | exact ⟨by decide, by decide⟩

/-- What is left of a memory is read in whole units. -/
theorem ChunkSize.within {chunkSize size done : Nat} (chunk : ChunkSize access chunkSize)
    (whole : size % access.unit = 0) (aligned : done % access.unit = 0) (more : done < size) :
    Within access size done (min chunkSize (size - done)) := by
  obtain ⟨known, least⟩ := chunk
  simp only [List.mem_cons, List.not_mem_nil, or_false] at known
  refine ⟨by omega, by omega, aligned, ?_⟩
  cases access <;> simp only [FruAccess.unit] at whole aligned least ⊢ <;> omega

/-- A transfer of whole units is valid. -/
theorem Within.validate {info : FruInfo} {offset : UInt16} {count : Nat}
    (within : Within info.access info.size.toNat offset.toNat count) (short : count ≤ 0xFF) :
    info.validate offset count = .ok (offset / UInt16.ofNat info.access.unit) := by
  obtain ⟨some, inside, aligned, whole⟩ := within
  unfold FruInfo.validate
  rw [if_neg, if_neg, if_neg]
  · rw [aligned, whole]
    exact fun bad => bad.elim (absurd rfl) (absurd rfl)
  · omega
  · omega

/-- A read is served, or it is longer than what the device serves. -/
theorem sendRecv_served (serves : ServesFru con device access limit memory) {s : σ} {offset : UInt16}
    {count : UInt8} (within : Within access (memory s).length offset.toNat count.toNat) :
    Ends (con.sendRecv (ReadFruData.mk device offset count access).command) s
      (fun response t => (ReadFruData.mk device offset count access).verify response =
        .ok (bytesAt (memory s) offset.toNat count.toNat) ∧ memory t = memory s)
      (fun error t => shrinkable error = true ∧ limit < count.toNat ∧ memory t = memory s) := by
  rcases Nat.lt_or_ge limit count.toNat with long | short
  · obtain ⟨⟨cc, related, data, refused⟩, kept⟩ := serves.refused s _ _ within long
    obtain ⟨error, failed, shrinks⟩ := sizeRelated_shrinkable (fun _ _ => rfl) refused related
    refine Ends.call (fun _ returned => ?_) (fun other failure => ?_)
    · cases failed.symm.trans returned
    · cases failed.symm.trans failure
      exact ⟨shrinks, long, kept⟩
  · obtain ⟨served, kept⟩ := serves.served s _ _ within short
    obtain ⟨response, returned, verified⟩ := served_read within served
    refine Ends.call (fun value other => ?_) (fun _ failure => ?_)
    · cases returned.symm.trans other
      exact ⟨verified, kept⟩
    · cases returned.symm.trans failure

theorem readFruChunks_served (serves : ServesFru con device access limit memory) (unit : access.unit ≤ limit)
    {info : FruInfo} (turns : Nat) {chunkSize done : Nat} {s : σ} (chunk : ChunkSize access chunkSize)
    (same : info.access = access) (size : info.size.toNat = (memory s).length)
    (whole : (memory s).length % access.unit = 0) (aligned : done % access.unit = 0)
    (inside : done ≤ (memory s).length) (enough : (memory s).length - done + chunkSize ≤ turns) :
    Ends (readFruChunks con device info turns chunkSize ((memory s).take done)) s
      (fun image t => image = memory s ∧ memory t = memory s) (fun _ _ => False) := by
  subst same
  have bound := info.size.toNat_lt
  induction turns generalizing chunkSize done s with
  | zero =>
    obtain ⟨known, -⟩ := chunk
    simp only [List.mem_cons, List.not_mem_nil, or_false] at known
    omega
  | succ turns ih =>
    unfold readFruChunks
    have length : ((memory s).take done).length = done := List.length_take_of_le inside
    rw [length, size]
    split
    · rename_i more
      dsimp only
      generalize asked : min chunkSize ((memory s).length - done) = count
      have part := chunk.within whole aligned more
      rw [asked] at part
      have some := part.some
      have fits := part.inside
      have short : count ≤ 16 := by
        have known := chunk.1
        simp only [List.mem_cons, List.not_mem_nil, or_false] at known
        omega
      have offset : (UInt16.ofNat done).toNat = done := by
        rw [UInt16.toNat_ofNat']
        omega
      have bytes : (UInt8.ofNat count).toNat = count := by
        rw [UInt8.toNat_ofNat']
        omega
      have within : Within info.access (memory s).length (UInt16.ofNat done).toNat (UInt8.ofNat count).toNat := by
        rwa [offset, bytes]
      have valid := Within.validate (size.symm ▸ within) (bytes.symm ▸ short.trans (by decide))
      have new : ReadFruData.new device info (UInt16.ofNat done) (UInt8.ofNat count) =
          .ok ⟨device, UInt16.ofNat done, UInt8.ofNat count, info.access⟩ := by
        rw [ReadFruData.new, valid]
        rfl
      rw [new]
      refine Ends.ofExcept_bind (fun _ bad => by cases bad) fun read made => ?_
      cases made
      refine Ends.attempt_bind (sendRecv_served serves within) ?_ ?_
      · rintro response t ⟨verified, kept⟩
        dsimp only
        rw [verified]
        refine Ends.ofExcept_bind (fun _ bad => by cases bad) fun more made => ?_
        cases made
        rw [bytesAt, offset, bytes, ← List.take_add, ← kept]
        refine ih ?_ ?_ ?_ chunk ?_ ?_
        · rw [kept]
          exact size
        · rw [kept]
          exact fits
        · rw [kept]
          omega
        · rw [kept]
          exact whole
        · have even := part.whole
          cases access : info.access <;> simp only [access, FruAccess.unit] at aligned even ⊢ <;> omega
      · rintro error t ⟨shrinks, long, kept⟩
        have longer : info.access.unit < chunkSize := by omega
        dsimp only
        rw [if_pos ⟨shrinks, longer⟩, ← kept]
        refine ih ?_ ?_ ?_ (chunk.half longer) ?_ aligned
        all_goals rw [kept]
        · exact size
        · exact inside
        · omega
        · exact whole
    · exact Ends.pure ⟨List.take_of_length_le (by omega), rfl⟩

/-- The size and the access that a device tells. -/
theorem info_parse {size : Nat} {flags : UInt8} (some : 0 < size) (bound : size < 2 ^ 16)
    (told : flags &&& 1 = 1 ↔ access = .word) :
    (getFruInventoryAreaInfo device).parse (toLe 2 size ++ [flags]) = .ok ⟨UInt16.ofNat size, access⟩ := by
  have recovered : ofLe [UInt8.ofNat size, UInt8.ofNat (size / 256)] = size :=
    ofLe_toLe_of_lt (show size < 256 ^ 2 from bound)
  have nonzero : UInt16.ofNat size ≠ 0 := by
    intro zero
    have none := congrArg UInt16.toNat zero
    rw [UInt16.toNat_ofNat', Nat.mod_eq_of_lt bound] at none
    exact absurd none (by exact Nat.pos_iff_ne_zero.mp some)
  change (if UInt16.ofNat (ofLe [UInt8.ofNat size, UInt8.ofNat (size / 256)]) = 0 then
      (.error .emptyInventory : Except FruCommandError FruInfo)
    else .ok (FruInfo.mk (UInt16.ofNat (ofLe [UInt8.ofNat size, UInt8.ofNat (size / 256)]))
      (if flags &&& 1 = 1 then .word else .byte))) = _
  rw [recovered, if_neg nonzero]
  congr 2
  split
  · rename_i word
    exact (told.mp word).symm
  · rename_i byte
    cases access with
    | byte => rfl
    | word => exact absurd (told.mpr rfl) byte

theorem readFruImage_served (serves : ServesFru con device access limit memory) (unit : access.unit ≤ limit)
    {s : σ} (some : 0 < (memory s).length) (bound : (memory s).length < 2 ^ 16)
    (whole : (memory s).length % access.unit = 0) :
    Ends (readFruImage con device) s (fun image t => image = memory s ∧ memory t = memory s)
      (fun _ _ => False) := by
  obtain ⟨flags, told, answered, kept⟩ := serves.info s
  have returned := IpmiCommand.readReply_answered answered (info_parse some bound told)
  unfold readFruImage fruInfo
  have info : Ends (con.sendRecv (getFruInventoryAreaInfo device)) s
      (fun info t => info = ⟨UInt16.ofNat (memory s).length, access⟩ ∧ memory t = memory s) (fun _ _ => False) := by
    refine Ends.call (fun _ other => ?_) (fun _ failure => ?_)
    · cases returned.symm.trans other
      exact ⟨rfl, kept⟩
    · cases returned.symm.trans failure
  refine Ends.bind (F := fun _ _ => False) (Ends.adapt info) (fun _ _ never => never) ?_
  rintro _ t ⟨rfl, same⟩
  have size : (UInt16.ofNat (memory s).length).toNat = (memory s).length := by
    rw [UInt16.toNat_ofNat', Nat.mod_eq_of_lt bound]
  have chunk : ChunkSize access DEFAULT_CHUNK_BYTES := by cases access <;> exact ⟨by decide, by decide⟩
  have loop : Ends (readFruChunks con device ⟨UInt16.ofNat (memory s).length, access⟩
      ((memory s).length + DEFAULT_CHUNK_BYTES) DEFAULT_CHUNK_BYTES ((memory t).take 0)) t
      (fun image u => image = memory t ∧ memory u = memory t) (fun _ _ => False) := by
    rw [← same] at size whole ⊢
    exact readFruChunks_served serves unit _ chunk rfl size whole (Nat.zero_mod _) (Nat.zero_le _) (Nat.le_refl _)
  rw [same] at loop
  dsimp only
  rw [if_neg, size]
  · exact loop
  · rintro ⟨word, odd⟩
    rw [size] at odd
    rw [word] at whole
    exact odd whole

/-! ### Writing to a device that stores -/

/-- The part with an index, as the bytes of an image from its place on. -/
theorem chunk_bytesAt {image : List UInt8} {index : Nat} (within : index < (chunks DEFAULT_CHUNK_BYTES image).length) :
    (chunks DEFAULT_CHUNK_BYTES image)[index] = bytesAt image (index * DEFAULT_CHUNK_BYTES)
      (min DEFAULT_CHUNK_BYTES (image.length - index * DEFAULT_CHUNK_BYTES)) := by
  simp only [chunks, List.getElem_map, List.getElem_range, bytesAt]
  rw [← List.length_drop, ← List.take_eq_take_min]

/-- A write that is acknowledged is stored. -/
theorem sendRecv_stored (stores : StoresFru con device access memory) {s : σ} {offset : UInt16}
    {bytes : List UInt8} (within : Within access (memory s).length offset.toNat bytes.length) :
    Ends (con.sendRecv (WriteFruData.mk device offset bytes access).command) s
      (fun count t => (WriteFruData.mk device offset bytes access).verify count = .ok () →
        memory t = overwrite (memory s) offset.toNat bytes) (fun _ _ => True) :=
  Ends.call (fun count returned acked => stores.stored s offset bytes within ⟨count, returned, acked⟩)
    (fun _ _ => trivial)

/-- A chunk that was stored carries the image on. -/
theorem stored_on {memory image : List UInt8} {index : Nat} (wide : memory.length = image.length)
    (below : index * DEFAULT_CHUNK_BYTES < image.length)
    (before : memory.take (index * DEFAULT_CHUNK_BYTES) = image.take (index * DEFAULT_CHUNK_BYTES)) :
    (overwrite memory (index * DEFAULT_CHUNK_BYTES) (bytesAt image (index * DEFAULT_CHUNK_BYTES)
      (min DEFAULT_CHUNK_BYTES (image.length - index * DEFAULT_CHUNK_BYTES)))).take
        ((index + 1) * DEFAULT_CHUNK_BYTES) = image.take ((index + 1) * DEFAULT_CHUNK_BYTES) := by
  generalize asked : min DEFAULT_CHUNK_BYTES (image.length - index * DEFAULT_CHUNK_BYTES) = count
  have length : (bytesAt image (index * DEFAULT_CHUNK_BYTES) count).length = count := length_bytesAt (by omega)
  have stored := overwrite_take before (wide ▸ below.le) count length
  have size : (overwrite memory (index * DEFAULT_CHUNK_BYTES)
      (bytesAt image (index * DEFAULT_CHUNK_BYTES) count)).length = memory.length := overwrite_length (by omega)
  rw [Nat.succ_mul]
  rcases Nat.lt_or_ge count DEFAULT_CHUNK_BYTES with short | full
  · have all : image.length = index * DEFAULT_CHUNK_BYTES + count := by omega
    rw [List.take_of_length_le (by omega), List.take_of_length_le (by omega)] at stored ⊢
    exact stored
  · have same : count = DEFAULT_CHUNK_BYTES := by omega
    rwa [same] at stored ⊢

theorem writeFruChunks_stores {info : FruInfo} (stores : StoresFru con device info.access memory)
    {image : List UInt8} (size : image.length = info.size.toNat)
    (whole : image.length % info.access.unit = 0) (index : Nat) (parts : List (List UInt8))
    (rest : parts = (chunks DEFAULT_CHUNK_BYTES image).drop index) {s : σ}
    (wide : (memory s).length = image.length)
    (before : (memory s).take (index * DEFAULT_CHUNK_BYTES) = image.take (index * DEFAULT_CHUNK_BYTES)) :
    Ends (writeFruChunks con device info index parts) s (fun _ t => memory t = image) (fun _ _ => True) := by
  induction parts generalizing index s with
  | nil =>
    have past : divCeil image.length DEFAULT_CHUNK_BYTES ≤ index := by
      rw [← length_chunks]
      exact List.drop_eq_nil_iff.mp rest.symm
    have reached := le_divCeil_mul (show 0 < DEFAULT_CHUNK_BYTES by decide) image.length
    have all : image.length ≤ index * DEFAULT_CHUNK_BYTES :=
      reached.trans (Nat.mul_le_mul_right _ past)
    rw [List.take_of_length_le all, List.take_of_length_le (wide ▸ all)] at before
    exact Ends.pure before
  | cons part parts ih =>
    have within : index < (chunks DEFAULT_CHUNK_BYTES image).length := by
      refine Nat.lt_of_not_ge fun past => ?_
      rw [List.drop_eq_nil_of_le past] at rest
      cases rest
    obtain ⟨first, others⟩ := List.cons.inj (rest.trans (List.drop_eq_getElem_cons within))
    have below := mul_lt_of_lt_divCeil (by decide) (length_chunks _ image ▸ within)
    have among : (part, index) ∈ (chunks DEFAULT_CHUNK_BYTES image).zipIdx :=
      List.mem_zipIdx_iff_getElem?.mpr (first ▸ List.getElem?_eq_getElem within)
    have fit : WriteFruData.new device info (UInt16.ofNat (index * DEFAULT_CHUNK_BYTES)) part =
        .ok (partWrite device info 0 (part, index)) := image_part_new size whole among
    rw [chunk_bytesAt within] at first
    have long : part.length = min DEFAULT_CHUNK_BYTES (image.length - index * DEFAULT_CHUNK_BYTES) := by
      rw [first]
      exact length_bytesAt (by omega)
    have offset : (UInt16.ofNat (0 + index * DEFAULT_CHUNK_BYTES)).toNat = index * DEFAULT_CHUNK_BYTES := by
      have bound := info.size.toNat_lt
      rw [UInt16.toNat_ofNat']
      omega
    have inside : Within info.access (memory s).length (UInt16.ofNat (0 + index * DEFAULT_CHUNK_BYTES)).toNat
        part.length := by
      rw [offset, wide, long]
      refine ⟨?_, by omega, ?_, ?_⟩
      · simp only [DEFAULT_CHUNK_BYTES] at below ⊢
        omega
      · cases info.access <;> simp only [FruAccess.unit, DEFAULT_CHUNK_BYTES] <;> omega
      · cases access : info.access <;> simp only [access, FruAccess.unit, DEFAULT_CHUNK_BYTES] at whole ⊢ <;> omega
    have sent := sendRecv_stored stores inside
    rw [offset] at sent
    unfold writeFruChunks
    dsimp only
    rw [fit]
    refine Ends.ofExcept_bind (fun _ bad => by cases bad) fun write made => ?_
    cases made
    refine Ends.attempt_bind sent ?_ ?_
    · intro count t stored
      dsimp only
      refine Ends.ofExcept_bind (fun _ _ => trivial) fun _ verified => ?_
      have now := stored (mapError_eq_ok.mp verified)
      refine ih (index + 1) others ?_ ?_
      · rw [now, overwrite_length (by omega), wide]
      · rw [now, first]
        exact stored_on wide below before
    · intro source t _
      exact Ends.throw trivial

/-- An image that was acknowledged in full is what the device holds. -/
theorem writeFruImage_stores {info : FruInfo} (stores : StoresFru con device info.access memory)
    {image : List UInt8} {s : σ} (wide : (memory s).length = info.size.toNat) :
    Ends (writeFruImage con device info image) s (fun _ t => memory t = image) (fun _ _ => True) := by
  unfold writeFruImage
  split
  · exact Ends.throw trivial
  rename_i size
  refine Ends.ofExcept_bind (fun _ _ => trivial) fun inventory parsed => ?_
  split
  · exact Ends.throw trivial
  · rename_i even
    have size := not_not.mp size
    refine writeFruChunks_stores stores size ?_ 0 _ rfl (wide.trans size.symm) ?_
    · cases access : info.access with
      | byte => exact Nat.mod_one _
      | word => exact not_not.mp fun odd => even ⟨access, odd⟩
    · rw [Nat.zero_mul, List.take_zero, List.take_zero]

end
end IpmiRs.Storage
