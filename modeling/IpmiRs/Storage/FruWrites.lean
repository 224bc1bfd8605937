import IpmiRs.Library.Chunks
import IpmiRs.Library.Script
import IpmiRs.Recorded
import IpmiRs.Storage.FruLossless
import IpmiRs.Storage.FruTransfer

/-! Writing FRU images, `ipmi-rs/src/fru.rs`. An image is checked, and then
written in chunks, each of which is sent once. -/
namespace IpmiRs.Storage
open Connection Library Library.Bytes Library.Chunks Library.Script Library.Stateful Library.Logged

inductive FruWriteError (ε : Type) where
  | invalidImage (error : FruParseError)
  | sizeMismatch
  | invalidTransfer (error : FruCommandError)
  | outcomeUnknown (offset bytesConfirmed : Nat) (source : IpmiError ε FruCommandError)
  | outcomeUnconfirmed (offset bytesConfirmed : Nat) (error : FruCommandError)
  deriving DecidableEq

section
variable {σ ε : Type} (con : IpmiConnection σ ε) (device : FruDevice) (info : FruInfo)

/-- The loop of `write_fru_image`, from the `index`-th chunk on. -/
def writeFruChunks : Nat → List (List UInt8) → Stateful σ (FruWriteError ε) Unit
  | _, [] => return
  | index, part :: parts => do
    let offset := index * DEFAULT_CHUNK_BYTES
    let write ← MonadExcept.ofExcept ((WriteFruData.new device info (UInt16.ofNat offset)
      part).mapError .invalidTransfer)
    match ← (con.sendRecv write.command).attempt with
    | .ok count =>
      MonadExcept.ofExcept ((write.verify count).mapError (.outcomeUnconfirmed offset offset))
      writeFruChunks (index + 1) parts
    | .error source => throw (.outcomeUnknown offset offset source)

/-- `Ipmi::write_fru_image`. -/
def writeFruImage (image : List UInt8) : Stateful σ (FruWriteError ε) Unit := do
  if image.length ≠ info.size.toNat then throw .sizeMismatch
  else
    let _ ← MonadExcept.ofExcept ((parseInventory image).mapError .invalidImage)
    if info.access = .word ∧ image.length % 2 ≠ 0 then throw (.invalidTransfer .unaligned)
    else writeFruChunks con device info 0 (chunks DEFAULT_CHUNK_BYTES image)

end

/-! ### The writes of an image -/

section
variable {ε : Type} (device : FruDevice) (info : FruInfo)

/-- The write of the part with an index, of the parts that are written from `start` on. -/
def partWrite (start : Nat) (part : List UInt8 × Nat) : WriteFruData :=
  ⟨device, UInt16.ofNat (start + part.2 * DEFAULT_CHUNK_BYTES), part.1, info.access⟩

/-- The writes of parts, each once. -/
def partWrites (start index : Nat) (parts : List (List UInt8)) : List WriteFruData :=
  (parts.zipIdx index).map (partWrite device info start)

/-- The writes of an image. -/
def imageWrites (image : List UInt8) : List WriteFruData :=
  partWrites device info 0 0 (chunks DEFAULT_CHUNK_BYTES image)

/-- A write that is acknowledged in full. -/
def writeStep (write : WriteFruData) : Step (Exchange ε) where
  expected one := one.request = write.command.request
  passed one := ∃ count, write.command.readReply one.reply =
    (.ok count : Except (IpmiError ε FruCommandError) UInt8) ∧ write.verify count = .ok ()

variable {device info}

/-- Where a part of so many bytes fits, its write is made. -/
theorem partWrite_new {start index : Nat} {bytes : List UInt8} (some : 0 < bytes.length)
    (short : bytes.length ≤ DEFAULT_CHUNK_BYTES)
    (inside : start + index * DEFAULT_CHUNK_BYTES + bytes.length ≤ info.size.toNat)
    (aligned : start % info.access.unit = 0) (whole : bytes.length % info.access.unit = 0) :
    WriteFruData.new device info (UInt16.ofNat (start + index * DEFAULT_CHUNK_BYTES)) bytes =
      .ok (partWrite device info start (bytes, index)) := by
  have size := info.size.toNat_lt
  have offset : (UInt16.ofNat (start + index * DEFAULT_CHUNK_BYTES)).toNat =
      start + index * DEFAULT_CHUNK_BYTES := by
    rw [UInt16.toNat_ofNat']
    omega
  have even : (start + index * DEFAULT_CHUNK_BYTES) % info.access.unit = 0 := by
    cases access : info.access <;> simp only [access, FruAccess.unit, DEFAULT_CHUNK_BYTES] at aligned ⊢ <;> omega
  have valid : info.validate (UInt16.ofNat (start + index * DEFAULT_CHUNK_BYTES)) bytes.length =
      .ok (UInt16.ofNat (start + index * DEFAULT_CHUNK_BYTES) / UInt16.ofNat info.access.unit) := by
    unfold FruInfo.validate
    rw [offset, if_neg, if_neg, if_neg]
    · rw [even, whole]
      exact fun bad => bad.elim (absurd rfl) (absurd rfl)
    · omega
    · simp only [DEFAULT_CHUNK_BYTES] at short
      omega
  rw [WriteFruData.new, valid]
  rfl

/-- An image is accepted if it has the size of the device and parses, in whole units. -/
def Accepted (info : FruInfo) (image : List UInt8) : Prop :=
  image.length = info.size.toNat ∧ (∃ inventory, parseInventory image = .ok inventory) ∧
    image.length % info.access.unit = 0

/-- The parts of an accepted image all fit. -/
theorem image_part_new {image : List UInt8} (size : image.length = info.size.toNat)
    (whole : image.length % info.access.unit = 0) {bytes : List UInt8} {index : Nat}
    (among : (bytes, index) ∈ (chunks DEFAULT_CHUNK_BYTES image).zipIdx) :
    WriteFruData.new device info (UInt16.ofNat (index * DEFAULT_CHUNK_BYTES)) bytes =
      .ok (partWrite device info 0 (bytes, index)) := by
  obtain ⟨within, same⟩ := List.mem_zipIdx' among
  have positive : 0 < DEFAULT_CHUNK_BYTES := by decide
  have below := mul_lt_of_lt_divCeil positive (length_chunks _ image ▸ within)
  have length : bytes.length = min DEFAULT_CHUNK_BYTES (image.length - index * DEFAULT_CHUNK_BYTES) := by
    rw [same]
    simp only [chunks, List.getElem_map, List.getElem_range, List.length_take, List.length_drop]
  have some : 0 < bytes.length := by omega
  have short : bytes.length ≤ DEFAULT_CHUNK_BYTES := by omega
  have inside : 0 + index * DEFAULT_CHUNK_BYTES + bytes.length ≤ info.size.toNat := by omega
  have fits : WriteFruData.new device info (UInt16.ofNat (0 + index * DEFAULT_CHUNK_BYTES)) bytes =
      .ok (partWrite device info 0 (bytes, index)) := partWrite_new some short inside (Nat.zero_mod _) ?_
  · rwa [Nat.zero_add] at fits
  · cases access : info.access <;>
      simp only [access, FruAccess.unit, DEFAULT_CHUNK_BYTES] at whole below length ⊢ <;> omega

end

/-! ### What a write of an image sends -/

/-- A write that failed, after those before it were acknowledged. -/
inductive Unfinished {ε : Type} :
    List WriteFruData → Nat → FruWriteError ε → List (Exchange ε) → Prop
  | unknown {write : WriteFruData} {index : Nat} {last : Exchange ε} {source : IpmiError ε FruCommandError}
      (rest : List WriteFruData) (expected : (writeStep write).expected last)
      (failed : write.command.readReply last.reply = .error source) :
      Unfinished (write :: rest) index
        (.outcomeUnknown (index * DEFAULT_CHUNK_BYTES) (index * DEFAULT_CHUNK_BYTES) source) [last]
  | unconfirmed {write : WriteFruData} {index : Nat} {last : Exchange ε} {count : UInt8} {error : FruCommandError}
      (rest : List WriteFruData) (expected : (writeStep write).expected last)
      (counted : write.command.readReply last.reply = (.ok count : Except (IpmiError ε FruCommandError) UInt8))
      (failed : write.verify count = .error error) :
      Unfinished (write :: rest) index
        (.outcomeUnconfirmed (index * DEFAULT_CHUNK_BYTES) (index * DEFAULT_CHUNK_BYTES) error) [last]
  | later {write : WriteFruData} {writes : List WriteFruData} {index : Nat} {one : Exchange ε}
      {error : FruWriteError ε} {log : List (Exchange ε)} (done : (writeStep write).Done one)
      (unfinished : Unfinished writes (index + 1) error log) : Unfinished (write :: writes) index error (one :: log)

section
variable {σ ε : Type} (con : IpmiConnection σ ε) {device : FruDevice} {info : FruInfo}

/-- A write whose reply is an error has not passed. -/
theorem not_passed_unknown {write : WriteFruData} {last : Exchange ε} {source : IpmiError ε FruCommandError}
    (failed : write.command.readReply last.reply = .error source) : ¬(writeStep write).passed last := by
  rintro ⟨count, returned, -⟩
  rw [failed] at returned
  cases returned

/-- Nor has one whose count is not the one that was asked for. -/
theorem not_passed_unconfirmed {write : WriteFruData} {last : Exchange ε} {count : UInt8} {error : FruCommandError}
    (counted : write.command.readReply last.reply = (.ok count : Except (IpmiError ε FruCommandError) UInt8))
    (failed : write.verify count = .error error) : ¬(writeStep write).passed last := by
  rintro ⟨count, returned, verified⟩
  rw [counted] at returned
  cases returned
  rw [failed] at verified
  cases verified

theorem Unfinished.along {writes : List WriteFruData} {index : Nat} {error : FruWriteError ε}
    {log : List (Exchange ε)} (unfinished : Unfinished writes index error log) :
    Along (writes.map writeStep) log := by
  induction unfinished with
  | unknown rest expected failed => exact .failed _ expected (not_passed_unknown failed)
  | unconfirmed rest expected counted failed => exact .failed _ expected (not_passed_unconfirmed counted failed)
  | later done _ ih => exact .passed done ih

theorem Unfinished.not_completed {writes : List WriteFruData} {index : Nat} {error : FruWriteError ε}
    {log : List (Exchange ε)} (unfinished : Unfinished writes index error log) :
    ¬Completed (writes.map writeStep) log := by
  induction unfinished with
  | unknown rest expected failed =>
    intro completed
    cases completed with
    | cons done _ => exact not_passed_unknown failed done.2
  | unconfirmed rest expected counted failed =>
    intro completed
    cases completed with
    | cons done _ => exact not_passed_unconfirmed counted failed done.2
  | later done _ ih =>
    intro completed
    cases completed with
    | cons _ others => exact ih others

theorem writeFruChunks_tells (index : Nat) (parts : List (List UInt8))
    (fit : ∀ part ∈ parts.zipIdx index,
      WriteFruData.new device info (UInt16.ofNat (part.2 * DEFAULT_CHUNK_BYTES)) part.1 =
        .ok (partWrite device info 0 part)) :
    Tells (writeFruChunks con.recorded device info index parts)
      (fun _ log => Completed ((partWrites device info 0 index parts).map writeStep) log)
      (fun error log => Unfinished (partWrites device info 0 index parts) index error log) := by
  induction parts generalizing index with
  | nil => exact Tells.pure .nil
  | cons part parts ih =>
    obtain ⟨first, others⟩ := List.forall_mem_cons.mp fit
    unfold writeFruChunks
    dsimp only at first ⊢
    rw [first]
    refine Tells.ofExcept_bind (fun _ bad => (nomatch bad)) fun write made => ?_
    cases made
    have whole : partWrites device info 0 index (part :: parts) =
        partWrite device info 0 (part, index) :: partWrites device info 0 (index + 1) parts := rfl
    rw [whole]
    refine Tells.attempt_bind (IpmiConnection.sendRecv_tells con _) ?_ ?_
    · rintro count log ⟨one, rfl, asked, returned⟩
      refine Tells.ofExcept_bind (fun error failed => ?_) fun _ verified => ?_
      · cases checked : (partWrite device info 0 (part, index)).verify count with
        | ok done =>
          rw [checked] at failed
          cases failed
        | error reason =>
          rw [checked] at failed
          cases failed
          exact .unconfirmed _ asked returned checked
      · have done : (writeStep (partWrite device info 0 (part, index))).Done one :=
          ⟨asked, count, returned, mapError_eq_ok.mp verified⟩
        refine Tells.mono (ih (index + 1) others) ?_ ?_
        · intro _ log completed
          exact .cons done completed
        · intro error log unfinished
          exact .later done unfinished
    · rintro source log ⟨one, rfl, asked, failed⟩
      exact Tells.throw (.unknown _ asked failed)

/-- Nothing is sent of an image that is not accepted. -/
theorem writeFruImage_tells (device : FruDevice) (info : FruInfo) (image : List UInt8) :
    Tells (writeFruImage con.recorded device info image)
      (fun _ log => Accepted info image ∧ Completed ((imageWrites device info image).map writeStep) log)
      (fun error log => (¬Accepted info image ∧ log = []) ∨
        (Accepted info image ∧ Unfinished (imageWrites device info image) 0 error log)) := by
  unfold writeFruImage
  split
  · rename_i other
    exact Tells.throw (.inl ⟨fun accepted => other accepted.1, rfl⟩)
  rename_i size
  refine Tells.ofExcept_bind (fun error failed => .inl ⟨fun accepted => ?_, rfl⟩) fun inventory parsed => ?_
  · obtain ⟨inventory, parsed⟩ := accepted.2.1
    rw [parsed] at failed
    cases failed
  split
  · rename_i odd
    refine Tells.throw (.inl ⟨fun accepted => odd.2 ?_, rfl⟩)
    have whole := accepted.2.2
    rwa [odd.1] at whole
  · rename_i even
    have accepted : Accepted info image := by
      refine ⟨not_not.mp size, ⟨inventory, mapError_eq_ok.mp parsed⟩, ?_⟩
      cases access : info.access with
      | byte => exact Nat.mod_one _
      | word => exact not_not.mp fun odd => even ⟨access, odd⟩
    refine Tells.mono (writeFruChunks_tells con 0 _ fun part among =>
      image_part_new accepted.1 accepted.2.2 among) ?_ ?_
    · intro _ log completed
      exact ⟨accepted, completed⟩
    · intro error log unfinished
      exact .inr ⟨accepted, unfinished⟩

/-- The bytes that an error reports as confirmed. -/
def FruWriteError.bytesConfirmed : FruWriteError ε → Option Nat
  | .outcomeUnknown _ bytesConfirmed _ => some bytesConfirmed
  | .outcomeUnconfirmed _ bytesConfirmed _ => some bytesConfirmed
  | _ => none

/-- Up to a write that failed, those that were acknowledged, which hold the bytes before `confirmed`. -/
structure AckedBefore (device : FruDevice) (info : FruInfo) (image : List UInt8) (confirmed : Nat)
    (log : List (Exchange ε)) : Prop where
  acked : ∃ (done rest : List WriteFruData) (write : WriteFruData) (acks : List (Exchange ε)) (last : Exchange ε),
    imageWrites device info image = done ++ write :: rest ∧ log = acks ++ [last] ∧
    Completed (done.map writeStep) acks ∧ (writeStep write).expected last ∧ ¬(writeStep write).passed last ∧
    (done.map (·.data)).flatten = image.take confirmed
  inside : confirmed < image.length

theorem Unfinished.split {writes : List WriteFruData} {index : Nat} {error : FruWriteError ε}
    {log : List (Exchange ε)} (unfinished : Unfinished writes index error log) :
    ∃ done write rest acks last, writes = done ++ write :: rest ∧ log = acks ++ [last] ∧
      Completed (done.map writeStep) acks ∧ (writeStep write).expected last ∧
      ¬(writeStep write).passed last ∧
      error.bytesConfirmed = some ((index + done.length) * DEFAULT_CHUNK_BYTES) := by
  induction unfinished with
  | @unknown write index last source rest expected failed =>
    exact ⟨[], write, rest, [], last, rfl, rfl, .nil, expected, not_passed_unknown failed, rfl⟩
  | @unconfirmed write index last count error rest expected counted failed =>
    exact ⟨[], write, rest, [], last, rfl, rfl, .nil, expected, not_passed_unconfirmed counted failed, rfl⟩
  | @later first writes index one error log done _ ih =>
    obtain ⟨before, write, rest, acks, last, rfl, rfl, completed, expected, failed, confirmed⟩ := ih
    refine ⟨first :: before, write, rest, one :: acks, last, rfl, rfl, .cons done completed, expected, failed, ?_⟩
    rw [confirmed, List.length_cons]
    congr 2
    omega

theorem imageWrites_data (image : List UInt8) :
    (imageWrites device info image).map (·.data) = chunks DEFAULT_CHUNK_BYTES image := by
  rw [imageWrites, partWrites, List.map_map]
  exact List.zipIdx_map_fst 0 _

/-- What an error reports as confirmed was acknowledged before it. -/
theorem Unfinished.ackedBefore {image : List UInt8} {error : FruWriteError ε} {log : List (Exchange ε)}
    (unfinished : Unfinished (imageWrites device info image) 0 error log) :
    ∃ confirmed, error.bytesConfirmed = some confirmed ∧ AckedBefore device info image confirmed log := by
  obtain ⟨done, write, rest, acks, last, parts, logged, completed, expected, failed, confirmed⟩ := unfinished.split
  rw [Nat.zero_add] at confirmed
  have data : (imageWrites device info image).map (·.data) = chunks DEFAULT_CHUNK_BYTES image :=
    imageWrites_data image
  have reached : done.length < (chunks DEFAULT_CHUNK_BYTES image).length := by
    rw [← data, parts, List.length_map, List.length_append, List.length_cons]
    omega
  refine ⟨_, confirmed, ⟨done, rest, write, acks, last, parts, logged, completed, expected, failed, ?_⟩, ?_⟩
  · rw [← flatten_take_chunks reached.le, ← data, parts, List.map_append,
      List.take_left' (List.length_map _)]
  · exact mul_lt_of_lt_divCeil (by decide) (length_chunks _ image ▸ reached)

/-- No two writes of an image are the same request. -/
theorem imageWrites_distinct {image : List UInt8} (size : image.length = info.size.toNat) :
    ((imageWrites device info image).map (·.command.request)).Nodup := by
  let place (request : Request) : Nat :=
    ofLe [request.data[1]!, request.data[2]!] * info.access.unit / DEFAULT_CHUNK_BYTES
  apply List.Nodup.of_map place
  have places : ((imageWrites device info image).map (·.command.request)).map place =
      (chunks DEFAULT_CHUNK_BYTES image).zipIdx.map Prod.snd := by
    rw [imageWrites, partWrites, List.map_map, List.map_map]
    refine List.map_congr_left fun part among => ?_
    obtain ⟨bytes, index⟩ := part
    obtain ⟨within, -⟩ := List.mem_zipIdx' among
    have below := mul_lt_of_lt_divCeil (by decide) (length_chunks _ image ▸ within)
    have bound := info.size.toNat_lt
    change ofLe (toLe 2 (UInt16.ofNat (0 + index * DEFAULT_CHUNK_BYTES) /
      UInt16.ofNat info.access.unit).toNat) * info.access.unit / DEFAULT_CHUNK_BYTES = index
    rw [ofLe_toLe_of_lt (UInt16.toNat_lt _), UInt16.toNat_div, UInt16.toNat_ofNat', UInt16.toNat_ofNat']
    simp only [DEFAULT_CHUNK_BYTES] at below ⊢
    cases info.access <;> simp only [FruAccess.unit, Nat.reducePow, Nat.reduceMod] <;> omega
  rw [places, List.zipIdx_map_snd]
  exact List.nodup_range'

end
end IpmiRs.Storage
