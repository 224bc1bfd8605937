import IpmiRs.Kontron.FruChange
import IpmiRs.Storage.FruReads
import IpmiRs.Storage.FruWrites

/-! What applying and restoring a Kontron FRU exchange: nothing is written before
the device was checked, and each part of an area that changes is written once. -/
namespace IpmiRs.Kontron
open Connection App Library Library.Chunks Library.Script Library.Stateful Library.Logged Storage

variable {σ ε : Type}

/-- The writes of an area, if it changes. -/
def areaWrites (change : KontronFruChange) (current desired : List UInt8) (span : Span) : List WriteFruData :=
  partWrites change.device change.info span.start 0 (KontronFruChange.areaChunks current desired span)

/-- The writes of a change, those of the board area first. -/
def changeWrites (change : KontronFruChange) (current desired : List UInt8) : List WriteFruData :=
  areaWrites change current desired change.backup.board ++ areaWrites change current desired change.backup.product

/-- Writes that follow each other in an area, each of the bytes that are desired at its place. -/
structure WritesArea (change : KontronFruChange) (desired : List UInt8) (span : Span)
    (writes : List WriteFruData) : Prop where
  device : ∀ write ∈ writes, write.device = change.device ∧ write.access = change.info.access
  whole : (writes.map (·.data)).flatten = span.of desired
  placed : ∀ i write, writes[i]? = some write → write.offset.toNat = span.start + i * DEFAULT_CHUNK_BYTES ∧
    write.data = (desired.drop write.offset.toNat).take write.data.length ∧
    0 < write.data.length ∧ write.offset.toNat + write.data.length ≤ span.stop

/-- The device was read, and is the one that the change was prepared for. -/
def SameDevice (change : KontronFruChange) (one : Exchange ε) : Prop :=
  one.request = (targetDeviceId change.device.target).request ∧
    (targetDeviceId change.device.target).readReply one.reply =
      (.ok change.identity : Except (IpmiError ε NotEnoughData) DeviceId)

/-- The size and the access of the FRU were read, and are the same. -/
def SameInfo (change : KontronFruChange) (one : Exchange ε) : Prop :=
  one.request = (getFruInventoryAreaInfo change.device).request ∧
    (getFruInventoryAreaInfo change.device).readReply one.reply =
      (.ok change.info : Except (IpmiError ε FruCommandError) FruInfo)

/-- What is checked before anything is written: the device, the size, and the whole image; and the device again. -/
structure Preflight (change : KontronFruChange) (current : List UInt8) (log : List (Exchange ε)) : Prop where
  checks : ∃ (device info again : Exchange ε) (read : List (Exchange ε)), log = device :: info :: (read ++ [again]) ∧
    SameDevice change device ∧ SameInfo change info ∧ ReadWhole change.device current read ∧ SameDevice change again
  kontron : change.identity.manufacturerId = 15000

/-- The exchanges of a change of an image that was read as `unchanged` says into the one that is `desired`. -/
structure Guarded (change : KontronFruChange) (unchanged : List UInt8 → Prop) (desired : List UInt8)
    (result : Except (KontronFruError ε) Unit) (log : List (Exchange ε)) : Prop where
  parts : ∃ (before writes after : List (Exchange ε)) (current : List UInt8), log = before ++ (writes ++ after) ∧
    (∀ one ∈ before ++ after, ¬IsFruWrite one) ∧
    Along ((changeWrites change current desired).map writeStep) writes ∧
    (writes ≠ [] ∨ result = .ok () → unchanged current ∧ Preflight change current before ∧
      ∀ span ∈ [change.backup.board, change.backup.product],
        (span.of current = span.of desired → areaWrites change current desired span = []) ∧
        (span.of current ≠ span.of desired →
          WritesArea change desired span (areaWrites change current desired span))) ∧
    (result = .ok () → Completed ((changeWrites change current desired).map writeStep) writes ∧
      ReadWhole change.device desired after)

/-! ### The parts of a change -/

section parts
variable (con : IpmiConnection σ ε) (change : KontronFruChange)

theorem quiet_nil : ∀ one ∈ ([] : List (Exchange ε)), ¬IsFruWrite one := fun _ none => absurd none List.not_mem_nil

theorem device_not_write {one : Exchange ε} {target : Option (Address × Channel)}
    (asked : one.request = (targetDeviceId target).request) : ¬IsFruWrite one := by
  rintro ⟨-, cmd⟩
  rw [asked] at cmd
  exact absurd cmd (show ¬(0x01 : UInt8) = 0x12 by decide)

/-- Reserving sequences exchanges nothing. -/
theorem reserveKontronFruBudget_tells (needed : Nat) :
    Tells (reserveKontronFruBudget con.recorded needed) (fun _ log => log = []) (fun _ log => log = []) := by
  unfold reserveKontronFruBudget
  refine Tells.get_bind fun s => ?_
  split
  · split
    · exact Tells.pure rfl
    · exact Tells.throw rfl
  · split
    · exact Tells.throw rfl
    · refine Tells.modifyGet_bind (fun _ => rfl) fun granted => ?_
      split
      · exact Tells.pure rfl
      · exact Tells.throw rfl

theorem reserveAgain_tells (reserved : Bool) (stillNeeded : Nat) :
    Tells (reserveAgain con.recorded reserved stillNeeded) (fun _ log => log = []) (fun _ log => log = []) := by
  unfold reserveAgain
  split
  · refine Tells.modify_bind (fun _ => rfl) ?_
    refine Tells.bind (reserveKontronFruBudget_tells con stillNeeded) (fun _ _ told => told) ?_
    rintro _ _ rfl
    exact Tells.pure rfl
  · exact Tells.pure rfl

/-- A check that passes is one of the same device. -/
theorem kontronIdentity_tells :
    Tells (kontronIdentity con.recorded change.device.target (some change.identity))
      (fun _ log => ∃ one, log = [one] ∧ SameDevice change one ∧ change.identity.manufacturerId = 15000)
      (fun _ log => ∀ one ∈ log, ¬IsFruWrite one) := by
  unfold kontronIdentity IpmiConnection.oemDeviceId
  refine Tells.bind (F := fun _ log => ∀ one ∈ log, ¬IsFruWrite one)
    (Tells.adapt (Tells.mono (IpmiConnection.sendRecv_tells con _) (fun _ _ told => told) ?_))
    (fun _ _ told => told) ?_
  · rintro error log ⟨one, rfl, asked, -⟩
    exact List.forall_mem_singleton.mpr (device_not_write asked)
  rintro identity log ⟨one, rfl, asked, read⟩
  have quiet : ∀ other ∈ [one] ++ [], ¬IsFruWrite other :=
    List.forall_mem_singleton.mpr (device_not_write asked)
  split
  · exact Tells.throw quiet
  rename_i kontron
  rw [not_not] at kontron
  split
  · exact Tells.throw quiet
  · rename_i known
    have same : change.identity = identity := by simpa using known
    subst same
    exact Tells.pure ⟨one, rfl, ⟨asked, read⟩, kontron⟩

/-- A size that is read is that of the device. -/
theorem fruInfo_tells :
    Tells (ExceptT.adapt .info (fruInfo con.recorded change.device) : Stateful _ (KontronFruError ε) FruInfo)
      (fun info log => ∃ one, log = [one] ∧ one.request = (getFruInventoryAreaInfo change.device).request ∧
        (getFruInventoryAreaInfo change.device).readReply one.reply =
          (.ok info : Except (IpmiError ε FruCommandError) FruInfo))
      (fun _ log => ∀ one ∈ log, ¬IsFruWrite one) := by
  refine Tells.adapt (Tells.mono (IpmiConnection.sendRecv_tells con _) (fun _ _ told => told) ?_)
  rintro error log ⟨one, rfl, asked, -⟩
  exact List.forall_mem_singleton.mpr (info_not_write asked)

theorem confirmedWrite_tells (write : WriteFruData) :
    Tells (confirmedWrite con.recorded write) (fun _ log => ∃ one, log = [one] ∧ (writeStep write).Done one)
      (fun _ log => ∃ one, log = [one] ∧ (writeStep write).expected one ∧ ¬(writeStep write).passed one) := by
  unfold confirmedWrite
  refine Tells.bind (F := fun _ log => ∃ one, log = [one] ∧ (writeStep write).expected one ∧ ¬(writeStep write).passed one)
    (Tells.adapt (Tells.mono (IpmiConnection.sendRecv_tells con _) (fun _ _ told => told) ?_))
    (fun _ _ told => told) ?_
  · rintro error log ⟨one, rfl, asked, failed⟩
    exact ⟨one, rfl, asked, not_passed_unknown failed⟩
  rintro count log ⟨one, rfl, asked, returned⟩
  cases verified : write.verify count with
  | error error => exact Tells.throw ⟨one, rfl, asked, not_passed_unconfirmed returned verified⟩
  | ok => exact Tells.pure ⟨one, rfl, asked, count, returned, verified⟩

theorem writeFruData_new_eq {device : FruDevice} {info : FruInfo} {offset : UInt16} {data : List UInt8}
    {write : WriteFruData} (made : WriteFruData.new device info offset data = .ok write) :
    write = ⟨device, offset, data, info.access⟩ := by
  unfold WriteFruData.new at made
  cases valid : info.validate offset data.length with
  | error =>
    rw [valid] at made
    cases made
  | ok =>
    rw [valid] at made
    exact (Except.ok.inj made).symm

/-- The parts of an area are written in order, and nothing is written after one that was not confirmed. -/
theorem writeKontronChunks_tells (area : KontronArea) (start index : Nat) (parts : List (List UInt8)) :
    Tells (writeKontronChunks con.recorded change change.info area start index parts)
      (fun _ log => Completed ((partWrites change.device change.info start index parts).map writeStep) log)
      (fun _ log => ∃ writes after, log = writes ++ after ∧
        Along ((partWrites change.device change.info start index parts).map writeStep) writes ∧
        ∀ one ∈ after, ¬IsFruWrite one) := by
  induction parts generalizing index with
  | nil => exact Tells.pure .nil
  | cons part parts ih =>
    have whole : partWrites change.device change.info start index (part :: parts) =
        partWrite change.device change.info start (part, index) ::
          partWrites change.device change.info start (index + 1) parts := rfl
    rw [whole]
    unfold writeKontronChunks
    refine Tells.ofExcept_bind (fun _ _ => ⟨[], [], rfl, .stopped _, quiet_nil⟩) fun write made => ?_
    obtain rfl := writeFruData_new_eq (mapError_eq_ok.mp made)
    refine Tells.attempt_bind (confirmedWrite_tells con _) ?_ ?_
    · rintro _ log ⟨one, rfl, done⟩
      refine Tells.mono (ih (index + 1)) (fun _ _ completed => .cons done completed) ?_
      rintro _ log ⟨writes, after, rfl, along, quiet⟩
      exact ⟨one :: writes, after, rfl, .passed done along, quiet⟩
    · rintro reason log ⟨one, rfl, expected, failed⟩
      refine Tells.attempt_bind (readFruImage_tells con change.device) ?_ ?_
      · intro image log read
        refine Tells.throw ⟨[one], log, ?_, .failed _ expected failed, read.quiet⟩
        rw [List.append_nil]
      · intro error log quiet
        refine Tells.throw ⟨[one], log, ?_, .failed _ expected failed, quiet⟩
        rw [List.append_nil]

/-- What is written of a change, and read back after the last write of all. -/
theorem writeKontronAreas_tells (current desired : List UInt8) :
    Tells (writeKontronAreas con.recorded change current desired change.info)
      (fun _ log => ∃ writes after, log = writes ++ after ∧
        Completed ((changeWrites change current desired).map writeStep) writes ∧
        ReadWhole change.device desired after)
      (fun _ log => ∃ writes after, log = writes ++ after ∧
        Along ((changeWrites change current desired).map writeStep) writes ∧ ∀ one ∈ after, ¬IsFruWrite one) := by
  unfold writeKontronAreas
  dsimp only
  rw [changeWrites, List.map_append]
  refine Tells.bind (writeKontronChunks_tells con change .board _ 0 _) ?_ ?_
  · rintro error log ⟨writes, after, rfl, along, quiet⟩
    exact ⟨writes, after, rfl, along.extend _, quiet⟩
  rintro _ first board
  refine Tells.bind (writeKontronChunks_tells con change .product _ 0 _) ?_ ?_
  · rintro error log ⟨writes, after, rfl, along, quiet⟩
    exact ⟨first ++ writes, after, (List.append_assoc _ _ _).symm, Along.after board along, quiet⟩
  rintro _ second product
  have both : Completed ((areaWrites change current desired change.backup.board).map writeStep ++
      (areaWrites change current desired change.backup.product).map writeStep) (first ++ second) :=
    List.rel_append board product
  refine Tells.bind (F := fun _ log => ∀ one ∈ log, ¬IsFruWrite one) (Tells.adapt (readFruImage_tells con change.device)) ?_ ?_
  · intro error log quiet
    exact ⟨first ++ second, log, (List.append_assoc _ _ _).symm, both.along, quiet⟩
  intro readback log read
  have ended : ∀ more : List (Exchange ε), first ++ (second ++ (log ++ more)) = (first ++ second) ++ (log ++ more) := by
    intro more
    rw [List.append_assoc]
  split
  · refine Tells.throw ⟨first ++ second, log ++ [], ended [], both.along, ?_⟩
    rw [List.append_nil]
    exact read.quiet
  rename_i same
  rw [not_not] at same
  subst same
  split
  · refine Tells.throw ⟨first ++ second, log ++ [], ended [], both.along, ?_⟩
    rw [List.append_nil]
    exact read.quiet
  · refine Tells.pure ⟨first ++ second, log ++ [], ended [], both, ?_⟩
    rw [List.append_nil]
    exact read

/-- The device is checked once more before the parts are written. -/
theorem checkedWrite_tells (current desired : List UInt8) :
    Tells (do
        let _ ← kontronIdentity con.recorded change.device.target (some change.identity)
        writeKontronAreas con.recorded change current desired change.info)
      (fun _ log => ∃ again writes after, log = again :: (writes ++ after) ∧ SameDevice change again ∧
        Completed ((changeWrites change current desired).map writeStep) writes ∧ ReadWhole change.device desired after)
      (fun _ log => (∀ one ∈ log, ¬IsFruWrite one) ∨ ∃ again writes after, log = again :: (writes ++ after) ∧
        SameDevice change again ∧ Along ((changeWrites change current desired).map writeStep) writes ∧
        ∀ one ∈ after, ¬IsFruWrite one) := by
  refine Tells.bind (kontronIdentity_tells con change) (fun _ _ quiet => .inl quiet) ?_
  rintro _ log ⟨again, rfl, same, -⟩
  refine Tells.mono (writeKontronAreas_tells con change current desired) ?_ ?_
  · rintro _ log ⟨writes, after, rfl, completed, read⟩
    exact ⟨again, writes, after, rfl, same, completed, read⟩
  · rintro _ log ⟨writes, after, rfl, along, quiet⟩
    exact .inr ⟨again, writes, after, rfl, same, along, quiet⟩

end parts

/-! ### Guards -/

section guards
variable {change : KontronFruChange} {unchanged : List UInt8 → Prop} {current desired : List UInt8}
  {result : Except (KontronFruError ε) Unit} {log read : List (Exchange ε)}

/-- Nothing is written of an area that stays as it is. -/
theorem areaWrites_unchanged {span : Span} (same : span.of current = span.of desired) :
    areaWrites change current desired span = [] := by
  have cut : KontronFruChange.areaChunks current desired span = [] := if_pos same
  rw [areaWrites, cut]
  rfl

/-- The writes of an area that changes are of its bytes, in order. -/
theorem areaWrites_area {span : Span} (differs : span.of current ≠ span.of desired) (inside : span.stop ≤ desired.length)
    (small : desired.length ≤ 65535) : WritesArea change desired span (areaWrites change current desired span) := by
  have cut : KontronFruChange.areaChunks current desired span = chunks DEFAULT_CHUNK_BYTES (span.of desired) :=
    if_neg differs
  have positive : 0 < DEFAULT_CHUNK_BYTES := by decide
  have length : (span.of desired).length = span.stop - span.start := by
    rw [Span.of, List.length_take, List.length_drop]
    omega
  refine ⟨?_, ?_, ?_⟩
  · intro write among
    obtain ⟨part, -, rfl⟩ := List.mem_map.mp among
    exact ⟨rfl, rfl⟩
  · have data : (areaWrites change current desired span).map (·.data) = chunks DEFAULT_CHUNK_BYTES (span.of desired) := by
      rw [areaWrites, partWrites, List.map_map, cut]
      exact List.zipIdx_map_fst 0 _
    rw [data, flatten_chunks positive]
  · intro i write found
    rw [areaWrites, partWrites, cut, List.getElem?_map, List.getElem?_zipIdx, Option.map_map] at found
    obtain ⟨chunk, among, rfl⟩ := Option.map_eq_some_iff.mp found
    obtain ⟨within, same⟩ := List.getElem?_eq_some_iff.mp among
    have below := mul_lt_of_lt_divCeil positive (length_chunks _ (span.of desired) ▸ within)
    rw [length] at below
    have offset : (UInt16.ofNat (span.start + i * DEFAULT_CHUNK_BYTES)).toNat = span.start + i * DEFAULT_CHUNK_BYTES := by
      rw [UInt16.toNat_ofNat']
      omega
    have bytes : chunk = (desired.drop (span.start + i * DEFAULT_CHUNK_BYTES)).take
        (min DEFAULT_CHUNK_BYTES (span.stop - (span.start + i * DEFAULT_CHUNK_BYTES))) := by
      rw [← same]
      simp only [chunks, List.getElem_map, List.getElem_range, Span.of]
      rw [List.drop_take, List.drop_drop, List.take_take, Nat.sub_sub]
    have wide : chunk.length = min DEFAULT_CHUNK_BYTES (span.stop - (span.start + i * DEFAULT_CHUNK_BYTES)) := by
      rw [bytes, List.length_take, List.length_drop]
      omega
    simp only [Function.comp_apply, partWrite, Nat.zero_add]
    refine ⟨offset, ?_, ?_, ?_⟩
    · rw [offset, wide]
      exact bytes
    · omega
    · rw [offset]
      omega

/-- Without a write, and with an error, nothing has to be checked. -/
theorem Guarded.quiet {error : KontronFruError ε} (quiet : ∀ one ∈ log, ¬IsFruWrite one) :
    Guarded change unchanged desired (.error error) log where
  parts := by
    refine ⟨log, [], [], [], (List.append_nil log).symm, ?_, .stopped _, ?_, nofun⟩
    · rwa [List.append_nil]
    · rintro (writes | bad)
      · exact absurd rfl writes
      · cases bad

theorem Preflight.quiet (preflight : Preflight change current log) : ∀ one ∈ log, ¬IsFruWrite one := by
  obtain ⟨device, info, again, read, rfl, inspected, sized, whole, repeated⟩ := preflight.checks
  refine List.forall_mem_cons.mpr ⟨device_not_write inspected.1, List.forall_mem_cons.mpr ⟨info_not_write sized.1, ?_⟩⟩
  exact List.forall_mem_append.mpr ⟨whole.quiet, List.forall_mem_singleton.mpr (device_not_write repeated.1)⟩

/-- A device that was read has no more bytes than its size can say. -/
theorem Preflight.small (preflight : Preflight change current log) : current.length ≤ 65535 := by
  obtain ⟨device, info, again, read, rfl, inspected, sized, whole, repeated⟩ := preflight.checks
  obtain ⟨first, rest, found, rfl, asked, returned, reading⟩ := whole.read
  have bound := found.size.toNat_lt
  rw [reading.length]
  omega

/-- What is written after the checks, of an image that has the size of the one that is desired. -/
theorem Guarded.written {before writes after : List (Exchange ε)} (preflight : Preflight change current before)
    (same : unchanged current) (length : current.length = change.backup.image.length)
    (long : desired.length = change.backup.image.length) (quiet : ∀ one ∈ after, ¬IsFruWrite one)
    (along : Along ((changeWrites change current desired).map writeStep) writes)
    (ended : result = .ok () → Completed ((changeWrites change current desired).map writeStep) writes ∧
      ReadWhole change.device desired after) :
    Guarded change unchanged desired result (before ++ (writes ++ after)) where
  parts := by
    have small := preflight.small
    rw [length, ← long] at small
    refine ⟨before, writes, after, current, rfl, ?_, along, fun _ => ⟨same, preflight, ?_⟩, ended⟩
    · exact List.forall_mem_append.mpr ⟨preflight.quiet, quiet⟩
    · intro span area
      refine ⟨areaWrites_unchanged, fun differs => areaWrites_area differs ?_ small⟩
      rw [long]
      rcases List.mem_pair.mp area with rfl | rfl
      · exact change.backup.boardInside
      · exact change.backup.productInside

end guards

/-! ### Applying and restoring -/

section runs
variable (con : IpmiConnection σ ε) (change : KontronFruChange)

/-- After the device, its size and its image are as they should be, what is left is guarded. -/
theorem guardedWrite_tells {unchanged : List UInt8 → Prop} {current desired : List UInt8} {device info : Exchange ε}
    {read : List (Exchange ε)} (inspected : SameDevice change device) (sized : SameInfo change info)
    (whole : ReadWhole change.device current read) (kontron : change.identity.manufacturerId = 15000)
    (same : unchanged current) (length : current.length = change.backup.image.length)
    (long : desired.length = change.backup.image.length) :
    Tells (do
        let _ ← kontronIdentity con.recorded change.device.target (some change.identity)
        writeKontronAreas con.recorded change current desired change.info)
      (fun result log => Guarded change unchanged desired (.ok result) (device :: info :: (read ++ log)))
      (fun error log => Guarded change unchanged desired (.error error) (device :: info :: (read ++ log))) := by
  have before : ∀ {again : Exchange ε}, SameDevice change again →
      Preflight change current (device :: info :: (read ++ [again])) := fun repeated =>
    ⟨⟨device, info, _, read, rfl, inspected, sized, whole, repeated⟩, kontron⟩
  have joined : ∀ (again : Exchange ε) (more : List (Exchange ε)),
      device :: info :: (read ++ again :: more) = (device :: info :: (read ++ [again])) ++ more := by
    intro again more
    rw [List.cons_append, List.cons_append, List.append_assoc, List.singleton_append]
  refine Tells.mono (checkedWrite_tells con change current desired) ?_ ?_
  · rintro _ log ⟨again, writes, after, rfl, repeated, completed, readback⟩
    rw [joined]
    exact .written (before repeated) same length long readback.quiet completed.along fun _ => ⟨completed, readback⟩
  · rintro error log (quiet | ⟨again, writes, after, rfl, repeated, along, quiet⟩)
    · refine .quiet (List.forall_mem_cons.mpr ⟨device_not_write inspected.1, ?_⟩)
      exact List.forall_mem_cons.mpr ⟨info_not_write sized.1, List.forall_mem_append.mpr ⟨whole.quiet, quiet⟩⟩
    · rw [joined]
      exact .written (before repeated) same length long quiet along nofun

theorem applyReserved_tells (readback : Nat) (reserved : Bool) :
    Tells (applyReserved con.recorded change readback reserved)
      (fun result log => Guarded change (· = change.backup.image) change.proposed (.ok result) log)
      (fun error log => Guarded change (· = change.backup.image) change.proposed (.error error) log) := by
  unfold applyReserved
  refine Tells.bind (kontronIdentity_tells con change) (fun _ _ quiet => .quiet quiet) ?_
  rintro _ _ ⟨device, rfl, inspected, kontron⟩
  have first := device_not_write inspected.1
  refine Tells.bind (fruInfo_tells con change) (fun _ _ quiet => .quiet (List.forall_mem_cons.mpr ⟨first, quiet⟩)) ?_
  rintro info _ ⟨one, rfl, asked, returned⟩
  have second := info_not_write asked
  split
  · exact Tells.throw (.quiet (List.forall_mem_cons.mpr ⟨first, List.forall_mem_singleton.mpr second⟩))
  rename_i known
  rw [not_not] at known
  subst known
  refine Tells.get_bind fun beforeRead => ?_
  refine Tells.bind (F := fun _ log => ∀ one ∈ log, ¬IsFruWrite one) (Tells.adapt (readFruImage_tells con change.device))
    (fun _ _ quiet => .quiet (List.forall_mem_cons.mpr ⟨first, List.forall_mem_cons.mpr ⟨second, quiet⟩⟩)) ?_
  intro current read whole
  have third := whole.quiet
  split
  · refine Tells.throw (.quiet (List.forall_mem_cons.mpr ⟨first, List.forall_mem_cons.mpr ⟨second, ?_⟩⟩))
    rwa [List.append_nil]
  rename_i same
  rw [not_not] at same
  refine Tells.get_bind fun afterRead => ?_
  refine Tells.bind (reserveAgain_tells con reserved _) ?_ ?_
  · rintro error _ rfl
    refine .quiet (List.forall_mem_cons.mpr ⟨first, List.forall_mem_cons.mpr ⟨second, ?_⟩⟩)
    rwa [List.append_nil]
  · rintro _ _ rfl
    exact guardedWrite_tells con change inspected ⟨asked, returned⟩ whole kontron same (congrArg List.length same)
      change.sameLength

/-- What was held back is given up at the end, whatever the end is, and the end stays as it was. -/
theorem released_tells {P : Except (KontronFruError ε) Unit → List (Exchange ε) → Prop}
    {x : Stateful (σ × List (Exchange ε)) (KontronFruError ε) Unit} (reserved : Bool)
    (tells : Tells x (fun value log => P (.ok value) log) (fun error log => P (.error error) log)) :
    Tells (x.attempt >>= fun result =>
        if reserved then do
          modify con.recorded.releaseIpmbSequences
          MonadExcept.ofExcept result
        else MonadExcept.ofExcept result)
      (fun value log => P (.ok value) log) (fun error log => P (.error error) log) := by
  have ends : ∀ result log, P result log →
      Tells (if reserved then do
            modify con.recorded.releaseIpmbSequences
            MonadExcept.ofExcept result
          else MonadExcept.ofExcept result)
        (fun value more => P (.ok value) (log ++ more)) (fun error more => P (.error error) (log ++ more)) := by
    intro result log holds
    have kept : Tells (MonadExcept.ofExcept result : Stateful (σ × List (Exchange ε)) (KontronFruError ε) Unit)
        (fun value more => P (.ok value) (log ++ more)) (fun error more => P (.error error) (log ++ more)) := by
      rw [← List.append_nil log] at holds
      refine Tells.ofExcept ?_ ?_
      · rintro error rfl
        exact holds
      · rintro value rfl
        exact holds
    split
    · exact Tells.modify_bind (fun _ => rfl) kept
    · exact kept
  exact Tells.attempt_bind tells (fun _ log holds => ends _ log holds) fun _ log holds => ends _ log holds

theorem applyKontronFruChange_tells :
    Tells (applyKontronFruChange con.recorded change)
      (fun result log => Guarded change (· = change.backup.image) change.proposed (.ok result) log)
      (fun error log => Guarded change (· = change.backup.image) change.proposed (.error error) log) := by
  unfold applyKontronFruChange
  refine Tells.bind (reserveKontronFruBudget_tells con _) ?_ ?_
  · rintro _ _ rfl
    exact .quiet quiet_nil
  rintro reserved _ rfl
  exact released_tells con reserved (applyReserved_tells con change _ reserved)

/-- An image of the size of the backup that has the same bytes outside of the two areas. -/
structure AgreesOutside (change : KontronFruChange) (current : List UInt8) : Prop where
  length : current.length = change.backup.image.length
  outside : ∀ i, ¬(change.backup.board.start ≤ i ∧ i < change.backup.board.stop) →
    ¬(change.backup.product.start ≤ i ∧ i < change.backup.product.stop) → current[i]? = change.backup.image[i]?

theorem agreesOutside_of_unchanged {change : KontronFruChange} {current : List UInt8}
    (length : current.length = change.backup.image.length) (unchanged : changedOutside change current = false) :
    AgreesOutside change current where
  length := length
  outside i offBoard offProduct := by
    by_cases inside : i < current.length
    · have within : i < change.backup.image.length := length ▸ inside
      have among : ((current[i], change.backup.image[i]), i) ∈ (current.zip change.backup.image).zipIdx := by
        rw [List.mem_zipIdx_iff_getElem?, List.getElem?_eq_getElem (by rw [List.length_zip]; omega), List.getElem_zip]
      have same := List.any_eq_false.mp unchanged _ among
      simp only [Span.contains, decide_eq_false offBoard, decide_eq_false offProduct, Bool.not_false, Bool.true_and,
        bne_iff_ne, ne_eq, not_not] at same
      rw [List.getElem?_eq_getElem inside, List.getElem?_eq_getElem within, same]
    · rw [List.getElem?_eq_none (Nat.le_of_not_lt inside), List.getElem?_eq_none (by omega)]

theorem restoreKontronFruBackup_tells :
    Tells (restoreKontronFruBackup con.recorded change)
      (fun result log => Guarded change (AgreesOutside change) change.backup.image (.ok result) log)
      (fun error log => Guarded change (AgreesOutside change) change.backup.image (.error error) log) := by
  unfold restoreKontronFruBackup
  refine Tells.bind (kontronIdentity_tells con change) (fun _ _ quiet => .quiet quiet) ?_
  rintro _ _ ⟨device, rfl, inspected, kontron⟩
  have first := device_not_write inspected.1
  refine Tells.bind (fruInfo_tells con change) (fun _ _ quiet => .quiet (List.forall_mem_cons.mpr ⟨first, quiet⟩)) ?_
  rintro info _ ⟨one, rfl, asked, returned⟩
  have second := info_not_write asked
  split
  · exact Tells.throw (.quiet (List.forall_mem_cons.mpr ⟨first, List.forall_mem_singleton.mpr second⟩))
  rename_i known
  rw [not_not] at known
  subst known
  refine Tells.bind (F := fun _ log => ∀ one ∈ log, ¬IsFruWrite one) (Tells.adapt (readFruImage_tells con change.device))
    (fun _ _ quiet => .quiet (List.forall_mem_cons.mpr ⟨first, List.forall_mem_cons.mpr ⟨second, quiet⟩⟩)) ?_
  intro current read whole
  have third := whole.quiet
  split
  · refine Tells.throw (.quiet (List.forall_mem_cons.mpr ⟨first, List.forall_mem_cons.mpr ⟨second, ?_⟩⟩))
    rwa [List.append_nil]
  rename_i same
  rw [not_or, not_not, Bool.not_eq_true] at same
  refine Tells.bind (reserveKontronFruBudget_tells con _) ?_ ?_
  · rintro error _ rfl
    refine .quiet (List.forall_mem_cons.mpr ⟨first, List.forall_mem_cons.mpr ⟨second, ?_⟩⟩)
    rwa [List.append_nil]
  rintro reserved _ rfl
  have agrees := agreesOutside_of_unchanged same.1 same.2
  exact released_tells (P := fun result log => Guarded change (AgreesOutside change) change.backup.image result
      (device :: one :: (read ++ log))) con reserved
    (guardedWrite_tells con change inspected ⟨asked, returned⟩ whole kontron agrees same.1 rfl)

/-- What a change of a FRU leads to, and what it exchanged. -/
def GuardedRun (unchanged : List UInt8 → Prop) (desired : List UInt8)
    (ran : Except (KontronFruError ε) Unit × σ × List (Exchange ε)) : Prop :=
  Guarded change unchanged desired ran.1 ran.2.2

/-- Applying a change and restoring its backup write nothing before the checks have passed, and each part of an
area that changes once; and they return only after the image that was written was read back. -/
theorem kontron_changes_guarded (s : σ) :
    GuardedRun change (· = change.backup.image) change.proposed
        ((applyKontronFruChange con.recorded change).eval (s, [])) ∧
      GuardedRun change (AgreesOutside change) change.backup.image
        ((restoreKontronFruBackup con.recorded change).eval (s, [])) := by
  constructor
  · exact Tells.result (applyKontronFruChange_tells con change) s
  · exact Tells.result (restoreKontronFruBackup_tells con change) s

end runs


end IpmiRs.Kontron
