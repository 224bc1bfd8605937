import IpmiRs.Recorded
import IpmiRs.Storage.FruTransfer

/-! What a read of a FRU image exchanges: pieces that follow each other, each
of the length that was asked for, and requests that the device found too long. -/
namespace IpmiRs.Storage
open Connection Library Library.Bytes Library.Stateful Library.Logged

variable {σ ε : Type}

/-- A command that writes to a FRU. -/
def IsFruWrite (one : Exchange ε) : Prop := one.request.netfnRaw = 0x0A ∧ one.request.cmd = 0x12

/-- A request for so many bytes that follow those that are there. -/
def readAfter (device : FruDevice) (info : FruInfo) (bytes : List UInt8) (count : UInt8) : ReadFruData :=
  ⟨device, UInt16.ofNat bytes.length, count, info.access⟩

/-- The exchanges that read the rest of an image. -/
inductive Reading (device : FruDevice) (info : FruInfo) :
    List UInt8 → List (Exchange ε) → List UInt8 → Prop
  | whole {bytes : List UInt8} (complete : bytes.length = info.size.toNat) : Reading device info bytes [] bytes
  | piece {bytes more image : List UInt8} {one : Exchange ε} {log : List (Exchange ε)} (count units : UInt8)
      (asked : one.request = (readAfter device info bytes count).command.request)
      (answered : one.request.Answered one.reply 0 (units :: more))
      (counted : units.toNat * info.access.unit = count.toNat) (long : more.length = count.toNat)
      (rest : Reading device info (bytes ++ more) log image) : Reading device info bytes (one :: log) image
  | tooLong {bytes image : List UInt8} {one : Exchange ε} {log : List (Exchange ε)} (count : UInt8)
      (error : IpmiError ε FruCommandError)
      (asked : one.request = (readAfter device info bytes count).command.request)
      (failed : (readAfter device info bytes count).command.readReply one.reply = .error error)
      (refused : shrinkable error = true)
      (rest : Reading device info bytes log image) : Reading device info bytes (one :: log) image

/-- A whole image was read, after the size and the access of the device. -/
structure ReadWhole (device : FruDevice) (image : List UInt8) (log : List (Exchange ε)) : Prop where
  read : ∃ (first : Exchange ε) (rest : List (Exchange ε)) (info : FruInfo), log = first :: rest ∧
    first.request = (getFruInventoryAreaInfo device).request ∧
    (getFruInventoryAreaInfo device).readReply first.reply =
      (.ok info : Except (IpmiError ε FruCommandError) FruInfo) ∧
    Reading device info [] rest image

section reading
variable {device : FruDevice} {info : FruInfo} {bytes image : List UInt8} {log : List (Exchange ε)}

/-- What is read is the whole image. -/
theorem Reading.length (reading : Reading device info bytes log image) :
    image.length = info.size.toNat := by
  induction reading with
  | whole complete => exact complete
  | piece _ _ _ _ _ _ _ ih => exact ih
  | tooLong _ _ _ _ _ _ ih => exact ih

theorem read_not_write (read : ReadFruData) {one : Exchange ε} (asked : one.request = read.command.request) :
    ¬IsFruWrite one := by
  rintro ⟨-, cmd⟩
  rw [asked] at cmd
  exact absurd cmd (show ¬(0x11 : UInt8) = 0x12 by decide)

theorem info_not_write {one : Exchange ε} (asked : one.request = (getFruInventoryAreaInfo device).request) :
    ¬IsFruWrite one := by
  rintro ⟨-, cmd⟩
  rw [asked] at cmd
  exact absurd cmd (show ¬(0x10 : UInt8) = 0x12 by decide)

theorem Reading.quiet (reading : Reading device info bytes log image) : ∀ one ∈ log, ¬IsFruWrite one := by
  induction reading with
  | whole => exact fun _ none => absurd none List.not_mem_nil
  | piece _ _ asked _ _ _ _ ih => exact List.forall_mem_cons.mpr ⟨read_not_write _ asked, ih⟩
  | tooLong _ _ asked _ _ _ ih => exact List.forall_mem_cons.mpr ⟨read_not_write _ asked, ih⟩

theorem ReadWhole.quiet (whole : ReadWhole device image log) : ∀ one ∈ log, ¬IsFruWrite one := by
  obtain ⟨first, rest, info, rfl, asked, -, reading⟩ := whole.read
  exact List.forall_mem_cons.mpr ⟨info_not_write asked, reading.quiet⟩

/-- A response that is read has its count before the bytes. -/
theorem read_parse {read : ReadFruData} {data : List UInt8} {response : ReadFruDataResponse}
    (parsed : read.command.parse data = .ok response) : data = response.count :: response.data := by
  cases data with
  | nil => cases parsed
  | cons count bytes =>
    simp only [ReadFruData.command] at parsed
    split at parsed
    · cases parsed
    · cases parsed
      rfl

/-- Bytes that are verified answer the very request. -/
theorem verified_piece {read : ReadFruData} {one : Exchange ε} {response : ReadFruDataResponse}
    {more : List UInt8} (asked : one.request = read.command.request)
    (returned : read.command.readReply one.reply = (.ok response : Except (IpmiError ε FruCommandError) _))
    (verified : read.verify response = .ok more) :
    one.request.Answered one.reply 0 (response.count :: more) ∧
      response.count.toNat * read.access.unit = read.count.toNat ∧ more.length = read.count.toNat := by
  obtain ⟨reply, replied, netfn, cmd, cc, parsed⟩ := IpmiCommand.readReply_eq_ok.mp returned
  unfold ReadFruData.verify at verified
  split at verified
  · cases verified
  split at verified
  · cases verified
  rename_i counted long
  cases verified
  exact ⟨⟨reply, replied, asked ▸ netfn, asked ▸ cmd, cc, read_parse parsed⟩, not_not.mp counted,
    not_not.mp long⟩

/-- What a reply says of its bytes, if it has any: their count in units, and that they are as many
as were asked for. -/
def Agrees (info : FruInfo) (one : Exchange ε) : Prop :=
  ∀ data, one.request.Answered one.reply 0 data → ∃ units more asked, data = units :: more ∧
    one.request.data.getLast? = some asked ∧ units.toNat * info.access.unit = asked.toNat ∧
    more.length = asked.toNat

theorem readAfter_asks (count : UInt8) :
    (readAfter device info bytes count).command.request.data.getLast? = some count := by
  rw [show (readAfter device info bytes count).command.request.data = (device.id ::
    toLe 2 (UInt16.ofNat bytes.length / UInt16.ofNat info.access.unit).toNat) ++ [count] from rfl,
    List.getLast?_concat]

theorem answered_unique {request : Request} {reply : Except ε Response} {first second : UInt8}
    {data others : List UInt8} (answered : request.Answered reply first data)
    (again : request.Answered reply second others) : first = second ∧ data = others := by
  obtain ⟨response, rfl, -, -, rfl, rfl⟩ := answered
  obtain ⟨same, replied, -, -, rfl, rfl⟩ := again
  cases replied
  exact ⟨rfl, rfl⟩

/-- A reply without a completion code never finds a request too long. -/
theorem answered_not_shrinkable {command : IpmiCommand ReadFruDataResponse FruCommandError}
    {reply : Except ε Response} {data : List UInt8} {error : IpmiError ε FruCommandError}
    (answered : command.request.Answered reply 0 data) (failed : command.readReply reply = .error error) :
    shrinkable error = false := by
  obtain ⟨response, rfl, netfn, cmd, success, -⟩ := answered
  have same : ¬(response.netfnRaw ≠ command.message.netfn.responseValue ∨
      response.cmd ≠ command.message.cmd) := by
    rw [not_or, not_not, not_not]
    exact ⟨netfn, cmd⟩
  have read : command.read response = .error error := failed
  rw [IpmiCommand.read, if_neg same, (CompletionErrorCode.ofByte_eq_none _).mpr success] at read
  cases parsed : command.parse response.data with
  | ok output =>
    simp only [parsed] at read
    cases read
  | error reason =>
    simp only [parsed] at read
    cases read
    rfl

/-- In what led to a whole image no reply disagrees. -/
theorem Reading.agrees (reading : Reading device info bytes log image) : ∀ one ∈ log, Agrees info one := by
  induction reading with
  | whole => exact fun _ none => absurd none List.not_mem_nil
  | piece count units asked answered counted long _ ih =>
    refine List.forall_mem_cons.mpr ⟨fun data again => ?_, ih⟩
    obtain ⟨-, rfl⟩ := answered_unique answered again
    exact ⟨units, _, count, rfl, asked ▸ readAfter_asks count, counted, long⟩
  | tooLong count error asked failed refused _ ih =>
    refine List.forall_mem_cons.mpr ⟨fun data answered => ?_, ih⟩
    rw [answered_not_shrinkable (asked ▸ answered) failed] at refused
    cases refused

end reading

section reads
variable {σ : Type} (con : IpmiConnection σ ε) (device : FruDevice)

theorem readFruChunks_tells (info : FruInfo) (turns : Nat) {chunkSize : Nat} {bytes : List UInt8}
    (small : chunkSize ≤ DEFAULT_CHUNK_BYTES) (inside : bytes.length ≤ info.size.toNat)
    (enough : info.size.toNat - bytes.length + chunkSize ≤ turns) :
    Tells (readFruChunks con.recorded device info turns chunkSize bytes)
      (fun image log => Reading device info bytes log image) (fun _ log => ∀ one ∈ log, ¬IsFruWrite one) := by
  have nothing : ∀ one ∈ ([] : List (Exchange ε)), ¬IsFruWrite one :=
    fun _ none => absurd none List.not_mem_nil
  induction turns generalizing chunkSize bytes with
  | zero => exact Tells.pure (.whole (by omega))
  | succ turns ih =>
    unfold readFruChunks
    split
    · rename_i more
      refine Tells.ofExcept_bind (fun _ _ => nothing) fun read made => ?_
      obtain ⟨rfl, some⟩ := ReadFruData.new_eq device (mapError_eq_ok.mp made)
      have count : (UInt8.ofNat (min chunkSize (info.size.toNat - bytes.length))).toNat =
          min chunkSize (info.size.toNat - bytes.length) := by
        simp [DEFAULT_CHUNK_BYTES] at small ⊢
        omega
      refine Tells.attempt_bind (IpmiConnection.sendRecv_tells con _) ?_ ?_
      · rintro response log ⟨one, rfl, asked, returned⟩
        have quiet := read_not_write _ asked
        refine Tells.ofExcept_bind (fun _ _ => List.forall_mem_singleton.mpr quiet) fun bytes verified => ?_
        obtain ⟨answered, counted, long⟩ := verified_piece asked returned (mapError_eq_ok.mp verified)
        have length : bytes.length = min chunkSize _ := long.trans count
        refine Tells.mono (ih small ?_ ?_) ?_ ?_
        · rw [List.length_append]
          omega
        · rw [List.length_append]
          omega
        · intro image log reading
          exact .piece _ _ asked answered counted long reading
        · intro error log rest
          exact List.forall_mem_cons.mpr ⟨quiet, rest⟩
      · rintro error log ⟨one, rfl, asked, failed⟩
        have quiet := read_not_write _ asked
        dsimp only
        split
        · rename_i shorter
          have unit : 0 < info.access.unit := by cases info.access <;> decide
          refine Tells.mono (ih ?_ inside ?_) ?_ ?_
          · omega
          · omega
          · intro image log reading
            exact .tooLong _ error asked failed shorter.1 reading
          · intro error log rest
            exact List.forall_mem_cons.mpr ⟨quiet, rest⟩
        · exact Tells.throw (List.forall_mem_singleton.mpr quiet)
    · exact Tells.pure (.whole (by omega))

/-- A read that returns was of a whole image, and no read ever writes. -/
theorem readFruImage_tells :
    Tells (readFruImage con.recorded device) (fun image log => ReadWhole device image log)
      (fun _ log => ∀ one ∈ log, ¬IsFruWrite one) := by
  unfold readFruImage fruInfo
  refine Tells.bind (F := fun _ log => ∀ one ∈ log, ¬IsFruWrite one)
    (Tells.adapt (Tells.mono (IpmiConnection.sendRecv_tells con _) (fun _ _ told => told) ?_))
    (fun _ _ told => told) ?_
  · rintro error log ⟨one, rfl, asked, -⟩
    exact List.forall_mem_singleton.mpr (info_not_write asked)
  · rintro info log ⟨one, rfl, asked, returned⟩
    have quiet := info_not_write asked
    split
    · exact Tells.throw (List.forall_mem_singleton.mpr quiet)
    · refine Tells.mono (readFruChunks_tells con device info _ (Nat.le_refl _) (Nat.zero_le _) (Nat.le_refl _)) ?_ ?_
      · intro image log reading
        exact ⟨one, log, info, rfl, asked, returned, reading⟩
      · intro error log rest
        exact List.forall_mem_cons.mpr ⟨quiet, rest⟩

end reads

end IpmiRs.Storage
