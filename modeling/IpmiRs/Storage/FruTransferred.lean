import IpmiRs.Storage.FruServed

/-! FRU images, read and written whole: what a transfer that returns has moved,
and what one that fails leaves behind. -/
namespace IpmiRs.Storage
open Connection Library Library.Bytes Library.Chunks Library.Memory Library.Script Library.Stateful Library.Logged

/-! ### A device with a memory -/

/-- A device of an access whose state is its memory. -/
def fruConnection (access : FruAccess) (limit : Nat) : IpmiConnection (List UInt8) Unit where
  transact request memory :=
    match request.cmd, request.data with
    | 0x10, _ => (.ok (request.answer 0 (toLe 2 memory.length ++
        [if access = .word then 1 else 0])), memory)
    | 0x11, [_, low, high, count] =>
      if limit < count.toNat then (.ok (request.answer 0xC8 []), memory)
      else (.ok (request.answer 0 (UInt8.ofNat (count.toNat / access.unit) ::
        bytesAt memory (ofLe [low, high] * access.unit) count.toNat)), memory)
    | 0x12, _ :: low :: high :: bytes =>
      (.ok (request.answer 0 [UInt8.ofNat (bytes.length / access.unit)]),
        overwrite memory (ofLe [low, high] * access.unit) bytes)
    | _, _ => (.ok (request.answer 0xC1 []), memory)

/-- The place of a transfer that starts at a whole unit. -/
theorem units_offset (access : FruAccess) {offset : UInt16} (aligned : offset.toNat % access.unit = 0) :
    ofLe (toLe 2 (offset / UInt16.ofNat access.unit).toNat) * access.unit = offset.toNat := by
  rw [ofLe_toLe_of_lt (UInt16.toNat_lt _), UInt16.toNat_div, UInt16.toNat_ofNat']
  cases access <;> simp only [FruAccess.unit, Nat.reducePow, Nat.reduceMod] at aligned ⊢ <;> omega

theorem fruConnection_read (device : FruDevice) (access : FruAccess) (limit : Nat) (memory : List UInt8)
    (offset : UInt16) (count : UInt8) :
    let request := (ReadFruData.mk device offset count access).command.request
    (fruConnection access limit).transact request memory =
      if limit < count.toNat then (.ok (request.answer 0xC8 []), memory)
      else (.ok (request.answer 0 (UInt8.ofNat (count.toNat / access.unit) :: bytesAt memory
        (ofLe (toLe 2 (offset / UInt16.ofNat access.unit).toNat) * access.unit) count.toNat)), memory) := rfl

theorem fruConnection_serves (device : FruDevice) (access : FruAccess) (limit : Nat) :
    ServesFru (fruConnection access limit) device access limit id where
  info memory := by
    refine ⟨if access = .word then 1 else 0, ?_, Request.answered_answer _ _ _, rfl⟩
    cases access <;> decide
  served memory offset count within short := by
    have read := fruConnection_read device access limit memory offset count
    dsimp only at read ⊢
    rw [if_neg (Nat.not_lt.mpr short), units_offset access within.aligned] at read
    rw [read]
    exact ⟨Request.answered_answer _ _ _, rfl⟩
  refused memory offset count within long := by
    have read := fruConnection_read device access limit memory offset count
    dsimp only at read ⊢
    rw [if_pos long] at read
    rw [read]
    exact ⟨⟨0xC8, by decide, [], Request.answered_answer _ _ _⟩, rfl⟩

theorem fruConnection_stores (device : FruDevice) (access : FruAccess) (limit : Nat) :
    StoresFru (fruConnection access limit) device access id where
  stored memory _ bytes within _ :=
    congrArg (fun place => overwrite memory place bytes) (units_offset access within.aligned)

/-! ### Whole transfers -/

section
variable {σ ε : Type} {device : FruDevice} {info : FruInfo} {image : List UInt8}

/-- What a write of an image sends, and what its result tells of it: each part is sent at most once and
only after the one before it was acknowledged, and what is confirmed was acknowledged. -/
structure WrittenOnce (device : FruDevice) (info : FruInfo) (image : List UInt8)
    (result : Except (FruWriteError ε) Unit) (log : List (Exchange ε)) : Prop where
  once : (log.map (·.request)).Nodup
  along : Along ((imageWrites device info image).map writeStep) log
  refused : ¬Accepted info image → log = [] ∧ ∃ error, result = .error error
  acknowledged : Accepted info image →
    (result = .ok () ↔ Completed ((imageWrites device info image).map writeStep) log)
  failed : ∀ error, result = .error error → Accepted info image →
    ∃ confirmed, error.bytesConfirmed = some confirmed ∧ AckedBefore device info image confirmed log

/-- The requests of the parts that were sent are the first of those of an image. -/
theorem along_requests {writes : List WriteFruData} {log : List (Exchange ε)}
    (along : Along (writes.map writeStep) log) :
    log.map (·.request) <+: writes.map (·.command.request) := by
  refine Along.map_prefix ?_ along
  rw [List.forall₂_map_left_iff, List.forall₂_map_right_iff]
  exact List.forall₂_same.mpr fun write _ event expected => expected

theorem writeFruImage_once (con : IpmiConnection σ ε) (device : FruDevice) (info : FruInfo) (image : List UInt8) (s : σ) :
    WrittenOnce device info image ((writeFruImage con.recorded device info image).eval (s, [])).1
      ((writeFruImage con.recorded device info image).eval (s, [])).2.2 := by
  refine Tells.result (P := WrittenOnce device info image)
    (Tells.mono (writeFruImage_tells con device info image) ?_ ?_) s
  · rintro _ log ⟨accepted, completed⟩
    refine ⟨?_, completed.along, fun other => absurd accepted other, fun _ => iff_of_true rfl completed,
      fun _ bad => (nomatch bad)⟩
    exact (along_requests completed.along).sublist.nodup (imageWrites_distinct accepted.1)
  · rintro error log (⟨other, rfl⟩ | ⟨accepted, unfinished⟩)
    · exact ⟨List.nodup_nil, .stopped _, fun _ => ⟨rfl, error, rfl⟩, fun accepted => absurd accepted other,
        fun _ _ accepted => absurd accepted other⟩
    · have along := unfinished.along
      refine ⟨(along_requests along).sublist.nodup (imageWrites_distinct accepted.1), along,
        fun other => absurd accepted other,
        fun _ => iff_of_false (fun bad => nomatch bad) unfinished.not_completed, ?_⟩
      rintro _ same -
      cases same
      exact unfinished.ackedBefore

/-- FRU images are transferred whole. From a device that serves a memory of at least one byte, in whole
units, the memory is read; an image that is read from any device is of the size it told, every piece follows
the one before it, and every reply on the way had as many bytes as its count and the request say. Of an image
that is written each part is sent at most once, what a failure reports as confirmed was acknowledged before
it, and a device that stores what it acknowledges holds an image that was acknowledged in full. -/
theorem fru_image_transferred (con : IpmiConnection σ ε) (device : FruDevice) :
    (∀ access limit memory s, ServesFru con device access limit memory → access.unit ≤ limit →
      0 < (memory s).length → (memory s).length ≤ 65535 → (memory s).length % access.unit = 0 →
      ((readFruImage con device).eval s).1 = .ok (memory s)) ∧
    (∀ s image, ((readFruImage con.recorded device).eval (s, [])).1 = .ok image →
      ∃ (first : Exchange ε) (rest : List (Exchange ε)) (info : FruInfo),
        ((readFruImage con.recorded device).eval (s, [])).2.2 = first :: rest ∧
        (getFruInventoryAreaInfo device).readReply first.reply =
          (.ok info : Except (IpmiError ε FruCommandError) FruInfo) ∧
        image.length = info.size.toNat ∧ Reading device info [] rest image ∧
        ∀ one ∈ rest, Agrees info one) ∧
    (∀ info image s, WrittenOnce device info image
      ((writeFruImage con.recorded device info image).eval (s, [])).1
      ((writeFruImage con.recorded device info image).eval (s, [])).2.2) ∧
    ∀ info image memory s, StoresFru con device info.access memory → (memory s).length = info.size.toNat →
      ((writeFruImage con device info image).eval s).1 = .ok () →
      memory ((writeFruImage con device info image).eval s).2 = image := by
  refine ⟨?_, ?_, writeFruImage_once con device, ?_⟩
  · intro access limit memory s serves unit some bound whole
    have served := Ends.evaluated (readFruImage_served serves unit some (Nat.lt_succ_of_le bound) whole)
    cases result : ((readFruImage con device).eval s).1 with
    | ok image => rw [(served.1 image result).1]
    | error error => exact (served.2 error result).elim
  · intro s image returned
    have told : ∀ read : List UInt8, ((readFruImage con.recorded device).eval (s, [])).1 = .ok read →
        ReadWhole device read ((readFruImage con.recorded device).eval (s, [])).2.2 :=
      Tells.result (P := fun result log => ∀ read, result = .ok read → ReadWhole device read log)
        (Tells.mono (readFruImage_tells con device) (fun read log whole _ same => Except.ok.inj same ▸ whole)
          (fun _ _ _ _ bad => (nomatch bad))) s
    obtain ⟨first, rest, info, log, -, known, reading⟩ := (told image returned).read
    exact ⟨first, rest, info, log, known, reading.length, reading, reading.agrees⟩
  · intro info image memory s stores wide returned
    exact (Ends.evaluated (writeFruImage_stores stores wide)).1 () returned

/-- A device with a word-addressed memory of which it serves three bytes at a time. -/
theorem fru_image_transferred_words :
    let con := fruConnection .word 3
    let device : FruDevice := ⟨0, none, .zero⟩
    ServesFru con device .word 3 id ∧ StoresFru con device .word id ∧
    ((readFruImage con device).eval [1, 0, 0, 0, 0, 0, 0, 0xFF, 7, 7]).1 = .ok [1, 0, 0, 0, 0, 0, 0, 0xFF, 7, 7] ∧
    ((writeFruImage con device ⟨10, .word⟩ [1, 0, 0, 0, 0, 0, 0, 0xFF, 7, 7]).eval
      [9, 9, 9, 9, 9, 9, 9, 9, 9, 9]).2 = [1, 0, 0, 0, 0, 0, 0, 0xFF, 7, 7] := by
  have serves := fruConnection_serves ⟨0, none, .zero⟩ .word 3
  have stores := fruConnection_stores ⟨0, none, .zero⟩ .word 3
  refine ⟨serves, stores, ?_, ?_⟩
  · exact (fru_image_transferred _ ⟨0, none, .zero⟩).1 .word 3 id _ serves (by decide) (by decide) (by decide)
      (by decide)
  · exact (fru_image_transferred _ ⟨0, none, .zero⟩).2.2.2 ⟨10, .word⟩ _ id _ stores rfl (by decide +kernel)

/-- Neither an empty memory nor one with half a word is read, though the devices serve them. -/
theorem fru_image_not_transferred :
    let device : FruDevice := ⟨0, none, .zero⟩
    (ServesFru (fruConnection .byte 16) device .byte 16 id ∧
      ((readFruImage (fruConnection .byte 16) device).eval []).1 ≠ .ok []) ∧
    (ServesFru (fruConnection .word 16) device .word 16 id ∧
      ((readFruImage (fruConnection .word 16) device).eval [7]).1 = .error (.transfer .unaligned)) :=
  ⟨⟨fruConnection_serves _ _ _, fun bad => nomatch bad⟩, ⟨fruConnection_serves _ _ _, rfl⟩⟩

end
end IpmiRs.Storage
