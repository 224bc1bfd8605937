import IpmiRs.Kontron.FruChange

/-! The sequences a checked FRU change needs, over any connection that keeps a
meter. What is held back before the first write pays for the identity check,
the writes and as many read-back commands as the read before them took. -/
namespace IpmiRs.Kontron
open Connection App Library Library.Chunks Library.Stateful Storage

/-! ### The calls of a change -/

section
variable {ε : Type}

def IsWrite (device : FruDevice) (call : Exchange ε) : Prop :=
  ∃ write : WriteFruData, write.device = device ∧ call.request = write.command.request

def IsRead (device : FruDevice) (call : Exchange ε) : Prop :=
  ∃ read : ReadFruData, read.device = device ∧ call.request = read.command.request

/-- The calls of one `read_fru_image`: the size is asked for, then the chunks. -/
def Reads (device : FruDevice) (log : List (Exchange ε)) : Prop :=
  ∃ first rest, log = first :: rest ∧
    first.request = (getFruInventoryAreaInfo device).request ∧ ∀ call ∈ rest, IsRead device call

/-- The calls of a change, some of the last of which may not have been made:
the checks, the read before the writes, the identity check that guards them,
the writes, and the read after them. -/
structure Phases (change : KontronFruChange)
    (checks read guarding writes readback : List (Exchange ε)) : Prop where
  checks : checks.map (·.request) <+: [(targetDeviceId change.device.target).request,
    (getFruInventoryAreaInfo change.device).request]
  read : read = [] ∨ Reads change.device read
  guarding : guarding.map (·.request) <+: [(targetDeviceId change.device.target).request]
  writes : ∀ call ∈ writes, IsWrite change.device call
  readback : readback = [] ∨ Reads change.device readback

/-- No call after the read that precedes the writes finds too few sequences,
as long as the read-back takes no more commands than that read did. -/
def NeverStranded (exhausted : ε) (change : KontronFruChange) (log : List (Exchange ε)) : Prop :=
  ∃ checks read guarding writes readback,
    log = checks ++ read ++ guarding ++ writes ++ readback ∧
    Phases change checks read guarding writes readback ∧
    ∀ call ∈ guarding ++ writes ++ readback.take read.length, call.reply ≠ .error exhausted

end

/-! ### What the parts of a change call -/

section
variable {σ ε : Type} {con : IpmiConnection σ ε} {meter : Meter σ ε} {price : Nat}

/-- The commands to a device cost the same as the request for its size. -/
def Priced (meter : Meter σ ε) (device : FruDevice) (price : Nat) : Prop :=
  meter.price (getFruInventoryAreaInfo device).targetAddress = price

theorem fruInfo_calls (metered : con.Metered meter) {device : FruDevice}
    (costs : Priced meter device price) {s : σ} (sound : meter.sound s) :
    Ends (fruInfo con device) s
      (fun _ t => ∃ call, call.request = (getFruInventoryAreaInfo device).request ∧
        call.reply.isOk = true ∧ meter.Ran price s [call] t)
      (fun _ t => ∃ call, call.request = (getFruInventoryAreaInfo device).request ∧
        meter.Ran price s [call] t) := by
  refine (metered.sendRecv sound _ costs).mono (fun _ _ called => called) ?_
  rintro error t ⟨call, asked, -, ran⟩
  exact ⟨call, asked, ran⟩

theorem not_shrinkable_connection {lost : ε} :
    ¬shrinkable (.connection lost : IpmiError ε FruCommandError) := by
  simp [shrinkable]

theorem readFruChunks_calls (metered : con.Metered meter) {device : FruDevice}
    (costs : Priced meter device price) (info : FruInfo) (turns chunkSize : Nat) (bytes : List UInt8)
    {s : σ} (sound : meter.sound s) :
    Ends (readFruChunks con device info turns chunkSize bytes) s
      (fun _ t => ∃ log, meter.Ran price s log t ∧ (∀ call ∈ log, IsRead device call) ∧
        ∀ call ∈ log, call.reply.isOk = true)
      (fun _ t => ∃ log, meter.Ran price s log t ∧ ∀ call ∈ log, IsRead device call) := by
  induction turns generalizing chunkSize bytes s with
  | zero => exact Ends.pure ⟨[], .refl sound, by simp, by simp⟩
  | succ turns ih =>
    unfold readFruChunks
    split
    · refine Ends.ofExcept_bind (fun _ _ => ⟨[], .refl sound, by simp⟩) fun read made => ?_
      obtain ⟨rfl, -⟩ := ReadFruData.new_eq device (mapError_eq_ok.mp made)
      have rest (call : Exchange ε) {m : σ} (first : meter.Ran price s [call] m)
          (asked : IsRead device call) (answered : call.reply.isOk = true) (smaller : Nat)
          (more : List UInt8) :
          Ends (readFruChunks con device info turns smaller more) m
            (fun _ t => ∃ log, meter.Ran price s log t ∧ (∀ call ∈ log, IsRead device call) ∧
              ∀ call ∈ log, call.reply.isOk = true)
            (fun _ t => ∃ log, meter.Ran price s log t ∧ ∀ call ∈ log, IsRead device call) := by
        refine (ih smaller more first.sound).mono ?_ ?_
        · rintro image t ⟨log, ran, reads, answers⟩
          exact ⟨call :: log, first.trans ran, by simpa using ⟨asked, reads⟩,
            by simpa using ⟨answered, answers⟩⟩
        · rintro error t ⟨log, ran, reads⟩
          exact ⟨call :: log, first.trans ran, by simpa using ⟨asked, reads⟩⟩
      refine Ends.attempt_bind (metered.sendRecv sound _ costs) ?_ ?_
      · rintro response m ⟨call, asked, answered, first⟩
        have asked : IsRead device call := ⟨_, rfl, asked⟩
        refine Ends.ofExcept_bind (fun _ _ => ⟨[call], first, by simpa using asked⟩) fun more _ => ?_
        exact rest call first asked answered _ _
      · rintro error m ⟨call, asked, answered, first⟩
        have asked : IsRead device call := ⟨_, rfl, asked⟩
        dsimp only
        split
        · rename_i shorter
          rcases answered with answered | ⟨lost, rfl⟩
          · exact rest call first asked answered _ _
          · exact absurd shorter.1 not_shrinkable_connection
        · exact Ends.throw ⟨[call], first, by simpa using asked⟩
    · exact Ends.pure ⟨[], .refl sound, by simp, by simp⟩

theorem readFruImage_calls (metered : con.Metered meter) {device : FruDevice}
    (costs : Priced meter device price) {s : σ} (sound : meter.sound s) :
    Ends (readFruImage con device) s
      (fun _ t => ∃ log, meter.Ran price s log t ∧ Reads device log ∧
        ∀ call ∈ log, call.reply.isOk = true)
      (fun _ t => ∃ log, meter.Ran price s log t ∧ Reads device log) := by
  refine Ends.bind (Ends.adapt ((fruInfo_calls metered costs sound).mono (fun _ _ called => called)
    (E := fun _ t => ∃ log, meter.Ran price s log t ∧ Reads device log) ?_)) (fun _ _ failed => failed) ?_
  · rintro error t ⟨call, asked, ran⟩
    exact ⟨[call], ran, call, [], rfl, asked, by simp⟩
  rintro info m ⟨call, asked, answered, first⟩
  split
  · exact Ends.throw ⟨[call], first, call, [], rfl, asked, by simp⟩
  · refine (readFruChunks_calls metered costs info _ _ [] first.sound).mono ?_ ?_
    · rintro image t ⟨log, ran, reads, answers⟩
      exact ⟨call :: log, first.trans ran, ⟨call, log, rfl, asked, reads⟩,
        by simpa using ⟨answered, answers⟩⟩
    · rintro error t ⟨log, ran, reads⟩
      exact ⟨call :: log, first.trans ran, call, log, rfl, asked, reads⟩

theorem kontronIdentity_calls (metered : con.Metered meter) {target : Option (Address × Channel)}
    (costs : meter.price (targetDeviceId target).targetAddress = price) (expected : Option DeviceId)
    {s : σ} (sound : meter.sound s) :
    Ends (kontronIdentity con target expected) s
      (fun _ t => ∃ call, call.request = (targetDeviceId target).request ∧ meter.Ran price s [call] t)
      (fun _ t => ∃ call, call.request = (targetDeviceId target).request ∧
        meter.Ran price s [call] t) := by
  refine Ends.bind (P := fun _ t => ∃ call, call.request = (targetDeviceId target).request ∧
    meter.Ran price s [call] t) (Ends.adapt ((metered.sendRecv sound _ costs).mono ?_ ?_))
    (fun _ _ failed => failed) ?_
  · rintro device t ⟨call, asked, -, ran⟩
    exact ⟨call, asked, ran⟩
  · rintro error t ⟨call, asked, -, ran⟩
    exact ⟨call, asked, ran⟩
  · intro device t called
    split
    · exact Ends.throw called
    split
    · exact Ends.throw called
    · exact Ends.pure called

theorem confirmedWrite_calls (metered : con.Metered meter) (write : WriteFruData)
    (costs : Priced meter write.device price) {s : σ} (sound : meter.sound s) :
    Ends (confirmedWrite con write) s
      (fun _ t => ∃ call, IsWrite write.device call ∧ meter.Ran price s [call] t)
      (fun _ t => ∃ call, IsWrite write.device call ∧ meter.Ran price s [call] t) := by
  refine Ends.bind (P := fun _ t => ∃ call, IsWrite write.device call ∧ meter.Ran price s [call] t)
    (Ends.adapt ((metered.sendRecv sound write.command costs).mono ?_ ?_))
    (fun _ _ failed => failed) ?_
  · rintro count t ⟨call, asked, -, ran⟩
    exact ⟨call, ⟨write, rfl, asked⟩, ran⟩
  · rintro error t ⟨call, asked, -, ran⟩
    exact ⟨call, ⟨write, rfl, asked⟩, ran⟩
  · intro count t called
    rw [← bind_pure (MonadExcept.ofExcept _)]
    exact Ends.ofExcept_bind (fun _ _ => called) (fun _ _ => Ends.pure called)

/-- What has been called from the first write on: some writes, no more than
planned, and part of a read-back. -/
def WroteBack (meter : Meter σ ε) (price : Nat) (device : FruDevice) (planned : Nat) (s t : σ) :
    Prop :=
  ∃ writes readback, meter.Ran price s (writes ++ readback) t ∧
    (∀ call ∈ writes, IsWrite device call) ∧ writes.length ≤ planned ∧
    (readback = [] ∨ Reads device readback)

/-- What has been called when writes are all that was called. -/
def Wrote (meter : Meter σ ε) (price : Nat) (device : FruDevice) (planned : Nat) (s t : σ) : Prop :=
  ∃ writes, meter.Ran price s writes t ∧ (∀ call ∈ writes, IsWrite device call) ∧
    writes.length ≤ planned

theorem Wrote.refl {device : FruDevice} {planned : Nat} {s : σ} (sound : meter.sound s) :
    Wrote meter price device planned s s := ⟨[], .refl sound, by simp, by simp⟩

theorem Wrote.writeBack {device : FruDevice} {first second : Nat} {s t u : σ}
    (early : Wrote meter price device first s t) (late : WroteBack meter price device second t u) :
    WroteBack meter price device (first + second) s u := by
  obtain ⟨earlier, before, wrote, fits⟩ := early
  obtain ⟨later, readback, after, more, fit, reads⟩ := late
  refine ⟨earlier ++ later, readback, ?_, ?_, ?_, reads⟩
  · rw [List.append_assoc]
    exact before.trans after
  · exact fun call member => (List.mem_append.mp member).elim (wrote call) (more call)
  · rw [List.length_append]
    omega

theorem Wrote.back {device : FruDevice} {planned : Nat} {s t : σ}
    (wrote : Wrote meter price device planned s t) : WroteBack meter price device planned s t := by
  obtain ⟨writes, ran, wrote, fits⟩ := wrote
  exact ⟨writes, [], by rwa [List.append_nil], wrote, fits, .inl rfl⟩

theorem Wrote.trans {device : FruDevice} {first second : Nat} {s t u : σ}
    (early : Wrote meter price device first s t) (late : Wrote meter price device second t u) :
    Wrote meter price device (first + second) s u := by
  obtain ⟨earlier, before, wrote, fits⟩ := early
  obtain ⟨later, after, more, fit⟩ := late
  refine ⟨earlier ++ later, before.trans after, ?_, ?_⟩
  · exact fun call member => (List.mem_append.mp member).elim (wrote call) (more call)
  · rw [List.length_append]
    omega

variable {change : KontronFruChange}

theorem readBack (metered : con.Metered meter) {device : FruDevice} (costs : Priced meter device price)
    {s : σ} (sound : meter.sound s) :
    Ends (readFruImage con device) s (fun _ t => WroteBack meter price device 0 s t)
      (fun _ t => WroteBack meter price device 0 s t) := by
  refine (readFruImage_calls metered costs sound).mono ?_ ?_
  · rintro image t ⟨log, ran, reads, -⟩
    exact ⟨[], log, ran, by simp, by simp, .inr reads⟩
  · rintro error t ⟨log, ran, reads⟩
    exact ⟨[], log, ran, by simp, by simp, .inr reads⟩

theorem writeKontronChunks_calls (metered : con.Metered meter)
    (costs : Priced meter change.device price) (info : FruInfo) (area : KontronArea) (start index : Nat)
    (parts : List (List UInt8)) {s : σ} (sound : meter.sound s) :
    Ends (writeKontronChunks con change info area start index parts) s
      (fun _ t => Wrote meter price change.device parts.length s t)
      (fun _ t => WroteBack meter price change.device parts.length s t) := by
  induction parts generalizing index s with
  | nil => exact Ends.pure (.refl sound)
  | cons part parts ih =>
    unfold writeKontronChunks
    refine Ends.ofExcept_bind (fun _ _ => (Wrote.refl sound).back) fun write made => ?_
    have aimed : write.device = change.device := by
      have made := mapError_eq_ok.mp made
      unfold WriteFruData.new at made
      cases valid : info.validate (UInt16.ofNat (start + index * DEFAULT_CHUNK_BYTES)) part.length with
      | error error =>
        rw [valid] at made
        cases made
      | ok from_ =>
        rw [valid] at made
        exact (Except.ok.inj made) ▸ rfl
    have once {t : σ} (called : ∃ call, IsWrite write.device call ∧ meter.Ran price s [call] t) :
        Wrote meter price change.device 1 s t ∧ meter.sound t := by
      obtain ⟨call, wrote, ran⟩ := called
      exact ⟨⟨[call], ran, by simpa [aimed] using wrote, Nat.le_refl _⟩, ran.sound⟩
    rw [List.length_cons, Nat.add_comm parts.length 1]
    refine Ends.attempt_bind (confirmedWrite_calls metered write (aimed ▸ costs) sound) ?_ ?_
    · intro _ t called
      obtain ⟨first, sound⟩ := once called
      exact (ih (index + 1) sound).mono (fun _ _ => first.trans) (fun _ _ => first.writeBack)
    · intro reason t called
      obtain ⟨first, sound⟩ := once called
      have ended {u : σ} (back : WroteBack meter price change.device 0 t u) :
          WroteBack meter price change.device (1 + parts.length) s u := by
        obtain ⟨writes, readback, ran, wrote, fits, reads⟩ := first.writeBack back
        exact ⟨writes, readback, ran, wrote, by omega, reads⟩
      refine Ends.attempt_bind (readBack metered costs sound) ?_ ?_
      · exact fun _ _ back => Ends.throw (ended back)
      · exact fun _ _ back => Ends.throw (ended back)

/-- The writes of a change, if none fails. -/
def KontronFruChange.plannedWrites (change : KontronFruChange) (before desired : List UInt8) : Nat :=
  (areaChunks before desired change.backup.board).length +
    (areaChunks before desired change.backup.product).length

theorem writeKontronAreas_calls (metered : con.Metered meter)
    (costs : Priced meter change.device price) (before desired : List UInt8) (info : FruInfo) {s : σ}
    (sound : meter.sound s) :
    Ends (writeKontronAreas con change before desired info) s
      (fun _ t => WroteBack meter price change.device (change.plannedWrites before desired) s t)
      (fun _ t => WroteBack meter price change.device (change.plannedWrites before desired) s t) := by
  refine Ends.bind (writeKontronChunks_calls metered costs info .board _ 0 _ sound) ?_ ?_
  · rintro error t ⟨writes, readback, ran, wrote, fits, reads⟩
    exact ⟨writes, readback, ran, wrote, Nat.le_trans fits (Nat.le_add_right _ _), reads⟩
  intro _ t board
  have soundAt {n : Nat} {u : σ} (wrote : Wrote meter price change.device n s u) : meter.sound u :=
    wrote.elim fun _ ran => ran.1.sound
  refine Ends.bind (writeKontronChunks_calls metered costs info .product _ 0 _ (soundAt board))
    (fun _ _ => board.writeBack) ?_
  intro _ u product
  have both := board.trans product
  refine Ends.bind (Ends.adapt ((readBack metered costs (soundAt both)).mono
    (fun _ _ => both.writeBack) (fun _ _ => both.writeBack))) (fun _ _ back => back) ?_
  intro readback v back
  split
  · exact Ends.throw back
  split
  · exact Ends.throw back
  · exact Ends.pure back

/-! ### What is held back suffices -/

theorem Span.length_of {span : Span} {image : List UInt8} (inside : span.stop ≤ image.length) :
    (span.of image).length = span.stop - span.start := by
  have ordered := span.ordered
  rw [Span.of, List.length_take, List.length_drop]
  omega

/-- The cost is that of the chunks written and of the read-back. -/
theorem KontronFruChange.fruSequenceCost_eq (change : KontronFruChange) (before : List UInt8)
    (readback : Nat) :
    change.fruSequenceCost before change.proposed false readback =
      (change.plannedWrites before change.proposed + readback) * change.perCommand := by
  have board := Span.length_of (change.sameLength ▸ change.backup.boardInside)
  have product := Span.length_of (change.sameLength ▸ change.backup.productInside)
  unfold fruSequenceCost plannedWrites areaChunks
  by_cases sameBoard : change.backup.board.of before = change.backup.board.of change.proposed <;>
    by_cases sameProduct : change.backup.product.of before = change.backup.product.of change.proposed <;>
      simp [sameBoard, sameProduct, board, product]

theorem reserveKontronFruBudget_ends (metered : con.Metered meter) (needed : Nat) {s : σ}
    (sound : meter.sound s) :
    Ends (reserveKontronFruBudget con needed) s
      (fun reserved t => reserved = true ∧ meter.held s = none ∧ meter.sound t ∧
        meter.held t = some needed ∧ meter.calls t = meter.calls s)
      (fun _ t => t = s) := by
  refine Ends.get_bind ?_
  rw [metered.budget s]
  dsimp only
  split
  · exact Ends.throw rfl
  refine Ends.modifyGet_bind ?_
  split
  · rename_i granted
    exact Ends.pure ⟨rfl, metered.granted s needed sound granted⟩
  · rename_i refused
    exact Ends.throw (metered.refused s needed (by simpa using refused))

/-- From `m` on, with enough held back, whatever is called is paid for. -/
theorem neverStranded_of_held {m t : σ} {minimum planned : Nat}
    {checks read guarding writes readback : List (Exchange ε)}
    (phases : Phases change checks read guarding writes readback)
    (held : meter.held m = some minimum) (once : guarding.length ≤ 1) (fits : writes.length ≤ planned)
    (enough : price * (1 + planned + read.length) ≤ minimum)
    (ran : meter.Ran price m (guarding ++ (writes ++ readback)) t) :
    NeverStranded meter.exhausted change (checks ++ read ++ (guarding ++ (writes ++ readback))) := by
  refine ⟨checks, read, guarding, writes, readback, by simp, phases, ?_⟩
  intro call member
  have length : (guarding ++ writes).length = guarding.length + writes.length := List.length_append
  refine ran.paid minimum (guarding.length + writes.length + read.length) held ?_ call ?_
  · exact Nat.le_trans (Nat.mul_le_mul_left price (by omega)) enough
  · rwa [← List.append_assoc, ← length, List.take_length_add_append]

/-- Where a change has got to: its bookkeeping is sound, and no call was stranded. -/
def Reached (meter : Meter σ ε) (change : KontronFruChange) (s t : σ) : Prop :=
  meter.sound t ∧ ∃ log, meter.calls t = meter.calls s ++ log ∧
    NeverStranded meter.exhausted change log

/-- Before the first write there is nothing to be stranded. -/
theorem Reached.early {s t : σ} (checks read : List (Exchange ε))
    (sound : meter.sound t) (calls : meter.calls t = meter.calls s ++ (checks ++ read))
    (asked : checks.map (·.request) <+: [(targetDeviceId change.device.target).request,
      (getFruInventoryAreaInfo change.device).request])
    (reads : read = [] ∨ Reads change.device read) : Reached meter change s t :=
  ⟨sound, _, calls, checks, read, [], [], [], by simp,
    ⟨asked, reads, by simp, by simp, .inl rfl⟩, by simp⟩

/-- What the read before the writes took pays for as many commands again. -/
theorem price_le_cost {before after count per : Nat} (readback planned : Nat) (cheap : price ≤ per)
    (some : 0 < per) (read : price * count + after ≤ before) :
    price * (1 + planned + count) ≤
      (planned + max readback (divCeil (before - after) per)) * per + per := by
  have spent := le_divCeil_mul some (before - after)
  have covered := Nat.mul_le_mul_right per (Nat.le_max_right readback (divCeil (before - after) per))
  have writes := Nat.mul_le_mul cheap (Nat.le_refl planned)
  rw [Nat.mul_add, Nat.mul_add, Nat.add_mul, Nat.mul_comm planned per]
  omega

theorem reserveAgain_ends (metered : con.Metered meter) (needed : Nat) {s : σ}
    (sound : meter.sound s) :
    Ends (reserveAgain con true needed) s
      (fun _ t => meter.sound t ∧ meter.held t = some needed ∧ meter.calls t = meter.calls s)
      (fun _ t => meter.sound t ∧ meter.calls t = meter.calls s) := by
  obtain ⟨released, -, same⟩ := metered.released s sound
  refine Ends.modify_bind (Ends.bind (reserveKontronFruBudget_ends metered needed released) ?_ ?_)
  · rintro error t rfl
    exact ⟨released, same⟩
  · rintro reserved t ⟨-, -, sound, held, calls⟩
    exact Ends.pure ⟨sound, held, calls.trans same⟩

theorem applyReserved_ends (metered : con.Metered meter) {s : σ} (sound : meter.sound s)
    (costs : Priced meter change.device price)
    (lookup : meter.price (targetDeviceId change.device.target).targetAddress = price)
    (cheap : price ≤ change.perCommand) (readback : Nat) :
    Ends (applyReserved con change readback true) s (fun _ t => Reached meter change s t)
      (fun _ t => Reached meter change s t) := by
  refine Ends.bind (kontronIdentity_calls metered lookup _ sound) ?_ ?_
  · rintro error t ⟨call, asked, ran⟩
    exact .early [call] [] ran.sound ran.calls (by simp [asked]) (.inl rfl)
  rintro _ a ⟨identity, identified, first⟩
  refine Ends.bind (Ends.adapt ((fruInfo_calls metered costs first.sound).mono (fun _ _ called => called)
    (E := fun _ t => Reached meter change s t) ?_)) (fun _ _ reached => reached) ?_
  · rintro error t ⟨call, asked, ran⟩
    exact .early [identity, call] [] ran.sound (first.trans ran).calls (by simp [asked, identified])
      (.inl rfl)
  rintro info b ⟨size, asked, -, second⟩
  have checked := first.trans second
  have asked : [identity, size].map (·.request) <+:
      [(targetDeviceId change.device.target).request,
        (getFruInventoryAreaInfo change.device).request] := by simp [asked, identified]
  split
  · exact Ends.throw (.early [identity, size] [] checked.sound checked.calls asked (.inl rfl))
  refine Ends.get_bind (Ends.bind (Ends.adapt ((readFruImage_calls metered costs checked.sound).mono
    (fun _ _ called => called) (E := fun _ t => Reached meter change s t) ?_))
    (fun _ _ reached => reached) ?_)
  · rintro error t ⟨read, ran, reads⟩
    exact .early [identity, size] read ran.sound (checked.trans ran).calls asked (.inr reads)
  rintro current c ⟨read, ran, reads, answered⟩
  have early {t : σ} (kept : meter.calls t = meter.calls c) (sound : meter.sound t) :
      Reached meter change s t :=
    .early [identity, size] read sound (kept.trans (checked.trans ran).calls) asked (.inr reads)
  split
  · exact Ends.throw (early rfl ran.sound)
  refine Ends.get_bind ?_
  rw [metered.budget b, metered.budget c]
  dsimp only
  rw [change.fruSequenceCost_eq]
  refine Ends.bind (reserveAgain_ends metered _ ran.sound) (fun _ t ended => early ended.2 ended.1) ?_
  rintro _ m ⟨soundAgain, held, kept⟩
  have one : 0 < change.perCommand := by
    unfold KontronFruChange.perCommand
    split <;> decide
  have enough := price_le_cost readback (change.plannedWrites current change.proposed) cheap one
    (ran.answered answered)
  have guarded {t : σ} (call : Exchange ε) (writes back : List (Exchange ε))
      (guard : call.request = (targetDeviceId change.device.target).request)
      (after : meter.Ran price m ([call] ++ (writes ++ back)) t)
      (wrote : ∀ call ∈ writes, IsWrite change.device call)
      (fits : writes.length ≤ change.plannedWrites current change.proposed)
      (readBack : back = [] ∨ Reads change.device back) : Reached meter change s t := by
    have phases : Phases change [identity, size] read [call] writes back :=
      ⟨asked, .inr reads, by simp [guard], wrote, readBack⟩
    refine ⟨after.sound, _, ?_, neverStranded_of_held phases held (Nat.le_refl _) fits enough after⟩
    rw [after.calls, kept, (checked.trans ran).calls, List.append_assoc]
    rfl
  refine Ends.bind (kontronIdentity_calls metered lookup _ soundAgain) ?_ ?_
  · rintro error t ⟨call, guard, third⟩
    exact guarded call [] [] guard third (by simp) (Nat.zero_le _) (.inl rfl)
  rintro _ n ⟨call, guard, third⟩
  refine (writeKontronAreas_calls metered costs current change.proposed info third.sound).mono ?_ ?_
  · rintro _ t ⟨writes, back, after, wrote, fits, readBack⟩
    exact guarded call writes back guard (third.trans after) wrote fits readBack
  · rintro _ t ⟨writes, back, after, wrote, fits, readBack⟩
    exact guarded call writes back guard (third.trans after) wrote fits readBack

/-- Over a connection that keeps a meter, a change leaves no call stranded, and
what is held back as it was. -/
theorem applyKontronFruChange_ends (metered : con.Metered meter) {s : σ} (sound : meter.sound s)
    (costs : Priced meter change.device price)
    (lookup : meter.price (targetDeviceId change.device.target).targetAddress = price)
    (cheap : price ≤ change.perCommand) :
    Ends (applyKontronFruChange con change) s
      (fun _ t => Reached meter change s t ∧ meter.held t = meter.held s)
      (fun _ t => Reached meter change s t ∧ meter.held t = meter.held s) := by
  refine Ends.bind (reserveKontronFruBudget_ends metered _ sound) ?_ ?_
  · rintro error t rfl
    exact ⟨.early [] [] sound (by simp) (by simp) (.inl rfl), rfl⟩
  rintro _ m ⟨rfl, free, soundThen, -, kept⟩
  have released {t : σ} (reached : Reached meter change m t) :
      Reached meter change s (con.releaseIpmbSequences t) ∧
        meter.held (con.releaseIpmbSequences t) = meter.held s := by
    obtain ⟨soundNow, log, calls, never⟩ := reached
    obtain ⟨soundAfter, none, same⟩ := metered.released t soundNow
    exact ⟨⟨soundAfter, log, by rw [same, calls, kept], never⟩, none.trans free.symm⟩
  refine Ends.attempt_bind (applyReserved_ends metered soundThen costs lookup cheap _) ?_ ?_
  · intro value t reached
    exact Ends.modify_bind (Ends.pure (released reached))
  · intro error t reached
    exact Ends.modify_bind (Ends.throw (released reached))

end
end IpmiRs.Kontron
