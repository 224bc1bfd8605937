import IpmiRs.Dcmi.Pages
import IpmiRs.Library.Memory

/-! The strings of a DCMI controller, read and written in chunks. Whatever is
answered the requests are few and the chunks follow each other, and a controller
that stores what it is sent gives it back. -/
namespace IpmiRs.Dcmi
open Connection Library Library.Checked Library.Chunks Library.Memory Library.Stateful Library.Logged

variable {σ ε : Type} {kind : StringKind}

/-- A read of a string, by its requests and what was answered. -/
structure StringRead (result : Except (Fault (PageError ε)) (List UInt8))
    (log : List (Call GetString (Except ε StringPage))) : Prop where
  requests : log.length ≤ 5
  ends : ∀ fault, result = .error fault → ∃ error, fault = .error error
  announced : ∀ bytes, result = .ok bytes →
    ∃ first, (answers log).head? = some first ∧ bytes.length = first.total.toNat
  pages : ∀ bytes, result = .ok bytes → bytes = (answers log).flatMap (·.bytes)

/-- A write of a string, by its requests and what was acknowledged. -/
structure StringWritten (bytes : List UInt8) (result : Except (Fault (StringWriteError ε)) MutationOutcome)
    (log : List (Call SetString (Except ε MutationOutcome))) : Prop where
  requests : log.length ≤ 4
  ends : ∀ fault, result = .error fault → ∃ error, fault = .error error
  whole : ∀ outcome, result = .ok outcome →
    (∀ call ∈ log, call.answer.isOk = true) ∧ log.flatMap (·.asked.bytes) = bytes
  refused : ∀ error, result = .error (.error (.invalid error)) → log = []
  confirmed : ∀ count error, result = .error (.error (.uncertain count error)) →
    ∃ acknowledged failed, log = acknowledged ++ [failed] ∧ (∀ call ∈ acknowledged, call.answer.isOk = true) ∧
      failed.answer = .error error ∧ failed.asked.offset.toNat = count ∧ count ≤ bytes.length ∧
      acknowledged.flatMap (·.asked.bytes) = bytes.take count

theorem GetString.new_ok (kind : StringKind) {offset length : Nat} (some : 0 < length ∨ offset = 0)
    (chunk : length ≤ stringChunk) (inside : offset + length ≤ maxString) :
    ∃ get, GetString.new kind (UInt8.ofNat offset) (UInt8.ofNat length) = .ok get ∧ get.kind = kind ∧
      get.offset.toNat = offset ∧ get.length.toNat = length := by
  unfold stringChunk at chunk
  unfold maxString at inside
  have place : (UInt8.ofNat offset).toNat = offset := by
    rw [UInt8.toNat_ofNat']
    omega
  have count : (UInt8.ofNat length).toNat = length := by
    rw [UInt8.toNat_ofNat']
    omega
  refine ⟨⟨kind, UInt8.ofNat offset, UInt8.ofNat length, ?_⟩, dif_neg _, rfl, place, count⟩
  rintro (long | outside | ⟨none, later⟩)
  · unfold stringChunk at long
    omega
  · unfold maxString at outside
    omega
  · rw [none, UInt8.toNat_zero] at count
    rcases some with some | start
    · omega
    · exact later (congrArg UInt8.ofNat start)

theorem SetString.new_ok (kind : StringKind) {offset : Nat} {bytes : List UInt8} (some : bytes ≠ [] ∨ offset = 0)
    (chunk : bytes.length ≤ stringChunk) (inside : offset + bytes.length ≤ maxString) :
    ∃ set, SetString.new kind (UInt8.ofNat offset) bytes = .ok set ∧ set.kind = kind ∧
      set.offset.toNat = offset ∧ set.bytes = bytes := by
  unfold maxString at inside
  have place : (UInt8.ofNat offset).toNat = offset := by
    rw [UInt8.toNat_ofNat']
    omega
  refine ⟨⟨kind, UInt8.ofNat offset, bytes, ?_⟩, dif_neg _, rfl, place, rfl⟩
  rintro (long | outside | ⟨none, later⟩)
  · exact absurd long (Nat.not_lt.mpr chunk)
  · unfold maxString at outside
    omega
  · rcases some with some | start
    · exact some none
    · exact later (congrArg UInt8.ofNat start)

/-! ### Whatever is answered -/

theorem checkedGroup_yields (data : List UInt8) {len : Nat} (some : 0 < len) :
    Yields (fun _ => len ≤ data.length) (checkedGroup data len) := by
  refine yields_check fun long => ?_
  rw [Nat.not_lt] at long
  refine Yields.bind (yields_index (Nat.lt_of_lt_of_le some long)) fun group _ => ?_
  exact yields_check fun _ => Yields.pure long

theorem exactLength_yields (data : List UInt8) (len : Nat) :
    Yields (fun _ => data.length = len) (exactLength data len) := by
  unfold exactLength
  split
  · exact Yields.pure ‹_›
  · exact Yields.throw _

theorem ack_yields (data : List UInt8) : Yields (fun outcome => outcome = .acknowledged ∧ data.length = 1) (ack data) :=
  Yields.bind (checkedGroup_yields data Nat.one_pos) fun _ _ =>
    Yields.bind (exactLength_yields data 1) fun _ exact => Yields.pure ⟨rfl, exact⟩

/-- Reading a page never panics, and a page that is read is within the bounds of a string and of a chunk. -/
theorem StringPage.parse_yields (data : List UInt8) :
    Yields (fun page => page.total.toNat ≤ maxString ∧ page.bytes.length ≤ stringChunk) (StringPage.parse data) := by
  unfold StringPage.parse
  refine Yields.bind (checkedGroup_yields data Nat.two_pos) fun _ long => ?_
  refine Yields.bind (yields_index long) fun total _ => ?_
  refine yields_check fun bounded => ?_
  refine Yields.bind (yields_slice long (Nat.le_refl _)) fun bytes same => ?_
  refine Yields.pure ⟨Nat.not_lt.mp (not_or.mp bounded).1, ?_⟩
  have fits := Nat.not_lt.mp (not_or.mp bounded).2
  rw [same, List.take_length, List.length_drop]
  omega

section anyone
variable (send : GetString → Stateful σ ε StringPage)

/-- Each page adds what was asked for. -/
theorem readStringPages_tells {total : Nat} (short : total ≤ maxString) (turns : Nat) {bytes : List UInt8}
    (within : bytes.length ≤ total) (enough : total ≤ bytes.length + turns) :
    Tells (readStringPages kind (recording send) total turns bytes)
      (fun value log => value.length = total ∧ value = bytes ++ (answers log).flatMap (·.bytes) ∧
        log.length ≤ divCeil (total - bytes.length) stringChunk)
      (fun fault log => (∃ error, fault = .error error) ∧
        log.length ≤ divCeil (total - bytes.length) stringChunk) := by
  induction turns generalizing bytes with
  | zero =>
    rw [readStringPages, if_neg (by omega)]
    exact Tells.pure ⟨by omega, (List.append_nil bytes).symm, Nat.zero_le _⟩
  | succ turns ih =>
    rw [readStringPages]
    by_cases more : bytes.length < total
    · rw [if_pos more]
      have pieces : ∀ length, length = min (total - bytes.length) stringChunk →
          divCeil (total - (bytes.length + length)) stringChunk + 1 ≤
            divCeil (total - bytes.length) stringChunk := by
        unfold divCeil stringChunk
        omega
      have first : 1 ≤ divCeil (total - bytes.length) stringChunk := by
        unfold divCeil stringChunk
        omega
      have asks : 0 < min (total - bytes.length) stringChunk := by
        unfold stringChunk
        omega
      obtain ⟨get, made, -⟩ := GetString.new_ok kind (.inl asks) (Nat.min_le_right _ _)
        (show bytes.length + min (total - bytes.length) stringChunk ≤ maxString by omega)
      rw [checked_unwrap_bind made]
      refine Tells.bind (adapt_recording_tells _ send get) ?_ ?_
      · rintro _ _ ⟨_, rfl, rfl⟩
        exact ⟨⟨_, rfl⟩, first⟩
      · rintro page _ rfl
        split
        · exact Tells.throw ⟨⟨_, rfl⟩, first⟩
        · rename_i exact
          obtain ⟨-, long⟩ := not_or.mp exact
          rw [not_not] at long
          have less := pieces _ long
          have grown : (bytes ++ page.bytes).length = bytes.length + page.bytes.length := List.length_append
          unfold stringChunk at long asks
          refine Tells.mono (ih (by rw [grown]; omega) (by rw [grown]; omega)) ?_ ?_
          · rintro value log ⟨length, same, few⟩
            rw [grown] at few
            refine ⟨length, ?_, ?_⟩
            · rw [same, List.singleton_append, answers_cons_ok, List.flatMap_cons, List.append_assoc]
            · rw [List.singleton_append, List.length_cons]
              omega
          · rintro fault log ⟨named, few⟩
            rw [grown] at few
            refine ⟨named, ?_⟩
            rw [List.singleton_append, List.length_cons]
            omega
    · rw [if_neg more]
      exact Tells.pure ⟨by omega, (List.append_nil bytes).symm, Nat.zero_le _⟩

/-- A read makes at most five requests, and returns as many bytes as the first page announces. -/
theorem readString_tells (kind : StringKind) :
    Tells (readString kind (recording send)) (fun bytes => StringRead (.ok bytes))
      (fun fault => StringRead (.error fault)) := by
  have fails : ∀ (error : PageError ε) log, List.length log ≤ 5 →
      StringRead (.error (.error error)) log := by
    intro error log few
    refine ⟨few, ?_, fun _ => nofun, fun _ => nofun⟩
    rintro _ ⟨⟩
    exact ⟨error, rfl⟩
  have initial : (if kind = .controllerId then (1 : UInt8) else 0).toNat ≤ 1 := by cases kind <;> decide
  obtain ⟨get, made, -⟩ := GetString.new_ok kind (.inr rfl) (Nat.le_trans initial (by decide))
    (Nat.le_trans (Nat.add_le_add_left initial 0) (by decide))
  rw [UInt8.ofNat_toNat] at made
  unfold readString
  generalize (if kind = .controllerId then (1 : UInt8) else 0) = initialLength at initial made ⊢
  dsimp only
  rw [checked_unwrap_bind (show GetString.new kind 0 initialLength = .ok get from made)]
  refine Tells.bind (adapt_recording_tells _ send get) ?_ ?_
  · rintro _ _ ⟨_, rfl, rfl⟩
    exact fails _ _ (Nat.le_of_ble_eq_true rfl)
  · rintro first _ rfl
    split
    · exact Tells.throw (fails _ _ (Nat.le_of_ble_eq_true rfl))
    · rename_i passed
      obtain ⟨short, start⟩ := not_or.mp passed
      rw [not_not] at start
      have within : first.bytes.length ≤ first.total.toNat := by
        rw [start]
        exact Nat.min_le_right _ _
      have few : divCeil (first.total.toNat - first.bytes.length) stringChunk ≤ 4 := by
        unfold divCeil stringChunk
        unfold maxString at short
        omega
      refine Tells.mono (readStringPages_tells send (Nat.not_lt.mp short) _ within (Nat.le_add_left _ _)) ?_ ?_
      · rintro bytes log ⟨length, same, pages⟩
        refine ⟨?_, fun _ => nofun, ?_, ?_⟩
        · rw [List.singleton_append, List.length_cons]
          omega
        · rintro _ ⟨⟩
          exact ⟨first, rfl, length⟩
        · rintro _ ⟨⟩
          rw [same, List.singleton_append, answers_cons_ok, List.flatMap_cons]
      · rintro _ log ⟨⟨error, rfl⟩, pages⟩
        refine fails error _ ?_
        rw [List.singleton_append, List.length_cons]
        omega

end anyone

section anyone
variable (send : SetString → Stateful σ ε MutationOutcome)

/-- The chunks that are acknowledged come before the one that is not. -/
theorem writeStringChunks_tells {pieces : List (List UInt8)} (nonempty : ∀ chunk ∈ pieces, 0 < chunk.length)
    (chunked : ∀ chunk ∈ pieces, chunk.length ≤ stringChunk) {confirmedBytes : Nat}
    (inside : confirmedBytes + pieces.flatten.length ≤ maxString) :
    Tells (writeStringChunks kind (recording send) pieces confirmedBytes)
      (fun _ log => log.length = pieces.length ∧ (∀ call ∈ log, call.answer.isOk = true) ∧
        log.flatMap (·.asked.bytes) = pieces.flatten)
      (fun fault log => log.length ≤ pieces.length ∧ ∃ count error acknowledged failed,
        fault = .error (.uncertain (confirmedBytes + count) error) ∧ log = acknowledged ++ [failed] ∧
        (∀ call ∈ acknowledged, call.answer.isOk = true) ∧ failed.answer = .error error ∧
        failed.asked.offset.toNat = confirmedBytes + count ∧ count ≤ pieces.flatten.length ∧
        acknowledged.flatMap (·.asked.bytes) = pieces.flatten.take count) := by
  induction pieces generalizing confirmedBytes with
  | nil => exact Tells.pure ⟨rfl, fun _ none => absurd none List.not_mem_nil, rfl⟩
  | cons chunk pieces ih =>
    rw [List.forall_mem_cons] at nonempty chunked
    rw [List.flatten_cons, List.length_append] at inside
    obtain ⟨set, made, -, offset, bytes⟩ := SetString.new_ok kind
      (.inl (List.ne_nil_of_length_pos nonempty.1)) chunked.1
      (show confirmedBytes + chunk.length ≤ maxString by omega)
    rw [writeStringChunks]
    rw [checked_unwrap_bind made]
    refine Tells.bind (adapt_recording_tells _ send _) ?_ ?_
    · rintro _ _ ⟨error, rfl, rfl⟩
      exact ⟨Nat.le_add_left _ _, 0, error, [], _, rfl, rfl, fun _ none => absurd none List.not_mem_nil, rfl,
        offset, Nat.zero_le _, rfl⟩
    · rintro outcome _ rfl
      refine Tells.mono (ih nonempty.2 chunked.2 (by omega)) ?_ ?_
      · rintro _ log ⟨length, all, same⟩
        refine ⟨congrArg (· + 1) length, List.forall_mem_cons.mpr ⟨rfl, all⟩, ?_⟩
        rw [List.singleton_append, List.flatMap_cons, same, List.flatten_cons, bytes]
      · rintro _ log ⟨length, count, error, acknowledged, failed, rfl, rfl, all, lost, place, most, same⟩
        refine ⟨Nat.succ_le_succ length, chunk.length + count, error, _ :: acknowledged, failed, ?_, rfl,
          List.forall_mem_cons.mpr ⟨rfl, all⟩, lost, ?_, ?_, ?_⟩
        · rw [Nat.add_assoc]
        · rw [place, Nat.add_assoc]
        · rw [List.flatten_cons, List.length_append]
          omega
        · rw [List.flatMap_cons, same, List.flatten_cons, bytes, List.take_length_add_append]

/-- A write makes at most four requests, and tells how much of the string was acknowledged. -/
theorem writeString_tells (kind : StringKind) (bytes : List UInt8) :
    Tells (writeString kind bytes (recording send)) (fun outcome => StringWritten bytes (.ok outcome))
      (fun fault => StringWritten bytes (.error fault)) := by
  unfold writeString
  split
  · refine Tells.throw ⟨Nat.zero_le _, ?_, fun _ => nofun, fun _ _ => rfl, fun _ _ => nofun⟩
    rintro _ ⟨⟩
    exact ⟨_, rfl⟩
  · rename_i fits
    split
    · rename_i none
      subst none
      obtain ⟨set, made, -, offset, empty⟩ := SetString.new_ok kind (.inr rfl) (Nat.zero_le _)
        (show 0 + ([] : List UInt8).length ≤ maxString by decide)
      rw [checked_unwrap_bind (show SetString.new kind 0 [] = .ok set from made)]
      refine Tells.mono (adapt_recording_tells _ send set) ?_ ?_
      · rintro outcome _ rfl
        refine ⟨Nat.le_of_ble_eq_true rfl, fun _ => nofun, fun _ _ => ⟨?_, ?_⟩, fun _ => nofun, fun _ _ => nofun⟩
        · exact List.forall_mem_cons.mpr ⟨rfl, fun _ none => absurd none List.not_mem_nil⟩
        · rw [List.flatMap_cons, empty, List.flatMap_nil, List.append_nil]
      · rintro _ _ ⟨error, rfl, rfl⟩
        refine ⟨Nat.le_of_ble_eq_true rfl, ?_, fun _ => nofun, fun _ => nofun, ?_⟩
        · rintro _ ⟨⟩
          exact ⟨_, rfl⟩
        · rintro _ _ ⟨⟩
          exact ⟨[], _, rfl, fun _ none => absurd none List.not_mem_nil, rfl, offset, Nat.le_refl _, rfl⟩
    · have flat := flatten_chunks (show 0 < stringChunk by decide) bytes
      have few : (chunks stringChunk bytes).length ≤ 4 := by
        rw [length_chunks]
        unfold divCeil stringChunk
        unfold maxString at fits
        omega
      have sized : ∀ chunk ∈ chunks stringChunk bytes, 0 < chunk.length ∧ chunk.length ≤ stringChunk :=
        fun _ member => length_of_mem_chunks (by decide) member
      refine Tells.mono (writeStringChunks_tells send (fun chunk member => (sized chunk member).1)
        (fun chunk member => (sized chunk member).2) (by rw [flat]; omega)) ?_ ?_
      · rintro outcome log ⟨length, all, same⟩
        rw [flat] at same
        exact ⟨length ▸ few, fun _ => nofun, fun _ _ => ⟨all, same⟩, fun _ => nofun, fun _ _ => nofun⟩
      · rintro _ log ⟨length, count, error, acknowledged, failed, rfl, rfl, all, lost, place, most, same⟩
        rw [flat] at most same
        refine ⟨Nat.le_trans length few, ?_, fun _ => nofun, fun _ => nofun, ?_⟩
        · rintro _ ⟨⟩
          exact ⟨_, rfl⟩
        · rintro _ _ ⟨⟩
          rw [Nat.zero_add] at place ⊢
          exact ⟨acknowledged, failed, rfl, all, lost, place, most, same⟩

end anyone
/-! ### A controller that stores strings -/

/-- The strings of a controller: a memory for each kind, and how much of it is the string. -/
structure StringStore where
  memory : StringKind → List UInt8
  length : StringKind → Nat

namespace StringStore

def stored (store : StringStore) (kind : StringKind) : List UInt8 := (store.memory kind).take (store.length kind)

/-- A chunk is stored at its offset, and the string ends with it. -/
def write (store : StringStore) (kind : StringKind) (offset : Nat) (bytes : List UInt8) : StringStore where
  memory := Function.update store.memory kind (overwrite (store.memory kind) offset bytes)
  length := Function.update store.length kind (offset + bytes.length)

/-- The string that a command is about, and whether it sets it. -/
def named (command : UInt8) : Option (StringKind × Bool) :=
  [(.assetTag, false), (.assetTag, true), (.controllerId, false), (.controllerId, true)].find?
    fun (kind, set) => kind.command set == command

/-- What the controller answers a request with: the bytes of the string that there are, or the group alone. -/
def respond (message : Message) (store : StringStore) : List UInt8 × StringStore :=
  match named message.cmd, message.data with
  | some (kind, false), [_, offset, length] =>
    (0xDC :: UInt8.ofNat (store.length kind) :: bytesAt (store.stored kind) offset.toNat length.toNat, store)
  | some (kind, true), _ :: offset :: length :: bytes =>
    ([0xDC], store.write kind offset.toNat (bytes.take length.toNat))
  | _, _ => ([], store)

/-- A read request, sent to the controller. -/
def get (get : GetString) : Stateful StringStore (Fault DcmiError) StringPage := do
  let data ← modifyGet (respond get.message)
  checked (StringPage.parse data)

/-- A write request, sent to the controller. -/
def set (set : SetString) : Stateful StringStore (Fault DcmiError) MutationOutcome := do
  let data ← modifyGet (respond set.message)
  checked (ack data)

/-- What there is of a string so far. -/
structure Holds (store : StringStore) (kind : StringKind) (bytes : List UInt8) : Prop where
  memory : (store.memory kind).take bytes.length = bytes
  length : store.length kind = bytes.length

end StringStore

theorem StringPage.parse_answer {total : UInt8} {bytes : List UInt8} (short : total.toNat ≤ maxString)
    (chunk : bytes.length ≤ stringChunk) : StringPage.parse (0xDC :: total :: bytes) = pure ⟨total, bytes⟩ := by
  have passed : checkedGroup (0xDC :: total :: bytes) 2 = pure () := by
    unfold checkedGroup
    rw [if_neg (by simp only [List.length_cons]; omega)]
    rfl
  have fits : ¬(maxString < total.toNat ∨ 2 + stringChunk < (0xDC :: total :: bytes).length) := by
    simp only [List.length_cons]
    omega
  unfold StringPage.parse
  rw [passed, slice_eq (by simp) (Nat.le_refl _), List.take_length]
  exact if_neg fits

/-- A read gives what there is of the string. -/
theorem StringStore.get_held {store : StringStore} {bytes : List UInt8} (holds : store.Holds kind bytes)
    (fits : bytes.length ≤ maxString) (command : GetString) (same : command.kind = kind) :
    Ends (StringStore.get command) store
      (fun page after => after = store ∧ page.total.toNat = bytes.length ∧
        page.bytes = bytesAt bytes command.offset.toNat command.length.toNat) (fun _ _ => False) := by
  subst same
  have whole : store.stored command.kind = bytes := by
    rw [StringStore.stored, holds.length, holds.memory]
  have answered : StringStore.respond command.message store =
      (0xDC :: UInt8.ofNat bytes.length :: bytesAt bytes command.offset.toNat command.length.toNat, store) := by
    rw [← holds.length, ← whole]
    unfold GetString.message
    cases command.kind <;> rfl
  have total : (UInt8.ofNat bytes.length).toNat = bytes.length := by
    rw [UInt8.toNat_ofNat']
    unfold maxString at fits
    omega
  have chunk : (bytesAt bytes command.offset.toNat command.length.toNat).length ≤ stringChunk := by
    rw [bytesAt, List.length_take]
    exact Nat.le_trans (Nat.min_le_left _ _) (Nat.not_lt.mp (not_or.mp command.bounded).1)
  refine Ends.modifyGet_bind ?_
  rw [answered, StringPage.parse_answer (total.trans_le fits) chunk]
  exact Ends.pure ⟨rfl, total, rfl⟩

/-- A write adds its chunk to the string. -/
theorem StringStore.set_held {store : StringStore} {bytes : List UInt8} (command : SetString)
    (same : command.kind = kind) (before : (store.memory kind).take bytes.length = bytes)
    (offset : command.offset.toNat = bytes.length) :
    Ends (StringStore.set command) store (fun outcome after => outcome = .acknowledged ∧
      after.Holds kind (bytes ++ command.bytes)) (fun _ _ => False) := by
  subst same
  have wide : (UInt8.ofNat command.bytes.length).toNat = command.bytes.length := by
    have short := Nat.not_lt.mp (not_or.mp command.bounded).1
    rw [UInt8.toNat_ofNat']
    unfold stringChunk at short
    omega
  have stored : StringStore.respond command.message store =
      ([0xDC], store.write command.kind bytes.length command.bytes) := by
    have taken : command.bytes.take (UInt8.ofNat command.bytes.length).toNat = command.bytes := by
      rw [wide, List.take_length]
    rw [← offset]
    conv => rhs; rw [← taken]
    unfold SetString.message
    cases command.kind <;> rfl
  refine Ends.modifyGet_bind ?_
  rw [stored]
  refine Ends.pure ⟨rfl, ?_, ?_⟩
  · simp only [StringStore.write, Function.update_self]
    rw [overwrite, before, List.length_append]
    exact List.take_left' List.length_append
  · simp only [StringStore.write, Function.update_self]
    exact List.length_append.symm

theorem readStringPages_held {store : StringStore} {bytes : List UInt8} (holds : store.Holds kind bytes)
    (fits : bytes.length ≤ maxString) (turns : Nat) {count : Nat} (within : count ≤ bytes.length)
    (enough : bytes.length ≤ count + turns) :
    Ends (readStringPages kind StringStore.get bytes.length turns (bytes.take count)) store
      (fun value after => after = store ∧ value = bytes) (fun _ _ => False) := by
  have taken : (bytes.take count).length = count := List.length_take_of_le within
  induction turns generalizing count with
  | zero =>
    rw [readStringPages, taken, if_neg (by omega)]
    exact Ends.pure ⟨rfl, List.take_of_length_le enough⟩
  | succ turns ih =>
    rw [readStringPages, taken]
    by_cases more : count < bytes.length
    · rw [if_pos more]
      have asks : 0 < min (bytes.length - count) stringChunk := by
        unfold stringChunk
        omega
      obtain ⟨get, made, same, offset, length⟩ := GetString.new_ok kind (.inl asks) (Nat.min_le_right _ _)
        (show count + min (bytes.length - count) stringChunk ≤ maxString by omega)
      dsimp only
      rw [checked_unwrap_bind made]
      refine Ends.bind (Ends.adapt (Ends.mono (StringStore.get_held holds fits get same) (fun _ _ read => read)
        (fun _ _ never => never.elim))) (fun _ _ never => never) ?_
      rintro page _ ⟨rfl, total, read⟩
      rw [offset, length] at read
      have inside : count + min (bytes.length - count) stringChunk ≤ bytes.length := by omega
      have long : page.bytes.length = min (bytes.length - count) stringChunk := by
        rw [read, length_bytesAt inside]
      rw [if_neg (not_or.mpr ⟨not_not.mpr total, not_not.mpr long⟩), read, take_append_bytesAt]
      exact ih inside (by omega) (List.length_take_of_le inside)
    · rw [if_neg more]
      exact Ends.pure ⟨rfl, List.take_of_length_le (Nat.not_lt.mp more)⟩

/-- A string that a controller holds is read. -/
theorem readString_held {store : StringStore} {bytes : List UInt8} (holds : store.Holds kind bytes)
    (fits : bytes.length ≤ maxString) :
    Ends (readString kind StringStore.get) store (fun value after => after = store ∧ value = bytes)
      (fun _ _ => False) := by
  have initial : (if kind = .controllerId then (1 : UInt8) else 0).toNat ≤ 1 := by cases kind <;> decide
  obtain ⟨get, made, same, offset, length⟩ := GetString.new_ok kind (.inr rfl) (Nat.le_trans initial (by decide))
    (Nat.le_trans (Nat.add_le_add_left initial 0) (by decide))
  rw [UInt8.ofNat_toNat] at made
  unfold readString
  generalize (if kind = .controllerId then (1 : UInt8) else 0) = initialLength at initial made length ⊢
  dsimp only
  rw [checked_unwrap_bind (show GetString.new kind 0 initialLength = .ok get from made)]
  refine Ends.bind (Ends.adapt (Ends.mono (StringStore.get_held holds fits get same) (fun _ _ read => read)
    (fun _ _ never => never.elim))) (fun _ _ never => never) ?_
  rintro first _ ⟨rfl, total, read⟩
  rw [offset, length, bytesAt, List.drop_zero] at read
  have long : first.bytes.length = min initialLength.toNat bytes.length := by rw [read, List.length_take]
  rw [total, if_neg (not_or.mpr ⟨Nat.not_lt.mpr fits, not_not.mpr long⟩), read, List.take_eq_take_min]
  exact readStringPages_held holds fits _ (Nat.min_le_right _ _) (Nat.le_add_left _ _)

theorem writeStringChunks_held {pieces : List (List UInt8)} (chunked : ∀ chunk ∈ pieces, 0 < chunk.length ∧
      chunk.length ≤ stringChunk) {store : StringStore} {bytes : List UInt8}
    (before : (store.memory kind).take bytes.length = bytes) (ended : pieces = [] → store.length kind = bytes.length)
    (inside : bytes.length + pieces.flatten.length ≤ maxString) :
    Ends (writeStringChunks kind StringStore.set pieces bytes.length) store
      (fun outcome after => outcome = .acknowledged ∧ after.Holds kind (bytes ++ pieces.flatten))
      (fun _ _ => False) := by
  induction pieces generalizing store bytes with
  | nil =>
    rw [List.flatten_nil, List.append_nil]
    exact Ends.pure ⟨rfl, before, ended rfl⟩
  | cons chunk pieces ih =>
    rw [List.forall_mem_cons] at chunked
    rw [List.flatten_cons, List.length_append] at inside
    obtain ⟨set, made, same, offset, wrote⟩ := SetString.new_ok kind
      (.inl (List.ne_nil_of_length_pos chunked.1.1)) chunked.1.2
      (show bytes.length + chunk.length ≤ maxString by omega)
    rw [writeStringChunks, checked_unwrap_bind made]
    refine Ends.bind (Ends.adapt (Ends.mono (StringStore.set_held set same before offset) (fun _ _ read => read)
      (fun _ _ never => never.elim))) (fun _ _ never => never) ?_
    rintro _ after ⟨-, stored⟩
    rw [wrote] at stored
    rw [← List.length_append, List.flatten_cons, ← List.append_assoc]
    exact ih chunked.2 stored.memory (fun _ => stored.length) (by rw [List.length_append]; omega)

/-- A string that is written is what the controller holds. -/
theorem writeString_held (store : StringStore) {bytes : List UInt8} (fits : bytes.length ≤ maxString) :
    Ends (writeString kind bytes StringStore.set) store
      (fun outcome after => outcome = .acknowledged ∧ after.Holds kind bytes) (fun _ _ => False) := by
  have start : (store.memory kind).take ([] : List UInt8).length = [] := List.take_zero
  unfold writeString
  rw [if_neg (Nat.not_lt.mpr fits)]
  by_cases none : bytes = []
  · subst none
    rw [if_pos rfl]
    obtain ⟨set, made, same, offset, empty⟩ := SetString.new_ok kind (.inr rfl) (Nat.zero_le _)
      (show 0 + ([] : List UInt8).length ≤ maxString by decide)
    rw [checked_unwrap_bind (show SetString.new kind 0 [] = .ok set from made)]
    refine Ends.adapt (Ends.mono (StringStore.set_held set same start offset) ?_
      (fun _ _ never => never))
    rw [empty]
    exact fun _ _ held => held
  · rw [if_neg none]
    have positive : 0 < stringChunk := by decide
    have flat := flatten_chunks positive bytes
    have some : chunks stringChunk bytes ≠ [] := by
      rintro empty
      rw [empty, List.flatten_nil] at flat
      exact none flat.symm
    have written := writeStringChunks_held (fun _ member => length_of_mem_chunks positive member) start
      (fun empty => absurd empty some)
      (by rw [flat, List.length_nil, Nat.zero_add]; exact fits)
    rwa [flat, List.nil_append] at written

end IpmiRs.Dcmi
