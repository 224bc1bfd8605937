import IpmiRs.Dcmi.StringPages

/-! The lists of a DCMI entity, read page by page, a controller that holds such
lists, and the paged transfers together. -/
namespace IpmiRs.Dcmi
open Connection Library Library.Checked Library.Chunks Library.Stateful Library.Logged

variable {σ ε κ α : Type}

/-- Each request asks for what comes after the entries that there are by then, which were `read` before. -/
def Follows (next : Nat → κ) (read : Nat) (log : List (Call κ (Except ε (EntityPage α)))) : Prop :=
  ∀ before call after, log = before ++ call :: after →
    call.asked = next (read + ((answers before).flatMap (·.entries)).length)

/-- A read of a list, by its requests and what was answered: the first answer only announces how many
entries there are, and the requests after it each go on from the entries read so far. -/
structure EntitiesRead (first : κ) (next : Nat → κ) (result : Except (Fault (PageError ε)) (List α))
    (log : List (Call κ (Except ε (EntityPage α)))) : Prop where
  asked : ∃ answer later, log = ⟨first, answer⟩ :: later ∧ Follows next 0 later
  requests : log.length ≤ ((answers log).head?.elim 0 fun first => first.total.toNat) + 1
  ends : ∀ fault, result = .error fault → ∃ error, fault = .error error
  pages : ∀ entries, result = .ok entries → ∃ first pages, answers log = first :: pages ∧
    entries = pages.flatMap (·.entries) ∧ entries.length = first.total.toNat

theorem follows_nil (next : Nat → κ) (read : Nat) :
    Follows next read ([] : List (Call κ (Except ε (EntityPage α)))) := by
  intro before call after same
  cases before <;> cases same

/-- The next request is asked after the entries there are, and what follows it after those that it adds. -/
theorem Follows.cons {next : Nat → κ} {read : Nat} {answer : Except ε (EntityPage α)}
    {log : List (Call κ (Except ε (EntityPage α)))}
    (later : Follows next (read + ((answers [⟨next read, answer⟩]).flatMap (·.entries)).length) log) :
    Follows next read (⟨next read, answer⟩ :: log) := by
  intro before call after same
  cases before with
  | nil =>
    cases same
    rfl
  | cons earlier before =>
    obtain ⟨rfl, rest⟩ := List.cons.inj same
    have told := later before call after rest
    have split : answers (⟨next read, answer⟩ :: before) = answers [⟨next read, answer⟩] ++ answers before := by
      rw [answers, List.filterMap_cons, answers, answers, ← List.filterMap_append]
      rfl
    rw [told, split, List.flatMap_append, List.length_append, Nat.add_assoc]

/-- The entries that a page adds are some, and no more than are missing. -/
theorem readEntityPages_tells (next : Nat → κ) (send : κ → Stateful σ ε (EntityPage α)) {total : Nat} (turns : Nat)
    {entries : List α} (within : entries.length ≤ total) (enough : total ≤ entries.length + turns) :
    Tells (readEntityPages next (recording send) total turns entries)
      (fun value log => value.length = total ∧ value = entries ++ (answers log).flatMap (·.entries) ∧
        log.length ≤ total - entries.length ∧ Follows next entries.length log)
      (fun fault log => (∃ error, fault = .error error) ∧ log.length ≤ total - entries.length ∧
        Follows next entries.length log) := by
  induction turns generalizing entries with
  | zero =>
    rw [readEntityPages, if_neg (by omega)]
    exact Tells.pure ⟨by omega, (List.append_nil entries).symm, Nat.zero_le _, follows_nil _ _⟩
  | succ turns ih =>
    rw [readEntityPages]
    by_cases more : entries.length < total
    · rw [if_pos more]
      have first : 1 ≤ total - entries.length := by omega
      refine Tells.bind (adapt_recording_tells _ send _) ?_ ?_
      · rintro _ _ ⟨_, rfl, rfl⟩
        exact ⟨⟨_, rfl⟩, first, Follows.cons (follows_nil _ _)⟩
      · rintro page _ rfl
        split
        · exact Tells.throw ⟨⟨_, rfl⟩, first, Follows.cons (follows_nil _ _)⟩
        · rename_i passed
          obtain ⟨-, some, -, most⟩ : _ ∧ page.entries ≠ [] ∧ _ ∧ ¬total - entries.length < page.entries.length := by
            simpa only [not_or] using passed
          have grown : (entries ++ page.entries).length = entries.length + page.entries.length :=
            List.length_append
          have added := List.length_pos_iff.mpr some
          have own : ((answers [(⟨next entries.length, .ok page⟩ : Call κ (Except ε (EntityPage α)))]).flatMap
              (·.entries)).length = page.entries.length := by
            rw [answers_cons_ok, List.flatMap_cons]
            exact congrArg List.length (List.append_nil _)
          refine Tells.mono (ih (by rw [grown]; omega) (by rw [grown]; omega)) ?_ ?_
          · rintro value log ⟨length, same, few, follows⟩
            rw [grown] at few follows
            refine ⟨length, ?_, ?_, Follows.cons (own ▸ follows)⟩
            · rw [same, List.singleton_append, answers_cons_ok, List.flatMap_cons, List.append_assoc]
            · rw [List.singleton_append, List.length_cons]
              omega
          · rintro fault log ⟨named, few, follows⟩
            rw [grown] at few follows
            refine ⟨named, ?_, Follows.cons (own ▸ follows)⟩
            rw [List.singleton_append, List.length_cons]
            omega
    · rw [if_neg more]
      exact Tells.pure ⟨by omega, (List.append_nil entries).symm, Nat.zero_le _, follows_nil _ _⟩

/-- Whatever is answered, a list is read with at most one request more than it has entries. -/
theorem readEntities_tells (first : κ) (next : Nat → κ) (send : κ → Stateful σ ε (EntityPage α)) :
    Tells (readEntities first next (recording send)) (fun entries => EntitiesRead first next (.ok entries))
      (fun fault => EntitiesRead first next (.error fault)) := by
  unfold readEntities
  refine Tells.bind (adapt_recording_tells _ send first) ?_ ?_
  · rintro _ _ ⟨error, rfl, rfl⟩
    refine ⟨⟨_, [], rfl, follows_nil _ _⟩, Nat.le_add_left _ _, ?_, fun _ => nofun⟩
    rintro _ ⟨⟩
    exact ⟨_, rfl⟩
  · rintro page _ rfl
    refine Tells.mono (readEntityPages_tells next send _ (Nat.zero_le _) (Nat.le_add_left _ _)) ?_ ?_
    · rintro entries log ⟨length, same, few, follows⟩
      refine ⟨⟨_, log, rfl, follows⟩, Nat.succ_le_succ few, fun _ => nofun, ?_⟩
      rintro _ ⟨⟩
      exact ⟨page, answers log, rfl, same, length⟩
    · rintro _ log ⟨⟨error, rfl⟩, few, follows⟩
      refine ⟨⟨_, log, rfl, follows⟩, Nat.succ_le_succ few, ?_, fun _ => nofun⟩
      rintro _ ⟨⟩
      exact ⟨error, rfl⟩

/-- Reading a page never panics, and a page that is read is within the bounds that the transfers check. -/
theorem EntityPage.parse_yields (entry : UInt8 → UInt8 → α) (data : List UInt8) :
    Yields (fun page => page.entries.length ≤ 8 ∧ page.entries.length ≤ page.total.toNat)
      (EntityPage.parse entry data) := by
  have halves : ∀ n (bytes : List UInt8), bytes.length = n * 2 → (pairs entry bytes).length = n := by
    intro n
    induction n with
    | zero =>
      intro bytes none
      rw [List.length_eq_zero_iff.mp (none.trans (Nat.zero_mul 2))]
      rfl
    | succ n ih =>
      intro bytes even
      match bytes with
      | low :: high :: rest =>
        rw [pairs, List.length_cons, ih rest (by simp only [List.length_cons] at even; omega)]
      | [] => simp at even
      | [_] =>
        rw [List.length_singleton] at even
        omega
  unfold EntityPage.parse
  refine Yields.bind (checkedGroup_yields data (by decide)) fun _ long => ?_
  refine Yields.bind (yields_index (by omega)) fun count _ => ?_
  refine Yields.bind (yields_index (by omega)) fun total _ => ?_
  refine yields_check fun few => ?_
  refine Yields.bind (exactLength_yields data _) fun _ exact => ?_
  refine Yields.bind (yields_slice long (Nat.le_refl _)) fun bytes same => ?_
  refine Yields.pure ?_
  have length : (pairs entry bytes).length = count.toNat := by
    refine halves _ _ ?_
    rw [same, List.take_length, List.length_drop]
    omega
  simp only [length]
  omega

/-! ### A controller that holds lists -/

/-- What a controller holds for each entity, two bytes an entry, and how many entries it puts in the
page that starts after so many. -/
structure EntityStore where
  readings : TemperatureEntity → List (UInt8 × UInt8)
  records : TemperatureEntity → List (UInt8 × UInt8)
  size : Nat → Nat
  few : ∀ entity, (readings entity).length ≤ 255 ∧ (records entity).length ≤ 255
  paged : ∀ start, 0 < size start ∧ size start ≤ 8

namespace EntityStore

def entity (value : UInt8) : Option TemperatureEntity :=
  [.inlet, .cpu, .baseboard].find? fun entity => entity.value == value

/-- How many entries there are, and some of them. -/
def page (held : List (UInt8 × UInt8)) (start count : Nat) : List UInt8 :=
  let some := (held.drop start).take count
  0xDC :: UInt8.ofNat held.length :: UInt8.ofNat some.length :: some.flatMap fun one => [one.1, one.2]

/-- It counts readings from one, and sensor records from zero. -/
def answer (store : EntityStore) (command offset : UInt8) (entity : TemperatureEntity) : List UInt8 :=
  if command = 0x10 then page (store.readings entity) (offset.toNat - 1) (store.size (offset.toNat - 1))
  else if command = 0x07 then page (store.records entity) offset.toNat (store.size offset.toNat)
  else []

/-- What the controller answers a request with. -/
def respond (store : EntityStore) (message : Message) : List UInt8 :=
  match message.data with
  | [_, _, value, _, offset] => (entity value).elim [] (store.answer message.cmd offset)
  | _ => []

/-- A request for readings, sent to the controller. -/
def getTemperatureReadings (get : GetTemperatureReadings) :
    Stateful EntityStore (Fault DcmiError) (EntityPage TemperatureReading) := do
  let store ← MonadState.get
  checked (GetTemperatureReadings.parseSuccessResponse (store.respond get.message))

/-- A request for sensor records, sent to the controller. -/
def getSensorRecords (get : GetSensorRecords) : Stateful EntityStore (Fault DcmiError) (EntityPage UInt16) := do
  let store ← MonadState.get
  checked (GetSensorRecords.parseSuccessResponse (store.respond get.message))

theorem entity_value (entity : TemperatureEntity) : EntityStore.entity entity.value = some entity := by
  cases entity <;> decide

end EntityStore

theorem pairs_flatMap (entry : UInt8 → UInt8 → α) (held : List (UInt8 × UInt8)) :
    pairs entry (held.flatMap fun one => [one.1, one.2]) = held.map fun one => entry one.1 one.2 := by
  induction held with
  | nil => rfl
  | cons first held ih =>
    rw [List.flatMap_cons, List.map_cons, ← ih]
    rfl

theorem length_flatMap_pairs (held : List (UInt8 × UInt8)) :
    (held.flatMap fun one => [one.1, one.2]).length = held.length * 2 := by
  induction held with
  | nil => rfl
  | cons first held ih =>
    rw [List.flatMap_cons, List.length_append, ih, List.length_cons]
    simp only [List.length_cons, List.length_nil]
    omega

/-- What the controller answers with is read as the page that it is. -/
theorem EntityPage.parse_page (entry : UInt8 → UInt8 → α) (held : List (UInt8 × UInt8)) (start : Nat) {count : Nat}
    (few : held.length ≤ 255) (paged : count ≤ 8) :
    EntityPage.parse entry (EntityStore.page held start count) = pure ⟨UInt8.ofNat held.length,
      ((held.map fun one => entry one.1 one.2).drop start).take count⟩ := by
  unfold EntityStore.page
  dsimp only
  rw [← List.map_drop, ← List.map_take, ← pairs_flatMap]
  have most : ((held.drop start).take count).length ≤ held.length := by
    rw [List.length_take, List.length_drop]
    omega
  have short : ((held.drop start).take count).length ≤ 8 := by
    rw [List.length_take]
    omega
  generalize (held.drop start).take count = some at most short ⊢
  have total : (UInt8.ofNat held.length).toNat = held.length := by
    rw [UInt8.toNat_ofNat']
    omega
  have added : (UInt8.ofNat some.length).toNat = some.length := by
    rw [UInt8.toNat_ofNat']
    omega
  have bytes := length_flatMap_pairs some
  have passed : (checkedGroup (0xDC :: UInt8.ofNat held.length :: UInt8.ofNat some.length ::
      some.flatMap fun one => [one.1, one.2]) 3 : Checked DcmiError Unit) = pure () := by
    unfold checkedGroup
    rw [if_neg (by simp only [List.length_cons]; omega)]
    rfl
  have whole : (exactLength (0xDC :: UInt8.ofNat held.length :: UInt8.ofNat some.length ::
      some.flatMap fun one => [one.1, one.2]) (3 + (UInt8.ofNat some.length).toNat * 2) : Checked DcmiError Unit) =
        pure () := by
    refine if_pos ?_
    simp only [List.length_cons, bytes, added]
    omega
  have bounded : ¬(8 < (UInt8.ofNat some.length).toNat ∨
      (UInt8.ofNat held.length).toNat < (UInt8.ofNat some.length).toNat) := by omega
  unfold EntityPage.parse
  rw [passed]
  change (if 8 < (UInt8.ofNat some.length).toNat ∨
    (UInt8.ofNat held.length).toNat < (UInt8.ofNat some.length).toNat then _ else _) = _
  rw [if_neg bounded]
  rw [whole, slice_eq (by simp) (Nat.le_refl _), List.take_length]
  rfl

/-- A list is read to its end from whoever answers each request with a page of it. -/
theorem readEntities_held {first : κ} {next : Nat → κ} {send : κ → Stateful σ ε (EntityPage α)} {s : σ} {all : List α}
    (started : Ends (send first) s (fun page after => after = s ∧ page.total.toNat = all.length) (fun _ _ => False))
    (answered : ∀ read < all.length, Ends (send (next read)) s (fun page after => after = s ∧
      page.total.toNat = all.length ∧ ∃ count, 0 < count ∧ count ≤ 8 ∧ page.entries = (all.drop read).take count)
      (fun _ _ => False)) :
    Ends (readEntities first next send) s (fun entries after => after = s ∧ entries = all) (fun _ _ => False) := by
  have pages : ∀ turns read, read ≤ all.length → all.length ≤ read + turns →
      Ends (readEntityPages next send all.length turns (all.take read)) s
        (fun entries after => after = s ∧ entries = all) (fun _ _ => False) := by
    intro turns
    induction turns with
    | zero =>
      intro read within enough
      rw [readEntityPages, List.length_take_of_le within, if_neg (by omega)]
      exact Ends.pure ⟨rfl, List.take_of_length_le enough⟩
    | succ turns ih =>
      intro read within enough
      rw [readEntityPages, List.length_take_of_le within]
      by_cases more : read < all.length
      · rw [if_pos more]
        refine Ends.bind (Ends.adapt (Ends.mono (answered read more) (fun _ _ told => told)
          (fun _ _ never => never.elim))) (fun _ _ never => never) ?_
        rintro page _ ⟨rfl, total, count, some, short, same⟩
        have added : page.entries.length = min count (all.length - read) := by
          rw [same, List.length_take, List.length_drop]
        have part : page.entries = (all.drop read).take page.entries.length :=
          List.prefix_iff_eq_take.mp (same ▸ List.take_prefix _ _)
        have grown : all.take read ++ page.entries = all.take (read + page.entries.length) := by
          rw [List.take_add, ← part]
        rw [if_neg, grown]
        · exact ih _ (by omega) (by omega)
        · rintro (other | none | long | many)
          · exact other total
          · rw [none, List.length_nil] at added
            omega
          · omega
          · omega
      · rw [if_neg more]
        exact Ends.pure ⟨rfl, List.take_of_length_le (Nat.not_lt.mp more)⟩
  unfold readEntities
  refine Ends.bind (Ends.adapt (Ends.mono started (fun _ _ told => told) (fun _ _ never => never.elim)))
    (fun _ _ never => never) ?_
  rintro page _ ⟨rfl, total⟩
  dsimp only
  rw [total]
  exact pages _ 0 (Nat.zero_le _) (Nat.le_add_left _ _)

/-- A string that was written to a controller is what it is read as. -/
theorem writeString_readString (store : StringStore) (kind : StringKind) {bytes : List UInt8}
    (fits : bytes.length ≤ maxString) : ∃ after, (writeString kind bytes StringStore.set).eval store =
      (.ok .acknowledged, after) ∧ (readString kind StringStore.get).eval after = (.ok bytes, after) := by
  obtain ⟨_, _, wrote, rfl, held⟩ := (writeString_held store fits).returns
  obtain ⟨_, _, read, rfl, rfl⟩ := (readString_held held fits).returns
  exact ⟨_, wrote, read⟩

/-- A page that the controller holds is read from it. -/
theorem EntityStore.page_held (entry : UInt8 → UInt8 → α) (store : EntityStore) {held : List (UInt8 × UInt8)}
    (few : held.length ≤ 255) (start : Nat) :
    Ends (checked (EntityPage.parse entry (page held start (store.size start)))) store (fun got after => after = store ∧
      got.total.toNat = (held.map fun one => entry one.1 one.2).length ∧ ∃ count, 0 < count ∧ count ≤ 8 ∧
        got.entries = ((held.map fun one => entry one.1 one.2).drop start).take count) (fun _ _ => False) := by
  obtain ⟨some, short⟩ := store.paged start
  rw [EntityPage.parse_page entry held start few short]
  refine Ends.pure ⟨rfl, ?_, _, some, short, rfl⟩
  rw [UInt8.toNat_ofNat', List.length_map]
  omega

theorem EntityStore.getTemperatureReadings_held (store : EntityStore) (entity : TemperatureEntity) {offset start : Nat}
    (place : offset - 1 = start) (inside : offset ≤ 255) :
    Ends (getTemperatureReadings ⟨entity, 0, UInt8.ofNat offset⟩) store (fun got after => after = store ∧
      got.total.toNat = ((store.readings entity).map fun one => TemperatureReading.ofBytes one.1 one.2).length ∧
      ∃ count, 0 < count ∧ count ≤ 8 ∧ got.entries =
        (((store.readings entity).map fun one => TemperatureReading.ofBytes one.1 one.2).drop start).take count)
      (fun _ _ => False) := by
  subst place
  have number : (UInt8.ofNat offset).toNat = offset := by
    rw [UInt8.toNat_ofNat']
    omega
  have answered : store.respond (GetTemperatureReadings.message ⟨entity, 0, UInt8.ofNat offset⟩) =
      page (store.readings entity) (offset - 1) (store.size (offset - 1)) := by
    change (EntityStore.entity entity.value).elim [] (store.answer 0x10 (UInt8.ofNat offset)) = _
    rw [entity_value, Option.elim_some, answer, if_pos rfl, number]
  refine Ends.get_bind ?_
  rw [answered]
  exact store.page_held _ (store.few entity).1 _

theorem EntityStore.getSensorRecords_held (store : EntityStore) (entity : TemperatureEntity) {start : Nat}
    (inside : start ≤ 255) :
    Ends (getSensorRecords ⟨entity, UInt8.ofNat start⟩) store (fun got after => after = store ∧ got.total.toNat =
        ((store.records entity).map fun one => UInt16.ofNat (one.1.toNat + 256 * one.2.toNat)).length ∧
      ∃ count, 0 < count ∧ count ≤ 8 ∧ got.entries =
        (((store.records entity).map fun one => UInt16.ofNat (one.1.toNat + 256 * one.2.toNat)).drop start).take count)
      (fun _ _ => False) := by
  have number : (UInt8.ofNat start).toNat = start := by
    rw [UInt8.toNat_ofNat']
    omega
  have answered : store.respond (GetSensorRecords.message ⟨entity, UInt8.ofNat start⟩) =
      page (store.records entity) start (store.size start) := by
    change (EntityStore.entity entity.value).elim [] (store.answer 0x07 (UInt8.ofNat start)) = _
    rw [entity_value, Option.elim_some, answer, if_neg (by decide), if_pos rfl, number]
  refine Ends.get_bind ?_
  rw [answered]
  exact store.page_held _ (store.few entity).2 _

theorem EntityStore.readTemperatures_held (store : EntityStore) (entity : TemperatureEntity) :
    (readTemperatures entity getTemperatureReadings).eval store =
      (.ok ((store.readings entity).map fun one => TemperatureReading.ofBytes one.1 one.2), store) := by
  have few := (store.few entity).1
  have first := Ends.mono (store.getTemperatureReadings_held entity (rfl : 0 - 1 = 0) (Nat.zero_le _))
    (fun _ _ told => And.intro told.1 told.2.1) (fun _ _ never => never)
  have held := readEntities_held first fun read inside =>
    store.getTemperatureReadings_held entity (Nat.add_sub_cancel read 1) (by rw [List.length_map] at inside; omega)
  obtain ⟨_, _, read, rfl, rfl⟩ := held.returns
  exact read

theorem EntityStore.readSensorRecords_held (store : EntityStore) (entity : TemperatureEntity) :
    (readSensorRecords entity getSensorRecords).eval store =
      (.ok ((store.records entity).map fun one => UInt16.ofNat (one.1.toNat + 256 * one.2.toNat)), store) := by
  have few := (store.few entity).2
  have first := Ends.mono (store.getSensorRecords_held entity (Nat.zero_le _))
    (fun _ _ told => And.intro told.1 told.2.1) (fun _ _ never => never)
  have held := readEntities_held first fun read inside =>
    store.getSensorRecords_held entity (by rw [List.length_map] at inside; omega)
  obtain ⟨_, _, read, rfl, rfl⟩ := held.returns
  exact read

/-- Paged transfers are exact and bounded: a string that was written is read, a list that a controller holds is
read to its end, and whatever is answered, the requests are few and go on from what was read, none panics or
runs on, and what is returned is what was announced and nothing else. -/
theorem paged_transfers_exact :
    (∀ (store : StringStore) (kind : StringKind) (bytes : List UInt8), bytes.length ≤ maxString →
      ∃ after, (writeString kind bytes StringStore.set).eval store = (.ok .acknowledged, after) ∧
        (readString kind StringStore.get).eval after = (.ok bytes, after)) ∧
    (∀ (store : EntityStore) (entity : TemperatureEntity),
      (readTemperatures entity EntityStore.getTemperatureReadings).eval store =
        (.ok ((store.readings entity).map fun one => TemperatureReading.ofBytes one.1 one.2), store) ∧
      (readSensorRecords entity EntityStore.getSensorRecords).eval store =
        (.ok ((store.records entity).map fun one => UInt16.ofNat (one.1.toNat + 256 * one.2.toNat)), store)) ∧
    (∀ data, StringPage.parse data ≠ panicked ∧ ack data ≠ panicked ∧
      GetTemperatureReadings.parseSuccessResponse data ≠ panicked ∧
      GetSensorRecords.parseSuccessResponse data ≠ panicked) ∧
    ∀ (σ ε : Type) (s : σ),
      (∀ (kind : StringKind) (send : GetString → Stateful σ ε StringPage),
        let ran := (readString kind (recording send)).eval (s, [])
        StringRead ran.1 ran.2.2) ∧
      (∀ (kind : StringKind) (bytes : List UInt8) (send : SetString → Stateful σ ε MutationOutcome),
        let ran := (writeString kind bytes (recording send)).eval (s, [])
        StringWritten bytes ran.1 ran.2.2) ∧
      (∀ (entity : TemperatureEntity)
          (send : GetTemperatureReadings → Stateful σ ε (EntityPage TemperatureReading)),
        let ran := (readTemperatures entity (recording send)).eval (s, [])
        EntitiesRead ⟨entity, 0, 0⟩ (fun read => ⟨entity, 0, UInt8.ofNat (read + 1)⟩) ran.1 ran.2.2) ∧
      ∀ (entity : TemperatureEntity) (send : GetSensorRecords → Stateful σ ε (EntityPage UInt16)),
        let ran := (readSensorRecords entity (recording send)).eval (s, [])
        EntitiesRead ⟨entity, 0⟩ (fun read => ⟨entity, UInt8.ofNat read⟩) ran.1 ran.2.2 := by
  refine ⟨fun store kind bytes fits => writeString_readString store kind fits,
    fun store entity => ⟨store.readTemperatures_held entity, store.readSensorRecords_held entity⟩,
    fun data => ⟨(StringPage.parse_yields data).ne_panicked, (ack_yields data).ne_panicked,
      (EntityPage.parse_yields _ data).ne_panicked, (EntityPage.parse_yields _ data).ne_panicked⟩,
    fun σ ε s => ⟨fun kind send => ?_, fun kind bytes send => ?_, fun entity send => ?_, fun entity send => ?_⟩⟩
  · exact (readString_tells send kind).result s
  · exact (writeString_tells send kind bytes).result s
  · exact (readEntities_tells _ _ send).result s
  · exact (readEntities_tells _ _ send).result s

/-- Ten readings of the processors, in pages of four. -/
def tenReadings : EntityStore where
  readings entity :=
    if entity = .cpu then (List.range 10).map fun k => (UInt8.ofNat (20 + k), UInt8.ofNat (k + 1)) else []
  records _ := []
  size _ := 4
  few entity := by cases entity <;> decide
  paged _ := by decide

/-- A string of three chunks is written and read back, and ten readings are read in three pages. -/
theorem paged_transfers_exact_ten :
    (∃ after, (writeString .assetTag (List.replicate 40 0x41) StringStore.set).eval ⟨fun _ => [], fun _ => 0⟩ =
        (.ok .acknowledged, after) ∧
      (readString .assetTag StringStore.get).eval after = (.ok (List.replicate 40 0x41), after)) ∧
    (readTemperatures .cpu EntityStore.getTemperatureReadings).eval tenReadings =
      (.ok ((List.range 10).map fun k => ⟨UInt8.ofNat (k + 1), 20 + k⟩), tenReadings) :=
  ⟨paged_transfers_exact.1 _ _ _ (by decide), (paged_transfers_exact.2.1 tenReadings .cpu).1⟩

end IpmiRs.Dcmi
