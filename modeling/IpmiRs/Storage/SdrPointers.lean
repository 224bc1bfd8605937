import IpmiRs.Storage.SdrTraversal

/-! The replies of a traversal: the ID that the header of the first record
reports, the next pointers, and which of them are followed. A traversal that
follows no pointer to that ID yields no record ID twice. -/
namespace IpmiRs.Storage
open Connection App Library.Bytes

/-! ### What is on the wire -/

/-- The record of which a request reads a part, and where the part begins. -/
def partAsked (request : Request) : Option (RecordId × Nat) :=
  if (request.netfn = .storage ∧ request.cmd = 0x23) ∨ (request.netfn = .sensorEvent ∧ request.cmd = 0x21) then
    match request.data with
    | [_, _, low, high, offset, _] => some (.ofBytes low high, offset.toNat)
    | _ => none
  else none

section wire
variable {ε : Type}

/-- The next pointer that a reply returns, and the part of the record. -/
def partReturned : Except ε Response → Option (RecordId × List UInt8)
  | .error _ => none
  | .ok response =>
    if response.cc = 0 then
      match response.data with
      | low :: high :: part => some (.ofBytes low high, part)
      | _ => none
    else none

/-- The next pointer that an exchange brings, if it reads a part of a record. -/
def nextPointer (one : Exchange ε) : Option RecordId :=
  (partAsked one.request).bind fun _ => (partReturned one.reply).map Prod.fst

/-- The byte at a place of the first record, if an exchange brings it. -/
def firstByte (place : Nat) (one : Exchange ε) : Option UInt8 :=
  (partAsked one.request).bind fun (record, start) => (partReturned one.reply).bind fun (_, part) =>
    if record = .FIRST ∧ start ≤ place then part[place - start]? else none

/-- The byte at a place of the first record, as the last reply with it has it. -/
def lastFirstByte (place : Nat) (log : List (Exchange ε)) : Option UInt8 :=
  log.reverse.findSome? (firstByte place)

/-- The ID that the header of the first record reports. -/
def reportedFirst (log : List (Exchange ε)) : Option RecordId :=
  (lastFirstByte 0 log).bind fun low => (lastFirstByte 1 log).map (.ofBytes low)

/-- A next pointer to the ID that the header of the first record reports was
followed: after it, the header of the record with that ID was asked for. -/
def LeadsBack (log : List (Exchange ε)) : Prop :=
  ∃ id, reportedFirst log = some id ∧ ∃ i, (∃ one ∈ log.take i, nextPointer one = some id) ∧
    ∃ one ∈ log.drop i, partAsked one.request = some (id, 0)

theorem lastFirstByte_append (place : Nat) (earlier later : List (Exchange ε)) :
    lastFirstByte place (earlier ++ later) = (lastFirstByte place later).or (lastFirstByte place earlier) := by
  rw [lastFirstByte, List.reverse_append, List.findSome?_append]
  rfl

/-- Exchanges that read nothing of the first record report nothing new of it. -/
theorem reportedFirst_append {earlier later : List (Exchange ε)}
    (others : ∀ one ∈ later, ∀ offset, partAsked one.request ≠ some (.FIRST, offset)) :
    reportedFirst (earlier ++ later) = reportedFirst earlier := by
  have nothing (place : Nat) : lastFirstByte place later = none := by
    rw [lastFirstByte, List.findSome?_eq_none_iff]
    intro one among
    have other := others one (List.mem_reverse.mp among)
    unfold firstByte
    cases asked : partAsked one.request with
    | none => rfl
    | some part =>
      obtain ⟨record, start⟩ := part
      have later : record ≠ .FIRST := fun same => other start (by rw [asked, same])
      simp [later]
  rw [reportedFirst, reportedFirst, lastFirstByte_append, lastFirstByte_append, nothing, nothing,
    Option.none_or, Option.none_or]

theorem toLe_two (n : Nat) : toLe 2 n = [UInt8.ofNat n, UInt8.ofNat (n / 256)] := rfl

/-- A read of a part of a record asks for it. -/
theorem partAsked_readSdr (source : SdrSource) (reservation : Option NonZeroU16) (id : RecordId)
    {offset : Nat} (fits : offset ≤ 0xFF) (length : UInt8) :
    partAsked (readSdr source reservation id (UInt8.ofNat offset) length).request = some (id, offset) := by
  have round : (UInt8.ofNat offset).toNat = offset := by
    rw [UInt8.toNat_ofNat']
    omega
  obtain ⟨low, high, written, same⟩ := SdrIter.toLe_id id
  cases source <;> simp [partAsked, readSdr, IpmiCommand.request, Request.netfn, Request.cmd, Request.data,
    Message.newRequest, toLe_two (reservation.elim 0 _), written, same, round] <;> rfl

/-- A part that is read is what the reply returns. -/
theorem partReturned_chunk {source : SdrSource} {reservation : Option NonZeroU16} {id : RecordId}
    {offset length : UInt8} {reply : Except ε Response} {chunk : SdrChunk}
    (read : (readSdr source reservation id offset length).readReply reply = .ok chunk) :
    partReturned reply = some (chunk.nextEntry, chunk.data) := by
  obtain ⟨response, rfl, -, -, success, parsed⟩ := IpmiCommand.readReply_eq_ok.mp read
  have parsed : parseChunk response.data = .ok chunk := parsed
  unfold partReturned
  dsimp only
  rw [if_pos success]
  generalize response.data = data at parsed ⊢
  rcases data with _ | ⟨low, _ | ⟨high, part⟩⟩
  · cases parsed
  · cases parsed
  · cases parsed
    rfl

theorem nextPointer_chunk {request : Request} {reply : Except ε Response} {asked : RecordId × Nat}
    {next : RecordId} {part : List UInt8} (asks : partAsked request = some asked)
    (returned : partReturned reply = some (next, part)) : nextPointer ⟨request, reply⟩ = some next := by
  rw [nextPointer, asks, returned]
  rfl

/-- A refusal returns nothing of a record. -/
theorem partReturned_refused {α β : Type} {command : IpmiCommand α β} {reply : Except ε Response}
    {netfn : NetFn} {cmd : UInt8} {code : CompletionErrorCode} {detail : List UInt8}
    (refused : command.readReply reply = .error (.failed netfn cmd code detail)) : partReturned reply = none := by
  cases reply with
  | error error => rfl
  | ok response =>
    have failed : response.cc ≠ 0 := by
      intro success
      have known := (CompletionErrorCode.ofByte_eq_none response.cc).mpr success
      simp only [IpmiCommand.readReply, IpmiCommand.read, known] at refused
      split at refused
      · cases refused
      · split at refused <;> cases refused
    exact if_neg failed

end wire

namespace SdrIter
variable {ε : Type}

/-- What is exchanged between two states of a traversal. -/
structure Heard (s t : SdrIter ε) (log : List (Exchange ε)) : Prop where
  onward : s.link.Extends t.link
  since : t.link.since s.link = log

theorem Heard.refl (s : SdrIter ε) : Heard s s [] := ⟨.refl _, Link.since_self _⟩

theorem Heard.trans {s t u : SdrIter ε} {first second : List (Exchange ε)} (before : Heard s t first)
    (after : Heard t u second) : Heard s u (first ++ second) := by
  refine ⟨before.onward.trans after.onward, ?_⟩
  rw [Link.since_trans before.onward after.onward, before.since, after.since]

/-- A command is one exchange, and its result is what it makes of the reply. -/
theorem send_heard {α β : Type} (s : SdrIter ε) (command : IpmiCommand α β) :
    ∃ reply, Heard s (s.send command).2 [⟨command.request, reply⟩] ∧
      (s.send command).1 = command.readReply reply := by
  refine ⟨s.link.reply (s.link.sent ++ [command.request]), ⟨?_, ?_⟩, Link.sendRecv_result s.link command⟩
  · exact (Link.Extends.refl s.link).sendRecv command
  · have told := Link.since_sendRecv (Link.Extends.refl s.link) command
    rwa [Link.since_self, List.nil_append] at told

/-- Every exchange reads a part of one record. -/
def OfRecord (id : RecordId) (log : List (Exchange ε)) : Prop :=
  ∀ one ∈ log, ∃ offset, partAsked one.request = some (id, offset)

/-- What the exchanges of a read say of the bytes and of the pointer it returns;
`data` and `nextId` were there before. -/
structure PartsRead (id : RecordId) (start : Nat) (data : List UInt8) (nextId : Option RecordId)
    (log : List (Exchange ε)) (bytes : List UInt8) (next : Option RecordId) : Prop where
  pointer : next = nextId ∨ ∃ one ∈ log, nextPointer one = next
  first : id = .FIRST → start = 0 → ∀ earlier : List (Exchange ε),
    (∀ k < data.length, lastFirstByte k earlier = data[k]?) →
    ∀ k < bytes.length, lastFirstByte k (earlier ++ log) = bytes[k]?

/-- An exchange that returns nothing of a record reports nothing of the first. -/
theorem lastFirstByte_refused {one : Exchange ε} (refused : partReturned one.reply = none) (place : Nat)
    (earlier : List (Exchange ε)) : lastFirstByte place (earlier ++ [one]) = lastFirstByte place earlier := by
  have nothing : firstByte place one = none := by
    unfold firstByte
    rw [refused]
    cases partAsked one.request <;> rfl
  rw [lastFirstByte_append]
  simp [lastFirstByte, nothing]

/-- A part of the first record adds its bytes to those that were reported. -/
theorem lastFirstByte_chunk {one : Exchange ε} {data part : List UInt8} {next : RecordId}
    (asked : partAsked one.request = some (.FIRST, data.length))
    (returned : partReturned one.reply = some (next, part)) {earlier : List (Exchange ε)}
    (known : ∀ k < data.length, lastFirstByte k earlier = data[k]?) :
    ∀ k < (data ++ part).length, lastFirstByte k (earlier ++ [one]) = (data ++ part)[k]? := by
  intro k within
  have brought : lastFirstByte k [one] = if data.length ≤ k then part[k - data.length]? else none := by
    simp [lastFirstByte, firstByte, asked, returned]
  rw [lastFirstByte_append, brought]
  by_cases new : data.length ≤ k
  · rw [if_pos new, List.getElem?_append_right new]
    rw [List.length_append] at within
    rw [List.getElem?_eq_getElem (by omega), Option.some_or]
  · rw [if_neg new, Option.none_or, known k (Nat.lt_of_not_le new), List.getElem?_append_left (Nat.lt_of_not_le new)]

theorem PartsRead.untouched {id : RecordId} {start : Nat} {data bytes : List UInt8} {nextId next : Option RecordId}
    (same : (.ok (data, nextId) : Except (SdrError ε) _) = .ok (bytes, next)) :
    PartsRead id start data nextId ([] : List (Exchange ε)) bytes next := by
  cases same
  refine ⟨.inl rfl, fun _ _ earlier known => ?_⟩
  rwa [List.append_nil]

/-- A read of a range asks for its start first, and returns what was replied. -/
theorem readBytesFrom_heard (id : RecordId) (start length left : Nat) (s : SdrIter ε)
    (data : List UInt8) (nextId : Option RecordId) :
    ∃ log, Heard s (readBytesFrom id start length left s data nextId).2 log ∧ OfRecord id log ∧
      ∀ bytes next, (readBytesFrom id start length left s data nextId).1 = .ok (bytes, next) →
        PartsRead id start data nextId log bytes next ∧
        (0 < left → data.length < length →
          ∃ one ∈ log, partAsked one.request = some (id, start + data.length)) := by
  induction left generalizing s data nextId with
  | zero =>
    exact ⟨[], .refl s, by simp [OfRecord], fun bytes next same =>
      ⟨.untouched same, fun absurd => (Nat.lt_irrefl 0 absurd).elim⟩⟩
  | succ left ih =>
    unfold readBytesFrom
    by_cases complete : length ≤ data.length
    · rw [if_pos complete]
      exact ⟨[], .refl s, by simp [OfRecord], fun bytes next same =>
        ⟨.untouched same, fun _ more => absurd complete (Nat.not_le_of_lt more)⟩⟩
    rw [if_neg complete]
    dsimp only
    by_cases far : 0xFF < start + data.length
    · rw [if_pos far]
      exact ⟨[], .refl s, by simp [OfRecord], fun bytes next same => by cases same⟩
    rw [if_neg far]
    generalize count : UInt8.ofNat (min (length - data.length) s.readLimit) = requested
    have asks := partAsked_readSdr s.chosen s.reservation id (Nat.le_of_not_lt far) requested
    obtain ⟨reply, sent, result⟩ :=
      s.send_heard (readSdr s.chosen s.reservation id (UInt8.ofNat (start + data.length)) requested)
    generalize shape : readSdr s.chosen s.reservation id (UInt8.ofNat (start + data.length)) requested = command
      at asks sent result
    have own : OfRecord id [(⟨command.request, reply⟩ : Exchange ε)] :=
      List.forall_mem_singleton.mpr ⟨_, asks⟩
    split
    · rename_i netfn cmd code detail after failed
      rw [failed] at sent result
      have refused := partReturned_refused result.symm
      split
      · obtain ⟨log, heard, ofRecord, read⟩ := ih { after with
          readLimit := max (min (length - data.length) s.readLimit / 2) 1 } data nextId
        have onward : Heard s _ ([⟨command.request, reply⟩] ++ log) := sent.trans ⟨heard.onward, heard.since⟩
        refine ⟨_, onward, List.forall_mem_append.mpr ⟨own, ofRecord⟩, fun bytes next same => ?_⟩
        obtain ⟨parts, -⟩ := read bytes next same
        refine ⟨⟨parts.pointer.imp_right ?_, ?_⟩, fun _ _ => ⟨_, List.mem_append_left _ (List.mem_singleton.mpr rfl), asks⟩⟩
        · rintro ⟨one, among, points⟩
          exact ⟨one, List.mem_append_right _ among, points⟩
        · intro first zero earlier known
          rw [← List.append_assoc]
          apply parts.first first zero
          intro k within
          rw [lastFirstByte_refused refused]
          exact known k within
      · exact ⟨_, sent, own, fun bytes next same => by cases same⟩
    · rename_i failed
      rw [failed] at sent
      exact ⟨_, sent, own, fun bytes next same => by cases same⟩
    · rename_i chunk after answered
      rw [answered] at sent result
      subst shape
      have returned := partReturned_chunk result.symm
      have points := nextPointer_chunk asks returned
      split
      · exact ⟨_, sent, own, fun bytes next same => by cases same⟩
      split
      · exact ⟨_, sent, own, fun bytes next same => by cases same⟩
      rename_i kept
      obtain ⟨log, heard, ofRecord, read⟩ := ih after (data ++ chunk.data) (nextId.or (some chunk.nextEntry))
      refine ⟨_, sent.trans heard, List.forall_mem_append.mpr ⟨own, ofRecord⟩, fun bytes next same => ?_⟩
      obtain ⟨parts, -⟩ := read bytes next same
      refine ⟨⟨?_, ?_⟩, fun _ _ => ⟨_, List.mem_append_left _ (List.mem_singleton.mpr rfl), asks⟩⟩
      · rcases parts.pointer with same | ⟨one, among, points⟩
        · cases nextId with
          | none => exact .inr ⟨_, List.mem_append_left _ (List.mem_singleton.mpr rfl), points.trans same.symm⟩
          | some id => exact .inl same
        · exact .inr ⟨one, List.mem_append_right _ among, points⟩
      · intro first zero earlier known
        subst first zero
        have placed := asks.trans (by rw [Nat.zero_add])
        rw [← List.append_assoc]
        exact parts.first rfl rfl _ (lastFirstByte_chunk placed returned known)

theorem readBytes_heard (s : SdrIter ε) (id : RecordId) (start length : Nat) (expectedNext : Option RecordId) :
    ∃ log, Heard s (s.readBytes id start length expectedNext).2 log ∧ OfRecord id log ∧
      ∀ bytes next, (s.readBytes id start length expectedNext).1 = .ok (bytes, next) →
        (∃ nextId, next = nextId.getD .FIRST ∧ PartsRead id start [] expectedNext log bytes nextId) ∧
        (0 < length → ∃ one ∈ log, partAsked one.request = some (id, start)) := by
  obtain ⟨log, heard, own, read⟩ :=
    readBytesFrom_heard id start length (length + s.readLimit) s [] expectedNext
  refine ⟨log, ?_⟩
  unfold readBytes
  split
  · rename_i failed
    rw [failed] at heard
    exact ⟨heard, own, fun bytes next same => by cases same⟩
  · rename_i data nextId after done
    rw [done] at heard read
    refine ⟨heard, own, fun bytes next same => ?_⟩
    cases same
    obtain ⟨parts, begun⟩ := read data nextId rfl
    exact ⟨⟨nextId, rfl, parts⟩, fun more => begun (Nat.add_pos_left more _) more⟩

/-- Nothing of the first record is asked for under its pseudo-ID. -/
def SkipsFirst (log : List (Exchange ε)) : Prop :=
  ∀ one ∈ log, ∀ offset, partAsked one.request ≠ some (.FIRST, offset)

theorem OfRecord.skipsFirst {id : RecordId} {log : List (Exchange ε)} (own : OfRecord id log)
    (later : id ≠ .FIRST) : SkipsFirst log := by
  intro one among offset asked
  obtain ⟨place, asks⟩ := own one among
  rw [asks] at asked
  cases asked
  exact later rfl

theorem SkipsFirst.append {first second : List (Exchange ε)} (before : SkipsFirst first)
    (after : SkipsFirst second) : SkipsFirst (first ++ second) := List.forall_mem_append.mpr ⟨before, after⟩

/-- A command that reads no part of a record. -/
theorem send_skipsFirst {α β : Type} (s : SdrIter ε) {command : IpmiCommand α β}
    (other : partAsked command.request = none) :
    ∃ log, Heard s (s.send command).2 log ∧ SkipsFirst log := by
  obtain ⟨reply, heard, -⟩ := s.send_heard command
  refine ⟨_, heard, List.forall_mem_singleton.mpr fun offset asked => ?_⟩
  rw [other] at asked
  cases asked

theorem readBody_heard (s : SdrIter ε) {id headerId : RecordId} (nextId : RecordId) (length : Nat)
    (real : id = .FIRST → headerId ≠ .FIRST) :
    ∃ log, Heard s (s.readBody id headerId nextId length).2 log ∧ SkipsFirst log := by
  unfold readBody
  by_cases empty : length ≠ 0
  · rw [if_pos empty]
    have later : (if id.isFirst then headerId else id) ≠ .FIRST := by
      by_cases first : id = .FIRST
      · rw [if_pos (id.isFirst_iff.mpr first)]
        exact real first
      · rw [if_neg (mt id.isFirst_iff.mp first)]
        exact first
    obtain ⟨log, heard, own, -⟩ :=
      s.readBytes_heard (if id.isFirst then headerId else id) 5 length (some nextId)
    refine ⟨log, ?_, own.skipsFirst later⟩
    split
    · rename_i failed
      rwa [failed] at heard
    · rename_i done
      rwa [done] at heard
  · rw [if_neg empty]
    exact ⟨[], .refl s, by simp [SkipsFirst]⟩

/-- What the exchanges of a read say of the record it returns. -/
structure RecordRead (id : RecordId) (log : List (Exchange ε)) (record : Record) (next : RecordId) : Prop where
  begun : ∃ one ∈ log, partAsked one.request = some (id, 0)
  pointer : ∃ one ∈ log, nextPointer one = some next
  reported : id = .FIRST → ∀ earlier : List (Exchange ε), reportedFirst (earlier ++ log) = some record.header.id

/-- Exchanges before a read. -/
theorem RecordRead.past {id next : RecordId} {record : Record} {log : List (Exchange ε)}
    (read : RecordRead id log record next) (before : List (Exchange ε)) :
    RecordRead id (before ++ log) record next where
  begun := by
    obtain ⟨one, among, asks⟩ := read.begun
    exact ⟨one, List.mem_append_right _ among, asks⟩
  pointer := by
    obtain ⟨one, among, points⟩ := read.pointer
    exact ⟨one, List.mem_append_right _ among, points⟩
  reported first earlier := by
    rw [← List.append_assoc]
    exact read.reported first _

/-- Exchanges after a read that read nothing of the first record. -/
theorem RecordRead.ahead {id next : RecordId} {record : Record} {log after : List (Exchange ε)}
    (read : RecordRead id log record next) (others : SkipsFirst after) :
    RecordRead id (log ++ after) record next where
  begun := by
    obtain ⟨one, among, asks⟩ := read.begun
    exact ⟨one, List.mem_append_left _ among, asks⟩
  pointer := by
    obtain ⟨one, among, points⟩ := read.pointer
    exact ⟨one, List.mem_append_left _ among, points⟩
  reported first earlier := by
    rw [← List.append_assoc, reportedFirst_append others]
    exact read.reported first _

theorem readRecordOnce_heard (s : SdrIter ε) (id : RecordId) (limit : 1 ≤ s.readLimit) :
    ∃ log, Heard s (s.readRecordOnce id).2 log ∧ (id ≠ .FIRST → SkipsFirst log) ∧
      ∀ record next, (s.readRecordOnce id).1 = .ok (record, next) → RecordRead id log record next := by
  obtain ⟨-, whole⟩ := s.readBytes_spec id 0 5 none limit
  obtain ⟨log, heard, own, read⟩ := s.readBytes_heard id 0 5 none
  unfold readRecordOnce
  split
  · rename_i failed
    rw [failed] at heard
    exact ⟨log, heard, own.skipsFirst, fun record next same => by cases same⟩
  rename_i header nextId after done
  rw [done] at heard whole read
  have five : header.length = 5 := whole _ _ rfl
  obtain ⟨⟨found, named, parts⟩, begun⟩ := read header nextId rfl
  match header, five with
  | [low, high, version, ty, length], _ =>
  dsimp only
  split
  · exact ⟨log, heard, own.skipsFirst, fun record next same => by cases same⟩
  rename_i genuine
  split
  · exact ⟨log, heard, own.skipsFirst, fun record next same => by cases same⟩
  rename_i ahead
  simp only [Bool.or_eq_true, RecordId.isFirst_iff, not_or] at ahead
  have real : id = .FIRST → RecordId.ofBytes low high ≠ .FIRST := by
    rintro rfl same
    apply genuine
    simp only [List.getElem!_cons_zero, List.getElem!_cons_succ, same]
    rfl
  obtain ⟨rest, body, others⟩ := after.readBody_heard nextId length.toNat real
  have skips : id ≠ .FIRST → SkipsFirst (log ++ rest) := fun later => (own.skipsFirst later).append others
  split
  · rename_i error last failed
    have failed : after.readBody id (.ofBytes low high) nextId length.toNat = (.error error, last) := failed
    rw [failed] at body
    exact ⟨_, heard.trans body, skips, fun record next same => by cases same⟩
  rename_i bytes last got
  have got : after.readBody id (.ofBytes low high) nextId length.toNat = (.ok bytes, last) := got
  rw [got] at body
  split
  · exact ⟨_, heard.trans body, skips, fun record next same => by cases same⟩
  rename_i record parsed
  refine ⟨_, heard.trans body, skips, fun record next same => ?_⟩
  cases same
  have read : RecordRead id log record nextId := by
    refine ⟨begun (by decide), ?_, fun first earlier => ?_⟩
    · rcases parts.pointer with rfl | ⟨one, among, points⟩
      · exact absurd named ahead.1.1
      · cases found with
        | none => exact absurd named ahead.1.1
        | some pointer => exact ⟨one, among, points.trans (congrArg some named.symm)⟩
    · have known := parts.first first rfl earlier (by simp)
      have zero : lastFirstByte 0 (earlier ++ log) = some low := known 0 (Nat.zero_lt_succ 4)
      have one : lastFirstByte 1 (earlier ++ log) = some high := known 1 (Nat.one_lt_succ_succ 3)
      rw [if_pos (id.isFirst_iff.mpr first)] at parsed
      rw [reportedFirst, zero, one]
      exact congrArg some (Record.parse_id parsed).symm
  exact read.ahead others

theorem reserve_heard (s : SdrIter ε) : ∃ log, Heard s s.reserve.2 log ∧ SkipsFirst log := by
  have other : partAsked (reserveSdr s.chosen).request = none := by cases s.chosen <;> rfl
  obtain ⟨log, heard, skips⟩ := s.send_skipsFirst other
  refine ⟨log, ?_, skips⟩
  unfold reserve
  split
  · rename_i failed
    rwa [failed] at heard
  · rename_i granted
    rw [granted] at heard
    exact ⟨heard.onward, heard.since⟩

theorem readRecordAttempts_heard (id : RecordId) (left : Nat) (s : SdrIter ε) (limit : 1 ≤ s.readLimit) :
    ∃ log, Heard s (readRecordAttempts id left s).2 log ∧ (id ≠ .FIRST → SkipsFirst log) ∧
      ∀ record next, (readRecordAttempts id left s).1 = .ok (record, next) → RecordRead id log record next := by
  induction left generalizing s with
  | zero =>
    obtain ⟨log, heard, skips, read⟩ := s.readRecordOnce_heard id limit
    unfold readRecordAttempts
    dsimp only
    split
    · exact ⟨log, heard, skips, fun record next same => by cases same⟩
    · exact ⟨log, heard, skips, read⟩
  | succ left ih =>
    obtain ⟨log, heard, skips, read⟩ := s.readRecordOnce_heard id limit
    obtain ⟨frame, -⟩ := s.readRecordOnce_spec id limit
    unfold readRecordAttempts
    dsimp only
    split
    · obtain ⟨renewal, renewed, others⟩ := (s.readRecordOnce id).2.reserve_heard
      have reserved := (s.readRecordOnce id).2.reserve_frame
      have both : id ≠ .FIRST → SkipsFirst (log ++ renewal) := fun later => (skips later).append others
      split
      · rename_i failed
        rw [failed] at renewed
        exact ⟨_, heard.trans renewed, both, fun record next same => by cases same⟩
      · rename_i after granted
        rw [granted] at renewed reserved
        obtain ⟨again, more, skipsAgain, readAgain⟩ := ih after ((frame.trans reserved).limit limit)
        exact ⟨_, (heard.trans renewed).trans more, fun later => (both later).append (skipsAgain later),
          fun record next same => (readAgain record next same).past _⟩
    · exact ⟨log, heard, skips, read⟩

/-- Beginning a traversal reads no record. -/
theorem chooseSource_heard (s : SdrIter ε) : ∃ log, Heard s s.chooseSource.2 log ∧ SkipsFirst log := by
  unfold chooseSource
  split
  · exact ⟨[], .refl s, by simp [SkipsFirst]⟩
  obtain ⟨log, heard, skips⟩ := send_skipsFirst s (rfl : partAsked getDeviceId.request = none)
  refine ⟨log, ?_, skips⟩
  split
  · rename_i failed
    rwa [failed] at heard
  · rename_i answered
    rw [answered] at heard
    split
    · exact ⟨heard.onward, heard.since⟩
    · split
      · exact ⟨heard.onward, heard.since⟩
      · exact heard

theorem sourceInfo_heard (s : SdrIter ε) : ∃ log, Heard s s.sourceInfo.2 log ∧ SkipsFirst log := by
  unfold sourceInfo
  split
  · obtain ⟨log, heard, skips⟩ := send_skipsFirst s (rfl : partAsked getSdrRepositoryInfo.request = none)
    refine ⟨log, ?_, skips⟩
    split
    · rename_i failed
      rwa [failed] at heard
    · rename_i answered
      rwa [answered] at heard
  · obtain ⟨log, heard, skips⟩ := send_skipsFirst s (rfl : partAsked getDeviceSdrInfo.request = none)
    refine ⟨log, ?_, skips⟩
    split
    · rename_i failed
      rwa [failed] at heard
    · rename_i answered
      rwa [answered] at heard

theorem initializeIter_heard (s : SdrIter ε) :
    ∃ log, Heard s s.initializeIter.2 log ∧ SkipsFirst log := by
  obtain ⟨first, chosen, skips⟩ := s.chooseSource_heard
  unfold initializeIter
  split
  · rename_i failed
    rw [failed] at chosen
    exact ⟨first, chosen, skips⟩
  rename_i after settled
  rw [settled] at chosen
  obtain ⟨second, informed, skips'⟩ := after.sourceInfo_heard
  split
  · rename_i failed
    rw [failed] at informed
    exact ⟨_, chosen.trans informed, skips.append skips'⟩
  rename_i count supported last known
  rw [known] at informed
  have heard := chosen.trans informed
  dsimp only
  split
  · exact ⟨_, ⟨heard.onward, heard.since⟩, skips.append skips'⟩
  split
  · obtain ⟨third, reserved, skips''⟩ := { last with reservationSupported := supported }.reserve_heard
    have whole : Heard s _ (first ++ second ++ third) := heard.trans ⟨reserved.onward, reserved.since⟩
    refine ⟨_, ?_, (skips.append skips').append skips''⟩
    split
    · rename_i failed
      rwa [failed] at whole
    · rename_i granted
      rw [granted] at whole
      exact ⟨whole.onward, whole.since⟩
  · exact ⟨_, ⟨heard.onward, heard.since⟩, skips.append skips'⟩

/-- A call that yields a record read it under the pending ID, and goes on to a
pointer that was replied. -/
theorem next_heard (s : SdrIter ε) (limit : 1 ≤ s.readLimit) :
    ∃ log, Heard s s.next.2 log ∧ ∀ record, s.next.1 = some (.ok record) →
      ∃ id next, s.nextId = some id ∧ s.next.2.nextId = some next ∧ RecordRead id log record next ∧
        (id ≠ .FIRST → SkipsFirst log) := by
  unfold next
  split
  · exact ⟨[], .refl s, fun record same => by cases same⟩
  obtain ⟨before, started, skips, kept, pending⟩ :
      ∃ log, Heard s (if s.initialized then (.ok (), s) else s.initializeIter).2 log ∧ SkipsFirst log ∧
        1 ≤ (if s.initialized then (.ok (), s) else s.initializeIter).2.readLimit ∧
        ((if s.initialized then (.ok (), s) else s.initializeIter).2.nextId = s.nextId ∨
          (if s.initialized then (.ok (), s) else s.initializeIter).2.nextId = none) := by
    split
    · exact ⟨[], .refl s, by simp [SkipsFirst], limit, .inl rfl⟩
    · obtain ⟨log, heard, skips⟩ := s.initializeIter_heard
      obtain ⟨-, held, pending⟩ := s.initializeIter_frame
      exact ⟨log, heard, skips, held limit, pending⟩
  split
  · rename_i failed
    rw [failed] at started
    exact ⟨before, ⟨started.onward, started.since⟩, fun record same => by cases same⟩
  rename_i ready done
  rw [done] at started kept pending
  dsimp only at started kept pending
  split
  · exact ⟨before, started, fun record same => by cases same⟩
  rename_i id found
  dsimp only
  split
  · exact ⟨before, ⟨started.onward, started.since⟩, fun record same => by cases same⟩
  split
  · exact ⟨before, ⟨started.onward, started.since⟩, fun record same => by cases same⟩
  obtain ⟨log, heard, others, read⟩ := readRecordAttempts_heard id 3
    { ready with nextId := none, seen := id.value :: ready.seen } kept
  have whole : Heard s _ (before ++ log) := started.trans ⟨heard.onward, heard.since⟩
  split
  · rename_i error after failed
    have failed : readRecordAttempts id 3 { ready with nextId := none, seen := id.value :: ready.seen } =
      (.error error, after) := failed
    rw [failed] at whole
    exact ⟨_, whole, fun record same => by cases same⟩
  · rename_i record nextId after got
    have got : readRecordAttempts id 3 { ready with nextId := none, seen := id.value :: ready.seen } =
      (.ok (record, nextId), after) := got
    rw [got] at whole read
    refine ⟨_, ⟨whole.onward, whole.since⟩, fun found' same => ?_⟩
    cases same
    refine ⟨id, nextId, ?_, rfl, ?_, fun later => skips.append (others later)⟩
    · rcases pending with same | none
      · rw [← same, found]
      · rw [none] at found
        cases found
    · exact (read record nextId rfl).past before

/-! ### Whole traversals -/

/-- All that a traversal exchanged in a number of calls. -/
def exchanged (start : SdrIter ε) (calls : Nat) : List (Exchange ε) :=
  (start.after calls).link.since start.link

/-- After calls that each yielded a record, the ID that was reported is that of
the first one, and a pointer to the pending ID was replied. -/
structure Told (start : SdrIter ε) (n : Nat) : Prop where
  heard : Heard start (start.after n) (exchanged start n)
  first : ∀ first, 0 < n → start.item 0 = some (.ok first) →
    reportedFirst (exchanged start n) = some first.header.id
  pointed : 0 < n → ∀ id, (start.after n).nextId = some id → ∃ one ∈ exchanged start n, nextPointer one = some id

/-- One more record adds exchanges; only those of the first record report its ID. -/
theorem Told.next {start : SdrIter ε} {n : Nat} (live : Live start n) (told : Told start n) {record : Record}
    (yielded : start.item n = some (.ok record)) :
    Told start (n + 1) ∧ ∀ id, (start.after n).nextId = some id → ∃ log,
      exchanged start (n + 1) = exchanged start n ++ log ∧ ∃ one ∈ log, partAsked one.request = some (id, 0) := by
  obtain ⟨log, heard, read⟩ := (start.after n).next_heard live.limit
  obtain ⟨id, next, pending, moved, record', others⟩ := read record yielded
  have whole : Heard start (start.after (n + 1)) (exchanged start n ++ log) := told.heard.trans heard
  have grown : exchanged start (n + 1) = exchanged start n ++ log := whole.since
  have later (started : 0 < n) : id ≠ .FIRST := live.onward started id pending
  refine ⟨⟨grown ▸ whole, ?_, ?_⟩, ?_⟩
  · intro first _ opened
    rw [grown]
    by_cases initial : n = 0
    · subst initial
      rw [opened] at yielded
      cases yielded
      exact record'.reported (Option.some.inj (pending.symm.trans (live.origin rfl))) _
    · have started : 0 < n := Nat.pos_of_ne_zero initial
      rw [reportedFirst_append (others (later started))]
      exact told.first first started opened
  · intro _ id' pending'
    rw [grown]
    obtain ⟨one, among, points⟩ := record'.pointer
    refine ⟨one, List.mem_append_right _ among, ?_⟩
    rw [points, ← moved]
    exact pending'
  · intro id' pending'
    obtain rfl := Option.some.inj (pending.symm.trans pending')
    exact ⟨log, grown, record'.begun⟩

theorem live_told (link : Link ε) (source : Option SdrSource) {n : Nat} (live : Live (new link source) n) :
    Told (new link source) n := by
  induction n with
  | zero =>
    have nothing : Heard (new link source) ((new link source).after 0) (exchanged (new link source) 0) :=
      ⟨.refl _, rfl⟩
    exact ⟨nothing, fun _ absurd => (Nat.lt_irrefl 0 absurd).elim, fun absurd => (Nat.lt_irrefl 0 absurd).elim⟩
  | succ n ih =>
    obtain ⟨record, yielded⟩ := live.yielded n (Nat.lt_succ_self n)
    rcases ended_or_live link source n with ended | before
    · rw [(after_ended ended (Nat.le_refl n)).2] at yielded
      cases yielded
    · exact ((ih before).next before yielded).1

/-- A record that is read under the ID of the first one was pointed to, and asked for, once more. -/
theorem leadsBack_of_returned (link : Link ε) (source : Option SdrSource) {n : Nat} {first record : Record}
    (later : 0 < n) (opened : (new link source).item 0 = some (.ok first))
    (yielded : (new link source).item n = some (.ok record))
    (returned : ((new link source).after n).nextId = some first.header.id) :
    LeadsBack (exchanged (new link source) (n + 1)) := by
  rcases ended_or_live link source n with ended | live
  · rw [ended] at returned
    cases returned
  have told := live_told link source live
  obtain ⟨onward, asked⟩ := told.next live yielded
  obtain ⟨log, grown, begun⟩ := asked _ returned
  refine ⟨first.header.id, onward.first first (Nat.succ_pos n) opened, (exchanged (new link source) n).length, ?_, ?_⟩
  · rw [grown, List.take_left]
    exact told.pointed later _ returned
  · rw [grown, List.drop_left]
    exact begun

/-- A traversal is sound if no next pointer that is followed is the ID that the
header of the first record reports. -/
theorem traversal_sound (link : Link ε) (source : Option SdrSource)
    (onward : ∀ n, ¬ LeadsBack (exchanged (new link source) n)) : Sound (new link source) := by
  apply (sound_iff_onward link source).mpr
  intro n first record later opened yielded returned
  exact onward (n + 1) (leadsBack_of_returned link source later opened yielded returned)

/-- No pointer to the ID that is reported was replied, so none was followed. -/
theorem not_leadsBack {log : List (Exchange ε)} {id : RecordId}
    (reported : (reportedFirst log).all (· == id)) (away : ∀ one ∈ log, nextPointer one ≠ some id) :
    ¬ LeadsBack log := by
  rintro ⟨first, known, i, ⟨one, among, points⟩, -⟩
  rw [known, Option.all_some, beq_iff_eq] at reported
  subst reported
  exact away one (List.mem_of_mem_take among) points

/-- A repository of three records, in a chain that does not come back. -/
theorem traversal_sound_three :
    let answer (cmd : UInt8) (data : List UInt8) : Except Unit Response :=
      .ok ⟨0, ⟨0x0B, cmd, 0 :: data⟩, List.cons_ne_nil _ _⟩
    let bmc : List Request → Except Unit Response := fun sent =>
      match sent.length with
      | 1 => answer 0x20 [0x51, 3, 0, 0, 0, 0, 0, 0, 0, 0, 0, 0, 0, 0]
      | 2 => answer 0x23 [6, 0, 5, 0, 0x51, 0xC0, 1]
      | 3 => answer 0x23 [6, 0, 0x57]
      | 4 => answer 0x23 [7, 0, 6, 0, 0x51, 0xC0, 0]
      | 5 => answer 0x23 [0xFF, 0xFF, 7, 0, 0x51, 0xC0, 0]
      | _ => .error ()
    let start := new ⟨bmc, []⟩ (some .repository)
    (start.records 3).map (·.header.id) = [⟨5⟩, ⟨6⟩, ⟨7⟩] ∧ Sound start := by
  intro answer bmc start
  have away : ∀ n ≤ 4, (reportedFirst (exchanged start n)).all (· == ⟨5⟩) ∧
      ∀ one ∈ exchanged start n, nextPointer one ≠ some ⟨5⟩ := by decide +kernel
  have ended : (start.after 4).nextId = none := by decide +kernel
  refine ⟨by decide +kernel, traversal_sound ⟨bmc, []⟩ (some .repository) fun n => ?_⟩
  rcases Nat.le_total n 4 with early | late
  · exact not_leadsBack (away n early).1 (away n early).2
  · have same : exchanged start n = exchanged start 4 := by rw [exchanged, after_stays ended late, exchanged]
    have none := not_leadsBack (away 4 (Nat.le_refl 4)).1 (away 4 (Nat.le_refl 4)).2
    rwa [← same] at none

end SdrIter
end IpmiRs.Storage
