import Mathlib.Algebra.BigOperators.Intervals
import IpmiRs.Library.Chain
import IpmiRs.Library.Latest
import IpmiRs.Storage.SelTraversal

/-! What a traversal of a log that stays as it is yields: every record once, in
the order of the chain, however its reservations are cancelled. -/
namespace IpmiRs.Storage.Sel
open Connection App Library Library.Bytes Library.Latest

/-- A record of the log, under an ID that is assigned to records. -/
structure StoredRecord where
  bytes : List UInt8
  length : bytes.length = 16
  assigned : RecordId.newRaw bytes[0]! bytes[1]! ∉ [RecordId.FIRST, RecordId.LAST]

def StoredRecord.recordId (record : StoredRecord) : RecordId :=
  .newRaw record.bytes[0]! record.bytes[1]!

/-- A system event names an assigned channel; the other kinds name none. -/
def StoredRecord.NamesChannel (record : StoredRecord) : Prop :=
  record.bytes[2]! = 0x02 → Channel.new ((record.bytes[8]! >>> 4) &&& 0xF) ≠ none

/-- A log that stays as it is: its records in the order of the chain, which
comes to each of them once. -/
structure StableLog where
  records : List StoredRecord
  acyclic : (records.map (·.recordId)).Nodup
  reservable : Bool

namespace StableLog
variable (log : StableLog)

/-- The IDs of the records, between the pseudo-ID of the first and the end. -/
def chain : Chain RecordId where
  first := .FIRST
  last := .LAST
  ids := log.records.map (·.recordId)
  acyclic := log.acyclic
  notFirst held := by
    obtain ⟨record, -, same⟩ := List.mem_map.mp held
    exact record.assigned (List.mem_cons.mpr (.inl same))
  notLast held := by
    obtain ⟨record, -, same⟩ := List.mem_map.mp held
    exact record.assigned (List.mem_cons_of_mem _ (List.mem_singleton.mpr same))

/-- A request for a record by one of its IDs. -/
def asksFor (k : Nat) (request : Request) : Bool :=
  SelIter.isGetSelEntry request && (log.chain.names k).any fun id =>
    (request.data.drop 2).take 2 == toLe 2 id.value.toNat

/-- How often a record was asked for. -/
def asked (k : Nat) (history : List Request) : Nat := history.countP (log.asksFor k)

def isReserve (request : Request) : Bool := request == reserveSel.request

/-- The reservation the log gave last. -/
def held (grant : List Request → NonZeroU16) (history : List Request) : Option NonZeroU16 :=
  if log.reservable then latest isReserve grant history else none

/-- A log that answers as it should: `start` was sent before, and the first
`cancels k` reads of record `k` lose their reservation. -/
structure Serves (cancels : Nat → Nat) (grant : List Request → NonZeroU16) {ε : Type}
    (start : List Request) (reply : List Request → Except ε Response) : Prop where
  info : ∀ history, ∃ data info, getSelInfo.request.Answered
      (reply (start ++ history ++ [getSelInfo.request])) 0 data ∧
    SelInfo.fromData data = some info ∧ (info.entries = 0 ↔ log.records = []) ∧
    info.supportedCmds.contains .reserve = log.reservable
  reserve : log.reservable = true → ∀ history, reserveSel.request.Answered
    (reply (start ++ history ++ [reserveSel.request])) 0
    (toLe 2 (grant (history ++ [reserveSel.request])).1.toNat)
  cancelled : ∀ history k record, log.records[k]? = some record → ∀ id ∈ log.chain.names k,
    log.asked k history < cancels k →
    let request := (getSelEntry (log.held grant history) id).request
    ∃ data, request.Answered (reply (start ++ history ++ [request])) 0xC5 data
  entry : ∀ history k record, log.records[k]? = some record → ∀ id ∈ log.chain.names k,
    cancels k ≤ log.asked k history →
    let request := (getSelEntry (log.held grant history) id).request
    request.Answered (reply (start ++ history ++ [request])) 0
      (toLe 2 (log.chain.next k).value.toNat ++ record.bytes)

/-- At most two cancellations a record, and none where nothing is reserved. -/
structure Cancels (cancels : Nat → Nat) : Prop where
  atMostTwo : ∀ k, cancels k ≤ 2
  reserved : log.reservable = false → ∀ k, cancels k = 0

end StableLog

/-! ### What a record's requests are -/

theorem newRaw_toLe (id : RecordId) :
    RecordId.newRaw (toLe 2 id.value.toNat)[0]! (toLe 2 id.value.toNat)[1]! = id := by
  have word : ofLe (toLe 2 id.value.toNat) = id.value.toNat := ofLe_toLe_of_lt id.value.toNat_lt
  obtain ⟨value⟩ := id
  simp only [toLe, List.getElem!_cons_zero, List.getElem!_cons_succ, RecordId.newRaw] at word ⊢
  rw [word, UInt16.ofNat_toNat]

theorem toLe_id_injective {first second : RecordId}
    (same : toLe 2 first.value.toNat = toLe 2 second.value.toNat) : first = second := by
  rw [← newRaw_toLe first, same, newRaw_toLe]

/-- An event generator is read from the bytes that name a channel. -/
theorem ofBytes_channel (first : UInt8) {second : UInt8}
    (named : Channel.new ((second >>> 4) &&& 0xF) ≠ none) :
    ∃ generatorId, EventGenerator.ofBytes first second = .ok generatorId := by
  unfold EventGenerator.ofBytes
  simp only
  cases channel : Channel.new ((second >>> 4) &&& 0xF) with
  | none => exact absurd channel named
  | some channelNumber =>
    simp only
    split
    · exact ⟨_, rfl⟩
    · exact ⟨_, rfl⟩

namespace StoredRecord

/-- A record whose channel can be named is an entry, under the record's own ID. -/
theorem parse_entry {record : StoredRecord} (named : record.NamesChannel) :
    ∃ entry, Entry.parse record.bytes = .ok entry ∧ entry.recordId = record.recordId := by
  have long : ¬record.bytes.length < 16 := by
    rw [record.length]
    decide
  unfold Entry.parse
  rw [if_neg long, if_neg (not_not.mpr record.length)]
  simp only
  split
  · rename_i system
    have kind : record.bytes[2]! = 0x02 := by
      unfold SelRecordType.ofByte at system
      split at system
      · assumption
      · split at system
        · cases system
        · split at system <;> cases system
    obtain ⟨generatorId, generated⟩ := ofBytes_channel record.bytes[7]! (named kind)
    rw [generated]
    exact ⟨_, rfl, rfl⟩
  · exact ⟨_, rfl, rfl⟩
  · exact ⟨_, rfl, rfl⟩
  · exact ⟨_, rfl, rfl⟩

/-- The reply to a request for a record gives it back, with the pointer after it. -/
theorem parse_entryInfo {record : StoredRecord} {entry : Entry} (next : RecordId)
    (parsed : Entry.parse record.bytes = .ok entry) :
    EntryInfo.parse (toLe 2 next.value.toNat ++ record.bytes) =
      .ok ⟨next, entry, record.bytes⟩ := by
  have pointer := newRaw_toLe next
  unfold EntryInfo.parse
  simp only [toLe, List.cons_append, List.nil_append, List.length_cons, List.drop_succ_cons,
    List.drop_zero, List.getElem!_cons_zero, List.getElem!_cons_succ, parsed] at pointer ⊢
  rw [if_neg (by omega), pointer]

end StoredRecord

namespace StableLog
variable {log : StableLog}

theorem isGetSelEntry_request (reservation : Option NonZeroU16) (id : RecordId) :
    SelIter.isGetSelEntry (getSelEntry reservation id).request = true := rfl

theorem requested_id (reservation : Option NonZeroU16) (id : RecordId) :
    ((getSelEntry reservation id).request.data.drop 2).take 2 = toLe 2 id.value.toNat := by
  rfl

theorem asksFor_request (k : Nat) (reservation : Option NonZeroU16) (id : RecordId) :
    log.asksFor k (getSelEntry reservation id).request = true ↔ id ∈ log.chain.names k := by
  rw [asksFor, isGetSelEntry_request, Bool.true_and, List.any_eq_true, requested_id]
  constructor
  · rintro ⟨named, held, same⟩
    rw [toLe_id_injective (beq_iff_eq.mp same)]
    exact held
  · intro held
    exact ⟨id, held, beq_self_eq_true _⟩

/-- The ID of a record, at its place in the chain. -/
theorem recordId_stored {k : Nat} {record : StoredRecord}
    (stored : log.records[k]? = some record) : log.chain.ids[k]? = some record.recordId := by
  simp [chain, stored]

/-- A record is reached by one of its IDs. -/
theorem idAt_stored {k : Nat} {record : StoredRecord} (stored : log.records[k]? = some record) :
    log.chain.idAt k ∈ log.chain.names k ∧
      (log.chain.idAt k = .FIRST ∨ log.chain.idAt k = record.recordId) := by
  obtain ⟨named, ⟨-, first⟩ | ⟨-, own⟩⟩ := Chain.idAt_names (recordId_stored stored)
  · exact ⟨named, .inl first⟩
  · exact ⟨named, .inr own⟩

/-- The pointer of a record leads to another one, or to the end. -/
theorem next_stored {k : Nat} {record : StoredRecord} (stored : log.records[k]? = some record) :
    log.chain.next k ≠ .FIRST ∧ log.chain.next k ≠ record.recordId :=
  Chain.next_ne (by simp [chain, RecordId.FIRST, RecordId.LAST]) (recordId_stored stored)

theorem asked_request_self {k : Nat} {id : RecordId} (named : id ∈ log.chain.names k)
    (history : List Request) (reservation : Option NonZeroU16) :
    log.asked k (history ++ [(getSelEntry reservation id).request]) = log.asked k history + 1 := by
  rw [asked, List.countP_append, List.countP_singleton, if_pos ((asksFor_request _ _ _).mpr named),
    asked]

theorem asked_request_other {j k : Nat} {id : RecordId} (named : id ∈ log.chain.names k) (other : j ≠ k)
    (history : List Request) (reservation : Option NonZeroU16) :
    log.asked j (history ++ [(getSelEntry reservation id).request]) = log.asked j history := by
  have plain : ¬log.asksFor j (getSelEntry reservation id).request = true := fun asks =>
    other (Chain.names_unique ((asksFor_request _ _ _).mp asks) named)
  rw [asked, List.countP_append, List.countP_singleton, if_neg plain, asked, Nat.add_zero]

/-- Only a request for a record counts. -/
theorem asked_plain {request : Request} (plain : SelIter.isGetSelEntry request = false) (k : Nat)
    (history : List Request) : log.asked k (history ++ [request]) = log.asked k history := by
  simp [asked, asksFor, plain]

theorem held_plain {grant : List Request → NonZeroU16} {history : List Request} {request : Request}
    (plain : request.cmd ≠ reserveSel.request.cmd) :
    log.held grant (history ++ [request]) = log.held grant history := by
  have unmarked : isReserve request = false :=
    beq_eq_false_iff_ne.mpr fun same => plain (congrArg Request.cmd same)
  rw [held, held, latest_unmarked _ _ unmarked]

theorem held_reserve {grant : List Request → NonZeroU16} {history : List Request}
    (reservable : log.reservable = true) :
    log.held grant (history ++ [reserveSel.request]) =
      some (grant (history ++ [reserveSel.request])) := by
  rw [held, if_pos reservable, latest_marked isReserve grant (beq_self_eq_true _)]

end StableLog

namespace StableLog

/-- The answers of a log, after a history that was sent to it alone. -/
def answer (log : StableLog) (cancels : Nat → Nat) (grant : List Request → NonZeroU16) {ε : Type}
    (history : List Request) : Except ε Response :=
  match history.getLast? with
  | none => .ok (getSelInfo.request.answer 0xFF [])
  | some request =>
    if request = getSelInfo.request then
      .ok (request.answer 0 ([0x51] ++ toLe 2 (min log.records.length 0xFFFF) ++
        List.replicate 10 0 ++ [if log.reservable then 0x02 else 0]))
    else if request = reserveSel.request then
      .ok (request.answer 0 (toLe 2 (grant history).1.toNat))
    else
      match (List.range log.records.length).find? (log.asksFor · request) with
      | none => .ok (request.answer 0xCB [])
      | some k =>
        if log.asked k history.dropLast < cancels k then .ok (request.answer 0xC5 [])
        else .ok (request.answer 0
          (toLe 2 (log.chain.next k).value.toNat ++ (log.records[k]?.map (·.bytes)).getD []))

theorem answer_info (log : StableLog) (cancels : Nat → Nat) (grant : List Request → NonZeroU16) {ε : Type}
    (history : List Request) :
    (log.answer cancels grant (history ++ [getSelInfo.request]) : Except ε Response) =
      .ok (getSelInfo.request.answer 0 ([0x51] ++ toLe 2 (min log.records.length 0xFFFF) ++
        List.replicate 10 0 ++ [if log.reservable then 0x02 else 0])) := by
  rw [answer, List.getLast?_concat]
  simp only [↓reduceIte]

/-- The record a request asks for is found. -/
theorem find_asksFor {log : StableLog} {k : Nat} {record : StoredRecord}
    (stored : log.records[k]? = some record) (reservation : Option NonZeroU16) {id : RecordId}
    (named : id ∈ log.chain.names k) :
    (List.range log.records.length).find? (log.asksFor · (getSelEntry reservation id).request) =
      some k := by
  obtain ⟨within, -⟩ := List.getElem?_eq_some_iff.mp stored
  have found : ∃ j, (List.range log.records.length).find?
      (log.asksFor · (getSelEntry reservation id).request) = some j := by
    rw [← Option.isSome_iff_exists, List.find?_isSome]
    exact ⟨k, List.mem_range.mpr within, (asksFor_request _ _ _).mpr named⟩
  obtain ⟨j, found⟩ := found
  have asks := List.find?_some found
  rw [found, Chain.names_unique ((asksFor_request _ _ _).mp asks) named]

/-- A log answers as a log should. -/
theorem serves_answer (log : StableLog) (cancels : Nat → Nat) (grant : List Request → NonZeroU16)
    {ε : Type} : log.Serves cancels grant [] (log.answer cancels grant (ε := ε)) := by
  have read (history : List Request) {k : Nat} {record : StoredRecord}
      (stored : log.records[k]? = some record) (reservation : Option NonZeroU16) {id : RecordId}
      (named : id ∈ log.chain.names k) :
      log.answer cancels grant (ε := ε) (history ++ [(getSelEntry reservation id).request]) =
        .ok ((getSelEntry reservation id).request.answer
          (if log.asked k history < cancels k then 0xC5 else 0)
          (if log.asked k history < cancels k then []
            else toLe 2 (log.chain.next k).value.toNat ++ record.bytes)) := by
    have other (request : Request) (cmd : request.cmd ≠ 0x43) :
        ¬(getSelEntry reservation id).request = request := fun same =>
      cmd (congrArg Request.cmd same).symm
    rw [answer, List.getLast?_concat]
    simp only [other getSelInfo.request (by decide), other reserveSel.request (by decide),
      ↓reduceIte, find_asksFor stored reservation named, List.dropLast_concat, stored,
      Option.map_some, Option.getD_some]
    by_cases lost : log.asked k history < cancels k
    · rw [if_pos lost, if_pos lost, if_pos lost]
    · rw [if_neg lost, if_neg lost, if_neg lost]
  constructor
  · intro history
    generalize counted : min log.records.length 0xFFFF = count
    have small : count < 256 ^ 2 := by omega
    have word := ofLe_toLe_of_lt small
    simp only [toLe] at word
    refine ⟨[0x51] ++ toLe 2 count ++ List.replicate 10 0 ++
      [if log.reservable then 0x02 else 0], _, ?_, rfl, ?_, ?_⟩
    · rw [List.nil_append, answer_info, counted]
      exact Request.answered_answer _ _ _
    · simp only [toLe, List.cons_append, List.nil_append, List.getElem!_cons_succ,
        List.getElem!_cons_zero, word]
      rw [← UInt16.toNat_inj, UInt16.toNat_ofNat', UInt16.toNat_zero, ← List.length_eq_zero_iff]
      omega
    · have named (reservable : Bool) : (SelCommand.ofByte (if reservable then 0x02 else 0)).contains
          .reserve = reservable := by
        cases reservable <;> decide
      exact named log.reservable
  · intro reservable history
    rw [List.nil_append, answer, List.getLast?_concat]
    exact Request.answered_answer _ _ _
  · intro history k record stored id named lost
    simp only [List.nil_append]
    rw [read history stored _ named, if_pos lost, if_pos lost]
    exact ⟨[], Request.answered_answer _ _ _⟩
  · intro history k record stored id named kept
    simp only [List.nil_append]
    rw [read history stored _ named, if_neg (by omega), if_neg (by omega)]
    exact Request.answered_answer _ _ _

end StableLog

/-! ### The traversal of a log that serves it -/

/-- A budget that never interrupts. -/
def Quiet (budget : Option Watch) : Prop := ∀ watch ∈ budget, ∀ look, watch.finds look = none

namespace SelIter
variable {ε : Type}

theorem checkBudget_quiet {s : SelIter ε} (quiet : Quiet s.budget) :
    ∃ budget, Quiet budget ∧ s.checkBudget = (.ok (), { s with budget }) := by
  unfold checkBudget
  cases watched : s.budget with
  | none =>
    refine ⟨s.budget, ?_, rfl⟩
    rw [watched]
    simp [Quiet]
  | some watch =>
    have calm : watch.look.1 = none := quiet watch watched watch.looks
    refine ⟨some watch.look.2, ?_, by simp only [calm]⟩
    rintro _ ⟨⟩
    exact quiet watch watched

/-- With such a budget a command is sent, and its reply is read. -/
theorem send_quiet {α β : Type} {s : SelIter ε} (quiet : Quiet s.budget) (command : IpmiCommand α β) :
    ∃ budget, Quiet budget ∧ s.send command =
      (.ok (command.readReply (s.link.reply (s.link.sent ++ [command.request]))),
        { s with link := { s.link with sent := s.link.sent ++ [command.request] }, budget }) := by
  obtain ⟨before, calm, looked⟩ := checkBudget_quiet quiet
  obtain ⟨after, still, again⟩ := checkBudget_quiet
    (s := { s with link := (s.link.sendRecv command).2, budget := before }) calm
  have result := Link.sendRecv_result s.link command
  have link := Link.sendRecv_link s.link command
  refine ⟨after, still, ?_⟩
  unfold send
  rw [looked]
  simp only
  rw [again, result, link]

section served
variable {log : StableLog} {cancels : Nat → Nat} {grant : List Request → NonZeroU16}
  {start : List Request} {reply : List Request → Except ε Response}

/-- The traversal holds the log's reservation, after a history of requests. -/
structure InStep (log : StableLog) (grant : List Request → NonZeroU16) (start : List Request)
    (reply : List Request → Except ε Response) (history : List Request) (s : SelIter ε) :
    Prop where
  link : s.link = ⟨reply, start ++ history⟩
  quiet : Quiet s.budget
  hasReservation : s.hasReservation = log.reservable
  reservation : s.reservation = log.held grant history

/-- Sending a command that reserves nothing. -/
theorem InStep.send {history : List Request} {s : SelIter ε} {α β : Type}
    (inStep : InStep log grant start reply history s) (command : IpmiCommand α β)
    (plain : command.request.cmd ≠ reserveSel.request.cmd) :
    ∃ s', s.send command =
        (.ok (command.readReply (reply (start ++ history ++ [command.request]))), s') ∧
      s' = { s with link := s'.link, budget := s'.budget } ∧
      InStep log grant start reply (history ++ [command.request]) s' := by
  obtain ⟨budget, quiet, sent⟩ := send_quiet inStep.quiet command
  rw [inStep.link] at sent
  refine ⟨_, sent, rfl, ?_, quiet, inStep.hasReservation, ?_⟩
  · rw [List.append_assoc]
  · rw [StableLog.held_plain plain]
    exact inStep.reservation

/-- A reservation is renewed. -/
theorem reserve_served (serves : log.Serves cancels grant start reply)
    (reservable : log.reservable = true) {history : List Request} {s : SelIter ε}
    (link : s.link = ⟨reply, start ++ history⟩) (quiet : Quiet s.budget)
    (hasReservation : s.hasReservation = log.reservable) :
    ∃ s', s.reserve = (.ok (), s') ∧
      s' = { s with link := s'.link, reservation := s'.reservation, budget := s'.budget } ∧
      InStep log grant start reply (history ++ [reserveSel.request]) s' := by
  obtain ⟨budget, still, sent⟩ := send_quiet quiet reserveSel
  have answered := serves.reserve reservable history
  generalize given : grant (history ++ [reserveSel.request]) = reservation at answered
  have word : ofLe (toLe 2 reservation.1.toNat) = reservation.1.toNat :=
    ofLe_toLe_of_lt reservation.1.toNat_lt
  have parsed : reserveSel.parse (toLe 2 reservation.1.toNat) = .ok reservation := by
    simp only [toLe] at word
    simp only [reserveSel, toLe, word, UInt16.ofNat_toNat, reservation.2, ne_eq, not_false_eq_true,
      ↓reduceDIte]
  rw [link] at sent
  simp only [IpmiCommand.readReply_answered answered parsed] at sent
  have renewed : s.reserve = (.ok (), { s with
      link := ⟨reply, start ++ history ++ [reserveSel.request]⟩
      reservation := some reservation, budget }) := by rw [reserve, sent]
  refine ⟨_, renewed, rfl, ?_, still, hasReservation, ?_⟩
  · rw [List.append_assoc]
  · rw [StableLog.held_reserve reservable, given]

section attempts
variable {k : Nat} {id : RecordId} {history : List Request} {s : SelIter ε}

/-- One read of a record is a request for it under the reservation held. -/
theorem InStep.ask (inStep : InStep log grant start reply history s) (named : id ∈ log.chain.names k) :
    let s' := { s with remainingReads := s.remainingReads - 1 }
    let request := (getSelEntry (log.held grant history) id).request
    ∃ s'', s'.send (getSelEntry s'.reservation id) =
        (.ok ((getSelEntry (log.held grant history) id).readReply
          (reply (start ++ history ++ [request]))), s'') ∧
      s'' = { s with
        link := s''.link, budget := s''.budget, reservation := s''.reservation
        remainingReads := s.remainingReads - 1 } ∧
      InStep log grant start reply (history ++ [request]) s'' ∧
      log.asked k (history ++ [request]) = log.asked k history + 1 ∧
      ∀ j ≠ k, log.asked j (history ++ [request]) = log.asked j history := by
  intro s' request
  have inStep' : InStep log grant start reply history s' :=
    ⟨inStep.link, inStep.quiet, inStep.hasReservation, inStep.reservation⟩
  obtain ⟨s'', sent, moved, after⟩ :=
    inStep'.send (getSelEntry (log.held grant history) id) (by decide : (0x43 : UInt8) ≠ 0x42)
  refine ⟨s'', ?_, by rw [moved], after, StableLog.asked_request_self named _ _, fun j other =>
    StableLog.asked_request_other named other _ _⟩
  rw [inStep'.reservation]
  exact sent

/-- A read with no cancellation before it gets its record. -/
theorem readAttempts_found (serves : log.Serves cancels grant start reply)
    {record : StoredRecord} {entry : Entry} (stored : log.records[k]? = some record)
    (named : id ∈ log.chain.names k) (parsed : Entry.parse record.bytes = .ok entry) (left : Nat)
    (inStep : InStep log grant start reply history s) (kept : cancels k ≤ log.asked k history)
    (reads : 0 < s.remainingReads) :
    ∃ later s', readAttempts id left s = (.ok ⟨log.chain.next k, entry, record.bytes⟩, s') ∧
      s' = { s with
        link := s'.link, budget := s'.budget, reservation := s'.reservation
        remainingReads := s.remainingReads - (cancels k - log.asked k history + 1) } ∧
      InStep log grant start reply later s' ∧
      ∀ j ≠ k, log.asked j later = log.asked j history := by
  obtain ⟨s', sent, moved, after, -, others⟩ := inStep.ask named
  have answered := serves.entry history k record stored id named kept
  have read := IpmiCommand.readReply_answered answered
    (StoredRecord.parse_entryInfo (log.chain.next k) parsed)
  refine ⟨_, s', ?_, ?_, after, others⟩
  · rw [readAttempts.eq_def]
    simp only [if_neg (Nat.ne_of_gt reads), sent, read]
    rfl
  · rw [Nat.sub_eq_zero_of_le kept]
    exact moved

/-- The attempts of a read: what is left of the cancellations of a record, and
the read that gets it. -/
theorem readAttempts_served (serves : log.Serves cancels grant start reply)
    (patience : log.Cancels cancels) {record : StoredRecord} {entry : Entry}
    (stored : log.records[k]? = some record) (named : id ∈ log.chain.names k)
    (parsed : Entry.parse record.bytes = .ok entry) (left : Nat)
    (inStep : InStep log grant start reply history s)
    (enough : cancels k ≤ log.asked k history + left)
    (reads : cancels k - log.asked k history < s.remainingReads) :
    ∃ later s', readAttempts id left s = (.ok ⟨log.chain.next k, entry, record.bytes⟩, s') ∧
      s' = { s with
        link := s'.link, budget := s'.budget, reservation := s'.reservation
        remainingReads := s.remainingReads - (cancels k - log.asked k history + 1) } ∧
      InStep log grant start reply later s' ∧
      ∀ j ≠ k, log.asked j later = log.asked j history := by
  induction left generalizing history s with
  | zero => exact readAttempts_found serves stored named parsed 0 inStep (by omega) (by omega)
  | succ left ih =>
    obtain ⟨s', sent, moved, after, counted, others⟩ := inStep.ask named
    by_cases lost : log.asked k history < cancels k
    · obtain ⟨data, answered⟩ := serves.cancelled history k record stored id named lost
      have meaning : CompletionErrorCode.ofByte 0xC5 = some .reservationCancelledOrInvalidId := by
        decide
      obtain ⟨netfn, detail, read⟩ := IpmiCommand.readReply_refused answered meaning rfl
      have reservable : log.reservable = true := by
        rw [← Bool.not_eq_false]
        intro unreserved
        rw [patience.reserved unreserved k] at lost
        exact absurd lost (Nat.not_lt_zero _)
      obtain ⟨renewed, reserved, kept, again⟩ :=
        reserve_served serves reservable after.link after.quiet after.hasReservation
      have still (j : Nat) := log.asked_plain (show SelIter.isGetSelEntry reserveSel.request = false from rfl)
        j (history ++ [(getSelEntry (log.held grant history) id).request])
      have fewer : renewed.remainingReads = s.remainingReads - 1 := by rw [kept, moved]
      obtain ⟨later, found, attempts, rest, last, same⟩ :=
        ih again (by rw [still, counted]; omega) (by rw [still, counted, fewer]; omega)
      refine ⟨later, found, ?_, ?_, last, fun j other => ?_⟩
      · unfold readAttempts
        rw [if_neg (by omega)]
        simp only [sent, read]
        have cancelled : (reservationCancelled (α := EntryInfo) (.error (.failed netfn
            (getSelEntry (log.held grant history) id).message.cmd
            .reservationCancelledOrInvalidId detail) : Except (IpmiError ε ParseEntryError) _) &&
              s'.hasReservation) = true := by
          rw [after.hasReservation, reservable]
          rfl
        rw [if_pos cancelled, reserved]
        exact attempts
      · have spent : renewed.remainingReads -
            (cancels k - log.asked k (history ++
              [(getSelEntry (log.held grant history) id).request] ++ [reserveSel.request]) + 1) =
            s.remainingReads - (cancels k - log.asked k history + 1) := by
          rw [still, counted, fewer]
          omega
        rw [rest, spent, kept, moved]
      · rw [same j other, still, others j other]
    · exact readAttempts_found serves stored named parsed _ inStep (by omega) (by omega)

end attempts

/-- The traversal has yielded the records before a position, and can afford the
reads of the others. -/
structure Standing (log : StableLog) (cancels : Nat → Nat) (grant : List Request → NonZeroU16)
    (start : List Request) (reply : List Request → Except ε Response) (k : Nat) (s : SelIter ε) :
    Prop where
  inStep : ∃ history, InStep log grant start reply history s ∧
    ∀ j, k ≤ j → log.asked j history = 0
  nextId : s.nextId = some (log.chain.idAt k)
  seen : s.seen = (log.chain.ids.take k).reverse
  scanned : s.scanned = (log.chain.ids.take k).reverse
  unfinished : s.finished = false
  room : log.records.length ≤ s.maxEntries
  reads : ∑ j ∈ Finset.Ico k log.records.length, (cancels j + 1) ≤ s.remainingReads

/-- A record that is the next of the chain is yielded. -/
theorem accept_standing {k : Nat} {record : StoredRecord} {entry : Entry} {s : SelIter ε}
    (stored : log.records[k]? = some record) (named : entry.recordId = record.recordId)
    (seen : s.seen = (log.chain.ids.take k).reverse) (scanned : s.scanned = (log.chain.ids.take k).reverse) :
    s.accept (log.chain.idAt k) ⟨log.chain.next k, entry, record.bytes⟩ =
      (.returned (some (.ok ⟨log.chain.next k, entry, record.bytes⟩)), { s with
        scanned := (log.chain.ids.take (k + 1)).reverse, nextId := some (log.chain.next k)
        seen := (log.chain.ids.take (k + 1)).reverse }) := by
  have first : record.recordId.isFirst = false :=
    beq_eq_false_iff_ne.mpr (Chain.ne_first (StableLog.recordId_stored stored))
  have last : record.recordId.isLast = false :=
    beq_eq_false_iff_ne.mpr (Chain.ne_last (StableLog.recordId_stored stored))
  have asked : (!(log.chain.idAt k).isFirst && record.recordId != log.chain.idAt k) = false := by
    rcases (StableLog.idAt_stored stored).2 with same | same <;> simp [same]
  obtain ⟨pointsOn, pointsAway⟩ := StableLog.next_stored stored
  have new : record.recordId ∉ (log.chain.ids.take k).reverse := by
    rw [List.mem_reverse]
    exact Chain.notMem_take (StableLog.recordId_stored stored)
  have grown : (log.chain.ids.take (k + 1)).reverse = record.recordId :: (log.chain.ids.take k).reverse := by
    rw [List.take_add_one, StableLog.recordId_stored stored, List.reverse_append]
    rfl
  unfold accept
  simp only [named, first, last, asked, seen, scanned, grown, Bool.or_self, Bool.false_eq_true,
    ↓reduceIte, RecordId.isFirst_iff, pointsOn, beq_iff_eq, pointsAway, List.contains_iff_mem, new]

/-- A turn at a record of the log yields it. -/
theorem turn_standing (serves : log.Serves cancels grant start reply)
    (patience : log.Cancels cancels) {k : Nat} {record : StoredRecord} {entry : Entry}
    {s : SelIter ε} (standing : Standing log cancels grant start reply k s)
    (stored : log.records[k]? = some record) (parsed : Entry.parse record.bytes = .ok entry)
    (own : entry.recordId = record.recordId) :
    ∃ s', s.turn = (.returned (some (.ok ⟨log.chain.next k, entry, record.bytes⟩)), s') ∧
      Standing log cancels grant start reply (k + 1) s' := by
  obtain ⟨history, inStep, unasked⟩ := standing.inStep
  obtain ⟨within, -⟩ := List.getElem?_eq_some_iff.mp stored
  obtain ⟨named, known⟩ := StableLog.idAt_stored stored
  have reads := standing.reads
  rw [Finset.sum_eq_sum_Ico_succ_bot within] at reads
  have fresh := unasked k (Nat.le_refl k)
  have twice := patience.atMostTwo k
  obtain ⟨later, s', read, kept, after, others⟩ :=
    readAttempts_served serves patience stored named parsed 2 inStep (by omega) (by omega)
  have accepted := accept_standing (s := s') stored own (by rw [kept, standing.seen])
    (by rw [kept, standing.scanned])
  refine ⟨{ s' with
    scanned := (log.chain.ids.take (k + 1)).reverse, nextId := some (log.chain.next k)
    seen := (log.chain.ids.take (k + 1)).reverse }, ?_, ⟨later, ⟨after.link, after.quiet, after.hasReservation, after.reservation⟩,
    fun j beyond => ?_⟩, rfl, rfl, rfl, ?_, ?_, ?_⟩
  · unfold turn
    have onward : (log.chain.idAt k).isLast = false := by
      rcases known with same | same
      · rw [same]
        decide
      · rw [same]
        exact beq_eq_false_iff_ne.mpr (Chain.ne_last (StableLog.recordId_stored stored))
    have room : ¬s.maxEntries ≤ s.seen.length := by
      have space := standing.room
      rw [standing.seen, List.length_reverse, List.length_take, StableLog.chain,
        List.length_map]
      omega
    have unscanned : (!(log.chain.idAt k).isFirst && s.scanned.contains (log.chain.idAt k)) = false := by
      have new := Chain.notMem_take (StableLog.recordId_stored stored)
      rcases known with same | same <;> simp [same, standing.scanned, new, RecordId.isFirst]
    simp only [standing.nextId, Option.getD_some, onward, room, unscanned, Bool.false_eq_true,
      ↓reduceIte, SelIter.read, read]
    exact accepted
  · rw [others j (by omega), unasked j (by omega)]
  · simp only
    rw [kept]
    exact standing.unfinished
  · simp only
    rw [kept]
    exact standing.room
  · simp only
    rw [kept]
    simp only
    omega

theorem next_standing (serves : log.Serves cancels grant start reply)
    (patience : log.Cancels cancels) {k : Nat} {record : StoredRecord} {entry : Entry}
    {s : SelIter ε} (standing : Standing log cancels grant start reply k s)
    (stored : log.records[k]? = some record) (parsed : Entry.parse record.bytes = .ok entry)
    (own : entry.recordId = record.recordId) :
    ∃ s', s.next = (some (.ok ⟨log.chain.next k, entry, record.bytes⟩), s') ∧
      Standing log cancels grant start reply (k + 1) s' := by
  obtain ⟨s', turned, after⟩ := turn_standing serves patience standing stored parsed own
  refine ⟨s', ?_, after⟩
  have begun : s.start = (.again, s) := by
    rw [SelIter.start, standing.nextId, Option.isSome_some, if_pos rfl]
  rw [next, standing.unfinished, begun]
  simp only [Bool.false_eq_true, ↓reduceIte]
  rw [loop_eq, turned]

/-- Past the last record there is nothing more. -/
theorem next_past {s : SelIter ε}
    (standing : Standing log cancels grant start reply log.records.length s)
    (nonempty : log.records ≠ []) : s.next = (none, { s with finished := true }) := by
  have last : log.chain.idAt log.records.length = .LAST := by
    have some : log.chain.ids ≠ [] := by simpa [StableLog.chain] using nonempty
    have ended := Chain.idAt_length some
    rwa [StableLog.chain, List.length_map] at ended
  have begun : s.start = (.again, s) := by
    rw [SelIter.start, standing.nextId, Option.isSome_some, if_pos rfl]
  have turned : s.turn = (.returned none, { s with finished := true }) := by
    unfold turn
    simp only [standing.nextId, Option.getD_some, last]
    rfl
  rw [next, standing.unfinished, begun]
  simp only [Bool.false_eq_true, ↓reduceIte]
  rw [loop_eq, turned]

/-- The log is asked what it holds. -/
theorem info_served (serves : log.Serves cancels grant start reply) {s : SelIter ε}
    (link : s.link = ⟨reply, start⟩) (quiet : Quiet s.budget) :
    ∃ info budget, s.info = (.ok info,
        { s with link := ⟨reply, start ++ [getSelInfo.request]⟩, budget }) ∧ Quiet budget ∧
      (info.entries = 0 ↔ log.records = []) ∧
      info.supportedCmds.contains .reserve = log.reservable := by
  obtain ⟨data, info, answered, told, empty, supported⟩ := serves.info []
  obtain ⟨budget, still, sent⟩ := send_quiet quiet getSelInfo
  have parsed : getSelInfo.parse data = .ok info := by
    simp only [getSelInfo, told, Option.elim_some]
  rw [List.append_nil] at answered
  rw [link] at sent
  simp only [IpmiCommand.readReply_answered answered parsed] at sent
  exact ⟨info, budget, by rw [SelIter.info, sent], still, empty, supported⟩

/-- A traversal that begins stands before the first record, if there is one. -/
theorem start_served (serves : log.Serves cancels grant start reply) (maxEntries : Nat)
    {budget : Option Watch} (quiet : Quiet budget) (room : log.records.length ≤ maxEntries)
    (affordable : ∑ k ∈ Finset.range log.records.length, (cancels k + 1) ≤
      min (4 * maxEntries + 4) 65536) :
    let first := fresh ⟨reply, start⟩ maxEntries budget
    (log.records = [] → ∃ s', first.next = (none, s') ∧ s'.finished = true) ∧
      (log.records ≠ [] → ∃ s', first.start = (.again, s') ∧
        Standing log cancels grant start reply 0 s') := by
  intro first
  obtain ⟨info, after, told, still, empty, supported⟩ :=
    info_served (s := first) serves rfl quiet
  refine ⟨fun none => ?_, fun some => ?_⟩
  · have begun : first.start = (.returned Option.none, { first with
        link := ⟨reply, start ++ [getSelInfo.request]⟩, budget := after, finished := true }) := by
      unfold SelIter.start
      rw [told]
      simp only [first, fresh, new, Option.isSome_none, Bool.false_eq_true, ↓reduceIte,
        empty.mpr none]
    have ended : first.next = (Option.none, { first with
        link := ⟨reply, start ++ [getSelInfo.request]⟩, budget := after, finished := true }) := by
      rw [next, begun]
      rfl
    exact ⟨_, ended, rfl⟩
  · have afford : ∑ k ∈ Finset.Ico 0 log.records.length, (cancels k + 1) ≤
        first.remainingReads := by
      rw [Nat.Ico_zero_eq_range]
      exact Nat.le_trans affordable (by simp only [first, fresh, new]; omega)
    have unasked (j : Nat) : log.asked j [getSelInfo.request] = 0 :=
      log.asked_plain (show SelIter.isGetSelEntry getSelInfo.request = false from rfl) j []
    have full : ¬info.entries = 0 := fun zero => some (empty.mp zero)
    cases reservable : log.reservable with
    | false =>
      refine ⟨{ first with
        link := ⟨reply, start ++ [getSelInfo.request]⟩, budget := after, nextId := .some .FIRST
        hasReservation := false }, ?_, ⟨[getSelInfo.request], ⟨rfl, still, ?_, ?_⟩, fun j _ => unasked j⟩,
        rfl, rfl, rfl, rfl, room, afford⟩
      · unfold SelIter.start
        rw [told]
        simp only [first, fresh, new, Option.isSome_none, Bool.false_eq_true, ↓reduceIte, full,
          takeReservation, supported, reservable]
      · exact reservable.symm
      · rw [StableLog.held, if_neg (by rw [reservable]; decide)]
        rfl
    | true =>
      let informed : SelIter ε := { first with
        link := ⟨reply, start ++ [getSelInfo.request]⟩, budget := after, hasReservation := true }
      have link : informed.link = ⟨reply, start ++ [getSelInfo.request]⟩ := rfl
      obtain ⟨s', renewed, kept, inStep⟩ :=
        reserve_served serves reservable link still reservable.symm
      refine ⟨{ s' with nextId := .some .FIRST }, ?_,
        ⟨_, ⟨inStep.link, inStep.quiet, inStep.hasReservation, inStep.reservation⟩, fun j _ => ?_⟩,
        rfl, ?_, ?_, ?_, ?_, ?_⟩
      · unfold SelIter.start
        rw [told]
        simp only [informed, first, fresh, new, Option.isSome_none, Bool.false_eq_true, ↓reduceIte,
          full, takeReservation, supported, reservable] at renewed ⊢
        rw [renewed]
      · rw [StableLog.asked_plain (by rfl), unasked]
      · rw [kept]
        rfl
      · rw [kept]
        rfl
      · rw [kept]
        rfl
      · rw [kept]
        exact room
      · rw [kept]
        exact afford

/-- Beginning is part of the first call. -/
theorem next_begun {s s' : SelIter ε} (unfinished : s.finished = false)
    (begun : s.start = (.again, s')) (standing : Standing log cancels grant start reply 0 s') :
    s.next = s'.next := by
  have already : s'.start = (.again, s') := by
    rw [SelIter.start, standing.nextId, Option.isSome_some, if_pos rfl]
  rw [next, next, unfinished, standing.unfinished, begun, already]
  rfl

/-- A call gives its item and the state after it. -/
theorem item_of_next {first s : SelIter ε} {k : Nat}
    {given : Option (Except (SelIterError ε) EntryInfo)}
    (called : (first.after k).next = (given, s)) :
    first.item k = given ∧ first.after (k + 1) = s := by
  rw [item, SelIter.after, called]
  exact ⟨rfl, rfl⟩

/-- The call at the position of a record yields it, and goes on to the next one. -/
theorem item_served (serves : log.Serves cancels grant start reply)
    (patience : log.Cancels cancels) (named : ∀ record ∈ log.records, record.NamesChannel)
    {first s : SelIter ε} (unfinished : first.finished = false) (begun : first.start = (.again, s))
    (standing : Standing log cancels grant start reply 0 s) {k : Nat} {record : StoredRecord}
    (stored : log.records[k]? = some record) :
    ∃ entry, Entry.parse record.bytes = .ok entry ∧
      first.item k = some (.ok ⟨log.chain.next k, entry, record.bytes⟩) ∧
      Standing log cancels grant start reply (k + 1) (first.after (k + 1)) := by
  obtain ⟨entry, parsed, own⟩ := StoredRecord.parse_entry (named record (List.mem_of_getElem? stored))
  refine ⟨entry, parsed, ?_⟩
  induction k generalizing record entry with
  | zero =>
    obtain ⟨s', yielded, after⟩ := next_standing serves patience standing stored parsed own
    obtain ⟨given, reached⟩ :=
      item_of_next (k := 0) ((next_begun unfinished begun standing).trans yielded)
    rw [given, reached]
    exact ⟨rfl, after⟩
  | succ k ih =>
    obtain ⟨within, -⟩ := List.getElem?_eq_some_iff.mp stored
    obtain ⟨before, previous⟩ : ∃ before, log.records[k]? = some before :=
      ⟨_, List.getElem?_eq_getElem (Nat.lt_of_succ_lt within)⟩
    obtain ⟨last, parsedBefore, ownBefore⟩ :=
      StoredRecord.parse_entry (named before (List.mem_of_getElem? previous))
    obtain ⟨-, reached⟩ := ih previous last parsedBefore ownBefore
    obtain ⟨s', yielded, after⟩ := next_standing serves patience reached stored parsed own
    obtain ⟨given, next⟩ := item_of_next yielded
    rw [given, next]
    exact ⟨rfl, after⟩

/-- A traversal with room for the records comes to all of them, and then to the end. -/
theorem items_served {link : Link ε} {maxEntries : Nat} {budget : Option Watch}
    (serves : log.Serves cancels grant link.sent link.reply) (patience : log.Cancels cancels)
    (named : ∀ record ∈ log.records, record.NamesChannel)
    (room : log.records.length ≤ maxEntries) (quiet : Quiet budget)
    (affordable : ∑ k ∈ Finset.range log.records.length, (cancels k + 1) ≤
      min (4 * maxEntries + 4) 65536) :
    (∀ k record, log.records[k]? = some record → ∃ entry, Entry.parse record.bytes = .ok entry ∧
      (fresh link maxEntries budget).item k =
        some (.ok ⟨log.chain.next k, entry, record.bytes⟩)) ∧
    ∀ n, log.records.length ≤ n → (fresh link maxEntries budget).item n = none := by
  obtain ⟨empty, nonempty⟩ := start_served serves maxEntries quiet room affordable
  by_cases none : log.records = []
  · obtain ⟨s', yielded, finished⟩ := empty none
    refine ⟨fun k record stored => ?_, fun n _ => ?_⟩
    · rw [none] at stored
      cases stored
    · obtain ⟨given, ended⟩ := item_of_next (k := 0) yielded
      cases n with
      | zero => exact given
      | succ n =>
        rw [← ended] at finished
        exact (after_finished finished (Nat.succ_pos n)).2
  · obtain ⟨s, begun, standing⟩ := nonempty none
    refine ⟨fun k record stored => ?_, fun n beyond => ?_⟩
    · obtain ⟨entry, parsed, yielded, -⟩ :=
        item_served serves patience named rfl begun standing stored
      exact ⟨entry, parsed, yielded⟩
    · obtain ⟨k, length⟩ : ∃ k, log.records.length = k + 1 :=
        Nat.exists_eq_succ_of_ne_zero (List.length_eq_zero_iff.not.mpr none)
      obtain ⟨last, stored⟩ : ∃ last, log.records[k]? = some last :=
        ⟨_, List.getElem?_eq_getElem (by omega)⟩
      obtain ⟨-, -, -, reached⟩ := item_served serves patience named rfl begun standing stored
      rw [← length] at reached
      obtain ⟨given, ended⟩ := item_of_next (next_past reached none)
      rcases Nat.eq_or_lt_of_le beyond with rfl | later
      · exact given
      · exact (after_finished (by rw [ended]) later).2

end served

/-- However the reservations of a stable log are cancelled, at most twice a
record and within what may be read, a traversal that has room for the records
yields each of them once, in the order of the chain and with its own bytes, and
then nothing: there is no error. -/
theorem stable_log_yielded_whole (log : StableLog) (cancels : Nat → Nat)
    (grant : List Request → NonZeroU16) (link : Link ε) (maxEntries : Nat) (budget : Option Watch)
    (serves : log.Serves cancels grant link.sent link.reply) (patience : log.Cancels cancels)
    (named : ∀ record ∈ log.records, record.NamesChannel)
    (room : log.records.length ≤ maxEntries) (quiet : Quiet budget)
    (affordable : ∑ k ∈ Finset.range log.records.length, (cancels k + 1) ≤
      min (4 * maxEntries + 4) 65536) :
    (∀ k record, log.records[k]? = some record → ∃ entry, Entry.parse record.bytes = .ok entry ∧
      (fresh link maxEntries budget).item k =
        some (.ok ⟨log.chain.next k, entry, record.bytes⟩)) ∧
    ∀ n, log.records.length ≤ n → (fresh link maxEntries budget).item n = none :=
  items_served serves patience named room quiet affordable

/-- Two records: an OEM event, and an event of the BMC's own first sensor. -/
def twoRecords : StableLog where
  records := [
    ⟨[0x01, 0x00, 0xC0, 0x10, 0x20, 0x30, 0x40, 0x57, 0x01, 0x00, 1, 2, 3, 4, 5, 6], rfl, by decide⟩,
    ⟨[0x20, 0x00, 0x02, 0x11, 0x20, 0x30, 0x40, 0x20, 0x00, 0x04, 0x01, 0x01, 0x01, 0x57, 0xFF, 0xFF],
      rfl, by decide⟩]
  acyclic := by decide
  reservable := true

theorem twoRecords_named : ∀ record ∈ twoRecords.records, record.NamesChannel := by
  intro record held
  obtain rfl | rfl : record = twoRecords.records[0] ∨ record = twoRecords.records[1] := by
    simpa [twoRecords] using held
  · intro _
    decide
  · intro _
    decide

/-- The reservation of the first record is cancelled once, that of the last one
twice, and the traversal has room for no more than the two. -/
theorem stable_log_yielded_whole_two :
    let link : Link Unit := ⟨twoRecords.answer (fun k => min (k + 1) 2) (fun _ => ⟨0x1234, by decide⟩), []⟩
    (∀ k record, twoRecords.records[k]? = some record → ∃ entry,
      Entry.parse record.bytes = .ok entry ∧
      (fresh link 2 none).item k = some (.ok ⟨twoRecords.chain.next k, entry, record.bytes⟩)) ∧
    ∀ n, twoRecords.records.length ≤ n → (fresh link 2 none).item n = none := by
  intro link
  refine stable_log_yielded_whole twoRecords (fun k => min (k + 1) 2) (fun _ => ⟨0x1234, by decide⟩) link 2
    none ?_ ?_ ?_ (by decide) ?_ (by decide)
  · exact StableLog.serves_answer _ _ _
  · exact ⟨fun k => Nat.min_le_right _ _, fun unreserved => absurd unreserved (by decide)⟩
  · exact twoRecords_named
  · intro watch absent
    cases absent

/-- One event, whose generator names a channel that is not assigned. -/
def reservedChannel : StableLog where
  records := [⟨[0x01, 0x00, 0x02, 0x11, 0x20, 0x30, 0x40, 0x20, 0xC0, 0x04, 0x01, 0x01, 0x01, 0x57,
    0xFF, 0xFF], rfl, by decide⟩]
  acyclic := by decide
  reservable := false

/-- A stable log of one such record, with room for it and no reservations to
cancel, ends in an error. -/
theorem reserved_channel_refused :
    let reply : List Request → Except Unit Response :=
      reservedChannel.answer (fun _ => 0) (fun _ => ⟨0x1234, by decide⟩)
    reservedChannel.Serves (fun _ => 0) (fun _ => ⟨0x1234, by decide⟩) [] reply ∧
    reservedChannel.Cancels (fun _ => 0) ∧ reservedChannel.records.length ≤ 1 ∧
    (new ⟨reply, []⟩ 1).item 0 = some (.error (.entry (.command (.invalidChannel 0x0C) .storage 0x43
      none [0xFF, 0xFF, 0x01, 0x00, 0x02, 0x11, 0x20, 0x30, 0x40, 0x20, 0xC0, 0x04, 0x01, 0x01, 0x01,
        0x57, 0xFF, 0xFF]))) := by
  intro reply
  refine ⟨StableLog.serves_answer _ _ _, ⟨fun _ => Nat.zero_le 2, fun _ _ => rfl⟩, Nat.le_refl 1, ?_⟩
  have turned : (new (⟨reply, []⟩ : Link Unit) 1).start.2.turn.1 =
      .returned (some (.error (.entry (.command (.invalidChannel 0x0C) .storage 0x43 none
        [0xFF, 0xFF, 0x01, 0x00, 0x02, 0x11, 0x20, 0x30, 0x40, 0x20, 0xC0, 0x04, 0x01, 0x01, 0x01,
          0x57, 0xFF, 0xFF])))) := by decide +kernel
  change (new (⟨reply, []⟩ : Link Unit) 1).start.2.loop.1 = _
  rw [loop_eq, ← Prod.mk.eta (p := (new (⟨reply, []⟩ : Link Unit) 1).start.2.turn), turned]

end SelIter

end IpmiRs.Storage.Sel
