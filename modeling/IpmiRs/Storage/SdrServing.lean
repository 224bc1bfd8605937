import Mathlib.Data.Finset.Card
import IpmiRs.Library.Chain
import IpmiRs.Library.Latest
import IpmiRs.Storage.SdrTraversal

/-! A BMC that holds sensor data records that stay as they are, and answers
reads of their parts: how much at once, and under which reservations. -/
namespace IpmiRs.Storage
open Connection App Library Library.Bytes Library.Latest

/-- A record as it is stored: its header says how long it is. -/
structure StoredSdr where
  bytes : List UInt8
  small : bytes.length ≤ 256
  consistent : bytes.length = 5 + bytes[4]!.toNat
  assigned : RecordId.ofBytes bytes[0]! bytes[1]! ∉ [RecordId.FIRST, RecordId.LAST]

def StoredSdr.recordId (record : StoredSdr) : RecordId := .ofBytes record.bytes[0]! record.bytes[1]!

/-- Records that stay as they are, in the order of their chain, in the
repository or in a device. -/
structure StableSdrs where
  source : SdrSource
  records : List StoredSdr
  acyclic : (records.map (·.recordId)).Nodup
  reservable : Bool

namespace StableSdrs
variable (sdrs : StableSdrs)

/-- The IDs of the records, between the pseudo-ID of the first and the end. -/
def chain : Chain RecordId where
  first := .FIRST
  last := .LAST
  ids := sdrs.records.map (·.recordId)
  acyclic := sdrs.acyclic
  notFirst held := by
    obtain ⟨record, -, same⟩ := List.mem_map.mp held
    exact record.assigned (List.mem_cons.mpr (.inl same))
  notLast held := by
    obtain ⟨record, -, same⟩ := List.mem_map.mp held
    exact record.assigned (List.mem_cons_of_mem _ (List.mem_singleton.mpr same))

/-- Every record before a position can be parsed. -/
def legible (n : Nat) : Bool :=
  (sdrs.records.take n).all fun record => (Record.parse record.bytes).isOk

def isRead (request : Request) : Bool :=
  let model := (readSdr sdrs.source none .FIRST 0 0).request
  request.netfnRaw == model.netfnRaw && request.cmd == model.cmd

/-- A request for a part of a record by one of its IDs. -/
def asksFor (k : Nat) (request : Request) : Bool :=
  sdrs.isRead request && (sdrs.chain.names k).any fun id =>
    (request.data.drop 2).take 2 == toLe 2 id.value.toNat

/-- How often a part of a record was asked for. -/
def asked (k : Nat) (history : List Request) : Nat := history.countP (sdrs.asksFor k)

def isReserve (request : Request) : Bool := request == (reserveSdr sdrs.source).request

/-- The reservation that was given last. -/
def held (grant : List Request → NonZeroU16) (history : List Request) : Option NonZeroU16 :=
  if sdrs.reservable then latest sdrs.isReserve grant history else none

/-- A BMC that answers as it should: `start` was sent before. It returns at most
`limit` bytes at once, and of the reads of record `k` those numbered in
`cancels k` lose their reservation. -/
structure Serves (limit : Nat) (cancels : Nat → Finset Nat) (grant : List Request → NonZeroU16)
    {ε : Type} (start : List Request) (reply : List Request → Except ε Response) : Prop where
  repositoryInfo : sdrs.source = .repository → ∀ history, ∃ data info,
    getSdrRepositoryInfo.request.Answered
      (reply (start ++ history ++ [getSdrRepositoryInfo.request])) 0 data ∧
    getSdrRepositoryInfo.parse data = .ok info ∧
    (info.recordCount.toNat = 0 ↔ sdrs.records = []) ∧
    info.supportedOps.contains .reserve = sdrs.reservable
  deviceInfo : sdrs.source = .device → ∀ history, ∃ data info,
    getDeviceSdrInfo.request.Answered
      (reply (start ++ history ++ [getDeviceSdrInfo.request])) 0 data ∧
    getDeviceSdrInfo.parse data = .ok info ∧
    (info.operationValue.toNat = 0 ↔ sdrs.records = []) ∧ info.dynamicPopulation = sdrs.reservable
  reserve : sdrs.reservable = true → ∀ history, (reserveSdr sdrs.source).request.Answered
    (reply (start ++ history ++ [(reserveSdr sdrs.source).request])) 0
    (toLe 2 (grant (history ++ [(reserveSdr sdrs.source).request])).1.toNat)
  cancelled : ∀ history k record, sdrs.records[k]? = some record → ∀ id ∈ sdrs.chain.names k,
    ∀ offset length, sdrs.asked k history ∈ cancels k →
    let request := (readSdr sdrs.source (sdrs.held grant history) id offset length).request
    ∃ data, request.Answered (reply (start ++ history ++ [request])) 0xC5 data
  limited : ∀ history k record, sdrs.records[k]? = some record → ∀ id ∈ sdrs.chain.names k,
    ∀ offset length, sdrs.asked k history ∉ cancels k → limit < length.toNat →
    let request := (readSdr sdrs.source (sdrs.held grant history) id offset length).request
    ∃ cc ∈ ([0xC7, 0xC8, 0xCA] : List UInt8), ∃ data,
      request.Answered (reply (start ++ history ++ [request])) cc data
  chunk : ∀ history k record, sdrs.records[k]? = some record → ∀ id ∈ sdrs.chain.names k,
    ∀ offset length, sdrs.asked k history ∉ cancels k → length.toNat ≤ limit →
    offset.toNat + length.toNat ≤ record.bytes.length →
    let request := (readSdr sdrs.source (sdrs.held grant history) id offset length).request
    request.Answered (reply (start ++ history ++ [request])) 0
      (toLe 2 (sdrs.chain.next k).value.toNat ++ (record.bytes.drop offset.toNat).take length.toNat)

/-- The device ID leads to these records. -/
def Chooses {ε : Type} (start : List Request) (reply : List Request → Except ε Response) : Prop :=
  ∀ history, ∃ data deviceId,
    getDeviceId.request.Answered (reply (start ++ history ++ [getDeviceId.request])) 0 data ∧
    getDeviceId.parse data = .ok deviceId ∧
    (deviceId.sdrRepositorySupport = true ∧ sdrs.source = .repository ∨
      deviceId.sdrRepositorySupport = false ∧ deviceId.providesDeviceSdrs = true ∧
        sdrs.source = .device)

/-- At most three cancellations a record, and none where nothing is reserved. -/
structure Cancels (cancels : Nat → Finset Nat) : Prop where
  atMostThree : ∀ k, (cancels k).card ≤ 3
  reserved : sdrs.reservable = false → ∀ k, cancels k = ∅

/-! ### What a record's requests are -/

variable {sdrs}

theorem toLe_id_injective {first second : RecordId}
    (same : toLe 2 first.value.toNat = toLe 2 second.value.toNat) : first = second := by
  obtain ⟨low, high, written, named⟩ := SdrIter.toLe_id first
  obtain ⟨low', high', written', named'⟩ := SdrIter.toLe_id second
  rw [written, written'] at same
  simp only [List.cons.injEq, and_true] at same
  rw [← named, ← named', same.1, same.2]

theorem isRead_request (reservation : Option NonZeroU16) (id : RecordId) (offset length : UInt8) :
    sdrs.isRead (readSdr sdrs.source reservation id offset length).request = true := by
  unfold isRead
  cases sdrs.source <;> rfl

theorem requested_id (source : SdrSource) (reservation : Option NonZeroU16) (id : RecordId)
    (offset length : UInt8) :
    ((readSdr source reservation id offset length).request.data.drop 2).take 2 =
      toLe 2 id.value.toNat := by
  cases source <;> rfl

theorem asksFor_request (k : Nat) (reservation : Option NonZeroU16) (id : RecordId)
    (offset length : UInt8) :
    sdrs.asksFor k (readSdr sdrs.source reservation id offset length).request = true ↔
      id ∈ sdrs.chain.names k := by
  rw [asksFor, isRead_request, Bool.true_and, List.any_eq_true, requested_id]
  constructor
  · rintro ⟨named, held, same⟩
    rw [toLe_id_injective (beq_iff_eq.mp same)]
    exact held
  · intro held
    exact ⟨id, held, beq_self_eq_true _⟩

/-- The ID of a record, at its place in the chain. -/
theorem recordId_stored {k : Nat} {record : StoredSdr} (stored : sdrs.records[k]? = some record) :
    sdrs.chain.ids[k]? = some record.recordId := by
  simp [chain, stored]

theorem asked_request_self {k : Nat} {id : RecordId} (named : id ∈ sdrs.chain.names k)
    (history : List Request) (reservation : Option NonZeroU16) (offset length : UInt8) :
    sdrs.asked k (history ++ [(readSdr sdrs.source reservation id offset length).request]) =
      sdrs.asked k history + 1 := by
  rw [asked, List.countP_append, List.countP_singleton,
    if_pos ((asksFor_request _ _ _ _ _).mpr named), asked]

theorem asked_request_other {j k : Nat} {id : RecordId} (named : id ∈ sdrs.chain.names k)
    (other : j ≠ k) (history : List Request) (reservation : Option NonZeroU16)
    (offset length : UInt8) :
    sdrs.asked j (history ++ [(readSdr sdrs.source reservation id offset length).request]) =
      sdrs.asked j history := by
  have plain : ¬sdrs.asksFor j (readSdr sdrs.source reservation id offset length).request = true :=
    fun asks => other (Chain.names_unique ((asksFor_request _ _ _ _ _).mp asks) named)
  rw [asked, List.countP_append, List.countP_singleton, if_neg plain, asked, Nat.add_zero]

/-- Only a read counts. -/
theorem asked_plain {request : Request} (plain : sdrs.isRead request = false) (k : Nat)
    (history : List Request) : sdrs.asked k (history ++ [request]) = sdrs.asked k history := by
  simp [asked, asksFor, plain]

theorem held_plain {grant : List Request → NonZeroU16} {history : List Request} {request : Request}
    (plain : request.cmd ≠ (reserveSdr sdrs.source).request.cmd) :
    sdrs.held grant (history ++ [request]) = sdrs.held grant history := by
  have unmarked : sdrs.isReserve request = false :=
    beq_eq_false_iff_ne.mpr fun same => plain (congrArg Request.cmd same)
  rw [held, held, latest_unmarked _ _ unmarked]

theorem held_reserve {grant : List Request → NonZeroU16} {history : List Request}
    (reservable : sdrs.reservable = true) :
    sdrs.held grant (history ++ [(reserveSdr sdrs.source).request]) =
      some (grant (history ++ [(reserveSdr sdrs.source).request])) := by
  rw [held, if_pos reservable, latest_marked sdrs.isReserve grant (beq_self_eq_true _)]

end StableSdrs

namespace StableSdrs

/-- The answers of a BMC, after a history that was sent to it alone. -/
def answer (sdrs : StableSdrs) (limit : Nat) (cancels : Nat → Finset Nat)
    (grant : List Request → NonZeroU16) {ε : Type} (history : List Request) : Except ε Response :=
  match history.getLast? with
  | none => .ok (getDeviceId.request.answer 0xFF [])
  | some request =>
    if request = getDeviceId.request then
      .ok (request.answer 0 ([0x20, 0x80, 0, 0, 0x02, if sdrs.source = .repository then 0x02 else 0] ++
        List.replicate 5 0))
    else if request = getSdrRepositoryInfo.request then
      .ok (request.answer 0 ([0x51] ++ toLe 2 (min sdrs.records.length 0xFFFF) ++
        List.replicate 10 0 ++ [if sdrs.reservable then 0x02 else 0]))
    else if request = getDeviceSdrInfo.request then
      .ok (request.answer 0 ([UInt8.ofNat (min sdrs.records.length 0xFF),
        if sdrs.reservable then 0x80 else 0] ++ List.replicate 4 0))
    else if request = (reserveSdr sdrs.source).request then
      .ok (request.answer 0 (toLe 2 (grant history).1.toNat))
    else
      match (List.range sdrs.records.length).find? (sdrs.asksFor · request) with
      | none => .ok (request.answer 0xCB [])
      | some k =>
        let offset := request.data[4]!
        let length := request.data[5]!
        if sdrs.asked k history.dropLast ∈ cancels k then .ok (request.answer 0xC5 [])
        else if limit < length.toNat then .ok (request.answer 0xCA [])
        else .ok (request.answer 0 (toLe 2 (sdrs.chain.next k).value.toNat ++
          (((sdrs.records[k]?.map (·.bytes)).getD []).drop offset.toNat).take length.toNat))

/-- The record a request asks for is found. -/
theorem find_asksFor {sdrs : StableSdrs} {k : Nat} {record : StoredSdr}
    (stored : sdrs.records[k]? = some record) (reservation : Option NonZeroU16) {id : RecordId}
    (named : id ∈ sdrs.chain.names k) (offset length : UInt8) :
    (List.range sdrs.records.length).find?
      (sdrs.asksFor · (readSdr sdrs.source reservation id offset length).request) = some k := by
  obtain ⟨within, -⟩ := List.getElem?_eq_some_iff.mp stored
  have found : ∃ j, (List.range sdrs.records.length).find?
      (sdrs.asksFor · (readSdr sdrs.source reservation id offset length).request) = some j := by
    rw [← Option.isSome_iff_exists, List.find?_isSome]
    exact ⟨k, List.mem_range.mpr within, (asksFor_request _ _ _ _ _).mpr named⟩
  obtain ⟨j, found⟩ := found
  have asks := List.find?_some found
  rw [found, Chain.names_unique ((asksFor_request _ _ _ _ _).mp asks) named]

/-- What such a BMC answers to a read of a part of a record. -/
theorem answer_read (sdrs : StableSdrs) (limit : Nat) (cancels : Nat → Finset Nat)
    (grant : List Request → NonZeroU16) {ε : Type} (history : List Request) {k : Nat}
    {record : StoredSdr} (stored : sdrs.records[k]? = some record)
    (reservation : Option NonZeroU16) {id : RecordId} (named : id ∈ sdrs.chain.names k)
    (offset length : UInt8) :
    let request := (readSdr sdrs.source reservation id offset length).request
    sdrs.answer limit cancels grant (ε := ε) (history ++ [request]) =
      if sdrs.asked k history ∈ cancels k then .ok (request.answer 0xC5 [])
      else if limit < length.toNat then .ok (request.answer 0xCA [])
      else .ok (request.answer 0 (toLe 2 (sdrs.chain.next k).value.toNat ++
        (record.bytes.drop offset.toNat).take length.toNat)) := by
  intro request
  have reads : sdrs.isRead request = true := isRead_request _ _ _ _
  have other (command : Request) (plain : sdrs.isRead command = false) : ¬request = command :=
    fun same => Bool.false_ne_true (plain.symm.trans (same ▸ reads))
  have fields : request.data[4]! = offset ∧ request.data[5]! = length := by
    simp only [request]
    cases sdrs.source <;> exact ⟨rfl, rfl⟩
  have plain : sdrs.isRead getDeviceId.request = false ∧
      sdrs.isRead getSdrRepositoryInfo.request = false ∧
      sdrs.isRead getDeviceSdrInfo.request = false ∧
      sdrs.isRead (reserveSdr sdrs.source).request = false := by
    unfold isRead
    cases sdrs.source <;> exact ⟨rfl, rfl, rfl, rfl⟩
  rw [answer, List.getLast?_concat]
  simp only [other _ plain.1, other _ plain.2.1, other _ plain.2.2.1, other _ plain.2.2.2,
    ↓reduceIte, request, find_asksFor stored reservation named, List.dropLast_concat, stored,
    Option.map_some, Option.getD_some]
  rw [fields.1, fields.2]

/-- A BMC answers as a BMC should. -/
theorem serves_answer (sdrs : StableSdrs) (limit : Nat) (cancels : Nat → Finset Nat)
    (grant : List Request → NonZeroU16) {ε : Type} :
    sdrs.Serves limit cancels grant [] (sdrs.answer limit cancels grant (ε := ε)) := by
  constructor
  · intro _ history
    have small : min sdrs.records.length 0xFFFF < 256 ^ 2 := by omega
    have word := ofLe_toLe_of_lt small
    simp only [toLe] at word
    refine ⟨[0x51] ++ toLe 2 (min sdrs.records.length 0xFFFF) ++ List.replicate 10 0 ++
      [if sdrs.reservable then 0x02 else 0], _, ?_, rfl, ?_, ?_⟩
    · rw [List.nil_append, answer, List.getLast?_concat]
      simp only [(by decide : ¬getSdrRepositoryInfo.request = getDeviceId.request), ↓reduceIte]
      exact Request.answered_answer _ _ _
    · simp only [toLe, List.cons_append, List.nil_append, List.getElem!_cons_succ,
        List.getElem!_cons_zero, word, UInt16.toNat_ofNat', ← List.length_eq_zero_iff]
      omega
    · have named (reservable : Bool) : (SdrOperation.ofByte (if reservable then 0x02 else 0)).contains
          .reserve = reservable := by
        cases reservable <;> decide
      exact named sdrs.reservable
  · intro _ history
    refine ⟨[UInt8.ofNat (min sdrs.records.length 0xFF), if sdrs.reservable then 0x80 else 0] ++
      List.replicate 4 0, ⟨UInt8.ofNat (min sdrs.records.length 0xFF), sdrs.reservable⟩, ?_, ?_, ?_,
      rfl⟩
    · rw [List.nil_append, answer, List.getLast?_concat]
      simp only [(by decide : ¬getDeviceSdrInfo.request = getDeviceId.request),
        (by decide : ¬getDeviceSdrInfo.request = getSdrRepositoryInfo.request), ↓reduceIte]
      exact Request.answered_answer _ _ _
    · have read (reservable : Bool) (count : UInt8) :
          DeviceSdrInfo.parse ([count, if reservable then 0x80 else 0] ++ List.replicate 4 0) =
            some ⟨count, reservable⟩ := by
        cases reservable <;> simp [DeviceSdrInfo.parse]
      simp only [getDeviceSdrInfo, read, Option.elim_some]
    · rw [UInt8.toNat_ofNat', ← List.length_eq_zero_iff]
      omega
  · intro _ history
    have other : ¬(reserveSdr sdrs.source).request = getDeviceId.request ∧
        ¬(reserveSdr sdrs.source).request = getSdrRepositoryInfo.request ∧
        ¬(reserveSdr sdrs.source).request = getDeviceSdrInfo.request := by
      cases sdrs.source <;> decide
    rw [List.nil_append, answer, List.getLast?_concat]
    simp only [other.1, other.2.1, other.2.2, ↓reduceIte]
    exact Request.answered_answer _ _ _
  · intro history k record stored id named offset length cancelled
    simp only [List.nil_append]
    rw [answer_read _ _ _ _ _ stored _ named, if_pos cancelled]
    exact ⟨[], Request.answered_answer _ _ _⟩
  · intro history k record stored id named offset length kept large
    simp only [List.nil_append]
    rw [answer_read _ _ _ _ _ stored _ named, if_neg kept, if_pos large]
    exact ⟨0xCA, by decide, [], Request.answered_answer _ _ _⟩
  · intro history k record stored id named offset length kept small within
    simp only [List.nil_append]
    rw [answer_read _ _ _ _ _ stored _ named, if_neg kept, if_neg (Nat.not_lt.mpr small)]
    exact Request.answered_answer _ _ _

theorem chooses_answer (sdrs : StableSdrs) (limit : Nat) (cancels : Nat → Finset Nat)
    (grant : List Request → NonZeroU16) {ε : Type} :
    sdrs.Chooses [] (sdrs.answer limit cancels grant (ε := ε)) := by
  intro history
  refine ⟨[0x20, 0x80, 0, 0, 0x02, if sdrs.source = .repository then 0x02 else 0] ++
    List.replicate 5 0, _, ?_, rfl, ?_⟩
  · rw [List.nil_append, answer, List.getLast?_concat]
    simp only [↓reduceIte]
    exact Request.answered_answer _ _ _
  · cases sdrs.source
    · exact .inl ⟨rfl, rfl⟩
    · exact .inr ⟨rfl, rfl, rfl⟩

end StableSdrs

end IpmiRs.Storage
