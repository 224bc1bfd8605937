import IpmiRs.Storage.SdrServing

/-! What reading in chunks yields of records that stay as they are: the record
a plain read would give, however small the chunks and however often the
reservation is lost on the way. -/
namespace IpmiRs.Storage
open Connection App Library Library.Bytes

namespace SdrIter
variable {ε : Type}

/-! ### One reservation a record, and an end to every read -/

/-- The bytes of a record that an exchange gave. -/
def gained (source : SdrSource) (exchange : Exchange ε) : List UInt8 :=
  match (readSdr source none .FIRST 0 0).readReply exchange.reply with
  | .ok chunk => chunk.data
  | .error _ => []

/-- All that was exchanged on the way were reads under one reservation, and the
data is what they gave. -/
structure Gathered (source : SdrSource) (reservation : Option NonZeroU16) (before after : Link ε)
    (data : List UInt8) : Prop where
  onward : before.Extends after
  requests : ∀ exchange ∈ after.since before, ∃ id offset length,
    exchange.request = (readSdr source reservation id offset length).request
  gained : (after.since before).flatMap (gained source) = data

/-- What reading leaves as it is. -/
structure Unmoved (s t : SdrIter ε) : Prop where
  source : t.source = s.source
  reservation : t.reservation = s.reservation

theorem Gathered.refl (source : SdrSource) (reservation : Option NonZeroU16) (link : Link ε) :
    Gathered source reservation link link [] := by
  refine ⟨.refl _, ?_, ?_⟩ <;> simp [Link.since_self]

theorem Gathered.trans {source : SdrSource} {reservation : Option NonZeroU16} {before mid after : Link ε}
    {early late : List UInt8} (first : Gathered source reservation before mid early)
    (second : Gathered source reservation mid after late) :
    Gathered source reservation before after (early ++ late) := by
  refine ⟨first.onward.trans second.onward, ?_, ?_⟩
  · rw [Link.since_trans first.onward second.onward]
    intro exchange held
    rcases List.mem_append.mp held with held | held
    · exact first.requests exchange held
    · exact second.requests exchange held
  · rw [Link.since_trans first.onward second.onward, List.flatMap_append, first.gained,
      second.gained]

theorem readReply_readSdr (source : SdrSource) (reservation : Option NonZeroU16) (id : RecordId)
    (offset length : UInt8) (reply : Except ε Response) :
    (readSdr source reservation id offset length).readReply reply =
      (readSdr source none .FIRST 0 0).readReply reply := by
  cases source <;> rfl

/-- One read gives its chunk, or nothing. -/
theorem gathered_send (s : SdrIter ε) (source : SdrSource) (reservation : Option NonZeroU16)
    (id : RecordId) (offset length : UInt8) :
    Gathered source reservation s.link
      (s.send (readSdr source reservation id offset length)).2.link
      (match (s.send (readSdr source reservation id offset length)).1 with
        | .ok chunk => chunk.data
        | .error _ => []) := by
  have alone := Link.since_sendRecv (.refl s.link) (readSdr source reservation id offset length)
  rw [Link.since_self, List.nil_append] at alone
  unfold send
  refine ⟨(Link.Extends.refl s.link).sendRecv _, ?_, ?_⟩
  · intro exchange held
    simp only [alone, List.mem_singleton] at held
    exact ⟨id, offset, length, by rw [held]⟩
  · simp only [alone, List.flatMap_singleton, gained, Link.sendRecv_result]
    rw [readReply_readSdr source reservation id offset length]

/-- A read that comes to its end gathered what it was missing. -/
theorem gathered_readBytesFrom (recordId : RecordId) (start length left : Nat) {s t : SdrIter ε}
    {data bytes : List UInt8} {nextId found : Option RecordId}
    (done : readBytesFrom recordId start length left s data nextId = (.ok (bytes, found), t)) :
    ∃ more, bytes = data ++ more ∧ Gathered s.chosen s.reservation s.link t.link more ∧ Unmoved s t := by
  induction left generalizing s data nextId with
  | zero =>
    cases done
    exact ⟨[], (List.append_nil _).symm, .refl _ _ _, rfl, rfl⟩
  | succ left ih =>
    unfold readBytesFrom at done
    by_cases complete : length ≤ data.length
    · rw [if_pos complete] at done
      cases done
      exact ⟨[], (List.append_nil _).symm, .refl _ _ _, rfl, rfl⟩
    rw [if_neg complete] at done
    simp only at done
    by_cases far : 0xFF < start + data.length
    · rw [if_pos far] at done
      cases done
    rw [if_neg far] at done
    have sent := s.gathered_send s.chosen s.reservation recordId
      (UInt8.ofNat (start + data.length)) (UInt8.ofNat (min (length - data.length) s.readLimit))
    have same : Unmoved s (s.send (readSdr s.chosen s.reservation recordId
      (UInt8.ofNat (start + data.length))
      (UInt8.ofNat (min (length - data.length) s.readLimit)))).2 := ⟨rfl, rfl⟩
    generalize s.send _ = outcome at done sent same
    obtain ⟨error | chunk, after⟩ := outcome
    · have nothing : ∃ smaller, readBytesFrom recordId start length left
          { after with readLimit := smaller } data nextId = (.ok (bytes, found), t) := by
        cases error with
        | failed netfn cmd code detail =>
          simp only at done
          split at done
          · exact ⟨_, done⟩
          · cases done
        | unexpectedResponse | command | connection => cases done
      obtain ⟨smaller, again⟩ := nothing
      obtain ⟨more, whole, gathered, unmoved⟩ := ih again
      have chosen : after.chosen = s.chosen := by rw [chosen, chosen, same.source]
      have following : Gathered s.chosen s.reservation after.link t.link more := by
        rw [← chosen, ← same.reservation]
        exact ⟨gathered.onward, gathered.requests, gathered.gained⟩
      exact ⟨more, whole, sent.trans following,
        ⟨unmoved.source.trans same.source, unmoved.reservation.trans same.reservation⟩⟩
    · simp only at done
      split at done
      · cases done
      split at done
      · cases done
      obtain ⟨more, whole, gathered, unmoved⟩ := ih done
      have chosen : after.chosen = s.chosen := by rw [chosen, chosen, same.source]
      rw [chosen, same.reservation] at gathered
      exact ⟨chunk.data ++ more, by rw [whole, List.append_assoc], sent.trans gathered,
        ⟨unmoved.source.trans same.source, unmoved.reservation.trans same.reservation⟩⟩

/-- More turns than are enough make no difference to the loop of a read. -/
theorem readBytesFrom_ends (recordId : RecordId) (start length : Nat) {left more : Nat}
    {s : SdrIter ε} {data : List UInt8} {nextId : Option RecordId} (limit : 1 ≤ s.readLimit)
    (enough : length - data.length + s.readLimit ≤ left) :
    readBytesFrom recordId start length (left + more) s data nextId =
      readBytesFrom recordId start length left s data nextId := by
  induction left generalizing s data nextId with
  | zero => omega
  | succ left ih =>
    rw [Nat.succ_add]
    unfold readBytesFrom
    by_cases complete : length ≤ data.length
    · rw [if_pos complete, if_pos complete]
    rw [if_neg complete, if_neg complete]
    simp only
    by_cases far : 0xFF < start + data.length
    · rw [if_pos far, if_pos far]
    rw [if_neg far, if_neg far]
    generalize shape : readSdr s.chosen s.reservation recordId (UInt8.ofNat (start + data.length))
      (UInt8.ofNat (min (length - data.length) s.readLimit)) = command
    have kept := s.send_readLimit command
    generalize s.send command = outcome at kept
    obtain ⟨error | chunk, after⟩ := outcome
    · cases error with
      | failed netfn cmd code detail =>
        simp only
        by_cases smaller : limitsTransfer code = true ∧ 1 < min (length - data.length) s.readLimit
        · rw [if_pos smaller, if_pos smaller]
          exact ih (Nat.le_max_right _ _) (by simp only; omega)
        · rw [if_neg smaller, if_neg smaller]
      | unexpectedResponse | command | connection => rfl
    · simp only at kept ⊢
      by_cases odd : chunk.data.length ≠ min (length - data.length) s.readLimit
      · rw [if_pos odd, if_pos odd]
      rw [if_neg odd, if_neg odd]
      split
      · rfl
      · exact ih (kept ▸ limit) (by simp only [List.length_append]; omega)

theorem gathered_readBytes {s t : SdrIter ε} {recordId : RecordId} {start length : Nat}
    {expected : Option RecordId} {bytes : List UInt8} {next : RecordId}
    (done : s.readBytes recordId start length expected = (.ok (bytes, next), t)) :
    Gathered s.chosen s.reservation s.link t.link bytes ∧ Unmoved s t := by
  unfold readBytes at done
  generalize read : readBytesFrom recordId start length (length + s.readLimit) s [] expected =
    outcome at done
  obtain ⟨error | ⟨data, found⟩, after⟩ := outcome
  · cases done
  · cases done
    obtain ⟨more, rfl, gathered, unmoved⟩ := gathered_readBytesFrom recordId start length _ read
    exact ⟨gathered, unmoved⟩

theorem gathered_readBody {s t : SdrIter ε} {id headerId nextId : RecordId} {length : Nat}
    {body : List UInt8} (done : s.readBody id headerId nextId length = (.ok body, t)) :
    Gathered s.chosen s.reservation s.link t.link body ∧ Unmoved s t := by
  unfold readBody at done
  by_cases some : length ≠ 0
  · rw [if_pos some] at done
    generalize read : s.readBytes (if id.isFirst then headerId else id) 5 length (.some nextId) =
      outcome at done
    obtain ⟨error | ⟨data, found⟩, after⟩ := outcome
    · cases done
    · cases done
      exact gathered_readBytes read
  · rw [if_neg some] at done
    cases done
    exact ⟨.refl _ _ _, rfl, rfl⟩

/-- The read limit is never lowered to nothing. -/
theorem next_readLimit {s : SdrIter ε} (limit : 1 ≤ s.readLimit) : 1 ≤ s.next.2.readLimit := by
  unfold next
  by_cases ended : s.nextId.isNone = true
  · rw [if_pos ended]
    exact limit
  rw [if_neg ended]
  have begun : 1 ≤ (if s.initialized then (.ok (), s) else s.initializeIter :
      Except (SdrError ε) Unit × SdrIter ε).2.readLimit := by
    split
    · exact limit
    · exact s.initializeIter_frame.2.1 limit
  generalize (if s.initialized then (.ok (), s) else s.initializeIter :
    Except (SdrError ε) Unit × SdrIter ε) = outcome at begun
  obtain ⟨error | ⟨⟩, after⟩ := outcome
  · exact begun
  simp only at begun ⊢
  cases after.nextId with
  | none => exact begun
  | some currentId =>
    simp only
    by_cases last : currentId.isLast = true
    · rw [if_pos last]
      exact begun
    rw [if_neg last]
    by_cases again : after.seen.contains currentId.value = true
    · rw [if_pos again]
      exact begun
    rw [if_neg again]
    obtain ⟨frame, -⟩ := readRecordAttempts_spec currentId 3
      { after with nextId := none, seen := currentId.value :: after.seen } begun
    have kept := frame.limit begun
    change 1 ≤ (readRecord _ currentId).2.readLimit at kept
    generalize readRecord _ currentId = outcome at kept ⊢
    obtain ⟨error | ⟨record, nextId⟩, last⟩ := outcome
    · exact kept
    · exact kept

/-! ### Reading records that stay as they are -/

section served
variable {sdrs : StableSdrs} {limit : Nat} {cancels : Nat → Finset Nat}
  {grant : List Request → NonZeroU16} {start : List Request}
  {reply : List Request → Except ε Response}

/-- The traversal holds the reservation given last, after a history of requests. -/
structure InStep (sdrs : StableSdrs) (grant : List Request → NonZeroU16) (start : List Request)
    (reply : List Request → Except ε Response) (history : List Request) (s : SdrIter ε) :
    Prop where
  link : s.link = ⟨reply, start ++ history⟩
  source : s.source = some sdrs.source
  reservationSupported : s.reservationSupported = sdrs.reservable
  reservation : s.reservation = sdrs.held grant history
  atLeast : 1 ≤ s.readLimit
  atMost : s.readLimit ≤ 32

/-- The cancellations of a record that are still to come. -/
def remaining (sdrs : StableSdrs) (cancels : Nat → Finset Nat) (k : Nat) (history : List Request) :
    Nat := ((cancels k).filter (sdrs.asked k history ≤ ·)).card

theorem remaining_le {k : Nat} {history later : List Request} (grown : history <+: later) :
    remaining sdrs cancels k later ≤ remaining sdrs cancels k history := by
  apply Finset.card_le_card
  intro number held
  rw [Finset.mem_filter] at held ⊢
  exact ⟨held.1, Nat.le_trans (grown.sublist.countP_le) held.2⟩

theorem remaining_lt {k : Nat} {history later : List Request}
    (grown : sdrs.asked k history < sdrs.asked k later)
    (cancelled : sdrs.asked k history ∈ cancels k) :
    remaining sdrs cancels k later < remaining sdrs cancels k history := by
  apply Finset.card_lt_card
  rw [Finset.ssubset_iff_of_subset]
  · refine ⟨sdrs.asked k history, Finset.mem_filter.mpr ⟨cancelled, Nat.le_refl _⟩, fun held => ?_⟩
    exact absurd (Finset.mem_filter.mp held).2 (Nat.not_le.mpr grown)
  · intro number held
    rw [Finset.mem_filter] at held ⊢
    exact ⟨held.1, Nat.le_trans (Nat.le_of_lt grown) held.2⟩

section record
variable {k : Nat} {id : RecordId} {record : StoredSdr} {history : List Request} {s : SdrIter ε}

/-- One read of a part of a record is a request for it under the reservation held. -/
theorem InStep.ask (inStep : InStep sdrs grant start reply history s)
    (named : id ∈ sdrs.chain.names k) (offset length : UInt8) :
    let request := (readSdr sdrs.source (sdrs.held grant history) id offset length).request
    ∃ t, s.send (readSdr s.chosen s.reservation id offset length) =
        ((readSdr sdrs.source (sdrs.held grant history) id offset length).readReply
          (reply (start ++ history ++ [request])), t) ∧
      t = { s with link := t.link } ∧ InStep sdrs grant start reply (history ++ [request]) t ∧
      sdrs.asked k (history ++ [request]) = sdrs.asked k history + 1 ∧
      ∀ j ≠ k, sdrs.asked j (history ++ [request]) = sdrs.asked j history := by
  intro request
  have plain : request.cmd ≠ (reserveSdr sdrs.source).request.cmd := by
    simp only [request]
    cases sdrs.source
    · exact (by decide : (0x23 : UInt8) ≠ 0x22)
    · exact (by decide : (0x21 : UInt8) ≠ 0x22)
  have chosen : s.chosen = sdrs.source := by rw [chosen, inStep.source, Option.getD_some]
  refine ⟨{ s with link := ⟨reply, start ++ history ++ [request]⟩ }, ?_, rfl,
    ⟨by rw [List.append_assoc], inStep.source, inStep.reservationSupported, ?_, inStep.atLeast,
      inStep.atMost⟩, StableSdrs.asked_request_self named _ _ _ _, fun j other =>
      StableSdrs.asked_request_other named other _ _ _ _⟩
  · have command : readSdr s.chosen s.reservation id offset length =
        readSdr sdrs.source (sdrs.held grant history) id offset length := by
      rw [chosen, inStep.reservation]
    rw [command, send, Link.sendRecv_result, Link.sendRecv_link, inStep.link]
  · rw [StableSdrs.held_plain plain]
    exact inStep.reservation

/-- How a read of a part of a record can end: with the part, or with the
reservation lost. -/
inductive ReadOutcome (sdrs : StableSdrs) (cancels : Nat → Finset Nat)
    (grant : List Request → NonZeroU16) (start : List Request)
    (reply : List Request → Except ε Response) (k : Nat) (history : List Request)
    (s : SdrIter ε) {α : Type} (part : Except (SdrError ε) α) :
    Except (SdrError ε) α × SdrIter ε → Prop
  | read (later : List Request) (readLimit : Nat) (t : SdrIter ε)
      (moved : t = { s with link := t.link, readLimit := readLimit })
      (inStep : InStep sdrs grant start reply later t)
      (grown : history <+: later)
      (others : ∀ j ≠ k, sdrs.asked j later = sdrs.asked j history) :
      ReadOutcome sdrs cancels grant start reply k history s part (part, t)
  | lost (later : List Request) (readLimit : Nat) (t : SdrIter ε)
      (moved : t = { s with link := t.link, readLimit := readLimit })
      (inStep : InStep sdrs grant start reply later t)
      (grown : history <+: later)
      (fewer : remaining sdrs cancels k later < remaining sdrs cancels k history)
      (others : ∀ j ≠ k, sdrs.asked j later = sdrs.asked j history)
      (netfn : NetFn) (cmd : UInt8) (detail : List UInt8) :
      ReadOutcome sdrs cancels grant start reply k history s part
        (.error (.read (.failed netfn cmd .reservationCancelledOrInvalidId detail)), t)

/-- A read that began earlier, with a smaller limit, ends the same way. -/
theorem ReadOutcome.earlier {α : Type} {part : Except (SdrError ε) α} {later : List Request} {t : SdrIter ε}
    {readLimit : Nat} {outcome : Except (SdrError ε) α × SdrIter ε}
    (moved : t = { s with link := t.link, readLimit := readLimit })
    (grown : history <+: later) (others : ∀ j ≠ k, sdrs.asked j later = sdrs.asked j history)
    (ends : ReadOutcome sdrs cancels grant start reply k later t part outcome) :
    ReadOutcome sdrs cancels grant start reply k history s part outcome := by
  cases ends with
  | read last readLimit' u moved' inStep more same =>
    refine .read last readLimit' u ?_ inStep (grown.trans more) fun j other => ?_
    · rw [moved', moved]
    · rw [same j other, others j other]
  | lost last readLimit' u moved' inStep more fewer same netfn cmd detail =>
    refine .lost last readLimit' u ?_ inStep (grown.trans more) (Nat.lt_of_lt_of_le fewer (remaining_le grown))
      (fun j other => ?_) netfn cmd detail
    · rw [moved', moved]
    · rw [same j other, others j other]

/-- What a code that limits the transfer is read as. -/
theorem limitsTransfer_code {cc : UInt8} (known : cc ∈ ([0xC7, 0xC8, 0xCA] : List UInt8)) :
    ∃ code, CompletionErrorCode.ofByte cc = some code ∧ limitsTransfer code = true := by
  simp only [List.mem_cons, List.not_mem_nil, or_false] at known
  rcases known with rfl | rfl | rfl
  · exact ⟨.requestDataLenInvalid, by decide, rfl⟩
  · exact ⟨.requestDataLengthLimitExceeded, by decide, rfl⟩
  · exact ⟨.cannotReturnNumOfRequestedBytes, by decide, rfl⟩

/-- The chunk a reply holds. -/
theorem parse_chunk (source : SdrSource) (reservation : Option NonZeroU16) (id next : RecordId)
    (offset length : UInt8) (data : List UInt8) :
    (readSdr source reservation id offset length).parse (toLe 2 next.value.toNat ++ data) =
      .ok ⟨next, data⟩ := by
  obtain ⟨low, high, written, named⟩ := toLe_id next
  simp only [readSdr, written, List.cons_append, List.nil_append, parseChunk, named]

/-- The read loop gives the part of the record it was asked for, unless the
reservation is lost. The induction is on the turns it has left. -/
theorem readBytesFrom_served (serves : sdrs.Serves limit cancels grant start reply)
    (positive : 0 < limit) (stored : sdrs.records[k]? = some record)
    (named : id ∈ sdrs.chain.names k) {first length : Nat} (something : 0 < length)
    (within : first + length ≤ record.bytes.length) (left : Nat)
    (inStep : InStep sdrs grant start reply history s) {data : List UInt8}
    {nextId : Option RecordId} (soFar : data = (record.bytes.drop first).take data.length)
    (short : data.length ≤ length)
    (pointer : nextId = some (sdrs.chain.next k) ∨ nextId = none ∧ data = [])
    (enough : length - data.length + s.readLimit ≤ left) :
    ReadOutcome sdrs cancels grant start reply k history s
      (.ok ((record.bytes.drop first).take length, some (sdrs.chain.next k)))
      (readBytesFrom id first length left s data nextId) := by
  induction left generalizing history s data nextId with
  | zero =>
    have atLeast := inStep.atLeast
    omega
  | succ left ih =>
    have small := record.small
    have atLeast := inStep.atLeast
    have atMost := inStep.atMost
    unfold readBytesFrom
    by_cases complete : length ≤ data.length
    · rw [if_pos complete]
      have whole : data.length = length := Nat.le_antisymm short complete
      rcases pointer with rfl | ⟨-, rfl⟩
      · rw [whole] at soFar
        rw [soFar]
        exact .read history s.readLimit s rfl inStep List.prefix_rfl fun _ _ => rfl
      · rw [List.length_nil] at whole
        omega
    rw [if_neg complete]
    simp only
    rw [if_neg (by omega)]
    generalize asked : min (length - data.length) s.readLimit = requested
    have offset : (UInt8.ofNat (first + data.length)).toNat = first + data.length := by
      rw [UInt8.toNat_ofNat']
      omega
    have count : (UInt8.ofNat requested).toNat = requested := by
      rw [UInt8.toNat_ofNat']
      omega
    obtain ⟨t, sent, moved, after, counted, others⟩ :=
      inStep.ask named (UInt8.ofNat (first + data.length)) (UInt8.ofNat requested)
    have limited : t.readLimit = s.readLimit := by rw [moved]
    by_cases cancelled : sdrs.asked k history ∈ cancels k
    · obtain ⟨detail, answered⟩ := serves.cancelled history k record stored id named
        (UInt8.ofNat (first + data.length)) (UInt8.ofNat requested) cancelled
      have meaning : CompletionErrorCode.ofByte 0xC5 = some .reservationCancelledOrInvalidId := by
        decide
      obtain ⟨netfn, shown, read⟩ := IpmiCommand.readReply_refused answered meaning
        (by cases sdrs.source <;> rfl)
      rw [sent, read]
      simp only [limitsTransfer, Bool.false_eq_true, false_and, ↓reduceIte]
      refine .lost _ s.readLimit t ?_ after (List.prefix_append _ _) (remaining_lt (by omega) cancelled) others _ _ _
      rw [moved]
    by_cases large : limit < requested
    · obtain ⟨cc, known, detail, answered⟩ := serves.limited history k record stored id named
        (UInt8.ofNat (first + data.length)) (UInt8.ofNat requested) cancelled (by omega)
      obtain ⟨code, meaning, limits⟩ := limitsTransfer_code known
      obtain ⟨netfn, shown, read⟩ := IpmiCommand.readReply_refused answered meaning
        (by cases sdrs.source <;> rfl)
      rw [sent, read]
      simp only
      rw [if_pos ⟨limits, by omega⟩]
      have shrunk : InStep sdrs grant start reply _ { t with readLimit := max (requested / 2) 1 } :=
        ⟨after.link, after.source, after.reservationSupported, after.reservation,
          Nat.le_max_right _ _, by simp only; omega⟩
      have smaller : { t with readLimit := max (requested / 2) 1 } =
          { s with link := t.link, readLimit := max (requested / 2) 1 } := by
        rw [moved]
      exact ReadOutcome.earlier smaller (List.prefix_append _ _) others
        (ih shrunk soFar short pointer (by simp only; omega))
    · have answered := serves.chunk history k record stored id named
        (UInt8.ofNat (first + data.length)) (UInt8.ofNat requested) cancelled (by omega) (by omega)
      have read := IpmiCommand.readReply_answered answered (parse_chunk _ _ _ _ _ _ _)
      have size : ((record.bytes.drop (first + data.length)).take requested).length = requested := by
        rw [List.length_take, List.length_drop]
        omega
      have pointed : nextId.any (· ≠ sdrs.chain.next k) = false := by
        rcases pointer with rfl | ⟨rfl, -⟩ <;> simp
      have onward : nextId.or (some (sdrs.chain.next k)) = some (sdrs.chain.next k) := by
        rcases pointer with rfl | ⟨rfl, -⟩ <;> rfl
      rw [sent, read]
      simp only [offset, count]
      rw [if_neg (not_not.mpr size), if_neg (by rw [pointed]; decide), onward]
      have joined : data ++ (record.bytes.drop (first + data.length)).take requested =
          (record.bytes.drop first).take (data.length + requested) := by
        rw [List.take_add, List.drop_drop, ← soFar]
      refine ReadOutcome.earlier moved (List.prefix_append _ _) others (ih after ?_ ?_ (.inl rfl) ?_)
      · rw [List.length_append, size, joined]
      · rw [List.length_append, size]
        omega
      · rw [List.length_append, size, limited]
        omega

/-- `read_bytes` gives the part of the record it was asked for, unless the
reservation is lost. -/
theorem readBytes_served (serves : sdrs.Serves limit cancels grant start reply)
    (positive : 0 < limit) (stored : sdrs.records[k]? = some record)
    (named : id ∈ sdrs.chain.names k) {first length : Nat} (something : 0 < length)
    (within : first + length ≤ record.bytes.length)
    (inStep : InStep sdrs grant start reply history s) {expected : Option RecordId}
    (pointer : expected = some (sdrs.chain.next k) ∨ expected = none) :
    ReadOutcome sdrs cancels grant start reply k history s
      (.ok ((record.bytes.drop first).take length, sdrs.chain.next k))
      (s.readBytes id first length expected) := by
  have ends := readBytesFrom_served serves positive stored named something within
    (length + s.readLimit) inStep List.take_zero.symm (Nat.zero_le _)
    (pointer.imp_right fun none => ⟨none, rfl⟩) (Nat.le_refl _)
  unfold readBytes
  generalize readBytesFrom id first length (length + s.readLimit) s [] expected = outcome at ends
  cases ends with
  | read later readLimit t moved inStep grown others =>
    exact .read later readLimit t moved inStep grown others
  | lost later readLimit t moved inStep grown fewer others netfn cmd detail =>
    exact .lost later readLimit t moved inStep grown fewer others netfn cmd detail

/-- A plain read of a record: all its bytes, parsed at once. -/
def plainRead (sdrs : StableSdrs) (k : Nat) (record : StoredSdr) : Except (SdrError ε) Record :=
  (Record.parse record.bytes).mapError (.parse (sdrs.chain.idAt k))

/-- A record is reached by one of its IDs; the first one by the pseudo-ID. -/
theorem idAt_stored (stored : sdrs.records[k]? = some record) :
    sdrs.chain.idAt k ∈ sdrs.chain.names k ∧ record.recordId ∈ sdrs.chain.names k ∧
      (k = 0 ∧ sdrs.chain.idAt k = .FIRST ∨ k ≠ 0 ∧ sdrs.chain.idAt k = record.recordId) := by
  obtain ⟨named, known⟩ := Chain.idAt_names (StableSdrs.recordId_stored stored)
  exact ⟨named, Chain.mem_names.mpr (.inl (StableSdrs.recordId_stored stored)), known⟩

theorem recordId_ne (stored : sdrs.records[k]? = some record) :
    record.recordId.isFirst = false ∧ record.recordId.isLast = false := by
  have first : record.recordId ≠ .FIRST := Chain.ne_first (StableSdrs.recordId_stored stored)
  have last : record.recordId ≠ .LAST := Chain.ne_last (StableSdrs.recordId_stored stored)
  exact ⟨by rw [← Bool.not_eq_true, RecordId.isFirst_iff]; exact first,
    by rw [← Bool.not_eq_true, RecordId.isLast_iff]; exact last⟩

/-- The header, and what is known of it. -/
theorem header_stored (record : StoredSdr) :
    (record.bytes.take 5).length = 5 ∧ 5 ≤ record.bytes.length ∧
      (record.bytes.take 5)[0]! = record.bytes[0]! ∧ (record.bytes.take 5)[1]! = record.bytes[1]! ∧
      (record.bytes.take 5)[4]! = record.bytes[4]! ∧
      toLe 2 record.recordId.value.toNat = record.bytes.take 2 := by
  have consistent := record.consistent
  have long : 5 ≤ record.bytes.length := by omega
  obtain ⟨a, b, c, d, e, rest, shape⟩ :
      ∃ a b c d e rest, record.bytes = a :: b :: c :: d :: e :: rest := by
    match record.bytes, long with
    | a :: b :: c :: d :: e :: rest, _ => exact ⟨a, b, c, d, e, rest, rfl⟩
  have own : toLe 2 record.recordId.value.toNat = [a, b] := by
    have small : ofLe [a, b] < 2 ^ 16 := Nat.lt_of_lt_of_eq (ofLe_lt [a, b]) (by simp)
    have word : record.recordId.value.toNat = ofLe [a, b] := by
      simp only [StoredSdr.recordId, RecordId.ofBytes, shape, List.getElem!_cons_zero,
        List.getElem!_cons_succ, UInt16.toNat_ofNat', Nat.mod_eq_of_lt small]
    rw [word]
    exact toLe_ofLe rfl
  refine ⟨?_, long, ?_, ?_, ?_, ?_⟩
  all_goals rw [shape]
  · rfl
  · rfl
  · rfl
  · rfl
  · exact own

/-- The body of a record is read under its own ID, and there may be none. -/
theorem readBody_served (serves : sdrs.Serves limit cancels grant start reply)
    (positive : 0 < limit) (stored : sdrs.records[k]? = some record)
    (inStep : InStep sdrs grant start reply history s) :
    ReadOutcome sdrs cancels grant start reply k history s (.ok (record.bytes.drop 5))
      (s.readBody (sdrs.chain.idAt k) record.recordId (sdrs.chain.next k)
        record.bytes[4]!.toNat) := by
  have consistent := record.consistent
  obtain ⟨-, own, known⟩ := idAt_stored stored
  have asked : (if (sdrs.chain.idAt k).isFirst then record.recordId else sdrs.chain.idAt k) =
      record.recordId := by
    rcases known with ⟨-, same⟩ | ⟨-, same⟩ <;> simp [same]
  unfold readBody
  rw [asked]
  by_cases something : record.bytes[4]!.toNat ≠ 0
  · rw [if_pos something]
    have rest : 5 + record.bytes[4]!.toNat ≤ record.bytes.length := by omega
    have ends := readBytes_served serves positive stored own (Nat.pos_of_ne_zero something) rest
      inStep (.inl rfl)
    generalize s.readBytes record.recordId 5 record.bytes[4]!.toNat (some (sdrs.chain.next k)) =
      outcome at ends
    cases ends with
    | read later readLimit t moved inStep grown others =>
      have whole : (record.bytes.drop 5).take record.bytes[4]!.toNat = record.bytes.drop 5 := by
        rw [List.take_of_length_le]
        rw [List.length_drop]
        omega
      rw [whole]
      exact .read later readLimit t moved inStep grown others
    | lost later readLimit t moved inStep grown fewer others netfn cmd detail =>
      exact .lost later readLimit t moved inStep grown fewer others netfn cmd detail
  · rw [if_neg something]
    have none : record.bytes.drop 5 = [] := by
      rw [List.drop_eq_nil_iff]
      omega
    rw [none]
    exact .read history s.readLimit s rfl inStep List.prefix_rfl fun _ _ => rfl

/-- The IDs asked for so far: those of the records up to a position. -/
def idsThrough (sdrs : StableSdrs) (k : Nat) : List UInt16 :=
  ((List.range k).map fun j => (sdrs.chain.idAt j).value).reverse

/-- The pointer of a record leads to one that was not asked for. -/
theorem next_new (stored : sdrs.records[k]? = some record) :
    (sdrs.chain.next k).isFirst = false ∧ sdrs.chain.next k ≠ sdrs.chain.idAt k ∧
      (sdrs.chain.next k).value ∉ idsThrough sdrs (k + 1) := by
  have distinct : sdrs.chain.first ≠ sdrs.chain.last := by
    simp [StableSdrs.chain, RecordId.FIRST, RecordId.LAST]
  have ahead := Chain.next_ne distinct (StableSdrs.recordId_stored stored)
  have unlike (j : Nat) (before : j ≤ k) : sdrs.chain.next k ≠ sdrs.chain.idAt j := by
    intro same
    cases j with
    | zero => exact ahead.1 same
    | succ j =>
      obtain ⟨within, -⟩ := List.getElem?_eq_some_iff.mp stored
      obtain ⟨earlier, storedEarlier⟩ : ∃ earlier, sdrs.records[j + 1]? = some earlier :=
        ⟨_, List.getElem?_eq_getElem (by omega)⟩
      have there := (idAt_stored storedEarlier).2.2
      rw [← same] at there
      rcases there with ⟨absurd', -⟩ | ⟨-, there⟩
      · cases absurd'
      · have known := StableSdrs.recordId_stored storedEarlier
        unfold Chain.next at there
        cases following : sdrs.chain.ids[k + 1]? with
        | none =>
          rw [following, Option.getD_none] at there
          exact Chain.ne_last known there.symm
        | some after =>
          rw [following, Option.getD_some] at there
          have position := Chain.position_unique known (there ▸ following)
          omega
  refine ⟨?_, unlike k (Nat.le_refl k), fun held => ?_⟩
  · rw [← Bool.not_eq_true, RecordId.isFirst_iff]
    exact ahead.1
  · simp only [idsThrough, List.mem_reverse, List.mem_map, List.mem_range] at held
    obtain ⟨j, before, same⟩ := held
    have equal : sdrs.chain.idAt j = sdrs.chain.next k := by
      cases first : sdrs.chain.idAt j
      cases second : sdrs.chain.next k
      simp_all
    exact unlike j (by omega) equal.symm

/-- One attempt at a record: its plain read, from chunks that were all read
under the reservation held, or the reservation is lost. -/
theorem readRecordOnce_served (serves : sdrs.Serves limit cancels grant start reply)
    (positive : 0 < limit) (stored : sdrs.records[k]? = some record)
    (inStep : InStep sdrs grant start reply history s) (seen : s.seen = idsThrough sdrs (k + 1)) :
    ReadOutcome sdrs cancels grant start reply k history s
        ((plainRead sdrs k record).map (·, sdrs.chain.next k))
        (s.readRecordOnce (sdrs.chain.idAt k)) ∧
      (reservationCancelled (s.readRecordOnce (sdrs.chain.idAt k)).1 = false →
        Gathered sdrs.source s.reservation s.link
          (s.readRecordOnce (sdrs.chain.idAt k)).2.link record.bytes) := by
  obtain ⟨named, -, known⟩ := idAt_stored stored
  obtain ⟨notFirst, notLast⟩ := recordId_ne stored
  obtain ⟨five, long, low, high, length, own⟩ := header_stored record
  obtain ⟨onward, away, new⟩ := next_new stored
  have chosen : s.chosen = sdrs.source := by rw [chosen, inStep.source, Option.getD_some]
  have atLeast : 0 + 5 ≤ record.bytes.length := by omega
  have header := readBytes_served serves positive stored named (by decide) atLeast inStep (.inr rfl)
  unfold readRecordOnce
  generalize read : s.readBytes (sdrs.chain.idAt k) 0 5 none = outcome at header
  cases header with
  | lost later readLimit t moved inStep grown fewer others netfn cmd detail =>
    refine ⟨.lost later readLimit t moved inStep grown fewer others netfn cmd detail, fun kept => ?_⟩
    cases kept
  | read later readLimit t moved inStep' grown others =>
    have headerId : RecordId.ofBytes (record.bytes.take 5)[0]! (record.bytes.take 5)[1]! =
        record.recordId := by rw [low, high, StoredSdr.recordId]
    have genuine : ((sdrs.chain.idAt k).isFirst &&
        (record.recordId.isFirst || record.recordId.isLast)) = false := by
      rw [notFirst, notLast, Bool.or_self, Bool.and_false]
    have forward : ((sdrs.chain.next k).isFirst || sdrs.chain.next k == sdrs.chain.idAt k ||
        t.seen.contains (sdrs.chain.next k).value) = false := by
      have unseen : (sdrs.chain.next k).value ∉ t.seen := by rw [moved, seen]; exact new
      simp [onward, away, unseen]
    obtain ⟨first, -⟩ := gathered_readBytes read
    have body := readBody_served serves positive stored inStep'
    simp only [List.drop_zero, headerId, genuine, forward, length, Bool.false_eq_true, ↓reduceIte]
    generalize got : t.readBody (sdrs.chain.idAt k) record.recordId (sdrs.chain.next k)
      record.bytes[4]!.toNat = outcome at body
    cases body with
    | lost last readLimit' u moved' inStep' grown' fewer others' netfn cmd detail =>
      refine ⟨.earlier moved grown others
        (.lost last readLimit' u moved' inStep' grown' fewer others' netfn cmd detail), fun kept => ?_⟩
      cases kept
    | read last readLimit' u moved' inStep'' grown' others' =>
      have named' : (if (sdrs.chain.idAt k).isFirst then (record.bytes.take 5).take 2
          else toLe 2 (sdrs.chain.idAt k).value.toNat) = record.bytes.take 2 := by
        rcases known with ⟨-, same⟩ | ⟨-, same⟩
        · rw [same, if_pos (by rfl), List.take_take]
          rfl
        · rw [same, if_neg (by rw [notFirst]; decide), own]
      have whole : record.bytes.take 2 ++ (record.bytes.take 5).drop 2 ++ record.bytes.drop 5 =
          record.bytes := by
        have split : record.bytes.take 2 ++ (record.bytes.take 5).drop 2 = record.bytes.take 5 := by
          have taken := List.take_append_drop 2 (record.bytes.take 5)
          rwa [List.take_take] at taken
        rw [split, List.take_append_drop]
      obtain ⟨rest, -⟩ := gathered_readBody got
      have still : t.chosen = s.chosen ∧ t.reservation = s.reservation := by
        rw [moved]
        exact ⟨rfl, rfl⟩
      rw [still.1, still.2] at rest
      have gathered := first.trans rest
      rw [List.drop_zero, List.take_append_drop, chosen] at gathered
      have ends : ReadOutcome sdrs cancels grant start reply k history s
          ((plainRead sdrs k record).map (·, sdrs.chain.next k))
          ((plainRead sdrs k record).map (·, sdrs.chain.next k), u) :=
        .earlier moved grown others (.read last readLimit' u moved' inStep'' grown' others')
      simp only [named', whole]
      rw [plainRead] at ends ⊢
      cases parsed : Record.parse record.bytes with
      | error error =>
        rw [parsed] at ends
        exact ⟨ends, fun _ => gathered⟩
      | ok record' =>
        rw [parsed] at ends
        exact ⟨ends, fun _ => gathered⟩

/-- Renewing the reservation. -/
theorem reserve_served (serves : sdrs.Serves limit cancels grant start reply)
    (reservable : sdrs.reservable = true) (link : s.link = ⟨reply, start ++ history⟩)
    (source : s.source = some sdrs.source) (supported : s.reservationSupported = sdrs.reservable)
    (atLeast : 1 ≤ s.readLimit) (atMost : s.readLimit ≤ 32) :
    ∃ t, s.reserve = (.ok (), t) ∧
      t = { s with link := t.link, reservation := t.reservation } ∧
      InStep sdrs grant start reply (history ++ [(reserveSdr sdrs.source).request]) t := by
  have chosen : s.chosen = sdrs.source := by rw [chosen, source, Option.getD_some]
  have answered := serves.reserve reservable history
  generalize given : grant (history ++ [(reserveSdr sdrs.source).request]) = reservation at answered
  have word : ofLe (toLe 2 reservation.1.toNat) = reservation.1.toNat :=
    ofLe_toLe_of_lt reservation.1.toNat_lt
  have parsed : (reserveSdr sdrs.source).parse (toLe 2 reservation.1.toNat) = .ok reservation := by
    simp only [toLe] at word
    simp only [reserveSdr, toLe, parseReservation, word, UInt16.ofNat_toNat, reservation.2, ne_eq,
      not_false_eq_true, ↓reduceDIte]
  have sent : s.send (reserveSdr sdrs.source) = (.ok reservation, { s with
      link := ⟨reply, start ++ history ++ [(reserveSdr sdrs.source).request]⟩ }) := by
    rw [send, Link.sendRecv_result, Link.sendRecv_link, link,
      IpmiCommand.readReply_answered answered parsed]
  have renewed : s.reserve = (.ok (), { s with
      link := ⟨reply, start ++ history ++ [(reserveSdr sdrs.source).request]⟩
      reservation := some reservation }) := by
    rw [reserve, chosen, sent]
  refine ⟨_, renewed, rfl, ?_, source, supported, ?_, atLeast, atMost⟩
  · rw [List.append_assoc]
  · rw [StableSdrs.held_reserve reservable, given]

/-- A plain read loses no reservation. -/
theorem plainRead_kept (record : StoredSdr) : reservationCancelled
    ((plainRead sdrs k record (ε := ε)).map (·, sdrs.chain.next k)) = false := by
  unfold plainRead
  cases Record.parse record.bytes <;> rfl

/-- The attempts of `read_record`: what is left of the cancellations, and the
attempt that reads the record. -/
theorem readRecordAttempts_served (serves : sdrs.Serves limit cancels grant start reply)
    (patience : sdrs.Cancels cancels) (positive : 0 < limit)
    (stored : sdrs.records[k]? = some record) (left : Nat)
    (inStep : InStep sdrs grant start reply history s) (seen : s.seen = idsThrough sdrs (k + 1))
    (enough : remaining sdrs cancels k history ≤ left) :
    ∃ later t mid, readRecordAttempts (sdrs.chain.idAt k) left s =
        ((plainRead sdrs k record).map (·, sdrs.chain.next k), t) ∧
      t = { s with link := t.link, readLimit := t.readLimit, reservation := t.reservation } ∧
      InStep sdrs grant start reply later t ∧
      (∀ j ≠ k, sdrs.asked j later = sdrs.asked j history) ∧ s.link.Extends mid ∧
      Gathered sdrs.source t.reservation mid t.link record.bytes := by
  induction left generalizing history s with
  | zero =>
    obtain ⟨ends, gathered⟩ := readRecordOnce_served serves positive stored inStep seen
    generalize once : s.readRecordOnce (sdrs.chain.idAt k) = outcome at ends gathered
    cases ends with
    | lost later readLimit t moved inStep grown fewer others netfn cmd detail => omega
    | read later readLimit t moved inStep grown others =>
      refine ⟨later, t, s.link, ?_, ?_, inStep, others, .refl _, ?_⟩
      · unfold readRecordAttempts
        simp only [once, plainRead_kept, Bool.false_and, Bool.false_eq_true, ↓reduceIte]
      · rw [moved]
      · have same : t.reservation = s.reservation := by rw [moved]
        rw [same]
        exact gathered (plainRead_kept record)
  | succ left ih =>
    obtain ⟨ends, gathered⟩ := readRecordOnce_served serves positive stored inStep seen
    generalize once : s.readRecordOnce (sdrs.chain.idAt k) = outcome at ends gathered
    cases ends with
    | read later readLimit t moved inStep grown others =>
      refine ⟨later, t, s.link, ?_, ?_, inStep, others, .refl _, ?_⟩
      · unfold readRecordAttempts
        simp only [once, plainRead_kept, Bool.false_and, Bool.false_eq_true, ↓reduceIte]
      · rw [moved]
      · have same : t.reservation = s.reservation := by rw [moved]
        rw [same]
        exact gathered (plainRead_kept record)
    | lost later readLimit t moved after grown fewer others netfn cmd detail =>
      have reservable : sdrs.reservable = true := by
        rw [← Bool.not_eq_false]
        intro unreserved
        rw [remaining, remaining, patience.reserved unreserved k] at fewer
        simp at fewer
      obtain ⟨u, renewed, moved', again⟩ := reserve_served serves reservable after.link
        after.source after.reservationSupported after.atLeast after.atMost
      have plain (j : Nat) : sdrs.asked j (later ++ [(reserveSdr sdrs.source).request]) =
          sdrs.asked j later := by
        refine StableSdrs.asked_plain ?_ j later
        unfold StableSdrs.isRead
        cases sdrs.source <;> rfl
      have still : remaining sdrs cancels k (later ++ [(reserveSdr sdrs.source).request]) =
          remaining sdrs cancels k later := by rw [remaining, plain, remaining]
      obtain ⟨last, v, mid, found, rest, inStep', same, onward, whole⟩ :=
        ih again (by rw [moved', moved]; exact seen) (by omega)
      refine ⟨last, v, mid, ?_, ?_, inStep', fun j other => ?_, ?_, whole⟩
      · have supported : t.reservationSupported = true := by
          rw [after.reservationSupported, reservable]
        unfold readRecordAttempts
        simp only [once, reservationCancelled, supported, Bool.and_self, ↓reduceIte, renewed]
        exact found
      · rw [rest, moved', moved]
      · rw [same j other, plain, others j other]
      · refine Link.Extends.trans ⟨?_, ?_⟩ onward
        · rw [again.link, inStep.link]
        · rw [again.link, inStep.link]
          exact List.prefix_append_right_inj start |>.mpr (grown.trans (List.prefix_append _ _))

end record

/-- The traversal is about to read the record at a position, which nothing has
been asked of yet. -/
structure Standing (sdrs : StableSdrs) (grant : List Request → NonZeroU16) (start : List Request)
    (reply : List Request → Except ε Response) (k : Nat) (s : SdrIter ε) : Prop where
  inStep : ∃ history, InStep sdrs grant start reply history s ∧
    ∀ j, k ≤ j → sdrs.asked j history = 0
  nextId : s.nextId = some (sdrs.chain.idAt k)
  seen : s.seen = idsThrough sdrs k
  initialized : s.initialized = true

theorem idsThrough_succ (k : Nat) :
    idsThrough sdrs (k + 1) = (sdrs.chain.idAt k).value :: idsThrough sdrs k := by
  simp [idsThrough, List.range_succ]

/-- A record is reached by an ID that was not asked for. -/
theorem idAt_new {k : Nat} {record : StoredSdr} (stored : sdrs.records[k]? = some record) :
    (sdrs.chain.idAt k).isLast = false ∧ (sdrs.chain.idAt k).value ∉ idsThrough sdrs k := by
  obtain ⟨-, -, known⟩ := idAt_stored stored
  obtain ⟨-, notLast⟩ := recordId_ne stored
  rcases known with ⟨rfl, same⟩ | ⟨later, same⟩
  · rw [same]
    exact ⟨by decide, by simp [idsThrough]⟩
  · refine ⟨by rw [same, notLast], ?_⟩
    obtain ⟨j, rfl⟩ := Nat.exists_eq_succ_of_ne_zero later
    obtain ⟨within, -⟩ := List.getElem?_eq_some_iff.mp stored
    obtain ⟨before, storedBefore⟩ : ∃ before, sdrs.records[j]? = some before :=
      ⟨_, List.getElem?_eq_getElem (by omega)⟩
    exact (next_new storedBefore).2.2

/-- A call at a record returns its plain read, put together from chunks that
were all read under one reservation. -/
theorem next_standing (serves : sdrs.Serves limit cancels grant start reply)
    (patience : sdrs.Cancels cancels) (positive : 0 < limit) {k : Nat} {record : StoredSdr}
    {s : SdrIter ε} (standing : Standing sdrs grant start reply k s)
    (stored : sdrs.records[k]? = some record) :
    ∃ t, s.next = (some (plainRead sdrs k record), t) ∧
      ((Record.parse record.bytes).isOk = true → Standing sdrs grant start reply (k + 1) t) ∧
      ((Record.parse record.bytes).isOk = false → t.nextId = none) ∧
      ∃ mid, s.link.Extends mid ∧
        Gathered sdrs.source t.reservation mid t.link record.bytes := by
  obtain ⟨history, inStep, unasked⟩ := standing.inStep
  obtain ⟨notLast, new⟩ := idAt_new stored
  have few : remaining sdrs cancels k history ≤ 3 :=
    Nat.le_trans (Finset.card_filter_le _ _) (patience.atMostThree k)
  have begun : InStep sdrs grant start reply history
      { s with nextId := none, seen := (sdrs.chain.idAt k).value :: s.seen } :=
    ⟨inStep.link, inStep.source, inStep.reservationSupported, inStep.reservation, inStep.atLeast,
      inStep.atMost⟩
  obtain ⟨later, t, mid, read, moved, after, others, onward, gathered⟩ :=
    readRecordAttempts_served serves patience positive stored 3 begun
      (by simp only [standing.seen, idsThrough_succ]) few
  have called : s.next = match (plainRead sdrs k record).map (·, sdrs.chain.next k) with
      | .error error => (some (.error error), t)
      | .ok (record, nextId) => (some (.ok record), { t with nextId := some nextId }) := by
    unfold next
    have unseen : s.seen.contains (sdrs.chain.idAt k).value = false := by
      rw [standing.seen]
      simpa using new
    have pending : ¬s.nextId.isNone = true := by
      rw [standing.nextId]
      exact Bool.false_ne_true
    rw [if_neg pending, if_pos standing.initialized]
    simp only [standing.nextId, notLast, unseen, Bool.false_eq_true, ↓reduceIte]
    rw [readRecord, read]
    cases (plainRead sdrs k record (ε := ε)) <;> rfl
  unfold plainRead at called ⊢
  cases parsed : Record.parse record.bytes with
  | error error =>
    rw [parsed] at called
    refine ⟨t, called, ?_, fun _ => ?_, mid, onward, gathered⟩
    · intro parses
      cases parses
    · rw [moved]
  | ok record' =>
    rw [parsed] at called
    refine ⟨_, called, fun _ => ⟨⟨later, ⟨after.link, after.source, after.reservationSupported,
      after.reservation, after.atLeast, after.atMost⟩, fun j beyond => ?_⟩, rfl, ?_, ?_⟩, ?_,
      mid, onward, gathered⟩
    · rw [others j (by omega), unasked j (by omega)]
    · simp only
      rw [moved]
      simp only [standing.seen, idsThrough_succ]
    · simp only
      rw [moved]
      exact standing.initialized
    · intro failed
      cases failed

/-- Past the last record there is nothing more. -/
theorem next_past {s : SdrIter ε}
    (standing : Standing sdrs grant start reply sdrs.records.length s)
    (nonempty : sdrs.records ≠ []) : s.next = (none, { s with nextId := none }) := by
  have last : sdrs.chain.idAt sdrs.records.length = .LAST := by
    have some : sdrs.chain.ids ≠ [] := by simpa [StableSdrs.chain] using nonempty
    have ended := Chain.idAt_length some
    rwa [StableSdrs.chain, List.length_map] at ended
  unfold next
  simp only [standing.nextId, Option.isNone_some, standing.initialized, last, Bool.false_eq_true,
    ↓reduceIte]
  rfl

/-- A command that is answered succeeds. -/
theorem send_served {α β : Type} {history : List Request} {s : SdrIter ε}
    {command : IpmiCommand α β} {data : List UInt8} {output : α}
    (link : s.link = ⟨reply, start ++ history⟩)
    (answered : command.request.Answered (reply (start ++ history ++ [command.request])) 0 data)
    (parsed : command.parse data = .ok output) :
    s.send command =
      (.ok output, { s with link := ⟨reply, start ++ (history ++ [command.request])⟩ }) := by
  rw [send, Link.sendRecv_result, Link.sendRecv_link, link,
    IpmiCommand.readReply_answered answered parsed, List.append_assoc]

/-- The source is the one the caller chose, or the one the device ID leads to. -/
theorem chooseSource_served {source : Option SdrSource}
    (chosen : source = some sdrs.source ∨ source = none ∧ sdrs.Chooses start reply) :
    ∃ history, (new ⟨reply, start⟩ source).chooseSource = (.ok (),
        { new ⟨reply, start ++ history⟩ source with source := some sdrs.source }) ∧
      ∀ j, sdrs.asked j history = 0 := by
  rcases chosen with rfl | ⟨rfl, chooses⟩
  · refine ⟨[], ?_, fun _ => rfl⟩
    rw [List.append_nil]
    rfl
  · obtain ⟨data, deviceId, answered, parsed, leads⟩ := chooses []
    have link : (new ⟨reply, start⟩ none).link = ⟨reply, start ++ []⟩ := by
      rw [List.append_nil]
      rfl
    have sent := send_served link answered parsed
    refine ⟨[getDeviceId.request], ?_, fun j => StableSdrs.asked_plain ?_ j []⟩
    · unfold chooseSource
      rw [sent]
      rcases leads with ⟨repository, same⟩ | ⟨repository, device, same⟩
      · simp [new, repository, same]
      · simp [new, repository, device, same]
    · unfold StableSdrs.isRead
      cases sdrs.source <;> rfl

/-- The source says whether there are records, and whether they can be reserved. -/
theorem sourceInfo_served (serves : sdrs.Serves limit cancels grant start reply)
    {history : List Request} {s : SdrIter ε} (link : s.link = ⟨reply, start ++ history⟩)
    (source : s.source = some sdrs.source) :
    ∃ count request, s.sourceInfo = (.ok (count, sdrs.reservable),
        { s with link := ⟨reply, start ++ (history ++ [request])⟩ }) ∧
      (count = 0 ↔ sdrs.records = []) ∧ sdrs.isRead request = false := by
  have chosen : s.chosen = sdrs.source := by rw [chosen, source, Option.getD_some]
  unfold sourceInfo
  rw [chosen]
  cases kind : sdrs.source with
  | repository =>
    obtain ⟨data, info, answered, parsed, count, reservable⟩ := serves.repositoryInfo kind history
    refine ⟨_, getSdrRepositoryInfo.request, ?_, count, ?_⟩
    · rw [send_served link answered parsed, ← reservable]
    · rw [StableSdrs.isRead, kind]
      rfl
  | device =>
    obtain ⟨data, info, answered, parsed, count, reservable⟩ := serves.deviceInfo kind history
    refine ⟨_, getDeviceSdrInfo.request, ?_, count, ?_⟩
    · rw [send_served link answered parsed, ← reservable]
    · rw [StableSdrs.isRead, kind]
      rfl

/-- Beginning is part of the first call. -/
theorem next_begun {s t : SdrIter ε} (unbegun : s.initialized = false) (pending : s.nextId ≠ none)
    (begun : s.initializeIter = (.ok (), t)) (ready : t.initialized = true) : s.next = t.next := by
  obtain ⟨id, first⟩ := Option.ne_none_iff_exists'.mp pending
  unfold next
  rw [first, unbegun, begun, ready]
  cases found : t.nextId with
  | none => simp [found]
  | some id => simp [found]

/-- A traversal that begins goes on as one that stands before the first record,
if there is one. -/
theorem new_served (serves : sdrs.Serves limit cancels grant start reply) {source : Option SdrSource}
    (chosen : source = some sdrs.source ∨ source = none ∧ sdrs.Chooses start reply) :
    ∃ t, (new ⟨reply, start⟩ source).next = t.next ∧ Link.Extends ⟨reply, start⟩ t.link ∧
      (sdrs.records = [] → t.nextId = none) ∧
      (sdrs.records ≠ [] → Standing sdrs grant start reply 0 t) := by
  obtain ⟨history, settled, fresh⟩ := chooseSource_served chosen
  let known : SdrIter ε := { new ⟨reply, start ++ history⟩ source with source := some sdrs.source }
  have linked : known.link = ⟨reply, start ++ history⟩ := rfl
  obtain ⟨count, request, informed, empty, plain⟩ := sourceInfo_served serves linked rfl
  have asked (j : Nat) : sdrs.asked j (history ++ [request]) = 0 := by
    rw [StableSdrs.asked_plain plain, fresh]
  by_cases none : sdrs.records = []
  · have begun : (new ⟨reply, start⟩ source).initializeIter = (.ok (), {
        new ⟨reply, start ++ (history ++ [request])⟩ source with
        source := some sdrs.source, reservationSupported := sdrs.reservable, nextId := Option.none
        initialized := true }) := by
      unfold initializeIter
      rw [settled]
      simp only
      rw [informed]
      simp only [empty.mpr none, ↓reduceIte]
      rfl
    refine ⟨_, next_begun rfl (by simp [new]) begun rfl, ⟨rfl, List.prefix_append _ _⟩,
      fun _ => rfl, fun some => absurd none some⟩
  · have full : count ≠ 0 := fun zero => none (empty.mp zero)
    cases reservable : sdrs.reservable with
    | false =>
      have begun : (new ⟨reply, start⟩ source).initializeIter = (.ok (), {
          new ⟨reply, start ++ (history ++ [request])⟩ source with
          source := some sdrs.source, reservationSupported := false, initialized := true }) := by
        unfold initializeIter
        rw [settled]
        simp only
        rw [informed]
        simp only [full, reservable, Bool.false_eq_true, ↓reduceIte]
        rfl
      refine ⟨_, next_begun rfl (by simp [new]) begun rfl, ⟨rfl, List.prefix_append _ _⟩,
        fun absent => absurd absent none, fun _ => ⟨⟨history ++ [request],
        ⟨rfl, rfl, reservable.symm, ?_, ?_, Nat.le_refl 32⟩, fun j _ => asked j⟩, rfl, rfl, rfl⟩⟩
      · rw [StableSdrs.held, reservable]
        rfl
      · exact (by decide : 1 ≤ 32)
    | true =>
      let asking : SdrIter ε := { new ⟨reply, start ++ (history ++ [request])⟩ source with
        source := some sdrs.source, reservationSupported := true }
      have link : asking.link = ⟨reply, start ++ (history ++ [request])⟩ := rfl
      obtain ⟨t, renewed, moved, inStep⟩ := reserve_served serves reservable link rfl
        reservable.symm (by decide : 1 ≤ 32) (Nat.le_refl 32)
      have begun : (new ⟨reply, start⟩ source).initializeIter =
          (.ok (), { t with initialized := true }) := by
        unfold initializeIter
        rw [settled]
        simp only
        rw [informed]
        simp only [full, reservable, ↓reduceIte]
        have renewed' : SdrIter.reserve { new ⟨reply, start ++ (history ++ [request])⟩ source with
          source := some sdrs.source, reservationSupported := true } = (.ok (), t) := renewed
        simp only [known, new] at renewed' ⊢
        rw [renewed']
      refine ⟨_, next_begun rfl (by simp [new]) begun rfl, ⟨?_, ?_⟩,
        fun absent => absurd absent none, fun _ => ⟨⟨_, ⟨inStep.link, inStep.source,
          inStep.reservationSupported, inStep.reservation, inStep.atLeast, inStep.atMost⟩,
          fun j _ => ?_⟩, ?_, ?_, rfl⟩⟩
      · simp only
        rw [inStep.link]
      · simp only
        rw [inStep.link]
        exact List.prefix_append _ _
      · have plain' : sdrs.isRead (reserveSdr sdrs.source).request = false := by
          unfold StableSdrs.isRead
          cases sdrs.source <;> rfl
        rw [StableSdrs.asked_plain plain', asked]
      · simp only
        rw [moved]
        rfl
      · simp only
        rw [moved]
        rfl

theorem legible_succ {n : Nat} {record : StoredSdr} (stored : sdrs.records[n]? = some record) :
    sdrs.legible (n + 1) = (sdrs.legible n && (Record.parse record.bytes).isOk) := by
  rw [StableSdrs.legible, StableSdrs.legible, List.take_add_one, stored, List.all_append]
  simp

theorem legible_past {n : Nat} (past : sdrs.records.length ≤ n) :
    sdrs.legible (n + 1) = sdrs.legible n := by
  rw [StableSdrs.legible, StableSdrs.legible, List.take_of_length_le past,
    List.take_of_length_le (by omega)]

/-- What holds after a number of calls: as long as every record could be parsed
the traversal stands before the next one, and else it has ended. -/
theorem standing_after (serves : sdrs.Serves limit cancels grant start reply)
    (patience : sdrs.Cancels cancels) (positive : 0 < limit) (nonempty : sdrs.records ≠ [])
    {s : SdrIter ε} (standing : Standing sdrs grant start reply 0 s) (n : Nat) :
    (sdrs.legible n = true → n ≤ sdrs.records.length →
      Standing sdrs grant start reply n (s.after n)) ∧
      (sdrs.legible n = false ∨ sdrs.records.length < n → (s.after n).nextId = none) := by
  induction n with
  | zero =>
    refine ⟨fun _ _ => standing, ?_⟩
    rintro (illegible | past)
    · simp [StableSdrs.legible] at illegible
    · omega
  | succ n ih =>
    have called (pair : _) (next : (s.after n).next = pair) : s.after (n + 1) = pair.2 := by
      rw [after, next]
    by_cases past : sdrs.records.length ≤ n
    · rw [legible_past past]
      refine ⟨fun _ within => by omega, fun _ => ?_⟩
      by_cases goes : sdrs.legible n = true ∧ n = sdrs.records.length
      · obtain ⟨legible, rfl⟩ := goes
        rw [called _ (next_past (ih.1 legible (Nat.le_refl _)) nonempty)]
      · have stopped : (s.after n).nextId = none := by
          refine ih.2 ?_
          rcases Bool.eq_false_or_eq_true (sdrs.legible n) with legible | illegible
          · exact .inr (Nat.lt_of_le_of_ne past fun same => goes ⟨legible, same.symm⟩)
          · exact .inl illegible
        rw [called _ (next_of_ended stopped)]
        exact stopped
    · obtain ⟨record, stored⟩ : ∃ record, sdrs.records[n]? = some record :=
        ⟨_, List.getElem?_eq_getElem (by omega)⟩
      rw [legible_succ stored]
      cases legible : sdrs.legible n with
      | false =>
        have stopped := ih.2 (.inl legible)
        refine ⟨fun both => absurd both Bool.false_ne_true, fun _ => ?_⟩
        rw [called _ (next_of_ended stopped)]
        exact stopped
      | true =>
        obtain ⟨t, next, onward, ended, -⟩ :=
          next_standing serves patience positive (ih.1 legible (by omega)) stored
        rw [called _ next, Bool.true_and]
        refine ⟨fun parses _ => onward parses, ?_⟩
        rintro (fails | past)
        · exact ended fails
        · omega

/-- The items of a traversal that stands before the first record. -/
theorem item_served (serves : sdrs.Serves limit cancels grant start reply)
    (patience : sdrs.Cancels cancels) (positive : 0 < limit) (nonempty : sdrs.records ≠ [])
    {s : SdrIter ε} (standing : Standing sdrs grant start reply 0 s) (n : Nat) :
    s.item n = (if sdrs.legible n then sdrs.records[n]?.map (plainRead sdrs n) else none) ∧
      ∀ stored, sdrs.legible n = true → sdrs.records[n]? = some stored →
        ∃ mid reservation, (s.after n).link.Extends mid ∧
          Gathered sdrs.source reservation mid (s.after (n + 1)).link stored.bytes := by
  obtain ⟨stands, stopped⟩ := standing_after serves patience positive nonempty standing n
  rw [item, after]
  cases legible : sdrs.legible n with
  | false =>
    rw [next_of_ended (stopped (.inl legible))]
    exact ⟨rfl, fun _ both => absurd both Bool.false_ne_true⟩
  | true =>
    cases found : sdrs.records[n]? with
    | none =>
      have past : sdrs.records.length ≤ n := List.getElem?_eq_none_iff.mp found
      refine ⟨?_, fun _ _ held => by cases held⟩
      rcases Nat.eq_or_lt_of_le past with rfl | beyond
      · rw [next_past (stands legible (Nat.le_refl _)) nonempty]
        rfl
      · rw [next_of_ended (stopped (.inr beyond))]
        rfl
    | some record =>
      obtain ⟨within, -⟩ := List.getElem?_eq_some_iff.mp found
      obtain ⟨t, next, -, -, mid, onward, gathered⟩ :=
        next_standing serves patience positive (stands legible (Nat.le_of_lt within)) found
      rw [next]
      refine ⟨rfl, ?_⟩
      rintro stored - ⟨⟩
      exact ⟨mid, t.reservation, onward, gathered⟩

end served


/-- Whatever the most bytes a BMC returns at once, and however the reservations
of its records are lost, at most three times a record: each call returns the
plain read of the next record, until one cannot be parsed or there are no more,
and nothing after that. The bytes of a record are those that reads under one
reservation gave in the call that returns it. And every read of a part of a
record ends, within as many turns as there are bytes and steps down to a byte. -/
theorem chunked_read_is_plain_read (sdrs : StableSdrs) (limit : Nat) (cancels : Nat → Finset Nat)
    (grant : List Request → NonZeroU16) (link : Link ε) (source : Option SdrSource)
    (positive : 0 < limit) (serves : sdrs.Serves limit cancels grant link.sent link.reply)
    (patience : sdrs.Cancels cancels)
    (chosen : source = some sdrs.source ∨ source = none ∧ sdrs.Chooses link.sent link.reply) :
    (let first := new link source
    (∀ n, first.item n =
      if sdrs.legible n then sdrs.records[n]?.map (plainRead sdrs n) else none) ∧
    (∀ n record, first.item n = some (.ok record) → ∃ stored mid reservation,
      sdrs.records[n]? = some stored ∧ (first.after n).link.Extends mid ∧
      Gathered sdrs.source reservation mid (first.after (n + 1)).link stored.bytes) ∧
    (∀ n, 1 ≤ (first.after n).readLimit)) ∧
    ∀ (s : SdrIter ε) id start length more expected, 1 ≤ s.readLimit →
      readBytesFrom id start length (length + s.readLimit + more) s [] expected =
        readBytesFrom id start length (length + s.readLimit) s [] expected := by
  refine ⟨?_, fun s id start length more expected limit =>
    readBytesFrom_ends id start length limit (by simp)⟩
  intro first
  have limits (n : Nat) : 1 ≤ (first.after n).readLimit := by
    induction n with
    | zero => exact (by decide : 1 ≤ 32)
    | succ n ih => exact next_readLimit ih
  obtain ⟨t, begun, onward, ended, standing⟩ := new_served serves chosen
  have items (n : Nat) : first.item n = t.item n ∧ first.after (n + 1) = t.after (n + 1) := by
    induction n with
    | zero =>
      rw [item, item, after, after, after, after]
      exact ⟨congrArg Prod.fst begun, congrArg Prod.snd begun⟩
    | succ n ih =>
      have next : first.after (n + 1 + 1) = (first.after (n + 1)).next.2 := rfl
      rw [item, item, next, ih.2]
      exact ⟨rfl, rfl⟩
  by_cases none : sdrs.records = []
  · have nothing (n : Nat) : first.item n = Option.none := by
      obtain ⟨-, exhausted⟩ := after_ended (s := t) (n := 0) (ended none) (Nat.zero_le n)
      rw [(items n).1, exhausted]
    refine ⟨fun n => ?_, fun n record yielded => ?_, limits⟩
    · rw [nothing, none]
      simp
    · rw [nothing] at yielded
      cases yielded
  · refine ⟨fun n => ?_, fun n record yielded => ?_, limits⟩
    · rw [(items n).1]
      exact (item_served serves patience positive none (standing none) n).1
    · obtain ⟨shape, gathered⟩ := item_served serves patience positive none (standing none) n
      rw [(items n).1, shape] at yielded
      cases legible : sdrs.legible n with
      | false =>
        rw [legible] at yielded
        cases yielded
      | true =>
        rw [legible, if_pos rfl] at yielded
        obtain ⟨stored, found, -⟩ := Option.map_eq_some_iff.mp yielded
        obtain ⟨mid, reservation, further, whole⟩ := gathered stored legible found
        refine ⟨stored, mid, reservation, found, ?_, ?_⟩
        · cases n with
          | zero => exact onward.trans further
          | succ n => exact (items n).2 ▸ further
        · rw [(items n).2]
          exact whole

/-- Two OEM records of a device, one of them without a body. -/
def twoSdrs : StableSdrs where
  source := .device
  records := [
    ⟨[0x05, 0x00, 0x51, 0xC0, 0x03, 0x01, 0x02, 0x03], by decide, rfl, by decide⟩,
    ⟨[0x01, 0x00, 0x51, 0xC1, 0x00], by decide, rfl, by decide⟩]
  acyclic := by decide
  reservable := true

/-- Read two bytes at a time: the reservation is lost in the header and in the
body of the first record, and three times over at the second one. -/
def twoLost (k : Nat) : Finset Nat := if k = 0 then {1, 4} else {0, 1, 2}

theorem chunked_read_is_plain_read_two :
    let link : Link Unit := ⟨twoSdrs.answer 2 twoLost (fun _ => ⟨0x1234, by decide⟩), []⟩
    (let first := new link none
    (∀ n, first.item n =
      if twoSdrs.legible n then twoSdrs.records[n]?.map (plainRead twoSdrs n) else none) ∧
    (∀ n record, first.item n = some (.ok record) → ∃ stored mid reservation,
      twoSdrs.records[n]? = some stored ∧ (first.after n).link.Extends mid ∧
      Gathered twoSdrs.source reservation mid (first.after (n + 1)).link stored.bytes) ∧
    (∀ n, 1 ≤ (first.after n).readLimit)) ∧
    ∀ (s : SdrIter Unit) id start length more expected, 1 ≤ s.readLimit →
      readBytesFrom id start length (length + s.readLimit + more) s [] expected =
        readBytesFrom id start length (length + s.readLimit) s [] expected := by
  intro link
  refine chunked_read_is_plain_read twoSdrs 2 twoLost (fun _ => ⟨0x1234, by decide⟩) link none
    (by decide) (StableSdrs.serves_answer _ _ _ _) ⟨fun k => ?_, fun unreserved => ?_⟩
    (.inr ⟨rfl, StableSdrs.chooses_answer _ _ _ _⟩)
  · unfold twoLost
    split <;> decide
  · exact absurd unreserved (by decide)

end SdrIter
end IpmiRs.Storage
