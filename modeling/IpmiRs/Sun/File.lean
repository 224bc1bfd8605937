import IpmiRs.Library.BigEndian
import IpmiRs.Library.Memory
import IpmiRs.Sun.Packets

/-! Files of a Sun core tunnel, `sun_get_file`: a file is read in numbered
blocks, the last of which is flagged. -/
namespace IpmiRs.Sun
open Connection App Library Library.Bytes Library.Checked Library.Memory Library.Stateful OverLink

variable {ε : Type}

/-- What a block adds to the bytes that there are, and whether it is the last one. -/
def checkBlock (request reply result : List UInt8) (maxBytes : Nat) : Checked (SunError ε) (List UInt8 × Bool) := do
  if reply.length < 9 then throw (.protocol .invalidSequence)
  else do
    let echoed ← slice reply 0 4
    let asked ← slice request 17 21
    if echoed ≠ asked then throw (.protocol .invalidSequence)
    else do
      let last ← index reply 8
      if 1 < last then throw (.protocol .invalidSequence)
      else do
        let size := ofBe (← slice reply 4 8)
        if 1024 < size ∨ reply.length < 9 + size ∨ (size = 0 ∧ last = 0) then throw (.protocol .truncated)
        else if maxBytes < result.length + size then throw .limit
        else do
          let data ← slice reply 9 (9 + size)
          pure (result ++ data, last == 1)

/-- The loop of `sun_get_file`. -/
def readBlocks (maxBytes : Nat) : (turns block : Nat) → (request result : List UInt8) → OverSun ε (List UInt8)
  | 0, _, _, _ => throw (.error .limit)
  | turns + 1, block, request, result => do
    let request ← checked (copyInto request 17 (toBe 4 block))
    let reply ← sunPacket 0x44 request
    let (result, last) ← checked (checkBlock request reply result maxBytes)
    if last then pure result else readBlocks maxBytes turns (block + 1) request result

/-- `sun_get_file` -/
def sunGetFile (id : List UInt8) (maxBytes : Nat) : OverSun ε (List UInt8) := do
  let id ← checked (identifier id 15)
  if ¬(1 ≤ maxBytes ∧ maxBytes ≤ maxFile) then throw (.error (.invalidInput "file limit must be 1..=1 MiB"))
  else do
    sunRequire3200
    let request ← checked (copyInto ((List.replicate 21 0).set 0 11) 1 id)
    readBlocks maxBytes 1025 0 request []

/-! ### Blocks -/

/-- The request for a block of a file. -/
def blockRequest (id : List UInt8) (block : Nat) : List UInt8 :=
  11 :: id ++ List.replicate (16 - id.length) 0 ++ toBe 4 block

/-- The reply to the request for a block: its number, its length, whether it is the last one, and its data.
Nothing is made of what follows. -/
def BlockReply (block : Nat) (data : List UInt8) (last : Bool) (reply : List UInt8) : Prop :=
  ∃ rest, reply = toBe 4 block ++ toBe 4 data.length ++ [if last then 1 else 0] ++ data ++ rest

/-- What a file is read as: from packets that ask for one block after the other. -/
structure FileRead (id : List UInt8) (maxBytes : Nat) (result : Except (Fault (SunError ε)) (List UInt8))
    (log : List (Exchange ε)) : Prop where
  requests : (packets 0x44 log).length ≤ 1025
  numbered : (packets 0x44 log).map (·.request) =
    (List.range (packets 0x44 log).length).map fun block => (packet 0x44 (blockRequest id block)).request
  ends : ∀ fault, result = .error fault → ∃ error, fault = .error error
  file : ∀ file, result = .ok file → file.length ≤ maxBytes ∧ ∃ blocks : List (List UInt8),
    file = blocks.flatten ∧ blocks ≠ [] ∧
    List.Forall₂ (fun block (one : Exchange ε) => ∃ reply, one.request.Answered one.reply 0 reply ∧
      BlockReply block.2 block.1 (block.2 + 1 == blocks.length) reply) blocks.zipIdx (packets 0x44 log)

section block
variable {id request reply result data : List UInt8} {block maxBytes : Nat}

theorem flag_eq {last : UInt8} (small : ¬1 < last) : (if last == 1 then (1 : UInt8) else 0) = last := by
  revert small
  revert last
  apply forall_of_table
  decide +kernel

theorem split_reply (reply : List UInt8) (size : Nat) :
    (reply.take 4).drop 0 ++ (reply.take 8).drop 4 ++ (reply.take 9).drop 8 ++ (reply.take (9 + size)).drop 9 ++
      reply.drop (9 + size) = reply := by
  rw [List.drop_zero, List.drop_take, List.drop_take, List.drop_take, ← List.take_add, ← List.take_add,
    Nat.add_sub_cancel_left, ← List.take_add]
  exact List.take_append_drop _ _

/-- A reply that passes the checks is one for the block that was asked for. -/
theorem checkBlock_yields (long : request.length = 21) (asked : (request.take 21).drop 17 = toBe 4 block) :
    Yields (fun added => ∃ data, BlockReply block data added.2 reply ∧ added.1 = result ++ data ∧
      added.1.length ≤ maxBytes) (checkBlock request reply result maxBytes : Checked (SunError ε) _) := by
  unfold checkBlock
  refine yields_check fun header => ?_
  rw [Nat.not_lt] at header
  refine Yields.bind (yields_slice (Nat.zero_le 4) (by omega)) fun echoed taken => ?_
  refine Yields.bind (yields_slice (by decide) (by omega)) fun _ number => ?_
  rw [asked] at number
  subst number
  refine yields_check fun same => ?_
  rw [not_not] at same
  refine Yields.bind (yields_index header) fun last flag => ?_
  refine yields_check fun small => ?_
  refine Yields.bind (yields_slice (by decide) (by omega)) fun size sized => ?_
  refine yields_check fun sound => ?_
  refine yields_check fun fits => ?_
  simp only [not_or, Nat.not_lt] at sound
  refine Yields.bind (yields_slice (by omega) (by omega)) fun data copied => ?_
  have length : data.length = ofBe size := by
    rw [copied, List.length_drop, List.length_take]
    omega
  refine Yields.pure ⟨data, ⟨reply.drop (9 + ofBe size), ?_⟩, rfl, ?_⟩
  · have four : size.length = 4 := by
      rw [sized, List.length_drop, List.length_take]
      omega
    have flagged : (if last == 1 then (1 : UInt8) else 0) = last := flag_eq small
    have one : [last] = (reply.take 9).drop 8 := by
      obtain ⟨inside, rfl⟩ := List.getElem?_eq_some_iff.mp flag
      rw [List.drop_take, List.drop_eq_getElem_cons inside]
      rfl
    have whole := split_reply reply (ofBe size)
    rw [← taken, ← sized, ← one, ← copied] at whole
    rw [length, toBe_ofBe four, flagged, ← same, whole]
  · simp only [List.length_append, length]
    omega

/-- The packets ask for no more than so many blocks, from one on. -/
structure Asked (id : List UInt8) (turns block : Nat) (sent : List (Exchange ε)) : Prop where
  few : sent.length ≤ turns
  numbered : sent.map (·.request) =
    (List.range' block sent.length).map fun block => (packet 0x44 (blockRequest id block)).request

theorem Asked.next {turns : Nat} {one : Exchange ε} {later : List (Exchange ε)}
    (sent : one.request = (packet 0x44 (blockRequest id block)).request) (asked : Asked id turns (block + 1) later) :
    Asked id (turns + 1) block (one :: later) where
  few := Nat.succ_le_succ asked.few
  numbered := by
    rw [List.map_cons, List.length_cons, List.range'_succ, List.map_cons, sent, asked.numbered]

theorem Asked.first {turns : Nat} {one : Exchange ε}
    (sent : one.request = (packet 0x44 (blockRequest id block)).request) : Asked id (turns + 1) block [one] :=
  .next sent ⟨Nat.zero_le _, rfl⟩

/-- The number of a block is put into the request. -/
theorem overwrite_block (long : request.length = 21)
    (head : request.take 17 = 11 :: id ++ List.replicate (16 - id.length) 0) (block : Nat) :
    overwrite request 17 (toBe 4 block) = blockRequest id block := by
  rw [overwrite, head, length_toBe, List.drop_of_length_le (Nat.le_of_eq long), List.append_nil]
  rfl

theorem length_blockHead (fits : id.length ≤ 16) :
    (11 :: id ++ List.replicate (16 - id.length) 0).length = 17 := by
  rw [List.length_append, List.length_cons, List.length_replicate]
  omega

/-- The command and the name come before the number. -/
theorem blockHead (short : id.length ≤ 15) :
    (overwrite ((List.replicate 21 (0 : UInt8)).set 0 11) 1 id).take 17 =
      11 :: id ++ List.replicate (16 - id.length) 0 := by
  have memory : (List.replicate 21 (0 : UInt8)).set 0 11 = 11 :: List.replicate 20 0 := rfl
  have named : (11 :: id).length ≤ 17 := by
    rw [List.length_cons]
    omega
  have zeros : min (17 - (11 :: id).length) (20 - id.length) = 16 - id.length := by
    rw [List.length_cons]
    omega
  rw [overwrite, memory, Nat.add_comm 1, List.drop_succ_cons, List.drop_replicate, List.take_succ_cons,
    List.take_zero, List.singleton_append, List.take_append, List.take_of_length_le named, List.take_replicate, zeros]

theorem length_blockRequest (fits : id.length ≤ 16) (block : Nat) : (blockRequest id block).length = 21 := by
  rw [blockRequest, List.length_append, length_blockHead fits, length_toBe]

theorem blockRequest_head (fits : id.length ≤ 16) (block : Nat) :
    (blockRequest id block).take 17 = 11 :: id ++ List.replicate (16 - id.length) 0 :=
  List.take_left' (length_blockHead fits)

theorem blockRequest_number (fits : id.length ≤ 16) (block : Nat) :
    ((blockRequest id block).take 21).drop 17 = toBe 4 block := by
  rw [List.take_of_length_le (Nat.le_of_eq (length_blockRequest fits block))]
  exact List.drop_left' (length_blockHead fits)

/-- Blocks are asked for in order, and the bytes of those that were answered are returned. -/
theorem readBlocks_tells (fits : id.length ≤ 16) (turns : Nat) {block : Nat} (long : request.length = 21)
    (head : request.take 17 = 11 :: id ++ List.replicate (16 - id.length) 0) :
    Tells (readBlocks maxBytes turns block request result : OverSun ε (List UInt8))
      (fun file log => Asked id turns block (packets 0x44 log) ∧ file.length ≤ maxBytes ∧
        ∃ blocks : List (List UInt8), file = result ++ blocks.flatten ∧ blocks ≠ [] ∧
          List.Forall₂ (fun piece (one : Exchange ε) => ∃ reply, one.request.Answered one.reply 0 reply ∧
            BlockReply piece.2 piece.1 (piece.2 + 1 == block + blocks.length) reply) (blocks.zipIdx block)
            (packets 0x44 log))
      (fun fault log => Asked id turns block (packets 0x44 log) ∧ ∃ error, fault = .error error) := by
  induction turns generalizing block request result with
  | zero => exact Tells.throw ⟨⟨Nat.le_refl _, rfl⟩, _, rfl⟩
  | succ turns ih =>
    have copied : (copyInto request 17 (toBe 4 block) : Checked (SunError ε) (List UInt8)) =
        pure (blockRequest id block) := by
      rw [copyInto, length_toBe, if_pos (by omega), overwrite_block long head]
    have grown := length_blockRequest fits block
    rw [readBlocks, copied]
    change Tells (sunPacket 0x44 (blockRequest id block) >>= _) _ _
    refine Tells.bind (sunPacket_tells 0x44 _) ?_ ?_
    · rintro _ log ⟨-, error, rfl, ⟨none, -⟩ | ⟨one, _, -, sole, sent, -⟩⟩
      · rw [none]
        exact ⟨⟨Nat.zero_le _, rfl⟩, _, rfl⟩
      · rw [sole]
        exact ⟨.first sent.1, _, rfl⟩
    rintro reply log ⟨-, one, sole, sent⟩
    have alone : ∀ more, packets 0x44 (log ++ more) = one :: packets 0x44 more := by
      intro more
      rw [packets_append, sole]
      rfl
    simp only [alone]
    refine checked_tells (checkBlock_yields grown (blockRequest_number fits block)) (fun error => ⟨.first sent.1, _, rfl⟩) ?_
    rintro ⟨added, last⟩ ⟨data, answered, rfl, most⟩
    cases last with
    | true =>
      refine Tells.pure ⟨.first sent.1, most, [data], by rw [List.flatten_singleton], List.cons_ne_nil _ _, ?_⟩
      refine .cons ⟨reply, sent_answered sent, ?_⟩ .nil
      rw [List.length_singleton, beq_self_eq_true]
      exact answered
    | false =>
      refine Tells.mono (ih grown (blockRequest_head fits block)) ?_ ?_
      · rintro file later ⟨asked, bound, blocks, rfl, some, all⟩
        refine ⟨.next sent.1 asked, bound, data :: blocks, ?_, List.cons_ne_nil _ _, ?_⟩
        · rw [List.flatten_cons, List.append_assoc]
        · have more := List.length_pos_iff.mpr some
          rw [List.zipIdx_cons, List.length_cons, ← Nat.add_assoc, Nat.add_right_comm block]
          refine .cons ⟨reply, sent_answered sent, ?_⟩ all
          rw [show (block + 1 == block + 1 + blocks.length) = false by simpa using some]
          exact answered
      · rintro _ later ⟨asked, named⟩
        exact ⟨.next sent.1 asked, named⟩

/-- Every file is read from its blocks in order. -/
theorem sunGetFile_tells (id : List UInt8) (maxBytes : Nat) :
    Tells (sunGetFile id maxBytes : OverSun ε (List UInt8)) (fun file log => FileRead id maxBytes (.ok file) log)
      (fun fault log => FileRead id maxBytes (.error fault) log) := by
  have fails : ∀ (error : SunError ε) log, Asked id 1025 0 (packets 0x44 log) →
      FileRead id maxBytes (.error (.error error)) log := by
    rintro error log ⟨few, numbered⟩
    refine ⟨few, List.range_eq_range' ▸ numbered, ?_, fun _ => nofun⟩
    rintro _ ⟨⟩
    exact ⟨error, rfl⟩
  have nothing : Asked id 1025 0 (packets (ε := ε) 0x44 []) := ⟨Nat.zero_le _, rfl⟩
  unfold sunGetFile
  refine checked_tells (identifier_yields id 15) (fun error => fails error [] nothing) ?_
  rintro id ⟨rfl, -, short, -⟩
  split
  · exact Tells.throw (fails _ [] nothing)
  · refine Tells.bind (sunRequire3200_tells (show (0x24 : UInt8) ≠ 0x44 by decide)) ?_ ?_
    · rintro _ log ⟨none, error, rfl⟩
      exact fails error log (none ▸ nothing)
    intro _ log none
    have room : 1 + id.length ≤ ((List.replicate 21 (0 : UInt8)).set 0 11).length := by
      rw [List.length_set, List.length_replicate]
      omega
    refine checked_tells (yields_copyInto room) (fun error => fails error _ ?_) ?_
    · rw [List.append_nil, none]
      exact nothing
    rintro request rfl
    have long : (overwrite ((List.replicate 21 (0 : UInt8)).set 0 11) 1 id).length = 21 := overwrite_length room
    have skip : ∀ more, packets 0x44 (log ++ more) = packets 0x44 more := by
      intro more
      rw [packets_append, none, List.nil_append]
    refine Tells.mono (readBlocks_tells (Nat.le_succ_of_le short) 1025 long (blockHead short)) ?_ ?_
    · rintro file more ⟨⟨few, numbered⟩, bound, blocks, same, some, all⟩
      refine ⟨?_, ?_, fun _ => nofun, ?_⟩
      · rwa [skip]
      · rwa [skip, List.range_eq_range']
      · rintro _ ⟨⟩
        refine ⟨bound, blocks, same, some, ?_⟩
        rw [skip]
        rwa [Nat.zero_add] at all
    · rintro _ more ⟨asked, error, rfl⟩
      refine fails error _ ?_
      rwa [skip]

end block

/-! ### A device that serves a file -/

/-- The requests before the packet for a block: those of the version, and those for the blocks before. -/
def sentBefore (id : List UInt8) (block : Nat) : List Request :=
  [identity, getVersion.request] ++
    (List.range block).flatMap fun earlier => [identity, (packet 0x44 (blockRequest id earlier)).request]

/-- The device of a link is one of Sun's, of a version from 3.2 on, and answers the requests for the blocks of a
file one after the other. Only the last block may be empty. -/
structure ServesFile (link : Link ε) (id : List UInt8) (blocks : List (List UInt8)) : Prop where
  some : blocks ≠ []
  few : blocks.length ≤ 1025
  sized : ∀ block ∈ blocks, block.length ≤ 1024
  nonempty : ∀ block ∈ blocks.dropLast, block ≠ []
  sun : IsSun link
  version : ∃ data version,
    getVersion.request.Answered (link.reply (link.sent ++ [identity, getVersion.request])) 0 data ∧
    getVersion.parse data = .ok version ∧
    ¬[version.major, version.minor, version.update, version.micro] < [3, 2, 0, 0]
  served : ∀ piece ∈ blocks.zipIdx, ∃ reply, reply.length ≤ maxReply ∧
    let request := (packet 0x44 (blockRequest id piece.2)).request
    request.Answered (link.reply (link.sent ++ sentBefore id piece.2 ++ [identity, request])) 0 reply ∧
    BlockReply piece.2 piece.1 (piece.2 + 1 == blocks.length) reply

section served
variable {id request reply result data : List UInt8} {block maxBytes : Nat} {link : Link ε}
  {blocks : List (List UInt8)}

/-- What lies in the middle is sliced out. -/
theorem slice_middle {δ : Type} {xs first middle last : List UInt8} {low high : Nat}
    (split : xs = first ++ middle ++ last) (start : first.length = low) (end_ : low + middle.length = high) :
    (slice xs low high : Checked δ (List UInt8)) = pure middle := by
  subst split start end_
  rw [slice_eq (Nat.le_add_right _ _) (by rw [List.length_append, List.length_append]; omega),
    List.take_left' List.length_append, List.drop_left]

/-- A block that was asked for is added. -/
theorem checkBlock_reply (long : request.length = 21) (asked : (request.take 21).drop 17 = toBe 4 block) {last : Bool}
    (answered : BlockReply block data last reply) (most : data.length ≤ 1024) (some : last = false → data ≠ [])
    (fits : result.length + data.length ≤ maxBytes) :
    (checkBlock request reply result maxBytes : Checked (SunError ε) _) = pure (result ++ data, last) := by
  obtain ⟨rest, rfl⟩ := answered
  generalize flag : (if last then (1 : UInt8) else 0) = flagged
  have number := length_toBe 4 block
  have size := length_toBe 4 data.length
  have sized : ofBe (toBe 4 data.length) = data.length := ofBe_toBe_of_lt (by omega)
  generalize toBe 4 data.length = header at size sized
  generalize built : toBe 4 block ++ header ++ [flagged] ++ data ++ rest = reply
  have whole : 9 + data.length ≤ reply.length := by
    rw [← built, List.length_append, List.length_append, List.length_append, List.length_append, number, size,
      List.length_singleton]
    omega
  have echoed : (slice reply 0 4 : Checked (SunError ε) _) = pure (toBe 4 block) := by
    refine slice_middle (show reply = [] ++ toBe 4 block ++ (header ++ [flagged] ++ data ++ rest) from ?_) rfl
      (by rw [number])
    rw [← built, List.nil_append, ← List.append_assoc, ← List.append_assoc, ← List.append_assoc]
  have counted : (slice reply 4 8 : Checked (SunError ε) _) = pure header := by
    refine slice_middle (show reply = toBe 4 block ++ header ++ ([flagged] ++ data ++ rest) from ?_) number
      (by rw [size])
    rw [← built, ← List.append_assoc, ← List.append_assoc]
  have copied : (slice reply 9 (9 + data.length) : Checked (SunError ε) _) = pure data := by
    refine slice_middle built.symm ?_ rfl
    rw [List.length_append, List.length_append, number, size, List.length_singleton]
  have kind : (index reply 8 : Checked (SunError ε) _) = pure flagged := by
    have eight : (toBe 4 block ++ header).length = 8 := by rw [List.length_append, number, size]
    rw [index, ← built, List.append_assoc, List.append_assoc, List.getElem?_append_right (Nat.le_of_eq eight), eight]
    rfl
  have sound : ¬(1024 < data.length ∨ reply.length < 9 + data.length ∨ (data.length = 0 ∧ flagged = 0)) := by
    rintro (long | short | ⟨none, zero⟩)
    · omega
    · omega
    · cases last with
      | true => cases flag.trans zero
      | false => exact some rfl (List.length_eq_zero_iff.mp none)
  unfold checkBlock
  rw [if_neg (by omega), echoed, slice_eq (by decide) (Nat.le_of_eq long.symm), asked, kind, counted]
  simp only [pure_bind, sized]
  rw [if_neg (not_not.mpr rfl), if_neg (by rw [← flag]; cases last <;> decide), if_neg sound, if_neg (by omega), copied]
  cases last <;> rw [← flag] <;> rfl

theorem sending_sentBefore (link : Link ε) (id : List UInt8) (block : Nat) :
    sending (sending link (sentBefore id block)) [identity, (packet 0x44 (blockRequest id block)).request] =
      sending link (sentBefore id (block + 1)) := by
  rw [sentBefore, sentBefore, List.range_succ, List.flatMap_append, ← List.append_assoc]
  simp only [sending, List.append_assoc]
  rfl

/-- The rest of a file is read from a device that serves it. -/
theorem readBlocks_served (serves : ServesFile link id blocks) (short : id.length ≤ 15)
    (fits : blocks.flatten.length ≤ maxBytes) (turns : Nat) (inside : block < blocks.length)
    (enough : blocks.length ≤ block + turns) (long : request.length = 21)
    (head : request.take 17 = 11 :: id ++ List.replicate (16 - id.length) 0) :
    Ends (readBlocks maxBytes turns block request (blocks.take block).flatten) (sending link (sentBefore id block))
      (fun file _ => file = blocks.flatten) (fun _ _ => False) := by
  induction turns generalizing block request with
  | zero => omega
  | succ turns ih =>
    have named : id.length ≤ 16 := Nat.le_succ_of_le short
    have copied : (copyInto request 17 (toBe 4 block) : Checked (SunError ε) (List UInt8)) =
        pure (blockRequest id block) := by
      rw [copyInto, length_toBe, if_pos (by omega), overwrite_block long head]
    have grown := length_blockRequest named block
    have member : (blocks[block], block) ∈ blocks.zipIdx :=
      List.mem_zipIdx_iff_getElem?.mpr (List.getElem?_eq_getElem inside)
    obtain ⟨reply, bounded, answered, read⟩ := serves.served _ member
    have sun : IsSun (sending link (sentBefore id block)) := serves.sun
    have split : blocks.flatten = (blocks.take block).flatten ++ (blocks[block] ++ (blocks.drop (block + 1)).flatten) := by
      rw [← List.flatten_cons, ← List.drop_eq_getElem_cons inside, ← List.flatten_append, List.take_append_drop]
    have room : (blocks.take block).flatten.length + blocks[block].length ≤ maxBytes := by
      rw [split, List.length_append, List.length_append] at fits
      omega
    have some : (block + 1 == blocks.length) = false → blocks[block] ≠ [] := by
      intro more
      refine serves.nonempty _ (List.mem_of_getElem? (i := block) ?_)
      rw [List.getElem?_dropLast, if_pos (by simp at more; omega), List.getElem?_eq_getElem inside]
    rw [readBlocks, copied]
    change Ends (sunPacket 0x44 (blockRequest id block) >>= _) _ _ _
    refine Ends.bind (sunPacket_answered sun answered bounded) (fun _ _ never => never) ?_
    rintro _ _ ⟨rfl, rfl⟩
    rw [checkBlock_reply grown (blockRequest_number named block) read (serves.sized _ (List.getElem_mem inside)) some room]
    change Ends (if (block + 1 == blocks.length) = true then
      pure ((blocks.take block).flatten ++ blocks[block]) else readBlocks _ _ _ _ _) _ _ _
    have joined : (blocks.take block).flatten ++ blocks[block] = (blocks.take (block + 1)).flatten := by
      rw [List.take_succ_eq_append_getElem inside, List.flatten_append, List.flatten_singleton]
    rw [joined]
    by_cases last : block + 1 = blocks.length
    · rw [if_pos (beq_iff_eq.mpr last), last, List.take_length]
      exact Ends.pure rfl
    · rw [if_neg (fun same => last (beq_iff_eq.mp same)), sending_sentBefore]
      exact ih (by omega) (by omega) grown (blockRequest_head named block)

/-- A file that a device serves is read. -/
theorem sunGetFile_served (serves : ServesFile link id blocks) (named : id ≠ []) (short : id.length ≤ 15)
    (text : 0 ∉ id) (positive : 1 ≤ maxBytes) (most : maxBytes ≤ maxFile) (fits : blocks.flatten.length ≤ maxBytes) :
    Ends (sunGetFile id maxBytes) link (fun file _ => file = blocks.flatten) (fun _ _ => False) := by
  obtain ⟨data, version, answered, parsed, recent⟩ := serves.version
  have room : 1 + id.length ≤ ((List.replicate 21 (0 : UInt8)).set 0 11).length := by
    rw [List.length_set, List.length_replicate]
    omega
  have known : (identifier id 15 : Checked (SunError ε) _) = pure id := by
    rw [identifier, if_neg]
    rintro (none | long | zero)
    · exact named none
    · omega
    · exact text zero
  unfold sunGetFile
  rw [known]
  change Ends (if ¬(1 ≤ maxBytes ∧ maxBytes ≤ maxFile) then _ else _) _ _ _
  rw [if_neg (not_not.mpr ⟨positive, most⟩)]
  refine Ends.bind (sunRequire3200_answered serves.sun answered parsed recent) (fun _ _ never => never) ?_
  rintro _ _ rfl
  rw [copyInto, if_pos room]
  change Ends (readBlocks maxBytes 1025 0 _ []) _ _ _
  exact readBlocks_served serves short fits 1025 (List.length_pos_iff.mpr serves.some)
    (Nat.le_trans serves.few (Nat.le_add_left _ _)) (overwrite_length room) (blockHead short)

end served
/-- Files are read exactly: a file that fits the limit is returned whole from a device that serves it under a
name, and whatever is answered, blocks are asked for in order, and only the bytes of whole files are returned. -/
theorem sun_files_read_exactly :
    (∀ (link : Link ε) (id : List UInt8) (blocks : List (List UInt8)) (maxBytes : Nat), ServesFile link id blocks →
      id ≠ [] → id.length ≤ 15 → 0 ∉ id → 1 ≤ maxBytes → maxBytes ≤ maxFile → blocks.flatten.length ≤ maxBytes →
      ((sunGetFile id maxBytes).eval link).1 = .ok blocks.flatten) ∧
    ∀ (link : Link ε) (id : List UInt8) (maxBytes : Nat),
      let ran := (sunGetFile id maxBytes).eval link
      FileRead id maxBytes ran.1 (ran.2.since link) := by
  refine ⟨fun link id blocks maxBytes serves named short text positive most fits => ?_, fun link id maxBytes => ?_⟩
  · obtain ⟨_, after, read, rfl⟩ := (sunGetFile_served serves named short text positive most fits).returns
    rw [read]
  · refine Ends.result (P := fun result after => FileRead id maxBytes result (Link.since after link)) ?_
    exact Ends.mono (sunGetFile_tells id maxBytes link) (fun _ _ told => told.2) (fun _ _ told => told.2)

/-! ### A device with one file -/

/-- A device of Sun's, of version 3.2, with a file in blocks. -/
def storing (blocks : List (List UInt8)) : Link Unit where
  reply requests := match requests.getLast? with
    | some request =>
      if request = identity then .ok (request.answer 0 [0, 0, 0, 0, 0, 0, 42, 0, 0, 0, 0])
      else if request = getVersion.request then .ok (request.answer 0 (0 :: 3 :: 2 :: List.replicate 62 0))
      else
        let block := ofLe (request.data.drop 17).reverse
        let data := (blocks[block]?).getD []
        .ok (request.answer 0
          (toBe 4 block ++ toBe 4 data.length ++ [if block + 1 == blocks.length then 1 else 0] ++ data))
    | none => .error ()
  sent := []

theorem storing_serves {id : List UInt8} {blocks : List (List UInt8)} (named : id.length ≤ 16) (some : blocks ≠ [])
    (few : blocks.length ≤ 1025) (sized : ∀ block ∈ blocks, block.length ≤ 1024)
    (nonempty : ∀ block ∈ blocks.dropLast, block ≠ []) : ServesFile (storing blocks) id blocks where
  some := some
  few := few
  sized := sized
  nonempty := nonempty
  sun sent := by
    refine ⟨[0, 0, 0, 0, 0, 0, 42, 0, 0, 0, 0], _, ?_, rfl, by decide⟩
    have reply : (storing blocks).reply (sent ++ [identity]) =
        .ok (identity.answer 0 [0, 0, 0, 0, 0, 0, 42, 0, 0, 0, 0]) := by
      simp only [storing, List.getLast?_concat]
      rfl
    rw [reply]
    exact Request.answered_answer _ _ _
  version := ⟨0 :: 3 :: 2 :: List.replicate 62 0, ⟨3, 2, 0, 0, []⟩, Request.answered_answer _ _ _, by decide +kernel,
    by decide⟩
  served := by
    rintro ⟨data, block⟩ member
    have stored := List.mem_zipIdx_iff_getElem?.mp member
    have short := sized data (List.mem_of_getElem? stored)
    have inside := (List.getElem?_eq_some_iff.mp stored).1
    refine ⟨toBe 4 block ++ toBe 4 data.length ++ [if block + 1 == blocks.length then 1 else 0] ++ data, ?_, ?_, [], ?_⟩
    · simp only [List.length_append, length_toBe, List.length_singleton, maxReply]
      omega
    · have other : (packet 0x44 (blockRequest id block)).request ≠ identity := by
        intro same
        exact absurd (congrArg Request.cmd same) (show ¬(0x44 : UInt8) = 0x01 by decide)
      have unlike : (packet 0x44 (blockRequest id block)).request ≠ getVersion.request := by
        intro same
        exact absurd (congrArg Request.cmd same) (show ¬(0x44 : UInt8) = 0x24 by decide)
      have split : ∀ earlier (request : Request), earlier ++ [identity, request] = (earlier ++ [identity]) ++ [request] :=
        fun earlier request => by rw [List.append_assoc, List.singleton_append]
      have number : ofLe (((packet 0x44 (blockRequest id block)).request.data).drop 17).reverse = block := by
        have asked := blockRequest_number named block
        rw [List.take_of_length_le (length_blockRequest named block).le] at asked
        change ofLe ((blockRequest id block).drop 17).reverse = block
        rw [asked, toBe, List.reverse_reverse, ofLe_toLe_of_lt (by omega)]
      simp only [storing, split, List.getLast?_concat]
      rw [if_neg other, if_neg unlike, number, stored]
      exact Request.answered_answer _ _ _
    · rw [List.append_nil]

/-- A file of three blocks. -/
theorem sun_files_read_exactly_three_blocks :
    ((sunGetFile (ascii "DIAG_PASSED") 16).eval (storing [ascii "one ", ascii "two ", ascii "three"])).1 =
      .ok (ascii "one two three") :=
  sun_files_read_exactly.1 _ _ [ascii "one ", ascii "two ", ascii "three"] _
    (storing_serves (by decide) (List.cons_ne_nil _ _) (by decide) (by decide) (by decide)) (by decide) (by decide)
    (by decide) (by decide) (by decide) (by decide)

/-- A device with an empty file. -/
def emptyFile : Link Unit := storing [[]]

theorem emptyFile_serves {id : List UInt8} (named : id.length ≤ 16) : ServesFile emptyFile id [[]] :=
  storing_serves named (List.cons_ne_nil _ _) (by decide) (by decide) (fun _ none => absurd none List.not_mem_nil)

/-- With a limit of no bytes, or under a name that is too long, no file is read at all. -/
theorem sun_file_not_read :
    (ServesFile emptyFile (ascii "DIAG_PASSED") [[]] ∧ ([[]] : List (List UInt8)).flatten.length ≤ 0 ∧
      ((sunGetFile (ascii "DIAG_PASSED") 0).eval emptyFile).1 ≠ .ok []) ∧
    ServesFile emptyFile (ascii "DIAG_PASSED_LATE") [[]] ∧ ([[]] : List (List UInt8)).flatten.length ≤ 1 ∧
      ((sunGetFile (ascii "DIAG_PASSED_LATE") 1).eval emptyFile).1 ≠ .ok [] := by
  refine ⟨⟨emptyFile_serves (by decide), Nat.le_refl _, ?_⟩, emptyFile_serves (by decide), Nat.zero_le _, ?_⟩
  · rintro ⟨⟩
  · rintro ⟨⟩

end IpmiRs.Sun
