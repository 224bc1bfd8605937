import IpmiRs.Sun.KeyValidation

/-! Upload of an OpenSSH public key, `sun_set_ssh_key`: a key that is accepted is
sent in blocks that are counted from zero, up to a last one that is marked. -/
namespace IpmiRs.Sun
open Connection App Library Library.Bytes Library.Checked Library.Chunks Library.Stateful OverLink

variable {ε : Type}

/-- `validate_user` -/
def validateUser (uid : UInt8) : Checked (SunError ε) Unit :=
  if ¬(1 ≤ uid ∧ uid ≤ 63) then throw (.invalidInput "IPMI user ID must be 1..=63") else pure ()

/-- `validate_public_key(public_key).map_err(SunError::InvalidInput)` -/
def checkKey (key : List UInt8) : Checked (SunError ε) Unit :=
  match validatePublicKey key with
  | .ok () => pure ()
  | .error message => throw (.invalidInput message)

/-- `exact` -/
def exactLength (data : List UInt8) (len : Nat) : Checked (SunError ε) Unit :=
  if data.length ≠ len then throw (.protocol .truncated) else pure ()

/-- The blocks of a key that are left to send, each with its number. -/
def sendBlocks (userId : UInt8) (length : Nat) : List (List UInt8 × Nat) → OverSun ε Unit
  | [] => pure ()
  | (chunk, i) :: rest => do
    let last ← checked (sub length 1)
    let marker := if i = last / 64 then 0xFF else UInt8.ofNat i
    let reply ← sunPacket 0x01 (userId :: marker :: UInt8.ofNat chunk.length :: chunk)
    checked (exactLength reply 0)
    sendBlocks userId length rest

/-- `sun_set_ssh_key` -/
def sunSetSshKey (userId : UInt8) (publicKey : List UInt8) : OverSun ε Unit := do
  checked (validateUser userId)
  checked (checkKey publicKey)
  let bytes := stripNewline publicKey
  sendBlocks userId bytes.length (chunks 64 bytes).zipIdx

/-! ### The blocks of a key -/

/-- A block of a key, under its marker. -/
structure Block where
  marker : UInt8
  bytes : List UInt8

/-- The request of a block. -/
def Block.request (userId : UInt8) (block : Block) : Request :=
  (packet 0x01 (userId :: block.marker :: UInt8.ofNat block.bytes.length :: block.bytes)).request

/-- The blocks of a key: together they are the key, and only the last one has the marker of a last block. -/
structure BlocksOf (key : List UInt8) (blocks : List Block) : Prop where
  whole : blocks.flatMap (·.bytes) = key
  sizes : ∀ block ∈ blocks, 1 ≤ block.bytes.length ∧ block.bytes.length ≤ 64
  last : ∀ block, blocks.getLast? = some block → block.marker = 0xFF
  numbered : ∀ i block, i + 1 < blocks.length → blocks[i]? = some block →
    block.marker.toNat = i ∧ block.marker ≠ 0xFF

/-- A numbered part of a key, as the block it is sent in. -/
def blockAt (length : Nat) : List UInt8 × Nat → Block
  | (chunk, i) => ⟨if i = (length - 1) / 64 then 0xFF else UInt8.ofNat i, chunk⟩

/-- The block was taken, with nothing to say. -/
def Taken (one : Exchange ε) : Prop := one.request.Answered one.reply 0 []

/-- An upload of blocks, by the exchanges of it: it stops at the first one that fails, or that is not taken. -/
structure Upload (userId : UInt8) (blocks : List Block) (result : Except (Fault (SunError ε)) Unit)
    (log : List (Exchange ε)) : Prop where
  ends : ∀ fault, result = .error fault → ∃ error, fault = .error error
  sent : (packets 0x01 log).map (·.request) <+: blocks.map (Block.request userId)
  stops : OnlyLast Failed log
  refused : OnlyLast (fun one => ¬Taken one) (packets 0x01 log)
  ended : result = .ok () ↔ (∀ one ∈ log, ¬Failed one) ∧ ∀ one ∈ packets 0x01 log, Taken one
  whole : result = .ok () → (packets 0x01 log).map (·.request) = blocks.map (Block.request userId)

section blocks
variable {userId : UInt8} {blocks : List Block} {block : Block} {result : Except (Fault (SunError ε)) Unit}
  {log more : List (Exchange ε)} {one : Exchange ε}

theorem Upload.nothing (userId : UInt8) : Upload userId [] (.ok () : Except (Fault (SunError ε)) Unit) [] where
  ends := fun _ => nofun
  sent := List.nil_prefix
  stops := .of_none fun _ none => absurd none List.not_mem_nil
  refused := .of_none fun _ none => absurd none List.not_mem_nil
  ended := iff_of_true rfl ⟨fun _ none => absurd none List.not_mem_nil, fun _ none => absurd none List.not_mem_nil⟩
  whole := fun _ => rfl

/-- A check fails, and no packet is sent. -/
theorem Upload.unchecked (error : SunError ε) (last : OnlyLast Failed log) (none : packets 0x01 log = [])
    (failed : ∃ one ∈ log, Failed one) : Upload userId blocks (.error (.error error)) log where
  ends := by
    rintro _ ⟨⟩
    exact ⟨error, rfl⟩
  sent := none ▸ List.nil_prefix
  stops := last
  refused := none ▸ .of_none fun _ none => absurd none List.not_mem_nil
  ended := by
    obtain ⟨one, member, failing⟩ := failed
    exact iff_of_false nofun fun fine => fine.1 one member failing
  whole := nofun

/-- The packet of a block is the last one, and is not taken. -/
theorem Upload.stopped (error : SunError ε) (last : OnlyLast Failed log) (sole : packets 0x01 log = [one])
    (asked : one.request = block.request userId) (refused : Failed one ∨ ¬Taken one) :
    Upload userId (block :: blocks) (.error (.error error)) log where
  ends := by
    rintro _ ⟨⟩
    exact ⟨error, rfl⟩
  sent := by
    rw [sole, List.map_singleton, asked, List.map_cons]
    exact List.cons_prefix_cons.mpr ⟨rfl, List.nil_prefix⟩
  stops := last
  refused := sole ▸ .singleton _ one
  ended := by
    refine iff_of_false nofun fun fine => ?_
    have member : one ∈ packets 0x01 log := sole ▸ List.mem_singleton_self one
    rcases refused with failed | other
    · exact fine.1 one (List.mem_of_mem_filter member) failed
    · exact other (fine.2 one member)
  whole := nofun

/-- A block that is taken goes before the others. -/
theorem Upload.next (passed : ∀ one ∈ log, ¬Failed one) (sole : packets 0x01 log = [one])
    (asked : one.request = block.request userId) (taken : Taken one) (upload : Upload userId blocks result more) :
    Upload userId (block :: blocks) result (log ++ more) where
  ends := upload.ends
  sent := by
    rw [packets_append, sole, List.singleton_append, List.map_cons, asked, List.map_cons]
    exact List.cons_prefix_cons.mpr ⟨rfl, upload.sent⟩
  stops := .append passed upload.stops
  refused := by
    rw [packets_append, sole]
    exact .append (List.forall_mem_singleton.mpr (not_not.mpr taken)) upload.refused
  ended := by
    rw [upload.ended, packets_append, sole, List.singleton_append, List.forall_mem_cons, List.forall_mem_append]
    exact and_congr (and_iff_right passed).symm (and_iff_right taken).symm
  whole := by
    intro returned
    rw [packets_append, sole, List.singleton_append, List.map_cons, asked, List.map_cons, upload.whole returned]

end blocks

/-- Blocks are sent in turn, each once the one before it has been taken. -/
theorem sendBlocks_tells (userId : UInt8) {length : Nat} (some : length ≠ 0) (rest : List (List UInt8 × Nat)) :
    Tells (sendBlocks userId length rest : OverSun ε Unit)
      (fun _ => Upload userId (rest.map (blockAt length)) (.ok ()))
      (fun fault => Upload userId (rest.map (blockAt length)) (.error fault)) := by
  induction rest with
  | nil => exact Tells.pure (.nothing userId)
  | cons first rest ih =>
    obtain ⟨chunk, i⟩ := first
    rw [sendBlocks, sub_eq (Nat.pos_of_ne_zero some)]
    change Tells (sunPacket 0x01 _ >>= _) _ _
    refine Tells.bind (sunPacket_tells 0x01 _) ?_ ?_
    · rintro _ log ⟨last, error, rfl, ⟨none, -, failed⟩ | ⟨one, failure, -, sole, sent, -⟩⟩
      · exact .unchecked _ last none failed
      · exact .stopped _ last sole sent.1 (.inl (.inr ⟨_, _, failure, sent⟩))
    rintro reply log ⟨passed, one, sole, sent⟩
    have answered := sent_answered sent
    unfold exactLength
    by_cases taken : reply = []
    · subst taken
      rw [if_neg (not_not.mpr List.length_nil)]
      exact Tells.mono ih (fun _ _ upload => upload.next passed sole sent.1 answered)
        (fun _ _ upload => upload.next passed sole sent.1 answered)
    · have long : reply.length ≠ 0 := fun none => taken (List.eq_nil_of_length_eq_zero none)
      rw [if_pos long]
      refine Tells.throw ?_
      rw [List.append_nil]
      refine .stopped _ (.of_none passed) sole sent.1 (.inr fun empty => taken ?_)
      exact (answered_unique answered empty).2

/-- The blocks that are sent for a key. -/
def blocksOf (key : List UInt8) : List Block := (chunks 64 key).zipIdx.map (blockAt key.length)

theorem length_blocksOf (key : List UInt8) : (blocksOf key).length = (key.length + 63) / 64 := by
  rw [blocksOf, List.length_map, List.length_zipIdx, length_chunks, divCeil]
  rfl

/-- Each block has the marker of its number. -/
theorem blocksOf_marker {key : List UInt8} {i : Nat} {block : Block} (found : (blocksOf key)[i]? = some block) :
    block.marker = if i = (key.length - 1) / 64 then 0xFF else UInt8.ofNat i := by
  rw [blocksOf, List.getElem?_map, List.getElem?_zipIdx, Nat.zero_add, Option.map_map] at found
  obtain ⟨chunk, -, rfl⟩ := Option.map_eq_some_iff.mp found
  rfl

/-- A key that is not too long has fewer blocks than the marker of the last one. -/
theorem blocksOf_key {key : List UInt8} (some : key ≠ []) (short : key.length ≤ 16384) : BlocksOf key (blocksOf key) where
  whole := by
    calc (blocksOf key).flatMap (·.bytes)
      _ = (chunks 64 key).zipIdx.flatMap Prod.fst := by rw [blocksOf, List.flatMap_map]; rfl
      _ = (chunks 64 key).flatten := by rw [List.flatMap_def, List.zipIdx_map_fst]
      _ = key := flatten_chunks (by decide) key
  sizes := by
    intro block member
    obtain ⟨⟨chunk, i⟩, numbered, rfl⟩ := List.mem_map.mp member
    have within := List.fst_mem_of_mem_zipIdx numbered
    exact length_of_mem_chunks (by decide) within
  last := by
    intro block found
    have length := List.length_pos_iff.mpr some
    rw [List.getLast?_eq_getElem?, length_blocksOf] at found
    rw [blocksOf_marker found, if_pos (by omega)]
  numbered := by
    intro i block more found
    rw [length_blocksOf] at more
    rw [blocksOf_marker found, if_neg (by omega)]
    have number : (UInt8.ofNat i).toNat = i := by
      rw [UInt8.toNat_ofNat']
      omega
    refine ⟨number, fun same => ?_⟩
    rw [same] at number
    change 255 = i at number
    omega

theorem checkKey_eq {key : List UInt8} (accepted : AcceptedKey key) :
    (checkKey key : Checked (SunError ε) Unit) = pure () := by
  rw [checkKey, (validatePublicKey_iff key).mpr accepted]

/-- Nothing is sent of a key that is not accepted, or for a user that there cannot be. -/
theorem sunSetSshKey_rejects {userId : UInt8} {key : List UInt8} (rejected : ¬(AcceptedKey key ∧ 1 ≤ userId ∧ userId ≤ 63)) :
    Tells (sunSetSshKey userId key : OverSun ε Unit) (fun _ _ => False)
      (fun fault log => log = [] ∧ ∃ message, fault = .error (.invalidInput message)) := by
  unfold sunSetSshKey validateUser
  by_cases user : 1 ≤ userId ∧ userId ≤ 63
  · rw [if_neg (not_not.mpr user)]
    cases checks : validatePublicKey key with
    | ok => exact absurd ⟨(validatePublicKey_iff key).mp checks, user⟩ rejected
    | error message =>
      rw [checkKey, checks]
      exact Tells.throw ⟨rfl, message, rfl⟩
  · rw [if_pos user]
    exact Tells.throw ⟨rfl, _, rfl⟩

/-- The blocks of an accepted key are sent. -/
theorem sunSetSshKey_tells {userId : UInt8} {key : List UInt8} (accepted : AcceptedKey key) (user : 1 ≤ userId ∧ userId ≤ 63) :
    Tells (sunSetSshKey userId key : OverSun ε Unit) (fun _ => Upload userId (blocksOf (stripNewline key)) (.ok ()))
      (fun fault => Upload userId (blocksOf (stripNewline key)) (.error fault)) := by
  unfold sunSetSshKey validateUser
  rw [if_neg (not_not.mpr user), checkKey_eq accepted]
  exact sendBlocks_tells userId (fun none => accepted.some (List.eq_nil_of_length_eq_zero none)) _

/-- Keys are validated, and uploaded block by block: a key is accepted if it is an algorithm and the canonical base64
of exactly the fields of that algorithm, and its blocks are sent in order, none after one that failed. -/
theorem ssh_keys_validated_and_uploaded (key encoded bytes : List UInt8) (userId : UInt8) (link : Link ε) :
    let ran := (sunSetSshKey userId key).eval link
    (validatePublicKey key = .ok () ↔ AcceptedKey key) ∧
    (decodeBase64 encoded = some bytes ↔ 16 ≤ encoded.length ∧ encoded = Base64.encode bytes) ∧
    (AcceptedKey key ∧ 1 ≤ userId ∧ userId ≤ 63 →
      ∃ blocks, BlocksOf (stripNewline key) blocks ∧ Upload userId blocks ran.1 (ran.2.since link)) ∧
    (¬(AcceptedKey key ∧ 1 ≤ userId ∧ userId ≤ 63) →
      ran.2.since link = [] ∧ ∃ message, ran.1 = .error (.error (.invalidInput message))) := by
  refine ⟨validatePublicKey_iff key, decodeBase64_iff encoded bytes, ?_, ?_⟩
  · rintro ⟨accepted, user⟩
    refine ⟨blocksOf (stripNewline key), blocksOf_key accepted.some accepted.short, ?_⟩
    refine Ends.result (P := fun result after =>
      Upload userId (blocksOf (stripNewline key)) result (Link.since after link)) ?_
    exact Ends.mono (sunSetSshKey_tells accepted user link) (fun _ _ told => told.2) (fun _ _ told => told.2)
  · intro rejected
    refine Ends.result (P := fun (result : Except (Fault (SunError ε)) Unit) after =>
      Link.since after link = [] ∧ ∃ message, result = .error (.error (.invalidInput message))) ?_
    refine Ends.mono (sunSetSshKey_rejects rejected link) (fun _ _ told => told.2.elim) ?_
    rintro _ after ⟨-, none, message, rfl⟩
    exact ⟨none, message, rfl⟩

end IpmiRs.Sun
