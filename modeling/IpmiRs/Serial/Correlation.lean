import IpmiRs.Serial.Exchange

/-! What a reply over a serial connection answers. A frame that is accepted
carries the header of the one request that is outstanding, and once a request
may have been sent, a failure is the last thing the connection writes for. -/
namespace IpmiRs.Serial
open Connection Library Library.Checked Library.Checksum Library.Runs Library.Stateful

/-! ### Replies -/

/-- What a reply has to answer: a command, the unit it was for, the sequence
number it was sent under and the address it was sent to. -/
structure Addressed where
  netfn : UInt8
  lun : LogicalUnit
  cmd : UInt8
  seq : UInt8
  address : UInt8
  deriving DecidableEq

/-- A frame is the reply, and what it carries behind its header: in basic mode
between the two checksums, with both addresses. -/
def Addressed.Reply (asked : Addressed) (mode : SerialMode) (frame body : List UInt8) : Prop :=
  body ≠ [] ∧
  match mode with
  | .basic => ∃ first last, frame = [REQUESTER, (asked.netfn ||| 1) <<< 2, first, asked.address,
      (asked.seq <<< 2) ||| asked.lun.value, asked.cmd] ++ body ++ [last] ∧
      total (frame.take 3) = 0 ∧ total (frame.drop 3) = 0
  | .terminal => ∃ pair : UInt8,
      frame = [((asked.netfn ||| 1) <<< 2) ||| asked.lun.value, pair, asked.cmd] ++ body ∧ pair >>> 2 = asked.seq

/-- What the source matches such a reply against. -/
def Addressed.expected (asked : Addressed) : Expected :=
  ⟨(asked.netfn <<< 2) ||| asked.lun.value, asked.cmd, asked.seq, asked.address⟩

/-- A request for a network function, under a sequence number of six bits. -/
structure Addressed.Valid (asked : Addressed) : Prop where
  netfn : asked.netfn < 64
  seq : asked.seq < 64

section bits

private theorem header_bits (netfn : UInt8) (lun : LogicalUnit) (small : netfn < 64) :
    (netfn <<< 2 ||| lun.value) ||| (4 : UInt8) = ((netfn ||| (1 : UInt8)) <<< 2) ||| lun.value ∧
    ((netfn <<< 2 ||| lun.value) ||| (4 : UInt8)) &&& ~~~(3 : UInt8) = (netfn ||| (1 : UInt8)) <<< 2 ∧
    (netfn <<< 2 ||| lun.value) &&& 3 = lun.value ∧
    (netfn <<< 2 ||| lun.value) >>> 2 = netfn := by
  have table : ∀ n : Fin 64, ((UInt8.ofNat n <<< 2 ||| lun.value) ||| (4 : UInt8) =
        ((UInt8.ofNat n ||| (1 : UInt8)) <<< 2) ||| lun.value ∧
      ((UInt8.ofNat n <<< 2 ||| lun.value) ||| (4 : UInt8)) &&& ~~~(3 : UInt8) =
        (UInt8.ofNat n ||| (1 : UInt8)) <<< 2 ∧
      (UInt8.ofNat n <<< 2 ||| lun.value) &&& 3 = lun.value ∧
      (UInt8.ofNat n <<< 2 ||| lun.value) >>> 2 = UInt8.ofNat n) := by
    cases lun <;> decide +kernel
  have entry := table ⟨netfn.toNat, UInt8.lt_iff_toNat_lt.mp small⟩
  rwa [UInt8.ofNat_toNat] at entry

private theorem pair_bits (pair seq : UInt8) (small : seq < 64) :
    pair &&& ~~~(3 : UInt8) = seq <<< 2 ↔ pair >>> 2 = seq := by
  have halves : ∀ n : Fin 256, UInt8.ofNat n &&& ~~~(3 : UInt8) = (UInt8.ofNat n >>> 2) <<< 2 ∧
      ((UInt8.ofNat n >>> 2) <<< 2) >>> 2 = UInt8.ofNat n >>> 2 := by decide +kernel
  have whole : ∀ n : Fin 64, (UInt8.ofNat n <<< 2) >>> 2 = UInt8.ofNat n := by decide +kernel
  have cut := halves ⟨pair.toNat, pair.toNat_lt⟩
  have kept := whole ⟨seq.toNat, UInt8.lt_iff_toNat_lt.mp small⟩
  rw [UInt8.ofNat_toNat] at cut kept
  constructor
  · intro same
    rw [← cut.2, ← cut.1, same, kept]
  · rintro rfl
    exact cut.1

end bits

/-- One field more is checked before what is checked after it. -/
private theorem check_eq {ε α : Type} {p q : Prop} [Decidable p] [Decidable q] {value : α}
    {x : Checked ε (Option α)} (rest : x = pure (if q then some value else none)) :
    (if ¬p then pure none else x) = (pure (if p ∧ q then some value else none) : Checked ε (Option α)) := by
  by_cases held : p
  · rw [if_neg (not_not.mpr held), rest]
    simp only [held, true_and]
  · rw [if_pos held]
    simp only [held, false_and, if_false]

private theorem checksum_zero_iff (bytes : List UInt8) : checksum bytes = 0 ↔ total bytes = 0 := by
  rw [checksum]
  grind

private theorem parseIpmb_layout (a b c d e f last : UInt8) {body : List UInt8} (filled : body ≠ [])
    (expected : Expected) :
    parseIpmb ([a, b, c, d, e, f] ++ body ++ [last]) expected =
      pure (if checksum [a, b, c] = 0 ∧ checksum ([d, e, f] ++ body ++ [last]) = 0 ∧ a = REQUESTER ∧
        b = (expected.netfn ||| (4 : UInt8)) &&& ~~~(3 : UInt8) ∧ d = expected.target ∧
        e = (expected.seq <<< 2) ||| (expected.netfn &&& 3) ∧ f = expected.cmd ∧ True
        then some body else none) := by
  have long : 0 < body.length := List.length_pos_iff.mpr filled
  have whole : [a, b, c, d, e, f] ++ body ++ [last] = a :: b :: c :: d :: e :: f :: (body ++ [last]) := by simp
  have size : (a :: b :: c :: d :: e :: f :: (body ++ [last])).length = body.length + 7 := by simp
  unfold parseIpmb
  rw [whole, if_neg (by omega), slice_eq (by omega) (by omega), slice_eq (by omega) (by omega),
    slice_eq (by omega) (by omega), List.take_length]
  simp only [pure_bind, index_succ, index_zero]
  refine check_eq (check_eq (check_eq (check_eq (check_eq (check_eq (check_eq ?_))))))
  have shape : (a :: b :: c :: d :: e :: f :: (body ++ [last])).length - 1 =
      ([a, b, c, d, e, f] ++ body).length := by simp
  have cut : (a :: b :: c :: d :: e :: f :: (body ++ [last])).take ([a, b, c, d, e, f] ++ body).length =
      [a, b, c, d, e, f] ++ body := by rw [← whole, List.take_left]
  rw [shape, cut]
  rfl

namespace Addressed
variable {asked : Addressed}

/-- A frame in basic mode is accepted if and only if it is the reply. -/
theorem parseIpmb_iff (valid : asked.Valid) (frame : List UInt8) :
    ∃ found, parseIpmb frame asked.expected = pure found ∧
      ∀ body, found = some body ↔ asked.Reply .basic frame body := by
  obtain ⟨-, netfn, lun, -⟩ := header_bits asked.netfn asked.lun valid.netfn
  by_cases short : frame.length < 8
  · refine ⟨none, ?_, fun body => ?_⟩
    · unfold parseIpmb
      rw [if_pos short]
    · refine iff_of_false (fun none => by cases none) ?_
      rintro ⟨filled, first, last, rfl, -⟩
      have long := List.length_pos_iff.mpr filled
      simp only [List.length_append, List.length_cons, List.length_nil] at short
      omega
  obtain ⟨a, b, c, d, e, f, rest, rfl⟩ : ∃ a b c d e f rest, frame = a :: b :: c :: d :: e :: f :: rest := by
    rcases frame with _ | ⟨a, _ | ⟨b, _ | ⟨c, _ | ⟨d, _ | ⟨e, _ | ⟨f, rest⟩⟩⟩⟩⟩⟩
    all_goals first | exact ⟨_, _, _, _, _, _, _, rfl⟩ | (simp at short)
  rcases List.eq_nil_or_concat' rest with rfl | ⟨carried, last, rfl⟩
  · simp at short
  have filled : carried ≠ [] := by
    rintro rfl
    simp at short
  have whole : a :: b :: c :: d :: e :: f :: (carried ++ [last]) = [a, b, c, d, e, f] ++ carried ++ [last] := by simp
  rw [whole]
  refine ⟨_, parseIpmb_layout a b c d e f last filled asked.expected, fun body => ?_⟩
  rw [Option.ite_none_right_eq_some, Option.some.injEq]
  simp only [checksum_zero_iff, expected, netfn, lun, and_true]
  constructor
  · rintro ⟨⟨header, sealed, rfl, rfl, rfl, rfl, rfl⟩, rfl⟩
    refine ⟨filled, c, last, rfl, header, ?_⟩
    rwa [← whole] at *
  · rintro ⟨-, first, final, same, header, sealed⟩
    rw [← whole] at same header sealed
    simp only [List.cons_append, List.nil_append, List.cons.injEq] at same
    obtain ⟨rfl, rfl, rfl, rfl, rfl, rfl, same⟩ := same
    obtain ⟨rfl, -⟩ := List.append_inj' same rfl
    refine ⟨⟨header, ?_, rfl, rfl, rfl, rfl, rfl⟩, rfl⟩
    simpa using sealed

private theorem terminal_layout (a b c : UInt8) (body : List UInt8) (expected : Expected) :
    matchFrame .terminal expected (a :: b :: c :: body) =
      pure (if body ≠ [] ∧ a = expected.netfn ||| 4 ∧ b &&& ~~~(3 : UInt8) = expected.seq <<< 2 ∧ c = expected.cmd ∧
        True then some body else none) := by
  cases body with
  | nil => rfl
  | cons first rest =>
    unfold matchFrame
    dsimp only
    rw [if_neg (by simp), slice_eq (by simp) (by simp), List.take_length]
    simp only [pure_bind, index_succ, index_zero, ne_eq, reduceCtorEq, not_false_eq_true, true_and]
    exact check_eq (check_eq (check_eq rfl))

/-- A frame is accepted if and only if it is the reply. -/
theorem matchFrame_iff (valid : asked.Valid) (mode : SerialMode) (frame : List UInt8) :
    ∃ found, matchFrame mode asked.expected frame = pure found ∧
      ∀ body, found = some body ↔ asked.Reply mode frame body := by
  cases mode with
  | basic => exact parseIpmb_iff valid frame
  | terminal =>
    obtain ⟨netfn, -, -, -⟩ := header_bits asked.netfn asked.lun valid.netfn
    have short (few : frame.length < 3) (body : List UInt8) :
        (none : Option (List UInt8)) = some body ↔ asked.Reply .terminal frame body := by
      refine iff_of_false (fun none => by cases none) ?_
      rintro ⟨-, pair, rfl, -⟩
      simp only [List.length_append, List.length_cons] at few
      omega
    rcases frame with _ | ⟨a, _ | ⟨b, _ | ⟨c, carried⟩⟩⟩
    · exact ⟨none, rfl, short (by simp)⟩
    · exact ⟨none, rfl, short (by simp)⟩
    · exact ⟨none, rfl, short (by simp)⟩
    refine ⟨_, terminal_layout a b c carried asked.expected, fun body => ?_⟩
    rw [Option.ite_none_right_eq_some, Option.some.injEq]
    simp only [expected, netfn, and_true, pair_bits _ _ valid.seq]
    constructor
    · rintro ⟨⟨filled, rfl, under, rfl⟩, rfl⟩
      exact ⟨filled, b, rfl, under⟩
    · rintro ⟨filled, pair, same, under⟩
      simp only [List.cons_append, List.nil_append, List.cons.injEq] at same
      obtain ⟨rfl, rfl, rfl, rfl⟩ := same
      exact ⟨⟨filled, rfl, under, rfl⟩, rfl⟩

end Addressed

/-! ### What was read -/

/-- The frames that some attempts of the port make up, and the attempts after them. -/
inductive FramesRead (mode : SerialMode) (deadline : Instant) :
    List Attempt → List (List UInt8) → List Attempt → Prop where
  | nil (attempts : List Attempt) : FramesRead mode deadline attempts [] attempts
  | cons {attempts rest after : List Attempt} {frame : List UInt8} {frames : List (List UInt8)}
      (read : Serial.frame mode deadline .new attempts = (some (.ok frame), rest))
      (later : FramesRead mode deadline rest frames after) : FramesRead mode deadline attempts (frame :: frames) after

theorem FramesRead.append {mode : SerialMode} {deadline : Instant} {attempts middle after : List Attempt}
    {first second : List (List UInt8)} (front : FramesRead mode deadline attempts first middle)
    (back : FramesRead mode deadline middle second after) :
    FramesRead mode deadline attempts (first ++ second) after := by
  induction front with
  | nil attempts => exact back
  | cons read later ih => exact .cons read (ih back)

/-- Frames that are not the reply, and then the reply. -/
def FoundAfter (asked : Addressed) (mode : SerialMode) (frames : List (List UInt8)) (body : List UInt8) : Prop :=
  ∃ passed frame, frames = passed ++ [frame] ∧ asked.Reply mode frame body ∧
    ∀ other ∈ passed, ∀ carried, ¬asked.Reply mode other carried

/-- A stop that is not a panic. -/
def Stop.Sound (stop : Stop) : Prop := stop ≠ .panicked

section reading
variable {asked : Addressed} {mode : SerialMode} {deadline : Instant} {attempts : List Attempt}

theorem readFrame_ends : Ends (readFrame mode deadline) attempts
    (fun frame after => Serial.frame mode deadline .new attempts = (some (.ok frame), after))
    (fun stop _ => stop.Sound) := by
  refine Ends.call (fun frame returned => ?_) (fun stop failed => ?_)
  · split at returned
    · cases returned
    · cases returned
    · rename_i read
      cases returned
      exact read
  · split at failed
    · cases failed
      exact Stop.noConfusion
    · cases failed
      exact Stop.noConfusion
    · cases failed

theorem receiveWithin_ends (valid : asked.Valid) (more : Nat) :
    Ends (receiveWithin mode asked.expected deadline more) attempts
      (fun body after => ∃ frames, FramesRead mode deadline attempts frames after ∧ FoundAfter asked mode frames body)
      (fun stop _ => stop.Sound) := by
  induction more generalizing attempts with
  | zero => exact Ends.throw Stop.noConfusion
  | succ more ih =>
    unfold receiveWithin
    refine Ends.bind readFrame_ends (fun _ _ sound => sound) fun frame rest read => ?_
    obtain ⟨found, matched, replies⟩ := Addressed.matchFrame_iff valid mode frame
    rw [matched]
    cases found with
    | some body =>
      exact Ends.pure ⟨[frame], .cons read (.nil _),
        ⟨[], frame, rfl, (replies body).mp rfl, fun _ none => absurd none List.not_mem_nil⟩⟩
    | none =>
      refine Ends.mono ih ?_ (fun _ _ sound => sound)
      rintro body after ⟨frames, later, passed, last, rfl, reply, others⟩
      refine ⟨frame :: (passed ++ [last]), .cons read later, frame :: passed, last, rfl, reply, ?_⟩
      exact List.forall_mem_cons.mpr ⟨fun carried same => (by cases (replies carried).mpr same), others⟩

end reading

/-! ### The reply to a request -/

/-- What the reply to a request has to answer, sent to an address under a sequence number. -/
def ownReply (request : Request) (seq : UInt8) (address : UInt8) : Addressed :=
  ⟨request.netfnRaw, lun request.target, request.cmd, seq, address⟩

/-- What the reply to Send Message has to answer. -/
def sendMessageReply (seq : UInt8) : Addressed := ⟨0x06, .zero, 0x34, seq, BMC⟩

/-- The frames read for a request carry its reply: the BMC's own, or what Send
Message was refused with, or the target's, in the reply to Send Message or after it. -/
inductive Carries (mode : SerialMode) (request : Request) (seq : UInt8) :
    List (List UInt8) → List UInt8 → Prop where
  | direct {frames : List (List UInt8)} {body : List UInt8} (unbridged : bridge request.target = .ok none)
      (found : FoundAfter (ownReply request seq BMC) mode frames body) : Carries mode request seq frames body
  | refused {frames : List (List UInt8)} {code : UInt8} {rest : List UInt8} {address channel : UInt8}
      (bridged : bridge request.target = .ok (some (address, channel))) (nonzero : code ≠ 0)
      (found : FoundAfter (sendMessageReply seq) mode frames (code :: rest)) :
      Carries mode request seq frames (code :: rest)
  | embedded {frames : List (List UInt8)} {lead : UInt8} {packet body : List UInt8} {address channel : UInt8}
      (bridged : bridge request.target = .ok (some (address, channel)))
      (found : FoundAfter (sendMessageReply seq) mode frames (0 :: lead :: packet))
      (reply : (ownReply request seq address).Reply .basic packet body) : Carries mode request seq frames body
  | separate {first second : List (List UInt8)} {body : List UInt8} {address channel : UInt8}
      (bridged : bridge request.target = .ok (some (address, channel)))
      (accepted : FoundAfter (sendMessageReply seq) mode first [0])
      (found : FoundAfter (ownReply request seq address) mode second body) :
      Carries mode request seq (first ++ second) body

/-- A response is what the frames read within the deadline carry for a request. -/
def Answered (mode : SerialMode) (request : Request) (seq : UInt8) (deadline : Instant)
    (attempts : List Attempt) (response : Response) : Prop :=
  ∃ frames rest, FramesRead mode deadline attempts frames rest ∧
    Carries mode request seq frames response.message.data ∧
    response.message.netfnRaw = request.netfnRaw ||| 1 ∧ response.message.cmd = request.cmd ∧
    response.seq = seq.toNat

/-- What is pending for a request that was sent. -/
def pendingFor (request : Request) (seq : UInt8) (bridged : Option (Address × UInt8)) (deadline : Instant) :
    Pending :=
  ⟨outerExpected request seq bridged, bridged.map (innerExpected request seq), deadline⟩

section receiveReply
variable {mode : SerialMode} {request : Request} {seq : UInt8} {deadline : Instant} {attempts : List Attempt}

/-- A reply read for a request is returned as the response to it. -/
private theorem respond_ends (small : request.netfnRaw < 64) (address : UInt8)
    {frames : List (List UInt8)} {body : List UInt8} {rest after : List Attempt} (filled : body ≠ [])
    (framed : FramesRead mode deadline attempts frames rest) (carries : Carries mode request seq frames body) :
    Ends (respond (ownReply request seq address).expected body) after
      (fun response _ => Answered mode request seq deadline attempts response) (fun stop _ => stop.Sound) := by
  obtain ⟨-, -, -, netfn⟩ := header_bits request.netfnRaw (lun request.target) small
  have made : Response.new ⟨((ownReply request seq address).expected.netfn >>> 2) ||| 1,
      (ownReply request seq address).expected.cmd, body⟩ (ownReply request seq address).expected.seq.toNat =
        some ⟨seq.toNat, ⟨request.netfnRaw ||| 1, request.cmd, body⟩, filled⟩ := by
    unfold Response.new
    rw [dif_pos filled]
    simp only [Addressed.expected, ownReply, netfn]
  unfold respond
  dsimp only
  rw [made]
  exact Ends.pure ⟨frames, rest, framed, carries, rfl, rfl, rfl⟩

/-- What is sent on to a target is sent to the BMC in Send Message. -/
theorem outerExpected_some (request : Request) (seq : UInt8) (target : Address × UInt8) :
    outerExpected request seq (some target) = (sendMessageReply seq).expected := by
  have netfn : (0x18 : UInt8) = ((0x06 : UInt8) <<< 2) ||| LogicalUnit.zero.value := by decide
  simp only [outerExpected, Option.isSome_some, if_true, Addressed.expected, sendMessageReply, ← netfn]

theorem receiveReply_ends (small : request.netfnRaw < 64) (six : seq < 64)
    {bridged : Option (Address × UInt8)} (shown : bridge request.target = .ok bridged) :
    Ends (receiveReply mode (pendingFor request seq bridged deadline)) attempts
      (fun response _ => Answered mode request seq deadline attempts response) (fun stop _ => stop.Sound) := by
  have own (address : UInt8) : (ownReply request seq address).Valid := ⟨small, six⟩
  have sendMessage : (sendMessageReply seq).Valid := ⟨(by decide : (6 : UInt8) < 64), six⟩
  unfold receiveReply
  cases bridged with
  | none =>
    refine Ends.bind (@receiveWithin_ends (ownReply request seq BMC) _ _ _ (own BMC) MAX_UNRELATED)
      (fun _ _ sound => sound) ?_
    rintro body after ⟨frames, framed, found⟩
    obtain ⟨passed, frame, -, ⟨filled, -⟩, -⟩ := id found
    exact respond_ends small BMC filled framed (.direct shown found)
  | some target =>
    obtain ⟨address, channel⟩ := target
    dsimp only [pendingFor, Option.map_some]
    rw [outerExpected_some]
    refine Ends.bind (receiveWithin_ends sendMessage MAX_UNRELATED)
      (fun _ _ sound => sound) ?_
    rintro body after ⟨frames, framed, found⟩
    obtain ⟨passed, frame, -, ⟨filled, -⟩, -⟩ := id found
    obtain ⟨code, rest, rfl⟩ := List.exists_cons_of_ne_nil filled
    rw [index_zero, Reading.ofChecked_pure, pure_bind]
    split
    · rename_i nonzero
      exact respond_ends small address filled framed (.refused shown nonzero found)
    rename_i zero
    obtain rfl := not_not.mp zero
    split
    · rename_i alone
      obtain rfl : rest = [] := List.length_eq_zero_iff.mp (Nat.succ.inj alone)
      refine Ends.bind (@receiveWithin_ends (ownReply request seq address) _ _ _ (own address) MAX_UNRELATED)
        (fun _ _ sound => sound) ?_
      rintro body later ⟨more, next, answer⟩
      obtain ⟨_, _, -, ⟨filled, -⟩, -⟩ := id answer
      exact respond_ends small address filled (framed.append next) (.separate shown found answer)
    · split
      · rename_i long
        obtain ⟨lead, packet, rfl⟩ : ∃ lead packet, rest = lead :: packet := by
          cases rest with
          | nil => simp at long
          | cons lead packet => exact ⟨lead, packet, rfl⟩
        have inside : 2 ≤ (0 :: lead :: packet).length := by simp
        rw [slice_eq inside (Nat.le_refl _), List.take_length, Reading.ofChecked_pure, pure_bind]
        obtain ⟨matched, parsed, replies⟩ := Addressed.parseIpmb_iff (own address) packet
        change Ends (Reading.ofChecked (parseIpmb packet (ownReply request seq address).expected) >>= _) _ _ _
        rw [parsed, Reading.ofChecked_pure, pure_bind]
        cases matched with
        | none => exact Ends.throw Stop.noConfusion
        | some body =>
          have reply := (replies body).mp rfl
          exact respond_ends small address reply.1 framed (.embedded shown found reply)
      · exact Ends.throw Stop.noConfusion

end receiveReply

/-! ### Whole runs -/

/-- A packet asks for the reply: it has the header of the request and carries the
body behind it, in basic mode between the two checksums, with both addresses. -/
def Addressed.Asks (asked : Addressed) (mode : SerialMode) (packet body : List UInt8) : Prop :=
  match mode with
  | .basic => ∃ first last, packet = [asked.address, (asked.netfn <<< 2) ||| asked.lun.value, first,
      REQUESTER, asked.seq <<< 2, asked.cmd] ++ body ++ [last] ∧
      total (packet.take 3) = 0 ∧ total (packet.drop 3) = 0
  | .terminal => packet = [(asked.netfn <<< 2) ||| asked.lun.value, asked.seq <<< 2, asked.cmd] ++ body

/-- A packet carries a request: as it is to the BMC itself, or in Send Message to its target. -/
inductive Requests (mode : SerialMode) (request : Request) (seq : UInt8) (packet : List UInt8) : Prop where
  | direct (unbridged : bridge request.target = .ok none)
      (asks : (ownReply request seq BMC).Asks mode packet request.data)
  | bridged {inner : List UInt8} {address channel : UInt8}
      (bridged : bridge request.target = .ok (some (address, channel)))
      (asks : (ownReply request seq address).Asks .basic inner request.data)
      (sends : (sendMessageReply seq).Asks mode packet ((channel ||| 0x40) :: inner))

section requests

theorem ipmb_asks (asked : Addressed) (body : List UInt8) :
    asked.Asks .basic (ipmb asked.address ((asked.netfn <<< 2) ||| asked.lun.value) REQUESTER asked.seq
      asked.cmd body) body := by
  have sealed (bytes : List UInt8) : total (bytes ++ [checksum bytes]) = 0 := by
    rw [total_concat_eq_zero_iff, checksum, UInt8.zero_sub]
  have header := sealed [asked.address, (asked.netfn <<< 2) ||| asked.lun.value]
  have carried := sealed ([REQUESTER, asked.seq <<< 2, asked.cmd] ++ body)
  refine ⟨checksum [asked.address, (asked.netfn <<< 2) ||| asked.lun.value],
    checksum ([REQUESTER, asked.seq <<< 2, asked.cmd] ++ body), ?_, header, ?_⟩
  · simp [ipmb]
  · simpa [ipmb] using carried

theorem requestWire_asks (mode : SerialMode) (request : Request) (seq : UInt8)
    {target : Option (Address × UInt8)} (shown : bridge request.target = .ok target) :
    ∃ packet, requestWire mode request seq target = encode mode packet ∧ Requests mode request seq packet := by
  cases target with
  | none =>
    refine ⟨_, rfl, .direct shown ?_⟩
    cases mode with
    | basic => exact ipmb_asks (ownReply request seq BMC) request.data
    | terminal => rfl
  | some target =>
    obtain ⟨address, channel⟩ := target
    have inner := ipmb_asks (ownReply request seq address) request.data
    have outer := outerExpected_some request seq (address, channel)
    refine ⟨_, rfl, .bridged shown inner ?_⟩
    rw [outer]
    cases mode with
    | basic => exact ipmb_asks (sendMessageReply seq) _
    | terminal => rfl

end requests

abbrev CallMove := Move (Option SerialConnection) Call Outcome

/-- The bytes that each write of a call handed to the port. -/
def Outcome.offered : Outcome → List (List UInt8)
  | .sent _ offered => offered
  | .received _ | .blocked => []

/-- A failure once the request may have been sent. -/
def Outcome.Uncertain : Outcome → Prop
  | .sent (some (.error (.outcomeUnknown _))) _ => True
  | .received (.returned (.error error)) => error ≠ .noPendingRequest
  | _ => False

/-- A call of `send` that returned well, and the sequence number it used. -/
structure Sent (mode : SerialMode) (m : CallMove) (request : Request) (met : SendConditions) (seq : UInt8) :
    Prop where
  op : m.op = .send request met
  written : ∃ packet later, Requests mode request seq packet ∧
    m.out = .sent (some (.ok ())) (encode mode packet :: later)

/-- A call that neither receives nor writes anything. -/
structure Quiet (m : CallMove) : Prop where
  unwritten : m.out.offered = []
  unread : ∀ attempts, m.op ≠ .recv attempts

/-- A request was sent and is still to be received for. -/
def Outstanding (mode : SerialMode) (past : List CallMove) (request : Request) (met : SendConditions)
    (seq : UInt8) : Prop :=
  ∃ before m between, past = before ++ m :: between ∧ Sent mode m request met seq ∧ ∀ other ∈ between, Quiet other

/-- What is told of a call by the calls before it. -/
structure CallSound (mode : SerialMode) (timeout : Nat) (earlier : List CallMove) (m : CallMove) : Prop where
  inRange : m.out ≠ .received .panicked
  correlated : ∀ response, m.out = .received (.returned (.ok response)) →
    ∃ attempts request met seq, m.op = .recv attempts ∧ Outstanding mode earlier request met seq ∧
      Answered mode request seq (met.deadline timeout) attempts response
  single : m.out.offered ≠ [] → ∀ request met seq, ¬Outstanding mode earlier request met seq
  closed : (∃ failed ∈ earlier, failed.out.Uncertain) → m.out.offered = []

/-- Every call of a run is sound. -/
def Exchanges (mode : SerialMode) (timeout : Nat) (ms : List CallMove) : Prop :=
  ∀ earlier m later, ms = earlier ++ m :: later → CallSound mode timeout earlier m

section runs
variable {mode : SerialMode} {timeout : Nat} {past : List CallMove} {m : CallMove}
  {request : Request} {met : SendConditions} {seq : UInt8}

theorem Exchanges.concat (before : Exchanges mode timeout past) (sound : CallSound mode timeout past m) :
    Exchanges mode timeout (past ++ [m]) := by
  intro earlier n later split
  rcases List.eq_nil_or_concat' later with rfl | ⟨front, last, rfl⟩
  · obtain ⟨rfl, same⟩ := List.append_inj' split rfl
    obtain rfl := List.head_eq_of_cons_eq same
    exact sound
  · rw [← List.cons_append, ← List.append_assoc] at split
    obtain ⟨rfl, -⟩ := List.append_inj' split rfl
    exact before earlier n front rfl

/-- A call that receives or writes ends what was outstanding, unless it sends a request itself. -/
theorem outstanding_concat (outstanding : Outstanding mode (past ++ [m]) request met seq) :
    Sent mode m request met seq ∨ (Quiet m ∧ Outstanding mode past request met seq) := by
  obtain ⟨before, n, between, split, sent, quiet⟩ := outstanding
  rcases List.eq_nil_or_concat' between with rfl | ⟨front, last, rfl⟩
  · obtain ⟨-, same⟩ := List.append_inj' split rfl
    obtain rfl := List.head_eq_of_cons_eq same
    exact .inl sent
  · rw [← List.cons_append, ← List.append_assoc] at split
    obtain ⟨rfl, same⟩ := List.append_inj' split rfl
    obtain rfl := List.head_eq_of_cons_eq same
    exact .inr ⟨quiet _ (by simp), before, n, front, rfl, sent,
      fun other member => quiet other (List.mem_append_left _ member)⟩

theorem Outstanding.kept (quiet : Quiet m) (outstanding : Outstanding mode past request met seq) :
    Outstanding mode (past ++ [m]) request met seq := by
  obtain ⟨before, n, between, rfl, sent, silent⟩ := outstanding
  refine ⟨before, n, between ++ [m], by simp, sent, fun other member => ?_⟩
  rcases List.mem_append.mp member with inside | last
  · exact silent other inside
  · rwa [List.mem_singleton.mp last]

/-- The state of a connection, as the calls so far left it. -/
structure Tracks (mode : SerialMode) (timeout : Nat) (past : List CallMove) (c : SerialConnection) : Prop where
  sameMode : c.mode = mode
  sameTimeout : c.timeout = timeout
  pending : ∀ p, c.pending = some p → ∃ request met seq target,
    Outstanding mode past request met seq ∧ p = pendingFor request seq target (met.deadline timeout) ∧
      bridge request.target = .ok target ∧ request.netfnRaw < 64 ∧ seq < 64
  free : c.pending = none → ∀ request met seq, ¬Outstanding mode past request met seq
  certain : c.uncertain = false → ∀ m ∈ past, ¬m.out.Uncertain

/-- What is written first, if all of it is, is the whole of it. -/
theorem writeAll_ok {wire : List UInt8} {deadline : Instant} {turns : List WriteTurn} (filled : wire ≠ [])
    (written : (writeAll wire deadline 0 turns).1 = some (.ok ())) :
    ∃ later, (writeAll wire deadline 0 turns).2 = wire :: later := by
  have short : ¬wire.length ≤ 0 := Nat.not_le.mpr (List.length_pos_iff.mpr filled)
  unfold writeAll at written ⊢
  rw [if_neg short] at written ⊢
  cases turns with
  | nil => cases written
  | cons turn turns =>
    dsimp only at written ⊢
    split at written
    · cases written
    · rename_i going
      rw [if_neg going]
      split at written
      · cases written
      · exact ⟨_, rfl⟩
      · exact ⟨_, rfl⟩
      · cases written

theorem admit_ok {c : SerialConnection} {cancelled : Bool} {target : Option (Address × UInt8)}
    (admitted : c.admission request cancelled = .ok target) :
    c.uncertain = false ∧ c.pending = none ∧ bridge request.target = .ok target ∧ request.netfnRaw < 64 := by
  unfold SerialConnection.admission at admitted
  split at admitted
  · cases admitted
  rename_i certain
  split at admitted
  · cases admitted
  rename_i free
  split at admitted
  · cases admitted
  split at admitted
  · cases admitted
  rename_i netfn
  split at admitted
  · cases admitted
  rename_i found shown
  split at admitted
  · cases admitted
  cases admitted
  refine ⟨Bool.not_eq_true _ ▸ certain, Option.not_isSome_iff_eq_none.mp free, shown, ?_⟩
  have small := UInt8.not_lt.mp fun large => netfn (.inr large)
  exact UInt8.lt_of_le_of_lt small (by decide)

theorem admit_error {c : SerialConnection} {cancelled : Bool} {failure : SendFailure} :
    c.admission request cancelled ≠ .error (.outcomeUnknown failure) := by
  intro refused
  unfold SerialConnection.admission at refused
  repeat' split at refused
  all_goals try cases refused
  rename_i error shown
  unfold bridge at shown
  repeat' split at shown
  all_goals cases shown

/-- What a call of `send` can do: refuse the request unsent, send it, fail
once it may have been sent, or still be at it. -/
inductive SendCase (c : SerialConnection) (request : Request) (met : SendConditions) : Sending → Prop where
  | refused (error : SerialSendError) (unsent : ∀ failure, error ≠ .outcomeUnknown failure) :
      SendCase c request met ⟨some (.error error), [], c⟩
  | sent (target : Option (Address × UInt8)) (later : List (List UInt8))
      (free : c.pending = none) (certain : c.uncertain = false) (shown : bridge request.target = .ok target)
      (small : request.netfnRaw < 64) :
      SendCase c request met ⟨some (.ok ()),
        requestWire c.mode request ((c.sequence + 1) &&& 0x3f) target :: later,
        { c with
          sequence := (c.sequence + 1) &&& 0x3f
          pending := some (pendingFor request ((c.sequence + 1) &&& 0x3f) target (met.deadline c.timeout)) }⟩
  | failed (failure : SendFailure) (offered : List (List UInt8)) (sequence : UInt8)
      (free : c.pending = none) (certain : c.uncertain = false) :
      SendCase c request met ⟨some (.error (.outcomeUnknown failure)), offered,
        { c with sequence, pending := none, uncertain := true }⟩
  | writing (offered : List (List UInt8)) (after : SerialConnection)
      (free : c.pending = none) (certain : c.uncertain = false) :
      SendCase c request met ⟨none, offered, after⟩

theorem encode_ne_nil (mode : SerialMode) (payload : List UInt8) : encode mode payload ≠ [] := List.cons_ne_nil _ _

theorem send_cases (c : SerialConnection) (request : Request) (met : SendConditions) :
    SendCase c request met (c.send request met) := by
  unfold SerialConnection.send
  cases admitted : c.admission request met.cancelled with
  | error error =>
    refine .refused error fun failure same => ?_
    subst same
    exact admit_error admitted
  | ok target =>
    obtain ⟨certain, free, shown, small⟩ := admit_ok admitted
    dsimp only
    split
    · exact .writing _ _ free certain
    · rename_i written
      have filled : requestWire c.mode request ((c.sequence + 1) &&& 0x3f) target ≠ [] := encode_ne_nil _ _
      obtain ⟨later, offered⟩ := writeAll_ok filled written
      rw [offered]
      exact .sent target later free certain shown small
    · exact .failed _ _ _ free certain

theorem CallSound.of_offered {earlier : List CallMove} (unread : ∀ received, m.out ≠ .received received)
    (single : ∀ request met seq, ¬Outstanding mode earlier request met seq)
    (certain : ∀ failed ∈ earlier, ¬failed.out.Uncertain) : CallSound mode timeout earlier m where
  inRange := unread _
  correlated _ same := absurd same (unread _)
  single _ := single
  closed := fun ⟨failed, member, uncertain⟩ => absurd uncertain (certain failed member)

theorem CallSound.of_silent {earlier : List CallMove} (inRange : m.out ≠ .received .panicked)
    (correlated : ∀ response, m.out = .received (.returned (.ok response)) →
      ∃ attempts request met seq, m.op = .recv attempts ∧ Outstanding mode earlier request met seq ∧
        Answered mode request seq (met.deadline timeout) attempts response)
    (silent : m.out.offered = []) : CallSound mode timeout earlier m where
  inRange
  correlated
  single written := absurd silent written
  closed _ := silent

/-- A call that leaves a connection as it was neither begins nor ends anything. -/
theorem Tracks.idle {c : SerialConnection} (tracks : Tracks mode timeout past c) (quiet : Quiet m)
    (unsent : ∀ request met seq, ¬Sent mode m request met seq) (certain : ¬m.out.Uncertain) :
    Tracks mode timeout (past ++ [m]) c where
  sameMode := tracks.sameMode
  sameTimeout := tracks.sameTimeout
  pending p held := by
    obtain ⟨request, met, seq, target, outstanding, rest⟩ := tracks.pending p held
    exact ⟨request, met, seq, target, outstanding.kept quiet, rest⟩
  free held request met seq outstanding := by
    rcases outstanding_concat outstanding with sent | ⟨-, before⟩
    · exact unsent request met seq sent
    · exact tracks.free held request met seq before
  certain held := by
    refine List.forall_mem_append.mpr ⟨tracks.certain held, ?_⟩
    exact fun other member => List.mem_singleton.mp member ▸ certain

theorem send_sound {c : SerialConnection} (tracks : Tracks mode timeout past c) (request : Request)
    (met : SendConditions) :
    CallSound mode timeout past (move step (some c) (.send request met)) ∧
      ∀ after, (step (some c) (.send request met)).2 = some after →
        Tracks mode timeout (past ++ [move step (some c) (.send request met)]) after := by
  have possible := send_cases c request met
  have stepped : step (some c) (.send request met) = (.sent (c.send request met).result (c.send request met).offered,
      if (c.send request met).result.isSome then some (c.send request met).after else none) := rfl
  have out : (move step (some c) (.send request met)).out =
      .sent (c.send request met).result (c.send request met).offered := rfl
  rw [stepped]
  cases came : c.send request met with
  | mk result offered after =>
    rw [came] at possible out
    dsimp only at out ⊢
    have unread : ∀ received, (move step (some c) (.send request met)).out ≠ .received received := by
      rw [out]
      exact fun _ => Outcome.noConfusion
    cases possible with
    | refused error unsent =>
      refine ⟨.of_silent (unread _) (fun _ same => absurd same (unread _)) (by rw [out]; rfl), ?_⟩
      rintro _ ⟨⟩
      refine tracks.idle ⟨by rw [out]; rfl, fun _ => Call.noConfusion⟩ ?_ ?_
      · rintro _ _ _ ⟨-, _, _, -, same⟩
        rw [out] at same
        cases same
      · rw [out]
        cases error with
        | outcomeUnknown failure => exact absurd rfl (unsent failure)
        | _ => exact id
    | sent target later free certain shown small =>
      refine ⟨.of_offered unread (tracks.free free) (tracks.certain certain), ?_⟩
      rintro _ ⟨⟩
      have six : (c.sequence + 1) &&& 0x3f < 64 := UInt8.lt_of_le_of_lt UInt8.and_le_right (by decide)
      refine ⟨tracks.sameMode, tracks.sameTimeout, ?_, fun none => (by cases none), fun _ => ?_⟩
      · rintro _ ⟨⟩
        obtain ⟨packet, wire, carries⟩ := requestWire_asks mode request ((c.sequence + 1) &&& 0x3f) shown
        refine ⟨request, met, _, target, ⟨past, _, [], rfl, ⟨rfl, packet, later, carries, ?_⟩,
          fun _ none => absurd none List.not_mem_nil⟩, ?_, shown, small, six⟩
        · rw [out, tracks.sameMode, wire]
        · rw [tracks.sameTimeout]
      · refine List.forall_mem_append.mpr ⟨tracks.certain certain, fun other member => ?_⟩
        rw [List.mem_singleton.mp member, out]
        exact id
    | failed failure offered sequence free certain =>
      refine ⟨.of_offered unread (tracks.free free) (tracks.certain certain), ?_⟩
      rintro _ ⟨⟩
      refine ⟨tracks.sameMode, tracks.sameTimeout, fun _ none => (by cases none), fun _ => ?_,
        fun known => (by cases known)⟩
      intro request met seq outstanding
      rcases outstanding_concat outstanding with ⟨-, _, _, -, same⟩ | ⟨-, before⟩
      · rw [out] at same
        cases same
      · exact tracks.free free request met seq before
    | writing offered after free certain =>
      refine ⟨.of_offered unread (tracks.free free) (tracks.certain certain), ?_⟩
      rintro _ ⟨⟩

/-- What a call of `recv` can do, by what was pending. -/
inductive RecvCase (c : SerialConnection) (attempts : List Attempt) : Received × SerialConnection → Prop where
  | nothing (free : c.pending = none) : RecvCase c attempts (.returned (.error .noPendingRequest), c)
  | answered (pending : Pending) (held : c.pending = some pending) (response : Response)
      (read : ((receiveReply c.mode pending).eval attempts).1 = .ok response) :
      RecvCase c attempts (.returned (.ok response), { c with pending := none })
  | failed (pending : Pending) (held : c.pending = some pending) (error : SerialRecvError)
      (read : ((receiveReply c.mode pending).eval attempts).1 = .error (.error error)) :
      RecvCase c attempts (.returned (.error error), { c with pending := none, uncertain := true })
  | waiting (pending : Pending) (held : c.pending = some pending) :
      RecvCase c attempts (.waiting, { c with pending := none })
  | panicked (pending : Pending) (held : c.pending = some pending)
      (read : ((receiveReply c.mode pending).eval attempts).1 = .error .panicked) :
      RecvCase c attempts (.panicked, { c with pending := none })

theorem recv_cases (c : SerialConnection) (attempts : List Attempt) : RecvCase c attempts (c.recv attempts) := by
  unfold SerialConnection.recv
  split
  · rename_i free
    exact .nothing free
  · rename_i pending held
    dsimp only
    split
    · rename_i response read
      exact .answered pending held response read
    · exact .waiting pending held
    · rename_i read
      exact .panicked pending held read
    · rename_i error read
      exact .failed pending held error read

theorem Tracks.answered {c : SerialConnection} (tracks : Tracks mode timeout past c) {pending : Pending}
    (held : c.pending = some pending) (attempts : List Attempt) :
    ((receiveReply c.mode pending).eval attempts).1 ≠ .error .panicked ∧
    ∀ response, ((receiveReply c.mode pending).eval attempts).1 = .ok response →
      ∃ request met seq, Outstanding mode past request met seq ∧
        Answered mode request seq (met.deadline timeout) attempts response := by
  obtain ⟨request, met, seq, target, outstanding, rfl, shown, small, six⟩ := tracks.pending pending held
  rw [tracks.sameMode]
  obtain ⟨answers, stops⟩ := Ends.evaluated (@receiveReply_ends mode request seq (met.deadline timeout)
    attempts small six target shown)
  exact ⟨fun panics => stops _ panics rfl, fun response read => ⟨request, met, seq, outstanding, answers _ read⟩⟩

/-- A call that received leaves the connection free, and uncertain if it failed. -/
theorem Tracks.received {c after : SerialConnection} (tracks : Tracks mode timeout past c) {attempts : List Attempt}
    (op : m.op = .recv attempts) (sameMode : after.mode = c.mode) (sameTimeout : after.timeout = c.timeout)
    (free : after.pending = none)
    (certain : after.uncertain = false → c.uncertain = false ∧ ¬m.out.Uncertain) :
    Tracks mode timeout (past ++ [m]) after where
  sameMode := sameMode.trans tracks.sameMode
  sameTimeout := sameTimeout.trans tracks.sameTimeout
  pending p held := by
    rw [free] at held
    cases held
  free _ request met seq outstanding := by
    rcases outstanding_concat outstanding with ⟨sent, -⟩ | ⟨⟨-, unread⟩, -⟩
    · rw [op] at sent
      cases sent
    · exact unread attempts op
  certain known := by
    refine List.forall_mem_append.mpr ⟨tracks.certain (certain known).1, fun other member => ?_⟩
    rw [List.mem_singleton.mp member]
    exact (certain known).2

theorem recv_sound {c : SerialConnection} (tracks : Tracks mode timeout past c) (attempts : List Attempt) :
    CallSound mode timeout past (move step (some c) (.recv attempts)) ∧
      ∀ after, (step (some c) (.recv attempts)).2 = some after →
        Tracks mode timeout (past ++ [move step (some c) (.recv attempts)]) after := by
  have possible := recv_cases c attempts
  have op : (move step (some c) (.recv attempts)).op = .recv attempts := rfl
  have out : (move step (some c) (.recv attempts)).out = (step (some c) (.recv attempts)).1 := rfl
  have silent : (move step (some c) (.recv attempts)).out.offered = [] := by
    rw [out, step]
    rcases c.recv attempts with ⟨_ | _ | _, _⟩ <;> rfl
  generalize move step (some c) (.recv attempts) = m at *
  rw [step] at *
  cases came : c.recv attempts with
  | mk result after =>
    rw [came] at possible out
    cases possible with
    | nothing free =>
      refine ⟨.of_silent (by rw [out]; rintro ⟨⟩) ?_ silent, ?_⟩
      · rw [out]
        rintro _ ⟨⟩
      · rintro _ ⟨⟩
        refine tracks.received op rfl rfl free fun certain => ⟨certain, ?_⟩
        rw [out]
        exact fun failed => failed rfl
    | answered pending held response read =>
      refine ⟨.of_silent (by rw [out]; rintro ⟨⟩) ?_ silent, ?_⟩
      · rw [out]
        rintro _ ⟨⟩
        obtain ⟨request, met, seq, outstanding, answered⟩ := (tracks.answered held attempts).2 response read
        exact ⟨attempts, request, met, seq, op, outstanding, answered⟩
      · rintro _ ⟨⟩
        refine tracks.received op rfl rfl rfl fun certain => ⟨certain, ?_⟩
        rw [out]
        exact id
    | failed pending held error read =>
      refine ⟨.of_silent (by rw [out]; rintro ⟨⟩) ?_ silent, ?_⟩
      · rw [out]
        rintro _ ⟨⟩
      · rintro _ ⟨⟩
        exact tracks.received op rfl rfl rfl fun certain => by cases certain
    | waiting pending held =>
      refine ⟨.of_silent (by rw [out]; rintro ⟨⟩) ?_ silent, ?_⟩
      · rw [out]
        rintro _ ⟨⟩
      · rintro _ ⟨⟩
    | panicked pending held read => exact absurd read (tracks.answered held attempts).1

theorem withPort_tracks (mode : SerialMode) (timeout : Nat) :
    Tracks mode timeout [] (.withPort mode timeout) where
  sameMode := rfl
  sameTimeout := rfl
  pending _ held := by cases held
  free _ _ _ _ := by
    rintro ⟨before, m, between, split, -⟩
    simp at split
  certain _ _ member := absurd member List.not_mem_nil

/-- Over every sequence of calls, a reply is returned only for the one request
that is outstanding and only from a frame with its header, no frame is read
out of range, and nothing is written once a call has failed uncertainly. -/
theorem serial_exchanges_correlated (mode : SerialMode) (timeout : Nat) (calls : List Call) :
    Exchanges mode timeout (moves step (some (SerialConnection.withPort mode timeout)) calls) := by
  have held := history step (s := some (SerialConnection.withPort mode timeout))
    (P := fun past s => Exchanges mode timeout past ∧ ∀ c, s = some c → Tracks mode timeout past c) ?_ ?_ calls
  · exact held.1
  · refine ⟨?_, fun c same => Option.some.inj same ▸ withPort_tracks mode timeout⟩
    rintro earlier m later split
    simp at split
  · rintro past s call ⟨sound, tracks⟩
    cases s with
    | none =>
      refine ⟨sound.concat (.of_silent Outcome.noConfusion (fun _ same => by cases same) rfl), ?_⟩
      rintro _ ⟨⟩
    | some c =>
      cases call with
      | send request met =>
        obtain ⟨called, after⟩ := send_sound (tracks c rfl) request met
        exact ⟨sound.concat called, after⟩
      | recv attempts =>
        obtain ⟨called, after⟩ := recv_sound (tracks c rfl) attempts
        exact ⟨sound.concat called, after⟩

end runs

end IpmiRs.Serial
