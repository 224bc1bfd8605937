import IpmiRs.Serial.Frame

/-! Reading back what was encoded. A frame is found behind noise and behind a
frame that broke off, because its start byte appears nowhere inside a frame;
and bytes that only fill time between the parts of a frame are passed over. -/
namespace IpmiRs.Serial
open Connection

/-! ### What arrives -/

/-- The port delivers these bytes and no more: each after some retries, none
cancelled or late. -/
def Delivers (deadline : Instant) : List UInt8 → List Attempt → Prop
  | [], attempts => attempts = []
  | byte :: bytes, attempts => ∃ retries a rest, attempts = retries ++ a :: rest ∧
      (∀ r ∈ retries, r.next deadline = none) ∧ a.next deadline = some (.ok byte) ∧
      Delivers deadline bytes rest

theorem Delivers.split {deadline : Instant} {first second : List UInt8} {attempts : List Attempt}
    (delivered : Delivers deadline (first ++ second) attempts) :
    ∃ before after, attempts = before ++ after ∧ Delivers deadline first before ∧
      Delivers deadline second after := by
  induction first generalizing attempts with
  | nil => exact ⟨[], attempts, rfl, rfl, delivered⟩
  | cons byte first ih =>
    obtain ⟨retries, a, rest, rfl, idle, read, delivered⟩ := delivered
    obtain ⟨before, after, rfl, here, there⟩ := ih delivered
    exact ⟨retries ++ a :: before, after, by simp, ⟨retries, a, before, rfl, idle, read, here⟩,
      there⟩

/-- What a list of bytes leads to. -/
def feed (mode : SerialMode) : FrameState → List UInt8 → Step
  | s, [] => .more s
  | s, byte :: bytes =>
    match s.step mode byte with
    | .more s => feed mode s bytes
    | .done result => .done result

theorem feed_append {mode : SerialMode} {s t : FrameState} {first : List UInt8}
    (onward : feed mode s first = .more t) (second : List UInt8) :
    feed mode s (first ++ second) = feed mode t second := by
  induction first generalizing s with
  | nil =>
    obtain rfl := Step.more.inj onward
    rfl
  | cons byte first ih =>
    unfold feed at onward
    rw [List.cons_append, feed]
    cases stepped : s.step mode byte with
    | more next =>
      rw [stepped] at onward
      exact ih onward
    | done result =>
      rw [stepped] at onward
      cases onward

/-- A reader that is still going after some bytes was still going before. -/
theorem feed_prefix {mode : SerialMode} {s t : FrameState} {first second : List UInt8}
    (onward : feed mode s (first ++ second) = .more t) : ∃ u, feed mode s first = .more u := by
  induction first generalizing s with
  | nil => exact ⟨s, rfl⟩
  | cons byte first ih =>
    rw [List.cons_append, feed] at onward
    rw [feed]
    cases stepped : s.step mode byte with
    | more next =>
      rw [stepped] at onward
      exact ih onward
    | done result =>
      rw [stepped] at onward
      cases onward

theorem step_retries {mode : SerialMode} {deadline : Instant} {s : FrameState}
    {retries : List Attempt} (idle : ∀ r ∈ retries, r.next deadline = none)
    (rest : List Attempt) :
    frame mode deadline s (retries ++ rest) = frame mode deadline s rest := by
  induction retries with
  | nil => rfl
  | cons a retries ih =>
    rw [List.cons_append, frame, idle a List.mem_cons_self]
    exact ih fun r member => idle r (List.mem_cons_of_mem _ member)

/-- The reader does what its bytes lead to. -/
theorem frame_feed {mode : SerialMode} {deadline : Instant} {bytes : List UInt8}
    {arriving : List Attempt} (delivered : Delivers deadline bytes arriving) {s t : FrameState}
    (onward : feed mode s bytes = .more t) (later : List Attempt) :
    frame mode deadline s (arriving ++ later) = frame mode deadline t later := by
  induction bytes generalizing s arriving with
  | nil =>
    obtain rfl := Step.more.inj onward
    rw [show arriving = [] from delivered, List.nil_append]
  | cons byte bytes ih =>
    obtain ⟨retries, a, rest, rfl, idle, read, delivered⟩ := delivered
    unfold feed at onward
    rw [List.append_assoc, step_retries idle, List.cons_append, frame, read]
    split at onward
    · rename_i next stepped
      simp only [stepped]
      exact ih delivered onward
    · cases onward

theorem frame_done {mode : SerialMode} {deadline : Instant} {byte : UInt8}
    {arriving : List Attempt} (delivered : Delivers deadline [byte] arriving) {s : FrameState}
    {result : Except SerialRecvError (List UInt8)} (ends : s.step mode byte = .done result)
    (later : List Attempt) :
    frame mode deadline s (arriving ++ later) = (some result, later) := by
  obtain ⟨retries, a, rest, rfl, idle, read, rfl⟩ := delivered
  rw [List.append_assoc, step_retries idle, List.cons_append, frame, read]
  simp only [ends]
  rfl

/-! ### Frames with fillers -/

/-- The units of a frame in order, with fillers before, between and after them. -/
inductive Spaced (filler : UInt8 → Prop) : List (List UInt8) → List UInt8 → Prop
  | nil : Spaced filler [] []
  | filler {units : List (List UInt8)} {wire : List UInt8} (byte : UInt8) (idle : filler byte)
      (rest : Spaced filler units wire) : Spaced filler units (byte :: wire)
  | unit {units : List (List UInt8)} {wire : List UInt8} (unit : List UInt8)
      (rest : Spaced filler units wire) : Spaced filler (unit :: units) (unit ++ wire)

theorem Spaced.dense (filler : UInt8 → Prop) (units : List (List UInt8)) :
    Spaced filler units units.flatten := by
  induction units with
  | nil => exact .nil
  | cons unit units ih =>
    rw [List.flatten_cons]
    exact .unit unit ih

/-- What may be inserted: handshake bytes, or white space. -/
def SerialMode.filler : SerialMode → UInt8 → Prop
  | .basic, byte => byte = 0xA6
  | .terminal, byte => isWhitespace byte = true

/-- What nothing may be inserted into: an escape pair, or one digit. -/
def units (mode : SerialMode) (payload : List UInt8) : List (List UInt8) :=
  match mode with
  | .basic => payload.map (encodeByte .basic)
  | .terminal => (payload.flatMap (encodeByte .terminal)).map fun digit => [digit]

theorem flatten_units (mode : SerialMode) (payload : List UInt8) :
    (units mode payload).flatten = payload.flatMap (encodeByte mode) := by
  cases mode with
  | basic => exact List.flatMap_def.symm
  | terminal => simp [units, ← List.flatMap_def]

/-- A payload of the size a frame may have, encoded, with fillers inserted
within the length limit of the reader. -/
structure Framed (mode : SerialMode) (payload body : List UInt8) : Prop where
  fits : payload.length ≤ MAX_FRAME
  spaced : Spaced mode.filler (units mode payload) body
  limit : mode = .terminal → body.length ≤ MAX_FRAME * 3

/-- What is sent around the body of a frame. -/
def wire (mode : SerialMode) (body : List UInt8) : List UInt8 :=
  mode.start :: body ++ mode.stop :: mode.trailer

theorem encode_framed (mode : SerialMode) {payload : List UInt8} (fits : payload.length ≤ MAX_FRAME) :
    ∃ body, encode mode payload = wire mode body ∧ Framed mode payload body := by
  refine ⟨payload.flatMap (encodeByte mode), rfl, fits, ?_, ?_⟩
  · rw [← flatten_units]
    exact .dense _ _
  · rintro rfl
    have length : (payload.flatMap (encodeByte .terminal)).length = payload.length * 2 := by
      rw [List.length_flatMap]
      simp [encodeByte]
    rw [length]
    omega

/-! ### Basic mode -/

theorem unescape_escapeCode {byte code : UInt8} (escaped : escapeCode byte = some code) :
    unescape code = some byte ∧ code ≠ 0xA0 := by
  unfold escapeCode at escaped
  repeat' split at escaped
  all_goals cases escaped
  all_goals subst byte
  all_goals decide

theorem escapeCode_none {byte : UInt8} (plain : escapeCode byte = none) :
    byte ≠ 0xA0 ∧ byte ≠ 0xA5 ∧ byte ≠ 0xA6 ∧ byte ≠ 0xAA := by
  unfold escapeCode at plain
  grind

section basic
variable {s : FrameState} (started : s.started = true) (plain : s.escaped = false)
include started plain

theorem step_handshake : s.step .basic 0xA6 = .more s := by
  simp [FrameState.step, started, plain, SerialMode.start, SerialMode.stop]

theorem step_escape : s.step .basic 0xAA = .more { s with escaped := true } := by
  simp [FrameState.step, started, plain, SerialMode.start]

theorem step_stop : s.step .basic 0xA5 = .done (.ok s.frame) := by
  simp [FrameState.step, started, plain, SerialMode.start, SerialMode.stop]

theorem step_plain {byte : UInt8} (data : escapeCode byte = none) (room : s.frame.length < MAX_FRAME) :
    s.step .basic byte = .more { s with frame := s.frame ++ [byte] } := by
  obtain ⟨first, second, third, fourth⟩ := escapeCode_none data
  have short : ¬ MAX_FRAME < s.frame.length + 1 := by omega
  simp [FrameState.step, started, plain, SerialMode.start, SerialMode.stop, first, second, third,
    fourth, FrameState.checkLength, short]

/-- A started reader in basic mode takes one encoded byte. -/
theorem feed_encodeByte (byte : UInt8) (room : s.frame.length < MAX_FRAME) :
    feed .basic s (encodeByte .basic byte) = .more { s with frame := s.frame ++ [byte] } := by
  unfold encodeByte
  cases escaped : escapeCode byte with
  | some code =>
    obtain ⟨back, other⟩ := unescape_escapeCode escaped
    have short : ¬ MAX_FRAME < s.frame.length + 1 := by omega
    simp only
    rw [feed, step_escape started plain]
    simp [feed, FrameState.step, started, SerialMode.start, back, other, FrameState.checkLength, short,
      plain]
  | none => simp [feed, step_plain started plain escaped room]

/-- And all the bytes of a body, past the handshakes between them. -/
theorem feed_basic {payload body : List UInt8}
    (spaced : Spaced SerialMode.basic.filler (units .basic payload) body)
    (room : s.frame.length + payload.length ≤ MAX_FRAME) :
    feed .basic s body = .more { s with frame := s.frame ++ payload } := by
  generalize shape : units .basic payload = parts at spaced
  induction spaced generalizing s payload with
  | nil =>
    obtain rfl : payload = [] := List.map_eq_nil_iff.mp shape
    rw [List.append_nil]
    rfl
  | filler byte idle rest ih =>
    obtain rfl : byte = 0xA6 := idle
    rw [feed, step_handshake started plain]
    exact ih started plain room shape
  | @unit parts wire part rest ih =>
    obtain ⟨first, payload, rfl, rfl, rfl⟩ := List.map_eq_cons_iff.mp shape
    rw [List.length_cons] at room
    have rest : feed .basic { s with frame := s.frame ++ [first] } wire =
        .more { s with frame := s.frame ++ [first] ++ payload } := by
      refine ih (s := { s with frame := s.frame ++ [first] }) started plain ?_ rfl
      rw [List.length_append, List.length_singleton]
      omega
    rw [feed_append (feed_encodeByte started plain first (by omega)), rest, List.append_assoc]
    rfl

end basic

/-! ### Terminal mode -/

/-- A digit is read back, and is neither a bracket nor white space. -/
theorem digit_facts {nibble : UInt8} (small : nibble.toNat < 16) :
    toDigit (digit nibble) = some nibble ∧ isWhitespace (digit nibble) = false ∧
      digit nibble ≠ 0x5B ∧ digit nibble ≠ 0x5D := by
  have every : ∀ n : Fin 16, toDigit (digit (.ofNat n)) = some (.ofNat n) ∧
      isWhitespace (digit (.ofNat n)) = false ∧ digit (.ofNat n) ≠ 0x5B ∧
      digit (.ofNat n) ≠ 0x5D := by decide +kernel
  have found := every ⟨nibble.toNat, small⟩
  rwa [UInt8.ofNat_toNat] at found

theorem nibbles_small (byte : UInt8) : (byte >>> 4).toNat < 16 ∧ (byte &&& 0xf).toNat < 16 := by
  constructor
  · have := byte.toNat_lt
    rw [UInt8.toNat_shiftRight]
    simp only [UInt8.reduceToNat, Nat.reduceMod, Nat.shiftRight_eq_div_pow, Nat.reducePow]
    omega
  · rw [UInt8.toNat_and]
    exact Nat.and_lt_two_pow (n := 4) _ (by decide)

theorem nibbles_join (byte : UInt8) : (byte >>> 4) <<< 4 ||| (byte &&& 0xf) = byte := by
  apply UInt8.toNat_inj.mp
  have := byte.toNat_lt
  have low : byte.toNat &&& 0xf = byte.toNat % 16 := Nat.and_two_pow_sub_one_eq_mod (n := 4) _
  simp only [UInt8.toNat_or, UInt8.toNat_shiftLeft, UInt8.toNat_shiftRight, UInt8.toNat_and,
    UInt8.reduceToNat, Nat.reduceMod, low]
  rw [Nat.mod_eq_of_lt (by simp only [Nat.shiftLeft_eq, Nat.shiftRight_eq_div_pow]; omega),
    ← Nat.shiftLeft_add_eq_or_of_lt (by omega), Nat.shiftLeft_eq, Nat.shiftRight_eq_div_pow]
  omega

theorem fromDigits_encode (payload : List UInt8) :
    fromDigits (payload.flatMap (encodeByte .terminal)) = .ok payload := by
  induction payload with
  | nil => rfl
  | cons byte payload ih =>
    obtain ⟨high, low⟩ := nibbles_small byte
    rw [List.flatMap_cons]
    change fromDigits (digit (byte >>> 4) :: digit (byte &&& 0xf) ::
      payload.flatMap (encodeByte .terminal)) = _
    rw [fromDigits, (digit_facts high).1, (digit_facts low).1]
    simp only
    rw [ih, Except.map, nibbles_join]

/-- Every byte of a body in terminal mode is a digit or white space, and the
digits are those of the payload. -/
theorem spaced_terminal {payload body : List UInt8}
    (spaced : Spaced SerialMode.terminal.filler (units .terminal payload) body) :
    body.filter (fun c => !isWhitespace c) = payload.flatMap (encodeByte .terminal) ∧
    ∀ c ∈ body, c ≠ 0x5B ∧ c ≠ 0x5D := by
  have digits : ∀ c ∈ payload.flatMap (encodeByte .terminal),
      isWhitespace c = false ∧ c ≠ 0x5B ∧ c ≠ 0x5D := by
    intro c member
    obtain ⟨byte, -, found⟩ := List.mem_flatMap.mp member
    obtain ⟨high, low⟩ := nibbles_small byte
    simp only [encodeByte, List.mem_cons, List.not_mem_nil, or_false] at found
    rcases found with rfl | rfl
    · exact (digit_facts high).2
    · exact (digit_facts low).2
  generalize shape : units .terminal payload = parts at spaced
  unfold units at shape
  generalize payload.flatMap (encodeByte .terminal) = hex at *
  induction spaced generalizing hex with
  | nil =>
    obtain rfl : hex = [] := List.map_eq_nil_iff.mp shape
    exact ⟨rfl, by simp⟩
  | filler byte idle rest ih =>
    obtain ⟨same, plain⟩ := ih hex digits shape
    have idle : isWhitespace byte = true := idle
    refine ⟨by simp [idle, same], ?_⟩
    intro c member
    rcases List.mem_cons.mp member with rfl | member
    · constructor
      · rintro rfl
        cases idle
      · rintro rfl
        cases idle
    · exact plain c member
  | unit part rest ih =>
    obtain ⟨first, hex, rfl, rfl, rfl⟩ := List.map_eq_cons_iff.mp shape
    obtain ⟨same, plain⟩ := ih hex (fun c member => digits c (List.mem_cons_of_mem _ member)) rfl
    obtain ⟨dark, brackets⟩ := digits first List.mem_cons_self
    refine ⟨by simp [dark, same], ?_⟩
    intro c member
    rcases List.mem_cons.mp member with rfl | member
    · exact brackets
    · exact plain c member

theorem feed_terminal {s : FrameState} (started : s.started = true) {body : List UInt8}
    (plain : ∀ c ∈ body, c ≠ 0x5B ∧ c ≠ 0x5D)
    (room : s.frame.length + body.length ≤ MAX_FRAME * 3) :
    feed .terminal s body = .more { s with frame := s.frame ++ body } := by
  induction body generalizing s with
  | nil => simp [feed]
  | cons c body ih =>
    obtain ⟨first, second⟩ := plain c List.mem_cons_self
    rw [List.length_cons] at room
    have short : ¬ MAX_FRAME * 3 < s.frame.length + 1 := by omega
    have stepped : s.step .terminal c = .more { s with frame := s.frame ++ [c] } := by
      simp [FrameState.step, started, SerialMode.start, SerialMode.stop, first, second,
        FrameState.checkLength, short]
    have rest : feed .terminal { s with frame := s.frame ++ [c] } body =
        .more { s with frame := s.frame ++ [c] ++ body } := by
      refine ih started (fun c member => plain c (List.mem_cons_of_mem _ member)) ?_
      rw [List.length_append, List.length_singleton]
      omega
    rw [feed, stepped]
    simp only
    rw [rest, List.append_assoc]
    rfl

theorem decodeHex_spaced {payload body : List UInt8} (fits : payload.length ≤ MAX_FRAME)
    (spaced : Spaced SerialMode.terminal.filler (units .terminal payload) body) :
    decodeHex body = .ok payload := by
  have length : (payload.flatMap (encodeByte .terminal)).length = payload.length * 2 := by
    rw [List.length_flatMap]
    simp [encodeByte]
  unfold decodeHex
  simp only
  rw [(spaced_terminal spaced).1, length, if_neg (by omega), fromDigits_encode]

/-! ### Resynchronisation -/

/-- A body leaves the reader going, with the payload in what it holds. -/
theorem feed_framed {mode : SerialMode} {payload body : List UInt8}
    (framed : Framed mode payload body) {s : FrameState} (started : s.started = true)
    (plain : s.escaped = false) (empty : s.frame = []) :
    ∃ t, feed mode s body = .more t ∧ t.step mode mode.stop = .done (.ok payload) := by
  cases mode with
  | basic =>
    have room : s.frame.length + payload.length ≤ MAX_FRAME := by simpa [empty] using framed.fits
    refine ⟨_, feed_basic started plain framed.spaced room, ?_⟩
    rw [empty, List.nil_append]
    exact step_stop started plain
  | terminal =>
    obtain ⟨-, brackets⟩ := spaced_terminal framed.spaced
    have room : s.frame.length + body.length ≤ MAX_FRAME * 3 := by
      simpa [empty] using framed.limit rfl
    refine ⟨_, feed_terminal started brackets room, ?_⟩
    simp [FrameState.step, started, empty, SerialMode.start, SerialMode.stop,
      decodeHex_spaced framed.fits framed.spaced]

theorem feed_noise {mode : SerialMode} {s : FrameState} (idle : s.started = false)
    {noise : List UInt8} (unstarted : mode.start ∉ noise)
    (few : s.noise + noise.length ≤ MAX_FRAME * 2) :
    feed mode s noise = .more { s with noise := s.noise + noise.length } := by
  induction noise generalizing s with
  | nil => rfl
  | cons byte noise ih =>
    rw [List.length_cons] at few
    have other : byte ≠ mode.start := fun same => unstarted (same ▸ List.mem_cons_self)
    have within : ¬ MAX_FRAME * 2 < s.noise + 1 := by omega
    have stepped : s.step mode byte = .more { s with noise := s.noise + 1 } := by
      simp [FrameState.step, idle, other, within]
    have rest : feed mode { s with noise := s.noise + 1 } noise =
        .more { s with noise := s.noise + 1 + noise.length } :=
      ih idle (fun member => unstarted (List.mem_cons_of_mem _ member)) (by simp only; omega)
    rw [feed, stepped]
    simp only
    rw [rest, List.length_cons, Nat.add_assoc, Nat.add_comm 1]

/-- A start byte begins a frame, whatever the reader has met before. -/
theorem step_start (mode : SerialMode) {s : FrameState}
    (fresh : s.started = false → s.frame = [] ∧ s.escaped = false) :
    ∃ t, s.step mode mode.start = .more t ∧ t.started = true ∧ t.escaped = false ∧ t.frame = [] := by
  cases started : s.started with
  | false =>
    obtain ⟨empty, plain⟩ := fresh started
    exact ⟨{ s with started := true }, by simp [FrameState.step, started], rfl, plain, empty⟩
  | true =>
    exact ⟨{ s with frame := [], escaped := false }, by simp [FrameState.step, started],
      started, rfl, rfl⟩

theorem step_started {mode : SerialMode} {s t : FrameState} {byte : UInt8}
    (started : s.started = true) (stepped : s.step mode byte = .more t) : t.started = true := by
  unfold FrameState.step FrameState.checkLength at stepped
  cases mode
  all_goals
    simp only [started] at stepped
    repeat' split at stepped
  all_goals cases stepped
  all_goals first | exact started | rfl

theorem feed_started {mode : SerialMode} {s t : FrameState} {bytes : List UInt8}
    (started : s.started = true) (onward : feed mode s bytes = .more t) : t.started = true := by
  induction bytes generalizing s with
  | nil =>
    obtain rfl := Step.more.inj onward
    exact started
  | cons byte bytes ih =>
    unfold feed at onward
    split at onward
    · rename_i next stepped
      exact ih (step_started started stepped) onward
    · cases onward

/-- A frame that breaks off: not all of its bytes, and in terminal mode not the
one that ends it. -/
structure BreaksOff (mode : SerialMode) (cut frame : List UInt8) : Prop where
  begins : cut <+: frame
  short : cut ≠ frame
  unended : mode = .terminal → mode.stop ∉ cut

theorem BreaksOff.inside {mode : SerialMode} {cut body : List UInt8}
    (broken : BreaksOff mode cut (wire mode body)) : cut <+: mode.start :: body := by
  have whole : mode.start :: body <+: wire mode body := List.prefix_append _ _
  rcases List.prefix_or_prefix_of_prefix broken.begins whole with inside | beyond
  · exact inside
  obtain ⟨more, rfl⟩ := beyond
  cases more with
  | nil => simp
  | cons byte more =>
    obtain ⟨rfl, ending⟩ :=
      List.cons_prefix_cons.mp ((List.prefix_append_right_inj _).mp broken.begins)
    cases mode with
    | basic =>
      obtain rfl := List.prefix_nil.mp ending
      exact absurd rfl broken.short
    | terminal => exact absurd (List.mem_append_right _ List.mem_cons_self) (broken.unended rfl)

/-- The reader returns the payload of a frame behind these bytes, and leaves
everything after its end byte to the next call. -/
def Reads (mode : SerialMode) (deadline : Instant) (before frame payload : List UInt8) : Prop :=
  ∀ arriving, Delivers deadline (before ++ frame) arriving → ∃ ending, ending <:+ arriving ∧
    Delivers deadline mode.trailer ending ∧
    ∀ later, Serial.frame mode deadline .new (arriving ++ later) =
      (some (.ok payload), ending ++ later)

theorem reads_framed {mode : SerialMode} (deadline : Instant)
    {payload noise cut other body otherBody : List UInt8} (framed : Framed mode payload body)
    (quiet : noise.length ≤ MAX_FRAME * 2) (unstarted : mode.start ∉ noise)
    (framedOther : Framed mode other otherBody) (broken : BreaksOff mode cut (wire mode otherBody)) :
    Reads mode deadline (noise ++ cut) (wire mode body) payload := by
  -- the reader stands between frames, or inside the one that broke off
  have ready : ∃ s, feed mode .new (noise ++ cut) = .more s ∧
      (s.started = false → s.frame = [] ∧ s.escaped = false) := by
    have passed : feed mode .new noise = .more { FrameState.new with noise := noise.length } := by
      have fed := feed_noise (s := .new) rfl unstarted (by simpa [FrameState.new] using quiet)
      simpa [FrameState.new] using fed
    rw [feed_append passed]
    cases cut with
    | nil => exact ⟨_, rfl, fun _ => ⟨rfl, rfl⟩⟩
    | cons first cut =>
      obtain ⟨rfl, inside⟩ := List.cons_prefix_cons.mp broken.inside
      obtain ⟨s, begun, started, plain, empty⟩ :=
        step_start mode (s := { FrameState.new with noise := noise.length }) fun _ => ⟨rfl, rfl⟩
      obtain ⟨rest, rfl⟩ := inside
      obtain ⟨t, onward, -⟩ := feed_framed framedOther started plain empty
      obtain ⟨u, reached⟩ := feed_prefix onward
      refine ⟨u, ?_, fun idle => ?_⟩
      · rw [feed, begun]
        exact reached
      · rw [feed_started started reached] at idle
        cases idle
  obtain ⟨s, reached, fresh⟩ := ready
  obtain ⟨t, begun, started, plain, empty⟩ := step_start mode fresh
  obtain ⟨u, onward, ends⟩ := feed_framed framed started plain empty
  have fed : feed mode .new (noise ++ cut ++ mode.start :: body) = .more u := by
    rw [feed_append reached, feed, begun]
    exact onward
  intro arriving delivered
  have shape : noise ++ cut ++ wire mode body =
      (noise ++ cut ++ mode.start :: body) ++ ([mode.stop] ++ mode.trailer) := by simp [wire]
  rw [shape] at delivered
  obtain ⟨front, back, rfl, taken, rest⟩ := delivered.split
  obtain ⟨last, ending, rfl, final, trailing⟩ := Delivers.split rest
  refine ⟨ending, ?_, trailing, fun later => ?_⟩
  · exact ⟨front ++ last, by simp⟩
  · rw [List.append_assoc, frame_feed taken fed, List.append_assoc]
    exact frame_done final ends (ending ++ later)

/-- Framing round trip and resynchronisation: behind noise and a frame that
broke off, the reader returns exactly the payload of the next frame, as it was
encoded and also with fillers in it, and stops after the end byte. -/
theorem frames_read_back (mode : SerialMode) (deadline : Instant)
    {payload noise cut other otherBody : List UInt8} (fits : payload.length ≤ MAX_FRAME)
    (quiet : noise.length ≤ MAX_FRAME * 2) (unstarted : mode.start ∉ noise)
    (framedOther : Framed mode other otherBody) (broken : BreaksOff mode cut (wire mode otherBody)) :
    Reads mode deadline (noise ++ cut) (encode mode payload) payload ∧
    ∀ body, Framed mode payload body →
      Reads mode deadline (noise ++ cut) (wire mode body) payload := by
  constructor
  · obtain ⟨body, same, framed⟩ := encode_framed mode fits
    rw [same]
    exact reads_framed deadline framed quiet unstarted framedOther broken
  · exact fun body framed => reads_framed deadline framed quiet unstarted framedOther broken

/-- Noise, a frame that broke off inside an escape pair, and a frame with a
handshake byte in it. -/
theorem frames_read_back_escaped :
    Reads .basic 1 ([0xA5, 0x07] ++ [0xA0, 0x20, 0xAA]) (encode .basic [0xA0, 0x07]) [0xA0, 0x07] ∧
    Reads .basic 1 ([0xA5, 0x07] ++ [0xA0, 0x20, 0xAA]) [0xA0, 0xAA, 0xB0, 0xA6, 0x07, 0xA5]
      [0xA0, 0x07] := by
  have other : Framed .basic [0x20, 0xA5] [0x20, 0xAA, 0xB5] :=
    ⟨by decide, .unit [0x20] (.unit [0xAA, 0xB5] .nil), by simp⟩
  have broken : BreaksOff .basic [0xA0, 0x20, 0xAA] (wire .basic [0x20, 0xAA, 0xB5]) :=
    ⟨by decide, by decide, by simp⟩
  have body : Framed .basic [0xA0, 0x07] [0xAA, 0xB0, 0xA6, 0x07] :=
    ⟨by decide, .unit [0xAA, 0xB0] (.filler 0xA6 rfl (.unit [0x07] .nil)), by simp⟩
  have fits : [0xA0, (0x07 : UInt8)].length ≤ MAX_FRAME := by decide
  have quiet : [0xA5, (0x07 : UInt8)].length ≤ MAX_FRAME * 2 := by decide
  obtain ⟨plain, filled⟩ := frames_read_back .basic 1 fits quiet (by decide) other broken
  exact ⟨plain, filled _ body⟩

/-- A proper prefix of a terminal frame may have its end byte, and then is what
the reader returns: an empty frame without its line feed, before a frame of
one byte. -/
theorem frames_read_back_whole_frame :
    [0x5B, 0x5D, 0x0D] <+: encode .terminal [] ∧ [0x5B, 0x5D, 0x0D] ≠ encode .terminal [] ∧
    ¬ Reads .terminal 1 [0x5B, 0x5D, 0x0D] (encode .terminal [1]) [1] := by
  refine ⟨by decide, by decide, fun reads => ?_⟩
  let attempt (byte : UInt8) : Attempt := ⟨false, 0, .byte byte⟩
  have delivered (bytes : List UInt8) : Delivers 1 bytes (bytes.map attempt) := by
    induction bytes with
    | nil => rfl
    | cons byte bytes ih => exact ⟨[], attempt byte, _, rfl, by simp, rfl, ih⟩
  obtain ⟨ending, -, -, read⟩ := reads _ (delivered _)
  have first : (frame .terminal 1 .new
      (([0x5B, 0x5D, 0x0D] ++ encode .terminal [1]).map attempt ++ [])).1 = some (.ok [1]) :=
    congrArg Prod.fst (read [])
  exact absurd first (by decide)

end IpmiRs.Serial
