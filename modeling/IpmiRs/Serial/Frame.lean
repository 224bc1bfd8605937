import IpmiRs.Connection

/-! The frames of a serial connection, `serial.rs`: `encode`, and the reader
`SerialConnection::frame` with `next_byte`. What the port and the clock do is
an explicit input. -/
namespace IpmiRs.Serial
open Connection

def MAX_FRAME : Nat := 256

inductive SerialMode where
  | basic
  | terminal
  deriving DecidableEq

/-- `SerialRecvError`. -/
inductive SerialRecvError where
  | noPendingRequest
  | timeout
  | cancelled
  | invalidFrame
  | tooManyUnrelated
  | io
  deriving DecidableEq

/-! ### Encoding -/

/-- The code that stands for a byte after the escape byte. -/
def escapeCode (byte : UInt8) : Option UInt8 :=
  if byte = 0xA0 then some 0xB0
  else if byte = 0xA5 then some 0xB5
  else if byte = 0xA6 then some 0xB6
  else if byte = 0xAA then some 0xBA
  else if byte = 0x1B then some 0x3B
  else none

def DIGITS : Vector UInt8 16 :=
  #v[0x30, 0x31, 0x32, 0x33, 0x34, 0x35, 0x36, 0x37, 0x38, 0x39, 0x61, 0x62, 0x63, 0x64, 0x65, 0x66]

/-- The hexadecimal digit of a nibble. -/
def digit (nibble : UInt8) : UInt8 := DIGITS[nibble.toNat % 16]

/-- What one byte of the payload is sent as. -/
def encodeByte (mode : SerialMode) (byte : UInt8) : List UInt8 :=
  match mode with
  | .basic =>
    match escapeCode byte with
    | some code => [0xAA, code]
    | none => [byte]
  | .terminal => [digit (byte >>> 4), digit (byte &&& 0xf)]

/-- The byte a frame starts with. -/
def SerialMode.start : SerialMode → UInt8
  | .basic => 0xA0
  | .terminal => 0x5B

/-- The byte a frame ends with. -/
def SerialMode.stop : SerialMode → UInt8
  | .basic => 0xA5
  | .terminal => 0x5D

/-- What follows the end of a frame: CRLF in terminal mode. -/
def SerialMode.trailer : SerialMode → List UInt8
  | .basic => []
  | .terminal => [0x0D, 0x0A]

def encode (mode : SerialMode) (payload : List UInt8) : List UInt8 :=
  mode.start :: payload.flatMap (encodeByte mode) ++ mode.stop :: mode.trailer

/-! ### Reading -/

/-- What `port.read` makes of a buffer of one byte. A retry is a timeout of the
port, an interruption or a read that would block. -/
inductive PortRead where
  | byte (byte : UInt8)
  | eof
  | retry
  | failed
  deriving DecidableEq

/-- One turn of the loop of `next_byte`: what `check` finds, and the read. -/
structure Attempt where
  cancelled : Bool
  now : Instant
  read : PortRead
  deriving DecidableEq

/-- What one turn of the loop of `next_byte` leads to: nothing, if it goes
around again. -/
def Attempt.next (a : Attempt) (deadline : Instant) : Option (Except SerialRecvError UInt8) :=
  if a.cancelled then some (.error .cancelled)
  else if deadline ≤ a.now then some (.error .timeout)
  else
    match a.read with
    | .byte byte => some (.ok byte)
    | .eof | .failed => some (.error .io)
    | .retry => none

/-- The local variables of `frame`. -/
structure FrameState where
  frame : List UInt8
  started : Bool
  escaped : Bool
  noise : Nat
  deriving DecidableEq

def FrameState.new : FrameState where
  frame := []
  started := false
  escaped := false
  noise := 0

/-- The byte an escaped code stands for. -/
def unescape (code : UInt8) : Option UInt8 :=
  if code = 0xB0 then some 0xA0
  else if code = 0xB5 then some 0xA5
  else if code = 0xB6 then some 0xA6
  else if code = 0xBA then some 0xAA
  else if code = 0x3B then some 0x1B
  else none

/-- `u8::is_ascii_whitespace` -/
def isWhitespace (c : UInt8) : Bool := c ∈ [0x09, 0x0A, 0x0C, 0x0D, 0x20]

/-- `char::to_digit(16)` -/
def toDigit (c : UInt8) : Option UInt8 :=
  if 0x30 ≤ c ∧ c ≤ 0x39 then some (c - 0x30)
  else if 0x41 ≤ c ∧ c ≤ 0x46 then some (c - 0x41 + 10)
  else if 0x61 ≤ c ∧ c ≤ 0x66 then some (c - 0x61 + 10)
  else none

/-- The bytes a list of digits stands for, two by two. -/
def fromDigits : List UInt8 → Except SerialRecvError (List UInt8)
  | high :: low :: rest =>
    match toDigit high, toDigit low with
    | some h, some l => (fromDigits rest).map ((h <<< 4 ||| l) :: ·)
    | _, _ => .error .invalidFrame
  | _ => .ok []

/-- The end of a frame in terminal mode. -/
def decodeHex (frame : List UInt8) : Except SerialRecvError (List UInt8) :=
  let hex := frame.filter fun c => !isWhitespace c
  if hex.length % 2 ≠ 0 ∨ MAX_FRAME < hex.length / 2 then .error .invalidFrame else fromDigits hex

/-- What a byte leads to: the reader goes on, or returns. -/
inductive Step where
  | more (s : FrameState)
  | done (result : Except SerialRecvError (List UInt8))
  deriving DecidableEq

/-- The length check at the end of a turn. -/
def FrameState.checkLength (mode : SerialMode) (s : FrameState) : Step :=
  if MAX_FRAME * (if mode = .basic then 1 else 3) < s.frame.length then .done (.error .invalidFrame)
  else .more s

/-- One turn of the loop of `frame`, once its byte is read. -/
def FrameState.step (mode : SerialMode) (s : FrameState) (byte : UInt8) : Step :=
  if !s.started then
    if byte = mode.start then .more { s with started := true }
    else if MAX_FRAME * 2 < s.noise + 1 then .done (.error .invalidFrame)
    else .more { s with noise := s.noise + 1 }
  else if byte = mode.start then .more { s with frame := [], escaped := false }
  else
    match mode with
    | .basic =>
      if s.escaped then
        match unescape byte with
        | some value => { s with frame := s.frame ++ [value], escaped := false }.checkLength mode
        | none => .done (.error .invalidFrame)
      else if byte = 0xAA then .more { s with escaped := true }
      else if byte = mode.stop then .done (.ok s.frame)
      else if byte = 0xA6 then .more s
      else { s with frame := s.frame ++ [byte] }.checkLength mode
    | .terminal =>
      if byte = mode.stop then .done (decodeHex s.frame)
      else { s with frame := s.frame ++ [byte] }.checkLength mode

/-- `SerialConnection::frame`, with the turns it leaves to the next call. It
has no result if they run out inside it. -/
def frame (mode : SerialMode) (deadline : Instant) :
    FrameState → List Attempt → Option (Except SerialRecvError (List UInt8)) × List Attempt
  | _, [] => (none, [])
  | s, a :: attempts =>
    match a.next deadline with
    | none => frame mode deadline s attempts
    | some (.error error) => (some (.error error), attempts)
    | some (.ok byte) =>
      match s.step mode byte with
      | .more s => frame mode deadline s attempts
      | .done result => (some result, attempts)

end IpmiRs.Serial
