import IpmiRs.Storage.SdrCommands

/-! `FallibleSdrIter` of `lib.rs`: one record a call, each read in bounded
chunks and read again from its header when its reservation was lost. -/
namespace IpmiRs.Storage
open Connection App Library.Bytes

inductive SdrProtocolError where
  | incorrectChunkLength (offset expected actual : Nat)
  | nextIdChanged (expected actual : RecordId)
  | invalidFirstRecordId
  | repeatedRecordId (id : RecordId)
  | offsetOutOfRange (offset : Nat)
  deriving DecidableEq

inductive SdrError (ε : Type) where
  | deviceId (error : IpmiError ε NotEnoughData)
  | repositoryInfo (error : IpmiError ε NotEnoughData)
  | deviceInfo (error : IpmiError ε NotEnoughData)
  | noSupportedSource
  | reservation (error : IpmiError ε ReservationError)
  | reservationLost (id : RecordId)
  | read (error : IpmiError ε NotEnoughData)
  | protocol (error : SdrProtocolError)
  | parse (recordId : RecordId) (error : RecordParseError)
  deriving DecidableEq

/-- The iterator, with the connection it holds. -/
structure SdrIter (ε : Type) where
  link : Link ε
  source : Option SdrSource
  initialized : Bool
  reservation : Option NonZeroU16
  reservationSupported : Bool
  nextId : Option RecordId
  seen : List UInt16
  readLimit : Nat

/-- A smaller transfer may succeed. -/
def limitsTransfer : CompletionErrorCode → Bool
  | .cannotReturnNumOfRequestedBytes | .requestDataLenInvalid
  | .requestDataLengthLimitExceeded => true
  | _ => false

namespace SdrIter
variable {ε : Type}

def new (link : Link ε) (source : Option SdrSource) : SdrIter ε where
  link
  source
  initialized := false
  reservation := none
  reservationSupported := false
  nextId := some .FIRST
  seen := []
  readLimit := 32

/-- Send one command over the iterator's connection. -/
def send {α β : Type} (s : SdrIter ε) (command : IpmiCommand α β) :
    Except (IpmiError ε β) α × SdrIter ε :=
  ((s.link.sendRecv command).1, { s with link := (s.link.sendRecv command).2 })

/-- The source in use; every caller has chosen one. -/
def chosen (s : SdrIter ε) : SdrSource := s.source.getD .repository

def reserve (s : SdrIter ε) : Except (SdrError ε) Unit × SdrIter ε :=
  match s.send (reserveSdr s.chosen) with
  | (.error error, s) => (.error (.reservation error), s)
  | (.ok reservation, s) => (.ok (), { s with reservation := some reservation })

/-- The part of `initialize` that settles the source. -/
def chooseSource (s : SdrIter ε) : Except (SdrError ε) Unit × SdrIter ε :=
  if s.source.isSome then (.ok (), s)
  else
    match s.send getDeviceId with
    | (.error error, s) => (.error (.deviceId error), s)
    | (.ok deviceId, s) =>
      if deviceId.sdrRepositorySupport then (.ok (), { s with source := some .repository })
      else if deviceId.providesDeviceSdrs then (.ok (), { s with source := some .device })
      else (.error .noSupportedSource, s)

/-- The part of `initialize` that asks how many records there are, and whether
they can be reserved. -/
def sourceInfo (s : SdrIter ε) : Except (SdrError ε) (Nat × Bool) × SdrIter ε :=
  match s.chosen with
  | .repository =>
    match s.send getSdrRepositoryInfo with
    | (.error error, s) => (.error (.repositoryInfo error), s)
    | (.ok info, s) => (.ok (info.recordCount.toNat, info.supportedOps.contains .reserve), s)
  | .device =>
    match s.send getDeviceSdrInfo with
    | (.error error, s) => (.error (.deviceInfo error), s)
    | (.ok info, s) => (.ok (info.operationValue.toNat, info.dynamicPopulation), s)

/-- `initialize`. -/
def initializeIter (s : SdrIter ε) : Except (SdrError ε) Unit × SdrIter ε :=
  match s.chooseSource with
  | (.error error, s) => (.error error, s)
  | (.ok (), s) =>
    match s.sourceInfo with
    | (.error error, s) => (.error error, s)
    | (.ok (count, reservationSupported), s) =>
      let s := { s with reservationSupported }
      if count = 0 then (.ok (), { s with nextId := none, initialized := true })
      else if reservationSupported then
        match s.reserve with
        | (.error error, s) => (.error error, s)
        | (.ok (), s) => (.ok (), { s with initialized := true })
      else (.ok (), { s with initialized := true })

/-- The loop of `read_bytes`, with the bytes it has so far. Every turn gets at
least one byte or lowers the read limit, so `left` turns are enough when it
starts at what is missing plus the limit. -/
def readBytesFrom (recordId : RecordId) (start length : Nat) :
    Nat → SdrIter ε → List UInt8 → Option RecordId →
      Except (SdrError ε) (List UInt8 × Option RecordId) × SdrIter ε
  | 0, s, data, nextId => (.ok (data, nextId), s)
  | left + 1, s, data, nextId =>
    if length ≤ data.length then (.ok (data, nextId), s)
    else
      let offset := start + data.length
      if 0xFF < offset then (.error (.protocol (.offsetOutOfRange offset)), s)
      else
        let requested := min (length - data.length) s.readLimit
        match s.send (readSdr s.chosen s.reservation recordId (UInt8.ofNat offset)
          (UInt8.ofNat requested)) with
        | (.error (.failed netfn cmd code detail), s) =>
          if limitsTransfer code ∧ 1 < requested then
            readBytesFrom recordId start length left { s with readLimit := max (requested / 2) 1 }
              data nextId
          else (.error (.read (.failed netfn cmd code detail)), s)
        | (.error error, s) => (.error (.read error), s)
        | (.ok chunk, s) =>
          if chunk.data.length ≠ requested then
            (.error (.protocol (.incorrectChunkLength offset requested chunk.data.length)), s)
          else if nextId.any (· ≠ chunk.nextEntry) then
            (.error (.protocol (.nextIdChanged (nextId.getD .FIRST) chunk.nextEntry)), s)
          else
            readBytesFrom recordId start length left s (data ++ chunk.data)
              (nextId.or (some chunk.nextEntry))

/-- `read_bytes`. A read of no bytes at all would leave no next ID, and panic;
no caller makes one. -/
def readBytes (s : SdrIter ε) (recordId : RecordId) (start length : Nat)
    (expectedNext : Option RecordId) : Except (SdrError ε) (List UInt8 × RecordId) × SdrIter ε :=
  match readBytesFrom recordId start length (length + s.readLimit) s [] expectedNext with
  | (.error error, s) => (.error error, s)
  | (.ok (data, nextId), s) => (.ok (data, nextId.getD .FIRST), s)

/-- The body of `read_record_once`, once the header was accepted. -/
def readBody (s : SdrIter ε) (id headerId nextId : RecordId) (length : Nat) :
    Except (SdrError ε) (List UInt8) × SdrIter ε :=
  if length ≠ 0 then
    match s.readBytes (if id.isFirst then headerId else id) 5 length (some nextId) with
    | (.error error, s) => (.error error, s)
    | (.ok (body, _), s) => (.ok body, s)
  else (.ok [], s)

def readRecordOnce (s : SdrIter ε) (id : RecordId) :
    Except (SdrError ε) (Record × RecordId) × SdrIter ε :=
  match s.readBytes id 0 5 none with
  | (.error error, s) => (.error error, s)
  | (.ok (header, nextId), s) =>
    let headerId := RecordId.ofBytes header[0]! header[1]!
    if id.isFirst && (headerId.isFirst || headerId.isLast) then
      (.error (.protocol .invalidFirstRecordId), s)
    else if nextId.isFirst || nextId == id || s.seen.contains nextId.value then
      (.error (.protocol (.repeatedRecordId nextId)), s)
    else
      match s.readBody id headerId nextId header[4]!.toNat with
      | (.error error, s) => (.error error, s)
      | (.ok body, s) =>
        -- A record is known by the ID it was asked for, except the first one.
        let named := if id.isFirst then header.take 2 else toLe 2 id.value.toNat
        match Record.parse (named ++ header.drop 2 ++ body) with
        | .error error => (.error (.parse id error), s)
        | .ok record => (.ok (record, nextId), s)

/-- The reservation the record was read under was lost. -/
def reservationCancelled {α : Type} : Except (SdrError ε) α → Bool
  | .error (.read (.failed _ _ .reservationCancelledOrInvalidId _)) => true
  | _ => false

/-- The attempts of `read_record`; `left` renewals remain. -/
def readRecordAttempts (id : RecordId) :
    Nat → SdrIter ε → Except (SdrError ε) (Record × RecordId) × SdrIter ε
  | left, s =>
    match s.readRecordOnce id with
    | (result, s) =>
      if reservationCancelled result && s.reservationSupported then
        match left with
        | 0 => (.error (.reservationLost id), s)
        | left + 1 =>
          match s.reserve with
          | (.error error, s) => (.error error, s)
          | (.ok (), s) => readRecordAttempts id left s
      else (result, s)

def readRecord (s : SdrIter ε) (id : RecordId) :
    Except (SdrError ε) (Record × RecordId) × SdrIter ε := readRecordAttempts id 3 s

/-- `next`. -/
def next (s : SdrIter ε) : Option (Except (SdrError ε) Record) × SdrIter ε :=
  if s.nextId.isNone then (none, s)
  else
    match if s.initialized then (.ok (), s) else s.initializeIter with
    | (.error error, s) => (some (.error error), { s with nextId := none })
    | (.ok (), s) =>
      match s.nextId with
      | none => (none, s)
      | some currentId =>
        let s := { s with nextId := none }
        if currentId.isLast then (none, s)
        else if s.seen.contains currentId.value then
          (some (.error (.protocol (.repeatedRecordId currentId))), s)
        else
          match { s with seen := currentId.value :: s.seen }.readRecord currentId with
          | (.error error, s) => (some (.error error), s)
          | (.ok (record, nextId), s) => (some (.ok record), { s with nextId := some nextId })

/-- The iterator after a number of calls. -/
def after (s : SdrIter ε) : Nat → SdrIter ε
  | 0 => s
  | calls + 1 => (s.after calls).next.2

/-- What a call returns, after a number of earlier ones. -/
def item (s : SdrIter ε) (calls : Nat) : Option (Except (SdrError ε) Record) :=
  (s.after calls).next.1

/-- The records yielded by a number of calls, in order. -/
def records (s : SdrIter ε) (calls : Nat) : List Record :=
  (List.range calls).filterMap fun call => (s.item call).bind Except.toOption

end SdrIter
end IpmiRs.Storage
