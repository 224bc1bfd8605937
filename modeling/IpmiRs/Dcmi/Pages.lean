import IpmiRs.Connection
import IpmiRs.Library.Chunks
import IpmiRs.Library.Faults

/-! The paged transfers of `ipmi-rs-core/src/dcmi.rs`: strings that are read and
written in chunks, and lists of temperatures and of sensor records. The caller
passes the function that sends one request. -/
namespace IpmiRs.Dcmi
open Connection Library Library.Checked Library.Chunks Library.Stateful

/-- `STRING_CHUNK` -/
def stringChunk : Nat := 16

/-- `MAX_STRING` -/
def maxString : Nat := 64

/-- `request`: the group comes before the payload. -/
def request (command : UInt8) (payload : List UInt8) : Message :=
  .newRequest (.reserved 0x2C) command (0xDC :: payload)

inductive DcmiError where
  | length (expected actual : Nat)
  | group (group : UInt8)
  | bounds
  | page
  deriving DecidableEq

/-- `exact` -/
def exactLength (data : List UInt8) (len : Nat) : Checked DcmiError Unit :=
  if data.length = len then pure () else throw (.length len data.length)

/-- `checked` -/
def checkedGroup (data : List UInt8) (len : Nat) : Checked DcmiError Unit :=
  if data.length < len then throw (.length len data.length)
  else do
    let group ← index data 0
    if group ≠ 0xDC then throw (.group group) else pure ()

inductive MutationOutcome where
  | acknowledged
  deriving DecidableEq

def ack (data : List UInt8) : Checked DcmiError MutationOutcome := do
  checkedGroup data 1
  exactLength data 1
  pure .acknowledged

/-! ### Strings -/

inductive StringKind where
  | assetTag
  | controllerId
  deriving DecidableEq

def StringKind.command : StringKind → (set : Bool) → UInt8
  | .assetTag, false => 0x06
  | .assetTag, true => 0x08
  | .controllerId, false => 0x09
  | .controllerId, true => 0x0A

/-- A request for bytes of a string, none of them beyond the longest one. No bytes are asked
for only at the start. -/
structure GetString where
  kind : StringKind
  offset : UInt8
  length : UInt8
  bounded : ¬(stringChunk < length.toNat ∨ maxString < offset.toNat + length.toNat ∨ (length = 0 ∧ offset ≠ 0))

def GetString.new (kind : StringKind) (offset length : UInt8) : Except DcmiError GetString :=
  if outside : stringChunk < length.toNat ∨ maxString < offset.toNat + length.toNat ∨ (length = 0 ∧ offset ≠ 0) then
    .error .bounds
  else .ok ⟨kind, offset, length, outside⟩

def GetString.message (get : GetString) : Message := request (get.kind.command false) [get.offset, get.length]

structure StringPage where
  total : UInt8
  bytes : List UInt8
  deriving DecidableEq

/-- `GetString::parse_success_response` -/
def StringPage.parse (data : List UInt8) : Checked DcmiError StringPage := do
  checkedGroup data 2
  let total ← index data 1
  if maxString < total.toNat ∨ 2 + stringChunk < data.length then throw .bounds
  else do
    let bytes ← slice data 2 data.length
    pure ⟨total, bytes⟩

/-- A chunk of a string that is to be written. -/
structure SetString where
  kind : StringKind
  offset : UInt8
  bytes : List UInt8
  bounded : ¬(stringChunk < bytes.length ∨ maxString < offset.toNat + bytes.length ∨ (bytes = [] ∧ offset ≠ 0))

def SetString.new (kind : StringKind) (offset : UInt8) (bytes : List UInt8) : Except DcmiError SetString :=
  if outside : stringChunk < bytes.length ∨ maxString < offset.toNat + bytes.length ∨ (bytes = [] ∧ offset ≠ 0) then
    .error .bounds
  else .ok ⟨kind, offset, bytes, outside⟩

def SetString.message (set : SetString) : Message :=
  request (set.kind.command true) (set.offset :: UInt8.ofNat set.bytes.length :: set.bytes)

inductive PageError (ε : Type) where
  | transport (error : ε)
  | protocol (error : DcmiError)

inductive StringWriteError (ε : Type) where
  | invalid (error : DcmiError)
  | uncertain (confirmedBytes : Nat) (error : ε)

section strings
variable {σ ε : Type} (kind : StringKind)

/-- The loop of `read_string`. -/
def readStringPages (send : GetString → Stateful σ ε StringPage) (total : Nat) :
    (turns : Nat) → List UInt8 → Stateful σ (Fault (PageError ε)) (List UInt8)
  | turns, bytes =>
    if bytes.length < total then
      match turns with
      | 0 => throw .ranOn
      | turns + 1 => do
        let offset := bytes.length
        let length := min (total - offset) stringChunk
        let command ← checked (unwrap (GetString.new kind (UInt8.ofNat offset) (UInt8.ofNat length)))
        let page ← ExceptT.adapt (fun error => .error (.transport error)) (send command)
        if page.total.toNat ≠ total ∨ page.bytes.length ≠ length then throw (.error (.protocol .page))
        else readStringPages send total turns (bytes ++ page.bytes)
    else pure bytes

/-- `read_string` -/
def readString (send : GetString → Stateful σ ε StringPage) : Stateful σ (Fault (PageError ε)) (List UInt8) := do
  let initialLength : UInt8 := if kind = .controllerId then 1 else 0
  let command ← checked (unwrap (GetString.new kind 0 initialLength))
  let first ← ExceptT.adapt (fun error => .error (.transport error)) (send command)
  let total := first.total.toNat
  let initialBytes := min initialLength.toNat total
  if maxString < total ∨ first.bytes.length ≠ initialBytes then throw (.error (.protocol .page))
  else readStringPages kind send total total first.bytes

/-- The loop of `write_string`. -/
def writeStringChunks (send : SetString → Stateful σ ε MutationOutcome) :
    List (List UInt8) → Nat → Stateful σ (Fault (StringWriteError ε)) MutationOutcome
  | [], _ => pure .acknowledged
  | chunk :: chunks, confirmedBytes => do
    let command ← checked (unwrap (SetString.new kind (UInt8.ofNat confirmedBytes) chunk))
    let _ ← ExceptT.adapt (fun error => .error (.uncertain confirmedBytes error)) (send command)
    writeStringChunks send chunks (confirmedBytes + chunk.length)

/-- `write_string` -/
def writeString (bytes : List UInt8) (send : SetString → Stateful σ ε MutationOutcome) :
    Stateful σ (Fault (StringWriteError ε)) MutationOutcome :=
  if maxString < bytes.length then throw (.error (.invalid .bounds))
  else if bytes = [] then do
    let command ← checked (unwrap (SetString.new kind 0 []))
    ExceptT.adapt (fun error => .error (.uncertain 0 error)) (send command)
  else writeStringChunks kind send (chunks stringChunk bytes) 0

end strings

/-! ### Lists of an entity -/

inductive TemperatureEntity where
  | inlet
  | cpu
  | baseboard
  deriving DecidableEq

def TemperatureEntity.value : TemperatureEntity → UInt8
  | .inlet => 0x40
  | .cpu => 0x41
  | .baseboard => 0x42

structure TemperatureReading where
  instance_ : UInt8
  celsius : Int
  deriving DecidableEq

/-- The sign is a bit of its own. -/
def TemperatureReading.ofBytes (low high : UInt8) : TemperatureReading :=
  ⟨high, if low &&& 0x80 = 0 then low.toNat else -((low &&& 0x7F).toNat : Int)⟩

structure GetTemperatureReadings where
  entity : TemperatureEntity
  instance_ : UInt8
  offset : UInt8
  deriving DecidableEq

def GetTemperatureReadings.message (get : GetTemperatureReadings) : Message :=
  request 0x10 [1, get.entity.value, get.instance_, get.offset]

structure GetSensorRecords where
  entity : TemperatureEntity
  offset : UInt8
  deriving DecidableEq

def GetSensorRecords.message (get : GetSensorRecords) : Message :=
  request 0x07 [1, get.entity.value, 0, get.offset]

/-- `TemperaturePage` and `SensorPage`: how many entries there are, and some of them. -/
structure EntityPage (α : Type) where
  total : UInt8
  entries : List α
  deriving DecidableEq

/-- The pairs of a list, `as_chunks::<2>().0`. -/
def pairs {α : Type} (entry : UInt8 → UInt8 → α) : List UInt8 → List α
  | low :: high :: rest => entry low high :: pairs entry rest
  | _ => []

/-- `parse_success_response` of a page with two bytes for each entry. -/
def EntityPage.parse {α : Type} (entry : UInt8 → UInt8 → α) (data : List UInt8) :
    Checked DcmiError (EntityPage α) := do
  checkedGroup data 3
  let count ← index data 2
  let total ← index data 1
  if 8 < count.toNat ∨ total.toNat < count.toNat then throw .page
  else do
    exactLength data (3 + count.toNat * 2)
    let entries ← slice data 3 data.length
    pure ⟨total, pairs entry entries⟩

def GetTemperatureReadings.parseSuccessResponse : List UInt8 → Checked DcmiError (EntityPage TemperatureReading) :=
  EntityPage.parse TemperatureReading.ofBytes

def GetSensorRecords.parseSuccessResponse : List UInt8 → Checked DcmiError (EntityPage UInt16) :=
  EntityPage.parse fun low high => UInt16.ofNat (low.toNat + 256 * high.toNat)

section lists
variable {σ ε κ α : Type}

/-- The loop of `read_temperatures` and of `read_sensor_records`: what is asked for after so many entries. -/
def readEntityPages (next : Nat → κ) (send : κ → Stateful σ ε (EntityPage α)) (total : Nat) :
    (turns : Nat) → List α → Stateful σ (Fault (PageError ε)) (List α)
  | turns, entries =>
    if entries.length < total then
      match turns with
      | 0 => throw .ranOn
      | turns + 1 => do
        let page ← ExceptT.adapt (fun error => .error (.transport error)) (send (next entries.length))
        if page.total.toNat ≠ total ∨ page.entries = [] ∨ 8 < page.entries.length ∨
            total - entries.length < page.entries.length then
          throw (.error (.protocol .page))
        else readEntityPages next send total turns (entries ++ page.entries)
    else pure entries

/-- The first page tells how many there are. -/
def readEntities (first : κ) (next : Nat → κ) (send : κ → Stateful σ ε (EntityPage α)) :
    Stateful σ (Fault (PageError ε)) (List α) := do
  let first ← ExceptT.adapt (fun error => .error (.transport error)) (send first)
  let total := first.total.toNat
  readEntityPages next send total total []

/-- `read_temperatures` -/
def readTemperatures (entity : TemperatureEntity)
    (send : GetTemperatureReadings → Stateful σ ε (EntityPage TemperatureReading)) :
    Stateful σ (Fault (PageError ε)) (List TemperatureReading) :=
  readEntities ⟨entity, 0, 0⟩ (fun read => ⟨entity, 0, UInt8.ofNat (read + 1)⟩) send

/-- `read_sensor_records` -/
def readSensorRecords (entity : TemperatureEntity) (send : GetSensorRecords → Stateful σ ε (EntityPage UInt16)) :
    Stateful σ (Fault (PageError ε)) (List UInt16) :=
  readEntities ⟨entity, 0⟩ (fun read => ⟨entity, UInt8.ofNat read⟩) send

end lists
end IpmiRs.Dcmi
