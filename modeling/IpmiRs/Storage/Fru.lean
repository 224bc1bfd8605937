import IpmiRs.Library.Checked
import IpmiRs.Library.Checksum
import IpmiRs.Library.Chunks

/-! Decoding of a complete FRU inventory image, as the source does it. Every
index, slice and `unwrap` of the source is an operation that may panic. The
loops take as many turns as they are given; running out of them counts as a
panic too. -/
namespace IpmiRs.Storage
open Library Library.Checked

inductive FruParseError where
  | truncated
  | version
  | checksum
  | layout
  | field
  deriving DecidableEq

/-- What parsing leads to. -/
abbrev Parsing (α : Type) := Checked FruParseError α

/-- Offsets from the common header, in bytes. -/
structure FruHeader where
  internalUse : Option Nat
  chassis : Option Nat
  board : Option Nat
  product : Option Nat
  multirecord : Option Nat
  deriving DecidableEq

def checkSum (bytes : List UInt8) : Parsing Unit :=
  if Checksum.total bytes = 0 then pure () else throw .checksum

namespace FruHeader

/-- One turn of the loop over the offsets: `seen` are the earlier ones. -/
def slot (length : Nat) (seen : List (Option Nat)) (raw : UInt8) : Parsing (Option Nat) :=
  if raw ≠ 0 then
    let offset := raw.toNat * 8
    if length ≤ offset ∨ some offset ∈ seen then throw .layout else pure (some offset)
  else pure none

def parse (image : List UInt8) : Parsing FruHeader :=
  if image.length < 8 then throw .truncated
  else do
    let version ← index image 0
    let reserved ← index image 6
    if version ≠ 1 ∨ reserved ≠ 0 then throw .version
    else do
      checkSum (← slice image 0 8)
      let raw ← slice image 1 6
      let internalUse ← slot image.length [] (← index raw 0)
      let chassis ← slot image.length [internalUse] (← index raw 1)
      let board ← slot image.length [internalUse, chassis] (← index raw 2)
      let product ← slot image.length [internalUse, chassis, board] (← index raw 3)
      let multirecord ← slot image.length [internalUse, chassis, board, product] (← index raw 4)
      pure ⟨internalUse, chassis, board, product, multirecord⟩

def offsets (h : FruHeader) : List (Option Nat) :=
  [h.internalUse, h.chassis, h.board, h.product, h.multirecord]

/-- Where an area that starts at `start` has to end: at the next one, or with
the image. -/
def limit (h : FruHeader) (length start : Nat) : Nat :=
  ((h.offsets.reduceOption.filter (start < ·)).min?).getD length

end FruHeader

inductive FieldEncoding where
  | binary
  | bcdPlus
  | sixBitAscii
  | eightBitAscii
  deriving DecidableEq

structure FruField where
  encoding : FieldEncoding
  raw : List UInt8
  text : Option String
  deriving DecidableEq

def BCD : List Char := "0123456789 -.:,_".toList

def bcdPlusText : List UInt8 → Parsing (List Char)
  | [] => pure []
  | byte :: rest => do
    let high ← index BCD (byte >>> 4).toNat
    let low ← index BCD (byte &&& 0x0f).toNat
    pure (high :: low :: (← bcdPlusText rest))

def sixBitGroup (group : List UInt8) : List Char :=
  let bits : UInt32 := group.zipIdx.foldl
    (fun bits byte => bits ||| byte.1.toUInt32 <<< UInt32.ofNat (byte.2 * 8)) 0
  (List.range (group.length * 8 / 6)).map fun index =>
    Char.ofNat (0x20 + (bits >>> UInt32.ofNat (index * 6) &&& 0x3f)).toUInt8.toNat

def sixBitText (raw : List UInt8) : List Char := (Chunks.chunks 3 raw).flatMap sixBitGroup

/-- Whether a byte is printable in Latin-1. -/
def isPrintable (byte : UInt8) : Bool := 0x20 ≤ byte && !(0x7f ≤ byte && byte ≤ 0x9f)

/-- One field, from its descriptor and its bytes. -/
def FruField.decode (descriptor : UInt8) (raw : List UInt8) (language : Option UInt8) :
    Parsing FruField :=
  match (descriptor >>> 6).toNat with
  | 0 => pure ⟨.binary, raw, none⟩
  | 1 => do pure ⟨.bcdPlus, raw, some (.ofList (← bcdPlusText raw))⟩
  | 2 => pure ⟨.sixBitAscii, raw, some (.ofList (sixBitText raw))⟩
  | 3 =>
    if language = some 0 ∨ language = some 25 then
      if raw.all isPrintable then
        pure ⟨.eightBitAscii, raw, some (.ofList (raw.map fun byte => Char.ofNat byte.toNat))⟩
      else throw .field
    else pure ⟨.eightBitAscii, raw, none⟩
  | _ => panicked

/-- The loop of `parse_fields`: the fields up to the terminator, and the
position after it. -/
def parseFieldsLoop (area : List UInt8) (stop : Nat) (language : Option UInt8) :
    Nat → Nat → List FruField → Parsing (List FruField × Nat)
  | 0, _, _ => panicked
  | turns + 1, pos, fields => do
    let descriptor ← okOr (area[pos]?.filter fun _ => pos < stop) .field
    let pos := pos + 1
    if descriptor = 0xc1 then pure (fields, pos)
    else do
      let len := (descriptor &&& 0x3f).toNat
      if (← sub stop pos) < len then throw .truncated
      else do
        let raw ← slice area pos (pos + len)
        let field ← FruField.decode descriptor raw language
        parseFieldsLoop area stop language turns (pos + len) (fields ++ [field])

def parseFields (area : List UInt8) (start minFields : Nat) (language : Option UInt8) :
    Parsing (List FruField) := do
  let stop ← sub area.length 1
  let (fields, pos) ← parseFieldsLoop area stop language (area.length + 1) start []
  if fields.length < minFields ∨ (← slice area pos stop).any (· ≠ 0) then throw .field
  else pure fields

/-- An information area, sealed by its checksum, and where it ends. -/
def area (image : List UInt8) (start limit minLen : Nat) : Parsing (List UInt8 × Nat) := do
  let head ← okOr (range image start (start + 2)) .truncated
  if (← index head 0) ≠ 1 then throw .version
  else do
    let size := (← index head 1).toNat * 8
    if size < minLen then throw .layout
    else if limit < start + size then throw .layout
    else do
      let bytes ← okOr (range image start (start + size)) .truncated
      checkSum bytes
      pure (bytes, start + size)

structure ChassisInfo where
  chassisType : UInt8
  partNumber : FruField
  serialNumber : FruField
  extra : List FruField
  deriving DecidableEq

structure BoardInfo where
  language : UInt8
  manufacturingMinutes : UInt32
  manufacturer : FruField
  productName : FruField
  serialNumber : FruField
  partNumber : FruField
  fileId : FruField
  extra : List FruField
  deriving DecidableEq

structure ProductInfo where
  language : UInt8
  manufacturer : FruField
  productName : FruField
  partNumber : FruField
  version : FruField
  serialNumber : FruField
  assetTag : FruField
  fileId : FruField
  extra : List FruField
  deriving DecidableEq

/-- The data of a DC output or DC load record. -/
structure DcRecord where
  number : UInt8
  nominalVoltage10mv : Int16
  minimum10mv : Int16
  maximum10mv : Int16
  rippleMv : UInt16
  minimumCurrentMa : UInt16
  maximumCurrentMa : UInt16
  standby : Bool
  deriving DecidableEq

inductive MultiRecordData where
  | dcOutput (record : DcRecord)
  | dcLoad (record : DcRecord)
  | managementAccess (subtype : UInt8) (data : List UInt8)
  | oem (data : List UInt8)
  | unknown (data : List UInt8)
  deriving DecidableEq

structure MultiRecord where
  recordType : UInt8
  formatVersion : UInt8
  endOfList : Bool
  raw : List UInt8
  data : MultiRecordData
  deriving DecidableEq

/-- `u16::from_le_bytes` of the two bytes at `offset`. -/
def unsignedAt (payload : List UInt8) (offset : Nat) : Parsing UInt16 := do
  let low ← index payload offset
  let high ← index payload (offset + 1)
  pure (low.toUInt16 ||| high.toUInt16 <<< 8)

def signedAt (payload : List UInt8) (offset : Nat) : Parsing Int16 := do
  pure (← unsignedAt payload offset).toInt16

def dcRecord (recordType : UInt8) (payload : List UInt8) : Parsing DcRecord := do
  let flags ← index payload 0
  pure {
    number := flags &&& 0x0f
    standby := recordType == 1 && (← index payload 0) &&& 0x80 != 0
    nominalVoltage10mv := ← signedAt payload 1
    minimum10mv := ← signedAt payload 3
    maximum10mv := ← signedAt payload 5
    rippleMv := ← unsignedAt payload 7
    minimumCurrentMa := ← unsignedAt payload 9
    maximumCurrentMa := ← unsignedAt payload 11 }

def multiRecordData (recordType : UInt8) (payload : List UInt8) : Parsing MultiRecordData :=
  if recordType = 1 ∨ recordType = 2 then
    if payload.length ≠ 13 then throw .field
    else do
      let record ← dcRecord recordType payload
      pure (if recordType = 1 then .dcOutput record else .dcLoad record)
  else if recordType = 3 then
    match payload with
    | [] => throw .field
    | subtype :: data => pure (.managementAccess subtype data)
  else if 0xc0 ≤ recordType then pure (.oem payload)
  else pure (.unknown payload)

/-- The loop of `parse_multirecords`: the records up to the last one, and how
many bytes they take. -/
def parseMultirecordsLoop (area : List UInt8) :
    Nat → Nat → List MultiRecord → Parsing (List MultiRecord × Nat)
  | 0, _, _ => panicked
  | turns + 1, pos, records => do
    let header ← okOr (range area pos (pos + 5)) .truncated
    let format ← index header 1
    if format &&& 0x7f ≠ 2 then throw .version
    else do
      checkSum header
      let length := (← index header 2).toNat
      let payload ← okOr (range area (pos + 5) (pos + 5 + length)) .truncated
      if (← index header 3) + Checksum.total payload ≠ 0 then throw .checksum
      else do
        let recordType ← index header 0
        let data ← multiRecordData recordType payload
        let endOfList := format &&& 0x80 != 0
        let records := records ++ [⟨recordType, 2, endOfList, payload, data⟩]
        let pos := pos + (5 + length)
        if endOfList then pure (records, pos) else parseMultirecordsLoop area turns pos records

def parseMultirecords (area : List UInt8) : Parsing (List MultiRecord × Nat) :=
  parseMultirecordsLoop area (area.length + 1) 0 []

structure FruInventory where
  header : FruHeader
  internalUse : Option (List UInt8)
  chassis : Option ChassisInfo
  board : Option BoardInfo
  product : Option ProductInfo
  multirecords : List MultiRecord
  multirecordTail : List UInt8
  deriving DecidableEq

def ChassisInfo.parse (image : List UInt8) (start limit : Nat) : Parsing ChassisInfo := do
  let (area, _) ← area image start limit 8
  let fields ← parseFields area 3 2 (some 0)
  let chassisType ← index area 2
  let (partNumber, fields) ← next fields
  let (serialNumber, fields) ← next fields
  pure ⟨chassisType, partNumber, serialNumber, fields⟩

def BoardInfo.parse (image : List UInt8) (start limit : Nat) : Parsing BoardInfo := do
  let (area, _) ← area image start limit 8
  let fields ← parseFields area 6 5 (some (← index area 2))
  let language ← index area 2
  let manufacturingMinutes := (← index area 3).toUInt32 ||| (← index area 4).toUInt32 <<< 8 |||
    (← index area 5).toUInt32 <<< 16
  let (manufacturer, fields) ← next fields
  let (productName, fields) ← next fields
  let (serialNumber, fields) ← next fields
  let (partNumber, fields) ← next fields
  let (fileId, fields) ← next fields
  pure ⟨language, manufacturingMinutes, manufacturer, productName, serialNumber, partNumber, fileId,
    fields⟩

def ProductInfo.parse (image : List UInt8) (start limit : Nat) : Parsing ProductInfo := do
  let (area, _) ← area image start limit 8
  let fields ← parseFields area 3 7 (some (← index area 2))
  let language ← index area 2
  let (manufacturer, fields) ← next fields
  let (productName, fields) ← next fields
  let (partNumber, fields) ← next fields
  let (version, fields) ← next fields
  let (serialNumber, fields) ← next fields
  let (assetTag, fields) ← next fields
  let (fileId, fields) ← next fields
  pure ⟨language, manufacturer, productName, partNumber, version, serialNumber, assetTag, fileId,
    fields⟩

/-- Decode an area if the header has an offset for it. -/
def ifPresent {α : Type} (offset : Option Nat) (decode : Nat → Parsing α) : Parsing (Option α) :=
  match offset with
  | some start => some <$> decode start
  | none => pure none

/-- The multirecord area: its records, and the bytes after the last one. -/
def multirecordArea (image : List UInt8) (start limit : Nat) :
    Parsing (List MultiRecord × List UInt8) := do
  let raw ← slice image start limit
  let (records, consumed) ← parseMultirecords raw
  pure (records, ← slice raw consumed raw.length)

def FruInventory.parse (image : List UInt8) : Parsing FruInventory := do
  let header ← FruHeader.parse image
  let limit := header.limit image.length
  let internalUse ← ifPresent header.internalUse fun start => slice image start (limit start)
  let chassis ← ifPresent header.chassis fun start => ChassisInfo.parse image start (limit start)
  let board ← ifPresent header.board fun start => BoardInfo.parse image start (limit start)
  let product ← ifPresent header.product fun start => ProductInfo.parse image start (limit start)
  let multirecord ← ifPresent header.multirecord fun start => multirecordArea image start (limit start)
  let (multirecords, multirecordTail) := multirecord.getD ([], [])
  pure ⟨header, internalUse, chassis, board, product, multirecords, multirecordTail⟩

end IpmiRs.Storage
