import IpmiRs.Library.Checked
import IpmiRs.Library.Chunks

/-! System info parameters, `ipmi-rs-core/src/app/system_info.rs`: strings are
written as a first set of fourteen bytes and later sets of sixteen, and read
back set by set. -/
namespace IpmiRs.App.SystemInfo
open Library Library.Checked Library.Chunks

inductive SystemInfoSelector where
  | setInProgress
  | firmwareVersion
  | systemName
  | primaryOsName
  | osName
  | osVersion
  | bmcUrl
  | managementUrl
  deriving DecidableEq

inductive SystemInfoSetInProgress where
  | complete
  | inProgress
  | commitWrite
  deriving DecidableEq

/-- Declared in the first set of a string; Unicode bytes are kept without
guessing endianness. -/
inductive SystemInfoEncoding where
  | asciiLatin1
  | utf8
  | unicode
  deriving DecidableEq

inductive SystemInfoRejection where
  | unsupportedParameter
  | alreadyInProgress
  | readOnly
  deriving DecidableEq

inductive SystemInfoError where
  | unsupportedSelector (value : UInt8)
  | invalidSelector
  | revision (value : UInt8)
  | invalidField (name : String) (value : UInt8)
  | invalidEncoding
  | length (expected actual : Nat)
  | tooLong (length : Nat)
  | unexpectedSet (expected actual : UInt8)
  | missingSet (set : UInt8)
  | wrongSetCount (expected actual : Nat)
  | rejected (rejection : SystemInfoRejection)
  deriving DecidableEq

/-- Code that fails with a system info error, or panics. -/
abbrev Info (α : Type) := Checked SystemInfoError α

namespace SystemInfoSetInProgress

def value : SystemInfoSetInProgress → UInt8
  | .complete => 0
  | .inProgress => 1
  | .commitWrite => 2

/-- `try_from` -/
def ofByte (value : UInt8) : Info SystemInfoSetInProgress :=
  match value.toNat with
  | 0 => pure .complete
  | 1 => pure .inProgress
  | 2 => pure .commitWrite
  | _ => throw (.invalidField "set-in-progress" value)

end SystemInfoSetInProgress

namespace SystemInfoEncoding

def value : SystemInfoEncoding → UInt8
  | .asciiLatin1 => 0
  | .utf8 => 1
  | .unicode => 2

/-- `try_from` -/
def ofByte (value : UInt8) : Info SystemInfoEncoding :=
  match value.toNat with
  | 0 => pure .asciiLatin1
  | 1 => pure .utf8
  | 2 => pure .unicode
  | _ => throw (.invalidField "string encoding" value)

end SystemInfoEncoding

/-- One string set. There can be padding after the end of the string. -/
structure SystemInfoStringBlock where
  selector : SystemInfoSelector
  setSelector : UInt8
  encoding : Option SystemInfoEncoding
  totalLength : Option UInt8
  bytes : List UInt8
  deriving DecidableEq

inductive SystemInfoValue where
  | setInProgress (state : SystemInfoSetInProgress)
  | stringBlock (block : SystemInfoStringBlock)
  deriving DecidableEq

structure SystemInfoResponse where
  revision : UInt8
  data : List UInt8
  deriving DecidableEq

def SystemInfoResponse.decode (response : SystemInfoResponse) (selector : SystemInfoSelector)
    (setSelector : UInt8) : Info SystemInfoValue :=
  if response.revision ≠ 0x11 then throw (.revision response.revision)
  else if selector = .setInProgress then
    if setSelector ≠ 0 then throw .invalidSelector
    else if response.data.length ≠ 1 then throw (.length 1 response.data.length)
    else do return .setInProgress (← SystemInfoSetInProgress.ofByte (← index response.data 0))
  else if 16 < setSelector then throw .invalidSelector
  else
    match response.data with
    | [] => throw (.length 1 0)
    | echo :: data =>
      if echo ≠ setSelector then throw (.unexpectedSet setSelector echo)
      else if setSelector = 0 then
        if data.length < 2 ∨ 16 < data.length then throw (.length 16 data.length)
        else do
          let encoding ← index data 0
          if encoding &&& 0xF0 ≠ 0 then throw (.invalidField "string encoding" encoding)
          else
            let encoding ← SystemInfoEncoding.ofByte encoding
            let totalLength ← index data 1
            if (← sub data.length 2) < min totalLength.toNat 14 then
              throw (.length (min totalLength.toNat 14 + 2) data.length)
            else
              return .stringBlock
                ⟨selector, setSelector, some encoding, some totalLength, ← slice data 2 data.length⟩
      else if data = [] ∨ 16 < data.length then throw (.length 16 data.length)
      else return .stringBlock ⟨selector, setSelector, none, none, data⟩

structure GetSystemInfoParameter where
  selector : SystemInfoSelector
  setSelector : UInt8
  blockSelector : UInt8
  deriving DecidableEq

namespace GetSystemInfoParameter

def string (selector : SystemInfoSelector) (setSelector : UInt8) : Info GetSystemInfoParameter :=
  if selector = .setInProgress ∨ 16 < setSelector then throw .invalidSelector
  else pure ⟨selector, setSelector, 0⟩

def decode (request : GetSystemInfoParameter) (response : SystemInfoResponse) :
    Info SystemInfoValue :=
  if request.blockSelector ≠ 0 then throw .invalidSelector
  else response.decode request.selector request.setSelector

def parseSuccessResponse (data : List UInt8) : Info SystemInfoResponse :=
  if data.length < 2 then throw (.length 2 data.length)
  else do
    let revision ← index data 0
    if revision ≠ 0x11 then throw (.revision revision)
    else return ⟨revision, ← slice data 1 data.length⟩

end GetSystemInfoParameter

/-- `bytes.resize(size, 0)` -/
def resize (size : Nat) (bytes : List UInt8) : List UInt8 :=
  bytes.take size ++ List.replicate (size - bytes.length) 0

structure SetSystemInfoParameter where
  selector : SystemInfoSelector
  bytes : List UInt8
  deriving DecidableEq

namespace SetSystemInfoParameter

def setInProgress (state : SystemInfoSetInProgress) : SetSystemInfoParameter :=
  ⟨.setInProgress, [state.value]⟩

def first (selector : SystemInfoSelector) (encoding : SystemInfoEncoding) (totalLength : UInt8)
    (data : List UInt8) : Info SetSystemInfoParameter :=
  if selector = .setInProgress then throw .invalidSelector
  else if data.length ≠ min totalLength.toNat 14 then
    throw (.length (min totalLength.toNat 14) data.length)
  else pure ⟨selector, resize 17 ([0, encoding.value, totalLength] ++ data)⟩

def next (selector : SystemInfoSelector) (setSelector : UInt8) (data : List UInt8) :
    Info SetSystemInfoParameter :=
  if selector = .setInProgress ∨ ¬(1 ≤ setSelector ∧ setSelector ≤ 16) then throw .invalidSelector
  else if data = [] ∨ 16 < data.length then throw (.length 16 data.length)
  else pure ⟨selector, resize 17 (setSelector :: data)⟩

end SetSystemInfoParameter

/-- `core::str::from_utf8(bytes).is_ok()` -/
def isUtf8 (bytes : List UInt8) : Bool := (ByteArray.mk bytes.toArray).validateUTF8

/-- A string of a parameter, in its declared encoding. -/
structure SystemInfoString where
  selector : SystemInfoSelector
  encoding : SystemInfoEncoding
  bytes : List UInt8
  isString : selector ≠ .setInProgress
  bounded : bytes.length ≤ 255
  utf8 : encoding = .utf8 → isUtf8 bytes
  unicode : encoding = .unicode → 2 ∣ bytes.length

namespace SystemInfoString

def new (selector : SystemInfoSelector) (encoding : SystemInfoEncoding) (bytes : List UInt8) :
    Info SystemInfoString :=
  if isString : selector = .setInProgress then throw .invalidSelector
  else if bounded : 255 < bytes.length then throw (.tooLong bytes.length)
  else if utf8 : encoding = .utf8 ∧ ¬isUtf8 bytes then throw .invalidEncoding
  else if unicode : encoding = .unicode ∧ ¬2 ∣ bytes.length then throw .invalidEncoding
  else pure {
    selector, encoding, bytes, isString
    bounded := Nat.not_lt.mp bounded
    utf8 := fun declared => not_not.mp fun invalid => utf8 ⟨declared, invalid⟩
    unicode := fun declared => not_not.mp fun odd => unicode ⟨declared, odd⟩ }

/-- How many bytes of the string the set of an index carries. -/
def needed (total set : Nat) : Info Nat :=
  if set = 0 then pure (min total 14)
  else do return min (← sub (← sub total 14) ((← sub set 1) * 16)) 16

/-- The loop of `assemble` over its blocks. -/
def gather (selector : SystemInfoSelector) (total : Nat) :
    Nat → List UInt8 → List SystemInfoStringBlock → Info (List UInt8)
  | _, bytes, [] => pure bytes
  | set, bytes, block :: blocks =>
    if block.selector ≠ selector ∨ block.setSelector ≠ UInt8.ofNat set then
      throw (.unexpectedSet (UInt8.ofNat set) block.setSelector)
    else do
      let needed ← needed total set
      if block.bytes.length < needed ∨ (if set = 0 then 14 else 16) < block.bytes.length ∨
          (0 < set ∧ (block.encoding.isSome ∨ block.totalLength.isSome)) then
        throw (.length needed block.bytes.length)
      else gather selector total (set + 1) (bytes ++ (← slice block.bytes 0 needed)) blocks

/-- Checked consecutive sets put together, the first of them zero. -/
def assemble : List SystemInfoStringBlock → Info SystemInfoString
  | [] => throw (.missingSet 0)
  | first :: rest =>
    if first.setSelector ≠ 0 then throw (.missingSet 0)
    else
      match first.encoding, first.totalLength with
      | none, _ => throw (.missingSet 0)
      | some _, none => throw (.missingSet 0)
      | some encoding, some total =>
        let required := 1 + divCeil (total.toNat - 14) 16
        if rest.length + 1 ≠ required then throw (.wrongSetCount required (rest.length + 1))
        else do
          let bytes ← gather first.selector total.toNat 0 [] (first :: rest)
          new first.selector encoding bytes

/-- `result.expect("validated string")` -/
def expect {α : Type} (result : Info α) : Info α :=
  match result.run with
  | some (.ok value) => pure value
  | _ => panicked

/-- A write for each set, the data areas padded with zeros. -/
def toWrites (value : SystemInfoString) : Info (List SetSystemInfoParameter) := do
  let length := value.bytes.length
  let first ← expect (SetSystemInfoParameter.first value.selector value.encoding
    (UInt8.ofNat length) (← slice value.bytes 0 (min length 14)))
  let later ← (chunks 16 (← slice value.bytes (min length 14) length)).zipIdx.mapM
    fun (chunk, set) => do
      expect (SetSystemInfoParameter.next value.selector (← addByte (UInt8.ofNat set) 1) chunk)
  return first :: later

end SystemInfoString
end IpmiRs.App.SystemInfo
