import IpmiRs.Hpm.Commands
import IpmiRs.Library.Checksum

/-! `Package::parse` of `hpm/package.rs`: an upgrade image is checked whole
before anything is written. MD5 is a parameter. -/
namespace IpmiRs.Hpm
open Library.Bytes Library.Checksum

def HEADER_SIZE : Nat := 34
def IMAGE_HEADER_SIZE : Nat := 31
def SIGNATURE_SIZE : Nat := 16
def MAX_IMAGE_SIZE : Nat := 64 * 1024 * 1024
def MAX_ACTIONS : Nat := 256

inductive PackageError where
  | bounds
  | limit
  | format
  | checksum
  | integrity
  | components
  | action (value : UInt8)
  | missingImage
  deriving DecidableEq

/-- Six-byte firmware version: major, minor and four auxiliary bytes. -/
abbrev FirmwareVersion := Vector UInt8 6

/-- The array of `size` bytes at an offset. -/
def fixed (size : Nat) (bytes : List UInt8) (start : Nat) : Vector UInt8 size :=
  Vector.ofFn fun i => bytes[start + i]!

structure PackageHeader where
  deviceId : UInt8
  manufacturer : Vector UInt8 3
  product : UInt16
  capabilities : UInt8
  components : ComponentMask
  selfTestTimeout : UInt8
  rollbackTimeout : UInt8
  inaccessibleTimeout : UInt8
  earliestRevision : Vector UInt8 2
  firmwareRevision : FirmwareVersion
  deriving DecidableEq

inductive PackageAction where
  | backup (mask : ComponentMask)
  | prepare (mask : ComponentMask)
  | upload (component : ComponentId) (version : FirmwareVersion) (description : Vector UInt8 21)
      (data : List UInt8)
  deriving DecidableEq

/-- The image an action uploads, if it uploads one. -/
def PackageAction.image : PackageAction → List UInt8
  | .upload _ _ _ data => data
  | _ => []

structure Package where
  header : PackageHeader
  actions : List PackageAction
  deriving DecidableEq

def countOnes (bits : UInt8) : Nat := (List.range 8).countP fun i => bits.toNat.testBit i

def trailingZeros (bits : UInt8) : Nat := (List.range 8).findIdx fun i => bits.toNat.testBit i

/-- A mask of one component names it. -/
theorem trailingZeros_lt {bits : UInt8} (single : countOnes bits = 1) : trailingZeros bits < 8 := by
  have held : 0 < countOnes bits := by omega
  obtain ⟨i, member, set⟩ := List.countP_pos_iff.mp held
  exact List.length_range (n := 8) ▸ List.findIdx_lt_length_of_exists ⟨i, member, set⟩

/-- The component of a mask of one. -/
def ComponentId.ofSingle (bits : UInt8) (single : countOnes bits = 1) : ComponentId :=
  ⟨UInt8.ofNat (trailingZeros bits), by
    have small := trailingZeros_lt single
    rw [UInt8.lt_iff_toNat_lt, UInt8.toNat_ofNat', Nat.mod_eq_of_lt (by omega)]
    exact small⟩

/-- The bytes of a range. -/
def slice (bytes : List UInt8) (start stop : Nat) : List UInt8 :=
  (bytes.drop start).take (stop - start)

/-- The upload record at `pos`, whose first three bytes were read. -/
def PackageAction.parseUpload (bytes : List UInt8) (contentEnd pos : Nat) (bits : UInt8)
    (shortChecksum : Bool) : Except PackageError (PackageAction × Nat) :=
  if single : countOnes bits = 1 then
    let headerEnd := pos + (3 + IMAGE_HEADER_SIZE)
    if contentEnd < headerEnd then .error .bounds
    else if !shortChecksum && total (slice bytes pos headerEnd) != 0 then .error .checksum
    else
      let imageHeader := slice bytes (pos + 3) headerEnd
      let imageLen := ofLe (slice imageHeader 27 31)
      if imageLen = 0 then .error .bounds
      else if contentEnd < headerEnd + imageLen then .error .bounds
      else
        .ok (.upload (.ofSingle bits single) (fixed 6 imageHeader 0) (fixed 21 imageHeader 6)
          (slice bytes headerEnd (headerEnd + imageLen)), headerEnd + imageLen)
  else .error .components

/-- The record at `pos`: its action, the components it has an image for, and
where the next record starts. -/
def PackageAction.parse (bytes : List UInt8) (contentEnd : Nat) (components : ComponentMask)
    (pos : Nat) : Except PackageError (PackageAction × UInt8 × Nat) :=
  if contentEnd - pos < 3 then .error .bounds
  else
    let record := slice bytes pos (pos + 3)
    let action := record[0]!
    let bits := record[1]!
    match ComponentMask.new bits with
    | none => .error .components
    | some mask =>
      if bits &&& ~~~components.bits ≠ 0 then .error .components
      else
        let shortChecksum := total record == 0
        match action.toNat with
        | 0 => if shortChecksum then .ok (.backup mask, 0, pos + 3) else .error .checksum
        | 1 => if shortChecksum then .ok (.prepare mask, 0, pos + 3) else .error .checksum
        | 2 => (parseUpload bytes contentEnd pos bits shortChecksum).map fun (action, next) =>
            (action, bits, next)
        | _ => .error (.action action)

/-- The records from `pos` on, after those already read; `left` more are
allowed. -/
def Package.parseActions (bytes : List UInt8) (contentEnd : Nat) (components : ComponentMask) :
    Nat → Nat → List PackageAction → UInt8 → Except PackageError (List PackageAction × UInt8)
  | left, pos, actions, uploaded =>
    if contentEnd ≤ pos then .ok (actions, uploaded)
    else
      match left with
      | 0 => .error .limit
      | left + 1 =>
        match PackageAction.parse bytes contentEnd components pos with
        | .error error => .error error
        | .ok (action, bits, next) =>
          parseActions bytes contentEnd components left next (actions ++ [action]) (uploaded ||| bits)

def PackageHeader.ofBytes (bytes : List UInt8) (components : ComponentMask) : PackageHeader where
  deviceId := bytes[9]!
  manufacturer := fixed 3 bytes 10
  product := UInt16.ofNat (ofLe (slice bytes 13 15))
  capabilities := bytes[19]!
  components
  selfTestTimeout := bytes[21]!
  rollbackTimeout := bytes[22]!
  inaccessibleTimeout := bytes[23]!
  earliestRevision := fixed 2 bytes 24
  firmwareRevision := fixed 6 bytes 26

/-- The signature `PICMGFWU`. -/
def PICMGFWU : List UInt8 := [0x50, 0x49, 0x43, 0x4D, 0x47, 0x46, 0x57, 0x55]

def Package.parse (md5 : List UInt8 → List UInt8) (bytes : List UInt8) :
    Except PackageError Package :=
  if MAX_IMAGE_SIZE < bytes.length then .error .limit
  else if bytes.length < HEADER_SIZE + 1 + SIGNATURE_SIZE then .error .bounds
  else
    let contentEnd := bytes.length - SIGNATURE_SIZE
    if md5 (bytes.take contentEnd) ≠ bytes.drop contentEnd then .error .integrity
    else if bytes.take 8 ≠ PICMGFWU ∨ bytes[8]! ≠ 0 ∨ bytes[19]! &&& 0x0F ≠ 0 then .error .format
    else
      let offset := HEADER_SIZE + ofLe [bytes[32]!, bytes[33]!] + 1
      if contentEnd < offset then .error .bounds
      else if total (bytes.take offset) ≠ 0 then .error .checksum
      else
        match ComponentMask.new bytes[20]! with
        | none => .error .components
        | some components =>
          match parseActions bytes contentEnd components MAX_ACTIONS offset [] 0 with
          | .error error => .error error
          | .ok (actions, uploaded) =>
            if uploaded ≠ components.bits then .error .missingImage
            else .ok ⟨.ofBytes bytes components, actions⟩

theorem length_slice_le (bytes : List UInt8) (start stop : Nat) :
    (slice bytes start stop).length ≤ bytes.length := by
  simp only [slice, List.length_take, List.length_drop]
  omega

theorem PackageAction.parseUpload_image_le {bytes : List UInt8} {contentEnd pos next : Nat}
    {bits : UInt8} {shortChecksum : Bool} {action : PackageAction}
    (parsed : parseUpload bytes contentEnd pos bits shortChecksum = .ok (action, next)) :
    action.image.length ≤ bytes.length := by
  unfold parseUpload at parsed
  split at parsed
  · simp only [] at parsed
    repeat' split at parsed
    all_goals cases parsed
    exact length_slice_le _ _ _
  · cases parsed

/-- No image is longer than the file it was read from. -/
theorem PackageAction.image_le {bytes : List UInt8} {contentEnd pos next : Nat}
    {components : ComponentMask} {action : PackageAction} {bits : UInt8}
    (parsed : parse bytes contentEnd components pos = .ok (action, bits, next)) :
    action.image.length ≤ bytes.length := by
  unfold parse at parsed
  simp only [] at parsed
  repeat' split at parsed
  case h_3 =>
    cases read : parseUpload bytes contentEnd pos (slice bytes pos (pos + 3))[1]!
      (total (slice bytes pos (pos + 3)) == 0) with
    | error error => rw [read] at parsed; cases parsed
    | ok result =>
      rw [read] at parsed
      cases parsed
      exact parseUpload_image_le read
  all_goals cases parsed
  all_goals exact Nat.zero_le _

theorem Package.parseActions_image_le {bytes : List UInt8} {contentEnd : Nat}
    {components : ComponentMask} {left pos : Nat} {actions found : List PackageAction}
    {uploaded covered : UInt8}
    (parsed : parseActions bytes contentEnd components left pos actions uploaded =
      .ok (found, covered))
    (bounded : ∀ action ∈ actions, action.image.length ≤ bytes.length) :
    ∀ action ∈ found, action.image.length ≤ bytes.length := by
  induction left generalizing pos actions uploaded with
  | zero =>
    unfold parseActions at parsed
    split at parsed
    · cases parsed
      exact bounded
    · cases parsed
  | succ left ih =>
    unfold parseActions at parsed
    split at parsed
    · cases parsed
      exact bounded
    · simp only [] at parsed
      split at parsed
      · cases parsed
      · rename_i action bits next read
        apply ih parsed
        intro one member
        rcases List.mem_append.mp member with held | last
        · exact bounded one held
        · rw [List.mem_singleton.mp last]
          exact PackageAction.image_le read

/-- The images of a parsed package are no longer than a package may be. -/
theorem Package.parse_image_le {md5 : List UInt8 → List UInt8} {bytes : List UInt8}
    {package : Package} (parsed : parse md5 bytes = .ok package) :
    ∀ action ∈ package.actions, action.image.length ≤ MAX_IMAGE_SIZE := by
  unfold parse at parsed
  split at parsed
  · cases parsed
  · rename_i fits
    simp only [] at parsed
    repeat' split at parsed
    all_goals cases parsed
    rename_i read _
    intro action member
    have bounded := parseActions_image_le read (by simp) action member
    omega

end IpmiRs.Hpm
