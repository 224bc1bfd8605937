import IpmiRs.App.Auth
import IpmiRs.IpmiConnection

/-! The choice of a cipher suite, `rmcp/cipher_policy.rs`: the records that a channel
advertises are read page by page, and the best suite among them is taken. -/
namespace IpmiRs.Rmcp
open Connection App.Auth Library Library.Stateful

inductive CipherSuiteListError where
  | incompleteRecord
  | unknownRecord (marker : UInt8)
  | mismatchedAlgorithms (suite : CipherSuite)
  | incompleteList
  deriving DecidableEq

/-- The loop of `select_best`, from a record on. -/
def selectLoop : List UInt8 → Bool → Bool → Except CipherSuiteListError (Option CipherSuite)
  | [], found3, found17 =>
    .ok (if found17 then some .id17 else if found3 then some .id3 else none)
  | marker :: rest, found3, found17 =>
    if marker = 0xC0 then
      match rest with
      | id :: authentication :: integrity :: confidentiality :: rest =>
        match CipherSuite.fromId id with
        | some suite =>
          if suite = .id3 ∨ suite = .id17 then
            let algorithms := [authentication &&& 0x3F, integrity &&& 0x3F, confidentiality &&& 0x3F]
            if algorithms ≠ suite.intoSuite then .error (.mismatchedAlgorithms suite)
            else selectLoop rest (found3 || suite == .id3) (found17 || suite == .id17)
          else selectLoop rest found3 found17
        | none => selectLoop rest found3 found17
      | _ => .error .incompleteRecord
    else if marker = 0xC1 then
      match rest with
      | _ :: _ :: _ :: _ :: _ :: _ :: _ :: rest => selectLoop rest found3 found17
      | _ => .error .incompleteRecord
    else .error (.unknownRecord marker)

/-- `select_best` -/
def selectBest (data : List UInt8) : Except CipherSuiteListError (Option CipherSuite) :=
  selectLoop data false false

/-! ### The records of a channel -/

/-- `GetChannelCipherSuites`, of a list index that has six bits. -/
structure GetChannelCipherSuites where
  channel : Channel
  listIndex : UInt8
  valid : listIndex ≤ 0x3F

inductive TooMuchData where
  | tooMuchData
  deriving DecidableEq

/-- The first byte names the channel; up to sixteen bytes of records follow. -/
def GetChannelCipherSuites.command (get : GetChannelCipherSuites) : IpmiCommand (List UInt8) TooMuchData where
  message := .newRequest .app 0x54 [get.channel.value, 0x00, 0x80 ||| get.listIndex]
  parse data := if data = [] ∨ 17 < data.length then .error .tooMuchData else .ok data.tail

/-- `ActivationError`, as far as the choice of a suite fails with it. -/
inductive ActivationError (ε : Type) where
  | getChannelCipherSuites (error : IpmiError ε TooMuchData)
  | invalidCipherSuiteList (error : CipherSuiteListError)
  | noSupportedCipherSuite
  deriving DecidableEq

section
variable {σ ε : Type} (con : IpmiConnection σ ε)

/-- The page with an index, of 64. -/
def cipherSuitePage (index : Nat) (within : index ≤ 63) : GetChannelCipherSuites where
  channel := .current
  listIndex := UInt8.ofNat index
  valid := by
    rw [UInt8.le_iff_toNat_le, UInt8.toNat_ofNat']
    exact (Nat.mod_le _ _).trans within

/-- The loop over the pages, from the one with an index on, with so many `left` after it. -/
def cipherSuitePages : (left index : Nat) → left + index = 63 → List UInt8 →
    Stateful σ (ActivationError ε) (List UInt8)
  | 0, index, place, records => do
    let block ← ExceptT.adapt .getChannelCipherSuites
      (con.sendRecv (cipherSuitePage index (by omega)).command)
    if block.length < 16 then return records ++ block
    else throw (.invalidCipherSuiteList .incompleteList)
  | left + 1, index, place, records => do
    let block ← ExceptT.adapt .getChannelCipherSuites
      (con.sendRecv (cipherSuitePage index (by omega)).command)
    if block.length < 16 then return records ++ block
    else cipherSuitePages left (index + 1) (by omega) (records ++ block)

/-- What `activate` makes of `CipherSuitePolicy::BestAvailable`. -/
def bestAvailable : Stateful σ (ActivationError ε) CipherSuite := do
  let records ← cipherSuitePages con 63 0 rfl []
  match selectBest records with
  | .error error => throw (.invalidCipherSuiteList error)
  | .ok none => throw .noSupportedCipherSuite
  | .ok (some suite) => return suite

end

end IpmiRs.Rmcp
