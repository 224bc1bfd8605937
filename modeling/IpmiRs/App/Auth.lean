import Mathlib.Data.Fintype.Basic

/-! Authentication vocabulary shared by the IPMI 1.5 and RMCP+ sessions:
algorithm numbers, cipher suites, privilege levels and authentication types,
as `ipmi-rs-core/src/app/auth` declares them. -/
namespace IpmiRs.App.Auth

inductive AuthType where
  | none
  | md2
  | md5
  | key
  deriving DecidableEq, Repr

def AuthType.toByte : AuthType → UInt8
  | .none => 0x00
  | .md2 => 0x01
  | .md5 => 0x02
  | .key => 0x04

inductive PrivilegeLevel where
  | callback
  | user
  | operator
  | administrator
  | oemProprietary
  deriving DecidableEq, Repr

/-- `PrivilegeLevel::try_from`: only the low nibble is read. -/
def PrivilegeLevel.ofByte (value : UInt8) : Option PrivilegeLevel :=
  match (value &&& 0x0F).toNat with
  | 1 => some .callback
  | 2 => some .user
  | 3 => some .operator
  | 4 => some .administrator
  | 5 => some .oemProprietary
  | _ => none

def PrivilegeLevel.toByte : PrivilegeLevel → UInt8
  | .callback => 1
  | .user => 2
  | .operator => 3
  | .administrator => 4
  | .oemProprietary => 5

inductive AuthenticationAlgorithm where
  | rakpNone
  | rakpHmacSha1
  | rakpHmacMd5
  | rakpHmacSha256
  deriving DecidableEq, Repr

def AuthenticationAlgorithm.toByte : AuthenticationAlgorithm → UInt8
  | .rakpNone => 0x00
  | .rakpHmacSha1 => 0x01
  | .rakpHmacMd5 => 0x02
  | .rakpHmacSha256 => 0x03

def AuthenticationAlgorithm.ofByte (value : UInt8) : Option AuthenticationAlgorithm :=
  match value.toNat with
  | 0x00 => some .rakpNone
  | 0x01 => some .rakpHmacSha1
  | 0x02 => some .rakpHmacMd5
  | 0x03 => some .rakpHmacSha256
  | _ => none

inductive IntegrityAlgorithm where
  | none
  | hmacSha1_96
  | hmacMd5_128
  | md5_128
  | hmacSha256_128
  deriving DecidableEq, Repr

def IntegrityAlgorithm.toByte : IntegrityAlgorithm → UInt8
  | .none => 0x00
  | .hmacSha1_96 => 0x01
  | .hmacMd5_128 => 0x02
  | .md5_128 => 0x03
  | .hmacSha256_128 => 0x04

def IntegrityAlgorithm.ofByte (value : UInt8) : Option IntegrityAlgorithm :=
  match value.toNat with
  | 0x00 => some .none
  | 0x01 => some .hmacSha1_96
  | 0x02 => some .hmacMd5_128
  | 0x03 => some .md5_128
  | 0x04 => some .hmacSha256_128
  | _ => Option.none

inductive ConfidentialityAlgorithm where
  | none
  | aesCbc128
  | xrc4_128
  | xrc4_40
  deriving DecidableEq, Repr

def ConfidentialityAlgorithm.toByte : ConfidentialityAlgorithm → UInt8
  | .none => 0x00
  | .aesCbc128 => 0x01
  | .xrc4_128 => 0x02
  | .xrc4_40 => 0x03

def ConfidentialityAlgorithm.ofByte (value : UInt8) : Option ConfidentialityAlgorithm :=
  match value.toNat with
  | 0x00 => some .none
  | 0x01 => some .aesCbc128
  | 0x02 => some .xrc4_128
  | 0x03 => some .xrc4_40
  | _ => Option.none

theorem AuthenticationAlgorithm.ofByte_toByte (algorithm : AuthenticationAlgorithm) :
    ofByte algorithm.toByte = some algorithm := by
  cases algorithm <;> rfl

theorem IntegrityAlgorithm.ofByte_toByte (algorithm : IntegrityAlgorithm) :
    ofByte algorithm.toByte = some algorithm := by
  cases algorithm <;> rfl

theorem ConfidentialityAlgorithm.ofByte_toByte (algorithm : ConfidentialityAlgorithm) :
    ofByte algorithm.toByte = some algorithm := by
  cases algorithm <;> rfl

/-- `CipherSuite`: the standard suites 0 to 19. -/
inductive CipherSuite where
  | id0 | id1 | id2 | id3 | id4 | id5 | id6 | id7 | id8 | id9
  | id10 | id11 | id12 | id13 | id14 | id15 | id16 | id17 | id18 | id19
  deriving DecidableEq, Repr

namespace CipherSuite

def fromId (value : UInt8) : Option CipherSuite :=
  match value.toNat with
  | 0 => some id0
  | 1 => some id1
  | 2 => some id2
  | 3 => some id3
  | 4 => some id4
  | 5 => some id5
  | 6 => some id6
  | 7 => some id7
  | 8 => some id8
  | 9 => some id9
  | 10 => some id10
  | 11 => some id11
  | 12 => some id12
  | 13 => some id13
  | 14 => some id14
  | 15 => some id15
  | 16 => some id16
  | 17 => some id17
  | 18 => some id18
  | 19 => some id19
  | _ => none

def authentication : CipherSuite → AuthenticationAlgorithm
  | id0 => .rakpNone
  | id1 | id2 | id3 | id4 | id5 => .rakpHmacSha1
  | id6 | id7 | id8 | id9 | id10 | id11 | id12 | id13 | id14 => .rakpHmacMd5
  | id15 | id16 | id17 | id18 | id19 => .rakpHmacSha256

def integrity : CipherSuite → IntegrityAlgorithm
  | id0 | id1 | id6 | id15 => .none
  | id2 | id3 | id4 | id5 => .hmacSha1_96
  | id7 | id8 | id9 | id10 => .hmacMd5_128
  | id11 | id12 | id13 | id14 => .md5_128
  | id16 | id17 | id18 | id19 => .hmacSha256_128

def confidentiality : CipherSuite → ConfidentialityAlgorithm
  | id0 | id1 | id2 | id6 | id7 | id11 | id15 | id16 => .none
  | id3 | id8 | id12 | id17 => .aesCbc128
  | id4 | id9 | id13 | id18 => .xrc4_128
  | id5 | id10 | id14 | id19 => .xrc4_40

/-- `CipherSuite::into_suite`: the suite's three algorithm numbers. -/
def intoSuite (suite : CipherSuite) : List UInt8 :=
  [suite.authentication.toByte, suite.integrity.toByte, suite.confidentiality.toByte]

end CipherSuite

end IpmiRs.App.Auth
