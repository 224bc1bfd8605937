import IpmiRs.Transport.SetLanParameters

/-! A LAN parameter that is written is read back as it was written. The bytes
of each type are taken apart again in lemmas of their own, and a request is
then what one of its parameters says. -/
namespace IpmiRs.Transport
open Connection Library Library.Bytes Library.Checked

theorem toNat_high (word : UInt16) : ((word >>> 8).toUInt8).toNat = word.toNat / 256 := by
  have small := word.toNat_lt
  rw [UInt16.toNat_toUInt8, UInt16.toNat_shiftRight]
  simp [Nat.shiftRight_eq_div_pow]
  omega

/-- A word is its low and its high byte. -/
theorem ofLe_word (word : UInt16) :
    UInt16.ofNat (ofLe [word.toUInt8, (word >>> 8).toUInt8]) = word := by
  have whole : ofLe [word.toUInt8, (word >>> 8).toUInt8] = word.toNat := by
    have small := word.toNat_lt
    rw [ofLe, ofLe, ofLe, toNat_high, UInt16.toNat_toUInt8]
    omega
  rw [whole, UInt16.ofNat_toNat]

namespace LanVlanId

theorem parse_bytes {vlan : LanVlanId} {bytes : Octets 2} (written : vlan.bytes = pure bytes) :
    parse bytes.1 = pure vlan := by
  obtain ⟨enabled, id⟩ := vlan
  unfold LanVlanId.bytes at written
  split at written
  · cases written
  · rename_i fine
    cases written
    have high : ∀ byte : UInt8, byte < 16 → ∀ flag : Bool,
        (((byte ||| if flag then 0x80 else 0) &&& 0x80 != 0) = flag) ∧
          (byte ||| if flag then 0x80 else 0) &&& 0x0F = byte := by
      apply forall_of_table
      decide +kernel
    have bound : id.toNat ≤ 4094 := by
      have := (not_or.mp fine).2
      rwa [UInt16.not_lt, UInt16.le_iff_toNat_le] at this
    have small : (id >>> 8).toUInt8 < 16 := by
      rw [UInt8.lt_iff_toNat_lt, toNat_high, show (16 : UInt8).toNat = 16 from rfl]
      omega
    obtain ⟨flag, low⟩ := high _ small enabled
    have inside : ¬((enabled = true ∧ ¬(1 ≤ id ∧ id ≤ 4094)) ∨ 4094 < id) := by
      rw [not_or] at fine ⊢
      refine ⟨fun ⟨on, out⟩ => out ⟨?_, UInt16.not_lt.mp fine.2⟩, fine.2⟩
      have some : id.toNat ≠ 0 := fun zero => fine.1 ⟨on, UInt16.toNat_inj.mp zero⟩
      rw [UInt16.le_iff_toNat_le, show (1 : UInt16).toNat = 1 from rfl]
      omega
    simp only [parse, checkLength_eq, List.length_cons, List.length_nil, pure_bind, index_zero,
      index_succ, flag, low, ofLe_word]
    rw [if_neg inside]
end LanVlanId

namespace LanBadPasswordThreshold

theorem parse_bytes (policy : LanBadPasswordThreshold) : parse policy.bytes.1 = pure policy := by
  obtain ⟨audit, threshold, reset, lockout⟩ := policy
  have word (w : UInt16) : UInt16.ofNat (ofLe (toLe 2 w.toNat)) = w := by
    rw [ofLe_toLe_of_lt w.toNat_lt, UInt16.ofNat_toNat]
  have flag : ∀ b : Bool, (bit b &&& 1 != 0) = b := by decide
  have first := word reset
  have second := word lockout
  simp only [toLe] at first second
  simp only [parse, bytes, toLe, List.cons_append, List.nil_append, checkLength_eq, List.length_cons,
    List.length_nil, Nat.reduceAdd, pure_bind, index_zero, index_succ, flag, first, second]
end LanBadPasswordThreshold

namespace LanAlertDestinationType
theorem parse_bytes {destination : LanAlertDestinationType} {bytes : Octets 4}
    (written : destination.bytes = pure bytes) : parse bytes.1 = pure destination := by
  obtain ⟨selector, acknowledged, kind, timeout, retries⟩ := destination
  unfold LanAlertDestinationType.bytes at written
  split at written
  · cases written
  · rename_i fine
    cases written
    simp only [not_or, UInt8.not_lt] at fine
    obtain ⟨set, known, few⟩ := fine
    have table : ∀ byte : UInt8, byte ≤ 7 → byte &&& 7 = byte ∧ ∀ flag : Bool,
        (((bit flag <<< 7 ||| byte) &&& 0x80 != 0) = flag) ∧ (bit flag <<< 7 ||| byte) &&& 7 = byte := by
      apply forall_of_table
      decide +kernel
    obtain ⟨flag, low⟩ := (table kind known).2 acknowledged
    simp only [parse, checkLength_eq, List.length_cons, List.length_nil, pure_bind, index_zero,
      index_succ, LanAlertDestinationType.kind, flag, low, (table retries few).1]
    exact if_neg (UInt8.not_lt.mpr set)
end LanAlertDestinationType


namespace LanAlertDestinationAddress

theorem parse_ipv4 {selector : UInt8} (set : selector ≤ 15) (backup : Bool) (address : Ipv4Address)
    (mac : MacAddress) :
    parse (bytes (.ipv4 selector backup address mac)) = pure (.ipv4 selector backup address mac) := by
  have flag : ∀ b : Bool, (bit b &&& 1 != 0) = b := by decide
  have long : (bytes (.ipv4 selector backup address mac)).length = 13 := by
    simp [bytes, address.2, mac.2]
  have first : (slice (bytes (.ipv4 selector backup address mac)) 3 7 : Lan _) = pure address.1 := by
    rw [slice_eq (by decide) (by omega)]
    simp [bytes, address.2]
  have second : (slice (bytes (.ipv4 selector backup address mac)) 7 13 : Lan _) = pure mac.1 := by
    rw [slice_eq (by decide) (by omega)]
    have start : bytes (.ipv4 selector backup address mac) =
        ([selector, 0, bit backup] ++ address.1) ++ mac.1 := rfl
    have seven : ([selector, 0, bit backup] ++ address.1).length = 7 := by simp [address.2]
    rw [List.take_of_length_le (by omega), start, ← seven, List.drop_left]
  unfold parse
  rw [if_neg (by omega)]
  have format : (index (bytes (.ipv4 selector backup address mac)) 1 : Lan UInt8) = pure 0 := rfl
  have whole : Octets.expect 13 (bytes (.ipv4 selector backup address mac)) = pure ⟨_, long⟩ :=
    dif_pos long
  have zero : (index (bytes (.ipv4 selector backup address mac)) 0 : Lan UInt8) = pure selector := rfl
  have two : (index (bytes (.ipv4 selector backup address mac)) 2 : Lan UInt8) = pure (bit backup) := rfl
  rw [format]
  simp only [pure_bind, UInt8.zero_and, ne_eq, not_true_eq_false, ↓reduceIte, checkLength_eq long,
    whole, zero, two, first, second, Octets.expect_eq, flag, UInt8.not_lt.mpr set]

theorem parse_other {data : List UInt8} (long : 2 ≤ data.length) (format : data[1]! &&& 0xF0 ≠ 0) :
    parse data = pure (.other data) := by
  unfold parse
  rw [if_neg (by omega), index_eq (by omega)]
  simp only [pure_bind]
  rw [if_pos format]
end LanAlertDestinationAddress

theorem Ipv6LanBlock.parse_wire {block : Ipv6LanBlock} (short : block.bytes.length ≤ 16) :
    Ipv6LanBlock.parse block.wire = pure block := by
  obtain ⟨set, number, bytes⟩ := block
  have rest : (slice (Ipv6LanBlock.wire ⟨set, number, bytes⟩) 2 (bytes.length + 2) : Lan _) = pure bytes := by
    rw [slice_eq (by omega) (by simp [wire])]
    simp [wire]
  have long : (Ipv6LanBlock.wire ⟨set, number, bytes⟩).length = bytes.length + 2 := by simp [wire]
  unfold Ipv6LanBlock.parse
  simp only at short
  rw [if_neg (by omega), long, rest]
  simp only [wire, List.cons_append, List.nil_append, index_zero, index_succ, pure_bind, new]
  rw [if_neg (by omega)]

/-- A label of twenty bits is what its three bytes spell. -/
theorem label_of_bytes {label : UInt32} (small : label ≤ 0x0FFFFF) :
    ((label >>> 16).toUInt8.toUInt32 <<< 16 ||| (label >>> 8).toUInt8.toUInt32 <<< 8 |||
      label.toUInt8.toUInt32) &&& 0x000FFFFF = label := by
  have bound : label.toNat < 2 ^ 20 := by
    have := UInt32.le_iff_toNat_le.mp small
    rw [show (0x0FFFFF : UInt32).toNat = 2 ^ 20 - 1 from rfl] at this
    omega
  apply UInt32.toNat_inj.mp
  apply Nat.eq_of_testBit_eq
  intro i
  simp only [UInt32.toNat_and, UInt32.toNat_or, UInt32.toNat_shiftLeft, UInt8.toNat_toUInt32,
    UInt32.toNat_toUInt8, UInt32.toNat_shiftRight, Nat.testBit_and, Nat.testBit_or,
    Nat.testBit_mod_two_pow, Nat.testBit_shiftLeft, Nat.testBit_shiftRight,
    show (0x000FFFFF : UInt32).toNat = 2 ^ 20 - 1 from rfl, Nat.testBit_two_pow_sub_one]
  simp only [show UInt32.toNat 16 % 32 = 16 from rfl, show UInt32.toNat 8 % 32 = 8 from rfl]
  -- each bit lies in exactly one of the three bytes
  by_cases low : i < 8
  · simp [low, show i < 32 by omega, show i < 20 by omega, show ¬16 ≤ i by omega,
      show ¬8 ≤ i by omega]
  by_cases middle : i < 16
  · simp [low, show i < 32 by omega, show i < 20 by omega, show ¬16 ≤ i by omega,
      show 8 ≤ i by omega, show i - 8 < 8 by omega]
  by_cases high : i < 20
  · simp [low, high, show i < 32 by omega, show 16 ≤ i by omega, show 8 ≤ i by omega,
      show ¬i - 8 < 8 by omega, show i - 16 < 8 by omega]
  have top : label.toNat.testBit i = false := by
    apply Nat.testBit_lt_two_pow
    exact Nat.lt_of_lt_of_le bound (Nat.pow_le_pow_right (by decide) (by omega))
  simp [high, top]
theorem Ipv6HeaderFlowLabel.parse_bytes {flow : Ipv6HeaderFlowLabel} (small : flow.label ≤ 0x0FFFFF) :
    fromSlice flow.bytes = pure flow ∧ (flow.label >>> 16).toUInt8 &&& 0xF0 = 0 := by
  constructor
  · have three : ¬flow.bytes.length < 3 := by simp [Ipv6HeaderFlowLabel.bytes]
    unfold fromSlice
    rw [if_neg three]
    simp only [Ipv6HeaderFlowLabel.bytes, index_zero, index_succ, pure_bind, label_of_bytes small]
  · have table : ∀ byte : UInt8, byte < 16 → byte &&& 0xF0 = 0 := by
      apply forall_of_table
      decide +kernel
    apply table
    rw [UInt8.lt_iff_toNat_lt, UInt32.toNat_toUInt8, UInt32.toNat_shiftRight]
    have bound := UInt32.le_iff_toNat_le.mp small
    rw [show (0x0FFFFF : UInt32).toNat = 1048575 from rfl] at bound
    simp only [show UInt32.toNat 16 % 32 = 16 from rfl, show (16 : UInt8).toNat = 16 from rfl,
      Nat.shiftRight_eq_div_pow]
    omega

theorem Ipv6StaticAddress.parse_bytes {entry : Ipv6StaticAddress} (short : entry.prefixLength ≤ 128)
    (known : entry.sourceType ≤ 0x0F) :
    fromSlice (LanConfigParameterRequest.staticAddressBytes entry entry.sourceType) = pure entry := by
  obtain ⟨selector, enabled, source, address, length, status⟩ := entry
  have table : ∀ byte : UInt8, byte ≤ 15 → ∀ flag : Bool,
      (((bit flag <<< 7 ||| byte) &&& 0x80 == 0x80) = flag) ∧ (bit flag <<< 7 ||| byte) &&& 0x0F = byte := by
    apply forall_of_table
    decide +kernel
  obtain ⟨flag, low⟩ := table source known enabled
  generalize made : LanConfigParameterRequest.staticAddressBytes
    ⟨selector, enabled, source, address, length, status⟩ source = data
  have shape : data = [selector, bit enabled <<< 7 ||| source] ++ address.1 ++ [length, status] := made.symm
  have long : data.length = 20 := by simp [shape, address.2]
  have inside : (slice data 2 18 : Lan _) = pure address.1 := by
    rw [slice_eq (by decide) (by omega), shape]
    simp [address.2]
  have at18 : (index data 18 : Lan UInt8) = pure length := by
    rw [index_eq (by omega), shape]
    simp [address.2]
  have at19 : (index data 19 : Lan UInt8) = pure status := by
    rw [index_eq (by omega), shape]
    simp [address.2]
  have at0 : (index data 0 : Lan UInt8) = pure selector := by
    rw [shape]
    rfl
  have at1 : (index data 1 : Lan UInt8) = pure (bit enabled <<< 7 ||| source) := by
    rw [shape]
    rfl
  simp only [fromSlice, checkLength_eq long, at0, at1, inside, at18, at19, pure_bind, Octets.fromSlice_eq,
    checkPrefix_eq short, flag, low]


/-- A response of the current revision is parsed as the value of its parameter. -/
theorem LanConfigParameterResponse.parse_eq {parameter : LanConfigParameter} {data : List UInt8}
    {value : LanConfigParameterData} (known : ∀ byte, parameter ≠ .other byte)
    (long : parameter.expectedLength = 0 ∨ data.length = parameter.expectedLength)
    (read : parameter.parseValue data = pure value) :
    parse ⟨0x11, data⟩ parameter = pure value := by
  unfold parse LanConfigParameter.parse
  split
  · exact absurd rfl (known _)
  · rw [if_neg (by simp)]
    split
    · exact absurd rfl (known _)
    · split
      · rename_i fixed
        rw [checkLength_eq (long.resolve_left fixed)]
        exact read
      · exact read

namespace LanConfigParameterRequest

/-- What a request says, as the value of its parameter when it is read back. -/
def readBack : LanConfigParameterRequest → Option LanConfigParameterData
  | .setInProgress value =>
    .setInProgress <$> [.complete, .inProgress, .commitWrite].find? (LanSetInProgress.byte · == value)
  | .setState state => some (.setInProgress state)
  | .authTypeEnables value => some (.authTypeEnables value)
  | .ipAddress address => some (.ipAddress address)
  | .ipAddressSource value =>
    .ipAddressSource <$> [.unspecified, .static, .dhcp, .biosOrSystemSoftware, .other].find?
      (IpAddressSource.toByte · == value)
  | .addressSource source => some (.ipAddressSource source)
  | .macAddress address => some (.macAddress address)
  | .subnetMask mask => some (.subnetMask mask)
  | .ipHeader header => some (.ipHeader header)
  | .primaryRmcpPort port => some (.primaryRmcpPort port)
  | .secondaryRmcpPort port => some (.secondaryRmcpPort port)
  | .bmcArpControl control => some (.bmcArpControl control)
  | .gratuitousArpInterval interval => some (.gratuitousArpInterval interval)
  | .defaultGatewayAddress address => some (.defaultGatewayAddress address)
  | .defaultGatewayMacAddress address => some (.defaultGatewayMacAddress address)
  | .backupGatewayAddress address => some (.backupGatewayAddress address)
  | .backupGatewayMacAddress address => some (.backupGatewayMacAddress address)
  | .snmpCommunity community => some (.snmpCommunity community)
  | .alertDestinationType kind => some (.alertDestinationType kind)
  | .alertDestinationAddress address => some (.alertDestinationAddress address)
  | .vlanId vlan => some (.vlanId vlan)
  | .vlanPriority priority => some (.vlanPriority priority)
  | .cipherSuitePrivilegeLevels levels => some (.cipherSuitePrivilegeLevels levels)
  | .badPasswordThreshold policy => some (.badPasswordThreshold policy)
  | .ipv6Ipv4AddressingEnables enables => some (.ipv6Ipv4AddressingEnables enables)
  | .ipv6HeaderStaticTrafficClass value => some (.ipv6HeaderStaticTrafficClass value)
  | .ipv6HeaderStaticHopLimit limit => some (.ipv6HeaderStaticHopLimit limit)
  | .ipv6HeaderFlowLabel flow => some (.ipv6HeaderFlowLabel flow)
  | .ipv6StaticAddress entry => some (.ipv6StaticAddresses entry)
  | .ipv6StaticDuid block => some (.ipv6StaticDuid block)
  | .ipv6DynamicDuid block => some (.ipv6DynamicDuid block)
  | .ipv6DhcpTiming block => some (.ipv6DhcpTiming block)
  | .ipv6RouterControl control => some (.ipv6RouterControl control)
  | .ipv6StaticRouter1Address address => some (.ipv6StaticRouter1Address address)
  | .ipv6StaticRouter1Mac address => some (.ipv6StaticRouter1Mac address)
  | .ipv6StaticRouter1PrefixLength length => some (.ipv6StaticRouter1PrefixLength length)
  | .ipv6StaticRouter1Prefix address => some (.ipv6StaticRouter1Prefix address)
  | .ipv6StaticRouter2Address address => some (.ipv6StaticRouter2Address address)
  | .ipv6StaticRouter2Mac address => some (.ipv6StaticRouter2Mac address)
  | .ipv6StaticRouter2PrefixLength length => some (.ipv6StaticRouter2PrefixLength length)
  | .ipv6StaticRouter2Prefix address => some (.ipv6StaticRouter2Prefix address)
  | .ipv6NeighborDiscoverySlaacTiming block => some (.ipv6NeighborDiscoverySlaacTiming block)
  | .raw _ => none

/-- The parameter of a request is read back as what the request says. -/
def ReadsBack (request : LanConfigParameterRequest) (bytes : List UInt8) : Prop :=
  ∃ parameter value, request.parameter = some parameter ∧ request.readBack = some value ∧
    LanConfigParameterResponse.parse ⟨0x11, bytes⟩ parameter = pure value

section
variable {request : LanConfigParameterRequest} {bytes : List UInt8} {parameter : LanConfigParameter}
  {value : LanConfigParameterData}

theorem reads_back_of (known : request.parameter = some parameter) (typed : request.readBack = some value)
    (long : parameter.expectedLength = 0 ∨ bytes.length = parameter.expectedLength)
    (read : parameter.parseValue bytes = pure value) : request.ReadsBack bytes := by
  refine ⟨parameter, value, known, typed, LanConfigParameterResponse.parse_eq ?_ long read⟩
  rintro byte rfl
  cases request <;> cases known

end

section
variable {request : LanConfigParameterRequest} {bytes : List UInt8}

theorem word_of_bytes (word : UInt16) : UInt16.ofNat (ofLe (toLe 2 word.toNat)) = word := by
  rw [ofLe_toLe_of_lt word.toNat_lt, UInt16.ofNat_toNat]

/-- Whatever a typed request writes is read back as the request. -/
theorem reads_back (typed : ∀ data, request ≠ .raw data) (written : request.tryToBytes = pure bytes) :
    request.ReadsBack bytes := by
  have table : ∀ byte : UInt8, (¬2 < byte → byte = 0 ∨ byte = 1 ∨ byte = 2) ∧
      (¬4 < byte → byte = 0 ∨ byte = 1 ∨ byte = 2 ∨ byte = 3 ∨ byte = 4) ∧
      (¬7 < byte → byte &&& 7 = byte) := by
    apply forall_of_table
    decide +kernel
  cases request with
  | setInProgress value =>
    obtain ⟨state, -, written⟩ := of_bind_eq_pure written
    obtain ⟨small, written⟩ := of_check_eq_pure written
    cases written
    obtain rfl | rfl | rfl := (table value).1 small <;> exact reads_back_of rfl rfl (.inr rfl) rfl
  | setState state =>
    cases written
    cases state <;> exact reads_back_of rfl rfl (.inr rfl) rfl
  | authTypeEnables octets =>
    cases written
    exact reads_back_of rfl rfl (.inr octets.2) (congrArg (_ <$> ·) (Octets.expect_eq octets))
  | ipAddress octets =>
    cases written
    exact reads_back_of rfl rfl (.inr octets.2) (congrArg (_ <$> ·) (Octets.fromSlice_eq octets))
  | ipAddressSource value =>
    obtain ⟨small, written⟩ := of_check_eq_pure written
    cases written
    obtain rfl | rfl | rfl | rfl | rfl := (table value).2.1 small <;>
      exact reads_back_of rfl rfl (.inr rfl) rfl
  | addressSource value =>
    cases value with
    | reserved byte => cases written
    | _ =>
      cases written
      exact reads_back_of rfl rfl (.inr rfl) rfl
  | macAddress octets =>
    cases written
    exact reads_back_of rfl rfl (.inr octets.2) (congrArg (_ <$> ·) (Octets.fromSlice_eq octets))
  | subnetMask octets =>
    cases written
    exact reads_back_of rfl rfl (.inr octets.2) (congrArg (_ <$> ·) (Octets.fromSlice_eq octets))
  | ipHeader octets =>
    cases written
    exact reads_back_of rfl rfl (.inr octets.2) (congrArg (_ <$> ·) (Octets.expect_eq octets))
  | primaryRmcpPort port =>
    cases written
    apply reads_back_of rfl rfl (.inr rfl)
    exact congrArg (fun word => (pure (.primaryRmcpPort word) : Lan LanConfigParameterData))
      (word_of_bytes port)
  | secondaryRmcpPort port =>
    cases written
    apply reads_back_of rfl rfl (.inr rfl)
    exact congrArg (fun word => (pure (.secondaryRmcpPort word) : Lan LanConfigParameterData))
      (word_of_bytes port)
  | bmcArpControl control =>
    cases written
    obtain ⟨_ | _, _ | _⟩ := control <;> exact reads_back_of rfl rfl (.inr rfl) rfl
  | gratuitousArpInterval byte =>
    cases written
    exact reads_back_of rfl rfl (.inr rfl) rfl
  | defaultGatewayAddress octets =>
    cases written
    exact reads_back_of rfl rfl (.inr octets.2) (congrArg (_ <$> ·) (Octets.fromSlice_eq octets))
  | defaultGatewayMacAddress octets =>
    cases written
    exact reads_back_of rfl rfl (.inr octets.2) (congrArg (_ <$> ·) (Octets.fromSlice_eq octets))
  | backupGatewayAddress octets =>
    cases written
    exact reads_back_of rfl rfl (.inr octets.2) (congrArg (_ <$> ·) (Octets.fromSlice_eq octets))
  | backupGatewayMacAddress octets =>
    cases written
    exact reads_back_of rfl rfl (.inr octets.2) (congrArg (_ <$> ·) (Octets.fromSlice_eq octets))
  | snmpCommunity octets =>
    cases written
    exact reads_back_of rfl rfl (.inr octets.2) (congrArg (_ <$> ·) (Octets.expect_eq octets))
  | alertDestinationType value =>
    obtain ⟨octets, encoded, written⟩ := of_bind_eq_pure written
    cases written
    exact reads_back_of rfl rfl (.inr octets.2)
      (congrArg (_ <$> ·) (LanAlertDestinationType.parse_bytes encoded))
  | alertDestinationAddress address =>
    cases address with
    | ipv4 selector backup address mac =>
      obtain ⟨small, written⟩ := of_check_eq_pure written
      cases written
      exact reads_back_of rfl rfl (.inl rfl)
        (congrArg (_ <$> ·) (LanAlertDestinationAddress.parse_ipv4 (UInt8.not_lt.mp small) _ _ _))
    | other data =>
      obtain ⟨long, written⟩ := of_check_eq_pure written
      rw [index_eq (by omega), pure_bind] at written
      obtain ⟨format, written⟩ := of_check_eq_pure written
      cases written
      exact reads_back_of rfl rfl (.inl rfl)
        (congrArg (_ <$> ·) (LanAlertDestinationAddress.parse_other (by omega) format))
  | vlanId value =>
    obtain ⟨octets, encoded, written⟩ := of_bind_eq_pure written
    cases written
    exact reads_back_of rfl rfl (.inr octets.2) (congrArg (_ <$> ·) (LanVlanId.parse_bytes encoded))
  | vlanPriority priority =>
    obtain ⟨small, written⟩ := of_check_eq_pure written
    cases written
    apply reads_back_of rfl rfl (.inr rfl)
    exact congrArg (fun byte => (pure (.vlanPriority byte) : Lan LanConfigParameterData))
      ((table priority).2.2 small)
  | cipherSuitePrivilegeLevels octets =>
    cases written
    exact reads_back_of rfl rfl (.inr octets.2) (congrArg (_ <$> ·) (Octets.expect_eq octets))
  | badPasswordThreshold policy =>
    cases written
    exact reads_back_of rfl rfl (.inr policy.bytes.2)
      (congrArg (_ <$> ·) (LanBadPasswordThreshold.parse_bytes policy))
  | ipv6Ipv4AddressingEnables value =>
    cases value with
    | reserved byte => cases written
    | _ =>
      cases written
      exact reads_back_of rfl rfl (.inr rfl) rfl
  | ipv6HeaderStaticTrafficClass byte =>
    cases written
    exact reads_back_of rfl rfl (.inr rfl) rfl
  | ipv6HeaderStaticHopLimit byte =>
    cases written
    exact reads_back_of rfl rfl (.inr rfl) rfl
  | ipv6HeaderFlowLabel flow =>
    obtain ⟨small, written⟩ := of_check_eq_pure written
    cases written
    obtain ⟨whole, high⟩ := Ipv6HeaderFlowLabel.parse_bytes (UInt32.not_lt.mp small)
    apply reads_back_of rfl rfl (.inr rfl)
    unfold LanConfigParameter.parseValue
    rw [whole, pure_bind]
    exact if_neg (not_not_intro high)
  | ipv6StaticAddress entry =>
    obtain ⟨_, checked, written⟩ := of_bind_eq_pure written
    obtain ⟨fine, written⟩ := of_check_eq_pure written
    cases written
    rw [not_or, UInt8.not_lt] at fine
    have short : entry.prefixLength ≤ 128 := by
      by_contra long
      rw [checkPrefix, if_neg long] at checked
      cases checked
    have long : (staticAddressBytes entry entry.sourceType).length = 20 := by
      simp [staticAddressBytes, entry.address.2]
    exact reads_back_of rfl rfl (.inr long)
      (congrArg (_ <$> ·) (Ipv6StaticAddress.parse_bytes short fine.1))
  | ipv6StaticDuid block =>
    obtain ⟨_, sized, written⟩ := of_bind_eq_pure written
    obtain ⟨-, written⟩ := of_check_eq_pure written
    cases written
    exact reads_back_of rfl rfl (.inl rfl)
      (congrArg (_ <$> ·) (Ipv6LanBlock.parse_wire (Nat.not_lt.mp (of_check_eq_pure sized).1)))
  | ipv6DynamicDuid block =>
    obtain ⟨_, sized, written⟩ := of_bind_eq_pure written
    obtain ⟨-, written⟩ := of_check_eq_pure written
    cases written
    exact reads_back_of rfl rfl (.inl rfl)
      (congrArg (_ <$> ·) (Ipv6LanBlock.parse_wire (Nat.not_lt.mp (of_check_eq_pure sized).1)))
  | ipv6DhcpTiming block =>
    obtain ⟨_, sized, written⟩ := of_bind_eq_pure written
    obtain ⟨-, written⟩ := of_check_eq_pure written
    cases written
    exact reads_back_of rfl rfl (.inl rfl)
      (congrArg (_ <$> ·) (Ipv6LanBlock.parse_wire (Nat.not_lt.mp (of_check_eq_pure sized).1)))
  | ipv6RouterControl control =>
    cases written
    obtain ⟨_ | _, _ | _⟩ := control <;> exact reads_back_of rfl rfl (.inr rfl) rfl
  | ipv6StaticRouter1Address octets =>
    cases written
    exact reads_back_of rfl rfl (.inr octets.2) (congrArg (_ <$> ·) (Octets.fromSlice_eq octets))
  | ipv6StaticRouter1Mac octets =>
    cases written
    exact reads_back_of rfl rfl (.inr octets.2) (congrArg (_ <$> ·) (Octets.fromSlice_eq octets))
  | ipv6StaticRouter1PrefixLength length =>
    obtain ⟨_, checked, written⟩ := of_bind_eq_pure written
    cases written
    exact reads_back_of rfl rfl (.inr rfl) (congrArg (fun step : Lan Unit =>
      (do let _ ← step; pure (.ipv6StaticRouter1PrefixLength length) : Lan LanConfigParameterData)) checked)
  | ipv6StaticRouter1Prefix octets =>
    cases written
    exact reads_back_of rfl rfl (.inr octets.2) (congrArg (_ <$> ·) (Octets.fromSlice_eq octets))
  | ipv6StaticRouter2Address octets =>
    cases written
    exact reads_back_of rfl rfl (.inr octets.2) (congrArg (_ <$> ·) (Octets.fromSlice_eq octets))
  | ipv6StaticRouter2Mac octets =>
    cases written
    exact reads_back_of rfl rfl (.inr octets.2) (congrArg (_ <$> ·) (Octets.fromSlice_eq octets))
  | ipv6StaticRouter2PrefixLength length =>
    obtain ⟨_, checked, written⟩ := of_bind_eq_pure written
    cases written
    exact reads_back_of rfl rfl (.inr rfl) (congrArg (fun step : Lan Unit =>
      (do let _ ← step; pure (.ipv6StaticRouter2PrefixLength length) : Lan LanConfigParameterData)) checked)
  | ipv6StaticRouter2Prefix octets =>
    cases written
    exact reads_back_of rfl rfl (.inr octets.2) (congrArg (_ <$> ·) (Octets.fromSlice_eq octets))
  | ipv6NeighborDiscoverySlaacTiming block =>
    obtain ⟨_, sized, written⟩ := of_bind_eq_pure written
    obtain ⟨-, written⟩ := of_check_eq_pure written
    cases written
    exact reads_back_of rfl rfl (.inl rfl)
      (congrArg (_ <$> ·) (Ipv6LanBlock.parse_wire (Nat.not_lt.mp (of_check_eq_pure sized).1)))
  | raw data => exact absurd rfl (typed data)

theorem toBytes_eq (written : request.tryToBytes = pure bytes) : request.toBytes = some bytes := by
  unfold toBytes
  rw [written]
  rfl

end

/-- The checked encoder returns or fails on every request. -/
theorem tryToBytes_yields (request : LanConfigParameterRequest) :
    Yields (fun _ => True) request.tryToBytes := by
  have new (block : Ipv6LanBlock) :
      Yields (fun _ => True) (Ipv6LanBlock.new block.setSelector block.blockSelector block.bytes) :=
    yields_check fun _ => trivial
  cases request with
  | setInProgress value =>
    refine Yields.bind (P := fun _ => True) ?_ fun _ _ => yields_check fun _ => trivial
    unfold LanSetInProgress.parse
    split <;> trivial
  | ipAddressSource | vlanPriority | ipv6HeaderFlowLabel => exact yields_check fun _ => trivial
  | addressSource value | ipv6Ipv4AddressingEnables value => cases value <;> trivial
  | alertDestinationType | vlanId =>
    exact Yields.bind (P := fun _ => True) (yields_check fun _ => trivial) fun _ _ => trivial
  | alertDestinationAddress address =>
    cases address with
    | ipv4 => exact yields_check fun _ => trivial
    | other data =>
      refine yields_check fun long => ?_
      exact Yields.bind (yields_index (by omega)) fun _ _ => yields_check fun _ => trivial
  | ipv6StaticAddress entry =>
    refine Yields.bind (P := fun _ => True) ?_ fun _ _ => yields_check fun _ => trivial
    unfold checkPrefix
    split <;> trivial
  | ipv6StaticDuid block | ipv6DynamicDuid block | ipv6DhcpTiming block
  | ipv6NeighborDiscoverySlaacTiming block =>
    exact Yields.bind (new block) fun _ _ => yields_check fun _ => trivial
  | ipv6StaticRouter1PrefixLength | ipv6StaticRouter2PrefixLength =>
    refine Yields.bind (P := fun _ => True) ?_ fun _ _ => trivial
    unfold checkPrefix
    split <;> trivial
  | _ => trivial

/-- A request that is refused has bytes to send all the same. -/
theorem unchecked_isSome {request : LanConfigParameterRequest} {error : LanConfigError}
    (refused : request.tryToBytes = throw error) : request.unchecked.isSome := by
  cases request <;> first | rfl | cases refused

/-- Reading is the inverse of writing: the bytes of a typed request are parsed
as its value, and both encoders agree on them. Neither has a panic or a branch
that is not meant to be reached on its way, whatever the request. -/
theorem reads_what_it_writes (request : LanConfigParameterRequest) :
    (∀ bytes, (∀ data, request ≠ .raw data) → request.tryToBytes = pure bytes →
      request.ReadsBack bytes ∧ request.toBytes = some bytes) ∧
    request.tryToBytes ≠ panicked ∧ request.toBytes.isSome := by
  obtain ⟨outcome, ran⟩ := (tryToBytes_yields request).returns
  refine ⟨fun bytes typed written => ⟨reads_back typed written, toBytes_eq written⟩, ?_, ?_⟩
  · rw [ran]
    exact Option.some_ne_none _
  · cases outcome with
    | ok bytes => exact (toBytes_eq ran) ▸ rfl
    | error error =>
      unfold toBytes
      rw [ran]
      exact unchecked_isSome ran

theorem reads_what_it_writes_vlan :
    (vlanId ⟨true, 5⟩).ReadsBack [5, 0x80] ∧ (vlanId ⟨true, 5⟩).toBytes = some [5, 0x80] :=
  (reads_what_it_writes (vlanId ⟨true, 5⟩)).1 [5, 0x80] nofun (by decide)

end LanConfigParameterRequest

end IpmiRs.Transport
