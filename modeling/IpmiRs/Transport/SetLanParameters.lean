import IpmiRs.Transport.LanParameters

/-! Writing LAN configuration parameters,
`transport/set_lan_configuration_parameters.rs`: what is written is what is
read back. -/
namespace IpmiRs.Transport
open Connection Library Library.Bytes Library.Checked

inductive LanConfigParameterRequest where
  | setInProgress (value : UInt8)
  | setState (state : LanSetInProgress)
  | authTypeEnables (value : Octets 5)
  | ipAddress (address : Ipv4Address)
  | ipAddressSource (value : UInt8)
  | addressSource (source : IpAddressSource)
  | macAddress (address : MacAddress)
  | subnetMask (mask : Ipv4Address)
  | ipHeader (header : LanIpv4Header)
  | primaryRmcpPort (port : UInt16)
  | secondaryRmcpPort (port : UInt16)
  | bmcArpControl (control : LanArpControl)
  | gratuitousArpInterval (interval : UInt8)
  | defaultGatewayAddress (address : Ipv4Address)
  | defaultGatewayMacAddress (address : MacAddress)
  | backupGatewayAddress (address : Ipv4Address)
  | backupGatewayMacAddress (address : MacAddress)
  | snmpCommunity (community : Octets 18)
  | alertDestinationType (kind : LanAlertDestinationType)
  | alertDestinationAddress (address : LanAlertDestinationAddress)
  | vlanId (vlan : LanVlanId)
  | vlanPriority (priority : UInt8)
  | cipherSuitePrivilegeLevels (levels : Octets 9)
  | badPasswordThreshold (policy : LanBadPasswordThreshold)
  | ipv6Ipv4AddressingEnables (enables : Ipv6Ipv4Enables)
  | ipv6HeaderStaticTrafficClass (value : UInt8)
  | ipv6HeaderStaticHopLimit (limit : UInt8)
  | ipv6HeaderFlowLabel (flow : Ipv6HeaderFlowLabel)
  | ipv6StaticAddress (entry : Ipv6StaticAddress)
  | ipv6StaticDuid (block : Ipv6LanBlock)
  | ipv6DynamicDuid (block : Ipv6LanBlock)
  | ipv6DhcpTiming (block : Ipv6LanBlock)
  | ipv6RouterControl (control : Ipv6RouterControl)
  | ipv6StaticRouter1Address (address : Ipv6Address)
  | ipv6StaticRouter1Mac (address : MacAddress)
  | ipv6StaticRouter1PrefixLength (length : UInt8)
  | ipv6StaticRouter1Prefix (address : Ipv6Address)
  | ipv6StaticRouter2Address (address : Ipv6Address)
  | ipv6StaticRouter2Mac (address : MacAddress)
  | ipv6StaticRouter2PrefixLength (length : UInt8)
  | ipv6StaticRouter2Prefix (address : Ipv6Address)
  | ipv6NeighborDiscoverySlaacTiming (block : Ipv6LanBlock)
  | raw (data : List UInt8)
  deriving DecidableEq

namespace LanConfigParameterRequest

/-- The parameter of a typed value. -/
def parameter : LanConfigParameterRequest → Option LanConfigParameter
  | .setInProgress _ | .setState _ => some .setInProgress
  | .authTypeEnables _ => some .authTypeEnables
  | .ipAddress _ => some .ipAddress
  | .ipAddressSource _ | .addressSource _ => some .ipAddressSource
  | .macAddress _ => some .macAddress
  | .subnetMask _ => some .subnetMask
  | .ipHeader _ => some .ipHeader
  | .primaryRmcpPort _ => some .primaryRmcpPort
  | .secondaryRmcpPort _ => some .secondaryRmcpPort
  | .bmcArpControl _ => some .bmcArpControl
  | .gratuitousArpInterval _ => some .gratuitousArpInterval
  | .defaultGatewayAddress _ => some .defaultGatewayAddress
  | .defaultGatewayMacAddress _ => some .defaultGatewayMacAddress
  | .backupGatewayAddress _ => some .backupGatewayAddress
  | .backupGatewayMacAddress _ => some .backupGatewayMacAddress
  | .snmpCommunity _ => some .snmpCommunity
  | .alertDestinationType _ => some .alertDestinationType
  | .alertDestinationAddress _ => some .alertDestinationAddress
  | .vlanId _ => some .vlanId
  | .vlanPriority _ => some .vlanPriority
  | .cipherSuitePrivilegeLevels _ => some .cipherSuitePrivilegeLevels
  | .badPasswordThreshold _ => some .badPasswordThreshold
  | .ipv6Ipv4AddressingEnables _ => some .ipv6Ipv4AddressingEnables
  | .ipv6HeaderStaticTrafficClass _ => some .ipv6HeaderStaticTrafficClass
  | .ipv6HeaderStaticHopLimit _ => some .ipv6HeaderStaticHopLimit
  | .ipv6HeaderFlowLabel _ => some .ipv6HeaderFlowLabel
  | .ipv6StaticAddress _ => some .ipv6StaticAddresses
  | .ipv6StaticDuid _ => some .ipv6StaticDuid
  | .ipv6DynamicDuid _ => some .ipv6DynamicDuid
  | .ipv6DhcpTiming _ => some .ipv6DhcpTiming
  | .ipv6RouterControl _ => some .ipv6RouterControl
  | .ipv6StaticRouter1Address _ => some .ipv6StaticRouter1Address
  | .ipv6StaticRouter1Mac _ => some .ipv6StaticRouter1Mac
  | .ipv6StaticRouter1PrefixLength _ => some .ipv6StaticRouter1PrefixLength
  | .ipv6StaticRouter1Prefix _ => some .ipv6StaticRouter1Prefix
  | .ipv6StaticRouter2Address _ => some .ipv6StaticRouter2Address
  | .ipv6StaticRouter2Mac _ => some .ipv6StaticRouter2Mac
  | .ipv6StaticRouter2PrefixLength _ => some .ipv6StaticRouter2PrefixLength
  | .ipv6StaticRouter2Prefix _ => some .ipv6StaticRouter2Prefix
  | .ipv6NeighborDiscoverySlaacTiming _ => some .ipv6NeighborDiscoverySlaacTiming
  | .raw _ => none

/-- The bytes of a source and its flag, the address, its prefix and status. -/
def staticAddressBytes (entry : Ipv6StaticAddress) (sourceType : UInt8) : List UInt8 :=
  [entry.setSelector, bit entry.enabled <<< 7 ||| sourceType] ++ entry.address.1 ++
    [entry.prefixLength, entry.status]

def tryToBytes : LanConfigParameterRequest → Lan (List UInt8)
  | .setInProgress value => do
    let _ ← LanSetInProgress.parse value
    if 2 < value then throw (.invalidValue value) else return [value]
  | .setState state => pure [state.byte]
  | .authTypeEnables value => pure value.1
  | .ipAddress value | .subnetMask value | .defaultGatewayAddress value
  | .backupGatewayAddress value => pure value.1
  | .ipAddressSource value => if 4 < value then throw (.invalidValue value) else pure [value]
  | .addressSource source =>
    match source with
    | .reserved value => throw (.invalidValue value)
    | source => pure [source.toByte]
  | .macAddress value | .defaultGatewayMacAddress value | .backupGatewayMacAddress value
  | .ipv6StaticRouter1Mac value | .ipv6StaticRouter2Mac value => pure value.1
  | .ipHeader value => pure value.1
  | .primaryRmcpPort port | .secondaryRmcpPort port => pure (toLe 2 port.toNat).reverse
  | .bmcArpControl control => pure [control.byte]
  | .gratuitousArpInterval interval => pure [interval]
  | .snmpCommunity community => pure community.1
  | .alertDestinationType kind => do return (← kind.bytes).1
  | .alertDestinationAddress address =>
    match address with
    | .ipv4 setSelector _ _ _ =>
      if 15 < setSelector then throw (.invalidValue setSelector) else pure address.bytes
    | .other bytes =>
      if bytes.length < 2 then throw (.invalidLength 2 bytes.length)
      else do
        let format ← index bytes 1
        if format &&& 0xF0 = 0 then throw (.invalidValue format) else return address.bytes
  | .vlanId vlan => do return (← vlan.bytes).1
  | .vlanPriority priority =>
    if 7 < priority then throw (.invalidValue priority) else pure [priority]
  | .cipherSuitePrivilegeLevels levels => pure levels.1
  | .badPasswordThreshold policy => pure policy.bytes.1
  | .ipv6Ipv4AddressingEnables enables =>
    match enables with
    | .reserved value => throw (.invalidValue value)
    | enables => pure [enables.toByte]
  | .ipv6HeaderStaticTrafficClass value | .ipv6HeaderStaticHopLimit value => pure [value]
  | .ipv6HeaderFlowLabel flow =>
    if 0x0FFFFF < flow.label then throw (.invalidValue (flow.label >>> 16).toUInt8)
    else pure flow.bytes
  | .ipv6StaticAddress entry => do
    checkPrefix entry.prefixLength
    if 0x0F < entry.sourceType ∨ entry.status ≠ 0 then
      throw (.invalidValue (max entry.sourceType entry.status))
    else return staticAddressBytes entry entry.sourceType
  | .ipv6StaticDuid block | .ipv6DynamicDuid block => do
    let _ ← Ipv6LanBlock.new block.setSelector block.blockSelector block.bytes
    if block.bytes = [] ∨ 15 < block.blockSelector then throw .invalidBlockSequence
    else return block.wire
  | .ipv6DhcpTiming block => do
    let _ ← Ipv6LanBlock.new block.setSelector block.blockSelector block.bytes
    if (block.blockSelector = 0 ∧ block.bytes.length ≠ 16) ∨
        (block.blockSelector = 1 ∧ block.bytes.length ≠ 16) ∨ 1 < block.blockSelector then
      throw .invalidBlockSequence
    else return block.wire
  | .ipv6NeighborDiscoverySlaacTiming block => do
    let _ ← Ipv6LanBlock.new block.setSelector block.blockSelector block.bytes
    if block.blockSelector ≠ 0 ∨ block.bytes.length ≠ 16 then throw .invalidBlockSequence
    else return block.wire
  | .ipv6RouterControl control => pure [control.byte]
  | .ipv6StaticRouter1Address value | .ipv6StaticRouter1Prefix value
  | .ipv6StaticRouter2Address value | .ipv6StaticRouter2Prefix value => pure value.1
  | .ipv6StaticRouter1PrefixLength length | .ipv6StaticRouter2PrefixLength length => do
    checkPrefix length
    return [length]
  | .raw data => pure data

/-- The bytes of a request that is not valid; nothing for the branch that is
not reached. -/
def unchecked : LanConfigParameterRequest → Option (List UInt8)
  | .setInProgress value | .ipAddressSource value => some [value]
  | .ipv6Ipv4AddressingEnables enables => some [enables.toByte]
  | .ipv6StaticAddress entry => some (staticAddressBytes entry (entry.sourceType &&& 0xF))
  | .ipv6HeaderFlowLabel flow => some flow.bytes
  | .vlanId vlan =>
    some [vlan.id.toUInt8, (vlan.id >>> 8).toUInt8 ||| bit vlan.enabled <<< 7]
  | .vlanPriority priority => some [priority]
  | .alertDestinationType kind => some [kind.setSelector, kind.kind, kind.timeout, kind.retries]
  | .alertDestinationAddress address => some address.bytes
  | .addressSource source => some [source.toByte]
  | .ipv6StaticRouter1PrefixLength length | .ipv6StaticRouter2PrefixLength length => some [length]
  | .ipv6StaticDuid block | .ipv6DynamicDuid block | .ipv6DhcpTiming block
  | .ipv6NeighborDiscoverySlaacTiming block => some block.wire
  | _ => none

/-- `to_bytes`, or nothing where it would panic. -/
def toBytes (request : LanConfigParameterRequest) : Option (List UInt8) :=
  match request.tryToBytes.run with
  | none => none
  | some (.ok bytes) => some bytes
  | some (.error _) => request.unchecked

end LanConfigParameterRequest
end IpmiRs.Transport
