import IpmiRs.Ipmi
import IpmiRs.Transport.LanTypes

/-! Reading LAN configuration parameters,
`transport/get_lan_configuration_parameters.rs`. -/
namespace IpmiRs.Transport
open Connection Library Library.Bytes Library.Checked

inductive LanConfigParameter where
  | setInProgress
  | authTypeSupport
  | authTypeEnables
  | ipAddress
  | ipAddressSource
  | macAddress
  | subnetMask
  | ipHeader
  | primaryRmcpPort
  | secondaryRmcpPort
  | bmcArpControl
  | gratuitousArpInterval
  | defaultGatewayAddress
  | defaultGatewayMacAddress
  | backupGatewayAddress
  | backupGatewayMacAddress
  | snmpCommunity
  | numberOfAlertDestinations
  | alertDestinationType
  | alertDestinationAddress
  | vlanId
  | vlanPriority
  | cipherSuiteCount
  | cipherSuites
  | cipherSuitePrivilegeLevels
  | badPasswordThreshold
  | ipv6Ipv4Support
  | ipv6Ipv4AddressingEnables
  | ipv6HeaderStaticTrafficClass
  | ipv6HeaderStaticHopLimit
  | ipv6HeaderFlowLabel
  | ipv6Status
  | ipv6StaticAddresses
  | ipv6StaticDuidStorageLength
  | ipv6StaticDuid
  | ipv6DynamicAddress
  | ipv6DynamicDuidStorageLength
  | ipv6DynamicDuid
  | ipv6DhcpTimingSupport
  | ipv6DhcpTiming
  | ipv6RouterControl
  | ipv6StaticRouter1Address
  | ipv6StaticRouter1Mac
  | ipv6StaticRouter1PrefixLength
  | ipv6StaticRouter1Prefix
  | ipv6StaticRouter2Address
  | ipv6StaticRouter2Mac
  | ipv6StaticRouter2PrefixLength
  | ipv6StaticRouter2Prefix
  | ipv6DynamicRouterCount
  | ipv6DynamicRouterAddress
  | ipv6DynamicRouterMac
  | ipv6DynamicRouterPrefixLength
  | ipv6DynamicRouterPrefix
  | ipv6DynamicHopLimit
  | ipv6NeighborDiscoverySlaacTimingSupport
  | ipv6NeighborDiscoverySlaacTiming
  /-- Unrecognized, and returned as raw bytes. -/
  | other (value : UInt8)
  deriving DecidableEq

namespace LanConfigParameter

def value : LanConfigParameter → UInt8
  | .setInProgress => 0
  | .authTypeSupport => 1
  | .authTypeEnables => 2
  | .ipAddress => 3
  | .ipAddressSource => 4
  | .macAddress => 5
  | .subnetMask => 6
  | .ipHeader => 7
  | .primaryRmcpPort => 8
  | .secondaryRmcpPort => 9
  | .bmcArpControl => 10
  | .gratuitousArpInterval => 11
  | .defaultGatewayAddress => 12
  | .defaultGatewayMacAddress => 13
  | .backupGatewayAddress => 14
  | .backupGatewayMacAddress => 15
  | .snmpCommunity => 16
  | .numberOfAlertDestinations => 17
  | .alertDestinationType => 18
  | .alertDestinationAddress => 19
  | .vlanId => 20
  | .vlanPriority => 21
  | .cipherSuiteCount => 22
  | .cipherSuites => 23
  | .cipherSuitePrivilegeLevels => 24
  | .badPasswordThreshold => 26
  | .ipv6Ipv4Support => 50
  | .ipv6Ipv4AddressingEnables => 51
  | .ipv6HeaderStaticTrafficClass => 52
  | .ipv6HeaderStaticHopLimit => 53
  | .ipv6HeaderFlowLabel => 54
  | .ipv6Status => 55
  | .ipv6StaticAddresses => 56
  | .ipv6StaticDuidStorageLength => 57
  | .ipv6StaticDuid => 58
  | .ipv6DynamicAddress => 59
  | .ipv6DynamicDuidStorageLength => 60
  | .ipv6DynamicDuid => 61
  | .ipv6DhcpTimingSupport => 62
  | .ipv6DhcpTiming => 63
  | .ipv6RouterControl => 64
  | .ipv6StaticRouter1Address => 65
  | .ipv6StaticRouter1Mac => 66
  | .ipv6StaticRouter1PrefixLength => 67
  | .ipv6StaticRouter1Prefix => 68
  | .ipv6StaticRouter2Address => 69
  | .ipv6StaticRouter2Mac => 70
  | .ipv6StaticRouter2PrefixLength => 71
  | .ipv6StaticRouter2Prefix => 72
  | .ipv6DynamicRouterCount => 73
  | .ipv6DynamicRouterAddress => 74
  | .ipv6DynamicRouterMac => 75
  | .ipv6DynamicRouterPrefixLength => 76
  | .ipv6DynamicRouterPrefix => 77
  | .ipv6DynamicHopLimit => 78
  | .ipv6NeighborDiscoverySlaacTimingSupport => 79
  | .ipv6NeighborDiscoverySlaacTiming => 80
  | .other value => value

end LanConfigParameter

inductive LanConfigParameterData where
  | setInProgress (state : LanSetInProgress)
  | authTypeSupport (value : UInt8)
  | authTypeEnables (value : Octets 5)
  | ipAddress (address : Ipv4Address)
  | ipAddressSource (source : IpAddressSource)
  | macAddress (address : MacAddress)
  | subnetMask (mask : Ipv4Address)
  | ipHeader (header : LanIpv4Header)
  | primaryRmcpPort (port : UInt16)
  | secondaryRmcpPort (port : UInt16)
  | bmcArpControl (control : LanArpControl)
  | gratuitousArpInterval (interval : UInt8)
  | defaultGatewayAddress (address : Ipv4Address)
  | defaultGatewayMacAddress (address : MacAddress)
  | backupGatewayAddress (address : Ipv4Address)
  | backupGatewayMacAddress (address : MacAddress)
  | snmpCommunity (community : Octets 18)
  | numberOfAlertDestinations (count : UInt8)
  | alertDestinationType (kind : LanAlertDestinationType)
  | alertDestinationAddress (address : LanAlertDestinationAddress)
  | vlanId (vlan : LanVlanId)
  | vlanPriority (priority : UInt8)
  | cipherSuiteCount (count : UInt8)
  | cipherSuites (suites : List UInt8)
  | cipherSuitePrivilegeLevels (levels : Octets 9)
  | badPasswordThreshold (policy : LanBadPasswordThreshold)
  | ipv6Ipv4Support (support : Ipv6Ipv4Support)
  | ipv6Ipv4AddressingEnables (enables : Ipv6Ipv4Enables)
  | ipv6HeaderStaticTrafficClass (value : UInt8)
  | ipv6HeaderStaticHopLimit (limit : UInt8)
  | ipv6HeaderFlowLabel (flow : Ipv6HeaderFlowLabel)
  | ipv6Status (status : Ipv6Status)
  | ipv6StaticAddresses (entry : Ipv6StaticAddress)
  | ipv6StaticDuidStorageLength (length : UInt8)
  | ipv6StaticDuid (block : Ipv6LanBlock)
  | ipv6DynamicAddress (entry : Ipv6DynamicAddress)
  | ipv6DynamicDuidStorageLength (length : UInt8)
  | ipv6DynamicDuid (block : Ipv6LanBlock)
  | ipv6DhcpTimingSupport (support : Ipv6TimingSupport)
  | ipv6DhcpTiming (block : Ipv6LanBlock)
  | ipv6RouterControl (control : Ipv6RouterControl)
  | ipv6StaticRouter1Address (address : Ipv6Address)
  | ipv6StaticRouter1Mac (address : MacAddress)
  | ipv6StaticRouter1PrefixLength (length : UInt8)
  | ipv6StaticRouter1Prefix (address : Ipv6Address)
  | ipv6StaticRouter2Address (address : Ipv6Address)
  | ipv6StaticRouter2Mac (address : MacAddress)
  | ipv6StaticRouter2PrefixLength (length : UInt8)
  | ipv6StaticRouter2Prefix (address : Ipv6Address)
  | ipv6DynamicRouterCount (count : UInt8)
  | ipv6DynamicRouterAddress (router : Ipv6DynamicRouter Ipv6Address)
  | ipv6DynamicRouterMac (router : Ipv6DynamicRouter MacAddress)
  | ipv6DynamicRouterPrefixLength (router : Ipv6DynamicRouter UInt8)
  | ipv6DynamicRouterPrefix (router : Ipv6DynamicRouter Ipv6Address)
  | ipv6DynamicHopLimit (limit : UInt8)
  | ipv6NeighborDiscoverySlaacTimingSupport (support : Ipv6TimingSupport)
  | ipv6NeighborDiscoverySlaacTiming (block : Ipv6LanBlock)
  | raw (data : List UInt8)
  deriving DecidableEq

namespace LanConfigParameter

/-- The length of a parameter, or zero where it varies. -/
def expectedLength : LanConfigParameter → Nat
  | .authTypeEnables => 5
  | .ipAddress | .subnetMask | .defaultGatewayAddress | .backupGatewayAddress
  | .alertDestinationType => 4
  | .macAddress | .defaultGatewayMacAddress | .backupGatewayMacAddress
  | .badPasswordThreshold => 6
  | .ipHeader | .ipv6HeaderFlowLabel | .ipv6Status => 3
  | .primaryRmcpPort | .secondaryRmcpPort | .vlanId => 2
  | .snmpCommunity => 18
  | .alertDestinationAddress => 0
  | .cipherSuites => 0
  | .cipherSuitePrivilegeLevels => 9
  | .ipv6StaticAddresses | .ipv6DynamicAddress => 20
  | .ipv6StaticRouter1Address | .ipv6StaticRouter1Prefix | .ipv6StaticRouter2Address
  | .ipv6StaticRouter2Prefix => 16
  | .ipv6StaticRouter1Mac | .ipv6StaticRouter2Mac => 6
  | .ipv6DynamicRouterAddress | .ipv6DynamicRouterPrefix => 17
  | .ipv6DynamicRouterMac => 7
  | .ipv6DynamicRouterPrefixLength => 2
  | .ipv6StaticDuid | .ipv6DynamicDuid | .ipv6DhcpTiming
  | .ipv6NeighborDiscoverySlaacTiming => 0
  | _ => 1

/-- The value of a parameter, in data of its length. -/
def parseValue (parameter : LanConfigParameter) (data : List UInt8) : Lan LanConfigParameterData :=
  match parameter with
  | .setInProgress => do return .setInProgress (← LanSetInProgress.parse (← index data 0))
  | .authTypeSupport => .authTypeSupport <$> index data 0
  | .authTypeEnables => .authTypeEnables <$> Octets.expect 5 data
  | .ipAddress => .ipAddress <$> Octets.fromSlice 4 data
  | .ipAddressSource => do
    let source ← index data 0
    if source &&& 0xF0 ≠ 0 then throw (.invalidValue source)
    else return .ipAddressSource (.ofByte source)
  | .macAddress => .macAddress <$> Octets.fromSlice 6 data
  | .subnetMask => .subnetMask <$> Octets.fromSlice 4 data
  | .ipHeader => .ipHeader <$> Octets.expect 3 data
  | .primaryRmcpPort => do
    return .primaryRmcpPort (UInt16.ofNat (ofLe [← index data 1, ← index data 0]))
  | .secondaryRmcpPort => do
    return .secondaryRmcpPort (UInt16.ofNat (ofLe [← index data 1, ← index data 0]))
  | .bmcArpControl => do
    let control ← index data 0
    return .bmcArpControl ⟨control &&& 2 != 0, control &&& 1 != 0⟩
  | .gratuitousArpInterval => .gratuitousArpInterval <$> index data 0
  | .defaultGatewayAddress => .defaultGatewayAddress <$> Octets.fromSlice 4 data
  | .defaultGatewayMacAddress => .defaultGatewayMacAddress <$> Octets.fromSlice 6 data
  | .backupGatewayAddress => .backupGatewayAddress <$> Octets.fromSlice 4 data
  | .backupGatewayMacAddress => .backupGatewayMacAddress <$> Octets.fromSlice 6 data
  | .snmpCommunity => .snmpCommunity <$> Octets.expect 18 data
  | .numberOfAlertDestinations => do
    return .numberOfAlertDestinations ((← index data 0) &&& 0x0F)
  | .alertDestinationType => .alertDestinationType <$> LanAlertDestinationType.parse data
  | .alertDestinationAddress => .alertDestinationAddress <$> LanAlertDestinationAddress.parse data
  | .vlanId => .vlanId <$> LanVlanId.parse data
  | .vlanPriority => do return .vlanPriority ((← index data 0) &&& 7)
  | .cipherSuiteCount => .cipherSuiteCount <$> index data 0
  | .cipherSuites =>
    if data = [] ∨ 17 < data.length then throw (.invalidLength 17 data.length)
    else pure (.cipherSuites data)
  | .cipherSuitePrivilegeLevels => .cipherSuitePrivilegeLevels <$> Octets.expect 9 data
  | .badPasswordThreshold => .badPasswordThreshold <$> LanBadPasswordThreshold.parse data
  | .ipv6Ipv4Support => do return .ipv6Ipv4Support (.ofByte (← index data 0))
  | .ipv6Ipv4AddressingEnables => do return .ipv6Ipv4AddressingEnables (.ofByte (← index data 0))
  | .ipv6HeaderStaticTrafficClass => .ipv6HeaderStaticTrafficClass <$> index data 0
  | .ipv6HeaderStaticHopLimit => .ipv6HeaderStaticHopLimit <$> index data 0
  | .ipv6HeaderFlowLabel => do
    let raw ← Ipv6HeaderFlowLabel.fromSlice data
    let first ← index data 0
    if first &&& 0xF0 ≠ 0 then throw (.invalidValue first) else return .ipv6HeaderFlowLabel raw
  | .ipv6Status => .ipv6Status <$> Ipv6Status.fromSlice data
  | .ipv6StaticAddresses => .ipv6StaticAddresses <$> Ipv6StaticAddress.fromSlice data
  | .ipv6DynamicAddress => .ipv6DynamicAddress <$> Ipv6DynamicAddress.fromSlice data
  | .ipv6StaticDuidStorageLength => .ipv6StaticDuidStorageLength <$> index data 0
  | .ipv6DynamicDuidStorageLength => .ipv6DynamicDuidStorageLength <$> index data 0
  | .ipv6DhcpTimingSupport => do
    return .ipv6DhcpTimingSupport (← Ipv6TimingSupport.ofByte (← index data 0))
  | .ipv6NeighborDiscoverySlaacTimingSupport => do
    return .ipv6NeighborDiscoverySlaacTimingSupport (← Ipv6TimingSupport.ofByte (← index data 0))
  | .ipv6StaticDuid => .ipv6StaticDuid <$> Ipv6LanBlock.parse data
  | .ipv6DynamicDuid => .ipv6DynamicDuid <$> Ipv6LanBlock.parse data
  | .ipv6DhcpTiming => .ipv6DhcpTiming <$> Ipv6LanBlock.parse data
  | .ipv6NeighborDiscoverySlaacTiming =>
    .ipv6NeighborDiscoverySlaacTiming <$> Ipv6LanBlock.parse data
  | .ipv6RouterControl => do
    let control ← index data 0
    if control &&& 0xFC ≠ 0 then throw (.invalidValue control)
    else return .ipv6RouterControl ⟨control &&& 1 != 0, control &&& 2 != 0⟩
  | .ipv6StaticRouter1Address => .ipv6StaticRouter1Address <$> Octets.fromSlice 16 data
  | .ipv6StaticRouter2Address => .ipv6StaticRouter2Address <$> Octets.fromSlice 16 data
  | .ipv6StaticRouter1Mac => .ipv6StaticRouter1Mac <$> Octets.fromSlice 6 data
  | .ipv6StaticRouter2Mac => .ipv6StaticRouter2Mac <$> Octets.fromSlice 6 data
  | .ipv6StaticRouter1PrefixLength => do
    checkPrefix (← index data 0)
    return .ipv6StaticRouter1PrefixLength (← index data 0)
  | .ipv6StaticRouter2PrefixLength => do
    checkPrefix (← index data 0)
    return .ipv6StaticRouter2PrefixLength (← index data 0)
  | .ipv6StaticRouter1Prefix => .ipv6StaticRouter1Prefix <$> Octets.fromSlice 16 data
  | .ipv6StaticRouter2Prefix => .ipv6StaticRouter2Prefix <$> Octets.fromSlice 16 data
  | .ipv6DynamicRouterCount => .ipv6DynamicRouterCount <$> index data 0
  | .ipv6DynamicRouterAddress => do
    return .ipv6DynamicRouterAddress
      ⟨← index data 0, ← Octets.fromSlice 16 (← slice data 1 data.length)⟩
  | .ipv6DynamicRouterMac => do
    return .ipv6DynamicRouterMac
      ⟨← index data 0, ← Octets.fromSlice 6 (← slice data 1 data.length)⟩
  | .ipv6DynamicRouterPrefixLength => do
    checkPrefix (← index data 1)
    return .ipv6DynamicRouterPrefixLength ⟨← index data 0, ← index data 1⟩
  | .ipv6DynamicRouterPrefix => do
    return .ipv6DynamicRouterPrefix
      ⟨← index data 0, ← Octets.fromSlice 16 (← slice data 1 data.length)⟩
  | .ipv6DynamicHopLimit => .ipv6DynamicHopLimit <$> index data 0
  | .other _ => pure (.raw data)

def parse (parameter : LanConfigParameter) (data : List UInt8) : Lan LanConfigParameterData :=
  match parameter with
  | .other _ => pure (.raw data)
  | _ => do
    if parameter.expectedLength ≠ 0 then
      checkLength data parameter.expectedLength
      parameter.parseValue data
    else parameter.parseValue data

end LanConfigParameter

structure LanConfigParameterResponse where
  parameterRevision : UInt8
  data : List UInt8
  deriving DecidableEq

/-- `GetLanConfigParameters::parse_success_response`. -/
def LanConfigParameterResponse.ofData (data : List UInt8) : Lan LanConfigParameterResponse :=
  match data with
  | [] => throw .missingRevision
  | parameterRevision :: data => pure ⟨parameterRevision, data⟩

def LanConfigParameterResponse.parse (response : LanConfigParameterResponse)
    (parameter : LanConfigParameter) : Lan LanConfigParameterData :=
  match parameter with
  | .other _ => parameter.parse response.data
  | _ =>
    if response.parameterRevision ≠ 0x11 then throw (.unsupportedRevision response.parameterRevision)
    else parameter.parse response.data

end IpmiRs.Transport
