import SwitchAbstraction.ObjectType
import SwitchAbstraction.OrderedMap

/-!
# Attribute ids

Every attribute belongs to one object type, carries values of one kind, and
is either free to set or computed by the switch.  One table holds all of it.
-/

namespace SwitchAbstraction

/-- The shape of the value that an attribute carries. -/
inductive ValueKind
  | bool
  | u8
  | u16
  | u32
  | s32
  | u64
  | mac
  | ip
  | oid
  | oidList
  | u32List
  | s32List
  | charData
  deriving DecidableEq

namespace ValueKind

/-- The word for a kind in messages. -/
def name : ValueKind → String
  | .bool => "Bool"
  | .u8 => "U8"
  | .u16 => "U16"
  | .u32 => "U32"
  | .s32 => "S32"
  | .u64 => "U64"
  | .mac => "Mac"
  | .ip => "Ip"
  | .oid => "Oid"
  | .oidList => "OidList"
  | .u32List => "U32List"
  | .s32List => "S32List"
  | .charData => "CharData"

/-- Whether values of the kind are lists, whose size a reader negotiates. -/
def isList (kind : ValueKind) : Bool :=
  kind = .oidList || kind = .u32List || kind = .s32List

end ValueKind

/-- An attribute of some object type. -/
inductive AttrId
  | switchPortNumber
  | switchPortList
  | switchCpuPort
  | switchDefaultVirtualRouterId
  | switchDefaultVlanId
  | switchDefault1QBridgeId
  | switchDefaultTrapGroup
  | switchSrcMacAddress
  | switchFdbAgingTime
  | switchInitSwitch
  | switchOperStatus
  | switchHardwareInfo
  | portType
  | portOperStatus
  | portHwLaneList
  | portSpeed
  | portAdminState
  | portMtu
  | portPortVlanId
  | portFecMode
  | lagPortList
  | lagMemberLagId
  | lagMemberPortId
  | virtualRouterAdminV4State
  | virtualRouterAdminV6State
  | virtualRouterSrcMacAddress
  | nextHopType
  | nextHopIp
  | nextHopRouterInterfaceId
  | nextHopGroupType
  | nextHopGroupMemberNextHopGroupId
  | nextHopGroupMemberNextHopId
  | routerInterfaceVirtualRouterId
  | routerInterfaceType
  | routerInterfacePortId
  | routerInterfaceVlanId
  | routerInterfaceSrcMacAddress
  | routerInterfaceMtu
  | aclTableStage
  | aclTableSize
  | aclEntryTableId
  | aclEntryPriority
  | aclEntryAdminState
  | aclCounterTableId
  | aclCounterPackets
  | aclCounterBytes
  | hostifType
  | hostifObjId
  | hostifName
  | hostifOperStatus
  | hostifTrapGroupAdminState
  | hostifTrapGroupQueue
  | hostifTrapTrapType
  | hostifTrapPacketAction
  | hostifTrapTrapGroup
  | mirrorSessionType
  | mirrorSessionMonitorPort
  | policerMeterType
  | policerMode
  | policerCir
  | qosMapType
  | queueType
  | queuePort
  | queueIndex
  | schedulerSchedulingType
  | schedulerSchedulingWeight
  | bufferPoolType
  | bufferPoolSize
  | bufferProfilePoolId
  | bufferProfileBufferSize
  | tunnelType
  | tunnelUnderlayInterface
  | tunnelOverlayInterface
  | tunnelMapType
  | fdbEntryType
  | fdbEntryPacketAction
  | fdbEntryBridgePortId
  | neighborEntryDstMacAddress
  | neighborEntryPacketAction
  | routeEntryPacketAction
  | routeEntryNextHopId
  | vlanVlanId
  | vlanMemberList
  | vlanMaxLearnedAddresses
  | vlanLearnDisable
  | vlanMemberVlanId
  | vlanMemberBridgePortId
  | vlanMemberVlanTaggingMode
  | fdbFlushBridgePortId
  | fdbFlushBvId
  | fdbFlushEntryType
  | bridgeType
  | bridgePortList
  | bridgePortType
  | bridgePortPortId
  | bridgePortBridgeId
  | bridgePortFdbLearningMode
  | bridgePortAdminState
  | debugCounterIndex
  | debugCounterType
  | debugCounterBindMethod
  | debugCounterInDropReasonList
  | debugCounterOutDropReasonList
  deriving DecidableEq

/-- What the table says about one attribute. -/
structure AttrSpec where
  name : String
  objectType : ObjectType
  kind : ValueKind
  readOnly : Bool := false

namespace AttrId

/-- The table of attributes. -/
def spec : AttrId → AttrSpec
  | .switchPortNumber => ⟨"SAI_SWITCH_ATTR_PORT_NUMBER", .switch, .u32, true⟩
  | .switchPortList => ⟨"SAI_SWITCH_ATTR_PORT_LIST", .switch, .oidList, true⟩
  | .switchCpuPort => ⟨"SAI_SWITCH_ATTR_CPU_PORT", .switch, .oid, true⟩
  | .switchDefaultVirtualRouterId =>
      ⟨"SAI_SWITCH_ATTR_DEFAULT_VIRTUAL_ROUTER_ID", .switch, .oid, true⟩
  | .switchDefaultVlanId => ⟨"SAI_SWITCH_ATTR_DEFAULT_VLAN_ID", .switch, .oid, true⟩
  | .switchDefault1QBridgeId => ⟨"SAI_SWITCH_ATTR_DEFAULT_1Q_BRIDGE_ID", .switch, .oid, true⟩
  | .switchDefaultTrapGroup => ⟨"SAI_SWITCH_ATTR_DEFAULT_TRAP_GROUP", .switch, .oid, true⟩
  | .switchSrcMacAddress => ⟨"SAI_SWITCH_ATTR_SRC_MAC_ADDRESS", .switch, .mac, false⟩
  | .switchFdbAgingTime => ⟨"SAI_SWITCH_ATTR_FDB_AGING_TIME", .switch, .u32, false⟩
  | .switchInitSwitch => ⟨"SAI_SWITCH_ATTR_INIT_SWITCH", .switch, .bool, false⟩
  | .switchOperStatus => ⟨"SAI_SWITCH_ATTR_OPER_STATUS", .switch, .s32, true⟩
  | .switchHardwareInfo => ⟨"SAI_SWITCH_ATTR_SWITCH_HARDWARE_INFO", .switch, .charData, false⟩
  | .portType => ⟨"SAI_PORT_ATTR_TYPE", .port, .s32, true⟩
  | .portOperStatus => ⟨"SAI_PORT_ATTR_OPER_STATUS", .port, .s32, true⟩
  | .portHwLaneList => ⟨"SAI_PORT_ATTR_HW_LANE_LIST", .port, .u32List, false⟩
  | .portSpeed => ⟨"SAI_PORT_ATTR_SPEED", .port, .u32, false⟩
  | .portAdminState => ⟨"SAI_PORT_ATTR_ADMIN_STATE", .port, .bool, false⟩
  | .portMtu => ⟨"SAI_PORT_ATTR_MTU", .port, .u32, false⟩
  | .portPortVlanId => ⟨"SAI_PORT_ATTR_PORT_VLAN_ID", .port, .u16, false⟩
  | .portFecMode => ⟨"SAI_PORT_ATTR_FEC_MODE", .port, .s32, false⟩
  | .lagPortList => ⟨"SAI_LAG_ATTR_PORT_LIST", .lag, .oidList, true⟩
  | .lagMemberLagId => ⟨"SAI_LAG_MEMBER_ATTR_LAG_ID", .lagMember, .oid, false⟩
  | .lagMemberPortId => ⟨"SAI_LAG_MEMBER_ATTR_PORT_ID", .lagMember, .oid, false⟩
  | .virtualRouterAdminV4State =>
      ⟨"SAI_VIRTUAL_ROUTER_ATTR_ADMIN_V4_STATE", .virtualRouter, .bool, false⟩
  | .virtualRouterAdminV6State =>
      ⟨"SAI_VIRTUAL_ROUTER_ATTR_ADMIN_V6_STATE", .virtualRouter, .bool, false⟩
  | .virtualRouterSrcMacAddress =>
      ⟨"SAI_VIRTUAL_ROUTER_ATTR_SRC_MAC_ADDRESS", .virtualRouter, .mac, false⟩
  | .nextHopType => ⟨"SAI_NEXT_HOP_ATTR_TYPE", .nextHop, .s32, false⟩
  | .nextHopIp => ⟨"SAI_NEXT_HOP_ATTR_IP", .nextHop, .ip, false⟩
  | .nextHopRouterInterfaceId =>
      ⟨"SAI_NEXT_HOP_ATTR_ROUTER_INTERFACE_ID", .nextHop, .oid, false⟩
  | .nextHopGroupType => ⟨"SAI_NEXT_HOP_GROUP_ATTR_TYPE", .nextHopGroup, .s32, false⟩
  | .nextHopGroupMemberNextHopGroupId =>
      ⟨"SAI_NEXT_HOP_GROUP_MEMBER_ATTR_NEXT_HOP_GROUP_ID", .nextHopGroupMember, .oid, false⟩
  | .nextHopGroupMemberNextHopId =>
      ⟨"SAI_NEXT_HOP_GROUP_MEMBER_ATTR_NEXT_HOP_ID", .nextHopGroupMember, .oid, false⟩
  | .routerInterfaceVirtualRouterId =>
      ⟨"SAI_ROUTER_INTERFACE_ATTR_VIRTUAL_ROUTER_ID", .routerInterface, .oid, false⟩
  | .routerInterfaceType => ⟨"SAI_ROUTER_INTERFACE_ATTR_TYPE", .routerInterface, .s32, false⟩
  | .routerInterfacePortId =>
      ⟨"SAI_ROUTER_INTERFACE_ATTR_PORT_ID", .routerInterface, .oid, false⟩
  | .routerInterfaceVlanId =>
      ⟨"SAI_ROUTER_INTERFACE_ATTR_VLAN_ID", .routerInterface, .oid, false⟩
  | .routerInterfaceSrcMacAddress =>
      ⟨"SAI_ROUTER_INTERFACE_ATTR_SRC_MAC_ADDRESS", .routerInterface, .mac, false⟩
  | .routerInterfaceMtu => ⟨"SAI_ROUTER_INTERFACE_ATTR_MTU", .routerInterface, .u32, false⟩
  | .aclTableStage => ⟨"SAI_ACL_TABLE_ATTR_ACL_STAGE", .aclTable, .s32, false⟩
  | .aclTableSize => ⟨"SAI_ACL_TABLE_ATTR_SIZE", .aclTable, .u32, false⟩
  | .aclEntryTableId => ⟨"SAI_ACL_ENTRY_ATTR_TABLE_ID", .aclEntry, .oid, false⟩
  | .aclEntryPriority => ⟨"SAI_ACL_ENTRY_ATTR_PRIORITY", .aclEntry, .u32, false⟩
  | .aclEntryAdminState => ⟨"SAI_ACL_ENTRY_ATTR_ADMIN_STATE", .aclEntry, .bool, false⟩
  | .aclCounterTableId => ⟨"SAI_ACL_COUNTER_ATTR_TABLE_ID", .aclCounter, .oid, false⟩
  | .aclCounterPackets => ⟨"SAI_ACL_COUNTER_ATTR_PACKETS", .aclCounter, .u64, false⟩
  | .aclCounterBytes => ⟨"SAI_ACL_COUNTER_ATTR_BYTES", .aclCounter, .u64, false⟩
  | .hostifType => ⟨"SAI_HOSTIF_ATTR_TYPE", .hostif, .s32, false⟩
  | .hostifObjId => ⟨"SAI_HOSTIF_ATTR_OBJ_ID", .hostif, .oid, false⟩
  | .hostifName => ⟨"SAI_HOSTIF_ATTR_NAME", .hostif, .charData, false⟩
  | .hostifOperStatus => ⟨"SAI_HOSTIF_ATTR_OPER_STATUS", .hostif, .bool, false⟩
  | .hostifTrapGroupAdminState =>
      ⟨"SAI_HOSTIF_TRAP_GROUP_ATTR_ADMIN_STATE", .hostifTrapGroup, .bool, false⟩
  | .hostifTrapGroupQueue => ⟨"SAI_HOSTIF_TRAP_GROUP_ATTR_QUEUE", .hostifTrapGroup, .u32, false⟩
  | .hostifTrapTrapType => ⟨"SAI_HOSTIF_TRAP_ATTR_TRAP_TYPE", .hostifTrap, .s32, false⟩
  | .hostifTrapPacketAction => ⟨"SAI_HOSTIF_TRAP_ATTR_PACKET_ACTION", .hostifTrap, .s32, false⟩
  | .hostifTrapTrapGroup => ⟨"SAI_HOSTIF_TRAP_ATTR_TRAP_GROUP", .hostifTrap, .oid, false⟩
  | .mirrorSessionType => ⟨"SAI_MIRROR_SESSION_ATTR_TYPE", .mirrorSession, .s32, false⟩
  | .mirrorSessionMonitorPort =>
      ⟨"SAI_MIRROR_SESSION_ATTR_MONITOR_PORT", .mirrorSession, .oid, false⟩
  | .policerMeterType => ⟨"SAI_POLICER_ATTR_METER_TYPE", .policer, .s32, false⟩
  | .policerMode => ⟨"SAI_POLICER_ATTR_MODE", .policer, .s32, false⟩
  | .policerCir => ⟨"SAI_POLICER_ATTR_CIR", .policer, .u64, false⟩
  | .qosMapType => ⟨"SAI_QOS_MAP_ATTR_TYPE", .qosMap, .s32, false⟩
  | .queueType => ⟨"SAI_QUEUE_ATTR_TYPE", .queue, .s32, false⟩
  | .queuePort => ⟨"SAI_QUEUE_ATTR_PORT", .queue, .oid, false⟩
  | .queueIndex => ⟨"SAI_QUEUE_ATTR_INDEX", .queue, .u8, false⟩
  | .schedulerSchedulingType => ⟨"SAI_SCHEDULER_ATTR_SCHEDULING_TYPE", .scheduler, .s32, false⟩
  | .schedulerSchedulingWeight =>
      ⟨"SAI_SCHEDULER_ATTR_SCHEDULING_WEIGHT", .scheduler, .u8, false⟩
  | .bufferPoolType => ⟨"SAI_BUFFER_POOL_ATTR_TYPE", .bufferPool, .s32, false⟩
  | .bufferPoolSize => ⟨"SAI_BUFFER_POOL_ATTR_SIZE", .bufferPool, .u64, false⟩
  | .bufferProfilePoolId => ⟨"SAI_BUFFER_PROFILE_ATTR_POOL_ID", .bufferProfile, .oid, false⟩
  | .bufferProfileBufferSize =>
      ⟨"SAI_BUFFER_PROFILE_ATTR_BUFFER_SIZE", .bufferProfile, .u64, false⟩
  | .tunnelType => ⟨"SAI_TUNNEL_ATTR_TYPE", .tunnel, .s32, false⟩
  | .tunnelUnderlayInterface => ⟨"SAI_TUNNEL_ATTR_UNDERLAY_INTERFACE", .tunnel, .oid, false⟩
  | .tunnelOverlayInterface => ⟨"SAI_TUNNEL_ATTR_OVERLAY_INTERFACE", .tunnel, .oid, false⟩
  | .tunnelMapType => ⟨"SAI_TUNNEL_MAP_ATTR_TYPE", .tunnelMap, .s32, false⟩
  | .fdbEntryType => ⟨"SAI_FDB_ENTRY_ATTR_TYPE", .fdbEntry, .s32, false⟩
  | .fdbEntryPacketAction => ⟨"SAI_FDB_ENTRY_ATTR_PACKET_ACTION", .fdbEntry, .s32, false⟩
  | .fdbEntryBridgePortId => ⟨"SAI_FDB_ENTRY_ATTR_BRIDGE_PORT_ID", .fdbEntry, .oid, false⟩
  | .neighborEntryDstMacAddress =>
      ⟨"SAI_NEIGHBOR_ENTRY_ATTR_DST_MAC_ADDRESS", .neighborEntry, .mac, false⟩
  | .neighborEntryPacketAction =>
      ⟨"SAI_NEIGHBOR_ENTRY_ATTR_PACKET_ACTION", .neighborEntry, .s32, false⟩
  | .routeEntryPacketAction => ⟨"SAI_ROUTE_ENTRY_ATTR_PACKET_ACTION", .routeEntry, .s32, false⟩
  | .routeEntryNextHopId => ⟨"SAI_ROUTE_ENTRY_ATTR_NEXT_HOP_ID", .routeEntry, .oid, false⟩
  | .vlanVlanId => ⟨"SAI_VLAN_ATTR_VLAN_ID", .vlan, .u16, false⟩
  | .vlanMemberList => ⟨"SAI_VLAN_ATTR_MEMBER_LIST", .vlan, .oidList, true⟩
  | .vlanMaxLearnedAddresses => ⟨"SAI_VLAN_ATTR_MAX_LEARNED_ADDRESSES", .vlan, .u32, false⟩
  | .vlanLearnDisable => ⟨"SAI_VLAN_ATTR_LEARN_DISABLE", .vlan, .bool, false⟩
  | .vlanMemberVlanId => ⟨"SAI_VLAN_MEMBER_ATTR_VLAN_ID", .vlanMember, .oid, false⟩
  | .vlanMemberBridgePortId => ⟨"SAI_VLAN_MEMBER_ATTR_BRIDGE_PORT_ID", .vlanMember, .oid, false⟩
  | .vlanMemberVlanTaggingMode =>
      ⟨"SAI_VLAN_MEMBER_ATTR_VLAN_TAGGING_MODE", .vlanMember, .s32, false⟩
  | .fdbFlushBridgePortId => ⟨"SAI_FDB_FLUSH_ATTR_BRIDGE_PORT_ID", .fdbFlush, .oid, false⟩
  | .fdbFlushBvId => ⟨"SAI_FDB_FLUSH_ATTR_BV_ID", .fdbFlush, .oid, false⟩
  | .fdbFlushEntryType => ⟨"SAI_FDB_FLUSH_ATTR_ENTRY_TYPE", .fdbFlush, .s32, false⟩
  | .bridgeType => ⟨"SAI_BRIDGE_ATTR_TYPE", .bridge, .s32, false⟩
  | .bridgePortList => ⟨"SAI_BRIDGE_ATTR_PORT_LIST", .bridge, .oidList, true⟩
  | .bridgePortType => ⟨"SAI_BRIDGE_PORT_ATTR_TYPE", .bridgePort, .s32, false⟩
  | .bridgePortPortId => ⟨"SAI_BRIDGE_PORT_ATTR_PORT_ID", .bridgePort, .oid, false⟩
  | .bridgePortBridgeId => ⟨"SAI_BRIDGE_PORT_ATTR_BRIDGE_ID", .bridgePort, .oid, false⟩
  | .bridgePortFdbLearningMode =>
      ⟨"SAI_BRIDGE_PORT_ATTR_FDB_LEARNING_MODE", .bridgePort, .s32, false⟩
  | .bridgePortAdminState => ⟨"SAI_BRIDGE_PORT_ATTR_ADMIN_STATE", .bridgePort, .bool, false⟩
  | .debugCounterIndex => ⟨"SAI_DEBUG_COUNTER_ATTR_INDEX", .debugCounter, .u32, true⟩
  | .debugCounterType => ⟨"SAI_DEBUG_COUNTER_ATTR_TYPE", .debugCounter, .s32, false⟩
  | .debugCounterBindMethod =>
      ⟨"SAI_DEBUG_COUNTER_ATTR_BIND_METHOD", .debugCounter, .s32, false⟩
  | .debugCounterInDropReasonList =>
      ⟨"SAI_DEBUG_COUNTER_ATTR_IN_DROP_REASON_LIST", .debugCounter, .s32List, false⟩
  | .debugCounterOutDropReasonList =>
      ⟨"SAI_DEBUG_COUNTER_ATTR_OUT_DROP_REASON_LIST", .debugCounter, .s32List, false⟩

/-- The word for an attribute. -/
def name (id : AttrId) : String :=
  id.spec.name

/-- The type of the objects that have the attribute. -/
def objectType (id : AttrId) : ObjectType :=
  id.spec.objectType

/-- The kind of the attribute's values. -/
def kind (id : AttrId) : ValueKind :=
  id.spec.kind

/-- Whether the switch computes the attribute and refuses to have it set. -/
def isReadOnly (id : AttrId) : Bool :=
  id.spec.readOnly

/-- All attributes, grouped by object type. -/
def all : List AttrId :=
  [.switchPortNumber, .switchPortList, .switchCpuPort, .switchDefaultVirtualRouterId,
    .switchDefaultVlanId, .switchDefault1QBridgeId, .switchDefaultTrapGroup,
    .switchSrcMacAddress, .switchFdbAgingTime, .switchInitSwitch, .switchOperStatus,
    .switchHardwareInfo, .portType, .portOperStatus, .portHwLaneList, .portSpeed,
    .portAdminState, .portMtu, .portPortVlanId, .portFecMode, .lagPortList, .lagMemberLagId,
    .lagMemberPortId, .virtualRouterAdminV4State, .virtualRouterAdminV6State,
    .virtualRouterSrcMacAddress, .nextHopType, .nextHopIp, .nextHopRouterInterfaceId,
    .nextHopGroupType, .nextHopGroupMemberNextHopGroupId, .nextHopGroupMemberNextHopId,
    .routerInterfaceVirtualRouterId, .routerInterfaceType, .routerInterfacePortId,
    .routerInterfaceVlanId, .routerInterfaceSrcMacAddress, .routerInterfaceMtu, .aclTableStage,
    .aclTableSize, .aclEntryTableId, .aclEntryPriority, .aclEntryAdminState,
    .aclCounterTableId, .aclCounterPackets, .aclCounterBytes, .hostifType, .hostifObjId,
    .hostifName, .hostifOperStatus, .hostifTrapGroupAdminState, .hostifTrapGroupQueue,
    .hostifTrapTrapType, .hostifTrapPacketAction, .hostifTrapTrapGroup, .mirrorSessionType,
    .mirrorSessionMonitorPort, .policerMeterType, .policerMode, .policerCir, .qosMapType,
    .queueType, .queuePort, .queueIndex, .schedulerSchedulingType, .schedulerSchedulingWeight,
    .bufferPoolType, .bufferPoolSize, .bufferProfilePoolId, .bufferProfileBufferSize,
    .tunnelType, .tunnelUnderlayInterface, .tunnelOverlayInterface, .tunnelMapType,
    .fdbEntryType, .fdbEntryPacketAction, .fdbEntryBridgePortId, .neighborEntryDstMacAddress,
    .neighborEntryPacketAction, .routeEntryPacketAction, .routeEntryNextHopId, .vlanVlanId,
    .vlanMemberList, .vlanMaxLearnedAddresses, .vlanLearnDisable, .vlanMemberVlanId,
    .vlanMemberBridgePortId, .vlanMemberVlanTaggingMode, .fdbFlushBridgePortId, .fdbFlushBvId,
    .fdbFlushEntryType, .bridgeType, .bridgePortList, .bridgePortType, .bridgePortPortId,
    .bridgePortBridgeId, .bridgePortFdbLearningMode, .bridgePortAdminState, .debugCounterIndex,
    .debugCounterType, .debugCounterBindMethod, .debugCounterInDropReasonList,
    .debugCounterOutDropReasonList]

instance : Vocabulary AttrId where
  label := "attribute"
  words := all
  name := name
  mem_words id := by cases id <;> decide
  nodup_names := Text.nodup_of_fingerprints (by decide +kernel)

/-- Attributes are ordered as they are declared. -/
instance : Ranked AttrId where
  rank id := [id.ctorIdx]
  rank_injective {first second} same := by
    have readBack : ∀ id : AttrId, all[id.ctorIdx]? = some id := by
      intro id
      cases id <;> rfl
    have read := readBack first
    rw [List.singleton_inj.mp same, readBack] at read
    exact (Option.some.inj read).symm

end AttrId

end SwitchAbstraction
