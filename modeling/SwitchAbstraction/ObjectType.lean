import SwitchAbstraction.Vocabulary

/-!
# Object types

Most objects are addressed by an object id that carries their type.  The
entry types are addressed by a structural key instead, and three types name
no object at all.
-/

namespace SwitchAbstraction

/-- The type of an object. -/
inductive ObjectType
  | null
  | port
  | lag
  | virtualRouter
  | nextHop
  | nextHopGroup
  | routerInterface
  | aclTable
  | aclEntry
  | aclCounter
  | aclRange
  | aclTableGroup
  | aclTableGroupMember
  | hostif
  | mirrorSession
  | samplepacket
  | stp
  | hostifTrapGroup
  | policer
  | wred
  | qosMap
  | queue
  | scheduler
  | schedulerGroup
  | bufferPool
  | bufferProfile
  | ingressPriorityGroup
  | lagMember
  | hash
  | udf
  | udfMatch
  | udfGroup
  | fdbEntry
  | switch
  | hostifTrap
  | hostifTableEntry
  | neighborEntry
  | routeEntry
  | vlan
  | vlanMember
  | hostifPacket
  | tunnelMap
  | tunnel
  | tunnelTermTableEntry
  | fdbFlush
  | nextHopGroupMember
  | stpPort
  | rpfGroup
  | rpfGroupMember
  | l2mcGroup
  | l2mcGroupMember
  | ipmcGroup
  | ipmcGroupMember
  | l2mcEntry
  | ipmcEntry
  | mcastFdbEntry
  | hostifUserDefinedTrap
  | bridge
  | bridgePort
  | tunnelMapEntry
  | tam
  | debugCounter
  deriving DecidableEq

namespace ObjectType

/-- The number of a type, as object ids carry it.  The numbering has a gap. -/
def number : ObjectType → Nat
  | .null => 0
  | .port => 1
  | .lag => 2
  | .virtualRouter => 3
  | .nextHop => 4
  | .nextHopGroup => 5
  | .routerInterface => 6
  | .aclTable => 7
  | .aclEntry => 8
  | .aclCounter => 9
  | .aclRange => 10
  | .aclTableGroup => 11
  | .aclTableGroupMember => 12
  | .hostif => 13
  | .mirrorSession => 14
  | .samplepacket => 15
  | .stp => 16
  | .hostifTrapGroup => 17
  | .policer => 18
  | .wred => 19
  | .qosMap => 20
  | .queue => 21
  | .scheduler => 22
  | .schedulerGroup => 23
  | .bufferPool => 24
  | .bufferProfile => 25
  | .ingressPriorityGroup => 26
  | .lagMember => 27
  | .hash => 28
  | .udf => 29
  | .udfMatch => 30
  | .udfGroup => 31
  | .fdbEntry => 32
  | .switch => 33
  | .hostifTrap => 34
  | .hostifTableEntry => 35
  | .neighborEntry => 36
  | .routeEntry => 37
  | .vlan => 38
  | .vlanMember => 39
  | .hostifPacket => 40
  | .tunnelMap => 41
  | .tunnel => 42
  | .tunnelTermTableEntry => 43
  | .fdbFlush => 44
  | .nextHopGroupMember => 45
  | .stpPort => 46
  | .rpfGroup => 47
  | .rpfGroupMember => 48
  | .l2mcGroup => 49
  | .l2mcGroupMember => 50
  | .ipmcGroup => 51
  | .ipmcGroupMember => 52
  | .l2mcEntry => 53
  | .ipmcEntry => 54
  | .mcastFdbEntry => 55
  | .hostifUserDefinedTrap => 56
  | .bridge => 57
  | .bridgePort => 58
  | .tunnelMapEntry => 59
  | .tam => 60
  | .debugCounter => 80

/-- The word for a type. -/
def name : ObjectType → String
  | .null => "SAI_OBJECT_TYPE_NULL"
  | .port => "SAI_OBJECT_TYPE_PORT"
  | .lag => "SAI_OBJECT_TYPE_LAG"
  | .virtualRouter => "SAI_OBJECT_TYPE_VIRTUAL_ROUTER"
  | .nextHop => "SAI_OBJECT_TYPE_NEXT_HOP"
  | .nextHopGroup => "SAI_OBJECT_TYPE_NEXT_HOP_GROUP"
  | .routerInterface => "SAI_OBJECT_TYPE_ROUTER_INTERFACE"
  | .aclTable => "SAI_OBJECT_TYPE_ACL_TABLE"
  | .aclEntry => "SAI_OBJECT_TYPE_ACL_ENTRY"
  | .aclCounter => "SAI_OBJECT_TYPE_ACL_COUNTER"
  | .aclRange => "SAI_OBJECT_TYPE_ACL_RANGE"
  | .aclTableGroup => "SAI_OBJECT_TYPE_ACL_TABLE_GROUP"
  | .aclTableGroupMember => "SAI_OBJECT_TYPE_ACL_TABLE_GROUP_MEMBER"
  | .hostif => "SAI_OBJECT_TYPE_HOSTIF"
  | .mirrorSession => "SAI_OBJECT_TYPE_MIRROR_SESSION"
  | .samplepacket => "SAI_OBJECT_TYPE_SAMPLEPACKET"
  | .stp => "SAI_OBJECT_TYPE_STP"
  | .hostifTrapGroup => "SAI_OBJECT_TYPE_HOSTIF_TRAP_GROUP"
  | .policer => "SAI_OBJECT_TYPE_POLICER"
  | .wred => "SAI_OBJECT_TYPE_WRED"
  | .qosMap => "SAI_OBJECT_TYPE_QOS_MAP"
  | .queue => "SAI_OBJECT_TYPE_QUEUE"
  | .scheduler => "SAI_OBJECT_TYPE_SCHEDULER"
  | .schedulerGroup => "SAI_OBJECT_TYPE_SCHEDULER_GROUP"
  | .bufferPool => "SAI_OBJECT_TYPE_BUFFER_POOL"
  | .bufferProfile => "SAI_OBJECT_TYPE_BUFFER_PROFILE"
  | .ingressPriorityGroup => "SAI_OBJECT_TYPE_INGRESS_PRIORITY_GROUP"
  | .lagMember => "SAI_OBJECT_TYPE_LAG_MEMBER"
  | .hash => "SAI_OBJECT_TYPE_HASH"
  | .udf => "SAI_OBJECT_TYPE_UDF"
  | .udfMatch => "SAI_OBJECT_TYPE_UDF_MATCH"
  | .udfGroup => "SAI_OBJECT_TYPE_UDF_GROUP"
  | .fdbEntry => "SAI_OBJECT_TYPE_FDB_ENTRY"
  | .switch => "SAI_OBJECT_TYPE_SWITCH"
  | .hostifTrap => "SAI_OBJECT_TYPE_HOSTIF_TRAP"
  | .hostifTableEntry => "SAI_OBJECT_TYPE_HOSTIF_TABLE_ENTRY"
  | .neighborEntry => "SAI_OBJECT_TYPE_NEIGHBOR_ENTRY"
  | .routeEntry => "SAI_OBJECT_TYPE_ROUTE_ENTRY"
  | .vlan => "SAI_OBJECT_TYPE_VLAN"
  | .vlanMember => "SAI_OBJECT_TYPE_VLAN_MEMBER"
  | .hostifPacket => "SAI_OBJECT_TYPE_HOSTIF_PACKET"
  | .tunnelMap => "SAI_OBJECT_TYPE_TUNNEL_MAP"
  | .tunnel => "SAI_OBJECT_TYPE_TUNNEL"
  | .tunnelTermTableEntry => "SAI_OBJECT_TYPE_TUNNEL_TERM_TABLE_ENTRY"
  | .fdbFlush => "SAI_OBJECT_TYPE_FDB_FLUSH"
  | .nextHopGroupMember => "SAI_OBJECT_TYPE_NEXT_HOP_GROUP_MEMBER"
  | .stpPort => "SAI_OBJECT_TYPE_STP_PORT"
  | .rpfGroup => "SAI_OBJECT_TYPE_RPF_GROUP"
  | .rpfGroupMember => "SAI_OBJECT_TYPE_RPF_GROUP_MEMBER"
  | .l2mcGroup => "SAI_OBJECT_TYPE_L2MC_GROUP"
  | .l2mcGroupMember => "SAI_OBJECT_TYPE_L2MC_GROUP_MEMBER"
  | .ipmcGroup => "SAI_OBJECT_TYPE_IPMC_GROUP"
  | .ipmcGroupMember => "SAI_OBJECT_TYPE_IPMC_GROUP_MEMBER"
  | .l2mcEntry => "SAI_OBJECT_TYPE_L2MC_ENTRY"
  | .ipmcEntry => "SAI_OBJECT_TYPE_IPMC_ENTRY"
  | .mcastFdbEntry => "SAI_OBJECT_TYPE_MCAST_FDB_ENTRY"
  | .hostifUserDefinedTrap => "SAI_OBJECT_TYPE_HOSTIF_USER_DEFINED_TRAP"
  | .bridge => "SAI_OBJECT_TYPE_BRIDGE"
  | .bridgePort => "SAI_OBJECT_TYPE_BRIDGE_PORT"
  | .tunnelMapEntry => "SAI_OBJECT_TYPE_TUNNEL_MAP_ENTRY"
  | .tam => "SAI_OBJECT_TYPE_TAM"
  | .debugCounter => "SAI_OBJECT_TYPE_DEBUG_COUNTER"

/-- All types, in ascending order of their numbers. -/
def all : List ObjectType :=
  [.null, .port, .lag, .virtualRouter, .nextHop, .nextHopGroup, .routerInterface, .aclTable,
    .aclEntry, .aclCounter, .aclRange, .aclTableGroup, .aclTableGroupMember, .hostif,
    .mirrorSession, .samplepacket, .stp, .hostifTrapGroup, .policer, .wred, .qosMap, .queue,
    .scheduler, .schedulerGroup, .bufferPool, .bufferProfile, .ingressPriorityGroup,
    .lagMember, .hash, .udf, .udfMatch, .udfGroup, .fdbEntry, .switch, .hostifTrap,
    .hostifTableEntry, .neighborEntry, .routeEntry, .vlan, .vlanMember, .hostifPacket,
    .tunnelMap, .tunnel, .tunnelTermTableEntry, .fdbFlush, .nextHopGroupMember, .stpPort,
    .rpfGroup, .rpfGroupMember, .l2mcGroup, .l2mcGroupMember, .ipmcGroup, .ipmcGroupMember,
    .l2mcEntry, .ipmcEntry, .mcastFdbEntry, .hostifUserDefinedTrap, .bridge, .bridgePort,
    .tunnelMapEntry, .tam, .debugCounter]

instance : Vocabulary ObjectType where
  label := "object type"
  words := all
  name := name
  mem_words type := by cases type <;> decide
  nodup_names := Text.nodup_of_fingerprints (by decide +kernel)

/-- The type with a number. -/
def ofNumber? (number : Nat) : Option ObjectType :=
  all.find? fun type => type.number = number

/-- Whether objects of the type are addressed by a structural key. -/
def isEntry : ObjectType → Bool
  | .fdbEntry | .neighborEntry | .routeEntry => true
  | .mcastFdbEntry | .l2mcEntry | .ipmcEntry => true
  | _ => false

/-- Whether objects of the type are created and addressed by an object id. -/
def isIdAddressed (type : ObjectType) : Bool :=
  !type.isEntry && type ≠ .null && type ≠ .fdbFlush && type ≠ .hostifPacket

theorem number_lt (type : ObjectType) : type.number < 256 := by
  cases type <;> decide

@[simp] theorem ofNumber?_number (type : ObjectType) :
    ofNumber? type.number = some type := by
  cases type <;> rfl

theorem number_of_ofNumber? {number : Nat} {type : ObjectType}
    (found : ofNumber? number = some type) : type.number = number := by
  simpa using List.find?_some found

theorem number_injective {first second : ObjectType}
    (same : first.number = second.number) : first = second := by
  have read := ofNumber?_number first
  rw [same, ofNumber?_number] at read
  exact (Option.some.inj read).symm

end ObjectType

end SwitchAbstraction
