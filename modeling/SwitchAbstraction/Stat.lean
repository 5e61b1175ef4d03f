import SwitchAbstraction.ObjectType
import SwitchAbstraction.OrderedMap

/-!
# Statistics

The counters that a switch keeps about its objects.  Each statistic belongs
to one object type.
-/

namespace SwitchAbstraction

/-- A statistic. -/
inductive Stat
  | portIfInOctets
  | portIfInUcastPkts
  | portIfInNonUcastPkts
  | portIfInDiscards
  | portIfInErrors
  | portIfOutOctets
  | portIfOutUcastPkts
  | portIfOutNonUcastPkts
  | portIfOutDiscards
  | portIfOutErrors
  | portInDropReasonRangeBase
  | portOutDropReasonRangeBase
  | queuePackets
  | queueBytes
  | queueDroppedPackets
  | queueDroppedBytes
  | ingressPriorityGroupPackets
  | ingressPriorityGroupBytes
  | ingressPriorityGroupXoffRoomWatermarkBytes
  | bufferPoolCurrOccupancyBytes
  | bufferPoolWatermarkBytes
  | bufferPoolDroppedPackets
  | routerInterfaceInOctets
  | routerInterfaceInPackets
  | routerInterfaceOutOctets
  | routerInterfaceOutPackets
  | routerInterfaceInErrorPackets
  | routerInterfaceOutErrorPackets
  | debugCounterPackets
  deriving DecidableEq

namespace Stat

/-- The type of the objects that have the statistic. -/
def objectType : Stat → ObjectType
  | .portIfInOctets | .portIfInUcastPkts | .portIfInNonUcastPkts | .portIfInDiscards
  | .portIfInErrors | .portIfOutOctets | .portIfOutUcastPkts | .portIfOutNonUcastPkts
  | .portIfOutDiscards | .portIfOutErrors | .portInDropReasonRangeBase
  | .portOutDropReasonRangeBase => .port
  | .queuePackets | .queueBytes | .queueDroppedPackets | .queueDroppedBytes => .queue
  | .ingressPriorityGroupPackets | .ingressPriorityGroupBytes
  | .ingressPriorityGroupXoffRoomWatermarkBytes => .ingressPriorityGroup
  | .bufferPoolCurrOccupancyBytes | .bufferPoolWatermarkBytes
  | .bufferPoolDroppedPackets => .bufferPool
  | .routerInterfaceInOctets | .routerInterfaceInPackets | .routerInterfaceOutOctets
  | .routerInterfaceOutPackets | .routerInterfaceInErrorPackets
  | .routerInterfaceOutErrorPackets => .routerInterface
  | .debugCounterPackets => .debugCounter

/-- The word for a statistic. -/
def name : Stat → String
  | .portIfInOctets => "SAI_PORT_STAT_IF_IN_OCTETS"
  | .portIfInUcastPkts => "SAI_PORT_STAT_IF_IN_UCAST_PKTS"
  | .portIfInNonUcastPkts => "SAI_PORT_STAT_IF_IN_NON_UCAST_PKTS"
  | .portIfInDiscards => "SAI_PORT_STAT_IF_IN_DISCARDS"
  | .portIfInErrors => "SAI_PORT_STAT_IF_IN_ERRORS"
  | .portIfOutOctets => "SAI_PORT_STAT_IF_OUT_OCTETS"
  | .portIfOutUcastPkts => "SAI_PORT_STAT_IF_OUT_UCAST_PKTS"
  | .portIfOutNonUcastPkts => "SAI_PORT_STAT_IF_OUT_NON_UCAST_PKTS"
  | .portIfOutDiscards => "SAI_PORT_STAT_IF_OUT_DISCARDS"
  | .portIfOutErrors => "SAI_PORT_STAT_IF_OUT_ERRORS"
  | .portInDropReasonRangeBase => "SAI_PORT_STAT_IN_DROP_REASON_RANGE_BASE"
  | .portOutDropReasonRangeBase => "SAI_PORT_STAT_OUT_DROP_REASON_RANGE_BASE"
  | .queuePackets => "SAI_QUEUE_STAT_PACKETS"
  | .queueBytes => "SAI_QUEUE_STAT_BYTES"
  | .queueDroppedPackets => "SAI_QUEUE_STAT_DROPPED_PACKETS"
  | .queueDroppedBytes => "SAI_QUEUE_STAT_DROPPED_BYTES"
  | .ingressPriorityGroupPackets => "SAI_INGRESS_PRIORITY_GROUP_STAT_PACKETS"
  | .ingressPriorityGroupBytes => "SAI_INGRESS_PRIORITY_GROUP_STAT_BYTES"
  | .ingressPriorityGroupXoffRoomWatermarkBytes =>
      "SAI_INGRESS_PRIORITY_GROUP_STAT_XOFF_ROOM_WATERMARK_BYTES"
  | .bufferPoolCurrOccupancyBytes => "SAI_BUFFER_POOL_STAT_CURR_OCCUPANCY_BYTES"
  | .bufferPoolWatermarkBytes => "SAI_BUFFER_POOL_STAT_WATERMARK_BYTES"
  | .bufferPoolDroppedPackets => "SAI_BUFFER_POOL_STAT_DROPPED_PACKETS"
  | .routerInterfaceInOctets => "SAI_ROUTER_INTERFACE_STAT_IN_OCTETS"
  | .routerInterfaceInPackets => "SAI_ROUTER_INTERFACE_STAT_IN_PACKETS"
  | .routerInterfaceOutOctets => "SAI_ROUTER_INTERFACE_STAT_OUT_OCTETS"
  | .routerInterfaceOutPackets => "SAI_ROUTER_INTERFACE_STAT_OUT_PACKETS"
  | .routerInterfaceInErrorPackets => "SAI_ROUTER_INTERFACE_STAT_IN_ERROR_PACKETS"
  | .routerInterfaceOutErrorPackets => "SAI_ROUTER_INTERFACE_STAT_OUT_ERROR_PACKETS"
  | .debugCounterPackets => "SAI_DEBUG_COUNTER_STAT_PACKETS"

/-- All statistics, grouped by object type. -/
def all : List Stat :=
  [.portIfInOctets, .portIfInUcastPkts, .portIfInNonUcastPkts, .portIfInDiscards,
    .portIfInErrors, .portIfOutOctets, .portIfOutUcastPkts, .portIfOutNonUcastPkts,
    .portIfOutDiscards, .portIfOutErrors, .portInDropReasonRangeBase,
    .portOutDropReasonRangeBase, .queuePackets, .queueBytes, .queueDroppedPackets,
    .queueDroppedBytes, .ingressPriorityGroupPackets, .ingressPriorityGroupBytes,
    .ingressPriorityGroupXoffRoomWatermarkBytes, .bufferPoolCurrOccupancyBytes,
    .bufferPoolWatermarkBytes, .bufferPoolDroppedPackets, .routerInterfaceInOctets,
    .routerInterfaceInPackets, .routerInterfaceOutOctets, .routerInterfaceOutPackets,
    .routerInterfaceInErrorPackets, .routerInterfaceOutErrorPackets, .debugCounterPackets]

instance : Vocabulary Stat where
  label := "stat"
  words := all
  name := name
  mem_words stat := by cases stat <;> decide
  nodup_names := Text.nodup_of_fingerprints (by decide +kernel)

/-- Statistics are ordered as they are declared. -/
instance : Ranked Stat where
  rank stat := [stat.ctorIdx]
  rank_injective {first second} same := by
    have readBack : ∀ stat : Stat, all[stat.ctorIdx]? = some stat := by
      intro stat
      cases stat <;> rfl
    have read := readBack first
    rw [List.singleton_inj.mp same, readBack] at read
    exact (Option.some.inj read).symm

end Stat

/-- Whether reading counters also resets them. -/
inductive StatsMode
  | read
  | readAndClear
  deriving DecidableEq, Inhabited

/-- The word for a mode in a request. -/
def StatsMode.name : StatsMode → String
  | .read => "read"
  | .readAndClear => "read_and_clear"

instance : Vocabulary StatsMode where
  label := "stats mode"
  words := [.read, .readAndClear]
  name := StatsMode.name
  mem_words mode := by cases mode <;> decide
  nodup_names := by decide

end SwitchAbstraction
