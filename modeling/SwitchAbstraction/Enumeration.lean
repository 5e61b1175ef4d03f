import SwitchAbstraction.Vocabulary

/-!
# Enumerated values

Attribute values of an enumerated kind are stored as their number and shown
as their word.
-/

namespace SwitchAbstraction

/-- A vocabulary whose words also have distinct numbers. -/
class Enumeration (α : Type) extends Vocabulary α where
  code : α → Int32
  ofCode? : Int32 → Option α
  ofCode?_eq_some_iff : ∀ {raw word}, ofCode? raw = some word ↔ code word = raw

/-- Whether a forwarding entry is learned, and ages, or is pinned. -/
inductive FdbEntryType
  | dynamic
  | static
  deriving DecidableEq

namespace FdbEntryType

/-- The word for the value. -/
def name : FdbEntryType → String
  | .dynamic => "SAI_FDB_ENTRY_TYPE_DYNAMIC"
  | .static => "SAI_FDB_ENTRY_TYPE_STATIC"

/-- The number of the value. -/
def code : FdbEntryType → Int32
  | .dynamic => 0
  | .static => 1

/-- The value with a number. -/
def ofCode? (raw : Int32) : Option FdbEntryType :=
  [.dynamic, .static].find? fun value => value.code = raw

instance : Enumeration FdbEntryType where
  label := "FdbEntryType value"
  words := [.dynamic, .static]
  name := name
  mem_words value := by cases value <;> decide
  nodup_names := by decide
  code := code
  ofCode? := ofCode?
  ofCode?_eq_some_iff {raw value} :=
    ⟨fun found => by simpa using List.find?_some found,
      fun same => by subst same; cases value <;> rfl⟩

end FdbEntryType

/-- Which entries a flush selects by their type. -/
inductive FdbFlushEntryType
  | dynamic
  | static
  | all
  deriving DecidableEq

namespace FdbFlushEntryType

/-- The word for the value. -/
def name : FdbFlushEntryType → String
  | .dynamic => "SAI_FDB_FLUSH_ENTRY_TYPE_DYNAMIC"
  | .static => "SAI_FDB_FLUSH_ENTRY_TYPE_STATIC"
  | .all => "SAI_FDB_FLUSH_ENTRY_TYPE_ALL"

/-- The number of the value. -/
def code : FdbFlushEntryType → Int32
  | .dynamic => 0
  | .static => 1
  | .all => 2

/-- The value with a number. -/
def ofCode? (raw : Int32) : Option FdbFlushEntryType :=
  [.dynamic, .static, .all].find? fun value => value.code = raw

instance : Enumeration FdbFlushEntryType where
  label := "FdbFlushEntryType value"
  words := [.dynamic, .static, .all]
  name := name
  mem_words value := by cases value <;> decide
  nodup_names := by decide
  code := code
  ofCode? := ofCode?
  ofCode?_eq_some_iff {raw value} :=
    ⟨fun found => by simpa using List.find?_some found,
      fun same => by subst same; cases value <;> rfl⟩

end FdbFlushEntryType

/-- What happened to a forwarding entry. -/
inductive FdbEventType
  | learned
  | aged
  | move
  | flushed
  deriving DecidableEq

namespace FdbEventType

/-- The word for the value. -/
def name : FdbEventType → String
  | .learned => "SAI_FDB_EVENT_LEARNED"
  | .aged => "SAI_FDB_EVENT_AGED"
  | .move => "SAI_FDB_EVENT_MOVE"
  | .flushed => "SAI_FDB_EVENT_FLUSHED"

/-- The number of the value. -/
def code : FdbEventType → Int32
  | .learned => 0
  | .aged => 1
  | .move => 2
  | .flushed => 3

/-- The value with a number. -/
def ofCode? (raw : Int32) : Option FdbEventType :=
  [.learned, .aged, .move, .flushed].find? fun value => value.code = raw

instance : Enumeration FdbEventType where
  label := "FdbEventType value"
  words := [.learned, .aged, .move, .flushed]
  name := name
  mem_words value := by cases value <;> decide
  nodup_names := by decide
  code := code
  ofCode? := ofCode?
  ofCode?_eq_some_iff {raw value} :=
    ⟨fun found => by simpa using List.find?_some found,
      fun same => by subst same; cases value <;> rfl⟩

end FdbEventType

/-- What becomes of a matching packet. -/
inductive PacketAction
  | drop
  | forward
  | copy
  | copyCancel
  | trap
  | log
  | deny
  | transit
  deriving DecidableEq

namespace PacketAction

/-- The word for the value. -/
def name : PacketAction → String
  | .drop => "SAI_PACKET_ACTION_DROP"
  | .forward => "SAI_PACKET_ACTION_FORWARD"
  | .copy => "SAI_PACKET_ACTION_COPY"
  | .copyCancel => "SAI_PACKET_ACTION_COPY_CANCEL"
  | .trap => "SAI_PACKET_ACTION_TRAP"
  | .log => "SAI_PACKET_ACTION_LOG"
  | .deny => "SAI_PACKET_ACTION_DENY"
  | .transit => "SAI_PACKET_ACTION_TRANSIT"

/-- The number of the value. -/
def code : PacketAction → Int32
  | .drop => 0
  | .forward => 1
  | .copy => 2
  | .copyCancel => 3
  | .trap => 4
  | .log => 5
  | .deny => 6
  | .transit => 7

/-- The value with a number. -/
def ofCode? (raw : Int32) : Option PacketAction :=
  [.drop, .forward, .copy, .copyCancel,
    .trap, .log, .deny, .transit].find? fun value => value.code = raw

instance : Enumeration PacketAction where
  label := "PacketAction value"
  words := [.drop, .forward, .copy, .copyCancel, .trap, .log, .deny, .transit]
  name := name
  mem_words value := by cases value <;> decide
  nodup_names := by decide
  code := code
  ofCode? := ofCode?
  ofCode?_eq_some_iff {raw value} :=
    ⟨fun found => by simpa using List.find?_some found,
      fun same => by subst same; cases value <;> rfl⟩

end PacketAction

/-- Whether a port carries traffic. -/
inductive PortOperStatus
  | unknown
  | up
  | down
  | testing
  | notPresent
  deriving DecidableEq

namespace PortOperStatus

/-- The word for the value. -/
def name : PortOperStatus → String
  | .unknown => "SAI_PORT_OPER_STATUS_UNKNOWN"
  | .up => "SAI_PORT_OPER_STATUS_UP"
  | .down => "SAI_PORT_OPER_STATUS_DOWN"
  | .testing => "SAI_PORT_OPER_STATUS_TESTING"
  | .notPresent => "SAI_PORT_OPER_STATUS_NOT_PRESENT"

/-- The number of the value. -/
def code : PortOperStatus → Int32
  | .unknown => 0
  | .up => 1
  | .down => 2
  | .testing => 3
  | .notPresent => 4

/-- The value with a number. -/
def ofCode? (raw : Int32) : Option PortOperStatus :=
  [.unknown, .up, .down, .testing, .notPresent].find? fun value => value.code = raw

instance : Enumeration PortOperStatus where
  label := "PortOperStatus value"
  words := [.unknown, .up, .down, .testing, .notPresent]
  name := name
  mem_words value := by cases value <;> decide
  nodup_names := by decide
  code := code
  ofCode? := ofCode?
  ofCode?_eq_some_iff {raw value} :=
    ⟨fun found => by simpa using List.find?_some found,
      fun same => by subst same; cases value <;> rfl⟩

end PortOperStatus

/-- Whether a port is a front panel port or leads to the processor. -/
inductive PortType
  | logical
  | cpu
  deriving DecidableEq

namespace PortType

/-- The word for the value. -/
def name : PortType → String
  | .logical => "SAI_PORT_TYPE_LOGICAL"
  | .cpu => "SAI_PORT_TYPE_CPU"

/-- The number of the value. -/
def code : PortType → Int32
  | .logical => 0
  | .cpu => 1

/-- The value with a number. -/
def ofCode? (raw : Int32) : Option PortType :=
  [.logical, .cpu].find? fun value => value.code = raw

instance : Enumeration PortType where
  label := "PortType value"
  words := [.logical, .cpu]
  name := name
  mem_words value := by cases value <;> decide
  nodup_names := by decide
  code := code
  ofCode? := ofCode?
  ofCode?_eq_some_iff {raw value} :=
    ⟨fun found => by simpa using List.find?_some found,
      fun same => by subst same; cases value <;> rfl⟩

end PortType

/-- Whether a port was added or deleted. -/
inductive PortEventType
  | add
  | delete
  deriving DecidableEq

namespace PortEventType

/-- The word for the value. -/
def name : PortEventType → String
  | .add => "SAI_PORT_EVENT_ADD"
  | .delete => "SAI_PORT_EVENT_DELETE"

/-- The number of the value. -/
def code : PortEventType → Int32
  | .add => 0
  | .delete => 1

/-- The value with a number. -/
def ofCode? (raw : Int32) : Option PortEventType :=
  [.add, .delete].find? fun value => value.code = raw

instance : Enumeration PortEventType where
  label := "PortEventType value"
  words := [.add, .delete]
  name := name
  mem_words value := by cases value <;> decide
  nodup_names := by decide
  code := code
  ofCode? := ofCode?
  ofCode?_eq_some_iff {raw value} :=
    ⟨fun found => by simpa using List.find?_some found,
      fun same => by subst same; cases value <;> rfl⟩

end PortEventType

/-- Whether a switch is operational. -/
inductive SwitchOperStatus
  | unknown
  | up
  | down
  | failed
  deriving DecidableEq

namespace SwitchOperStatus

/-- The word for the value. -/
def name : SwitchOperStatus → String
  | .unknown => "SAI_SWITCH_OPER_STATUS_UNKNOWN"
  | .up => "SAI_SWITCH_OPER_STATUS_UP"
  | .down => "SAI_SWITCH_OPER_STATUS_DOWN"
  | .failed => "SAI_SWITCH_OPER_STATUS_FAILED"

/-- The number of the value. -/
def code : SwitchOperStatus → Int32
  | .unknown => 0
  | .up => 1
  | .down => 2
  | .failed => 3

/-- The value with a number. -/
def ofCode? (raw : Int32) : Option SwitchOperStatus :=
  [.unknown, .up, .down, .failed].find? fun value => value.code = raw

instance : Enumeration SwitchOperStatus where
  label := "SwitchOperStatus value"
  words := [.unknown, .up, .down, .failed]
  name := name
  mem_words value := by cases value <;> decide
  nodup_names := by decide
  code := code
  ofCode? := ofCode?
  ofCode?_eq_some_iff {raw value} :=
    ⟨fun found => by simpa using List.find?_some found,
      fun same => by subst same; cases value <;> rfl⟩

end SwitchOperStatus

/-- The kind of a bridge. -/
inductive BridgeType
  | oneQ
  | oneD
  deriving DecidableEq

namespace BridgeType

/-- The word for the value. -/
def name : BridgeType → String
  | .oneQ => "SAI_BRIDGE_TYPE_1Q"
  | .oneD => "SAI_BRIDGE_TYPE_1D"

/-- The number of the value. -/
def code : BridgeType → Int32
  | .oneQ => 0
  | .oneD => 1

/-- The value with a number. -/
def ofCode? (raw : Int32) : Option BridgeType :=
  [.oneQ, .oneD].find? fun value => value.code = raw

instance : Enumeration BridgeType where
  label := "BridgeType value"
  words := [.oneQ, .oneD]
  name := name
  mem_words value := by cases value <;> decide
  nodup_names := by decide
  code := code
  ofCode? := ofCode?
  ofCode?_eq_some_iff {raw value} :=
    ⟨fun found => by simpa using List.find?_some found,
      fun same => by subst same; cases value <;> rfl⟩

end BridgeType

/-- What a bridge port is bound to. -/
inductive BridgePortType
  | port
  | subPort
  | oneQRouter
  | oneDRouter
  | tunnel
  deriving DecidableEq

namespace BridgePortType

/-- The word for the value. -/
def name : BridgePortType → String
  | .port => "SAI_BRIDGE_PORT_TYPE_PORT"
  | .subPort => "SAI_BRIDGE_PORT_TYPE_SUB_PORT"
  | .oneQRouter => "SAI_BRIDGE_PORT_TYPE_1Q_ROUTER"
  | .oneDRouter => "SAI_BRIDGE_PORT_TYPE_1D_ROUTER"
  | .tunnel => "SAI_BRIDGE_PORT_TYPE_TUNNEL"

/-- The number of the value. -/
def code : BridgePortType → Int32
  | .port => 0
  | .subPort => 1
  | .oneQRouter => 2
  | .oneDRouter => 3
  | .tunnel => 4

/-- The value with a number. -/
def ofCode? (raw : Int32) : Option BridgePortType :=
  [.port, .subPort, .oneQRouter, .oneDRouter, .tunnel].find? fun value => value.code = raw

instance : Enumeration BridgePortType where
  label := "BridgePortType value"
  words := [.port, .subPort, .oneQRouter, .oneDRouter, .tunnel]
  name := name
  mem_words value := by cases value <;> decide
  nodup_names := by decide
  code := code
  ofCode? := ofCode?
  ofCode?_eq_some_iff {raw value} :=
    ⟨fun found => by simpa using List.find?_some found,
      fun same => by subst same; cases value <;> rfl⟩

end BridgePortType

/-- How the frames of a VLAN member are tagged. -/
inductive VlanTaggingMode
  | untagged
  | tagged
  | priorityTagged
  deriving DecidableEq

namespace VlanTaggingMode

/-- The word for the value. -/
def name : VlanTaggingMode → String
  | .untagged => "SAI_VLAN_TAGGING_MODE_UNTAGGED"
  | .tagged => "SAI_VLAN_TAGGING_MODE_TAGGED"
  | .priorityTagged => "SAI_VLAN_TAGGING_MODE_PRIORITY_TAGGED"

/-- The number of the value. -/
def code : VlanTaggingMode → Int32
  | .untagged => 0
  | .tagged => 1
  | .priorityTagged => 2

/-- The value with a number. -/
def ofCode? (raw : Int32) : Option VlanTaggingMode :=
  [.untagged, .tagged, .priorityTagged].find? fun value => value.code = raw

instance : Enumeration VlanTaggingMode where
  label := "VlanTaggingMode value"
  words := [.untagged, .tagged, .priorityTagged]
  name := name
  mem_words value := by cases value <;> decide
  nodup_names := by decide
  code := code
  ofCode? := ofCode?
  ofCode?_eq_some_iff {raw value} :=
    ⟨fun found => by simpa using List.find?_some found,
      fun same => by subst same; cases value <;> rfl⟩

end VlanTaggingMode

/-- The drops that a debug counter counts. -/
inductive DebugCounterType
  | portInDropReasons
  | portOutDropReasons
  | switchInDropReasons
  | switchOutDropReasons
  deriving DecidableEq

namespace DebugCounterType

/-- The word for the value. -/
def name : DebugCounterType → String
  | .portInDropReasons => "SAI_DEBUG_COUNTER_TYPE_PORT_IN_DROP_REASONS"
  | .portOutDropReasons => "SAI_DEBUG_COUNTER_TYPE_PORT_OUT_DROP_REASONS"
  | .switchInDropReasons => "SAI_DEBUG_COUNTER_TYPE_SWITCH_IN_DROP_REASONS"
  | .switchOutDropReasons => "SAI_DEBUG_COUNTER_TYPE_SWITCH_OUT_DROP_REASONS"

/-- The number of the value. -/
def code : DebugCounterType → Int32
  | .portInDropReasons => 0
  | .portOutDropReasons => 1
  | .switchInDropReasons => 2
  | .switchOutDropReasons => 3

/-- The value with a number. -/
def ofCode? (raw : Int32) : Option DebugCounterType :=
  [.portInDropReasons, .portOutDropReasons,
    .switchInDropReasons, .switchOutDropReasons].find? fun value => value.code = raw

instance : Enumeration DebugCounterType where
  label := "DebugCounterType value"
  words := [.portInDropReasons, .portOutDropReasons, .switchInDropReasons, .switchOutDropReasons]
  name := name
  mem_words value := by cases value <;> decide
  nodup_names := by decide
  code := code
  ofCode? := ofCode?
  ofCode?_eq_some_iff {raw value} :=
    ⟨fun found => by simpa using List.find?_some found,
      fun same => by subst same; cases value <;> rfl⟩

end DebugCounterType

end SwitchAbstraction
