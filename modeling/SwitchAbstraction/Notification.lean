import SwitchAbstraction.Enumeration
import SwitchAbstraction.Message

/-!
# Notifications

What a switch reports on its own account.  A notification travels as a
message whose operation names its kind, whose key is the switch it comes from
and whose only field holds the payload as JSON.
-/

namespace SwitchAbstraction

/-- One forwarding entry that an event is about. -/
structure FdbEvent where
  type : FdbEventType
  entry : FdbKey
  attrs : List Attribute
  deriving DecidableEq

/-- The operational status that a port has changed to. -/
structure PortStatusChange where
  port : ObjectId
  status : PortOperStatus
  deriving DecidableEq

/-- The addition or deletion of a port. -/
structure PortEvent where
  port : ObjectId
  event : PortEventType
  deriving DecidableEq

/-- A packet that reached the processor. -/
structure PacketEvent where
  switchId : ObjectId
  packet : List UInt8
  attrs : List Attribute
  deriving DecidableEq

/-- What a switch reports. -/
inductive Notification
  | switchStateChange (switchId : ObjectId) (status : SwitchOperStatus)
  | fdbEvents (events : List FdbEvent)
  | portStatusChanges (changes : List PortStatusChange)
  | portEvents (events : List PortEvent)
  | switchShutdownRequest (switchId : ObjectId)
  | packet (event : PacketEvent)
  deriving DecidableEq

namespace FdbEvent

/-- The members of the record. -/
def toJson (event : FdbEvent) : Json :=
  .object
    [("event_type", .string event.type.name), ("fdb_entry", event.entry.toJson),
      ("attrs", .ofList Attribute.toJson event.attrs)]

/-- Reads the record. -/
def ofJson? (json : Json) : Option FdbEvent := do
  match ← json.fields? ["event_type", "fdb_entry", "attrs"] with
  | [type, entry, attrs] =>
      return {
        type := ← type.named? (Vocabulary.ofName? FdbEventType)
        entry := ← FdbKey.ofJson? entry
        attrs := ← attrs.list? Attribute.ofJson? }
  | _ => none

end FdbEvent

namespace PortStatusChange

/-- The members of the record. -/
def toJson (change : PortStatusChange) : Json :=
  .object [("port_id", change.port.toJson), ("status", .string change.status.name)]

/-- Reads the record. -/
def ofJson? (json : Json) : Option PortStatusChange := do
  match ← json.fields? ["port_id", "status"] with
  | [port, status] =>
      return ⟨← ObjectId.ofJson? port, ← status.named? (Vocabulary.ofName? PortOperStatus)⟩
  | _ => none

end PortStatusChange

namespace PortEvent

/-- The members of the record. -/
def toJson (event : PortEvent) : Json :=
  .object [("port_id", event.port.toJson), ("event", .string event.event.name)]

/-- Reads the record. -/
def ofJson? (json : Json) : Option PortEvent := do
  match ← json.fields? ["port_id", "event"] with
  | [port, event] =>
      return ⟨← ObjectId.ofJson? port, ← event.named? (Vocabulary.ofName? PortEventType)⟩
  | _ => none

end PortEvent

namespace PacketEvent

/-- The members of the record. -/
def toJson (event : PacketEvent) : Json :=
  .object
    [("switch_id", event.switchId.toJson),
      ("packet", .ofList (fun byte => .ofNat byte.toNat) event.packet),
      ("attrs", .ofList Attribute.toJson event.attrs)]

/-- Reads the record. -/
def ofJson? (json : Json) : Option PacketEvent := do
  match ← json.fields? ["switch_id", "packet", "attrs"] with
  | [switchId, packet, attrs] =>
      return {
        switchId := ← ObjectId.ofJson? switchId
        packet := ← packet.list? Json.uint8?
        attrs := ← attrs.list? Attribute.ofJson? }
  | _ => none

end PacketEvent

namespace Notification

/-- The operation that names the kind of a notification. -/
def op : Notification → String
  | .switchStateChange .. => "switch_state_change"
  | .fdbEvents _ => "fdb_event"
  | .portStatusChanges _ => "port_state_change"
  | .portEvents _ => "port_event"
  | .switchShutdownRequest _ => "switch_shutdown_request"
  | .packet _ => "packet_event"

/-- The switch of the first thing reported; an empty report comes from no switch. -/
def switchId : Notification → ObjectId
  | .switchStateChange switchId _ => switchId
  | .fdbEvents events => (events.head?.map fun event => event.entry.switchId).getD .null
  | .portStatusChanges changes =>
      (changes.head?.map fun change => change.port.switchId).getD .null
  | .portEvents events => (events.head?.map fun event => event.port.switchId).getD .null
  | .switchShutdownRequest switchId => switchId
  | .packet event => event.switchId

/-- The payload of a notification. -/
def payload : Notification → Json
  | .switchStateChange switchId status =>
      .object [("switch_id", switchId.toJson), ("status", .string status.name)]
  | .fdbEvents events => .ofList FdbEvent.toJson events
  | .portStatusChanges changes => .ofList PortStatusChange.toJson changes
  | .portEvents events => .ofList PortEvent.toJson events
  | .switchShutdownRequest switchId => switchId.toJson
  | .packet event => event.toJson

/-- The field that holds the payload. -/
def dataField : String :=
  "data"

/-- The key of a notification: the switch it comes from, without an id if there is none. -/
def key (notification : Notification) : String :=
  let switchId := notification.switchId
  if switchId.isNull then ObjectType.switch.name
  else ObjectType.switch.name ++ ":" ++ switchId.text

/-- The message that carries a notification. -/
def toMessage (notification : Notification) : Message :=
  ⟨notification.op, notification.key, [(dataField, notification.payload.text)]⟩

/-- Reads the payload of a change of a switch's state. -/
def switchStateOfJson? (json : Json) : Option Notification := do
  match ← json.fields? ["switch_id", "status"] with
  | [switchId, status] =>
      return .switchStateChange (← ObjectId.ofJson? switchId)
        (← status.named? (Vocabulary.ofName? SwitchOperStatus))
  | _ => none

/-- The reader for the payloads of an operation, if it names a kind of notification. -/
def reader? (op : String) : Option (Json → Option Notification) :=
  if op = "switch_state_change" then some switchStateOfJson?
  else if op = "fdb_event" then
    some fun json => (json.list? FdbEvent.ofJson?).map .fdbEvents
  else if op = "port_state_change" then
    some fun json => (json.list? PortStatusChange.ofJson?).map .portStatusChanges
  else if op = "port_event" then
    some fun json => (json.list? PortEvent.ofJson?).map .portEvents
  else if op = "switch_shutdown_request" then
    some fun json => (ObjectId.ofJson? json).map .switchShutdownRequest
  else if op = "packet_event" then
    some fun json => (PacketEvent.ofJson? json).map .packet
  else none

/-- Reads the notification that a message carries. -/
def ofMessage (message : Message) : Except Fault Notification :=
  match message.field? dataField with
  | none => .error (.invalid (.notificationWithoutData message.op))
  | some data =>
      match reader? message.op with
      | none => .error (.notImplemented (.notification message.op))
      | some read =>
          match (Json.ofText? data).bind read with
          | some notification => .ok notification
          | none => .error (.invalid (.undecodableNotification message.op))

/-- What a listener hears of a message; unreadable messages are dropped. -/
def heard (message : Message) : Option Notification :=
  (ofMessage message).toOption

end Notification

end SwitchAbstraction
