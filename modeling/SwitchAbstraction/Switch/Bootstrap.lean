import SwitchAbstraction.Settings
import SwitchAbstraction.Switch.Reading
import SwitchAbstraction.Switch.Writing

/-!
# Building a new switch

A switch comes up with a default VLAN, a processor port, one port for each
interface of the lane map, a virtual router, a bridge, a trap group, and for
each port a bridge port and a membership in the VLAN.  They are added one by
one, each under an id that is drawn for it, and the switch is told of them on
the way.  Ids that were drawn before a step failed stay drawn.
-/

namespace SwitchAbstraction

/-- A switch that is being built, with the source of its ids. -/
structure Builder where
  switch : Switch
  ids : IdAllocator

/-- Steps of building a switch. -/
abbrev Building := EStateM Fault Builder

namespace Building

/-- Adds an object under a new id. -/
def add (index : UInt8) (type : ObjectType) (attrs : Attributes) : Building ObjectId :=
  fun builder =>
    match builder.switch.place builder.ids index type attrs with
    | (.ok (id, switch), ids) => .ok id ⟨switch, ids⟩
    | (.error fault, ids) => .error fault { builder with ids }

/-- Stores the value of an attribute of the switch itself. -/
def tell (id : AttrId) (value : AttrValue) : Building Unit :=
  modify fun builder =>
    { builder with switch := builder.switch.setAttr (.object builder.switch.id) id value }

/-- The front panel ports that are there. -/
def dataPorts : Building (List ObjectId) := do
  return (← get).switch.dataPorts

end Building

/-- What a new switch is made from. -/
structure Bootstrap where
  index : UInt8
  /-- The last counter in use before. -/
  last : Nat
  settings : Settings
  /-- The attributes that the switch is created with. -/
  given : Attributes

namespace Bootstrap

/-- The source address of a switch that is created without one. -/
def defaultSourceMac : Mac :=
  ⟨[0x52, 0x54, 0x00, 0x12, 0x34, 0x56], rfl⟩

/-- The number of the default VLAN. -/
def defaultVlan : UInt16 :=
  1

/-- The largest frame that a new port takes. -/
def defaultMtu : UInt32 :=
  9100

/-- The number of the learning mode of a new bridge port: learning in hardware. -/
def hardwareLearning : Int32 :=
  2

/-- The attributes of the default VLAN. -/
def vlanAttributes : Attributes :=
  .ofList [⟨.vlanVlanId, .u16 defaultVlan⟩]

/-- The attributes of the processor port. -/
def cpuPortAttributes : Attributes :=
  .ofList
    [⟨.portType, .s32 PortType.cpu.code⟩, ⟨.portOperStatus, .s32 PortOperStatus.up.code⟩]

/-- The attributes of the bridge. -/
def bridgeAttributes : Attributes :=
  .ofList [⟨.bridgeType, .s32 BridgeType.oneQ.code⟩]

/-- The attributes of the bridge port of a port. -/
def bridgePortAttributes (bridge port : ObjectId) : Attributes :=
  .ofList
    [⟨.bridgePortType, .s32 BridgePortType.port.code⟩,
      ⟨.bridgePortPortId, .oid port⟩,
      ⟨.bridgePortBridgeId, .oid bridge⟩,
      ⟨.bridgePortFdbLearningMode, .s32 hardwareLearning⟩,
      ⟨.bridgePortAdminState, .bool true⟩]

/-- The attributes of the VLAN membership of a bridge port. -/
def vlanMemberAttributes (vlan bridgePort : ObjectId) : Attributes :=
  .ofList
    [⟨.vlanMemberVlanId, .oid vlan⟩,
      ⟨.vlanMemberBridgePortId, .oid bridgePort⟩,
      ⟨.vlanMemberVlanTaggingMode, .s32 VlanTaggingMode.untagged.code⟩]

/-- The attributes of the trap group. -/
def trapGroupAttributes : Attributes :=
  .ofList [⟨.hostifTrapGroupAdminState, .bool true⟩, ⟨.hostifTrapGroupQueue, .u32 0⟩]

variable (boot : Bootstrap)

/-- The interfaces of the switch. -/
def interfaces : List LaneMapEntry :=
  boot.settings.laneMap.entries

/-- The id of the switch. -/
def switchId : ObjectId :=
  .ofSwitchIndex boot.index

/-- The source address of the switch. -/
def sourceMac : Mac :=
  (boot.given.mac? .switchSrcMacAddress).getD defaultSourceMac

/-- The attributes of the switch before there are other objects. -/
def firstAttributes : Attributes :=
  boot.given
    |>.insert .switchOperStatus (.s32 SwitchOperStatus.up.code)
    |>.insert .switchSrcMacAddress (.mac boot.sourceMac)
    |>.insert .switchFdbAgingTime ((boot.given.get? .switchFdbAgingTime).getD (.u32 0))

/-- The attributes of the front panel port of an interface. -/
def portAttributes (interface : LaneMapEntry) : Attributes :=
  .ofList
    [⟨.portType, .s32 PortType.logical.code⟩,
      ⟨.portHwLaneList, .u32List (.ofItems interface.lanes)⟩,
      ⟨.portSpeed, .u32 boot.settings.model.portSpeed⟩,
      ⟨.portAdminState, .bool false⟩,
      ⟨.portMtu, .u32 defaultMtu⟩,
      ⟨.portOperStatus, .s32 PortOperStatus.down.code⟩,
      ⟨.portPortVlanId, .u16 defaultVlan⟩]

/-- The attributes of the virtual router. -/
def routerAttributes : Attributes :=
  .ofList
    [⟨.virtualRouterAdminV4State, .bool true⟩, ⟨.virtualRouterAdminV6State, .bool true⟩,
      ⟨.virtualRouterSrcMacAddress, .mac boot.sourceMac⟩]

/-- Adds an object of the new switch. -/
def add (type : ObjectType) (attrs : Attributes) : Building ObjectId :=
  Building.add boot.index type attrs

/-- Adds an object and tells the switch of it through an attribute. -/
def introduce (type : ObjectType) (attrs : Attributes) (attr : AttrId) : Building ObjectId := do
  let id ← boot.add type attrs
  Building.tell attr (.oid id)
  return id

/-- Adds the front panel port of an interface. -/
def addPort (interface : LaneMapEntry) : Building Unit :=
  discard <| boot.add .port (boot.portAttributes interface)

/-- Adds a bridge port for a port, and the membership of this one in the VLAN. -/
def addMember (vlan bridge port : ObjectId) : Building Unit := do
  let bridgePort ← boot.add .bridgePort (bridgePortAttributes bridge port)
  discard <| boot.add .vlanMember (vlanMemberAttributes vlan bridgePort)

/-- Adds the first objects. -/
def addObjects : Building Unit := do
  let vlan ← boot.introduce .vlan vlanAttributes .switchDefaultVlanId
  discard <| boot.introduce .port cpuPortAttributes .switchCpuPort
  boot.interfaces.forM boot.addPort
  let ports ← Building.dataPorts
  Building.tell .switchPortNumber (.u32 (UInt32.ofNat ports.length))
  Building.tell .switchPortList (.ofIds ports)
  discard <| boot.introduce .virtualRouter boot.routerAttributes .switchDefaultVirtualRouterId
  let bridge ← boot.introduce .bridge bridgeAttributes .switchDefault1QBridgeId
  ports.forM (boot.addMember vlan bridge)
  discard <| boot.introduce .hostifTrapGroup trapGroupAttributes .switchDefaultTrapGroup

/-- The new switch and the ids that are left, or why there is none and what was drawn in vain. -/
def run : Except Fault Switch × IdAllocator :=
  match (Switch.empty boot.switchId).insert (.object boot.switchId) boot.firstAttributes with
  | .error fault => (.error fault, ⟨boot.last⟩)
  | .ok switch =>
      match boot.addObjects.run ⟨switch, ⟨boot.last⟩⟩ with
      | .ok () builder => (.ok builder.switch, builder.ids)
      | .error fault builder => (.error fault, builder.ids)

end Bootstrap

end SwitchAbstraction
