import SwitchAbstraction.Call
import SwitchAbstraction.Enumeration
import SwitchAbstraction.Switch

/-!
# Reading objects

Derived attributes are brought up to date before their object is read, and
what is stored is read into slots.
-/

namespace SwitchAbstraction

/-!
## Derived attributes

Some attributes are computed from other objects: the members of a VLAN, the
ports of a bridge or of a link aggregation group, and the ports of the switch
with their number.  They are brought up to date whenever their object is read.
-/

namespace Switch

/-- Whether a port is the one that leads to the processor. -/
def isCpuPort (attrs : Attributes) : Bool :=
  attrs.s32? .portType = some PortType.cpu.code

/-- The front panel ports: all but those of the processor. -/
def dataPorts (switch : Switch) : List ObjectId :=
  (switch.objectsOf .port).filterMap fun entry =>
    if isCpuPort entry.2 then none else entry.1.id?

/-- The derived attributes of an object, as they are now. -/
def derived (switch : Switch) (key : ObjectKey) : List (AttrId × AttrValue) :=
  match key.id? with
  | none => []
  | some id =>
      match key.type with
      | .vlan =>
          [(.vlanMemberList, .ofIds (switch.referencing .vlanMember .vlanMemberVlanId id))]
      | .bridge =>
          [(.bridgePortList, .ofIds (switch.referencing .bridgePort .bridgePortBridgeId id))]
      | .lag => [(.lagPortList, .ofIds (switch.referencing .lagMember .lagMemberLagId id))]
      | .switch =>
          [(.switchPortNumber, .u32 (UInt32.ofNat switch.dataPorts.length)),
            (.switchPortList, .ofIds switch.dataPorts)]
      | _ => []

/-- Brings the derived attributes of an object up to date. -/
def refresh (switch : Switch) (key : ObjectKey) : Switch :=
  (switch.derived key).foldl (fun refreshed entry => refreshed.setAttr key entry.1 entry.2)
    switch

end Switch

/-!
## Reading attributes

A read fills its slots in order.  It stops at an attribute that was never set
or does not fit its slot.  Lists that were offered too little room are told
what they need, the other slots are filled all the same, and the read fails
at the end, naming every such list.
-/

namespace Switch

/-- The value that a slot takes over, with the room that it lacked. -/
def fillSlot (key : ObjectKey) (attrs : Attributes) (slot : Attribute) :
    Except Fault (AttrValue × Transfer) :=
  match attrs.get? slot.id with
  | none => .error (.notImplemented (.attribute slot.id key))
  | some stored => Attribute.fill slot.value stored

/-- What is reported of a slot once it was filled. -/
def need (id : AttrId) : Transfer → List (AttrId × UInt32)
  | .filled => []
  | .overflow required => [(id, required)]

/-- Fills slots up to the first that cannot be filled, with the room that lists lacked. -/
def fillSlots (key : ObjectKey) (attrs : Attributes) :
    List Attribute → Except Fault (List (AttrId × UInt32)) × List Attribute
  | [] => (.ok [], [])
  | slot :: rest =>
      match fillSlot key attrs slot with
      | .error fault => (.error fault, slot :: rest)
      | .ok (value, transfer) =>
          let (needs, filled) := fillSlots key attrs rest
          (needs.map (need slot.id transfer ++ ·), ⟨slot.id, value⟩ :: filled)

/-- How a read went, by the room that lists lacked. -/
def readResult : Except Fault (List (AttrId × UInt32)) → Except Fault Reply
  | .error fault => .error fault
  | .ok [] => .ok .done
  | .ok needs => .error (.overflow needs)

/-- Reads the attributes of an object into slots. -/
def read (key : ObjectKey) (attrs : Attributes) (slots : List Attribute) : Answer :=
  let (needs, filled) := fillSlots key attrs slots
  ⟨readResult needs, filled⟩

end Switch

end SwitchAbstraction
