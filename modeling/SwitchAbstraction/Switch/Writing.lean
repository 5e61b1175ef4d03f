import SwitchAbstraction.Ids
import SwitchAbstraction.Switch.Learning

/-!
# Writing objects

Creating, changing and removing objects on one switch, with the parts of its
state kept in agreement: the index of learned entries follows the entries, and
a debug counter holds an index as long as it lives.
-/

namespace SwitchAbstraction

namespace ObjectType

/-- Whether objects of the type can be created at all. -/
def isModelled : ObjectType → Bool
  | .udf | .udfMatch | .udfGroup => false
  | .l2mcGroup | .l2mcGroupMember | .ipmcGroup | .ipmcGroupMember => false
  | .rpfGroup | .rpfGroupMember => false
  | .mcastFdbEntry | .l2mcEntry | .ipmcEntry => false
  | .tam => false
  | _ => true

/-- Passes a type whose objects can be created. -/
def checkModelled (type : ObjectType) : Except Fault Unit :=
  if type.isModelled then .ok () else .error (.notImplemented (.objectType type))

end ObjectType

namespace Attribute

/-- Passes an attribute that may be written to an object of a type. -/
def checkWritable (type : ObjectType) (readOnly : Bool) (attr : Attribute) :
    Except Fault Unit :=
  if attr.id.objectType ≠ type then .error (.invalid (.foreignAttribute attr.id type))
  else
    match attr.checkKind with
    | .error fault => .error fault
    | .ok () =>
        if !readOnly && attr.id.isReadOnly then .error (.invalid (.readOnlyAttribute attr.id))
        else .ok ()

/--
Passes attributes that may be written to an object of a type together: none
of them is given twice.  Read-only ones pass only if that is allowed.
-/
def checkAll (type : ObjectType) (readOnly : Bool) (seen : List AttrId) :
    List Attribute → Except Fault Unit
  | [] => .ok ()
  | attr :: rest =>
      match attr.checkWritable type readOnly with
      | .error fault => .error fault
      | .ok () =>
          if attr.id ∈ seen then .error (.invalid (.duplicateAttribute attr.id))
          else checkAll type readOnly (attr.id :: seen) rest

end Attribute

namespace ObjectKey

/-- Passes the key of an entry, which names its switch. -/
def checkEntry (key : ObjectKey) : Except Fault Unit := do
  key.type.checkModelled
  if key.id?.isSome then .error (.invalid (.idAddressed key.type))
  else key.switchId.expectType .switch

end ObjectKey

namespace Switch

/-- Brings the index of learned entries in line with an object that has changed. -/
def settle (switch : Switch) (key : ObjectKey) (now : UInt64) : Switch :=
  match key with
  | .fdb key => switch.syncLearned key now
  | _ => switch

/-- Stores the value of an attribute of an object that is there. -/
def write (switch : Switch) (key : ObjectKey) (attr : Attribute) (now : UInt64) : Switch :=
  (switch.setAttr key attr.id attr.value.normalized).settle key now

/-- Adds an entry.  Only a dynamic one is of interest to the index of learned entries. -/
def addEntry (switch : Switch) (key : ObjectKey) (attrs : Attributes) (now : UInt64) :
    Except Fault (Unit × Switch) :=
  (switch.insert key attrs).map fun added =>
    ((), if isDynamic attrs then added.settle key now else added)

/-- Takes what an object of a type needs besides its id: a debug counter needs an index. -/
def equip (switch : Switch) (type : ObjectType) (attrs : Attributes) :
    Except Fault (Attributes × Switch) :=
  if type = .debugCounter then
    switch.debugCounters.allocate.map fun (index, pool) =>
      (attrs.insert .debugCounterIndex (.u32 index), { switch with debugCounters := pool })
  else .ok (attrs, switch)

/-- Gives back the index that a removed debug counter held. -/
def unequip (switch : Switch) (type : ObjectType) (attrs : Attributes) : Switch :=
  if type = .debugCounter then
    match attrs.u32? .debugCounterIndex with
    | some index => { switch with debugCounters := switch.debugCounters.release index }
    | none => switch
  else switch

/-- Draws an id and adds an object under it.  A drawn id is used up in any case. -/
def place (switch : Switch) (ids : IdAllocator) (index : UInt8) (type : ObjectType)
    (attrs : Attributes) : Except Fault (ObjectId × Switch) × IdAllocator :=
  match ids.allocate index type with
  | .error fault => (.error fault, ids)
  | .ok (id, rest) => ((switch.insert (.object id) attrs).map fun added => (id, added), rest)

/-- Drops what the index of learned entries says of an object. -/
def unsettle (switch : Switch) : ObjectKey → Switch
  | .fdb key => switch.forgetLearned key
  | _ => switch

/-- Removes an object with all that hangs on it. -/
def removeObject (switch : Switch) (key : ObjectKey) : Except Fault (Unit × Switch) :=
  match switch.remove? key with
  | none => .error (.notFound (.ofKey key))
  | some (attrs, rest) => .ok ((), (rest.unequip key.type attrs).unsettle key)

/-- Reads statistics of an object, and sets them back to zero in the mode for that. -/
def readStats (switch : Switch) (key : ObjectKey) (stats : List Stat) (mode : StatsMode) :
    Except Fault (List UInt64 × Switch) := do
  switch.require key
  let counts := stats.map (switch.counter key)
  match mode with
  | .read => return (counts, switch)
  | .readAndClear => return (counts, switch.clearCounters key stats)

/-- Sets statistics of an object back to zero. -/
def clearStats (switch : Switch) (key : ObjectKey) (stats : List Stat) :
    Except Fault (Unit × Switch) := do
  switch.require key
  return ((), switch.clearCounters key stats)

end Switch

end SwitchAbstraction
