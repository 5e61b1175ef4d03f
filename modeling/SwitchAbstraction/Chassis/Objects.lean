import SwitchAbstraction.Chassis
import SwitchAbstraction.Switch.Bootstrap
import SwitchAbstraction.Switch.Reading
import SwitchAbstraction.Switch.Writing

/-!
# Objects of a chassis

Creating, removing, changing and reading objects by id and entries by key,
and reading statistics.  What can be refused is checked before anything is
changed; a creation, which takes an index and an id first, gives the index
back when it fails.
-/

namespace SwitchAbstraction

namespace Chassis

/-- What a new switch would be made from, if it were created now with an index. -/
def bootstrap (chassis : Chassis) (index : UInt8) (attrs : List Attribute) : Bootstrap :=
  ⟨index, chassis.ids.last, chassis.settings, .ofList attrs⟩

/-- Creates a switch with its first objects.  Its index is used up in any case. -/
def createSwitch (chassis : Chassis) (attrs : List Attribute) :
    Except Fault ObjectId × Chassis :=
  match chassis.indexes.allocate with
  | .error fault => (.error fault, chassis)
  | .ok (index, indexes) =>
      match (chassis.bootstrap index attrs).run with
      | (.error fault, ids) => (.error fault, { chassis with ids, indexes })
      | (.ok switch, ids) =>
          (.ok switch.id,
            { chassis with ids, indexes, switches := chassis.switches.insert index switch })

/--
Creates an object of a type that is addressed by id, on a switch.  What it
takes besides its id is given back if it cannot be added.
-/
def createObject (chassis : Chassis) (type : ObjectType) (switchId : ObjectId)
    (attrs : List Attribute) : Except Fault ObjectId × Chassis :=
  if !type.isIdAddressed then (.error (.invalid (.notCreatedById type)), chassis)
  else
    match chassis.switches.find switchId with
    | .error fault => (.error fault, chassis)
    | .ok switch =>
        match switch.equip type (.ofList attrs) with
        | .error fault => (.error fault, chassis)
        | .ok (stored, equipped) =>
            match equipped.place chassis.ids switchId.switchIndex type stored with
            | (.error fault, ids) =>
                (.error fault, { chassis.put switchId (equipped.unequip type stored) with ids })
            | (.ok (id, next), ids) => (.ok id, { chassis.put switchId next with ids })

/-- Passes the arguments of a creation. -/
def checkCreate (type : ObjectType) (attrs : List Attribute) : Except Fault Unit := do
  type.checkModelled
  Attribute.checkAll type false [] attrs

/-- Creates an object.  The given switch does not matter for a switch. -/
def create (chassis : Chassis) (type : ObjectType) (switchId : ObjectId)
    (attrs : List Attribute) : Except Fault ObjectId × Chassis :=
  match checkCreate type attrs with
  | .error fault => (.error fault, chassis)
  | .ok () =>
      if type = .switch then chassis.createSwitch attrs
      else chassis.createObject type switchId attrs

/-- Removes the object that an id names. -/
def remove (chassis : Chassis) (type : ObjectType) (id : ObjectId) :
    Except Fault (Unit × Chassis) := do
  let key ← ObjectKey.ofTypedId type id
  if type = .switch then
    let (_, switches) ← chassis.switches.take id
    return ((), { chassis with switches })
  else chassis.onSwitch id.switchId fun switch => switch.removeObject key

/-- Passes an attribute that can be written to the object with a key. -/
def checkWrite (chassis : Chassis) (readOnly : Bool) (key : ObjectKey) (attr : Attribute) :
    Except Fault Unit := do
  attr.checkWritable key.type readOnly
  if key.type = .fdbEntry ∧ attr.id = .fdbEntryType then
    discard <| FdbEntryType.ofValue attr.value
  let switch ← chassis.switches.find key.switchId
  switch.require key

/-- Stores the value of an attribute of the object with a key, if there is one. -/
def write (chassis : Chassis) (key : ObjectKey) (attr : Attribute) (now : UInt64) : Chassis :=
  { chassis with
    switches := chassis.switches.modify key.switchId.switchIndex fun switch =>
      switch.write key attr now }

/-- Changes an attribute of the object with a key, a read-only one only if that is allowed. -/
def setOn (chassis : Chassis) (readOnly : Bool) (key : ObjectKey) (attr : Attribute)
    (now : UInt64) : Except Fault (Unit × Chassis) := do
  chassis.checkWrite readOnly key attr
  return ((), chassis.write key attr now)

/-- Changes an attribute of the object that an id names. -/
def set (chassis : Chassis) (type : ObjectType) (id : ObjectId) (attr : Attribute)
    (now : UInt64) : Except Fault (Unit × Chassis) := do
  let key ← ObjectKey.ofTypedId type id
  chassis.setOn false key attr now

/-- Changes an attribute of an entry. -/
def setEntry (chassis : Chassis) (key : ObjectKey) (attr : Attribute) (now : UInt64) :
    Except Fault (Unit × Chassis) := do
  key.checkEntry
  chassis.setOn false key attr now

/-- Passes slots for attributes of the object with a key, and finds its switch. -/
def checkRead (chassis : Chassis) (key : ObjectKey) (slots : List Attribute) :
    Except Fault Switch :=
  match slots.find? fun slot => slot.id.objectType ≠ key.type with
  | some slot => .error (.invalid (.foreignAttribute slot.id key.type))
  | none => do
      let switch ← chassis.switches.find key.switchId
      switch.require key
      return switch

/-- Reads attributes of the object with a key, after bringing the derived ones up to date. -/
def getOn (chassis : Chassis) (key : ObjectKey) (slots : List Attribute) : Answer × Chassis :=
  match chassis.checkRead key slots with
  | .error fault => (⟨.error fault, slots⟩, chassis)
  | .ok switch =>
      let fresh := switch.refresh key
      (Switch.read key ((fresh.object? key).getD ∅) slots, chassis.put key.switchId fresh)

/-- Reads attributes of the object that an id names. -/
def get (chassis : Chassis) (type : ObjectType) (id : ObjectId) (slots : List Attribute) :
    Answer × Chassis :=
  match ObjectKey.ofTypedId type id with
  | .error fault => (⟨.error fault, slots⟩, chassis)
  | .ok key => chassis.getOn key slots

/-- Reads attributes of an entry. -/
def getEntry (chassis : Chassis) (key : ObjectKey) (slots : List Attribute) :
    Answer × Chassis :=
  match key.checkEntry with
  | .error fault => (⟨.error fault, slots⟩, chassis)
  | .ok () => chassis.getOn key slots

/-- Passes the attributes of a new entry: a forwarding entry has to say its type. -/
def checkNewEntry (key : ObjectKey) (attrs : List Attribute) : Except Fault Unit := do
  key.checkEntry
  Attribute.checkAll key.type false [] attrs
  if key.type = .fdbEntry then
    match Attribute.find? attrs .fdbEntryType with
    | none => throw (.invalid .entryTypeMissing)
    | some value => discard <| FdbEntryType.ofValue value

/-- Creates an entry. -/
def createEntry (chassis : Chassis) (key : ObjectKey) (attrs : List Attribute)
    (now : UInt64) : Except Fault (Unit × Chassis) := do
  checkNewEntry key attrs
  chassis.onSwitch key.switchId fun switch => switch.addEntry key (.ofList attrs) now

/-- Removes an entry. -/
def removeEntry (chassis : Chassis) (key : ObjectKey) : Except Fault (Unit × Chassis) := do
  key.checkEntry
  chassis.onSwitch key.switchId fun switch => switch.removeObject key

/-- The key of the object that an id names, if the given statistics are of its type. -/
def statsKey (type : ObjectType) (id : ObjectId) (stats : List Stat) :
    Except Fault ObjectKey := do
  let key ← ObjectKey.ofTypedId type id
  match stats.find? fun stat => stat.objectType ≠ type with
  | some stat => throw (.invalid (.foreignStat stat type))
  | none => return key

/-- Reads statistics of the object that an id names. -/
def readStats (chassis : Chassis) (type : ObjectType) (id : ObjectId) (stats : List Stat)
    (mode : StatsMode) : Except Fault (List UInt64 × Chassis) := do
  let key ← statsKey type id stats
  chassis.onSwitch key.switchId fun switch => switch.readStats key stats mode

/-- Sets statistics of the object that an id names back to zero. -/
def clearStats (chassis : Chassis) (type : ObjectType) (id : ObjectId) (stats : List Stat) :
    Except Fault (Unit × Chassis) := do
  let key ← statsKey type id stats
  chassis.onSwitch key.switchId fun switch => switch.clearStats key stats

end Chassis

end SwitchAbstraction
