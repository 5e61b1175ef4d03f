import SwitchAbstraction.Attribute
import SwitchAbstraction.Checks
import SwitchAbstraction.Ids

/-!
# Switches

The state of one switch: its objects, their statistics, the index of learned
forwarding entries and the debug counter indexes in use.  The operations here
touch one part each; what keeps the parts in agreement stands in the modules
for learning and for calls.
-/

namespace SwitchAbstraction

/-- What is known of a forwarding entry that was learned and will age. -/
structure LearnedEntry where
  bridgePort : ObjectId
  vlan : UInt16
  learnedAt : UInt64
  deriving DecidableEq

/-- The state of one switch. -/
structure Switch where
  id : ObjectId
  objects : OrderedMap ObjectKey Attributes
  counters : OrderedMap ObjectKey (OrderedMap Stat UInt64)
  learned : OrderedMap FdbKey LearnedEntry
  debugCounters : DebugCounterPool
  deriving DecidableEq

namespace Switch

/-- A switch without objects. -/
def empty (id : ObjectId) : Switch :=
  ⟨id, ∅, ∅, ∅, .fresh⟩

/-- The attributes of an object. -/
def object? (switch : Switch) (key : ObjectKey) : Option Attributes :=
  switch.objects.get? key

/-- Whether an object is there. -/
def contains (switch : Switch) (key : ObjectKey) : Bool :=
  switch.objects.contains key

/-- Passes the key of an object that is there. -/
def require (switch : Switch) (key : ObjectKey) : Except Fault Unit :=
  if switch.contains key then .ok () else .error (.notFound (.ofKey key))

/-- The attributes of the object that an id names. -/
def byId? (switch : Switch) (id : ObjectId) : Option Attributes :=
  (ObjectKey.ofId id).toOption.bind switch.object?

/-- The number of objects. -/
def count (switch : Switch) : Nat :=
  switch.objects.size

/-- The objects of a type, in the order of their keys. -/
def objectsOf (switch : Switch) (type : ObjectType) : List (ObjectKey × Attributes) :=
  switch.objects.entries.filter fun entry => entry.1.type = type

/-- The ids of the objects of a type that refer to a target through an attribute. -/
def referencing (switch : Switch) (type : ObjectType) (attr : AttrId) (target : ObjectId) :
    List ObjectId :=
  (switch.objectsOf type).filterMap fun entry =>
    if entry.2.oid? attr = some target then entry.1.id? else none

/-- Adds an object whose key is not taken. -/
def insert (switch : Switch) (key : ObjectKey) (attrs : Attributes) : Except Fault Switch :=
  if switch.contains key then .error (.alreadyExists key)
  else .ok { switch with objects := switch.objects.insert key attrs }

/-- Removes an object together with its statistics. -/
def remove? (switch : Switch) (key : ObjectKey) : Option (Attributes × Switch) :=
  (switch.object? key).map fun attrs =>
    (attrs, { switch with
      objects := switch.objects.erase key
      counters := switch.counters.erase key })

/-- Stores a value for an attribute of an object that is there. -/
def setAttr (switch : Switch) (key : ObjectKey) (id : AttrId) (value : AttrValue) : Switch :=
  { switch with objects := switch.objects.modify key fun attrs => attrs.insert id value }

/-- The count of a statistic; zero if nothing was ever counted. -/
def counter (switch : Switch) (key : ObjectKey) (stat : Stat) : UInt64 :=
  ((switch.counters.get? key).bind fun counts => counts.get? stat).getD 0

/-- Sets the count of a statistic. -/
def setCounter (switch : Switch) (key : ObjectKey) (stat : Stat) (count : UInt64) : Switch :=
  let counts := (switch.counters.get? key).getD ∅
  { switch with counters := switch.counters.insert key (counts.insert stat count) }

/-- Sets the counts of some statistics, one after another. -/
def setCounters (switch : Switch) (key : ObjectKey) (counts : List (Stat × UInt64)) : Switch :=
  counts.foldl (fun switch entry => switch.setCounter key entry.1 entry.2) switch

/-- Sets some statistics back to zero. -/
def clearCounters (switch : Switch) (key : ObjectKey) (stats : List Stat) : Switch :=
  switch.setCounters key (stats.map fun stat => (stat, 0))

end Switch

end SwitchAbstraction
