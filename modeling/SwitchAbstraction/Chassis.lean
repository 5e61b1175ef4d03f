import SwitchAbstraction.Ids
import SwitchAbstraction.Notification
import SwitchAbstraction.Settings
import SwitchAbstraction.Switch

/-!
# Chassis

A chassis holds the switches of one session, by their index, with the sources
of new ids.  An operation on one switch goes through its slot in the registry
and touches nothing else.
-/

namespace SwitchAbstraction

/-- Switches by their index. -/
abbrev Registry := OrderedMap UInt8 Switch

namespace Registry

/-- The index in the id of a switch. -/
def indexOf (id : ObjectId) : Except Fault UInt8 :=
  (id.expectType .switch).map fun () => id.switchIndex

/-- The switch at the index of an id. -/
def find (registry : Registry) (id : ObjectId) : Except Fault Switch :=
  match indexOf id with
  | .error fault => .error fault
  | .ok index =>
      match registry.get? index with
      | some switch => .ok switch
      | none => .error (.notFound (.ofId id))

/-- Takes the switch at the index of an id out. -/
def take (registry : Registry) (id : ObjectId) : Except Fault (Switch × Registry) :=
  (registry.find id).map fun switch => (switch, registry.erase id.switchIndex)

end Registry

/-- The switches of one session. -/
structure Chassis where
  settings : Settings
  switches : Registry
  ids : IdAllocator
  indexes : SwitchIndexPool
  /-- Whether messages that bypass the rules for writing are taken. -/
  testMode : Bool

/-- What an operation on a state leads to: its answer, the state after it and what it reports. -/
structure Outcome (σ α : Type) where
  answer : α
  state : σ
  notifications : List Notification

namespace Chassis

/-- A chassis without switches. -/
def start (settings : Settings) : Chassis :=
  ⟨settings, ∅, .fresh, .fresh, false⟩

/-- The chassis with a switch in place of the one at the index of an id. -/
def put (chassis : Chassis) (id : ObjectId) (switch : Switch) : Chassis :=
  { chassis with switches := chassis.switches.insert id.switchIndex switch }

/-- Runs an operation on the switch at the index of an id. -/
def onSwitch {α : Type} (chassis : Chassis) (id : ObjectId)
    (operation : Switch → Except Fault (α × Switch)) : Except Fault (α × Chassis) :=
  match chassis.switches.find id with
  | .error fault => .error fault
  | .ok switch => (operation switch).map fun (value, next) => (value, chassis.put id next)

/-- An operation that leaves the chassis alone if it fails, and reports nothing. -/
def settled {α β : Type} (chassis : Chassis) (attempt : Except Fault (α × Chassis))
    (answer : Except Fault α → β) : Outcome Chassis β :=
  match attempt with
  | .error fault => ⟨answer (.error fault), chassis, []⟩
  | .ok (value, next) => ⟨answer (.ok value), next, []⟩

/-- An operation that leaves the chassis alone if it fails, and reports entry by entry. -/
def reported {β : Type} (chassis : Chassis) (attempt : Except Fault (List FdbEvent × Chassis))
    (answer : Except Fault Unit → β) : Outcome Chassis β :=
  match attempt with
  | .error fault => ⟨answer (.error fault), chassis, []⟩
  | .ok (events, next) =>
      ⟨answer (.ok ()), next, events.map fun event => .fdbEvents [event]⟩

/-- A number of every switch, added up. -/
def total (chassis : Chassis) (number : Switch → Nat) : Nat :=
  chassis.switches.values.foldr (fun switch sum => number switch + sum) 0

/-- The number of objects on all switches. -/
def objectCount (chassis : Chassis) : Nat :=
  chassis.total Switch.count

/-- The number of learned entries on all switches. -/
def learnedCount (chassis : Chassis) : Nat :=
  chassis.total fun switch => switch.learned.size

/-- The number of debug counter indexes in use on all switches. -/
def debugCounterCount (chassis : Chassis) : Nat :=
  chassis.total fun switch => switch.debugCounters.inUse

end Chassis

end SwitchAbstraction
