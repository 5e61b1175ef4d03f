import SwitchAbstraction.Chassis
import SwitchAbstraction.Chassis.Admin
import SwitchAbstraction.Switch.Removal

/-!
# Commands to a chassis

All that can happen to a chassis.
-/

namespace SwitchAbstraction

/-!
## Forwarding entries

Learning and flushing concern one switch, aging all of them, in the order of
their indexes.  Each event is a notification of its own.
-/

namespace Chassis

/-- Records an address seen on a bridge port. -/
def learn (chassis : Chassis) (key : FdbKey) (port : ObjectId) (now : UInt64) :
    Outcome Chassis (Except Fault Unit) :=
  let attempt := do
    port.expectType .bridgePort
    chassis.onSwitch key.switchId fun switch => switch.learn key port now
  chassis.reported attempt fun result => result

/-- Removes the forwarding entries of a switch that pass a filter. -/
def flush (chassis : Chassis) (switchId : ObjectId) (attrs : List Attribute) :
    Except Fault (List FdbEvent × Chassis) := do
  let filter ← FlushFilter.ofAttributes attrs
  chassis.onSwitch switchId fun switch => .ok (switch.flush switchId filter)

/-- Removes the entries that have reached the aging time of their switch, and counts them. -/
def age (chassis : Chassis) (now : UInt64) : Outcome Chassis Nat :=
  let events := chassis.switches.values.flatMap fun switch => (switch.age now).1
  ⟨events.length,
    { chassis with switches := chassis.switches.mapValues fun _ switch => (switch.age now).2 },
    events.map fun event => .fdbEvents [event]⟩

end Chassis

/-!
## Commands and histories

All that can happen to a chassis, as data, so that its life is a list of
commands, each with the reading of the clock at its time.
-/

/-- What can happen to a chassis. -/
inductive Command
  | call (call : Call)
  | learn (key : FdbKey) (port : ObjectId)
  | age
  | administer (message : Message)
  deriving DecidableEq

namespace Chassis

/-- The answer to a call without slots. -/
def answerOf {α : Type} (reply : α → Reply) (result : Except Fault α) : Answer :=
  ⟨result.map reply, []⟩

/-- The reply of a call that gives nothing. -/
def done (_ : Unit) : Reply :=
  .done

/-- Makes a call. -/
def perform (chassis : Chassis) (now : UInt64) : Call → Outcome Chassis Answer
  | .create type switchId attrs =>
      let (result, next) := chassis.create type switchId attrs
      ⟨answerOf .created result, next, []⟩
  | .remove type id => chassis.settled (chassis.remove type id) (answerOf done)
  | .set type id attr => chassis.settled (chassis.set type id attr now) (answerOf done)
  | .get type id slots =>
      let (answer, next) := chassis.get type id slots
      ⟨answer, next, []⟩
  | .createEntry key attrs =>
      chassis.settled (chassis.createEntry key attrs now) (answerOf done)
  | .removeEntry key => chassis.settled (chassis.removeEntry key) (answerOf done)
  | .setEntry key attr => chassis.settled (chassis.setEntry key attr now) (answerOf done)
  | .getEntry key slots =>
      let (answer, next) := chassis.getEntry key slots
      ⟨answer, next, []⟩
  | .readStats type id stats mode =>
      chassis.settled (chassis.readStats type id stats mode) (answerOf .counted)
  | .clearStats type id stats =>
      chassis.settled (chassis.clearStats type id stats) (answerOf done)
  | .flush switchId attrs => chassis.reported (chassis.flush switchId attrs) (answerOf done)

/-- What a command leads to; of its answer, only whether it was refused and why. -/
def outcome (chassis : Chassis) (now : UInt64) : Command → Outcome Chassis (Except Fault Unit)
  | .call call =>
      let performed := chassis.perform now call
      { performed with answer := performed.answer.result.map fun _ => () }
  | .learn key port => chassis.learn key port now
  | .age => { chassis.age now with answer := .ok () }
  | .administer message => chassis.administer message now

/-- The chassis after a command. -/
def step (chassis : Chassis) (now : UInt64) (command : Command) : Chassis :=
  (chassis.outcome now command).state

/-- The chassis after commands, each at its reading of the clock. -/
def run (chassis : Chassis) (history : List (UInt64 × Command)) : Chassis :=
  history.foldl (fun chassis entry => chassis.step entry.1 entry.2) chassis

end Chassis

end SwitchAbstraction
