import SwitchAbstraction.Chassis.Objects

/-!
# Administrative messages

Messages that bypass the rules for writing, for use in tests: they are taken
only in test mode, which is itself put on and off by such a message.
Read-only attributes are written all together or not at all, and a port whose
operational status is written reports the change.
-/

namespace SwitchAbstraction

namespace Admin

/-- The operation that puts test mode on and off. -/
def testModeOp : String :=
  "enable_unittests"

/-- The operation that writes attributes, read-only ones too. -/
def writeOp : String :=
  "set_ro"

/-- The operation that sets statistics. -/
def statsOp : String :=
  "set_stats"

/-- Reads the wanted test mode. -/
def testMode (text : String) : Except Fault Bool :=
  if text = "true" then .ok true
  else if text = "false" then .ok false
  else .error (.invalid (.badTestMode text))

/-- Reads a field as the count of a statistic. -/
def statOfField (field : Field) : Except Fault (Stat × UInt64) := do
  let stat ← Vocabulary.parse Stat field.1
  let count ← Text.parseNumber field.1 UInt64.size field.2 field.2.toList
  return (stat, UInt64.ofNat count)

/-- The change of a port's operational status that writing an attribute amounts to. -/
def statusChange? (key : ObjectKey) (attr : Attribute) : Option PortStatusChange := do
  guard (attr.id = .portOperStatus)
  let port ← key.id?
  let status ← attr.value.s32?.bind PortOperStatus.ofCode?
  return ⟨port, status⟩

end Admin

namespace Chassis

/-- Passes an operation that is taken in test mode only. -/
def requireTestMode (chassis : Chassis) (op : String) : Except Fault Unit :=
  if chassis.testMode then .ok () else .error (.failed (.testModeRequired op))

/-- Reads the attributes of a message that writes them, all of which can be written. -/
def checkWrites (chassis : Chassis) (message : Message) :
    Except Fault (ObjectKey × List Attribute) := do
  chassis.requireTestMode Admin.writeOp
  let key ← ObjectKey.parse message.key
  let attrs ← Attribute.ofFields message.fields
  attrs.forM (chassis.checkWrite true key)
  return (key, attrs)

/-- Writes an attribute, a read-only one too, and reports a change of operational status. -/
def writeAny (chassis : Chassis) (key : ObjectKey) (attr : Attribute) (now : UInt64) :
    Outcome Chassis (Except Fault Unit) :=
  match chassis.setOn true key attr now with
  | .error fault => ⟨.error fault, chassis, []⟩
  | .ok ((), next) =>
      ⟨.ok (), next, (Admin.statusChange? key attr).toList.map fun change =>
        .portStatusChanges [change]⟩

/-- Writes attributes one after another, up to the first that is refused. -/
def writeEach (chassis : Chassis) (key : ObjectKey) (now : UInt64) :
    List Attribute → Outcome Chassis (Except Fault Unit)
  | [] => ⟨.ok (), chassis, []⟩
  | attr :: rest =>
      let first := chassis.writeAny key attr now
      match first.answer with
      | .error _ => first
      | .ok () =>
          let others := first.state.writeEach key now rest
          { others with notifications := first.notifications ++ others.notifications }

/-- Writes the attributes of a message, read-only ones too, after checking every one of them. -/
def writeAll (chassis : Chassis) (message : Message) (now : UInt64) :
    Outcome Chassis (Except Fault Unit) :=
  match chassis.checkWrites message with
  | .error fault => ⟨.error fault, chassis, []⟩
  | .ok (key, attrs) => chassis.writeEach key now attrs

/-- Sets the statistics of a message. -/
def writeStats (chassis : Chassis) (message : Message) : Except Fault (Unit × Chassis) := do
  chassis.requireTestMode Admin.statsOp
  let key ← ObjectKey.parse message.key
  chassis.onSwitch key.switchId fun switch => do
    switch.require key
    let counts ← message.fields.mapM Admin.statOfField
    return ((), switch.setCounters key counts)

/-- Puts test mode on or off. -/
def setTestMode (chassis : Chassis) (text : String) : Except Fault (Unit × Chassis) :=
  (Admin.testMode text).map fun testMode => ((), { chassis with testMode })

/-- Applies an administrative message.  Unknown operations are passed over. -/
def administer (chassis : Chassis) (message : Message) (now : UInt64) :
    Outcome Chassis (Except Fault Unit) :=
  if message.op = Admin.testModeOp then
    chassis.settled (chassis.setTestMode message.key) fun result => result
  else if message.op = Admin.writeOp then chassis.writeAll message now
  else if message.op = Admin.statsOp then
    chassis.settled (chassis.writeStats message) fun result => result
  else ⟨.ok (), chassis, []⟩

end Chassis

end SwitchAbstraction
