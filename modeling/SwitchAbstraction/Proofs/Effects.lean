import SwitchAbstraction.Proofs.Overrides

/-!
# What each command does

The inversion of one step: what a command does to the chassis, and which of its
arguments it does it with.  A command changes the one switch that it addresses,
makes or removes a switch, or lets all switches age, and it writes, counts and
removes nothing but what it says.
-/

namespace SwitchAbstraction

open Results

namespace Command

/-- The object that a command removes. -/
def removed? : Command → Option ObjectKey
  | .call (.remove _ id) => some (.object id)
  | .call (.removeEntry key) => some key
  | _ => none

/-- The object that a command writes to, with the attributes that it writes. -/
def written? : Command → Option (ObjectKey × List Attribute)
  | .call (.set _ id attr) => some (.object id, [attr])
  | .call (.setEntry key attr) => some (key, [attr])
  | .administer message =>
      if message.op = Admin.writeOp then do
        let key ← (ObjectKey.parse message.key).toOption
        let attrs ← (Attribute.ofFields message.fields).toOption
        return (key, attrs)
      else none
  | _ => none

/-- The object some of whose statistics a command sets back to zero, with these statistics. -/
def cleared? : Command → Option (ObjectKey × List Stat)
  | .call (.readStats _ id stats .readAndClear) => some (.object id, stats)
  | .call (.clearStats _ id stats) => some (.object id, stats)
  | _ => none

/-- The object whose statistics a command sets, with the counts that it sets them to. -/
def counted? : Command → Option (ObjectKey × List (Stat × UInt64))
  | .administer message =>
      if message.op = Admin.statsOp then do
        let key ← (ObjectKey.parse message.key).toOption
        let counts ← (message.fields.mapM Admin.statOfField).toOption
        return (key, counts)
      else none
  | command => command.cleared?.map fun (key, stats) => (key, stats.map fun stat => (stat, 0))

/-- A command cannot be accepted and leave an object to itself. -/
inductive Edits : Command → ObjectKey → Prop
  | learn (key : FdbKey) (port : ObjectId) : Edits (.learn key port) (.fdb key)
  | addEntry (key : ObjectKey) (attrs : List Attribute) :
      Edits (.call (.createEntry key attrs)) key
  | write {command : Command} {key : ObjectKey} {attrs : List Attribute}
      (named : command.written? = some (key, attrs)) (some : attrs ≠ []) : Edits command key
  | count {command : Command} {key : ObjectKey} {counts : List (Stat × UInt64)}
      (named : command.counted? = some (key, counts)) : Edits command key

variable {command : Command} {key other : ObjectKey}

theorem not_edits (learns : ∀ key port, command ≠ .learn key port)
    (adds : ∀ key attrs, command ≠ .call (.createEntry key attrs))
    (writes : command.written? = none) (counts : command.counted? = none) :
    ¬ command.Edits key := by
  intro edits
  cases edits with
  | learn => exact learns _ _ rfl
  | addEntry => exact adds _ _ rfl
  | write named =>
      rw [writes] at named
      cases named
  | count named =>
      rw [counts] at named
      cases named

theorem not_edits_of_readKey? (named : command.readKey? = some key) :
    ¬ command.Edits other := by
  cases command with
  | call call =>
      cases call with
      | get | getEntry => exact not_edits nofun nofun rfl rfl
      | _ => cases named
  | _ => cases named

theorem not_edits_of_removed? (named : command.removed? = some key) :
    ¬ command.Edits other := by
  cases command with
  | call call =>
      cases call with
      | remove | removeEntry => exact not_edits nofun nofun rfl rfl
      | _ => cases named
  | _ => cases named

/-- No command both writes attributes and sets statistics. -/
theorem counted?_of_written? {written : ObjectKey × List Attribute}
    (named : command.written? = some written) : command.counted? = none := by
  cases command with
  | call call =>
      cases call with
      | set | setEntry => rfl
      | _ => cases named
  | administer message =>
      by_cases writes : message.op = Admin.writeOp
      · unfold counted?
        dsimp only
        rw [writes]
        exact if_neg (by decide)
      · have none : (Command.administer message).written? = none := if_neg writes
        rw [none] at named
        cases named
  | learn key port => cases named
  | age => cases named

theorem Edits.readKey?_eq_none (edits : command.Edits key) : command.readKey? = none := by
  cases read : command.readKey? with
  | none => rfl
  | some _ => exact absurd edits (not_edits_of_readKey? read)

/-- A command that writes attributes edits the object that it writes them to, if any. -/
theorem Edits.eq_of_written? {attrs : List Attribute} (edits : command.Edits other)
    (named : command.written? = some (key, attrs)) : other = key := by
  cases edits with
  | learn | addEntry => cases named
  | write same =>
      rw [named] at same
      cases same
      rfl
  | count counts =>
      rw [counted?_of_written? named] at counts
      cases counts

/-- A command that sets statistics edits the object that they are of. -/
theorem Edits.eq_of_counted? {counts : List (Stat × UInt64)} (edits : command.Edits other)
    (named : command.counted? = some (key, counts)) : other = key := by
  cases edits with
  | learn | addEntry => cases named
  | write writes =>
      rw [counted?_of_written? writes] at named
      cases named
  | count same =>
      rw [named] at same
      cases same
      rfl

end Command

/-- A command is not refused. -/
def Chassis.Accepts (chassis : Chassis) (now : UInt64) (command : Command) : Prop :=
  (chassis.outcome now command).answer = .ok ()

/-- What a command does to the switch that an id finds. -/
inductive Change (now : UInt64) (command : Command) (switch : Switch) :
    ObjectId → Switch → Prop where
  | remove {key : ObjectKey} {next : Switch} (named : command.removed? = some key)
      (removed : switch.removeObject key = .ok ((), next)) :
      Change now command switch key.switchId next
  | write {key : ObjectKey} {attrs : List Attribute} (named : command.written? = some (key, attrs))
      (writable : ∀ attr ∈ attrs, attr.checkWritable key.type command.overrides = .ok ())
      (typed : ∀ attr ∈ attrs, key.type = .fdbEntry → attr.id = .fdbEntryType →
        ∃ type, FdbEntryType.ofValue attr.value = .ok type)
      (stored : switch.contains key = true) :
      Change now command switch key.switchId (switch.writeAll key now attrs)
  | refresh {key : ObjectKey} (named : command.readKey? = some key) :
      Change now command switch key.switchId (switch.refresh key)
  | addEntry {key : ObjectKey} {attrs : List Attribute} {next : Switch}
      (named : command = .call (.createEntry key attrs))
      (passed : Chassis.checkNewEntry key attrs = .ok ())
      (added : switch.addEntry key (.ofList attrs) now = .ok ((), next)) :
      Change now command switch key.switchId next
  | count {key : ObjectKey} {counts : List (Stat × UInt64)}
      (named : command.counted? = some (key, counts)) (stored : switch.contains key = true) :
      Change now command switch key.switchId (switch.setCounters key counts)
  | flush {owner : ObjectId} {attrs : List Attribute} {filter : FlushFilter}
      (named : command = .call (.flush owner attrs)) :
      Change now command switch owner (switch.flush owner filter).2
  | learn {key : FdbKey} {port : ObjectId} {events : List FdbEvent} {next : Switch}
      (named : command = .learn key port)
      (learned : switch.learn key port now = .ok (events, next)) :
      Change now command switch key.switchId next

/-- What a command does to a chassis.  A read may bring its object up to date and be refused. -/
inductive Effect (chassis : Chassis) (now : UInt64) (command : Command) : Chassis → Prop where
  | none {next : Chassis} (same : next.switches = chassis.switches)
      (idle : ∀ {key}, command.Edits key → ¬ chassis.Accepts now command) :
      Effect chassis now command next
  | change {id : ObjectId} {switch changed : Switch}
      (found : chassis.switches.find id = .ok switch)
      (accepted : command.readKey? = none → chassis.Accepts now command)
      (change : Change now command switch id changed) :
      Effect chassis now command (chassis.put id changed)
  | createObject {type : ObjectType} {owner id : ObjectId} {attrs : List Attribute}
      {switch equipped next : Switch} {stored : Attributes} {ids : IdAllocator}
      (named : command = .call (.create type owner attrs))
      (passed : Chassis.checkCreate type attrs = .ok ()) (counted : type.isCounted = true)
      (found : chassis.switches.find owner = .ok switch)
      (equips : switch.equip type (.ofList attrs) = .ok (stored, equipped))
      (drawn : chassis.ids.allocate owner.switchIndex type = .ok (id, ids))
      (inserted : equipped.insert (.object id) stored = .ok next) :
      Effect chassis now command { chassis.put owner next with ids }
  | createSwitch {owner : ObjectId} {attrs : List Attribute} {index : UInt8}
      {indexes : SwitchIndexPool} {switch : Switch} {ids : IdAllocator}
      (named : command = .call (.create .switch owner attrs))
      (passed : Chassis.checkCreate .switch attrs = .ok ())
      (taken : chassis.indexes.allocate = .ok (index, indexes))
      (built : (chassis.bootstrap index attrs).run = (.ok switch, ids)) :
      Effect chassis now command
        { chassis with ids, indexes, switches := chassis.switches.insert index switch }
  | removeSwitch {id : ObjectId} {switch : Switch}
      (named : command = .call (.remove .switch id))
      (found : chassis.switches.find id = .ok switch) :
      Effect chassis now command
        { chassis with switches := chassis.switches.erase id.switchIndex }
  | age (named : command = .age) : Effect chassis now command (chassis.age now).state

namespace Effect

variable {chassis next : Chassis} {now : UInt64} {command : Command}

/-- A command that edits nothing may leave all switches as they are. -/
theorem idle (same : next.switches = chassis.switches) (idle : ∀ key, ¬ command.Edits key) :
    Effect chassis now command next :=
  .none same fun edits => absurd edits (idle _)

theorem onSwitch {α : Type} {id : ObjectId} {operation : Switch → Except Fault (α × Switch)}
    {value : α} (accepted : command.readKey? = .none → chassis.Accepts now command)
    (changes : ∀ {switch changed}, operation switch = .ok (value, changed) →
      Change now command switch id changed)
    (done : chassis.onSwitch id operation = .ok (value, next)) :
    Effect chassis now command next := by
  obtain ⟨switch, changed, found, operated, rfl⟩ := Chassis.onSwitch_eq_ok_iff.mp done
  exact .change found accepted (changes operated)

/-- A command that is refused and leaves the chassis as it is has no effect. -/
theorem of_refused {answer : Except Fault Unit}
    (same : chassis.outcome now command = ⟨answer, chassis, []⟩) (refused : ¬ answer = .ok ()) :
    Effect chassis now command (chassis.step now command) := by
  unfold Chassis.step
  rw [same]
  refine .none rfl fun _ accepted => refused ?_
  unfold Chassis.Accepts at accepted
  rw [same] at accepted
  exact accepted

/-- A command that settles its answer first has no effect if it is refused. -/
theorem settled {α : Type} {attempt : Except Fault (α × Chassis)}
    {answer : Except Fault α → Except Fault Unit}
    (same : chassis.outcome now command = chassis.settled attempt answer)
    (accepts : ∀ value, answer (.ok value) = .ok ())
    (refuses : ∀ fault, ¬ answer (.error fault) = .ok ())
    (effects : ∀ {value next}, attempt = .ok (value, next) →
      chassis.Accepts now command → Effect chassis now command next) :
    Effect chassis now command (chassis.step now command) := by
  unfold Chassis.Accepts at effects
  cases attempt with
  | error fault => exact of_refused same (refuses fault)
  | ok pair =>
      unfold Chassis.step
      rw [same] at effects ⊢
      exact effects rfl (accepts pair.1)

theorem reported {attempt : Except Fault (List FdbEvent × Chassis)}
    {answer : Except Fault Unit → Except Fault Unit}
    (same : chassis.outcome now command = chassis.reported attempt answer)
    (accepts : answer (.ok ()) = .ok ())
    (refuses : ∀ fault, ¬ answer (.error fault) = .ok ())
    (effects : ∀ {events next}, attempt = .ok (events, next) →
      chassis.Accepts now command → Effect chassis now command next) :
    Effect chassis now command (chassis.step now command) := by
  unfold Chassis.Accepts at effects
  cases attempt with
  | error fault => exact of_refused same (refuses fault)
  | ok pair =>
      unfold Chassis.step
      rw [same] at effects ⊢
      exact effects rfl accepts

end Effect

namespace Chassis

variable {chassis next : Chassis} {now : UInt64} {command : Command} {key : ObjectKey}

theorem error_ne_ok (fault : Fault) : ¬ (Except.error fault : Except Fault Unit) = .ok () :=
  nofun

/-! ## Calls -/

/-- What is said of a call that settles its answer first is said of its attempt. -/
theorem outcome_settled {α : Type} {call : Call} {attempt : Except Fault (α × Chassis)}
    {reply : α → Reply}
    (same : chassis.perform now call = chassis.settled attempt (answerOf reply)) :
    chassis.outcome now (.call call) =
      chassis.settled attempt fun result => result.map fun _ => () := by
  unfold outcome
  dsimp only
  rw [same]
  cases attempt <;> rfl

theorem outcome_reported {call : Call} {attempt : Except Fault (List FdbEvent × Chassis)}
    (same : chassis.perform now call = chassis.reported attempt (answerOf done)) :
    chassis.outcome now (.call call) = chassis.reported attempt fun result => result := by
  unfold outcome
  dsimp only
  rw [same]
  cases attempt <;> rfl

/-- A single attribute that passes is written to the switch of its object. -/
theorem setOn_effect {attr : Attribute} (ordinary : command.overrides = false)
    (named : command.written? = some (key, [attr])) (accepted : chassis.Accepts now command)
    (done : chassis.setOn false key attr now = .ok ((), next)) :
    Effect chassis now command next := by
  obtain ⟨_, passed, same⟩ := bind_eq_ok_iff.mp done
  cases same
  obtain ⟨writable, typed, switch, found, there⟩ := checkWrite_eq_ok_iff.mp passed
  rw [write_eq_put found]
  refine .change found (fun _ => accepted) (.write named ?_ ?_ there)
  · intro other member
    rw [List.mem_singleton.mp member, ordinary]
    exact writable
  · intro other member
    rw [List.mem_singleton.mp member]
    exact typed

theorem getOn_effect {slots : List Attribute} (named : command.readKey? = some key) :
    Effect chassis now command (chassis.getOn key slots).2 := by
  unfold getOn
  cases passed : chassis.checkRead key slots with
  | error fault => exact .idle rfl fun _ => Command.not_edits_of_readKey? named
  | ok switch =>
      refine .change (checkRead_eq_ok passed).1 (fun other => ?_) (.refresh named)
      rw [named] at other
      cases other

theorem create_effect (type : ObjectType) (owner : ObjectId) (attrs : List Attribute) :
    Effect chassis now (.call (.create type owner attrs))
      (chassis.create type owner attrs).2 := by
  cases made : chassis.create type owner attrs with
  | mk result next =>
      cases result with
      | error fault =>
          exact .idle (create_refused made).1 fun _ => Command.not_edits nofun nofun rfl rfl
      | ok id =>
          obtain ⟨passed, ofSwitch, ofOther⟩ := create_eq_ok made
          by_cases isSwitch : type = .switch
          · obtain ⟨index, indexes, switch, ids, taken, built, _, rfl⟩ :=
              createSwitch_eq_ok (ofSwitch isSwitch)
            subst isSwitch
            exact .createSwitch rfl passed taken built
          · obtain ⟨addressed, switch, stored, equipped, changed, ids, found, equips, drawn,
              inserted, rfl⟩ := createObject_eq_ok (ofOther isSwitch)
            exact .createObject rfl passed (ObjectType.isCounted_iff.mpr ⟨addressed, isSwitch⟩)
              found equips drawn inserted

theorem perform_effect (call : Call) :
    Effect chassis now (.call call) (chassis.step now (.call call)) := by
  cases call with
  | create type owner attrs => exact create_effect type owner attrs
  | remove type id =>
      refine .settled (outcome_settled rfl) (fun _ => rfl) error_ne_ok fun removed accepted => ?_
      rcases remove_eq_ok removed with
        ⟨rfl, switch, found, rfl⟩ | ⟨_, _, switch, changed, found, gone, rfl⟩
      · exact .removeSwitch rfl found
      · exact .change found (fun _ => accepted) (.remove rfl gone)
  | set type id attr =>
      refine .settled (outcome_settled rfl) (fun _ => rfl) error_ne_ok fun written accepted => ?_
      obtain ⟨key, named, rest⟩ := bind_eq_ok_iff.mp written
      obtain ⟨rfl, _, _⟩ := ObjectKey.ofTypedId_eq_ok named
      exact setOn_effect rfl rfl accepted rest
  | get type id slots =>
      change Effect chassis now _ (chassis.get type id slots).2
      unfold get
      cases named : ObjectKey.ofTypedId type id with
      | error fault => exact .idle rfl fun _ => Command.not_edits nofun nofun rfl rfl
      | ok key =>
          obtain ⟨rfl, _, _⟩ := ObjectKey.ofTypedId_eq_ok named
          exact getOn_effect rfl
  | createEntry key attrs =>
      refine .settled (outcome_settled rfl) (fun _ => rfl) error_ne_ok fun created accepted => ?_
      obtain ⟨_, passed, rest⟩ := bind_eq_ok_iff.mp created
      refine .onSwitch (fun _ => accepted) (fun {switch changed} added => ?_) rest
      exact .addEntry rfl passed added
  | removeEntry key =>
      refine .settled (outcome_settled rfl) (fun _ => rfl) error_ne_ok fun removed accepted => ?_
      obtain ⟨_, _, rest⟩ := bind_eq_ok_iff.mp removed
      refine .onSwitch (fun _ => accepted) (fun {switch changed} gone => ?_) rest
      exact .remove rfl gone
  | setEntry key attr =>
      refine .settled (outcome_settled rfl) (fun _ => rfl) error_ne_ok fun written accepted => ?_
      obtain ⟨_, _, rest⟩ := bind_eq_ok_iff.mp written
      exact setOn_effect rfl rfl accepted rest
  | getEntry key slots =>
      change Effect chassis now _ (chassis.getEntry key slots).2
      unfold getEntry
      cases key.checkEntry with
      | error fault => exact .idle rfl fun _ => Command.not_edits nofun nofun rfl rfl
      | ok _ => exact getOn_effect rfl
  | readStats type id stats mode =>
      refine .settled (outcome_settled rfl) (fun _ => rfl) error_ne_ok fun answered accepted => ?_
      obtain ⟨key, named, rest⟩ := bind_eq_ok_iff.mp answered
      obtain ⟨rfl, _, _⟩ := statsKey_eq_ok named
      obtain ⟨switch, changed, found, read, rfl⟩ := onSwitch_eq_ok_iff.mp rest
      obtain ⟨_, there, counted⟩ := bind_eq_ok_iff.mp read
      cases mode with
      | read =>
          cases counted
          rw [put_of_get? (Registry.find_eq_ok_iff.mp found).2]
          exact .idle rfl fun _ => Command.not_edits nofun nofun rfl rfl
      | readAndClear =>
          cases counted
          exact .change found (fun _ => accepted)
            (.count rfl (Switch.require_eq_ok_iff.mp there))
  | clearStats type id stats =>
      refine .settled (outcome_settled rfl) (fun _ => rfl) error_ne_ok fun cleared accepted => ?_
      obtain ⟨key, named, rest⟩ := bind_eq_ok_iff.mp cleared
      obtain ⟨rfl, _, _⟩ := statsKey_eq_ok named
      refine .onSwitch (fun _ => accepted) (fun {switch changed} counted => ?_) rest
      obtain ⟨_, there, same⟩ := bind_eq_ok_iff.mp counted
      cases same
      exact .count rfl (Switch.require_eq_ok_iff.mp there)
  | flush owner attrs =>
      refine .reported (outcome_reported rfl) rfl error_ne_ok fun flushed accepted => ?_
      obtain ⟨filter, _, rest⟩ := bind_eq_ok_iff.mp flushed
      refine .onSwitch (fun _ => accepted) (fun {switch changed} done => ?_) rest
      cases done
      exact .flush rfl

/-! ## Messages -/

theorem writeAll_effect {message : Message} (writes : message.op = Admin.writeOp) :
    Effect chassis now (.administer message) (chassis.step now (.administer message)) := by
  cases taken : chassis.checkWrites message with
  | error fault => exact .of_refused (administer_of_refused writes taken) (error_ne_ok fault)
  | ok pair =>
      obtain ⟨key, attrs⟩ := pair
      have outcome : chassis.outcome now (.administer message) = chassis.writeEach key now attrs :=
        administer_of_taken writes taken
      have passed := checkWrite_of_checkWrites taken
      have accepted : chassis.Accepts now (.administer message) := by
        unfold Accepts
        rw [outcome]
        exact writeEach_answer passed
      have named : (Command.administer message).written? = some (key, attrs) := by
        obtain ⟨parsed, read⟩ := read_of_checkWrites taken
        unfold Command.written?
        simp only [if_pos writes, parsed, read]
        rfl
      have overrides : (Command.administer message).overrides = true := decide_eq_true writes
      unfold step
      rw [outcome]
      cases attrs with
      | nil =>
          refine .none rfl fun edits => ?_
          cases edits with
          | write other some =>
              rw [named] at other
              cases other
              exact absurd rfl some
          | count other =>
              rw [Command.counted?_of_written? named] at other
              cases other
      | cons attr rest =>
          obtain ⟨switch, found, there⟩ := find_of_checkWrite (passed attr List.mem_cons_self)
          rw [writeEach_state found passed]
          refine .change found (fun _ => accepted) (.write named ?_ ?_ there)
          · intro other member
            rw [overrides]
            exact (checkWrite_eq_ok_iff.mp (passed other member)).1
          · intro other member
            exact (checkWrite_eq_ok_iff.mp (passed other member)).2.1

theorem writeStats_effect {message : Message} (counts : message.op = Admin.statsOp)
    (accepted : chassis.Accepts now (.administer message)) {value : Unit}
    (done : chassis.writeStats message = .ok (value, next)) :
    Effect chassis now (.administer message) next := by
  obtain ⟨_, _, rest⟩ := bind_eq_ok_iff.mp done
  obtain ⟨key, parsed, rest⟩ := bind_eq_ok_iff.mp rest
  refine .onSwitch (fun _ => accepted) (fun {switch changed} wrote => ?_) rest
  obtain ⟨_, there, rest⟩ := bind_eq_ok_iff.mp wrote
  obtain ⟨given, read, same⟩ := bind_eq_ok_iff.mp rest
  cases same
  have named : (Command.administer message).counted? = some (key, given) := by
    unfold Command.counted?
    simp only [if_pos counts, parsed, read]
    rfl
  exact .count named (Switch.require_eq_ok_iff.mp there)

theorem administer_effect (message : Message) :
    Effect chassis now (.administer message) (chassis.step now (.administer message)) := by
  by_cases writes : message.op = Admin.writeOp
  · exact writeAll_effect writes
  · have noWrite : (Command.administer message).written? = none := if_neg writes
    by_cases mode : message.op = Admin.testModeOp
    · refine .settled (if_pos mode) (fun _ => rfl) error_ne_ok fun done _ => ?_
      obtain ⟨testMode, _, same⟩ := map_eq_ok_iff.mp done
      cases same
      have noCount : (Command.administer message).counted? = none := by
        unfold Command.counted?
        dsimp only
        rw [mode]
        exact if_neg (by decide)
      exact .idle rfl fun _ => Command.not_edits nofun nofun noWrite noCount
    · by_cases counts : message.op = Admin.statsOp
      · exact .settled (administer_stats counts) (fun _ => rfl) error_ne_ok fun done accepted =>
          writeStats_effect counts accepted done
      · have outcome : chassis.step now (.administer message) = chassis := by
          change (chassis.administer message now).state = chassis
          unfold administer
          rw [if_neg mode, if_neg writes, if_neg counts]
        rw [outcome]
        exact .idle rfl fun _ => Command.not_edits nofun nofun noWrite (if_neg counts)

/-- A command does to a chassis what it says. -/
theorem step_effect (command : Command) :
    Effect chassis now command (chassis.step now command) := by
  cases command with
  | call call => exact perform_effect call
  | learn key port =>
      have outcome : chassis.outcome now (.learn key port) =
          chassis.reported _ fun result => result := rfl
      refine .reported outcome rfl error_ne_ok fun done accepted => ?_
      obtain ⟨_, _, rest⟩ := bind_eq_ok_iff.mp done
      exact .onSwitch (fun _ => accepted) (fun learned => .learn rfl learned) rest
  | age => exact .age rfl
  | administer message => exact administer_effect message

end Chassis

/-! ## What becomes of a switch -/

/-- A command changes the switch of the object that it edits. -/
theorem Change.switchId_eq {now : UInt64} {command : Command} {switch next : Switch}
    {id : ObjectId} {key : ObjectKey} (change : Change now command switch id next)
    (edits : command.Edits key) : key.switchId = id := by
  cases change with
  | remove named => exact absurd edits (Command.not_edits_of_removed? named)
  | refresh named => exact absurd edits (Command.not_edits_of_readKey? named)
  | flush named =>
      subst named
      exact absurd edits (Command.not_edits nofun nofun rfl rfl)
  | write named => rw [edits.eq_of_written? named]
  | count named => rw [edits.eq_of_counted? named]
  | addEntry named =>
      subst named
      cases edits with
      | addEntry => rfl
      | write other | count other => cases other
  | learn named =>
      subst named
      cases edits with
      | learn => rfl
      | write other | count other => cases other

namespace Chassis

variable {chassis : Chassis} {now : UInt64} {command : Command}

/-- What becomes of the switch at an index in a step: what it was, and what was done to it. -/
inductive Became (chassis : Chassis) (now : UInt64) (command : Command) (index : UInt8)
    (next : Switch) : Prop where
  | same (before : chassis.switches.get? index = some next)
      (idle : ∀ {key}, command.Edits key → key.switchId.switchIndex = index →
        ¬ chassis.Accepts now command)
  | changed {id : ObjectId} {switch : Switch}
      (before : chassis.switches.get? index = some switch) (own : id.switchIndex = index)
      (accepted : command.readKey? = none → chassis.Accepts now command)
      (change : Change now command switch id next)
  | grown {type : ObjectType} {owner id : ObjectId} {attrs : List Attribute}
      {stored : Attributes} {switch equipped : Switch}
      (before : chassis.switches.get? index = some switch)
      (named : command = .call (.create type owner attrs))
      (equips : switch.equip type (.ofList attrs) = .ok (stored, equipped))
      (inserted : equipped.insert (.object id) stored = .ok next)
  | built {owner : ObjectId} {attrs : List Attribute} {ids : IdAllocator}
      (absent : chassis.switches.get? index = none)
      (named : command = .call (.create .switch owner attrs))
      (built : (chassis.bootstrap index attrs).run = (.ok next, ids))
  | aged {switch : Switch} (named : command = .age)
      (before : chassis.switches.get? index = some switch) (same : next = (switch.age now).2)

/-- A command that edits nothing leaves a switch as it is, if it was registered before. -/
theorem Became.untouched {index : UInt8} {next : Switch}
    (before : chassis.switches.get? index = some next) (idle : ∀ key, ¬ command.Edits key) :
    Became chassis now command index next :=
  .same before fun edits => absurd edits (idle _)

theorem Ledger.became {log : List ObjectId} (ledger : Ledger log chassis) {index : UInt8}
    {switch : Switch}
    (registered : (chassis.step now command).switches.get? index = some switch) :
    Became chassis now command index switch := by
  have effect := @step_effect chassis now command
  generalize chassis.step now command = next at registered effect
  cases effect with
  | none same idle =>
      rw [same] at registered
      exact .same registered fun edits _ => idle edits
  | change found accepted change =>
      rw [get?_put] at registered
      split at registered
      · next own =>
          cases registered
          rw [own]
          exact .changed (Registry.find_eq_ok_iff.mp found).2 rfl accepted change
      · next other =>
          refine .same registered fun edits own => absurd ?_ other
          rw [← own, change.switchId_eq edits]
  | createObject named passed counted found equips drawn inserted =>
      have put : (chassis.put _ _).switches.get? index = some switch := registered
      rw [get?_put] at put
      split at put
      · next own =>
          cases put
          rw [own]
          exact .grown (Registry.find_eq_ok_iff.mp found).2 named equips inserted
      · subst named
        exact .untouched put fun _ => Command.not_edits nofun nofun rfl rfl
  | createSwitch named passed taken built =>
      dsimp only at registered
      rw [OrderedMap.get?_insert] at registered
      split at registered
      · next own =>
          cases registered
          subst own
          exact .built (ledger.get?_of_allocate taken) named built
      · subst named
        exact .untouched registered fun _ => Command.not_edits nofun nofun rfl rfl
  | removeSwitch named found =>
      dsimp only at registered
      rw [OrderedMap.get?_erase] at registered
      split at registered
      · cases registered
      · subst named
        exact .untouched registered fun _ => Command.not_edits nofun nofun rfl rfl
  | age named =>
      unfold age at registered
      rw [OrderedMap.get?_mapValues] at registered
      obtain ⟨before, there, rfl⟩ := Option.map_eq_some_iff.mp registered
      exact .aged named there rfl

/-! ## Objects along a step -/

variable {key : ObjectKey}

/-- The attributes of the object with a key on the switch at an index. -/
def objectAt? (chassis : Chassis) (index : UInt8) (key : ObjectKey) : Option Attributes :=
  (chassis.switches.get? index).bind fun switch => switch.object? key

/-- A step puts an object where there was none. -/
def Creates (index : UInt8) (key : ObjectKey) (chassis : Chassis) (now : UInt64)
    (command : Command) : Prop :=
  chassis.objectAt? index key = none ∧
    ∃ attrs, (chassis.step now command).objectAt? index key = some attrs

theorem objectAt?_eq_some_iff {index : UInt8} {attrs : Attributes} :
    chassis.objectAt? index key = some attrs ↔
      ∃ switch, chassis.switches.get? index = some switch ∧ switch.object? key = some attrs :=
  Option.bind_eq_some_iff

theorem objectAt?_of_get? {index : UInt8} {switch : Switch}
    (registered : chassis.switches.get? index = some switch) :
    chassis.objectAt? index key = switch.object? key := by
  unfold objectAt?
  rw [registered]
  rfl

end Chassis

end SwitchAbstraction
